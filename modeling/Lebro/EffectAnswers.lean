import Lebro.EffectRuns

set_option autoImplicit false

namespace Lebro.EffectAnswers

open EffectProgram EffectRuns

variable {S:Sig} {α β σ:Type} (h:(o:S.Op) → σ → Option (S.Reply o × σ))

def asked : Prog S α → σ → List (σ × S.Op)
 | .ret _, _ => []
 | .ask o k, s => (s, o) ::
   match h o s with
   | none => []
   | some (r, u) => asked (k r) u

variable {h} {o:S.Op} {p:Prog S α} {f:α → Prog S β} {a:α} {s u:σ}

variable {k:S.Reply o → Prog S α} {r:S.Reply o}

lemma answer_ask (ho:h o s=some (r,u)) : (Prog.ask o k).answer h s=(k r).answer h u := by
 simp only [Prog.answer,ho]
lemma asked_ask (ho : h o s=some (r,u)) :
  asked h (Prog.ask o k) s=(s,o) :: asked h (k r) u := by
 simp only [asked,ho]

lemma answer_ask_some {v} (hp:(Prog.ask o k).answer h s=some (a,v)) :
  ∃ r u,h o s=some (r,u) ∧ (k r).answer h u=some (a,v) := by
 cases ho : h o s with
 | none => simp [Prog.answer,ho] at hp
 | some x => exact ⟨x.1,x.2,rfl,by rwa [answer_ask ho] at hp⟩

lemma answer_bind (hp:p.answer h s=some (a,u)) : (p >>= f).answer h s=(f a).answer h u := by
 induction p generalizing s with
 | ret b =>
  cases hp
  rfl
 | ask o k ih =>
  obtain ⟨r,v,ho,hk⟩:=answer_ask_some hp
  exact (answer_ask ho).trans (ih r hk)

lemma answer_perform {f:S.Reply o → Prog S β} (ho:h o s=some (r,u)) :
  (Prog.perform o >>= f).answer h s=(f r).answer h u :=
 answer_ask ho

lemma answer_bind_some {v b} (hp:(p >>= f).answer h s=some (b,v)) :
  ∃ a u,p.answer h s=some (a,u) ∧ (f a).answer h u=some (b,v) := by
 induction p generalizing s with
 | ret a => exact ⟨a,s,rfl,hp⟩
 | ask o k ih =>
  obtain ⟨r,w,ho,hk⟩:=answer_ask_some hp
  obtain ⟨a,u,ha,hf⟩:=ih r hk
  exact ⟨a,u,(answer_ask ho).trans ha,hf⟩

lemma asked_bind (hp:p.answer h s=some (a,u)) :
  asked h (p >>= f) s=asked h p s++asked h (f a) u := by
 induction p generalizing s with
 | ret b =>
  cases hp
  rfl
 | ask o k ih =>
  obtain ⟨r,v,ho,hk⟩:=answer_ask_some hp
  have htail:asked h (Prog.ask o k >>= f) s=(s,o) :: asked h (k r >>= f) v := asked_ask ho
  rw [htail,ih r hk,asked_ask ho,List.cons_append]

lemma forall_asked_bind {P:σ × S.Op → Prop} (hp:p.answer h s=some (a,u)) :
  (∀ x ∈ asked h (p >>= f) s,P x) ↔ (∀ x ∈ asked h p s,P x) ∧ ∀ x ∈ asked h (f a) u,P x := by
 rw [asked_bind hp,List.forall_mem_append]

lemma asked_of_asks {P} (hp:Asks P p) (s:σ) : ∀ x ∈ asked h p s,P x.2 := by
 induction p generalizing s with
 | ret a => exact nofun
 | ask o k ih =>
  intro x hx
  rw [asked] at hx
  rcases List.mem_cons.mp hx with rfl | hx
  · exact hp.1
  · split at hx
    · cases hx
    · exact ih _ (hp.2 _ () trivial) _ x hx

lemma answer_of_returns {P} (hp:Returns p P) (ha:p.answer h s=some (a,u)) : P a := by
 induction p generalizing s with
 | ret b =>
  cases ha
  exact hp
 | ask o k ih =>
  obtain ⟨r,v,-,hk⟩:=answer_ask_some ha
  exact ih r (hp.2 r () trivial) hk

end Lebro.EffectAnswers
