import Lebro.EffectPool
import Mathlib.Logic.Function.Basic

set_option autoImplicit false

/-! Each program of a pool is in a phase, which says how the others may change the state between two
of its steps. -/
namespace Lebro.EffectTurns

open EffectProgram EffectRuns EffectPool

/-- The phases of programs: what may change between the steps of a program, and where a step of
its own takes it. -/
structure Turns (S : Sig) (σ τ : Type) where
 between : τ → σ → σ → Prop
 moves : τ → σ → (o : S.Op) → S.Reply o → σ → τ → Prop

variable {S:Sig} {α β σ τ:Type} {W:Monitor S σ} {T:Turns S σ τ}

/-- Every step of the program, made in a state that the last one it knows may have become, has a
phase to go to, and the values it returns have the property `Q` in their phase. -/
def turn (W : Monitor S σ) (T : Turns S σ τ) : Prog S α → (α → τ → σ → Prop) → τ → σ → Prop
 | .ret a, Q, t, s => Q a t s
 | .ask o k, Q, t, s =>
  ∀ m r u, T.between t s m → W.step m o r u → ∃ t', T.moves t m o r u t' ∧ turn W T (k r) Q t' u

section

variable {p:Prog S α} {f:α → Prog S β} {Q R:α → τ → σ → Prop} {t:τ} {s:σ}

lemma turn_mono (h:turn W T p Q t s) (hQR:∀ a t u,Q a t u → R a t u) : turn W T p R t s := by
 induction p generalizing t s with
 | ret a => exact hQR a t s h
 | ask o k ih =>
  intro m r u hm hu
  obtain ⟨t',ht',hk⟩:=h m r u hm hu
  exact ⟨t',ht',ih r hk⟩

variable {Q':β → τ → σ → Prop}

lemma turn_seq (hp:turn W T p R t s) (hf:∀ a t u,R a t u → turn W T (f a) Q' t u) :
  turn W T (p >>= f) Q' t s := by
 induction p generalizing t s with
 | ret a => exact hf a t s hp
 | ask o k ih =>
  intro m r u hm hu
  obtain ⟨t',ht',hk⟩:=hp m r u hm hu
  exact ⟨t',ht',ih r hk⟩

lemma turn_perform {o g}
  (h:∀ m r u,T.between t s m → W.step m o r u → ∃ t',T.moves t m o r u t' ∧
   turn W T (g r) Q' t' u) : turn W T (Prog.perform o >>= g) Q' t s :=
 h

lemma turn_and_returns {P} (hp:Returns p P) (h:turn W T p Q t s) :
  turn W T p (fun a t u=>P a ∧ Q a t u) t s := by
 induction p generalizing t s with
 | ret a => exact ⟨hp,h⟩
 | ask o k ih =>
  intro m r u hm hu
  obtain ⟨t',ht',hk⟩:=h m r u hm hu
  exact ⟨t',ht',ih r (hp.2 r () trivial) hk⟩

/-- A program that keeps to what its phase allows stays in it. -/
lemma turn_of_wp {G Q'} (hG:∀ m o r u,G m o r u → T.moves t m o r u t)
  (h:wp (relying W (T.between t) G) p Q' s) :
  turn W T p (fun a t' u=>t'=t ∧ Q' a u) t s := by
 induction p generalizing s with
 | ret a => exact ⟨rfl,h⟩
 | ask o k ih =>
  intro m r u hm hu
  exact ⟨t,hG m o r u (h.1 m r u hm hu),ih r (h.2 r u ⟨m,hm,hu⟩)⟩

lemma turn_of_asks {P} (hp:Asks P p) (A:τ → σ → Prop)
  (h:∀ t s m o r u,P o → A t s → T.between t s m → W.step m o r u → ∃ t',T.moves t m o r u t' ∧
   A t' u) (ht:A t s) : turn W T p (fun _ t u=>A t u) t s := by
 induction p generalizing t s with
 | ret a => exact ht
 | ask o k ih =>
  intro m r u hm hu
  obtain ⟨t',ht',hA⟩:=h t s m o r u hp.1 ht hm hu
  exact ⟨t',ht',ih r (hp.2 r () trivial) hA⟩

end

/-- An invariant of the phases, the state and the events so far, kept by every move. -/
structure Together (W : Monitor S σ) (T : Turns S σ τ)
  (I : List (PoolEvent S) → (ℕ → τ) → σ → Prop) : Prop where
 keeps : ∀ {es ph s i o r u t}, I es ph s → W.step s o r u → T.moves (ph i) s o r u t →
  I (es ++ [(i, ⟨o, r⟩)]) (Function.update ph i t) u
 knows : ∀ {es ph s i o r u t j v}, I es ph s → W.step s o r u → T.moves (ph i) s o r u t →
  j ≠ i → T.between (ph j) v s → T.between (ph j) v u
 begins : ∀ {es ph s i}, I es ph s → T.between (ph i) s s

def Seated (W : Monitor S σ) (T : Turns S σ τ) (ph : ℕ → τ) (s : σ) (ps : List (Prog S α)) : Prop :=
 ∀ i p, ps[i]? = some p → ∃ v, T.between (ph i) v s ∧ turn W T p (fun _ _ _ => True) (ph i) v

variable {I:List (PoolEvent S) → (ℕ → τ) → σ → Prop} {ph:ℕ → τ}

lemma Seated.step (hI:Together W T I) {s u} {ps:List (Prog S α)} {es i o k r}
  (h:Seated W T ph s ps) (hs:I es ph s) (hi:ps[i]? = some (.ask o k))
  (hstep:W.step s o r u) :
  ∃ t,T.moves (ph i) s o r u t ∧ I (es ++ [(i,⟨o,r⟩)]) (Function.update ph i t) u ∧
   Seated W T (Function.update ph i t) u (ps.set i (k r)) := by
 obtain ⟨v,hv,hturn⟩:=h i _ hi
 obtain ⟨t,ht,hrest⟩:=hturn s r u hv hstep
 have hnext:=hI.keeps hs hstep ht
 refine ⟨t,ht,hnext,?_⟩
 intro j p hp
 by_cases hij : j=i
 · subst hij
   rw [List.getElem?_set_self (List.getElem?_eq_some_iff.mp hi).1] at hp
   cases hp
   have hbegins:=hI.begins (i := j) hnext
   rw [Function.update_self] at hbegins ⊢
   exact ⟨u,hbegins,hrest⟩
 · rw [List.getElem?_set_ne (Ne.symm hij)] at hp
   obtain ⟨w,hw,hp⟩:=h j p hp
   rw [Function.update_of_ne hij]
   exact ⟨w,hI.knows hs hstep ht hij hw,hp⟩

lemma Seated.run (hI:Together W T I) {s u:σ} {ps qs:List (Prog S α)} {es}
  (h:PoolRun W s ps es u qs) (hps:Seated W T ph s ps) (h0:I [] ph s) :
  ∃ ph',I es ph' u ∧ Seated W T ph' u qs := by
 refine h.invariant (fun es u qs=>∃ ph',I es ph' u ∧ Seated W T ph' u qs) ⟨ph,h0,hps⟩ ?_
 rintro tr s ps i o k r u ⟨ph',hs,hseated⟩ hi hstep
 obtain ⟨t,-,hnext,hrest⟩:=hseated.step hI hs hi hstep
 exact ⟨_,hnext,hrest⟩

lemma Seated.at_step (hI:Together W T I) {s m u:σ} {ps rs qs:List (Prog S α)}
  {before after i o r} (hbefore:PoolRun W s ps before m rs)
  (hafter:PoolRun W m rs ((i,⟨o,r⟩) :: after) u qs) (hps:Seated W T ph s ps)
  (h0:I [] ph s) :
  ∃ ph' v t,I before ph' m ∧ W.step m o r v ∧ T.moves (ph' i) m o r v t := by
 obtain ⟨ph',hm,hseated⟩:=Seated.run hI hbefore hps h0
 cases hafter with
 | next hi hstep _ =>
  obtain ⟨t,ht,-,-⟩:=hseated.step hI hm hi hstep
  exact ⟨ph',_,t,hm,hstep,ht⟩

end Lebro.EffectTurns
