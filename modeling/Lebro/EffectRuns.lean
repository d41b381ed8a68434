import Lebro.EffectProgram

set_option autoImplicit false

namespace Lebro.EffectRuns

open EffectProgram

variable {S:Sig} {α β σ:Type} {P:S.Op → Prop} {p:Prog S α}

def Runs (M : Monitor S σ) : Prog S α → σ → α → σ → Prop
 | .ret b, s, a, u => a = b ∧ u = s
 | .ask o k, s, a, u => ∃ r v, M.step s o r v ∧ Runs M (k r) v a u

@[simp] lemma runs_ret {M:Monitor S σ} {a b:α} {s u} :
  Runs M (.ret b) s a u ↔ a=b ∧ u=s := Iff.rfl
@[simp] lemma runs_ask {M : Monitor S σ} {o : S.Op} {k : S.Reply o → Prog S α} {s u a} :
  Runs M (.ask o k) s a u ↔ ∃ r v,M.step s o r v ∧ Runs M (k r) v a u := Iff.rfl

lemma Runs.wp {M:Monitor S σ} {Q s u a} (h:Runs M p s a u) (hp:EffectProgram.wp M p Q s) :
  Q a u := by
 induction p generalizing s with
 | ret b =>
  obtain ⟨rfl,rfl⟩:=h
  exact hp
 | ask o k ih =>
  obtain ⟨r,v,hv,h⟩:=h
  exact ih r h (hp.2 r v hv)

def asking (P : S.Op → Prop) : Monitor S Unit where
 demand _ o := P o
 step _ _ _ _ := True

/-- Every operation that the program may ask for has the property, whatever the replies. -/
def Asks (P : S.Op → Prop) (p : Prog S α) : Prop := EffectProgram.wp (asking P) p (fun _ _ => True) ()

lemma asks_ret {a:α} : Asks P (Prog.ret a : Prog S α) := trivial
lemma asks_ask {o : S.Op} {k : S.Reply o → Prog S α} (ho : P o) (hk : ∀ r,Asks P (k r)) :
  Asks P (.ask o k) := ⟨ho,fun r _ _=>hk r⟩
lemma asks_perform {o : S.Op} {f : S.Reply o → Prog S α} (ho : P o) (hf : ∀ r,Asks P (f r)) :
  Asks P (Prog.perform o >>= f) := asks_ask ho hf
lemma asks_op {o : S.Op} (ho : P o) : Asks P (Prog.perform o) := ⟨ho,fun _ _ _=>trivial⟩
lemma asks_bind {f : α → Prog S β} (hp : Asks P p) (hf : ∀ a,Asks P (f a)) : Asks P (p >>= f) :=
 wp_seq hp fun a _ _=>hf a

lemma asks_ite {c:Prop} [Decidable c] {q} (hp:Asks P p) (hq:Asks P q) :
  Asks P (if c then p else q) := by
 split
 · exact hp
 · exact hq

lemma Asks.mono {Q} (h:Asks P p) (hPQ:∀ o,P o → Q o) : Asks Q p := by
 induction p with
 | ret a => trivial
 | ask o k ih => exact asks_ask (hPQ o h.1) fun r=>ih r (h.2 r () trivial)

lemma Asks.of_trace {q es} (hp:Asks P p) (h:Trace p es q) : ∀ e ∈ es,P e.1 := by
 have hfollows:(asking P).Follows () es () := by
  clear h hp
  induction es with
  | nil => exact .nil ()
  | cons e es ih => exact .cons trivial ih
 intro e he
 obtain ⟨_,hdemand⟩:=h.demands hfollows hp e he
 exact hdemand

def Always (P : Prog S α → Prop) : Prog S α → Prop
 | .ret a => P (.ret a)
 | .ask o k => P (.ask o k) ∧ ∀ r, Always P (k r)

lemma always_bind {P:Prog S α → Prop} {Q:Prog S β → Prop} {f} (hp:Always P p)
  (hask:∀ (o:S.Op) (k:S.Reply o → Prog S α),P (.ask o k) → Q (.ask o k >>= f))
  (hf:∀ a,Always Q (f a)) : Always Q (p >>= f) := by
 induction p with
 | ret a => exact hf a
 | ask o k ih => exact ⟨hask o k hp.1,fun r=>ih r (hp.2 r)⟩

lemma Always.self {P} (h:Always P p) : P p := by
 cases p with
 | ret a => exact h
 | ask o k => exact h.1

lemma Always.of_trace {P q es} (hp:Always P p) (h:Trace p es q) : P q := by
 induction h with
 | refl _ => exact hp.self
 | next _ ih => exact ih (hp.2 _)

lemma Asks.wp {M} (hp:Asks P p) (A:σ → Prop)
  (hM:∀ s o,P o → A s → M.demand s o ∧ ∀ r u,M.step s o r u → A u) {s} (hs:A s) :
  EffectProgram.wp M p (fun _ u=>A u) s := by
 induction p generalizing s with
 | ret a => exact hs
 | ask o k ih =>
  obtain ⟨hdemand,hstep⟩:=hM s o hp.1 hs
  exact ⟨hdemand,fun r u hu=>ih r (hp.2 r () trivial) (hstep r u hu)⟩

end Lebro.EffectRuns
