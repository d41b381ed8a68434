import Mathlib.Data.List.Basic
import Mathlib.Order.Basic

set_option autoImplicit false

/-! A program asks its environment for operations and continues with the replies. Monitors carry a
ghost state along; `wp` is the precondition under which every monitored execution meets its demands
and ends in the postcondition. -/
namespace Lebro.EffectProgram

/-- The operations a program may ask for, with the type of the reply to each. -/
structure Sig where
 Op : Type
 Reply : Op → Type

inductive Prog (S : Sig) (α : Type) where
 | ret (value : α)
 | ask (o : S.Op) (next : S.Reply o → Prog S α)

variable {S:Sig} {α β γ σ:Type}

namespace Prog

def bind : Prog S α → (α → Prog S β) → Prog S β
 | .ret a, f => f a
 | .ask o k, f => .ask o fun r => (k r).bind f

instance : Monad (Prog S) where
 pure := .ret
 bind := Prog.bind

def perform (o : S.Op) : Prog S (S.Reply o) := .ask o .ret

@[simp] lemma pure_eq (a) : (pure a:Prog S α) = .ret a := rfl
@[simp] lemma ret_bind (a) (f : α → Prog S β) : (Prog.ret a >>= f)=f a := rfl
@[simp] lemma ask_bind (o) (k : S.Reply o → Prog S α) (f : α → Prog S β) :
  (Prog.ask o k >>= f) = .ask o fun r=>k r >>= f := rfl
@[simp] lemma perform_bind (o) (f : S.Reply o → Prog S β) : (perform o >>= f) = .ask o f := rfl

lemma bind_ret (p:Prog S α) : (p >>= Prog.ret)=p := by
 induction p with
 | ret a => rfl
 | ask o k ih => exact congrArg (Prog.ask o) (funext ih)

lemma bind_assoc (p) (f:α → Prog S β) (g:β → Prog S γ) :
  (p >>= f >>= g)=p >>= fun a=>f a >>= g := by
 induction p with
 | ret a => rfl
 | ask o k ih => exact congrArg (Prog.ask o) (funext ih)

instance : LawfulMonad (Prog S) := LawfulMonad.mk' (Prog S)
 (fun p => bind_ret p) (fun _ _ => rfl) (fun p f g => bind_assoc p f g)

def lift {T : Sig} (op : S.Op → T.Op) (reply : (o : S.Op) → T.Reply (op o) → S.Reply o) :
  Prog S α → Prog T α
 | .ret a => .ret a
 | .ask o k => .ask (op o) fun r => (k (reply o r)).lift op reply

/-- At most `n` rounds of a loop body, which either goes on with a new state or ends the loop. -/
def iterate {τ : Type} (body : τ → Prog S (τ ⊕ β)) (exhausted : Prog S β) : ℕ → τ → Prog S β
 | 0, _ => exhausted
 | n + 1, t => body t >>= fun
   | .inl t => iterate body exhausted n t
   | .inr b => .ret b

def run (h : (o : S.Op) → σ → S.Reply o × σ) : Prog S α → σ → α × σ
 | .ret a, s => (a, s)
 | .ask o k, s => (k (h o s).1).run h (h o s).2

section

variable (h:(o:S.Op) → σ → S.Reply o × σ)

include h

@[simp] lemma run_ret (a:α) (s) : (Prog.ret a).run h s=(a,s) := rfl
@[simp] lemma run_ask (o) (k : S.Reply o → Prog S α) (s) :
  (Prog.ask o k).run h s=(k (h o s).1).run h (h o s).2 := rfl

lemma run_bind (p) (f:α → Prog S β) (s) :
  (p >>= f).run h s=(f (p.run h s).1).run h (p.run h s).2 := by
 induction p generalizing s with
 | ret a => rfl
 | ask o k ih => exact ih _ _

end

def answer (h : (o : S.Op) → σ → Option (S.Reply o × σ)) : Prog S α → σ → Option (α × σ)
 | .ret a, s => some (a, s)
 | .ask o k, s =>
  match h o s with
  | some (r, u) => (k r).answer h u
  | none => none

def answered (h : (o : S.Op) → σ → Option (S.Reply o × σ)) :
  Prog S α → σ → List ((o : S.Op) × S.Reply o)
 | .ret _, _ => []
 | .ask o k, s =>
  match h o s with
  | some (r, u) => ⟨o, r⟩ :: (k r).answered h u
  | none => []

end Prog

/-- A monitor demands conditions on operations and says how its state follows each reply. -/
structure Monitor (S : Sig) (σ : Type) where
 demand : σ → S.Op → Prop
 step : σ → (o : S.Op) → S.Reply o → σ → Prop

abbrev Event (S : Sig) := (o : S.Op) × S.Reply o

/-- The events a program may produce, with the program left after them. -/
inductive Trace : Prog S α → List (Event S) → Prog S α → Prop where
 | refl (p : Prog S α) : Trace p [] p
 | next {o : S.Op} {k : S.Reply o → Prog S α} {r : S.Reply o} {es : List (Event S)}
   {q : Prog S α} (tail : Trace (k r) es q) : Trace (.ask o k) (⟨o, r⟩ :: es) q

variable {M:Monitor S σ} {s u:σ} {p q:Prog S α} {f:α → Prog S β} {a:α}
 {es fs:List (Event S)}

lemma Trace.append {u} (h:Trace p es q) (h':Trace q fs u) : Trace p (es++fs) u := by
 induction h with
 | refl _ => exact h'
 | next _ ih => exact .next (ih h')

lemma Trace.unique {u} (h:Trace p es q) (h':Trace p es u) : q=u := by
 induction h with
 | refl _ =>
  cases h'
  rfl
 | next _ ih =>
  cases h' with
  | next tail => exact ih tail

lemma Trace.unique_split {es' fs' a'} (h:Trace p es (.ret a)) (h':Trace p es' (.ret a'))
  (heq:es++fs=es'++fs') : a=a' ∧ es=es' ∧ fs=fs' := by
 induction p generalizing es es' with
 | ret b =>
  cases h
  cases h'
  exact ⟨rfl,rfl,heq⟩
 | ask o k ih =>
  cases h with
  | next tail =>
   cases h' with
   | next tail' =>
    obtain ⟨hhead,htail⟩:=List.cons.inj heq
    cases hhead
    obtain ⟨rfl,rfl,rfl⟩:=ih _ tail tail' htail
    exact ⟨rfl,rfl,rfl⟩

lemma Trace.bind (h:Trace p es q) (f:α → Prog S β) : Trace (p >>= f) es (q >>= f) := by
 induction h with
 | refl _ => exact .refl _
 | next _ ih => exact .next ih

lemma Trace.of_bind {b} (h:Trace (p >>= f) es (.ret b)) :
  ∃ fs gs a,es=fs++gs ∧ Trace p fs (.ret a) ∧ Trace (f a) gs (.ret b) := by
 induction p generalizing es with
 | ret a => exact ⟨[],es,a,rfl,.refl _,h⟩
 | ask o k ih =>
  cases h with
  | next tail =>
   obtain ⟨fs,gs,a,rfl,hp,hf⟩:=ih _ tail
   exact ⟨_ :: fs,gs,a,rfl,.next hp,hf⟩

lemma Trace.after {q} (hp:Trace p es (.ret a)) (h:Trace (p >>= f) (es++fs) q) :
  Trace (f a) fs q := by
 induction p generalizing es with
 | ret b =>
  cases hp
  exact h
 | ask o k ih =>
  cases hp with
  | next tail =>
   cases h with
   | next rest => exact ih _ tail rest

namespace Monitor

/-- The states a monitor passes while it follows a list of events. -/
inductive Follows (M : Monitor S σ) : σ → List (Event S) → σ → Prop where
 | nil (s : σ) : Follows M s [] s
 | cons {s u v : σ} {o : S.Op} {r : S.Reply o} {es : List (Event S)}
   (h : M.step s o r u) (tail : Follows M u es v) : Follows M s (⟨o, r⟩ :: es) v

lemma Follows.append {v} (h:M.Follows s es u) (h':M.Follows u fs v) :
  M.Follows s (es++fs) v := by
 induction h with
 | nil _ => exact h'
 | cons hs _ ih => exact .cons hs (ih h')

lemma Follows.split {v} (h:M.Follows s (es++fs) v) :
  ∃ u,M.Follows s es u ∧ M.Follows u fs v := by
 induction es generalizing s with
 | nil => exact ⟨s,.nil s,h⟩
 | cons e es ih =>
  cases h with
  | cons hs tail =>
   obtain ⟨u,hu,hv⟩:=ih tail
   exact ⟨u,.cons hs hu,hv⟩

/-- A monitor that only records: every reply is possible and updates the state. -/
def ghost (demand : σ → S.Op → Prop) (update : σ → (o : S.Op) → S.Reply o → σ) : Monitor S σ where
 demand := demand
 step s o r u := u = update s o r

lemma ghost_follows (demand:σ → S.Op → Prop) (update:σ → (o:S.Op) → S.Reply o → σ) (s es) :
  (ghost demand update).Follows s es (es.foldl (fun u e=>update u e.1 e.2) s) := by
 induction es generalizing s with
 | nil => exact .nil s
 | cons e es ih => exact .cons rfl (ih _)

def replies (P : (o : S.Op) → S.Reply o → Prop) : Monitor S Unit where
 demand _ _ := True
 step _ o r _ := P o r

variable {P:(o:S.Op) → S.Reply o → Prop}

lemma replies_follows (h:∀ e ∈ es,P e.1 e.2) : (replies P).Follows () es () := by
 induction es with
 | nil => exact .nil ()
 | cons e es ih =>
  exact .cons (h e List.mem_cons_self) (ih fun f hf=>h f (List.mem_cons_of_mem e hf))

lemma Follows.forall_mem (hM:∀ s o r u,M.step s o r u → P o r) (h:M.Follows s es u) :
  ∀ e ∈ es,P e.1 e.2 := by
 induction h with
 | nil _ => simp
 | cons hs _ ih =>
  intro e he
  rcases List.mem_cons.mp he with rfl | he
  · exact hM _ _ _ _ hs
  · exact ih e he

lemma Follows.mono {N:Monitor S σ} (hMN:∀ s o r u,M.step s o r u → N.step s o r u)
  (h:M.Follows s es u) : N.Follows s es u := by
 induction h with
 | nil s => exact .nil s
 | cons hs _ ih => exact .cons (hMN _ _ _ _ hs) ih

lemma Follows.invariant (I:List (Event S) → σ → Prop) (h:M.Follows s es u) (h0:I [] s)
  (hstep:∀ tr s o r u,I tr s → M.step s o r u → I (tr ++ [⟨o,r⟩]) u) : I es u := by
 suffices ∀ tr,I tr s → I (tr++es) u from this [] h0
 clear h0
 induction h with
 | nil _ =>
  intro tr htr
  simpa using htr
 | cons hs _ ih =>
  intro tr htr
  simpa using ih _ (hstep _ _ _ _ _ htr hs)

def handles (h : (o : S.Op) → σ → S.Reply o × σ) : Monitor S σ where
 demand _ _ := True
 step s o r u := (r, u) = h o s

lemma follows_answered {h:(o:S.Op) → σ → Option (S.Reply o × σ)}
  (hM:∀ o s r u,h o s=some (r,u) → M.step s o r u) (hp:p.answer h s=some (a,u)) :
  Trace p (p.answered h s) (.ret a) ∧ M.Follows s (p.answered h s) u := by
 induction p generalizing s with
 | ret b =>
  cases hp
  exact ⟨.refl _,.nil _⟩
 | ask o k ih =>
  rw [Prog.answer] at hp
  rw [Prog.answered]
  cases ho : h o s with
  | none => simp [ho] at hp
  | some ru =>
   rw [ho] at hp
   obtain ⟨htrace,hfollows⟩:=ih ru.1 hp
   exact ⟨.next htrace,.cons (hM o s ru.1 ru.2 ho) hfollows⟩

end Monitor

def wp (M : Monitor S σ) : Prog S α → (α → σ → Prop) → σ → Prop
 | .ret a, Q, s => Q a s
 | .ask o k, Q, s => M.demand s o ∧ ∀ r u, M.step s o r u → wp M (k r) Q u

@[simp] lemma wp_ret (a) (Q:α → σ → Prop) (s) : wp M (.ret a) Q s ↔ Q a s := Iff.rfl
@[simp] lemma wp_ask (o) (k : S.Reply o → Prog S α) (Q : α → σ → Prop) (s) :
  wp M (.ask o k) Q s ↔ M.demand s o ∧ ∀ r u,M.step s o r u → wp M (k r) Q u := Iff.rfl
lemma wp_perform (o) (f : S.Reply o → Prog S α) (Q : α → σ → Prop) (s) :
  wp M (Prog.perform o >>= f) Q s ↔ M.demand s o ∧ ∀ r u,M.step s o r u → wp M (f r) Q u := Iff.rfl

variable {Q:α → σ → Prop}

lemma wp_mono {R} (h:wp M p Q s) (hQR:∀ a u,Q a u → R a u) : wp M p R s := by
 induction p generalizing s with
 | ret a => exact hQR a s h
 | ask o k ih => exact ⟨h.1,fun r u hu=>ih r (h.2 r u hu)⟩

lemma wp_bind (p) (f:α → Prog S β) (Q:β → σ → Prop) (s) :
  wp M (p >>= f) Q s ↔ wp M p (fun a u=>wp M (f a) Q u) s := by
 induction p generalizing s with
 | ret a => exact Iff.rfl
 | ask o k ih =>
  refine and_congr_right fun _=>forall_congr' fun r=>forall_congr' fun u=>?_
  exact imp_congr_right fun _=>ih r u

lemma wp_seq {R Q} (hp:wp M p R s) (hf:∀ a u,R a u → wp M (f a) Q u) : wp M (p >>= f) Q s :=
 (wp_bind p f Q s).mpr (wp_mono hp hf)

/-- Every value that the program may return has the property, whatever the replies. -/
def Returns (p : Prog S α) (P : α → Prop) : Prop :=
 wp (Monitor.replies fun _ _ => True) p (fun a _ => P a) ()

lemma Returns.wp_and {P} (h:Returns p P) (hp:wp M p Q s) :
  wp M p (fun a u=>P a ∧ Q a u) s := by
 induction p generalizing s with
 | ret a => exact ⟨h,hp⟩
 | ask o k ih => exact ⟨hp.1,fun r u hu=>ih r (h.2 r () trivial) (hp.2 r u hu)⟩

lemma wp_run {h:(o:S.Op) → σ → S.Reply o × σ} (hp:wp (Monitor.handles h) p Q s) :
  Q (p.run h s).1 (p.run h s).2 := by
 induction p generalizing s with
 | ret a => exact hp
 | ask o k ih => exact ih _ (hp.2 _ _ rfl)

lemma wp_trivial (hM:∀ s o,M.demand s o) {p:Prog S α} {s} : wp M p (fun _ _=>True) s := by
 induction p generalizing s with
 | ret a => trivial
 | ask o k ih => exact ⟨hM s o,fun r _ _=>ih r⟩

lemma returns_bind {R P} (hp:Returns p R) (hf:∀ a,R a → Returns (f a) P) :
  Returns (p >>= f) P :=
 wp_seq hp fun a _ ha=>hf a ha
lemma returns_then {P} (hf : ∀ a,Returns (f a) P) : Returns (p >>= f) P :=
 wp_seq (wp_trivial (fun _ _=>trivial)) fun a _ _=>hf a

lemma wp_iterate {τ:Type} {body:τ → Prog S (τ ⊕ β)} {exhausted:Prog S β}
  (I:τ → σ → Prop) (μ:τ → ℕ) {Q:β → σ → Prop}
  (hbody:∀ t s,I t s → wp M (body t) (fun r u=>match r with
   | .inl t' => I t' u ∧ μ t' < μ t
   | .inr b => Q b u) s)
  (n:ℕ) (t:τ) (s:σ) (hI:I t s) (hn:μ t < n) :
  wp M (Prog.iterate body exhausted n t) Q s := by
 induction n generalizing t s with
 | zero => omega
 | succ n ih =>
  apply wp_seq (hbody t s hI)
  intro r u hr
  cases r with
  | inl t' => exact ih t' u hr.1 (by omega)
  | inr b => exact hr

lemma wp_rounds {τ:Type} {body:τ → Prog S (τ ⊕ β)} {exhausted:Prog S β}
  (I:τ → σ → Prop) {Q:β → σ → Prop}
  (hbody:∀ t s,I t s → wp M (body t) (fun r u=>match r with
   | .inl t' => I t' u
   | .inr b => Q b u) s)
  (hexhausted:∀ t s,I t s → wp M exhausted Q s) (n:ℕ) (t:τ) (s:σ) (hI:I t s) :
  wp M (Prog.iterate body exhausted n t) Q s := by
 induction n generalizing t s with
 | zero => exact hexhausted t s hI
 | succ n ih =>
  apply wp_seq (hbody t s hI)
  intro r u hr
  cases r with
  | inl t' => exact ih t' u hr
  | inr b => exact hr

lemma Trace.wp (h:Trace p es q) (hs:M.Follows s es u) (hp:wp M p Q s) :
  EffectProgram.wp M q Q u := by
 induction h generalizing s with
 | refl _ =>
  cases hs with
  | nil => exact hp
 | next _ ih =>
  cases hs with
  | cons h tail => exact ih tail (hp.2 _ _ h)

lemma Trace.demands (h:Trace p es q) (hs:M.Follows s es u) (hp:EffectProgram.wp M p Q s) :
  ∀ e ∈ es,∃ v,M.demand v e.1 := by
 induction h generalizing s with
 | refl _ => simp
 | next _ ih =>
  cases hs with
  | cons hstep tail =>
   intro e he
   rcases List.mem_cons.mp he with rfl | he
   · exact ⟨s,hp.1⟩
   · exact ih tail (hp.2 _ _ hstep) e he

/-- What every step keeps that meets its demand holds after every monitored trace. -/
lemma Trace.keeps (h:Trace p es q) (hs:M.Follows s es u) (hp:EffectProgram.wp M p Q s)
  (I:σ → Prop) (h0:I s) (hI:∀ s o r u,I s → M.demand s o → M.step s o r u → I u) : I u := by
 induction h generalizing s with
 | refl _ =>
  cases hs with
  | nil => exact h0
 | next _ ih =>
  cases hs with
  | cons hstep tail => exact ih tail (hp.2 _ _ hstep) (hI _ _ _ _ h0 hp.1 hstep)

/-- A recording monitor meets its demand at every event, in the state that the events before it
lead to. -/
lemma Trace.demand_at {demand update before after e} (h:Trace p es q)
  (hp:EffectProgram.wp (Monitor.ghost demand update) p Q s) (hes:es=before++e :: after) :
  demand (before.foldl (fun u e=>update u e.1 e.2) s) e.1 := by
 induction h generalizing s before with
 | refl _ => simp at hes
 | @next o k r es q tail ih =>
  cases before with
  | nil =>
   cases hes
   exact hp.1
  | cons f before =>
   cases hes
   exact ih (s := update s o r) (hp.2 r _ rfl) rfl

/-- Every operation of every run meets the demand, in the state recorded from the events before. -/
def Heeds (demand : σ → S.Op → Prop) (update : σ → (o : S.Op) → S.Reply o → σ) (s : σ)
  (p : Prog S α) : Prop :=
 ∀ es q before e after, Trace p es q → es = before ++ e :: after →
  demand (before.foldl (fun u e => update u e.1 e.2) s) e.1

lemma heeds_of_wp {demand update} (hp:wp (Monitor.ghost demand update) p Q s) :
  Heeds demand update s p :=
 fun _ _ _ _ _ h hes=>h.demand_at hp hes

end Lebro.EffectProgram
