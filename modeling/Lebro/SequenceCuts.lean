import Mathlib.Data.List.Basic

set_option autoImplicit false

namespace Lebro.SequenceCuts

variable {α ι : Type}

/-- The outcomes of the items of a plan, cut after the first one that does not go on. -/
inductive Cut (item : α → ι) (goesOn : α → Prop) : List ι → List α → Prop where
 | finished : Cut item goesOn [] []
 | stopped (a : α) (plan : List ι) (h : ¬ goesOn a) : Cut item goesOn (item a :: plan) [a]
 | next {a : α} {plan : List ι} {outcomes : List α} (h : goesOn a)
   (tail : Cut item goesOn plan outcomes) : Cut item goesOn (item a :: plan) (a :: outcomes)

variable {item : α → ι} {goesOn : α → Prop} {plan : List ι} {outcomes : List α}

lemma Cut.append {before} (hbefore : ∀ a ∈ before,goesOn a) (h : Cut item goesOn plan outcomes) :
  Cut item goesOn (before.map item++plan) (before++outcomes) := by
 induction before with
 | nil => exact h
 | cons a before ih =>
  obtain ⟨ha,hbefore⟩ := List.forall_mem_cons.mp hbefore
  exact .next ha (ih hbefore)

lemma Cut.order (h : Cut item goesOn plan outcomes) : outcomes.map item <+: plan := by
 induction h with
 | finished => exact List.prefix_refl []
 | stopped a plan _ => exact ⟨plan,rfl⟩
 | next _ _ ih => exact (List.prefix_cons_inj _).mpr ih

lemma Cut.follows_iff (h : Cut item goesOn plan outcomes) {i a} (hi : outcomes[i]? = some a) :
  i+1 < outcomes.length ↔ goesOn a ∧ i+1 < plan.length := by
 induction h generalizing i with
 | finished => cases hi
 | stopped b plan hb =>
  cases i with
  | zero =>
   cases hi
   simp [hb]
  | succ i => cases hi
 | @next b plan outcomes hb tail ih =>
  cases i with
  | zero =>
   cases hi
   have hlength:=tail.order.length_le
   cases tail <;> simp_all
  | succ i =>
   simp only [List.length_cons,Nat.add_lt_add_iff_right]
   exact ih hi

end Lebro.SequenceCuts
