import Mathlib.Data.List.Basic

set_option autoImplicit false

namespace Lebro.LatestEntry

variable {α β : Type} (pick : α → Option β) (key : α → ℕ)

def later (best : Option (ℕ × β)) (x : α) : Option (ℕ × β) :=
 match pick x with
 | none => best
 | some b =>
  match best with
  | none => some (key x, b)
  | some (k, c) => if k < key x then some (key x, b) else some (k, c)

variable {pick key}

lemma later_cases (pick : α → Option β) (key : α → ℕ) (best : Option (ℕ × β)) (x : α) :
  (pick x=none ∧ later pick key best x=best) ∨
   (∃ b,pick x=some b ∧ later pick key best x=some (key x,b) ∧ ∀ c ∈ best,c.1 < key x) ∨
   ∃ c,best=some c ∧ later pick key best x=some c ∧ key x ≤ c.1 := by
 unfold later
 cases hb : pick x with
 | none => exact .inl ⟨rfl,rfl⟩
 | some b =>
  cases best with
  | none => exact .inr (.inl ⟨b,rfl,rfl,fun c hc=>by cases hc⟩)
  | some c =>
   by_cases hlt : c.1 < key x
   · exact .inr (.inl ⟨b,rfl,if_pos hlt,fun d hd=>by cases hd; exact hlt⟩)
   · exact .inr (.inr ⟨c,rfl,if_neg hlt,by omega⟩)

lemma foldl_later_eq_some {n b} {xs : List α} {best}
  (h : xs.foldl (later pick key) best=some (n,b)) :
  (best=some (n,b) ∨ ∃ x ∈ xs,pick x=some b ∧ key x=n) ∧
   (∀ c ∈ best,c.1 ≤ n) ∧ ∀ x ∈ xs,(pick x).isSome=true → key x ≤ n := by
 induction xs generalizing best with
 | nil =>
  cases h
  exact ⟨.inl rfl,fun c hc=>by cases hc; exact Nat.le_refl _,fun x hx=>by cases hx⟩
 | cons x xs ih =>
  obtain ⟨hfound,hbest,hxs⟩ := ih h
  rw [List.forall_mem_cons]
  rcases later_cases pick key best x with
   ⟨hnone,hkeep⟩ | ⟨c,hc,hnew,hlt⟩ | ⟨c,rfl,hkeep,hle⟩
  · rw [hkeep] at hfound hbest
    have hx : (pick x).isSome=true → key x ≤ n := fun hsome=>by simp [hnone] at hsome
    refine ⟨hfound.imp id ?_,hbest,hx,hxs⟩
    rintro ⟨y,hy,hpick⟩
    exact ⟨y,List.mem_cons_of_mem x hy,hpick⟩
  · have hle : key x ≤ n := hbest _ hnew
    refine ⟨.inr ?_,fun d hd=>Nat.le_of_lt (Nat.lt_of_lt_of_le (hlt d hd) hle),
     fun _=>hle,hxs⟩
    rcases hfound with hfound | ⟨y,hy,hpick⟩
    · rw [hnew] at hfound
      cases hfound
      exact ⟨x,List.mem_cons_self,hc,rfl⟩
    · exact ⟨y,List.mem_cons_of_mem x hy,hpick⟩
  · rw [hkeep] at hfound hbest
    have hn : c.1 ≤ n := hbest c rfl
    refine ⟨hfound.imp id ?_,hbest,fun _=>Nat.le_trans hle hn,hxs⟩
    rintro ⟨y,hy,hpick⟩
    exact ⟨y,List.mem_cons_of_mem x hy,hpick⟩

lemma foldl_later_isSome {xs : List α} {best : Option (ℕ × β)}
  (h : best.isSome=true ∨ ∃ x ∈ xs,(pick x).isSome=true) :
  ∃ b,xs.foldl (later pick key) best=some b := by
 induction xs generalizing best with
 | nil =>
  rcases h with h | ⟨x,hx,_⟩
  · exact Option.isSome_iff_exists.mp h
  · cases hx
 | cons x xs ih =>
  apply ih
  rcases later_cases pick key best x with ⟨hnone,hkeep⟩ | ⟨c,_,hnew,_⟩ | ⟨c,_,hkeep,_⟩
  · rw [hkeep]
    refine h.imp id ?_
    rintro ⟨y,hy,hpick⟩
    rcases List.mem_cons.mp hy with rfl | hy
    · simp [hnone] at hpick
    · exact ⟨y,hy,hpick⟩
  · exact .inl (by rw [hnew]; rfl)
  · exact .inl (by rw [hkeep]; rfl)

end Lebro.LatestEntry
