import Mathlib.Data.List.DropRight
import Mathlib.Data.List.Lex
import Mathlib.Data.String.Basic

set_option autoImplicit false

namespace Lebro.TextOrder

open List

section

variable {α:Type} [LinearOrder α]

variable {a b:List α}

lemma append_lt_append_iff (hlength:a.length=b.length) (c d) :
  a++c < b++d ↔ a < b ∨ a=b ∧ c < d := by
 induction a generalizing b with
 | nil =>
  obtain rfl := length_eq_zero_iff.mp hlength.symm
  simp
 | cons x xs ih =>
  cases b with
  | nil => cases hlength
  | cons y ys =>
   rw [cons_append,cons_append,cons_lt_cons_iff,cons_lt_cons_iff,
    ih (Nat.succ.inj hlength),List.cons.injEq]
   tauto

lemma append_lt_append_of_not_isPrefix (hab:¬ a <+: b) (hba:¬ b <+: a) (c d) :
  a++c < b++d ↔ a < b := by
 induction a generalizing b with
 | nil => exact absurd b.nil_prefix hab
 | cons x xs ih =>
  cases b with
  | nil => exact absurd nil_prefix hba
  | cons y ys =>
   rw [cons_append,cons_append,cons_lt_cons_iff,cons_lt_cons_iff]
   by_cases hxy : x=y
   · subst hxy
     rw [ih (fun h=>hab ((prefix_cons_inj x).mpr h))
      (fun h=>hba ((prefix_cons_inj x).mpr h))]
   · simp [hxy]

lemma sealed_lt_of_isPrefix {z} (hb:∀ x ∈ b,x < z) (hab:a <+: b) (hne:a ≠ b) :
  b ++ [z] < a ++ [z] := by
 obtain ⟨c,rfl⟩:=hab
 cases c with
 | nil => exact absurd (append_nil a).symm hne
 | cons x xs =>
  rw [append_assoc]
  refine append_left_lt (cons_lt_cons_iff.mpr (.inl ?_))
  exact hb x (mem_append_right a mem_cons_self)

def trim (zero : α) (l : List α) : List α := l.rdropWhile (· = zero)

lemma trim_append (zero:α) (l) :
  trim zero l++List.replicate (l.length - (trim zero l).length) zero=l := by
 have hsplit:=rdropWhile_append_rtakeWhile (p := (· = zero)) (l := l)
 have hzeros:l.rtakeWhile (· = zero) =
   List.replicate (l.length - (trim zero l).length) zero := by
  refine eq_replicate_iff.mpr ⟨?_,?_⟩
  · have hlength:=congrArg List.length hsplit
    rw [length_append] at hlength
    unfold trim
    omega
  · intro x hx
    have hzero:=mem_rtakeWhile_imp hx
    exact of_decide_eq_true hzero
 rw [← hzeros]
 exact hsplit

variable {zero:α}

lemma trim_injective (hlength:a.length=b.length) (h:trim zero a=trim zero b) : a=b := by
 rw [← trim_append zero a,← trim_append zero b,h,hlength]

lemma replicate_lt {x l} (hl:∀ y ∈ l,zero ≤ y) (hx:x ∈ l) (hzero:x ≠ zero) :
  List.replicate l.length zero < l := by
 induction l with
 | nil => cases hx
 | cons y ys ih =>
  obtain ⟨hy,hys⟩:=forall_mem_cons.mp hl
  rw [length_cons,replicate_succ,cons_lt_cons_iff]
  rcases hy.lt_or_eq with hlt | rfl
  · exact .inl hlt
  · refine .inr ⟨rfl,ih hys ?_⟩
    exact (mem_cons.mp hx).resolve_left hzero

lemma lt_of_trim_isPrefix (hlength:a.length=b.length) (hb:∀ y ∈ b,zero ≤ y)
  (h:trim zero a <+: trim zero b) (hne:trim zero a ≠ trim zero b) : a < b := by
 obtain ⟨c,hc⟩:=h
 have hcne:c ≠ []:=by
  rintro rfl
  exact hne ((append_nil _).symm.trans hc)
 have hbne:trim zero b ≠ []:=by
  rw [← hc]
  exact append_ne_nil_of_right_ne_nil _ hcne
 have hlast:c.getLast hcne ≠ zero:=by
  have hnot:=rdropWhile_last_not (· = zero) b hbne
  have heq:c.getLast hcne=(trim zero b).getLast hbne:=by
   simp only [← hc,getLast_append_of_ne_nil _ hcne]
  rw [heq]
  exact fun hzero=>hnot (decide_eq_true hzero)
 have htail:trim zero a++(c++List.replicate (b.length - (trim zero b).length) zero)=b:=by
  rw [← append_assoc,hc]
  exact trim_append zero b
 rw [← trim_append zero a]
 conv_rhs => rw [← htail]
 apply append_left_lt
 have hcut:a.length - (trim zero a).length =
   (c++List.replicate (b.length - (trim zero b).length) zero).length := by
  have htotal:=congrArg List.length htail
  rw [length_append] at htotal
  omega
 rw [hcut]
 refine replicate_lt ?_ (mem_append_left _ (getLast_mem hcne)) hlast
 intro y hy
 apply hb y
 rw [← htail]
 exact mem_append_right _ hy

lemma lt_iff_trim (hab:¬ trim zero a <+: trim zero b) (hba:¬ trim zero b <+: trim zero a) :
  a < b ↔ trim zero a < trim zero b := by
 have h:=append_lt_append_of_not_isPrefix hab hba
  (List.replicate (a.length - (trim zero a).length) zero)
  (List.replicate (b.length - (trim zero b).length) zero)
 rwa [trim_append,trim_append] at h

end

def digit (d : Nat) : Char := Char.ofNat (48 + d)

lemma digit_lt_iff {d e} (hd:d < 10) (he:e < 10) : digit d < digit e ↔ d < e := by
 have h:∀ d < 10,∀ e < 10,digit d < digit e ↔ d < e:=by decide
 exact h d hd e he
lemma digit_inj {d e} (hd : d < 10) (he : e < 10) : digit d=digit e ↔ d=e := by
 have h:∀ d < 10,∀ e < 10,digit d=digit e ↔ d=e:=by decide
 exact h d hd e he
lemma digit_bounds {d} (hd : d < 10) : '0' ≤ digit d ∧ digit d ≤ '9' := by
 have h:∀ d < 10,'0' ≤ digit d ∧ digit d ≤ '9':=by decide
 exact h d hd

def pad : Nat → Nat → List Char
 | 0, _ => []
 | w + 1, n => digit (n / 10 ^ w % 10) :: pad w n

@[simp] lemma length_pad (w n:Nat) : (pad w n).length=w := by
 induction w with
 | zero => rfl
 | succ w ih => rw [pad,length_cons,ih]

variable {n:Nat}

lemma mem_pad {w c} (h:c ∈ pad w n) : '0' ≤ c ∧ c ≤ '9' := by
 induction w with
 | zero => cases h
 | succ w ih =>
  rcases mem_cons.mp h with rfl | h
  · exact digit_bounds (Nat.mod_lt _ (Nat.succ_pos 9))
  · exact ih h

lemma lex_lt_iff {p a b r s:Nat} (hr:r < p) (hs:s < p) :
  r+p * a < s+p * b ↔ a < b ∨ a=b ∧ r < s := by
 have hstep:∀ {c d : Nat},c < d → p * c+p ≤ p * d:=fun hcd=>by
  rw [← Nat.mul_succ]
  exact Nat.mul_le_mul_left p hcd
 rcases Nat.lt_trichotomy a b with hlt | rfl | hgt
 · have := hstep hlt
   omega
 · omega
 · have := hstep hgt
   omega

lemma pad_lt_iff_mod (w m n:Nat) : pad w m < pad w n ↔ m % 10 ^ w < n % 10 ^ w := by
 induction w with
 | zero => simp [pad,Nat.mod_one]
 | succ w ih =>
  have hm:=Nat.mod_lt (m / 10 ^ w) (Nat.succ_pos 9)
  have hn:=Nat.mod_lt (n / 10 ^ w) (Nat.succ_pos 9)
  have hpos:0 < 10 ^ w:=Nat.pow_pos (Nat.succ_pos 9)
  rw [pad,pad,cons_lt_cons_iff,digit_lt_iff hm hn,digit_inj hm hn,ih,
   Nat.mod_pow_succ,Nat.mod_pow_succ,lex_lt_iff (Nat.mod_lt m hpos) (Nat.mod_lt n hpos)]

lemma pad_lt_iff {w m} (hm:m < 10 ^ w) (hn:n < 10 ^ w) : pad w m < pad w n ↔ m < n := by
 rw [pad_lt_iff_mod,Nat.mod_eq_of_lt hm,Nat.mod_eq_of_lt hn]

lemma pad_inj {w m} (hm:m < 10 ^ w) (hn:n < 10 ^ w) : pad w m=pad w n ↔ m=n := by
 refine ⟨fun h=>?_,fun h=>congrArg (pad w) h⟩
 have hmn:=(pad_lt_iff hm hn).not.mp (h ▸ lt_irrefl _)
 have hnm:=(pad_lt_iff hn hm).not.mp (h ▸ lt_irrefl _)
 omega

def field (mark : Char) (n : Nat) : List Char := mark :: pad 2 n

@[simp] lemma length_field (mark:Char) (n:Nat) : (field mark n).length=3 := by
 rw [field,length_cons,length_pad]

variable {mark:Char}

lemma field_lt_iff {m} (hm:m < 100) (hn:n < 100) : field mark m < field mark n ↔ m < n := by
 rw [field,field,cons_lt_cons_iff,pad_lt_iff (w := 2) hm hn]
 simp

lemma field_append_lt_iff {m} (hm:m < 100) (hn:n < 100) (a b) :
  field mark m++a < field mark n++b ↔ m < n ∨ m=n ∧ a < b := by
 rw [append_lt_append_iff (by rw [length_field,length_field]),field_lt_iff hm hn,field,field,
  List.cons.injEq,pad_inj (w := 2) hm hn]
 simp

def readDigits : Nat → List Char → Option (Nat × List Char)
 | 0, cs => some (0, cs)
 | _ + 1, [] => none
 | w + 1, c :: cs =>
  if c.isDigit then (readDigits w cs).map fun read => (10 ^ w * (c.toNat - 48) + read.1, read.2)
  else none

lemma readDigits_pad_mod (w n:Nat) (rest) :
  readDigits w (pad w n++rest)=some (n % 10 ^ w,rest) := by
 have hdigit:∀ d < 10,(digit d).isDigit=true ∧ (digit d).toNat - 48=d:=by decide
 induction w with
 | zero => simp [readDigits,pad,Nat.mod_one]
 | succ w ih =>
  obtain ⟨his,hvalue⟩:=hdigit _ (Nat.mod_lt (n / 10 ^ w) (Nat.succ_pos 9))
  rw [pad,cons_append,readDigits,if_pos his,ih,hvalue,Nat.mod_pow_succ,Nat.add_comm]
  rfl

lemma readDigits_pad {w} (hn:n < 10 ^ w) (rest) :
  readDigits w (pad w n++rest)=some (n,rest) := by
 rw [readDigits_pad_mod,Nat.mod_eq_of_lt hn]

def readField (mark : Char) : List Char → Option (Nat × List Char)
 | [] => none
 | c :: cs => if c = mark then readDigits 2 cs else none

lemma readField_field (hn:n < 100) (rest) :
  readField mark (field mark n++rest)=some (n,rest) := by
 rw [field,cons_append,readField,if_pos rfl]
 exact readDigits_pad hn rest

end Lebro.TextOrder
