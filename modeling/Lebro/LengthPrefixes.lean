import Mathlib.Data.List.TakeWhile
import Mathlib.Data.Nat.Digits.Lemmas

set_option autoImplicit false

namespace Lebro.LengthPrefixes

open List

abbrev Bytes := List UInt8

def separator : UInt8 := 58

def byteOf (c : Char) : UInt8 := UInt8.ofNat c.toNat

def ascii (s : String) : Bytes := s.toList.map byteOf

def decimal (n : ℕ) : Bytes := (Nat.toDigits 10 n).map byteOf

def framed (field : Bytes) : Bytes := decimal field.length ++ separator :: field

def lengthPrefixed (fields : List Bytes) : Bytes := fields.flatMap framed

lemma toNat_digit {c n} (hc:c ∈ Nat.toDigits 10 n) : 48 ≤ c.toNat ∧ c.toNat ≤ 57 := by
 have hdigit:c.isDigit=true := Nat.isDigit_of_mem_toDigits (by decide) (by decide) hc
 simp only [Char.isDigit,Bool.and_eq_true,decide_eq_true_eq] at hdigit
 exact ⟨hdigit.1,hdigit.2⟩

lemma byteOf_toNat {c n} (hc:c ∈ Nat.toDigits 10 n) : (byteOf c).toNat=c.toNat := by
 have hle:=(toNat_digit hc).2
 rw [byteOf,UInt8.toNat_ofNat']
 exact Nat.mod_eq_of_lt (by omega)

lemma separator_notMem_decimal (n:ℕ) : separator ∉ decimal n := by
 intro hmem
 obtain ⟨c,hc,heq⟩:=mem_map.mp hmem
 have hle:=(toNat_digit hc).2
 have hbyte:=byteOf_toNat hc
 rw [heq] at hbyte
 have hseparator:separator.toNat=58 := rfl
 omega

lemma decimal_injective : Function.Injective decimal := by
 intro n m h
 have hchars:∀ k,(decimal k).map (fun b=>Char.ofNat b.toNat)=Nat.toDigits 10 k := by
  intro k
  rw [decimal,map_map]
  refine (map_congr_left ?_).trans (map_id _)
  intro c hc
  rw [Function.comp_apply,byteOf_toNat hc,Char.ofNat_toNat]
  rfl
 have hdigits:Nat.toDigits 10 n=Nat.toDigits 10 m := by rw [← hchars n,← hchars m,h]
 have hnumber:=congrArg (fun digits=>Nat.ofDigitChars 10 digits 0) hdigits
 simpa using hnumber

lemma takeWhile_decimal (n:ℕ) (rest:Bytes) :
  (decimal n++separator :: rest).takeWhile (· != separator)=decimal n := by
 rw [takeWhile_append_of_pos]
 · simp
 · intro b hb
   simp only [bne_iff_ne,ne_eq]
   rintro rfl
   exact separator_notMem_decimal n hb

lemma framed_append_inj {a b xs ys} (h:framed a++xs=framed b++ys) : a=b ∧ xs=ys := by
 simp only [framed,append_assoc,cons_append] at h
 have hdecimal:decimal a.length=decimal b.length := by
  rw [← takeWhile_decimal a.length (a++xs),h,takeWhile_decimal]
 have hlength:=decimal_injective hdecimal
 rw [hdecimal] at h
 obtain ⟨-,hrest⟩:=List.cons.inj (append_cancel_left h)
 exact append_inj hrest hlength

lemma framed_ne_nil (field:Bytes) : framed field ≠ [] := by simp [framed]

lemma lengthPrefixed_injective : Function.Injective lengthPrefixed := by
 intro fields
 induction fields with
 | nil =>
  intro others h
  cases others with
  | nil => rfl
  | cons field others =>
   have hnil:framed field++lengthPrefixed others=[] := h.symm
   exact absurd (append_eq_nil_iff.mp hnil).1 (framed_ne_nil field)
 | cons field fields ih =>
  intro others h
  cases others with
  | nil =>
   have hnil:framed field++lengthPrefixed fields=[] := h
   exact absurd (append_eq_nil_iff.mp hnil).1 (framed_ne_nil field)
  | cons other others =>
   have hcons:framed field++lengthPrefixed fields =
     framed other++lengthPrefixed others := h
   obtain ⟨rfl,hrest⟩:=framed_append_inj hcons
   rw [ih hrest]

def hexDigit (n : ℕ) : UInt8 := UInt8.ofNat (if n < 10 then 48 + n else 87 + n)

def hexByte (b : UInt8) : Bytes := [hexDigit (b.toNat / 16), hexDigit (b.toNat % 16)]

def hex (bytes : Bytes) : Bytes := bytes.flatMap hexByte

lemma hexDigit_toNat {n} (h:n < 16) : (hexDigit n).toNat=if n < 10 then 48+n else 87+n := by
 rw [hexDigit,UInt8.toNat_ofNat']
 refine Nat.mod_eq_of_lt ?_
 split <;> omega

lemma hexDigit_inj {n m} (hn:n < 16) (hm:m < 16) (h:hexDigit n=hexDigit m) : n=m := by
 have hnat:=congrArg UInt8.toNat h
 rw [hexDigit_toNat hn,hexDigit_toNat hm] at hnat
 split at hnat <;> split at hnat <;> omega

lemma hexByte_inj {a b} (h:hexByte a=hexByte b) : a=b := by
 have hlt (c : UInt8) : c.toNat < 256 := c.toNat_lt
 simp only [hexByte,List.cons.injEq,and_true] at h
 have hhigh:=hexDigit_inj (by have := hlt a; omega) (by have := hlt b; omega) h.1
 have hlow:=hexDigit_inj (by omega) (by omega) h.2
 refine UInt8.toNat_inj.mp ?_
 omega

lemma hex_injective : Function.Injective hex := by
 intro bytes
 induction bytes with
 | nil =>
  intro others h
  cases others with
  | nil => rfl
  | cons b others => cases h
 | cons a bytes ih =>
  intro others h
  cases others with
  | nil => cases h
  | cons b others =>
   have happend:hexByte a++hex bytes=hexByte b++hex others := h
   obtain ⟨hbyte,hrest⟩:=append_inj happend rfl
   rw [hexByte_inj hbyte,ih hrest]

end Lebro.LengthPrefixes
