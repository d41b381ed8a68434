import Mathlib.Order.Basic
import Mathlib.Tactic.Linarith

set_option autoImplicit false

/-! Days are counted from the first of January of the year 1, and instants are nanoseconds since the
beginning of 1970. -/
namespace Lebro.CivilCalendar

def leap (y : Int) : Bool := y % 4 = 0 ∧ (y % 100 ≠ 0 ∨ y % 400 = 0)

def daysIn (y : Int) : Nat → Nat
 | 2 => 28 + (leap y).toNat
 | 4 | 6 | 9 | 11 => 30
 | _ => 31

def daysBeforeYear (y : Int) : Int := 365 * (y - 1) + (y - 1) / 4 - (y - 1) / 100 + (y - 1) / 400

def daysBeforeMonth (y : Int) : Nat → Nat
 | 0 | 1 => 0
 | m + 2 => daysBeforeMonth y (m + 1) + daysIn y (m + 1)

lemma toNat_leap (y) : ((leap y).toNat : Int)=y / 4 - y / 100+y / 400 -
   ((y - 1) / 4 - (y - 1) / 100+(y - 1) / 400) := by
 unfold leap
 by_cases h : y % 4=0 ∧ (y % 100 ≠ 0 ∨ y % 400=0)
 · rw [decide_eq_true h,Bool.toNat_true]
   omega
 · rw [decide_eq_false h,Bool.toNat_false]
   omega

lemma daysBeforeYear_succ (y) :
  daysBeforeYear (y+1)=daysBeforeYear y+365+(leap y).toNat := by
 rw [toNat_leap]
 unfold daysBeforeYear
 rw [Int.add_sub_cancel]
 omega

lemma daysBeforeMonth_thirteen (y) : daysBeforeMonth y 13=365+(leap y).toNat := by
 cases h : leap y <;> simp [daysBeforeMonth,daysIn,h]

structure Date where
 year : Int
 month : Nat
 day : Nat
 month_pos : 1 ≤ month
 month_le : month ≤ 12
 day_pos : 1 ≤ day
 day_le : day ≤ daysIn year month
deriving DecidableEq

@[ext] lemma Date.ext {d e:Date} (hyear:d.year=e.year) (hmonth:d.month=e.month)
  (hday:d.day=e.day) : d=e := by
 cases d
 cases e
 cases hyear
 cases hmonth
 cases hday
 rfl

lemma Date.day_le_thirtyOne (d:Date) : d.day ≤ 31 := by
 have hle:=d.day_le
 have hleap:=Bool.toNat_le (leap d.year)
 unfold daysIn at hle
 split at hle <;> omega

def Date.number (d : Date) : Int :=
 daysBeforeYear d.year + daysBeforeMonth d.year d.month + (d.day - 1)

lemma daysBeforeMonth_mono (y) {m n} (hm:1 ≤ m) (h:m < n) :
  daysBeforeMonth y m+daysIn y m ≤ daysBeforeMonth y n := by
 induction n with
 | zero => omega
 | succ n ih =>
  obtain ⟨k,rfl⟩ : ∃ k,n=k+1 := ⟨n - 1,by omega⟩
  change _ ≤ daysBeforeMonth y (k+1)+daysIn y (k+1)
  rcases Nat.lt_or_ge m (k+1) with hlt | hge
  · have := ih hlt
    omega
  · obtain rfl : m=k+1 := by omega
    exact Nat.le_refl _

lemma daysBeforeYear_mono {y z} (h:y < z) :
  daysBeforeYear y+365+(leap y).toNat ≤ daysBeforeYear z := by
 rw [← daysBeforeYear_succ]
 unfold daysBeforeYear
 omega

lemma Date.number_bounds (d:Date) : daysBeforeYear d.year ≤ d.number ∧
   d.number < daysBeforeYear d.year+365+(leap d.year).toNat := by
 have hmonth:=daysBeforeMonth_mono d.year d.month_pos (Nat.lt_succ_of_le d.month_le)
 rw [daysBeforeMonth_thirteen] at hmonth
 have hpos:=d.day_pos
 have hle:=d.day_le
 unfold Date.number
 omega

def Date.before (d e : Date) : Prop :=
 d.year < e.year ∨ d.year = e.year ∧ (d.month < e.month ∨ d.month = e.month ∧ d.day < e.day)

lemma Date.number_lt {d e:Date} (h:d.before e) : d.number < e.number := by
 rcases h with hyear | ⟨hyear,hmonth | ⟨hmonth,hday⟩⟩
 · have hnext:=daysBeforeYear_mono hyear
   have hd:=d.number_bounds
   have he:=e.number_bounds
   omega
 · have hnext:=daysBeforeMonth_mono d.year d.month_pos hmonth
   have hd:=d.day_le
   have he:=e.day_pos
   unfold Date.number
   rw [← hyear]
   omega
 · unfold Date.number
   rw [hyear,hmonth]
   omega

lemma Date.before_trichotomy (d e:Date) : d.before e ∨ d=e ∨ e.before d := by
 by_cases hyear : d.year=e.year
 · by_cases hmonth : d.month=e.month
   · by_cases hday : d.day=e.day
     · exact .inr (.inl (Date.ext hyear hmonth hday))
     · unfold Date.before
       omega
   · unfold Date.before
     omega
 · unfold Date.before
   omega

lemma Date.number_lt_iff (d e:Date) : d.number < e.number ↔ d.before e := by
 refine ⟨fun h=>?_,Date.number_lt⟩
 rcases d.before_trichotomy e with hlt | rfl | hgt
 · exact hlt
 · exact absurd h (Int.lt_irrefl _)
 · exact absurd (Date.number_lt hgt) (Int.not_lt.mpr (Int.le_of_lt h))

/-- Centuries and years of a cycle have a longer last one, on whose last day the quotient is one
too many. -/
def yearOf (n : Int) : Int :=
 let cycle := n % 146097
 let century := min (cycle / 36524) 3
 let day := cycle - 36524 * century
 let quad := day / 1461
 let year := min ((day - 1461 * quad) / 365) 3
 400 * (n / 146097) + 100 * century + 4 * quad + year + 1

lemma daysBeforeYear_split {cycle century quad year} (hcentury:0 ≤ century ∧ century ≤ 3)
  (hquad:0 ≤ quad ∧ quad ≤ 24) (hyear:0 ≤ year ∧ year ≤ 3) :
  daysBeforeYear (400 * cycle+100 * century+4 * quad+year+1) =
   146097 * cycle+36524 * century+1461 * quad+365 * year := by
 unfold daysBeforeYear
 have hquads:(400 * cycle+100 * century+4 * quad+year+1 - 1) / 4 =
   100 * cycle+25 * century+quad := by omega
 have hcenturies:(400 * cycle+100 * century+4 * quad+year+1 - 1) / 100 =
   4 * cycle+century := by omega
 have hcycles:(400 * cycle+100 * century+4 * quad+year+1 - 1) / 400=cycle := by omega
 rw [hquads,hcenturies,hcycles]
 omega

lemma leap_split {cycle century quad year} (hcentury:0 ≤ century ∧ century ≤ 3)
  (hquad:0 ≤ quad ∧ quad ≤ 24) (hyear:0 ≤ year ∧ year ≤ 3) :
  leap (400 * cycle+100 * century+4 * quad+year+1)=true ↔
   year=3 ∧ (quad < 24 ∨ century=3) := by
 unfold leap
 rw [decide_eq_true_iff]
 omega

lemma yearOf_bounds (n) : daysBeforeYear (yearOf n) ≤ n ∧ n < daysBeforeYear (yearOf n+1) := by
 rw [daysBeforeYear_succ]
 unfold yearOf
 dsimp only
 have hcentury:0 ≤ min (n % 146097 / 36524) 3 ∧ min (n % 146097 / 36524) 3 ≤ 3 := by omega
 have hcycle:0 ≤ n % 146097 - 36524 * min (n % 146097 / 36524) 3 ∧
   (n % 146097 - 36524 * min (n % 146097 / 36524) 3 < 36524 ∨
    min (n % 146097 / 36524) 3=3 ∧
     n % 146097 - 36524 * min (n % 146097 / 36524) 3 < 36525) := by omega
 have hn:=Int.mul_ediv_add_emod n 146097
 generalize n / 146097=cycle at *
 generalize n % 146097=inCycle at *
 generalize min (inCycle / 36524) 3=century at *
 obtain ⟨day,hday⟩ : ∃ day,inCycle - 36524 * century=day := ⟨_,rfl⟩
 rw [hday] at hcycle ⊢
 have hquad:0 ≤ day / 1461 ∧ day / 1461 ≤ 24 := by omega
 have hinQuad:0 ≤ day - 1461 * (day / 1461) ∧ day - 1461 * (day / 1461) < 1461 := by omega
 generalize day / 1461=quad at *
 obtain ⟨inQuad,hsplit⟩ : ∃ inQuad,day - 1461 * quad=inQuad := ⟨_,rfl⟩
 rw [hsplit] at hinQuad ⊢
 have hyear:0 ≤ min (inQuad / 365) 3 ∧ min (inQuad / 365) 3 ≤ 3 := by omega
 have hlast:0 ≤ inQuad - 365 * min (inQuad / 365) 3 ∧
   (inQuad - 365 * min (inQuad / 365) 3 < 365 ∨
    min (inQuad / 365) 3=3 ∧ inQuad - 365 * min (inQuad / 365) 3 < 366) := by omega
 generalize min (inQuad / 365) 3=year at *
 have hleap:leap (400 * cycle+100 * century+4 * quad+year+1)=true ↔ _ :=
  leap_split hcentury hquad hyear
 rw [daysBeforeYear_split hcentury hquad hyear]
 cases h : leap (400 * cycle+100 * century+4 * quad+year+1) with
 | true =>
  rw [Bool.toNat_true]
  omega
 | false =>
  rw [h] at hleap
  rw [Bool.toNat_false]
  have hnot:¬ (year=3 ∧ (quad < 24 ∨ century=3)) := fun hshort=>by cases hleap.mpr hshort
  omega

def lastBegun (y : Int) (yday : Nat) : Nat → Nat
 | 0 => 0
 | m + 1 => if daysBeforeMonth y (m + 1) ≤ yday then m + 1 else lastBegun y yday m

lemma lastBegun_spec {y} {yday m} (hm:yday < daysBeforeMonth y (m+2)) :
  1 ≤ lastBegun y yday (m+1) ∧ lastBegun y yday (m+1) ≤ m+1 ∧
   daysBeforeMonth y (lastBegun y yday (m+1)) ≤ yday ∧
   yday < daysBeforeMonth y (lastBegun y yday (m+1)+1) := by
 induction m with
 | zero =>
  have hbegun:daysBeforeMonth y (0+1) ≤ yday := Nat.zero_le yday
  rw [lastBegun,if_pos hbegun]
  exact ⟨Nat.le_refl 1,Nat.le_refl 1,Nat.zero_le yday,hm⟩
 | succ m ih =>
  rw [lastBegun]
  split
  · rename_i hbegun
    exact ⟨Nat.le_add_left 1 (m+1),Nat.le_refl _,hbegun,hm⟩
  · rename_i hafter
    obtain ⟨hpos,hle,hbounds⟩:=ih (Nat.lt_of_not_le hafter)
    exact ⟨hpos,Nat.le_succ_of_le hle,hbounds⟩

def dayOfYear (n : Int) : Nat := (n - daysBeforeYear (yearOf n)).toNat

def monthOf (n : Int) : Nat := lastBegun (yearOf n) (dayOfYear n) 12

lemma dayOfYear_lt (n) : dayOfYear n < daysBeforeMonth (yearOf n) 13 := by
 have hbounds:=yearOf_bounds n
 rw [daysBeforeYear_succ] at hbounds
 rw [daysBeforeMonth_thirteen]
 unfold dayOfYear
 omega

lemma monthOf_spec (n) :
  1 ≤ monthOf n ∧ monthOf n ≤ 12 ∧ daysBeforeMonth (yearOf n) (monthOf n) ≤ dayOfYear n ∧
   dayOfYear n < daysBeforeMonth (yearOf n) (monthOf n)+daysIn (yearOf n) (monthOf n) := by
 obtain ⟨hpos,hle,hfirst,hlast⟩:=lastBegun_spec (dayOfYear_lt n)
 refine ⟨hpos,hle,hfirst,?_⟩
 obtain ⟨m,hm⟩ : ∃ m,monthOf n=m+1 := ⟨monthOf n - 1,(Nat.sub_add_cancel hpos).symm⟩
 change dayOfYear n < daysBeforeMonth (yearOf n) (monthOf n+1) at hlast
 rw [hm] at hlast ⊢
 exact hlast

def Date.ofNumber (n : Int) : Date where
 year := yearOf n
 month := monthOf n
 day := dayOfYear n - daysBeforeMonth (yearOf n) (monthOf n) + 1
 month_pos := (monthOf_spec n).1
 month_le := (monthOf_spec n).2.1
 day_pos := Nat.le_add_left 1 _
 day_le := by
  have hspec := monthOf_spec n
  omega

@[simp] lemma Date.number_ofNumber (n) : (Date.ofNumber n).number=n := by
 have hyear:=yearOf_bounds n
 have hmonth:=monthOf_spec n
 unfold Date.number Date.ofNumber
 dsimp only
 have hday:(dayOfYear n : Int)=n - daysBeforeYear (yearOf n) := by
  unfold dayOfYear
  omega
 omega

abbrev nanosPerSecond : Int := 1000000000

abbrev nanosPerMinute : Int := 60 * nanosPerSecond

abbrev nanosPerHour : Int := 60 * nanosPerMinute

abbrev nanosPerDay : Int := 24 * nanosPerHour

/-- The number of the day of an instant; 1970 begins with day 719162. -/
def dayNumber (t : Int) : Int := t / nanosPerDay + 719162

def date (t : Int) : Date := Date.ofNumber (dayNumber t)

def hour (t : Int) : Nat := (t / nanosPerHour % 24).toNat

def minute (t : Int) : Nat := (t / nanosPerMinute % 60).toNat

def second (t : Int) : Nat := (t / nanosPerSecond % 60).toNat

def nanosecond (t : Int) : Nat := (t % nanosPerSecond).toNat

lemma hour_lt (t) : hour t < 24 := by
 unfold hour
 omega
lemma minute_lt (t) : minute t < 60 := by
 unfold minute
 omega
lemma second_lt (t) : second t < 60 := by
 unfold second
 omega
lemma nanosecond_lt (t) : nanosecond t < 1000000000 := by
 unfold nanosecond nanosPerSecond
 omega

lemma seconds_eq {t} : t / nanosPerSecond =
   86400 * (dayNumber t - 719162)+3600 * hour t+60 * minute t+second t := by
 unfold dayNumber hour minute second nanosPerDay nanosPerHour nanosPerMinute nanosPerSecond
 omega

lemma instant_eq (t) :
  t=nanosPerDay * (dayNumber t - 719162)+nanosPerHour * hour t+nanosPerMinute * minute t +
   nanosPerSecond * second t+nanosecond t := by
 unfold dayNumber hour minute second nanosecond nanosPerDay nanosPerHour nanosPerMinute
  nanosPerSecond
 omega

lemma instant_lt_iff (t u) : t < u ↔ t / nanosPerSecond < u / nanosPerSecond ∨
   t / nanosPerSecond=u / nanosPerSecond ∧ nanosecond t < nanosecond u := by
 unfold nanosecond nanosPerSecond
 omega

lemma seconds_lt_iff (t u) : t / nanosPerSecond < u / nanosPerSecond ↔
   (date t).before (date u) ∨ date t=date u ∧
    (hour t < hour u ∨ hour t=hour u ∧
     (minute t < minute u ∨ minute t=minute u ∧ second t < second u)) := by
 have hbefore:(date t).before (date u) ↔ dayNumber t < dayNumber u := by
  rw [← Date.number_lt_iff,date,date,Date.number_ofNumber,Date.number_ofNumber]
 have hsame:date t=date u ↔ dayNumber t=dayNumber u := by
  refine ⟨fun h=>?_,fun h=>congrArg Date.ofNumber h⟩
  rw [← Date.number_ofNumber (dayNumber t),← Date.number_ofNumber (dayNumber u)]
  exact congrArg Date.number h
 rw [hbefore,hsame,seconds_eq,seconds_eq]
 have ht:=hour_lt t
 have hu:=hour_lt u
 have ht':=minute_lt t
 have hu':=minute_lt u
 have ht'':=second_lt t
 have hu'':=second_lt u
 omega

end Lebro.CivilCalendar
