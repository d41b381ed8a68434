import Lebro.CivilCalendar

set_option autoImplicit false

namespace Lebro.CronSearch

open CivilCalendar

/-- A compiled schedule. Sets of values are 64-bit masks, and an interval of zero marks a calendar
expression. -/
structure CronSchedule where
 spec : String := ""
 every : Int := 0
 minute : BitVec 64 := 0
 hour : BitVec 64 := 0
 dom : BitVec 64 := 0
 month : BitVec 64 := 0
 dow : BitVec 64 := 0
 domStar : Bool := false
 dowStar : Bool := false
deriving DecidableEq

def has (mask : BitVec 64) (n : Nat) : Bool := mask &&& (1#64 <<< n) ≠ 0

/-- The first of January of the year 1 is a Monday. -/
def weekday (t : Int) : Nat := ((dayNumber t + 1) % 7).toNat

def startOfDay (n : Int) : Int := nanosPerDay * (n - 719162)

section

variable (c:CronSchedule)

def dayMatches (t : Int) : Bool :=
 let domHit := has c.dom (date t).day
 let dowHit := has c.dow (weekday t)
 if c.domStar && c.dowStar then true
 else if c.domStar then dowHit
 else if c.dowStar then domHit
 else domHit || dowHit

def nextMonth (d : Date) : Int := daysBeforeYear d.year + daysBeforeMonth d.year (d.month + 1)

/-- Where a round of the loop goes on, unless it returns. -/
def advance (t : Int) : Option Int :=
 if !has c.month (date t).month then some (startOfDay (nextMonth (date t)))
 else if !dayMatches c t then some (startOfDay ((date t).number + 1))
 else if !has c.hour (hour t) then
  some (startOfDay (date t).number + nanosPerHour * hour t + nanosPerHour)
 else if !has c.minute (minute t) then some (t + nanosPerMinute)
 else none

def DaySatisfies (t : Int) : Prop :=
 if c.domStar ∨ c.dowStar then
  (c.domStar ∨ has c.dom (date t).day) ∧ (c.dowStar ∨ has c.dow (weekday t))
 else has c.dom (date t).day ∨ has c.dow (weekday t)

/-- The minute, hour, month and day of an instant are in the sets of the schedule. A restricted
day of the month and a restricted day of the week are alternatives. -/
def Satisfies (t : Int) : Prop :=
 has c.minute (minute t) ∧ has c.hour (hour t) ∧ has c.month (date t).month ∧ DaySatisfies c t

def WholeMinute (t : Int) : Prop := t % nanosPerMinute = 0

variable {c} {t m u:Int}

lemma number_date (t) : (date t).number=dayNumber t := Date.number_ofNumber _
lemma dayMatches_iff (c t) : dayMatches c t=true ↔ DaySatisfies c t := by
 unfold dayMatches DaySatisfies
 cases c.domStar <;> cases c.dowStar <;> simp
lemma startOfDay_le_iff (n t) : startOfDay n ≤ t ↔ n ≤ dayNumber t := by
 unfold startOfDay dayNumber nanosPerDay nanosPerHour nanosPerMinute nanosPerSecond
 omega
lemma dayNumber_mono (h : t ≤ m) : dayNumber t ≤ dayNumber m := by
 unfold dayNumber nanosPerDay nanosPerHour nanosPerMinute nanosPerSecond
 omega
lemma wholeMinute_startOfDay {n} : WholeMinute (startOfDay n) := by
 unfold WholeMinute startOfDay nanosPerDay nanosPerHour nanosPerMinute nanosPerSecond
 omega

lemma nextMonth_eq (d) :
  nextMonth d=daysBeforeYear d.year+daysBeforeMonth d.year d.month+daysIn d.year d.month := by
 obtain ⟨k,hk⟩ : ∃ k,d.month=k+1 := ⟨d.month - 1,by have := d.month_pos; omega⟩
 unfold nextMonth
 rw [hk,daysBeforeMonth]
 omega

lemma nextMonth_gt (d) : d.number < nextMonth d := by
 have hday:=d.day_le
 rw [nextMonth_eq]
 unfold Date.number
 omega

lemma month_eq {d e:Date} (hd:d.number ≤ e.number) (he:e.number < nextMonth d) :
  e.month=d.month := by
 have hnot:¬ e.before d := fun h=>Int.not_lt.mpr hd (Date.number_lt h)
 rw [nextMonth_eq] at he
 by_contra hne
 rcases Date.before_trichotomy d e with hlt | rfl | hgt
 · rcases hlt with hyear | ⟨hyear,hmonth | ⟨hmonth,-⟩⟩
   · have hend:=daysBeforeMonth_mono d.year d.month_pos (Nat.lt_succ_of_le d.month_le)
     rw [daysBeforeMonth_thirteen] at hend
     have hlater:=daysBeforeYear_mono hyear
     have hbounds:=e.number_bounds
     omega
   · have hlater:=daysBeforeMonth_mono d.year d.month_pos hmonth
     have hpos:=e.day_pos
     unfold Date.number at he
     rw [← hyear] at he
     omega
   · exact hne hmonth.symm
 · exact hne rfl
 · exact hnot hgt

lemma date_eq (h:dayNumber m=dayNumber t) : date m=date t := congrArg Date.ofNumber h
lemma daySatisfies_iff (h : dayNumber m=dayNumber t) : DaySatisfies c m ↔ DaySatisfies c t := by
 unfold DaySatisfies weekday
 rw [date_eq h,h]

lemma advance_spec (h:advance c t=some u) :
  t < u ∧ (WholeMinute t → WholeMinute u ∧ ∀ m,t ≤ m → m < u → ¬ Satisfies c m) := by
 unfold advance at h
 split at h
 · rename_i hmonth
   cases h
   have hlater:=nextMonth_gt (date t)
   have hle:=startOfDay_le_iff (nextMonth (date t)) t
   rw [number_date] at hlater
   refine ⟨by omega,fun _=>⟨wholeMinute_startOfDay,?_⟩⟩
   rintro m hm hbefore ⟨-,-,hsat,-⟩
   have hday:=startOfDay_le_iff (nextMonth (date t)) m
   have hsame:(date m).month=(date t).month := by
    refine month_eq ?_ ?_
    · rw [number_date,number_date]
      exact dayNumber_mono hm
    · rw [number_date]
      omega
   simp [← hsame,hsat] at hmonth
 · split at h
   · rename_i hday
     cases h
     have hle:=startOfDay_le_iff ((date t).number+1) t
     rw [number_date] at *
     refine ⟨by omega,fun _=>⟨wholeMinute_startOfDay,?_⟩⟩
     rintro m hm hbefore ⟨-,-,-,hsat⟩
     have hfirst:=startOfDay_le_iff (dayNumber t+1) m
     have hlater:=dayNumber_mono hm
     have hsame:dayNumber m=dayNumber t := by omega
     rw [daySatisfies_iff hsame,← dayMatches_iff] at hsat
     simp [hsat] at hday
   · have hinstant:=instant_eq t
     have hhours:=hour_lt t
     have hminutes:=minute_lt t
     have hseconds:=second_lt t
     have hnanos:=nanosecond_lt t
     split at h
     · rename_i hhour
       cases h
       rw [number_date]
       unfold WholeMinute startOfDay nanosPerDay nanosPerHour nanosPerMinute nanosPerSecond at *
       refine ⟨by omega,fun _=>⟨by omega,?_⟩⟩
       rintro m hm hbefore ⟨-,hsat,-⟩
       have hsame:hour m=hour t := by
        have hm:=instant_eq m
        have hhoursm:=hour_lt m
        have := minute_lt m
        have := second_lt m
        have := nanosecond_lt m
        unfold nanosPerDay nanosPerHour nanosPerMinute nanosPerSecond at *
        omega
       simp [← hsame,hsat] at hhour
     · split at h
       · rename_i hminute
         cases h
         unfold WholeMinute nanosPerMinute nanosPerSecond at *
         refine ⟨by omega,fun ht=>⟨by omega,?_⟩⟩
         rintro m hm hbefore ⟨hsat,-⟩
         have hsame:minute m=minute t := by
          unfold minute nanosPerMinute nanosPerSecond
          omega
         simp [← hsame,hsat] at hminute
       · cases h

lemma satisfies_of_advance (h:advance c t=none) : Satisfies c t := by
 unfold advance at h
 unfold Satisfies
 rw [← dayMatches_iff]
 split_ifs at h
 simp_all

variable (c) in
def search (limit t : Int) : Option Int :=
 if t < limit then
  match h : advance c t with
  | none => some t
  | some u => search limit u
 else none
termination_by (limit - t).toNat
decreasing_by
 have hlater := (advance_spec h).1
 omega

def FirstFrom (c : CronSchedule) (limit t : Int) : Option Int → Prop
 | some u => t ≤ u ∧ u < limit ∧ WholeMinute u ∧ Satisfies c u ∧
   ∀ m, t ≤ m → m < u → ¬ Satisfies c m
 | none => ∀ m, t ≤ m → m < limit → ¬ Satisfies c m

lemma search_first {limit} (ht:WholeMinute t) : FirstFrom c limit t (search c limit t) := by
 fun_induction search c limit t with
 | case1 t hlimit h =>
  exact ⟨Int.le_refl t,hlimit,ht,satisfies_of_advance h,fun m hm hlt=>by omega⟩
 | case2 t hlimit u h ih =>
  obtain ⟨hlater,hskips⟩:=advance_spec h
  obtain ⟨hu,hskips⟩:=hskips ht
  have hfirst:=ih hu
  cases hsearch : search c limit u with
  | some v =>
   rw [hsearch] at hfirst
   obtain ⟨hle,hv,hwhole,hsat,hnone⟩:=hfirst
   refine ⟨by omega,hv,hwhole,hsat,fun m hm hlt=>?_⟩
   rcases Int.lt_or_le m u with hmu | hmu
   · exact hskips m hm hmu
   · exact hnone m hmu hlt
  | none =>
   rw [hsearch] at hfirst
   intro m hm hlt
   rcases Int.lt_or_le m u with hmu | hmu
   · exact hskips m hm hmu
   · exact hfirst m hmu hlt
 | case3 t hlimit => exact fun m hm hlt=>by omega

end

def cronSearchLimit : Int := 4 * 366 * nanosPerDay

def nextMinute (after : Int) : Int := after / nanosPerMinute * nanosPerMinute + nanosPerMinute

def next (c : CronSchedule) (after : Int) : Option Int :=
 if 0 < c.every then some (after + c.every)
 else search c (nextMinute after + cronSearchLimit) (nextMinute after)

lemma nextMinute_le_iff {t m} (hm:WholeMinute m) : nextMinute t ≤ m ↔ t < m := by
 unfold WholeMinute nextMinute nanosPerMinute nanosPerSecond at *
 omega

section

variable {c:CronSchedule} (hc:c.every = 0) (t:Int)

include hc

lemma next_first : FirstFrom c (nextMinute t+cronSearchLimit) (nextMinute t) (next c t) := by
 rw [next,if_neg (by omega)]
 refine search_first ?_
 unfold WholeMinute nextMinute nanosPerMinute nanosPerSecond
 omega

lemma next_isSome_iff : (next c t).isSome=true ↔
  ∃ m,WholeMinute m ∧ t < m ∧ m < nextMinute t+cronSearchLimit ∧ Satisfies c m := by
 have hfirst:=next_first hc t
 cases hnext : next c t with
 | some u =>
  rw [hnext] at hfirst
  obtain ⟨hle,hlimit,hwhole,hsat,-⟩:=hfirst
  exact iff_of_true rfl ⟨u,hwhole,(nextMinute_le_iff hwhole).mp hle,hlimit,hsat⟩
 | none =>
  rw [hnext] at hfirst
  refine iff_of_false Bool.false_ne_true ?_
  rintro ⟨m,hwhole,hlater,hlimit,hsat⟩
  exact hfirst m ((nextMinute_le_iff hwhole).mpr hlater) hlimit hsat

end

instance (c : CronSchedule) (t : Int) : Decidable (Satisfies c t) := by
 unfold Satisfies DaySatisfies
 infer_instance

section

variable {c:CronSchedule} {t m y:Int} {h k:Nat}

/-- A minute of the day in which the schedule fires. -/
def Fires (c : CronSchedule) (h k : Nat) : Prop :=
 h < 24 ∧ k < 60 ∧ has c.hour h = true ∧ has c.minute k = true

def clock (n : Int) (h k : Nat) : Int := startOfDay n + nanosPerHour * h + nanosPerMinute * k

/-- The only date that matches is the 29th of February. -/
structure LeapDaysOnly (c : CronSchedule) : Prop where
 dom : c.domStar = false
 week : c.dowStar = false → ∀ w < 7, has c.dow w = false
 february : ∀ n, 1 ≤ n → n ≤ 12 → (has c.month n = true ↔ n = 2)
 day : ∀ n, 1 ≤ n → n ≤ 28 → has c.dom n = false
 twentyNinth : has c.dom 29 = true

/-- The number of the 29th of February of a leap year, and of the first of March of others. -/
def leapDayOf (y : Int) : Int := daysBeforeYear y + 59

/-- Around a century year that is no leap year, the leap day before it is over and the one after it
comes when the search has ended. -/
def Skipped (c : CronSchedule) (t : Int) : Prop :=
 ∃ y, y % 100 = 0 ∧ y % 400 ≠ 0 ∧ (∃ h k, Fires c h k) ∧ ∀ h k, Fires c h k →
  clock (leapDayOf (y - 4)) h k ≤ t ∧
   nextMinute t + cronSearchLimit ≤ clock (leapDayOf (y + 4)) h k

def Within (c : CronSchedule) (t : Int) : Prop :=
 ∃ m, WholeMinute m ∧ t < m ∧ m < nextMinute t + cronSearchLimit ∧ Satisfies c m

lemma clock_parts {n} (hf:Fires c h k) :
  dayNumber (clock n h k)=n ∧ hour (clock n h k)=h ∧ minute (clock n h k)=k := by
 obtain ⟨hh,hk,-⟩:=hf
 unfold dayNumber hour minute clock startOfDay nanosPerDay nanosPerHour nanosPerMinute
  nanosPerSecond
 omega

lemma wholeMinute_clock {n} : WholeMinute (clock n h k) := by
 unfold WholeMinute clock startOfDay nanosPerDay nanosPerHour nanosPerMinute nanosPerSecond
 omega

lemma date_clock (hf:Fires c h k) (d:Date) : date (clock d.number h k)=d := by
 rw [date,(clock_parts hf).1]
 have hnumber:=Date.number_ofNumber d.number
 rcases Date.before_trichotomy (Date.ofNumber d.number) d with hlt | heq | hgt
 · exact absurd (Date.number_lt hlt) (by omega)
 · exact heq
 · exact absurd (Date.number_lt hgt) (by omega)

lemma satisfies_clock (hf:Fires c h k) (d:Date) (hmonth:has c.month d.month=true)
  (hday:DaySatisfies c (clock d.number h k)) : Satisfies c (clock d.number h k) := by
 refine ⟨?_,?_,?_,hday⟩
 · rw [(clock_parts hf).2.2]
   exact hf.2.2.2
 · rw [(clock_parts hf).2.1]
   exact hf.2.2.1
 · rw [date_clock hf]
   exact hmonth

lemma fires_of_satisfies (hm:Satisfies c m) : Fires c (hour m) (minute m) :=
 ⟨hour_lt m,minute_lt m,hm.2.1,hm.1⟩

/-- A date of the year after `t` is well within the limit of the search. -/
lemma within_of_date (hf:Fires c h k) (d:Date) (hyear:d.year=(date t).year+1)
  (hmonth:has c.month d.month=true) (hday:DaySatisfies c (clock d.number h k)) :
  Within c t := by
 have hd:=d.number_bounds
 have ht:=(date t).number_bounds
 have hsucc:=daysBeforeYear_succ (date t).year
 have hsucc':=daysBeforeYear_succ ((date t).year+1)
 have hleap:=Bool.toNat_le (leap (date t).year)
 have hleap':=Bool.toNat_le (leap ((date t).year+1))
 rw [hyear] at hd
 rw [number_date] at ht
 obtain ⟨hh,hk,-⟩:=id hf
 refine ⟨clock d.number h k,wholeMinute_clock,?_,?_,satisfies_clock hf d hmonth hday⟩
 · have hle:=startOfDay_le_iff d.number t
   unfold clock startOfDay nanosPerDay nanosPerHour nanosPerMinute nanosPerSecond at *
   omega
 · unfold clock nextMinute cronSearchLimit
   unfold dayNumber startOfDay nanosPerDay nanosPerHour nanosPerMinute nanosPerSecond at *
   omega

lemma daySatisfies_of_dom (hstar:c.domStar=false) (h:has c.dom (date t).day=true) :
  DaySatisfies c t := by
 cases hstar' : c.dowStar <;> simp [DaySatisfies,hstar,hstar',h]

/-- Unless a day of the week counts, it is the day of the month, or any day. -/
lemma dom_of_daySatisfies (hdow:c.dowStar=false → ∀ w < 7,has c.dow w=false)
  (hday:DaySatisfies c t) : c.domStar=true ∧ c.dowStar=true ∨
   c.domStar=false ∧ has c.dom (date t).day=true := by
 have hweek:weekday t < 7 := by
  unfold weekday
  omega
 cases hstar : c.domStar <;> cases hstar' : c.dowStar <;>
  simp_all [DaySatisfies]

lemma twentyEight_le (y n) : 28 ≤ daysIn y n ∧ (n ≠ 2 → ∀ y',daysIn y' n=daysIn y n) := by
 unfold daysIn
 split <;> simp_all

/-- The only date that some year does not have. -/
lemma twentyNinth_of_lt (d:Date) (h:daysIn y d.month < d.day) : d.month=2 ∧ d.day=29 := by
 have hle:=d.day_le
 have hdays:=twentyEight_le y d.month
 have htwo:d.month=2 := by
  by_contra hne
  have := hdays.2 hne d.year
  omega
 have hleap:=Bool.toNat_le (leap d.year)
 rw [htwo] at hle hdays h
 change _ ≤ 28+(leap d.year).toNat at hle
 exact ⟨htwo,by omega⟩

lemma within_of_dom {n d} (hf:Fires c h k) (hstar:c.domStar=false) (hn:1 ≤ n ∧ n ≤ 12)
  (hd:1 ≤ d ∧ d ≤ daysIn ((date t).year+1) n) (hmonth:has c.month n=true)
  (hday:has c.dom d=true) : Within c t := by
 refine within_of_date hf ⟨_,n,d,hn.1,hn.2,hd.1,hd.2⟩ rfl hmonth ?_
 exact daySatisfies_of_dom hstar (by rwa [date_clock hf])

/-- One of the first seven days of a month is the day of the week asked for. -/
lemma within_of_dow {n w} (hf:Fires c h k) (hstar:c.dowStar=false) (hn:1 ≤ n ∧ n ≤ 12)
  (hw:w < 7) (hmonth:has c.month n=true) (hday:has c.dow w=true) : Within c t := by
 obtain ⟨d,hd,hweek⟩ : ∃ d,(1 ≤ d ∧ d ≤ 28) ∧ ((daysBeforeYear ((date t).year+1)+
   daysBeforeMonth ((date t).year+1) n+((d : Nat) - 1)+1) % 7).toNat=w := by
  generalize daysBeforeYear ((date t).year+1)+daysBeforeMonth ((date t).year+1) n=b
  exact ⟨1+((w - (b+1)) % 7).toNat,by omega,by omega⟩
 refine within_of_date hf ⟨_,n,d,hn.1,hn.2,hd.1,hd.2.trans (twentyEight_le _ n).1⟩ rfl hmonth ?_
 rw [← hweek] at hday
 cases hstar' : c.domStar <;>
  simp [DaySatisfies,hstar,hstar',weekday,(clock_parts hf).1,Date.number,hday]

/-- What comes in no year but a leap year is a 29th of February. -/
lemma leapDaysOnly_of_not_within (hm:Satisfies c m) (hnot:¬ Within c t) : LeapDaysOnly c := by
 have hf:=fires_of_satisfies hm
 obtain ⟨-,-,hmonth,hday⟩:=hm
 have hn:=And.intro (date m).month_pos (date m).month_le
 have hdow:c.dowStar=false → ∀ w < 7,has c.dow w=false := fun hstar w hw=>
  Bool.eq_false_iff.mpr fun h=>hnot (within_of_dow hf hstar hn hw hmonth h)
 have hdom:c.domStar=false ∧ has c.dom (date m).day=true := by
  refine (dom_of_daySatisfies hdow hday).resolve_left fun ⟨hstar,hstar'⟩=>hnot ?_
  refine within_of_date hf ⟨_,_,1,hn.1,hn.2,Nat.le_refl 1,?_⟩ rfl hmonth ?_
  · exact Nat.le_trans (by omega) (twentyEight_le _ _).1
  · simp [DaySatisfies,hstar,hstar']
 have hother:∀ n d,1 ≤ n ∧ n ≤ 12 → 1 ≤ d ∧ d ≤ daysIn ((date t).year+1) n →
   has c.month n=true → has c.dom d=false := fun n d hn hd hn'=>
  Bool.eq_false_iff.mpr fun h=>hnot (within_of_dom hf hdom.1 hn hd hn' h)
 have htwo:(date m).month=2 ∧ (date m).day=29 := by
  refine twentyNinth_of_lt (y := (date t).year+1) (date m) (Nat.lt_of_not_le fun h=>?_)
  exact Bool.false_ne_true ((hother _ _ hn ⟨(date m).day_pos,h⟩ hmonth).symm.trans hdom.2)
 rw [htwo.1] at hmonth
 rw [htwo.2] at hdom
 refine ⟨hdom.1,hdow,fun n hn hn'=>⟨fun h=>?_,fun h=>h ▸ hmonth⟩,fun n hn hn'=>?_,hdom.2⟩
 · by_contra hne
   have hthirty:29 ≤ daysIn ((date t).year+1) n := by
    unfold daysIn
    split <;> omega
   exact Bool.false_ne_true ((hother n 29 ⟨hn,hn'⟩ ⟨by omega,hthirty⟩ h).symm.trans hdom.2)
 · exact hother 2 n (by omega) ⟨hn,hn'.trans (twentyEight_le _ 2).1⟩ hmonth

lemma clock_le_of_year (hf:Fires c h k) (hy:y < (date t).year) :
  clock (leapDayOf y) h k ≤ t := by
 have ht:=(date t).number_bounds
 have hyear:=daysBeforeYear_mono hy
 rw [number_date] at ht
 have hle:=(startOfDay_le_iff _ t).mpr ht.1
 obtain ⟨hh,hk,-⟩:=hf
 unfold clock leapDayOf startOfDay nanosPerDay nanosPerHour nanosPerMinute nanosPerSecond at *
 omega

lemma lt_clock_of_year (h k) (hy:(date t).year < y) : t < clock (leapDayOf y) h k := by
 have ht:=(date t).number_bounds
 have hyear:=daysBeforeYear_mono hy
 rw [number_date] at ht
 have hle:=startOfDay_le_iff (daysBeforeYear y) t
 unfold clock leapDayOf startOfDay nanosPerDay nanosPerHour nanosPerMinute nanosPerSecond at *
 omega

variable (hl:LeapDaysOnly c)

include hl

lemma LeapDaysOnly.clock_eq (hwhole:WholeMinute m) (hm:Satisfies c m) :
  ∃ y,leap y=true ∧ m=clock (leapDayOf y) (hour m) (minute m) := by
 obtain ⟨-,-,hmonth,hday⟩:=hm
 have hle:=(date m).day_le
 have hpos:=(date m).day_pos
 have htwo:=(hl.february _ (date m).month_pos (date m).month_le).mp hmonth
 obtain ⟨-,hdom⟩:=(dom_of_daySatisfies hl.week hday).resolve_left (by simp [hl.dom])
 have hlate:¬ (date m).day ≤ 28 := fun h=>
  Bool.false_ne_true ((hl.day _ hpos h).symm.trans hdom)
 rw [htwo] at hle
 change _ ≤ 28+(leap (date m).year).toNat at hle
 have hleap:=Bool.toNat_le (leap (date m).year)
 have hnumber:dayNumber m=leapDayOf (date m).year := by
  rw [← number_date]
  simp [Date.number,leapDayOf,htwo,daysBeforeMonth,daysIn]
  omega
 refine ⟨(date m).year,Bool.toNat_eq_one.mp (by omega),?_⟩
 have heq:=instant_eq m
 rw [← hnumber]
 unfold WholeMinute at hwhole
 unfold clock startOfDay nanosPerDay nanosPerHour nanosPerMinute nanosPerSecond at *
 have := second_lt m
 have := nanosecond_lt m
 omega

lemma LeapDaysOnly.satisfies (hf:Fires c h k) (hy:leap y=true) :
  Satisfies c (clock (leapDayOf y) h k) := by
 have hd:29 ≤ daysIn y 2 := by simp [daysIn,hy]
 have hsat:=satisfies_clock hf ⟨y,2,29,by omega,by omega,by omega,hd⟩
  ((hl.february 2 (by omega) (by omega)).mpr rfl)
  (daySatisfies_of_dom hl.dom (by rw [date_clock hf,hl.twentyNinth]))
 have heq:daysBeforeYear y+daysBeforeMonth y 2+((29 : Nat) - 1)=leapDayOf y := by
  simp [leapDayOf,daysBeforeMonth,daysIn]
  omega
 rwa [Date.number,heq] at hsat

lemma LeapDaysOnly.gap (hnot:¬ Within c t) (hf:Fires c h k) (hy:leap y=true) :
  clock (leapDayOf y) h k ≤ t ∨ nextMinute t+cronSearchLimit ≤ clock (leapDayOf y) h k := by
 by_contra hcon
 exact hnot ⟨_,wholeMinute_clock,by omega,by omega,hl.satisfies hf hy⟩

/-- The first leap day due after `t` is not kept: four years after the one before, it would be
found. -/
lemma LeapDaysOnly.skipped (hf:Fires c h k) (hnot:¬ Within c t) : Skipped c t := by
 obtain ⟨y,hfour,⟨h',k',hf',hdue⟩,hover,hlater⟩ : ∃ y,y % 4=0 ∧
   (∃ h k,Fires c h k ∧ t < clock (leapDayOf y) h k) ∧
   (∀ h k,Fires c h k → clock (leapDayOf (y - 4)) h k ≤ t) ∧ (date t).year < y+4 := by
  by_cases hdue : ∃ h k,Fires c h k ∧ t < clock (leapDayOf ((date t).year / 4 * 4)) h k
  · exact ⟨_,by omega,hdue,fun h k hf=>clock_le_of_year hf (by omega),by omega⟩
  · push Not at hdue
    refine ⟨(date t).year / 4 * 4+4,by omega,⟨h,k,hf,lt_clock_of_year h k (by omega)⟩,?_,by omega⟩
    rwa [Int.add_sub_cancel]
 have hcentury:leap y ≠ true := by
  intro hy
  have hbefore:=hover h' k' hf'
  have hafter:=(hl.gap hnot hf' hy).resolve_left (by omega)
  unfold clock leapDayOf daysBeforeYear nextMinute cronSearchLimit startOfDay nanosPerDay
   nanosPerHour nanosPerMinute nanosPerSecond at *
  omega
 have hyear:y % 100=0 ∧ y % 400 ≠ 0 := by
  have := mt decide_eq_true hcentury
  omega
 refine ⟨y,hyear.1,hyear.2,⟨h,k,hf⟩,fun h k hf=>⟨hover h k hf,?_⟩⟩
 have hnext:leap (y+4)=true := by
  unfold leap
  exact decide_eq_true (by omega)
 have hafter:=lt_clock_of_year h k hlater
 exact (hl.gap hnot hf hnext).resolve_left (by omega)

/-- Between two leap days that are eight years apart no leap day comes. -/
lemma LeapDaysOnly.not_within (hskip:Skipped c t) : ¬ Within c t := by
 rintro ⟨m,hwhole,hlater,hlimit,hm⟩
 obtain ⟨y,hcentury,hnot,-,hskip⟩:=hskip
 obtain ⟨z,hz,heq⟩:=hl.clock_eq hwhole hm
 obtain ⟨hover,hdue⟩:=hskip _ _ (fires_of_satisfies hm)
 rw [heq] at hlater hlimit
 have hz:=of_decide_eq_true hz
 unfold clock leapDayOf startOfDay at *
 have hfirst:daysBeforeYear (y - 4) < daysBeforeYear z := by
  unfold nanosPerDay nanosPerHour nanosPerMinute nanosPerSecond at *
  omega
 have hlast:daysBeforeYear z < daysBeforeYear (y+4) := by
  unfold nanosPerDay nanosPerHour nanosPerMinute nanosPerSecond at *
  omega
 unfold daysBeforeYear at hfirst hlast
 have hyear:y - 4 < z ∧ z < y+4 := by omega
 omega

end

def newYear : CronSchedule where
 spec := "0 0 1 1 *"
 minute := 1#64 <<< 0
 hour := 1#64 <<< 0
 dom := 1#64 <<< 1
 month := 1#64 <<< 1
 dow := 127
 dowStar := true

/-- What the search returns is the first later minute of the schedule. -/
theorem next_is_first_minute (c : CronSchedule) (hc : c.every = 0) (t u : Int)
  (h : next c t = some u) :
  t < u ∧ WholeMinute u ∧ Satisfies c u ∧ ∀ m, WholeMinute m → t < m → m < u → ¬ Satisfies c m := by
 have hfirst:=next_first hc t
 rw [h] at hfirst
 obtain ⟨hle,-,hwhole,hsat,hnone⟩:=hfirst
 refine ⟨(nextMinute_le_iff hwhole).mp hle,hwhole,hsat,fun m hm htm hmu=>?_⟩
 exact hnone m ((nextMinute_le_iff hm).mpr htm) hmu

-- From the second of January the search goes on by days, then by months, to the next new year.
theorem newYear_fires : next newYear (startOfDay 719163) = some (startOfDay 719527) ∧
  startOfDay 719163 < startOfDay 719527 ∧ Satisfies newYear (startOfDay 719527) ∧
  ∀ m, WholeMinute m → startOfDay 719163 < m → m < startOfDay 719527 → ¬ Satisfies newYear m := by
 have h:next newYear (startOfDay 719163) = some (startOfDay 719527) := by decide +kernel
 obtain ⟨hlt,-,hsat,hnone⟩:=next_is_first_minute newYear rfl _ _ h
 exact ⟨h,hlt,hsat,hnone⟩

/-- The search misses the later minutes of a schedule only where the schedule is for leap days and
a century year without one falls between the last and the next. -/
theorem next_found_iff (c : CronSchedule) (hc : c.every = 0) (t : Int) :
  ((∃ m, WholeMinute m ∧ t < m ∧ Satisfies c m) → (next c t).isSome = true) ↔
    ¬ (LeapDaysOnly c ∧ Skipped c t) := by
 rw [next_isSome_iff hc]
 constructor
 · rintro hfound ⟨hl,hskip⟩
   refine hl.not_within hskip (hfound ?_)
   obtain ⟨y,hcentury,-,⟨h,k,hf⟩,hdue⟩:=hskip
   obtain ⟨hover,hdue⟩:=hdue h k hf
   have hy:leap (y + 4) = true := decide_eq_true (by omega)
   refine ⟨_,wholeMinute_clock,?_,hl.satisfies hf hy⟩
   unfold nextMinute cronSearchLimit nanosPerDay nanosPerHour nanosPerMinute nanosPerSecond at hdue
   omega
 · rintro hnot ⟨m,-,-,hm⟩
   by_contra hwithin
   exact hnot ⟨leapDaysOnly_of_not_within hm hwithin,
    (leapDaysOnly_of_not_within hm hwithin).skipped (fires_of_satisfies hm) hwithin⟩

def leapDay : CronSchedule where
 spec := "0 0 29 2 *"
 minute := 1#64 <<< 0
 hour := 1#64 <<< 0
 dom := 1#64 <<< 29
 month := 1#64 <<< 2
 dow := 127
 dowStar := true

lemma has_single : ∀ n < 64,∀ m < 64,has (1#64 <<< n) m=true ↔ m=n := by decide

lemma fires_leapDay {h k} : Fires leapDay h k ↔ h=0 ∧ k=0 := by
 constructor
 · rintro ⟨hh,hk,hhour,hminute⟩
   exact ⟨(has_single 0 (by omega) h (by omega)).mp hhour,
    (has_single 0 (by omega) k (by omega)).mp hminute⟩
 · rintro ⟨rfl,rfl⟩
   exact ⟨by omega,by omega,rfl,rfl⟩

lemma leapDay_leapDaysOnly : LeapDaysOnly leapDay where
 dom := rfl
 week := nofun
 february := fun n _ hn=>has_single 2 (by omega) n (by omega)
 day := fun n _ hn=>
  Bool.eq_false_iff.mpr fun h=>absurd ((has_single 29 (by omega) n (by omega)).mp h) (by omega)
 twentyNinth := rfl

-- From March 2020 to the leap day of 2024.
theorem leapDay_after_2020_found : (next leapDay (startOfDay 737484)).isSome = true := by
 refine (next_found_iff leapDay rfl _).mpr ?_ ?_
 · rintro ⟨-,y,hcentury,hnot,-,hskip⟩
   obtain ⟨hover,hdue⟩:=hskip 0 0 (fires_leapDay.mpr ⟨rfl,rfl⟩)
   unfold clock leapDayOf daysBeforeYear nextMinute cronSearchLimit startOfDay nanosPerDay
    nanosPerHour nanosPerMinute nanosPerSecond at *
   omega
 · exact ⟨startOfDay 738944,wholeMinute_startOfDay,by decide,by decide +kernel⟩

theorem leapDay_after_2096_lost : next leapDay (startOfDay 765243) = none ∧
   Satisfies leapDay (startOfDay 768163) ∧ WholeMinute (startOfDay 768163) ∧
   startOfDay 765243 < startOfDay 768163 := by
 refine ⟨?_,by decide +kernel,wholeMinute_startOfDay,by decide⟩
 rw [← Option.not_isSome_iff_eq_none,next_isSome_iff rfl]
 refine leapDay_leapDaysOnly.not_within ⟨2100,rfl,by decide,⟨0,0,fires_leapDay.mpr ⟨rfl,rfl⟩⟩,
  fun h k hf=>?_⟩
 obtain ⟨rfl,rfl⟩:=fires_leapDay.mp hf
 decide

end Lebro.CronSearch
