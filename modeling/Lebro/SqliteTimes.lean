import Lebro.CivilCalendar
import Lebro.StoreTables
import Lebro.TextOrder
import Mathlib.Data.Prod.Lex

set_option autoImplicit false

namespace Lebro.SqliteTimes

open RuntimeTypes RuntimeRecords StoreRecords StoreTables CivilCalendar TextOrder List

variable {V:Type} {u t:Time} {c:Char}

def appendInt (x : Int) (width : Nat) : List Char :=
 (if x < 0 then ['-'] else []) ++
  if x.natAbs < 10 ^ width then pad width x.natAbs else Nat.toDigits 10 x.natAbs

def secondText (t : Time) : List Char :=
 appendInt (date t).year 4 ++ (field '-' (date t).month ++ (field '-' (date t).day ++
  (field 'T' (hour t) ++ (field ':' (minute t) ++ field ':' (second t)))))

def fraction (t : Time) : List Char := trim '0' (pad 9 (nanosecond t))

def pointed : List Char → List Char
 | [] => []
 | digits => '.' :: digits

/-- The format `RFC3339Nano` in UTC. -/
def sqliteTime (t : Time) : String :=
 String.ofList (secondText t ++ (pointed (fraction t) ++ ['Z']))

def Dated (t : Time) : Prop := 0 ≤ (date t).year ∧ (date t).year ≤ 9999

/-- Two times of one second, one of which has the digits of the other and more. -/
def Shadowed (t u : Time) : Prop :=
 t / nanosPerSecond = u / nanosPerSecond ∧ fraction t ≠ fraction u ∧
  (fraction t <+: fraction u ∨ fraction u <+: fraction t)

lemma appendInt_dated (ht:Dated t) :
  appendInt (date t).year 4=pad 4 (date t).year.natAbs ∧ (date t).year.natAbs < 10 ^ 4 := by
 have hyear:(date t).year.natAbs < 10 ^ 4:=by
  have hbounds:=ht
  unfold Dated at hbounds
  omega
 refine ⟨?_,hyear⟩
 unfold appendInt
 rw [if_neg (Int.not_lt.mpr ht.1),if_pos hyear,nil_append]

lemma length_secondText (ht:Dated t) : (secondText t).length=19 := by
 unfold secondText
 rw [(appendInt_dated ht).1]
 simp only [length_append,length_pad,length_field]

lemma secondText_lt_iff (ht:Dated t) (hu:Dated u) :
  secondText t < secondText u ↔ t / nanosPerSecond < u / nanosPerSecond := by
 obtain ⟨htext,htyear⟩:=appendInt_dated ht
 obtain ⟨hutext,huyear⟩:=appendInt_dated hu
 have hmonth:∀ d : Date,d.month < 100:=fun d=>lt_of_le_of_lt d.month_le (by decide)
 have hday:∀ d : Date,d.day < 100:=fun d=>lt_of_le_of_lt d.day_le_thirtyOne (by decide)
 have hhour:∀ t,hour t < 100:=fun t=>lt_trans (hour_lt t) (by decide)
 have hminute:∀ t,minute t < 100:=fun t=>lt_trans (minute_lt t) (by decide)
 have hsecond:∀ t,second t < 100:=fun t=>lt_trans (second_lt t) (by decide)
 have hyears:pad 4 (date t).year.natAbs=pad 4 (date u).year.natAbs ↔
   (date t).year=(date u).year := by
  rw [pad_inj htyear huyear]
  have := ht.1
  have := hu.1
  omega
 have hyear:pad 4 (date t).year.natAbs < pad 4 (date u).year.natAbs ↔
   (date t).year < (date u).year := by
  rw [pad_lt_iff htyear huyear]
  have := ht.1
  have := hu.1
  omega
 rw [seconds_lt_iff]
 unfold secondText Date.before
 rw [htext,hutext,append_lt_append_iff (by rw [length_pad,length_pad]),hyear,hyears,
  field_append_lt_iff (hmonth _) (hmonth _),field_append_lt_iff (hday _) (hday _),
  field_append_lt_iff (hhour t) (hhour u),field_append_lt_iff (hminute t) (hminute u),
  field_lt_iff (hsecond t) (hsecond u),Date.ext_iff]
 simp only [and_or_left,or_assoc,and_assoc]

lemma secondText_injective (ht:Dated t) (hu:Dated u) :
  secondText t=secondText u ↔ t / nanosPerSecond=u / nanosPerSecond := by
 have htu:=secondText_lt_iff ht hu
 have hut:=secondText_lt_iff hu ht
 constructor
 · intro h
   rw [h] at htu hut
   exact le_antisymm (not_lt.mp (hut.not.mp (lt_irrefl _))) (not_lt.mp (htu.not.mp (lt_irrefl _)))
 · intro h
   rw [h] at htu hut
   exact le_antisymm (not_lt.mp (hut.not.mpr (lt_irrefl _)))
    (not_lt.mp (htu.not.mpr (lt_irrefl _)))

lemma mem_fraction (h:c ∈ fraction t) : '0' ≤ c ∧ c ≤ '9' :=
 mem_pad (( rdropWhile_prefix _ _).subset h)

lemma mem_pointed (h:c ∈ pointed (fraction t)) : c < 'Z' := by
 have hdigit:∀ c,c ∈ fraction t → c < 'Z':=fun c hc =>
  lt_of_le_of_lt (mem_fraction hc).2 (by decide)
 revert h hdigit
 cases fraction t with
 | nil => exact fun h=>by cases h
 | cons d ds =>
  intro h hdigit
  rcases mem_cons.mp h with rfl | h
  · decide
  · exact hdigit c h

lemma pointed_isPrefix_iff (a b) : pointed a <+: pointed b ↔ a <+: b := by
 cases a with
 | nil => simp [pointed]
 | cons x xs =>
  cases b with
  | nil => simp [pointed]
  | cons y ys => exact prefix_cons_inj '.'

lemma pointed_injective : Function.Injective pointed := by
 intro a b h
 have hab:=(pointed_isPrefix_iff a b).mp (h ▸ prefix_refl _)
 have hba:=(pointed_isPrefix_iff b a).mp (h ▸ prefix_refl _)
 exact hab.eq_of_length_le hba.length_le

lemma pointed_lt_iff {a b} (hab:¬ a <+: b) (hba:¬ b <+: a) : pointed a < pointed b ↔ a < b := by
 cases a with
 | nil => exact absurd nil_prefix hab
 | cons x xs =>
  cases b with
  | nil => exact absurd nil_prefix hba
  | cons y ys => simp [pointed,cons_lt_cons_iff]

section

variable (h:t / nanosPerSecond = u / nanosPerSecond)

include h

lemma lt_iff_pad : t < u ↔ pad 9 (nanosecond t) < pad 9 (nanosecond u) := by
 rw [instant_lt_iff,pad_lt_iff (nanosecond_lt t) (nanosecond_lt u),h]
 simp

lemma shadow_reverses (hne:fraction t ≠ fraction u) (hleads:fraction t <+: fraction u) :
  t < u ∧ pointed (fraction u) ++ ['Z'] < pointed (fraction t) ++ ['Z'] := by
 refine ⟨?_,?_⟩
 · refine (lt_iff_pad h).mpr (lt_of_trim_isPrefix ?_ (fun y hy=>(mem_pad hy).1) hleads hne)
   rw [length_pad,length_pad]
 · refine sealed_lt_of_isPrefix (fun x hx=>mem_pointed hx) ?_ ?_
   · exact (pointed_isPrefix_iff _ _).mpr hleads
   · exact fun heq=>hne (pointed_injective heq)

lemma fraction_lt_iff (hshadow:¬ Shadowed t u) :
  pointed (fraction t) ++ ['Z'] < pointed (fraction u) ++ ['Z'] ↔ t < u := by
 by_cases heq : fraction t=fraction u
 · have hpad:pad 9 (nanosecond t)=pad 9 (nanosecond u):=
    trim_injective (by rw [length_pad,length_pad]) heq
   rw [lt_iff_pad h,heq,hpad]
   simp
 · have hneither:¬ (fraction t <+: fraction u ∨ fraction u <+: fraction t):=fun hor =>
    hshadow ⟨h,heq,hor⟩
   rw [not_or] at hneither
   obtain ⟨htu,hut⟩:=hneither
   rw [append_lt_append_of_not_isPrefix ((pointed_isPrefix_iff _ _).not.mpr htu)
    ((pointed_isPrefix_iff _ _).not.mpr hut),pointed_lt_iff htu hut,lt_iff_pad h]
   exact (lt_iff_trim htu hut).symm

end

lemma sqliteTime_lt (ht:Dated t) (hu:Dated u) :
  sqliteTime t < sqliteTime u ↔ t / nanosPerSecond < u / nanosPerSecond ∨
   t / nanosPerSecond=u / nanosPerSecond ∧
    pointed (fraction t) ++ ['Z'] < pointed (fraction u) ++ ['Z'] := by
 unfold sqliteTime
 rw [String.lt_iff,String.toList_ofList,String.toList_ofList,
  append_lt_append_iff (by rw [length_secondText ht,length_secondText hu]),
  secondText_lt_iff ht hu,secondText_injective ht hu]

lemma sqliteTime_lt_iff (ht:Dated t) (hu:Dated u) :
  (sqliteTime t < sqliteTime u ↔ t < u) ↔ ¬ Shadowed t u := by
 rw [sqliteTime_lt ht hu]
 constructor
 · rintro hiff ⟨hsecond,hne,hleads | hleads⟩
   · obtain ⟨hlt,htext⟩:=shadow_reverses hsecond hne hleads
     rcases hiff.mpr hlt with hless | ⟨-,hless⟩
     · exact hless.ne hsecond
     · exact lt_asymm htext hless
   · obtain ⟨hlt,htext⟩:=shadow_reverses hsecond.symm hne.symm hleads
     exact lt_asymm hlt (hiff.mp (.inr ⟨hsecond,htext⟩))
 · intro hshadow
   by_cases hsecond : t / nanosPerSecond=u / nanosPerSecond
   · rw [fraction_lt_iff hsecond hshadow,hsecond]
     simp
   · rw [instant_lt_iff t u]
     simp [hsecond]

/-- The nanoseconds after a point, if there is one; digits beyond the ninth are passed over. -/
def readFraction : List Char → Option (Nat × List Char)
 | '.' :: cs =>
  let digits := cs.takeWhile Char.isDigit
  if digits = [] then none
  else (readDigits 9 ((digits ++ List.replicate 9 '0').take 9)).map fun read =>
   (read.1, cs.dropWhile Char.isDigit)
 | cs => some (0, cs)

def instant (year month day hour minute second nanosecond : Nat) : Option Time :=
 if h : 1 ≤ month ∧ month ≤ 12 ∧ 1 ≤ day ∧ day ≤ daysIn year month ∧ hour < 24 ∧ minute < 60 ∧
   second < 60 then
  some (nanosPerDay *
    ((Date.mk year month day h.1 h.2.1 h.2.2.1 h.2.2.2.1).number - 719162) +
   nanosPerHour * hour + nanosPerMinute * minute + nanosPerSecond * second + nanosecond)
 else none

/-- `time.Parse` for texts in UTC. -/
def sqliteParseTime (text : String) : Option Time := do
 let (year, cs) ← readDigits 4 text.toList
 let (month, cs) ← readField '-' cs
 let (day, cs) ← readField '-' cs
 let (hour, cs) ← readField 'T' cs
 let (minute, cs) ← readField ':' cs
 let (second, cs) ← readField ':' cs
 let (nanosecond, cs) ← readFraction cs
 if cs = ['Z'] then instant year month day hour minute second nanosecond else none

lemma take_fraction (t) : (fraction t++List.replicate 9 '0').take 9=pad 9 (nanosecond t) := by
 have hlength:(fraction t).length ≤ 9:=by
  have hle:=( rdropWhile_prefix (· = '0') (pad 9 (nanosecond t))).length_le
  rwa [length_pad] at hle
 have hsplit:=trim_append '0' (pad 9 (nanosecond t))
 rw [length_pad] at hsplit
 rw [take_append,take_of_length_le hlength,take_replicate,Nat.min_eq_left (Nat.sub_le 9 _)]
 exact hsplit

lemma mem_fraction_isDigit (h:c ∈ fraction t) : c.isDigit=true := by
 obtain ⟨hzero,hnine⟩:=mem_fraction h
 unfold Char.isDigit
 exact Bool.and_eq_true_iff.mpr ⟨decide_eq_true hzero,decide_eq_true hnine⟩

lemma readFraction_pointed (t) :
  readFraction (pointed (fraction t) ++ ['Z'])=some (nanosecond t,['Z']) := by
 have htake:=take_fraction t
 have hdigits:=fun c hc=>mem_fraction_isDigit (t := t) (c := c) hc
 have hread:=readDigits_pad (w := 9) (nanosecond_lt t) []
 rw [append_nil] at hread
 cases hfraction : fraction t with
 | nil =>
  rw [hfraction] at htake
  have hzero:pad 9 0=pad 9 (nanosecond t):=htake
  rw [← (pad_inj (by decide) (nanosecond_lt t)).mp hzero]
  rfl
 | cons d ds =>
  rw [hfraction] at htake hdigits
  have hz:(['Z'] : List Char).takeWhile Char.isDigit=[]:=rfl
  have hz':(['Z'] : List Char).dropWhile Char.isDigit=['Z']:=rfl
  have hds:(d :: ds ++ ['Z']).takeWhile Char.isDigit=d :: ds:=by
   rw [takeWhile_append_of_pos hdigits,hz,append_nil]
  have hrest:(d :: ds ++ ['Z']).dropWhile Char.isDigit=['Z']:=by
   rw [dropWhile_append_of_pos hdigits,hz']
  change readFraction ('.' :: (d :: ds ++ ['Z']))=_
  rw [readFraction,hds,if_neg (cons_ne_nil d ds),htake,hread,hrest]
  rfl

lemma instant_fields (ht:Dated t) :
  instant (date t).year.natAbs (date t).month (date t).day (hour t) (minute t) (second t)
   (nanosecond t)=some t := by
 have hyear:((date t).year.natAbs : Int)=(date t).year:=Int.natAbs_of_nonneg ht.1
 unfold instant
 have hfields:=And.intro (date t).month_pos (And.intro (date t).month_le
  (And.intro (date t).day_pos (And.intro (hyear ▸ (date t).day_le)
   (And.intro (hour_lt t) (And.intro (minute_lt t) (second_lt t))))))
 rw [dif_pos hfields]
 have hdate:∀ h₁ h₂ h₃ h₄,(Date.mk ((date t).year.natAbs : Int) (date t).month (date t).day
   h₁ h₂ h₃ h₄)=date t := fun _ _ _ _=>Date.ext hyear rfl rfl
 rw [hdate,date,Date.number_ofNumber,← instant_eq]

lemma sqliteParseTime_sqliteTime (ht:Dated t) : sqliteParseTime (sqliteTime t)=some t := by
 obtain ⟨hyear,hbound⟩:=appendInt_dated ht
 have hmonth:(date t).month < 100:=lt_of_le_of_lt (date t).month_le (by decide)
 have hday:(date t).day < 100:=lt_of_le_of_lt (date t).day_le_thirtyOne (by decide)
 have hhour:hour t < 100:=lt_trans (hour_lt t) (by decide)
 have hminute:minute t < 100:=lt_trans (minute_lt t) (by decide)
 have hsecond:second t < 100:=lt_trans (second_lt t) (by decide)
 unfold sqliteParseTime sqliteTime secondText
 rw [hyear,String.toList_ofList]
 simp only [append_assoc,readDigits_pad hbound,readField_field hmonth,
  readField_field hday,readField_field hhour,readField_field hminute,readField_field hsecond,
  readFraction_pointed,Option.bind_eq_bind,Option.bind_some,if_true]
 exact instant_fields ht

section

variable (ctx:StoreContext) (s:StoreState)

/-- `ORDER BY` a column of times, then the ID. -/
def columnOrder {V : Type} (time : V → Time) (a b : (_ : String) × V) : Prop :=
 sqliteTime (time a.2) < sqliteTime (time b.2) ∨
  sqliteTime (time a.2) = sqliteTime (time b.2) ∧ a.1 ≤ b.1

instance {V : Type} (time : V → Time) : DecidableRel (columnOrder time) := fun a b =>
 inferInstanceAs (Decidable (sqliteTime (time a.2) < sqliteTime (time b.2) ∨
  sqliteTime (time a.2) = sqliteTime (time b.2) ∧ a.1 ≤ b.1))

def selected {V : Type} (t : Table String V) (keep : V → Bool) (time : V → Time) : List V :=
 ((t.entries.filter fun e => keep e.2).insertionSort (columnOrder time)).map Sigma.snd

def sqlPageBounds (q : PageQuery) : Except Err (Nat × Nat) :=
 match q.cursor with
 | some none => .error errInvalidPage
 | cursor =>
  if q.limit < 0 then .error errInvalidPage
  else .ok ((cursor.bind id).getD 0, if q.limit = 0 then 100 else q.limit.toNat)

def readPage {V : Type} (rows : List V) (offset limit : Nat) : Page V :=
 -- past the greatest int `limit + 1` is negative, and SQLite takes that for no limit
 let read := if limit + 1 < 2 ^ 63 then (rows.drop offset).take (limit + 1) else rows.drop offset
 if limit < read.length then ⟨read.take limit, some (offset + limit)⟩ else ⟨read, none⟩

def sqlPage {V : Type} (rows : List V) (q : PageQuery) : Except Err (Page V) :=
 (sqlPageBounds q).map fun bounds => readPage rows bounds.1 bounds.2

/-- `paused = 0 AND next_fire_at IS NOT NULL AND next_fire_at <= ?` -/
def sqliteScheduleDue (dueBy : Time) (v : ScheduleRecord) : Bool :=
 !v.paused && v.nextFireAt.any fun next => sqliteTime next ≤ sqliteTime dueBy

def sqliteScheduleKept (f : ScheduleFilter) (v : ScheduleRecord) : Bool :=
 matchesText f.workflowID v.workflowID && (f.dueBy.all fun dueBy => sqliteScheduleDue dueBy v) &&
  matchesScope f.scope v.scope

def sqliteListSchedules (f : ScheduleFilter) (q : PageQuery) : Except Err (Page ScheduleRecord) :=
 alive ctx (sqlPage (selected s.schedules (sqliteScheduleKept f) ScheduleRecord.createdAt) q)

def sqliteListWorkflowRuns (f : WorkflowRunFilter) (q : PageQuery) :
  Except Err (Page WorkflowRunRecord) :=
 alive ctx (sqlPage (selected s.runs f.keeps WorkflowRunRecord.startedAt) q)

end

lemma readPage_eq (rows:List V) (offset limit) :
  readPage rows offset limit = ⟨(rows.drop offset).take limit,
   if limit < (rows.drop offset).length then some (offset+limit) else none⟩ := by
 have hcut {read:List V} (htake:read.take limit=(rows.drop offset).take limit)
   (hmore:limit < read.length ↔ limit < (rows.drop offset).length) :
   (if limit < read.length then (⟨read.take limit,some (offset+limit)⟩:Page V) else ⟨read,none⟩) =
    ⟨(rows.drop offset).take limit,
     if limit < (rows.drop offset).length then some (offset+limit) else none⟩ := by
  rw [← htake]
  by_cases h : limit < read.length
  · rw [if_pos h,if_pos (hmore.mp h)]
  · rw [if_neg h,if_neg (mt hmore.mpr h),take_of_length_le (Nat.le_of_not_lt h)]
 unfold readPage
 dsimp only
 split
 · apply hcut
   · rw [take_take,Nat.min_eq_left (Nat.le_succ limit)]
   · rw [length_take]
     omega
 · exact hcut rfl Iff.rfl

lemma sqlPage_eq_paginate (rows:List V) (q) : sqlPage rows q=paginate rows q := by
 obtain ⟨cursor,limit⟩:=q
 rcases cursor with - | - | offset
 · by_cases hlimit : limit < 0
   · simp [sqlPage,sqlPageBounds,paginate,hlimit,Except.map]
   · simp [sqlPage,sqlPageBounds,paginate,hlimit,Except.map,readPage_eq]
 · simp [sqlPage,sqlPageBounds,paginate,Except.map]
 · by_cases hlimit : limit < 0
   · simp [sqlPage,sqlPageBounds,paginate,hlimit,Except.map]
   · simp [sqlPage,sqlPageBounds,paginate,hlimit,Except.map,readPage_eq]

lemma columnOrder_iff (time) (a b:(_:String) × V) : columnOrder time a b ↔
   toLex (sqliteTime (time a.2),a.1) ≤ toLex (sqliteTime (time b.2),b.1) := by
 rw [Prod.Lex.toLex_le_toLex]
 exact Iff.rfl

lemma timeOrder_iff (time) (a b:(_:String) × V) :
  timeOrder time a b ↔ toLex (time a.2,a.1) ≤ toLex (time b.2,b.1) := by
 rw [Prod.Lex.toLex_le_toLex]
 exact Iff.rfl

instance {V : Type} (time : V → Time) : Std.Total (columnOrder time) := ⟨fun a b => by
 rw [columnOrder_iff, columnOrder_iff]
 exact le_total _ _⟩

instance {V : Type} (time : V → Time) : IsTrans _ (columnOrder time) := ⟨fun a b c => by
 rw [columnOrder_iff, columnOrder_iff, columnOrder_iff]
 exact le_trans⟩

instance {V : Type} (time : V → Time) : Std.Total (timeOrder (K := String) time) := ⟨fun a b => by
 rw [timeOrder_iff, timeOrder_iff]
 exact le_total _ _⟩

instance {V : Type} (time : V → Time) : IsTrans _ (timeOrder (K := String) time) := ⟨fun a b c => by
 rw [timeOrder_iff, timeOrder_iff, timeOrder_iff]
 exact le_trans⟩

lemma shadowed_symm (h:Shadowed t u) : Shadowed u t := ⟨h.1.symm,h.2.1.symm,h.2.2.symm⟩

lemma sqliteTime_eq_iff (ht:Dated t) (hu:Dated u) (hshadow:¬ Shadowed t u) :
  sqliteTime t=sqliteTime u ↔ t=u := by
 have htu:=(sqliteTime_lt_iff ht hu).mpr hshadow
 have hut:=(sqliteTime_lt_iff hu ht).mpr fun h=>hshadow (shadowed_symm h)
 rw [eq_iff_le_not_lt,eq_iff_le_not_lt,← not_lt,← not_lt,htu,hut]

lemma sqliteTime_le_iff (ht:Dated t) (hu:Dated u) (hshadow:¬ Shadowed t u) :
  sqliteTime t ≤ sqliteTime u ↔ t ≤ u := by
 rw [le_iff_lt_or_eq,le_iff_lt_or_eq,(sqliteTime_lt_iff ht hu).mpr hshadow,
  sqliteTime_eq_iff ht hu hshadow]

lemma selected_eq (t) (keep:V → Bool) (time) (hdated:∀ e ∈ t.entries,Dated (time e.2))
  (hshadow:∀ e ∈ t.entries,∀ e' ∈ t.entries,¬ Shadowed (time e.2) (time e'.2)) :
  selected t keep time=(listed t time).filter keep := by
 unfold selected listed
 rw [filter_map]
 congr 1
 have hsorted:=perm_insertionSort (timeOrder time) t.entries
 have hrows:=perm_insertionSort (columnOrder time) (t.entries.filter fun e=>keep e.2)
 have hmem:∀ e,e ∈ (t.entries.filter fun e=>keep e.2).insertionSort (columnOrder time) →
   e ∈ t.entries := fun e he=>mem_of_mem_filter (hrows.mem_iff.mp he)
 have hanti:∀ a b,a ∈ t.entries → b ∈ t.entries → timeOrder time a b → timeOrder time b a →
   a=b := by
  intro a b ha hb hab hba
  rw [timeOrder_iff] at hab hba
  have hkey:=congrArg (fun k=>(ofLex k).2) (le_antisymm hab hba)
  exact t.nodupKeys.eq_of_fst_eq ha hb hkey
 refine List.Perm.eq_of_pairwise (fun a b ha hb=>hanti a b (hmem a ha) ?_) ?_ ?_ ?_
 · exact hsorted.mem_iff.mp (mem_of_mem_filter hb)
 · refine List.Pairwise.imp_of_mem ?_ (pairwise_insertionSort (columnOrder time) _)
   intro a b ha hb hab
   have ha:=hmem a ha
   have hb:=hmem b hb
   unfold columnOrder at hab
   rwa [(sqliteTime_lt_iff (hdated a ha) (hdated b hb)).mpr (hshadow a ha b hb),
    sqliteTime_eq_iff (hdated a ha) (hdated b hb) (hshadow a ha b hb)] at hab
 · exact (pairwise_insertionSort (timeOrder time) _).filter _
 · exact hrows.trans (hsorted.symm.filter _)

/-- All rows are listed in the order of their times exactly when none of these shadow each other. -/
lemma selected_all_iff (t) (time:V → Time) (hdated:∀ e ∈ t.entries,Dated (time e.2)) :
  selected t (fun _=>true) time=listed t time ↔
   ∀ e ∈ t.entries,∀ e' ∈ t.entries,¬ Shadowed (time e.2) (time e'.2) := by
 refine ⟨fun heq e he e' he' hshadow=>?_,fun h=>
  (selected_eq t _ time hdated h).trans (filter_true _)⟩
 have hne:time e.2 ≠ time e'.2:=fun h=>hshadow.2.1 (congrArg fraction h)
 wlog hlt : time e.2 < time e'.2 generalizing e e'
 · exact this e' he' e he (shadowed_symm hshadow) hne.symm (lt_of_le_of_ne (not_lt.mp hlt) hne.symm)
 have hcolumn:sqliteTime (time e'.2) < sqliteTime (time e.2):=by
  by_contra hnot
  exact (sqliteTime_lt_iff (hdated e' he') (hdated e he)).mp (iff_of_false hnot hlt.not_gt)
   (shadowed_symm hshadow)
 have hrows:(listed t time).Pairwise fun v w=>
   sqliteTime (time v) ≤ sqliteTime (time w) ∧ time v ≤ time w := by
  refine List.Pairwise.and (heq ▸ ?_) ?_
  · exact (pairwise_insertionSort (columnOrder time) _).map _ fun _ _ h=>h.elim le_of_lt (·.1.le)
  · exact (pairwise_insertionSort (timeOrder time) _).map _ fun _ _ h=>h.elim le_of_lt (·.1.le)
 have hmem:∀ f ∈ t.entries,f.2 ∈ listed t time:=fun f hf=>
  mem_map_of_mem ((perm_insertionSort _ _).mem_iff.mpr hf)
 obtain ⟨i,hi,hie⟩:=getElem_of_mem (hmem e he)
 obtain ⟨j,hj,hje⟩:=getElem_of_mem (hmem e' he')
 have hordered:=pairwise_iff_getElem.mp hrows
 rcases lt_trichotomy i j with hij | rfl | hij
 · exact hcolumn.not_ge (hie ▸ hje ▸ (hordered i j hi hj hij).1)
 · exact hne (congrArg time (hie.symm.trans hje))
 · exact hlt.not_ge (hie ▸ hje ▸ (hordered j i hj hi hij).2)

lemma sqliteScheduleKept_eq {f v}
  (hdue:∀ dueBy ∈ f.dueBy,∀ next ∈ v.nextFireAt,Dated dueBy ∧ Dated next ∧
   ¬ Shadowed next dueBy) : sqliteScheduleKept f v=scheduleMatchesFilter v f := by
 have hsame:(f.dueBy.all fun dueBy=>sqliteScheduleDue dueBy v) =
   f.dueBy.all fun dueBy=>scheduleDue dueBy v := by
  cases hby : f.dueBy with
  | none => rw [Option.all_none,Option.all_none]
  | some dueBy =>
   cases hnext : v.nextFireAt with
   | none => simp [sqliteScheduleDue,scheduleDue,hnext]
   | some next =>
    obtain ⟨hdueBy,hdated,hshadow⟩:=hdue dueBy hby next hnext
    simp [sqliteScheduleDue,scheduleDue,hnext,sqliteTime_le_iff hdated hdueBy hshadow]
 unfold sqliteScheduleKept scheduleMatchesFilter
 rw [hsame,Bool.and_right_comm]

/-- The times by which a table is listed are comparable by their texts. -/
def Comparable {V : Type} (t : Table String V) (time : V → Time) : Prop :=
 ∀ e ∈ t.entries, Dated (time e.2) ∧ ∀ e' ∈ t.entries, ¬ Shadowed (time e.2) (time e'.2)

/-- The fire times are comparable with the time by which they are asked for. -/
def DueComparable (t : Table String ScheduleRecord) (f : ScheduleFilter) : Prop :=
 ∀ e ∈ t.entries, ∀ dueBy ∈ f.dueBy, ∀ next ∈ e.2.nextFireAt,
  Dated dueBy ∧ Dated next ∧ ¬ Shadowed next dueBy

lemma selected_schedules_eq {s:StoreState} {f}
  (hcreated:Comparable s.schedules ScheduleRecord.createdAt)
  (hdue:DueComparable s.schedules f) :
  selected s.schedules (sqliteScheduleKept f) ScheduleRecord.createdAt =
   (listed s.schedules ScheduleRecord.createdAt).filter fun v=>scheduleMatchesFilter v f := by
 rw [selected_eq _ _ _ (fun e he=>(hcreated e he).1) fun e he=>(hcreated e he).2]
 apply filter_congr
 intro v hv
 obtain ⟨e,he,rfl⟩:=mem_map.mp hv
 exact sqliteScheduleKept_eq (hdue e ((perm_insertionSort _ _).mem_iff.mp he))

/-- The texts of two times are in the order of the times exactly when neither shadows the other. -/
theorem sqlite_times_ordered (t u : Time) (ctx : StoreContext) (s : StoreState)
  (f : ScheduleFilter) (g : WorkflowRunFilter) (q : PageQuery) :
  (Dated t → Dated u → ((sqliteTime t < sqliteTime u ↔ t < u) ↔ ¬ Shadowed t u)) ∧
   (Comparable s.schedules ScheduleRecord.createdAt → DueComparable s.schedules f →
    sqliteListSchedules ctx s f q = listSchedules ctx s f q) ∧
   (Comparable s.runs WorkflowRunRecord.startedAt →
    sqliteListWorkflowRuns ctx s g q = listWorkflowRuns ctx s g q) := by
 refine ⟨sqliteTime_lt_iff,?_,?_⟩
 · intro hcreated hdue
   unfold sqliteListSchedules listSchedules
   rw [selected_schedules_eq hcreated hdue,sqlPage_eq_paginate]
 · intro hstarted
   unfold sqliteListWorkflowRuns listWorkflowRuns
   rw [selected_eq _ _ _ (fun e he=>(hstarted e he).1) fun e he=>(hstarted e he).2,
    sqlPage_eq_paginate]

instance (t : Time) : Decidable (Dated t) :=
 inferInstanceAs (Decidable (0 ≤ (date t).year ∧ (date t).year ≤ 9999))

instance (t u : Time) : Decidable (Shadowed t u) :=
 inferInstanceAs (Decidable (t / nanosPerSecond = u / nanosPerSecond ∧ fraction t ≠ fraction u ∧
  (fraction t <+: fraction u ∨ fraction u <+: fraction t)))

def scheduled (id : ScheduleID) (createdAt next : Time) : ScheduleRecord where
 id := id
 workflowID := "report"
 scope := {}
 spec := "* * * * *"
 nextFireAt := some next
 wakeRunID := ""
 wakeToken := ""
 createdAt := createdAt
 updatedAt := createdAt

def storing (vs : List ScheduleRecord) : StoreState :=
 { StoreState.empty with schedules := vs.foldr (fun v t => t.insert v.id v) ∅ }

def sameSecond : StoreState := storing [scheduled "late" 500000000 0, scheduled "early" 250000000 0]

theorem same_second_listed :
  (sqliteTime 250000000 < sqliteTime 500000000 ↔ (250000000 : Time) < 500000000) ∧
   sqliteListSchedules {} sameSecond { dueBy := some 60000000000 } {} =
    listSchedules {} sameSecond { dueBy := some 60000000000 } {} ∧
   sqliteListWorkflowRuns {} sameSecond {} {} = listWorkflowRuns {} sameSecond {} {} := by
 obtain ⟨horder,hschedules,hruns⟩:=sqlite_times_ordered 250000000 500000000 {} sameSecond
  { dueBy := some 60000000000 } {} {}
 refine ⟨(horder (by decide) (by decide)).mpr (by decide),hschedules ?_ ?_,?_⟩
 · unfold Comparable
   decide
 · have hnext:∀ e ∈ sameSecond.schedules.entries, e.2.nextFireAt = some 0 := by decide
   intro e he dueBy hdueBy next hfire
   cases hdueBy
   cases (hnext e he).symm.trans hfire
   decide
 · exact hruns fun e he=>by cases he

/-- A time with a fraction has a lesser text than its second, and a schedule that became due with
that second is not found. -/
theorem whole_second_not_due : sqliteTime 100000000 < sqliteTime 0 ∧
   listSchedules {} (storing [scheduled "job" 0 0]) { dueBy := some 100000000 } {} =
    .ok ⟨[scheduled "job" 0 0], none⟩ ∧
   sqliteListSchedules {} (storing [scheduled "job" 0 0]) { dueBy := some 100000000 } {} =
    .ok ⟨[], none⟩ := by
 have htext:sqliteTime 100000000 < sqliteTime 0 :=
  (sqliteTime_lt (by decide) (by decide)).mpr (by decide)
 refine ⟨htext,rfl,?_⟩
 have hnone:sqliteScheduleKept { dueBy := some 100000000 } (scheduled "job" 0 0) = false := by
  simp [sqliteScheduleKept,sqliteScheduleDue,scheduled,htext]
 have hrows:(storing [scheduled "job" 0 0]).schedules.entries =
   [⟨"job",scheduled "job" 0 0⟩] := rfl
 unfold sqliteListSchedules selected
 rw [hrows,filter_cons_of_neg (by simp [hnone])]
 rfl

end Lebro.SqliteTimes
