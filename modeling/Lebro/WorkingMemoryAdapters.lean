import Lebro.SqliteTimes

set_option autoImplicit false

namespace Lebro.WorkingMemoryAdapters

open RuntimeTypes RuntimeRecords MemoryStore StoreRecords StoreTables SqliteTimes List

variable {scope:RuntimeScope} {key:String} {T:Type}

abbrev FactKey := RuntimeScope × String

variable {k' k:FactKey}

def factKey (v : WorkingMemoryFact) : FactKey := (v.scope, v.key)

structure FactRow (T : Type) where
 id : String
 scope : RuntimeScope
 key : String
 value : RawMessage
 version : Int
 createdAt : T
 updatedAt : T

def FactRow.factKey {T : Type} (r : FactRow T) : FactKey := (r.scope, r.key)

structure FactTable (T : Type) where
 rows : Table FactKey (FactRow T)
 keyed : ∀ k r, rows.lookup k = some r → r.factKey = k
 ids : ∀ k k' r r', rows.lookup k = some r → rows.lookup k' = some r' → r.id = r'.id → k = k'
 positive : ∀ k r, rows.lookup k = some r → 0 < r.version

namespace FactTable

variable {T:Type} (t:FactTable T)

def idTaken (k : FactKey) (id : String) : Bool := t.rows.entries.any fun e => e.1 ≠ k && e.2.id = id

lemma key_eq_of_id {id r} (h:t.idTaken k id=false) (hr:t.rows.lookup k'=some r)
  (hid:r.id=id) : k'=k := by
 by_contra hne
 have hmem:=AList.mem_lookup_iff.mp hr
 have hall:=any_eq_false.mp h ⟨k',r⟩ hmem
 exact hall (by simp [hne,hid])

def put (r : FactRow T) (hid : t.idTaken r.factKey r.id = false) (hversion : 0 < r.version) :
  FactTable T where
 rows := t.rows.insert r.factKey r
 keyed k r' h := by
  by_cases hk : k = r.factKey
  · rw [hk, AList.lookup_insert] at h
    cases h
    exact hk.symm
  · rw [AList.lookup_insert_ne hk] at h
    exact t.keyed k r' h
 ids k k' a b ha hb hab := by
  by_cases hk : k = r.factKey
  · rw [hk, AList.lookup_insert] at ha
    cases ha
    by_cases hk' : k' = r.factKey
    · rw [hk, hk']
    · rw [AList.lookup_insert_ne hk'] at hb
      exact absurd (t.key_eq_of_id hid hb hab.symm) hk'
  · rw [AList.lookup_insert_ne hk] at ha
    by_cases hk' : k' = r.factKey
    · rw [hk', AList.lookup_insert] at hb
      cases hb
      exact absurd (t.key_eq_of_id hid ha hab) hk
    · rw [AList.lookup_insert_ne hk'] at hb
      exact t.ids k k' a b ha hb hab
 positive k r' h := by
  by_cases hk : k = r.factKey
  · rw [hk, AList.lookup_insert] at h
    cases h
    exact hversion
  · rw [AList.lookup_insert_ne hk] at h
    exact t.positive k r' h

lemma lookup_of_erase {r} (h:(t.rows.erase k).lookup k'=some r) :
  t.rows.lookup k'=some r := by
 by_cases hk : k'=k
 · rw [hk,AList.lookup_erase] at h
   cases h
 · rwa [AList.lookup_erase_ne hk] at h

def erase (k : FactKey) : FactTable T where
 rows := t.rows.erase k
 keyed k' r h := t.keyed k' r (t.lookup_of_erase h)
 ids k k' a b ha hb := t.ids k k' a b (t.lookup_of_erase ha) (t.lookup_of_erase hb)
 positive k' r h := t.positive k' r (t.lookup_of_erase h)

end FactTable

inductive SqlError where
 | noRows
 | unique
 | text
 | ended (e : Err)
 | scan (column : String)

def SqlError.toErr : SqlError → Err
 | .noRows => errNotFound
 | .unique => .new "UNIQUE constraint failed: working_memory_facts"
 | .text => .new "invalid byte sequence for encoding"
 | .ended e => e
 | .scan column => .new ("lebro: scan working memory " ++ column)

section

variable {T:Type} (t:FactTable T)

/-- `INSERT .. RETURNING` -/
def insertFact (r : FactRow T) : Except SqlError (FactRow T × FactTable T) :=
 if (t.rows.lookup r.factKey).isSome then .error .unique
 else if h : t.idTaken r.factKey r.id = false ∧ 0 < r.version then .ok (r, t.put r h.1 h.2)
 else .error .unique

def FactRow.after (r old : FactRow T) : FactRow T :=
 { r with version := old.version + 1, createdAt := old.createdAt }

/-- `UPDATE .. WHERE .. AND version = ? RETURNING` -/
def updateFact (r : FactRow T) (expected : Int) : Except SqlError (FactRow T × FactTable T) :=
 match hold : t.rows.lookup r.factKey with
 | none => .error .noRows
 | some old =>
  if old.version = expected then
   if h : t.idTaken r.factKey r.id = false then
    .ok (r.after old, t.put (r.after old) h (Int.lt_add_one_of_le
     (Int.le_of_lt (t.positive _ old hold))))
   else .error .unique
  else .error .noRows

/-- `INSERT .. ON CONFLICT .. DO UPDATE .. WHERE version = ? RETURNING`: the condition is only
looked at when there is a row with the key. -/
def upsertFact (r : FactRow T) (expected : Int) : Except SqlError (FactRow T × FactTable T) :=
 if (t.rows.lookup r.factKey).isSome then updateFact t r expected else insertFact t r

end

structure SqlDialect (T : Type) where
 writeTime : Time → T
 readTime : T → Option Time
 acceptsText : String → Bool

def sqlite : SqlDialect String where
 writeTime := sqliteTime
 readTime := sqliteParseTime
 acceptsText _ := true

def plainText (text : String) : Bool := '\x00' ∉ text.toList

/-- Texts are refused that hold the character zero. -/
def postgres {T : Type} (writeTime : Time → T) (readTime : T → Option Time) : SqlDialect T where
 writeTime := writeTime
 readTime := readTime
 acceptsText := plainText

section

variable {T:Type} (d:SqlDialect T) (ctx:StoreContext) (t:FactTable T)

def SqlDialect.row (v : WorkingMemoryFact) : FactRow T where
 id := v.id
 scope := v.scope
 key := v.key
 value := v.value
 version := v.version
 createdAt := d.writeTime v.createdAt
 updatedAt := d.writeTime v.updatedAt

def firstVersion (v : WorkingMemoryFact) : WorkingMemoryFact := { v with version := 1 }

def nextVersion (v old : WorkingMemoryFact) : WorkingMemoryFact :=
 { v with version := old.version + 1, createdAt := old.createdAt }

def scanWorkingMemoryFact (r : FactRow T) : Except SqlError WorkingMemoryFact :=
 match d.readTime r.createdAt with
 | none => .error (.scan "created_at")
 | some created =>
  match d.readTime r.updatedAt with
  | none => .error (.scan "updated_at")
  | some updated => .ok {
    id := r.id
    scope := r.scope
    key := r.key
    value := r.value
    version := r.version
    createdAt := created
    updatedAt := updated }

def executed {α : Type} (texts : List String) (statement : Except SqlError α) : Except SqlError α :=
 match ctx.err with
 | some e => .error (.ended e)
 | none => if texts.all d.acceptsText then statement else .error .text

/-- A statement that returns a row has been carried out even when the row cannot be scanned. -/
def queryRow (texts : List String) (statement : Except SqlError (FactRow T × FactTable T)) :
  Except SqlError WorkingMemoryFact × FactTable T :=
 match executed d ctx texts statement with
 | .error e => (.error e, t)
 | .ok (r, u) => (scanWorkingMemoryFact d r, u)

def factTexts (v : WorkingMemoryFact) : List String := [v.id, v.scope.ns, v.scope.ownerID, v.key]

def createError (other : Err → Err) : SqlError → Err
 | .unique => errConflict
 | e => other e.toErr

def swapError : SqlError → Err
 | .noRows => errConflict
 | e => e.toErr

def checked {α : Type} (err : Option Err) (body : Except Err α × FactTable T) :
  Except Err α × FactTable T :=
 match err with
 | some e => (.error e, t)
 | none => body

def sqliteUpsertWorkingMemoryFact (t : FactTable String) (v : WorkingMemoryFact) (e : Int) :
  Except Err WorkingMemoryFact × FactTable String :=
 checked t (validateWorkingMemoryFact ctx v) <|
  let row := sqlite.row (firstVersion v)
  if e = 0 then
   (queryRow sqlite ctx t (factTexts v) (insertFact t row)).map
    (Except.mapError (createError (Err.wrap "lebro: create working memory fact: "))) id
  else (queryRow sqlite ctx t (factTexts v) (upsertFact t row e)).map (Except.mapError swapError) id

def postgresUpsertWorkingMemoryFact (v : WorkingMemoryFact) (e : Int) :
  Except Err WorkingMemoryFact × FactTable T :=
 checked t (validateWorkingMemoryFact ctx v) <|
  let row := d.row (firstVersion v)
  if e = 0 then
   (queryRow d ctx t (factTexts v) (insertFact t row)).map
    (Except.mapError (createError id)) id
  else (queryRow d ctx t (factTexts v) (updateFact t row e)).map (Except.mapError swapError) id

/-- The statement that both SQL stores use: `DELETE .. WHERE .. AND version = ?`. -/
def sqlDeleteWorkingMemoryFact (scope : RuntimeScope) (key : String) (e : Int) :
  Except Err Unit × FactTable T :=
 checked t (validateWorkingMemoryScope ctx scope) <|
  match executed d ctx [scope.ns, scope.ownerID, key] (.ok (t.rows.lookup (scope, key))) with
  | .error err => (.error err.toErr, t)
  | .ok (some r) =>
   if r.version = e then (.ok (), t.erase (scope, key)) else (.error errConflict, t)
  | .ok none => (.error errConflict, t)

def sqliteDeleteWorkingMemoryFact (t : FactTable String) :
  RuntimeScope → String → Int → Except Err Unit × FactTable String :=
 sqlDeleteWorkingMemoryFact sqlite ctx t

def postgresDeleteWorkingMemoryFact : RuntimeScope → String → Int → Except Err Unit × FactTable T :=
 sqlDeleteWorkingMemoryFact d ctx t

end

def mapKey (k : FactKey) : String := workingMemoryMapKey k.1 k.2

def PlainKey (k : FactKey) : Prop :=
 plainText k.1.ns = true ∧ plainText k.1.ownerID = true ∧ plainText k.2 = true

lemma append_cons_inj {α:Type} {mark:α} {a a' b b'} (ha:mark ∉ a) (ha':mark ∉ a')
  (h:a++mark :: b=a'++mark :: b') : a=a' ∧ b=b' := by
 induction a generalizing a' with
 | nil =>
  cases a' with
  | nil => exact ⟨rfl,tail_eq_of_cons_eq h⟩
  | cons x xs => exact absurd (head_eq_of_cons_eq h ▸ mem_cons_self) ha'
 | cons x xs ih =>
  cases a' with
  | nil => exact absurd (head_eq_of_cons_eq h ▸ mem_cons_self) ha
  | cons y ys =>
   obtain ⟨rfl,hrest⟩:=List.cons.inj h
   obtain ⟨rfl,rfl⟩:=ih (fun hm=>ha (mem_cons_of_mem x hm))
    (fun hm=>ha' (mem_cons_of_mem x hm)) hrest
   exact ⟨rfl,rfl⟩

lemma mapKey_injective (hk:PlainKey k) (h:mapKey k=mapKey k') : k=k' := by
 obtain ⟨⟨ns,ownerID⟩,key⟩:=k
 obtain ⟨⟨ns',ownerID'⟩,key'⟩:=k'
 obtain ⟨hns,howner,hkey⟩:=hk
 simp only [plainText,decide_eq_true_eq] at hns howner hkey
 have hlist:=congrArg String.toList h
 have hmark:"\x00".toList=['\x00']:=rfl
 simp only [mapKey,workingMemoryMapKey,String.toList_append,hmark,append_assoc,
  singleton_append] at hlist
 -- the left text has two marks, so the parts on the right have none
 have hcount:=congrArg (List.count '\x00') hlist
 simp only [count_append,count_cons_self,count_eq_zero.mpr hns,
  count_eq_zero.mpr howner,count_eq_zero.mpr hkey] at hcount
 have hns' : '\x00' ∉ ns'.toList := count_eq_zero.mp (by omega)
 have howner' : '\x00' ∉ ownerID'.toList := count_eq_zero.mp (by omega)
 obtain ⟨hsameNs,hrest⟩:=append_cons_inj hns hns' hlist
 obtain ⟨hsameOwner,hsameKey⟩:=append_cons_inj howner howner' hrest
 rw [String.toList_inj.mp hsameNs,String.toList_inj.mp hsameOwner,String.toList_inj.mp hsameKey]

section

variable {T:Type} (d:SqlDialect T)

structure Holds (m : Table String WorkingMemoryFact) (t : FactTable T) : Prop where
 filed : ∀ key v, m.lookup key = some v → mapKey (factKey v) = key
 rows : ∀ k, t.rows.lookup k = ((m.lookup (mapKey k)).filter fun v => factKey v = k).map d.row

/-- The two results are the same, and so are the states after them. -/
def Agrees {α : Type} (s : StoreState) (t : FactTable T) (m : Except Err (α × StoreState))
  (r : Except Err α × FactTable T) : Prop :=
 match m with
 | .ok (a, u) => r.1 = .ok a ∧ Holds d u.workingMemory r.2
 | .error e => r.1 = .error e ∧ r.2 = t ∧ Holds d s.workingMemory r.2

variable {d} {m:Table String WorkingMemoryFact} {t:FactTable T}

lemma Holds.lookup (h:Holds d m t) (hk:PlainKey k) :
  t.rows.lookup k=(m.lookup (mapKey k)).map d.row := by
 rw [h.rows k]
 cases hv : m.lookup (mapKey k) with
 | none => rfl
 | some v =>
  have hkey:=mapKey_injective hk (h.filed _ v hv).symm
  rw [Option.filter_some,if_pos (decide_eq_true hkey.symm)]

lemma Holds.insert (h:Holds d m t) {w} (hk:PlainKey (factKey w))
  (hid:t.idTaken (d.row w).factKey (d.row w).id=false) (hversion:0 < w.version) :
  Holds d (m.insert (mapKey (factKey w)) w) (t.put (d.row w) hid hversion) := by
 refine ⟨?_,?_⟩
 · intro key v hv
   by_cases hkey : key=mapKey (factKey w)
   · rw [hkey,AList.lookup_insert] at hv
     cases hv
     exact hkey.symm
   · rw [AList.lookup_insert_ne hkey] at hv
     exact h.filed key v hv
 · intro k
   change (t.rows.insert (factKey w) (d.row w)).lookup k=_
   by_cases hkey : k=factKey w
   · rw [hkey,AList.lookup_insert,AList.lookup_insert,Option.filter_some,
      if_pos (decide_eq_true rfl),Option.map_some]
   · have hne:mapKey k ≠ mapKey (factKey w):=fun heq=>hkey (mapKey_injective hk heq.symm).symm
     rw [AList.lookup_insert_ne hkey,AList.lookup_insert_ne hne]
     exact h.rows k

lemma Holds.erase (h:Holds d m t) (hk:PlainKey k) :
  Holds d (m.erase (mapKey k)) (t.erase k) := by
 refine ⟨?_,?_⟩
 · intro key v hv
   by_cases hkey : key=mapKey k
   · rw [hkey,AList.lookup_erase] at hv
     cases hv
   · rw [AList.lookup_erase_ne hkey] at hv
     exact h.filed key v hv
 · intro k'
   change (t.rows.erase k).lookup k'=_
   by_cases hkey : k'=k
   · rw [hkey,AList.lookup_erase,AList.lookup_erase]
     rfl
   · have hne:mapKey k' ≠ mapKey k:=fun heq=>hkey (mapKey_injective hk heq.symm).symm
     rw [AList.lookup_erase_ne hkey,AList.lookup_erase_ne hne]
     exact h.rows k'

end

section

variable {T:Type} {d:SqlDialect T} {ctx:StoreContext} {s:StoreState} {t:FactTable T}
 {v:WorkingMemoryFact} {expected:Int}

def SqlDialect.Keeps (d : SqlDialect T) (time : Time) : Prop :=
 d.readTime (d.writeTime time) = some time

/-- Facts that a database can store: their texts are plain, their ID is not that of another row,
and the times of the new row are kept. -/
structure Storable (d : SqlDialect T) (s : StoreState) (t : FactTable T) (v : WorkingMemoryFact) :
  Prop where
 texts : ∀ text ∈ factTexts v, plainText text = true
 fresh : t.idTaken (factKey v) v.id = false
 created : d.Keeps v.createdAt
 updated : d.Keeps v.updatedAt
 stored : ∀ old, s.workingMemory.lookup (mapKey (factKey v)) = some old → d.Keeps old.createdAt

lemma Storable.plainKey (h:Storable d s t v) : PlainKey (factKey v) :=
 ⟨h.texts _ (by simp [factTexts,factKey]),h.texts _ (by simp [factTexts,factKey]),
  h.texts _ (by simp [factTexts,factKey])⟩

lemma scan_row {w} (hcreated:d.Keeps w.createdAt) (hupdated:d.Keeps w.updatedAt) :
  scanWorkingMemoryFact d (d.row w) = .ok w := by
 unfold SqlDialect.Keeps at hcreated hupdated
 simp only [scanWorkingMemoryFact,SqlDialect.row,hcreated,hupdated]

lemma executed_eq {α:Type} (halive:ctx.err=none) {texts}
  (htexts:∀ text ∈ texts,d.acceptsText text=true) (statement:Except SqlError α) :
  executed d ctx texts statement=statement := by
 unfold executed
 rw [halive]
 exact if_pos (all_eq_true.mpr htexts)

lemma queryRow_eq (halive:ctx.err=none)
  (htexts:∀ text ∈ factTexts v,d.acceptsText text=true)
  (statement:Except SqlError (FactRow T × FactTable T)) :
  queryRow d ctx t (factTexts v) statement =
   match statement with
   | .error e => (.error e,t)
   | .ok (r,u) => (scanWorkingMemoryFact d r,u) := by
 unfold queryRow
 rw [executed_eq halive htexts]

lemma updateFact_match {r old} (hold:t.rows.lookup r.factKey=some old)
  (hversion:old.version=expected) (hid:t.idTaken r.factKey r.id=false)
  (hpos:0 < (r.after old).version) :
  updateFact t r expected = .ok (r.after old,t.put (r.after old) hid hpos) := by
 unfold updateFact
 split
 · rename_i hnone
   rw [hold] at hnone
   cases hnone
 · rename_i old' hsome
   cases hold.symm.trans hsome
   rw [if_pos hversion,dif_pos hid]

lemma updateFact_mismatch {r}
  (h:∀ old,t.rows.lookup r.factKey=some old → old.version ≠ expected) :
  updateFact t r expected = .error .noRows := by
 unfold updateFact
 split
 · rfl
 · rename_i old hold
   exact if_neg (h old hold)

section

variable (halive:ctx.err = none)

include halive

lemma upsert_eq (hvalid:validateWorkingMemoryFact ctx v=none) :
  upsertWorkingMemoryFact ctx s v expected =
   (nextFact v expected (s.workingMemory.lookup (mapKey (factKey v)))).map fun w =>
    (w,{ s with workingMemory := s.workingMemory.insert (mapKey (factKey v)) w }) := by
 unfold upsertWorkingMemoryFact alive
 rw [halive,hvalid]
 have hkey:workingMemoryMapKey v.scope v.key=mapKey (factKey v):=rfl
 rw [hkey]
 cases nextFact v expected (s.workingMemory.lookup (mapKey (factKey v))) with
 | error e => rfl
 | ok w => rfl

lemma queryRow_insertFact (h:Storable d s t v)
  (htexts:∀ text ∈ factTexts v,d.acceptsText text=true)
  (hnone:t.rows.lookup (factKey v)=none) :
  queryRow d ctx t (factTexts v) (insertFact t (d.row (firstVersion v))) =
   (.ok (firstVersion v),t.put (d.row (firstVersion v)) h.fresh Int.one_pos) := by
 have hinsert:insertFact t (d.row (firstVersion v)) = .ok (d.row (firstVersion v),
   t.put (d.row (firstVersion v)) h.fresh Int.one_pos) := by
  unfold insertFact
  rw [if_neg,dif_pos ⟨h.fresh,Int.one_pos⟩]
  change ¬ (t.rows.lookup (factKey v)).isSome=true
  rw [hnone]
  exact Bool.false_ne_true
 have hscan:scanWorkingMemoryFact d (d.row (firstVersion v)) = .ok (firstVersion v):=
  scan_row h.created h.updated
 rw [queryRow_eq halive htexts,hinsert]
 dsimp only
 rw [hscan]

lemma agrees_created (hvalid:validateWorkingMemoryFact ctx v=none)
  (hholds:Holds d s.workingMemory t) (h:Storable d s t v)
  (htexts:∀ text ∈ factTexts v,d.acceptsText text=true) (other:Err → Err) :
  Agrees d s t (upsertWorkingMemoryFact ctx s v 0)
   ((queryRow d ctx t (factTexts v) (insertFact t (d.row (firstVersion v)))).map
     (Except.mapError (createError other)) id) := by
 have hlookup:=hholds.lookup h.plainKey
 rw [upsert_eq halive hvalid]
 cases hold : s.workingMemory.lookup (mapKey (factKey v)) with
 | some old =>
  rw [hold] at hlookup
  have hinsert:insertFact t (d.row (firstVersion v)) = .error .unique:=by
   apply if_pos
   change (t.rows.lookup (factKey v)).isSome=true
   rw [hlookup]
   rfl
  rw [queryRow_eq halive htexts,hinsert]
  exact ⟨rfl,rfl,hholds⟩
 | none =>
  rw [hold] at hlookup
  rw [queryRow_insertFact halive h htexts hlookup]
  exact ⟨rfl,hholds.insert (w := firstVersion v) h.plainKey h.fresh Int.one_pos⟩

/-- A version that is not the stored one is a conflict, whatever the ID and the times are. -/
lemma agrees_mismatch (hvalid:validateWorkingMemoryFact ctx v=none)
  (hholds:Holds d s.workingMemory t) (hplain:PlainKey (factKey v))
  (htexts:∀ text ∈ factTexts v,d.acceptsText text=true) (hexpected:expected ≠ 0)
  (hother:∀ old ∈ s.workingMemory.lookup (mapKey (factKey v)),old.version ≠ expected) :
  Agrees d s t (upsertWorkingMemoryFact ctx s v expected)
   ((queryRow d ctx t (factTexts v) (updateFact t (d.row (firstVersion v)) expected)).map
     (Except.mapError swapError) id) := by
 have hnone:updateFact t (d.row (firstVersion v)) expected = .error .noRows:=by
  refine updateFact_mismatch fun row hsome=>?_
  obtain ⟨old,hold,rfl⟩:=Option.map_eq_some_iff.mp ((hholds.lookup hplain).symm.trans hsome)
  exact hother old hold
 have hconflict:nextFact v expected (s.workingMemory.lookup (mapKey (factKey v))) =
   .error errConflict := by
  cases hold : s.workingMemory.lookup (mapKey (factKey v)) with
  | none => exact if_pos hexpected
  | some old => exact if_pos (.inr (hother old hold))
 rw [upsert_eq halive hvalid,queryRow_eq halive htexts,hnone,hconflict]
 exact ⟨rfl,rfl,hholds⟩

lemma agrees_swapped (hvalid:validateWorkingMemoryFact ctx v=none)
  (hholds:Holds d s.workingMemory t) (h:Storable d s t v)
  (htexts:∀ text ∈ factTexts v,d.acceptsText text=true) (hexpected:expected ≠ 0) :
  Agrees d s t (upsertWorkingMemoryFact ctx s v expected)
   ((queryRow d ctx t (factTexts v) (updateFact t (d.row (firstVersion v)) expected)).map
     (Except.mapError swapError) id) := by
 by_cases hmatch : ∃ old ∈ s.workingMemory.lookup (mapKey (factKey v)),old.version=expected
 case neg =>
  exact agrees_mismatch halive hvalid hholds h.plainKey htexts hexpected fun old hold hversion=>
   hmatch ⟨old,hold,hversion⟩
 obtain ⟨old,hold,hversion⟩:=hmatch
 have hold:s.workingMemory.lookup (mapKey (factKey v))=some old:=hold
 have hlookup:=hholds.lookup h.plainKey
 rw [hold] at hlookup
 have hpos:0 < (nextVersion v old).version:=by
  have hstored:=t.positive _ _ hlookup
  exact Int.lt_add_one_of_le (Int.le_of_lt hstored)
 have hupdate:=updateFact_match (r := d.row (firstVersion v)) hlookup hversion h.fresh hpos
 have hscan:scanWorkingMemoryFact d (d.row (nextVersion v old)) =
   .ok (nextVersion v old) := scan_row (h.stored old hold) h.updated
 rw [upsert_eq halive hvalid,queryRow_eq halive htexts,hold,hupdate,nextFact,
  if_neg (by simp [hexpected,hversion])]
 refine ⟨?_,hholds.insert (w := nextVersion v old) h.plainKey h.fresh hpos⟩
 change Except.mapError _ (scanWorkingMemoryFact d (d.row (nextVersion v old)))=_
 rw [hscan]
 rfl

lemma agrees_refused {e} (hinvalid:validateWorkingMemoryFact ctx v=some e)
  (hholds:Holds d s.workingMemory t) (body) :
  Agrees d s t (upsertWorkingMemoryFact ctx s v expected)
   (checked t (validateWorkingMemoryFact ctx v) body) := by
 unfold upsertWorkingMemoryFact alive checked
 rw [halive,hinvalid]
 exact ⟨rfl,rfl,hholds⟩

lemma postgres_upsert_agrees (hholds:Holds d s.workingMemory t)
  (h:Storable d s t v) (htexts:∀ text ∈ factTexts v,d.acceptsText text=true) :
  Agrees d s t (upsertWorkingMemoryFact ctx s v expected)
   (postgresUpsertWorkingMemoryFact d ctx t v expected) := by
 cases hvalid : validateWorkingMemoryFact ctx v with
 | some e => exact agrees_refused halive hvalid hholds _
 | none =>
  unfold postgresUpsertWorkingMemoryFact checked
  rw [hvalid]
  dsimp only
  split
  · rename_i hzero
    subst hzero
    exact agrees_created halive hvalid hholds h htexts id
  · rename_i hexpected
    exact agrees_swapped halive hvalid hholds h htexts hexpected

lemma sqlite_upsert_agrees_iff {t} (hholds:Holds sqlite s.workingMemory t)
  (h:Storable sqlite s t v) :
  Agrees sqlite s t (upsertWorkingMemoryFact ctx s v expected)
    (sqliteUpsertWorkingMemoryFact ctx t v expected) ↔
   (validateWorkingMemoryFact ctx v=none →
    expected=0 ∨ (t.rows.lookup (factKey v)).isSome=true) := by
 have htexts:∀ text ∈ factTexts v,sqlite.acceptsText text=true:=fun _ _=>rfl
 by_cases hvalid : validateWorkingMemoryFact ctx v=none
 case neg =>
  obtain ⟨e,hinvalid⟩:=Option.ne_none_iff_exists'.mp hvalid
  exact iff_of_true (agrees_refused halive hinvalid hholds _) fun hnone=>absurd hnone hvalid
 rw [imp_iff_right hvalid]
 unfold sqliteUpsertWorkingMemoryFact checked
 rw [hvalid]
 dsimp only
 split
 · rename_i hzero
   subst hzero
   exact iff_of_true (agrees_created halive hvalid hholds h htexts _) (.inl rfl)
 · rename_i hexpected
   cases hlookup : t.rows.lookup (factKey v) with
   | some row =>
    have hupsert:upsertFact t (sqlite.row (firstVersion v)) expected =
      updateFact t (sqlite.row (firstVersion v)) expected := by
     apply if_pos
     change (t.rows.lookup (factKey v)).isSome=true
     rw [hlookup]
     rfl
    rw [hupsert]
    exact iff_of_true (agrees_swapped halive hvalid hholds h htexts hexpected) (.inr rfl)
   | none =>
    have hupsert:upsertFact t (sqlite.row (firstVersion v)) expected =
      insertFact t (sqlite.row (firstVersion v)) := by
     apply if_neg
     change ¬ (t.rows.lookup (factKey v)).isSome=true
     rw [hlookup]
     exact Bool.false_ne_true
    have hnone:s.workingMemory.lookup (mapKey (factKey v))=none:=by
     have hrows:=hholds.lookup h.plainKey
     rw [hlookup] at hrows
     exact Option.map_eq_none_iff.mp hrows.symm
    rw [upsert_eq halive hvalid,hnone,hupsert,
     queryRow_insertFact halive h htexts hlookup,nextFact,if_pos hexpected]
    refine iff_of_false ?_ ?_
    · rintro ⟨hresult,-⟩
      cases hresult
    · exact fun hor=>hor.elim hexpected Bool.false_ne_true

lemma delete_eq (hvalid:validateWorkingMemoryScope ctx scope=none) :
  deleteWorkingMemoryFact ctx s scope key expected =
   match s.workingMemory.lookup (mapKey (scope,key)) with
   | none => .error errNotFound
   | some v =>
    if expected=0 ∨ v.version ≠ expected then .error errConflict
    else .ok { s with workingMemory := s.workingMemory.erase (mapKey (scope,key)) } := by
 unfold deleteWorkingMemoryFact getWorkingMemoryFact alive mapKey
 rw [halive,hvalid]
 cases s.workingMemory.lookup (workingMemoryMapKey scope key) with
 | none => rfl
 | some v => rfl

lemma sqlDelete_eq (htexts:∀ text ∈ [scope.ns,scope.ownerID,key],d.acceptsText text=true)
  (hvalid:validateWorkingMemoryScope ctx scope=none) :
  sqlDeleteWorkingMemoryFact d ctx t scope key expected =
   match t.rows.lookup (scope,key) with
   | none => (.error errConflict,t)
   | some r =>
    if r.version=expected then (.ok (),t.erase (scope,key))
    else (.error errConflict,t) := by
 unfold sqlDeleteWorkingMemoryFact checked
 rw [hvalid,executed_eq halive htexts]
 cases t.rows.lookup (scope,key) with
 | none => rfl
 | some r => rfl

end

lemma conflict_ne_notFound : errConflict ≠ errNotFound := fun h =>
 Bool.false_ne_true (congrArg (fun e=>e.is .notFound) h)

lemma delete_agrees_iff (halive:ctx.err=none) (hholds:Holds d s.workingMemory t)
  (hplain:PlainKey (scope,key))
  (htexts:∀ text ∈ [scope.ns,scope.ownerID,key],d.acceptsText text=true) :
  Agrees d s t ((deleteWorkingMemoryFact ctx s scope key expected).map fun u=>((),u))
    (sqlDeleteWorkingMemoryFact d ctx t scope key expected) ↔
   (validateWorkingMemoryScope ctx scope=none → (t.rows.lookup (scope,key)).isSome=true) := by
 by_cases hvalid : validateWorkingMemoryScope ctx scope=none
 case neg =>
  obtain ⟨e,hinvalid⟩:=Option.ne_none_iff_exists'.mp hvalid
  refine iff_of_true ?_ fun hnone=>absurd hnone hvalid
  unfold deleteWorkingMemoryFact getWorkingMemoryFact alive sqlDeleteWorkingMemoryFact checked
  rw [halive,hinvalid]
  exact ⟨rfl,rfl,hholds⟩
 rw [imp_iff_right hvalid]
 have hlookup:=hholds.lookup hplain
 rw [delete_eq halive hvalid,sqlDelete_eq halive htexts hvalid]
 cases hold : s.workingMemory.lookup (mapKey (scope,key)) with
 | none =>
  rw [hold,Option.map_none] at hlookup
  rw [hlookup]
  refine iff_of_false ?_ Bool.false_ne_true
  rintro ⟨hresult,-⟩
  exact conflict_ne_notFound (Except.error.inj hresult)
 | some old =>
  rw [hold,Option.map_some] at hlookup
  rw [hlookup]
  refine iff_of_true ?_ rfl
  have hpos:0 < old.version:=t.positive _ _ hlookup
  have hrow:(d.row old).version=old.version:=rfl
  dsimp only
  rw [hrow]
  by_cases hversion : old.version=expected
  · rw [if_neg (show ¬ (expected=0 ∨ old.version ≠ expected) by omega),if_pos hversion]
    exact ⟨rfl,hholds.erase hplain⟩
  · rw [if_pos (.inr hversion),if_neg hversion]
    exact ⟨rfl,rfl,hholds⟩

lemma upsert_swaps (halive:ctx.err=none) (hvalid:validateWorkingMemoryFact ctx v=none) :
  (∀ w u,upsertWorkingMemoryFact ctx s v expected = .ok (w,u) →
    (expected=0 ∧ s.workingMemory.lookup (mapKey (factKey v))=none ∧ w.version=1) ∨
     ∃ old,s.workingMemory.lookup (mapKey (factKey v))=some old ∧ expected ≠ 0 ∧
      old.version=expected ∧ w.version=old.version+1) ∧
   ((∀ w u,upsertWorkingMemoryFact ctx s v expected ≠ .ok (w,u)) →
     upsertWorkingMemoryFact ctx s v expected = .error errConflict) := by
 rw [upsert_eq halive hvalid]
 cases s.workingMemory.lookup (mapKey (factKey v)) with
 | none =>
  by_cases hexpected : expected=0
  · rw [nextFact,if_neg (not_not.mpr hexpected)]
    refine ⟨?_,fun hno=>absurd rfl (hno _ _)⟩
    rintro w u ⟨⟩
    exact .inl ⟨hexpected,rfl,rfl⟩
  · rw [nextFact,if_pos hexpected]
    exact ⟨nofun,fun _=>rfl⟩
 | some old =>
  by_cases hexpected : expected=0 ∨ old.version ≠ expected
  · rw [nextFact,if_pos hexpected]
    exact ⟨nofun,fun _=>rfl⟩
  · rw [nextFact,if_neg hexpected]
    refine ⟨?_,fun hno=>absurd rfl (hno _ _)⟩
    rintro w u ⟨⟩
    rw [not_or,not_not] at hexpected
    exact .inr ⟨old,rfl,hexpected.1,hexpected.2,rfl⟩

end

/-- Postgres agrees with the memory store, SQLite agrees unless it creates what was expected to be
there, and deletions agree on the facts that are there. -/
theorem working_memory_adapters_agree {T : Type} (writeTime : Time → T)
  (readTime : T → Option Time) (ctx : StoreContext) (halive : ctx.err = none) (s : StoreState)
  (lite : FactTable String) (hlite : Holds sqlite s.workingMemory lite) (post : FactTable T)
  (hpost : Holds (postgres writeTime readTime) s.workingMemory post) (v : WorkingMemoryFact)
  (hsqlite : Storable sqlite s lite v)
  (hpostgres : Storable (postgres writeTime readTime) s post v) (expected : Int) :
  (validateWorkingMemoryFact ctx v = none →
   (∀ w u, upsertWorkingMemoryFact ctx s v expected = .ok (w, u) →
    (expected = 0 ∧ s.workingMemory.lookup (mapKey (factKey v)) = none ∧ w.version = 1) ∨
     ∃ old, s.workingMemory.lookup (mapKey (factKey v)) = some old ∧ expected ≠ 0 ∧
      old.version = expected ∧ w.version = old.version + 1) ∧
   ((∀ w u, upsertWorkingMemoryFact ctx s v expected ≠ .ok (w, u)) →
     upsertWorkingMemoryFact ctx s v expected = .error errConflict)) ∧
  Agrees (postgres writeTime readTime) s post (upsertWorkingMemoryFact ctx s v expected)
   (postgresUpsertWorkingMemoryFact (postgres writeTime readTime) ctx post v expected) ∧
  (Agrees sqlite s lite (upsertWorkingMemoryFact ctx s v expected)
    (sqliteUpsertWorkingMemoryFact ctx lite v expected) ↔
   (validateWorkingMemoryFact ctx v = none →
    expected = 0 ∨ (lite.rows.lookup (factKey v)).isSome = true)) ∧
  (Agrees (postgres writeTime readTime) s post
    ((deleteWorkingMemoryFact ctx s v.scope v.key expected).map fun u => ((), u))
    (postgresDeleteWorkingMemoryFact (postgres writeTime readTime) ctx post v.scope v.key
     expected) ↔
   (validateWorkingMemoryScope ctx v.scope = none → (post.rows.lookup (factKey v)).isSome = true)) ∧
  (Agrees sqlite s lite
    ((deleteWorkingMemoryFact ctx s v.scope v.key expected).map fun u => ((), u))
    (sqliteDeleteWorkingMemoryFact ctx lite v.scope v.key expected) ↔
   (validateWorkingMemoryScope ctx v.scope = none →
    (lite.rows.lookup (factKey v)).isSome = true)) := by
 have hplain:=hpostgres.plainKey
 have htexts:∀ text ∈ [v.scope.ns,v.scope.ownerID,v.key], plainText text = true := by
  intro text htext
  exact hpostgres.texts text (mem_cons_of_mem _ htext)
 exact ⟨upsert_swaps halive,postgres_upsert_agrees halive hpost hpostgres hpostgres.texts,
  sqlite_upsert_agrees_iff halive hlite hsqlite,delete_agrees_iff halive hpost hplain htexts,
  delete_agrees_iff halive hlite hplain fun _ _=>rfl⟩

def tone : WorkingMemoryFact where
 id := "fact-1"
 scope := { ns := "app", ownerID := "user" }
 key := "tone"
 version := 1

def noFacts {T : Type} : FactTable T where
 rows := ∅
 keyed _ _ h := by cases h
 ids _ _ _ _ h := by cases h
 positive _ _ h := by cases h

lemma holds_empty (d:SqlDialect T) : Holds d ∅ noFacts := ⟨nofun,fun _=>rfl⟩

def toneStore : StoreState :=
 { StoreState.empty with
   workingMemory := (∅ : Table String WorkingMemoryFact).insert (mapKey (factKey tone)) tone }

def toneRows {T : Type} (d : SqlDialect T) : FactTable T := noFacts.put (d.row tone) rfl Int.one_pos

lemma tone_plain : ∀ text ∈ factTexts tone,plainText text=true := by decide
lemma holds_tone (d : SqlDialect T) : Holds d toneStore.workingMemory (toneRows d) :=
 (holds_empty d).insert (w := tone) (by unfold PlainKey; decide) rfl Int.one_pos

lemma storable_tone {d:SqlDialect T} (hkeeps:d.Keeps 0) :
  Storable d toneStore (toneRows d) tone where
 texts := tone_plain
 fresh := by
  refine any_eq_false.mpr fun e he=>?_
  obtain rfl : e = ⟨factKey tone,d.row tone⟩ := mem_singleton.mp he
  simp
 created := hkeeps
 updated := hkeeps
 stored old h := by
  rw [toneStore,AList.lookup_insert] at h
  cases h
  exact hkeeps

theorem tone_swapped :
  Agrees sqlite toneStore (toneRows sqlite) (upsertWorkingMemoryFact {} toneStore tone 1)
   (sqliteUpsertWorkingMemoryFact {} (toneRows sqlite) tone 1) :=
 (working_memory_adapters_agree (fun time : Time => time) some {} rfl toneStore
  (toneRows sqlite) (holds_tone sqlite) (toneRows _) (holds_tone _) tone
  (storable_tone (sqliteParseTime_sqliteTime (by decide))) (storable_tone rfl)
  1).2.2.1.mpr fun _=>.inr rfl

/-- SQLite creates a fact whose seventh version was expected, and takes the deletion of a fact that
is not there for a conflict. -/
theorem expected_version_created :
  upsertWorkingMemoryFact {} StoreState.empty tone 7 = .error errConflict ∧
   (sqliteUpsertWorkingMemoryFact {} noFacts tone 7).1 = .ok tone ∧
   deleteWorkingMemoryFact {} StoreState.empty tone.scope tone.key 1 = .error errNotFound ∧
   (sqliteDeleteWorkingMemoryFact {} noFacts tone.scope tone.key 1).1 = .error errConflict := by
 have hstorable:Storable sqlite StoreState.empty noFacts tone := {
  texts := tone_plain
  fresh := rfl
  created := sqliteParseTime_sqliteTime (by decide)
  updated := sqliteParseTime_sqliteTime (by decide)
  stored := nofun }
 refine ⟨rfl,?_,rfl,rfl⟩
 change Except.mapError swapError (queryRow sqlite {} noFacts (factTexts tone)
  (insertFact noFacts (sqlite.row (firstVersion tone)))).1 = _
 rw [queryRow_insertFact rfl hstorable (fun _ _=>rfl) rfl]
 rfl

end Lebro.WorkingMemoryAdapters
