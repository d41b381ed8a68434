import Lebro.CanonicalJson
import Lebro.WorkflowRegions
import Mathlib.Algebra.Field.Rat

set_option autoImplicit false

namespace Lebro.ExactValues

open RuntimeTypes JsonCodec CanonicalJson WorkflowRegions List

/-- What a JSON text stands for: numbers are decimal fractions, and objects are maps. -/
inductive Value where
 | null
 | bool (value : Bool)
 | num (value : ℚ)
 | str (value : String)
 | arr (items : List Value)
 | obj (entries : String → Option Value)

def exponentOf : List Char → ℤ
 | '-' :: digits => -(Nat.ofDigitChars 10 digits 0 : ℤ)
 | '+' :: digits => Nat.ofDigitChars 10 digits 0
 | digits => Nat.ofDigitChars 10 digits 0

def magnitude (literal : List Char) : ℚ :=
 let mantissa := literal.takeWhile fun c => c ≠ 'e' ∧ c ≠ 'E'
 let exponent := (literal.dropWhile fun c => c ≠ 'e' ∧ c ≠ 'E').tail
 let fraction := (mantissa.dropWhile fun c => c ≠ '.').tail
 Nat.ofDigitChars 10 (mantissa.filter fun c => c ≠ '.') 0 *
  10 ^ (exponentOf exponent - fraction.length)

def numeral (literal : String) : ℚ :=
 match literal.toList with
 | '-' :: digits => -magnitude digits
 | digits => magnitude digits

mutual

def meaning : Json → Value
 | .null => .null
 | .bool b => .bool b
 | .num literal => .num (numeral literal)
 | .str s => .str s
 | .arr items => .arr (meanings items)
 | .obj fields => .obj (entries fields)

def meanings : List Json → List Value
 | [] => []
 | v :: vs => meaning v :: meanings vs

/-- Of several values of a key the last one counts. -/
def entries : List (String × Json) → String → Option Value
 | [], _ => none
 | (k, v) :: fs, key => (entries fs key).or (if k = key then some (meaning v) else none)

end

def lastField (key : String) : List (String × Json) → Option Json
 | [] => none
 | (k, v) :: fs => (lastField key fs).or (if k = key then some v else none)

/-- The numbers of a value that counts are written for the floats with their values. -/
inductive Exact (number : String → Option String) : Json → Prop where
 | null : Exact number .null
 | bool (b : Bool) : Exact number (.bool b)
 | num {literal written : String} (h : number literal = some written)
   (hvalue : numeral written = numeral literal) : Exact number (.num literal)
 | str (s : String) : Exact number (.str s)
 | arr {items : List Json} (h : ∀ v ∈ items, Exact number v) : Exact number (.arr items)
 | obj {fields : List (String × Json)}
   (h : ∀ key v, lastField key fields = some v → Exact number v) : Exact number (.obj fields)

section

variable {fields:List (String × Json)} {key:String} {number:String → Option String}

lemma entries_eq : entries fields key=(lastField key fields).map meaning := by
 induction fields with
 | nil => rfl
 | cons f fs ih =>
  obtain ⟨k,v⟩:=f
  rw [entries,lastField,ih]
  cases lastField key fs with
  | some w => rfl
  | none =>
   by_cases hk : k=key
   · simp [hk]
   · simp [hk]

lemma lastField_mem {v} (h:lastField key fields=some v) : (key,v) ∈ fields := by
 induction fields with
 | nil => cases h
 | cons f fs ih =>
  obtain ⟨k,w⟩:=f
  rw [lastField] at h
  cases hrest : lastField key fs with
  | some u =>
   rw [hrest] at h
   cases h
   exact mem_cons_of_mem _ (ih hrest)
  | none =>
   rw [hrest,Option.none_or] at h
   split at h
   · rename_i hk
     cases h
     exact hk ▸ mem_cons_self
   · cases h

lemma lastField_eq_none (h:∀ f ∈ fields,f.1 ≠ key) : lastField key fields=none := by
 cases hlast : lastField key fields with
 | none => rfl
 | some v => exact absurd rfl (h _ (lastField_mem hlast))

lemma lastField_ne_none {f} (h:f ∈ fields) : lastField f.1 fields ≠ none := by
 induction fields with
 | nil => cases h
 | cons g fs ih =>
  obtain ⟨k,v⟩:=g
  rw [lastField]
  rcases mem_cons.mp h with rfl | h
  · simp
  · simp [ih h]

lemma lastField_insertField {k w} (hnew:∀ f ∈ fields,f.1 ≠ k) :
  lastField key (insertField k w fields)=if k=key then some w else lastField key fields := by
 induction fields with
 | nil => rfl
 | cons g fs ih =>
  obtain ⟨l,v⟩:=g
  rw [insertField]
  split
  · rw [lastField]
    by_cases hk : k=key
    · have hnone:lastField key ((l,v) :: fs)=none:=
       lastField_eq_none fun f hf=>hk ▸ hnew f hf
      rw [hnone,Option.none_or]
    · simp [hk]
  · rw [lastField,ih fun f hf=>hnew f (mem_cons_of_mem _ hf)]
    by_cases hk : k=key
    · simp [hk]
    · simp [hk,lastField]

/-- An entry before others counts only if they have none of its key. -/
lemma lastField_merge {k w} :
  lastField key (if fields.any fun f=>f.1=k then fields else insertField k w fields) =
   (lastField key fields).or (if k=key then some w else none) := by
 split
 · rename_i hany
   by_cases hk : k=key
   · obtain ⟨g,hg,hkey⟩:=any_eq_true.mp hany
     have hsome:=lastField_ne_none hg
     rw [of_decide_eq_true hkey,hk] at hsome
     obtain ⟨u,hu⟩:=Option.ne_none_iff_exists'.mp hsome
     rw [hu,Option.some_or]
   · rw [if_neg hk,Option.or_none]
 · rename_i hnone
   have hnew:∀ g ∈ fields,g.1 ≠ k:=fun g hg hkey =>
    hnone (any_eq_true.mpr ⟨g,hg,decide_eq_true hkey⟩)
   rw [lastField_insertField hnew]
   by_cases hk : k=key
   · rw [lastField_eq_none fun g hg=>hk ▸ hnew g hg,if_pos hk,Option.none_or]
   · rw [if_neg hk,if_neg hk,Option.or_none]

lemma lastField_decodeFields : lastField key (decodeFields number fields) =
  (lastField key fields).map (decodeAny number) := by
 induction fields with
 | nil => rfl
 | cons f fs ih =>
  obtain ⟨k,v⟩:=f
  rw [decodeFields,lastField_merge,ih,lastField]
  cases lastField key fs <;> by_cases hk : k=key <;> simp [hk]

lemma find_eq_lastField (h:Ordered fields) :
  (fields.find? fun f=>f.1=key).map Prod.snd=lastField key fields := by
 induction fields with
 | nil => rfl
 | cons f fs ih =>
  obtain ⟨k,v⟩:=f
  obtain ⟨hfirst,htail⟩:=pairwise_cons.mp h
  rw [lastField,← ih htail]
  by_cases hk : k=key
  · have hnone:fs.find? (fun f=>f.1=key)=none:=by
     refine List.find?_eq_none.mpr ?_
     intro f hf hkey
     exact absurd (hk.trans (of_decide_eq_true hkey).symm) (hfirst f hf).ne
    rw [hnone]
    simp [hk]
  · simp [hk]

end

section

variable (number:String → Option String)

lemma meanings_eq_map (items) : meanings items=items.map meaning := by
 induction items with
 | nil => rfl
 | cons v vs ih => rw [meanings,ih,map_cons]

lemma decodeItems_eq_map (items) : decodeItems number items=items.map (decodeAny number) := by
 induction items with
 | nil => rfl
 | cons v vs ih => rw [decodeItems,ih,map_cons]

lemma number_iff (literal) :
  meaning (decodeAny number (.num literal))=meaning (.num literal) ↔
   Exact number (.num literal) := by
 rw [decodeAny,meaning]
 cases hwritten : number literal with
 | none =>
  refine ⟨fun h=>by simp [meaning] at h,?_⟩
  rintro ⟨⟩
  simp_all
 | some written =>
  constructor
  · intro h
    exact .num hwritten (by simpa [meaning] using h)
  · rintro ⟨⟩
    simp_all [meaning]

mutual

lemma meaning_decodeAny_iff :
  (v:Json) → (meaning (decodeAny number v)=meaning v ↔ Exact number v)
 | .null => ⟨fun _=>.null,fun _=>rfl⟩
 | .bool b => ⟨fun _=>.bool b,fun _=>rfl⟩
 | .num literal => number_iff number literal
 | .str s => ⟨fun _=>.str s,fun _=>rfl⟩
 | .arr items => by
  have hitems:=items_iff items
  rw [decodeAny,meaning,meaning,Value.arr.injEq,decodeItems_eq_map,meanings_eq_map,
   meanings_eq_map,map_map,map_inj_left]
  constructor
  · intro h
    exact .arr fun v hv=>(hitems v hv).mp (h v hv)
  · rintro ⟨⟩ v hv
    exact (hitems v hv).mpr (by simp_all)
 | .obj fields => by
  have hfields:=fields_iff fields
  rw [decodeAny,meaning,meaning,Value.obj.injEq,funext_iff]
  constructor
  · intro h
    refine .obj fun key v hv=>(hfields _ (lastField_mem hv)).mp ?_
    have hkey:=h key
    rw [entries_eq,entries_eq,lastField_decodeFields,hv] at hkey
    exact Option.some.inj hkey
  · intro h key
    rw [entries_eq,entries_eq,lastField_decodeFields]
    cases hv : lastField key fields with
    | none => rfl
    | some v =>
     have hexact:Exact number v:=by
      cases h with
      | obj h => exact h key v hv
     exact congrArg some ((hfields _ (lastField_mem hv)).mpr hexact)

lemma items_iff : (items:List Json) → ∀ v ∈ items,
  (meaning (decodeAny number v)=meaning v ↔ Exact number v)
 | [] => by simp
 | v :: vs => forall_mem_cons.mpr ⟨meaning_decodeAny_iff v,items_iff vs⟩

lemma fields_iff : (fields:List (String × Json)) → ∀ f ∈ fields,
  (meaning (decodeAny number f.2)=meaning f.2 ↔ Exact number f.2)
 | [] => by simp
 | (_,v) :: fs => forall_mem_cons.mpr ⟨meaning_decodeAny_iff v,fields_iff fs⟩

end

end

def Value.follow : Value → List String → Option Value
 | v, [] => some v
 | .obj e, part :: parts => (e part).bind fun v => v.follow parts
 | _, _ :: _ => none

def Value.elements : Value → List Value
 | .arr items => items
 | _ => []

def rawMeaning : RawMessage → Value
 | .json v => meaning v
 | _ => .null

def ExactRaw (number : String → Option String) : RawMessage → Prop
 | .json v => Exact number v
 | _ => True

def JoinedExactly (number : String → Option String) (results : List FanOutBranchResult) : Prop :=
 (meaning (buildFanOutJoinedOutput number results)).elements.map
   (fun e => (e.follow ["name"], e.follow ["output"])) =
  results.map fun r => (some (.str r.name), some (rawMeaning r.output))

lemma joinedExactly_iff (number:String → Option String) (results) :
  JoinedExactly number results ↔ ∀ r ∈ results,ExactRaw number r.output := by
 rw [JoinedExactly,buildFanOutJoinedOutput,meaning,Value.elements,meanings_eq_map,
  map_map,map_map,map_inj_left]
 refine forall₂_congr fun r _=>?_
 cases houtput : r.output with
 | json v =>
  rw [← show _ ↔ ExactRaw number (.json v) from meaning_decodeAny_iff number v]
  simp [meaning,entries,Value.follow,rawMeaning,houtput]
 | empty | malformed text => simp [meaning,entries,Value.follow,rawMeaning,ExactRaw,houtput]

def pathParts (path : String) : List String := if path = "." then [] else splitMapPath path

def select : Json → List String → Option Json
 | v, [] => some v
 | .obj fields, part :: parts => (lastField part fields).bind fun v => select v parts
 | _, _ :: _ => none

lemma follow_meaning (v parts) : (meaning v).follow parts=(select v parts).map meaning := by
 induction parts generalizing v with
 | nil => cases v <;> rfl
 | cons part parts ih =>
  cases v with
  | obj fields =>
   rw [meaning,Value.follow,select,entries_eq]
   cases lastField part fields with
   | none => rfl
   | some u => exact ih u
  | _ => rfl

section

variable {number:String → Option String} {v:Json}

lemma followPath_decodeAny {parts w} (h:followPath (decodeAny number v) parts = .ok w) :
  ∃ u,select v parts=some u ∧ w=decodeAny number u := by
 induction parts generalizing v with
 | nil =>
  refine ⟨v,by cases v <;> rfl,?_⟩
  cases v <;> exact (Except.ok.inj h).symm
 | cons part parts ih =>
  cases v with
  | obj fields =>
   rw [decodeAny,followPath] at h
   have hfind:=@find_eq_lastField _ part (decodeFields_ordered number fields)
   rw [lastField_decodeFields] at hfind
   split at h
   · rename_i f hf
     rw [hf] at hfind
     obtain ⟨u,hu,hdecoded⟩:=Option.map_eq_some_iff.mp hfind.symm
     rw [← hdecoded] at h
     obtain ⟨t,ht,rfl⟩:=ih h
     exact ⟨t,by rw [select,hu]; exact ht,rfl⟩
   · cases h
  | num literal =>
   rw [decodeAny] at h
   cases hwritten : number literal with
   | none | some written =>
    rw [hwritten] at h
    cases h
  | _ => cases h

lemma mapPathValue_decodeAny {path w} (h:mapPathValue (decodeAny number v) path = .ok w) :
  ∃ u,select v (pathParts path)=some u ∧ w=decodeAny number u := by
 unfold mapPathValue at h
 unfold pathParts
 split at h
 · rename_i hdot
   rw [if_pos hdot]
   exact @followPath_decodeAny _ v [] _ (by cases v <;> exact h)
 · rename_i hdot
   rw [if_neg hdot]
   exact followPath_decodeAny h

lemma mapFieldValues_keys {fields out root} (h:mapFieldValues root fields = .ok out) :
  ∀ f ∈ out,f.1 ∈ fields.map Prod.fst := by
 induction fields generalizing out with
 | nil =>
  cases h
  simp
 | cons field fields ih =>
  obtain ⟨key,path⟩:=field
  rw [mapFieldValues] at h
  split at h
  · cases h
  split at h
  · cases h
  rename_i rest hrest
  cases h
  intro f hf
  rcases mem_insertField hf with rfl | hf
  · exact mem_cons_self
  · exact mem_cons_of_mem _ (ih hrest f hf)

lemma mapFieldValues_decodeAny {fields out} (hkeys:(fields.map Prod.fst).Nodup)
  (h:mapFieldValues (decodeAny number v) fields = .ok out) : ∀ f ∈ fields,
   ∃ u,select v (pathParts f.2)=some u ∧ lastField f.1 out=some (decodeAny number u) := by
 induction fields generalizing out with
 | nil => simp
 | cons field fields ih =>
  obtain ⟨key,path⟩:=field
  obtain ⟨hkey,hrestKeys⟩:=nodup_cons.mp hkeys
  rw [mapFieldValues] at h
  split at h
  · cases h
  rename_i value hvalue
  split at h
  · cases h
  rename_i rest hrest
  cases h
  have hnew:∀ f ∈ rest,f.1 ≠ key:=
   fun f hf hsame=>hkey (hsame ▸ mapFieldValues_keys hrest f hf)
  refine forall_mem_cons.mpr ⟨?_,?_⟩
  · obtain ⟨u,hu,rfl⟩:=mapPathValue_decodeAny hvalue
    exact ⟨u,hu,by rw [lastField_insertField hnew,if_pos rfl]⟩
  · intro f hf
    obtain ⟨u,hu,hlast⟩:=ih hrestKeys hrest f hf
    have hne:key ≠ f.1:=fun hsame=>hkey (mem_map.mpr ⟨f,hf,hsame.symm⟩)
    exact ⟨u,hu,by rw [lastField_insertField hnew,if_neg hne,hlast]⟩

end

def sourcePaths (path : String) (fields : StringMap) : List String :=
 if path ≠ "" then [path] else fields.map Prod.snd

def MappedExactly (path : String) (fields : StringMap) (v out : Json) : Prop :=
 if path ≠ "" then (meaning v).follow (pathParts path) = some (meaning out)
 else ∀ f ∈ fields, (meaning out).follow [f.1] = (meaning v).follow (pathParts f.2)

lemma mappedExactly_iff {number path fields v out} (hkeys:(fields.map Prod.fst).Nodup)
  (h:executeMap number path fields (.json v) = .ok (.json out)) :
  MappedExactly path fields v out ↔
   ∀ p ∈ sourcePaths path fields,∀ u,select v (pathParts p)=some u → Exact number u := by
 unfold MappedExactly sourcePaths
 rw [executeMap] at h
 split at h
 · cases h
 split at h
 · rename_i hpath
   rw [if_pos hpath,if_pos hpath]
   split at h
   · cases h
   rename_i value hvalue
   cases h
   obtain ⟨u,hu,rfl⟩:=mapPathValue_decodeAny hvalue
   rw [follow_meaning,hu,Option.map_some,Option.some.injEq,eq_comm,meaning_decodeAny_iff]
   simp [hu]
 · rename_i hpath
   rw [if_neg hpath,if_neg hpath,forall_mem_map]
   cases hvalues : mapFieldValues (decodeAny number v) fields with
   | error e => simp [hvalues,Except.map] at h
   | ok outs =>
    rw [hvalues] at h
    cases h
    refine forall₂_congr fun f hf=>?_
    obtain ⟨u,hu,hlast⟩:=mapFieldValues_decodeAny hkeys hvalues f hf
    rw [follow_meaning,follow_meaning,hu,select,hlast,Option.bind_some,select,
     Option.map_some,Option.map_some,Option.some.injEq,meaning_decodeAny_iff]
    simp

/-- The outputs of fan-out joins and of map steps stand for what they were made from exactly when
the numbers in it are kept by 64-bit floats. -/
theorem plumbing_exact_iff (number : String → Option String) :
  (∀ results, JoinedExactly number results ↔ ∀ r ∈ results, ExactRaw number r.output) ∧
  ∀ path fields v out, (fields.map Prod.fst).Nodup →
   executeMap number path fields (.json v) = .ok (.json out) →
   (MappedExactly path fields v out ↔
    ∀ p ∈ sourcePaths path fields, ∀ u, select v (pathParts p) = some u → Exact number u) :=
 ⟨joinedExactly_iff number,fun _ _ _ _ hkeys h=>mappedExactly_iff hkeys h⟩

def nearest (literal : String) : Option String :=
 if literal = "9007199254740993" then some "9007199254740992" else some literal

def counted : FanOutBranchResult := ⟨"count", .succeeded, .json (.num "9007199254740993"), none⟩

theorem small_counts_kept : JoinedExactly nearest [⟨"count", .succeeded, .json (.num "1"), none⟩] ∧
  executeMap nearest "" [("all", ".")] (.json (.arr [.num "1"])) =
   .ok (.json (.obj [("all", .arr [.num "1"])])) ∧
  MappedExactly "" [("all", ".")] (.arr [.num "1"]) (.obj [("all", .arr [.num "1"])]) := by
 have hone:Exact nearest (.num "1") := .num rfl rfl
 have hmap:executeMap nearest "" [("all",".")] (.json (.arr [.num "1"])) =
   .ok (.json (.obj [("all",.arr [.num "1"])])) := by
  simp [executeMap,decodable,itemsDecodable,mapFieldValues,mapPathValue,decodeAny,decodeItems,
   nearest,insertField,Except.map]
 refine ⟨((plumbing_exact_iff nearest).1 _).mpr (forall_mem_singleton.mpr hone),hmap,
  ((plumbing_exact_iff nearest).2 _ _ _ _ (by simp) hmap).mpr ?_⟩
 refine forall_mem_singleton.mpr ?_
 rintro u ⟨⟩
 exact .arr (forall_mem_singleton.mpr hone)

theorem joined_count_changes : ¬ JoinedExactly nearest [counted] := by
 rw [joinedExactly_iff]
 intro h
 cases h counted (mem_singleton_self _) with
 | num hwritten hvalue =>
  cases hwritten
  exact absurd hvalue (by decide +kernel)

end Lebro.ExactValues
