import Lebro.LengthPrefixes

set_option autoImplicit false

/-! The JSON decoder and the schema engine are parameters. The engine reports a refused property
name by the location of the `propertyNames` subschema, a JSON Pointer in the fragment of a URL. -/
namespace Lebro.SchemaIssues

open LengthPrefixes List

inductive Value where
 | null
 | text (s : Bytes)
 | object (fields : List (Bytes × Value))
 | array (items : List Value)
 | other (literal : Bytes)

/-- Replace the occurrences of a word from left to right, after passing over the letters that are
left of the last one. -/
def replaceFrom (old new : Bytes) : ℕ → Bytes → Bytes
 | _, [] => []
 | n + 1, _ :: text => replaceFrom old new n text
 | 0, a :: text =>
  if old <+: a :: text then new ++ replaceFrom old new (old.length - 1) text
  else a :: replaceFrom old new 0 text

def replaceAll (old new text : Bytes) : Bytes := replaceFrom old new 0 text

abbrev Path := List Bytes

inductive ErrorKind where
 | required (missing : List Bytes)
 | dependentRequired (prop : Bytes) (missing : List Bytes)
 | additionalProperties (properties : List Bytes)
 | other (text : Bytes)

inductive EngineError where
 | propertyNames (base pointer : Bytes) (location : Path) (property : Bytes)
 | failed (location : Path) (keywordPath : List Bytes) (kind : ErrorKind)
   (causes : List EngineError)

structure ValidationIssue where
 path : Bytes
 keyword : Bytes
 message : Bytes

def propertyNames : Bytes := ascii "propertyNames"

def schemaURL (base pointer : Bytes) : Bytes := base ++ 35 :: (pointer ++ 47 :: propertyNames)

def hexDigit (b : UInt8) : Option UInt8 :=
 if 48 ≤ b ∧ b ≤ 57 then some (b - 48)
 else if 97 ≤ b ∧ b ≤ 102 then some (b - 87)
 else if 65 ≤ b ∧ b ≤ 70 then some (b - 55)
 else none

def pathUnescape : Bytes → Option Bytes
 | [] => some []
 | b :: rest =>
  if b = 37 then
   match rest with
   | x :: y :: rest => do
    let high ← hexDigit x
    let low ← hexDigit y
    let rest ← pathUnescape rest
    some ((high * 16 + low) :: rest)
   | _ => none
  else (b :: ·) <$> pathUnescape rest

/-- A fragment that cannot be unescaped is read as an empty one. -/
def schemaLocationTokens (url : Bytes) : List Bytes :=
 let fragment := (url.dropWhile (· ≠ 35)).tail
 if fragment = [] then []
 else
  let fragment := (pathUnescape fragment).getD []
  let fragment := if [47] <+: fragment then fragment.tail else fragment
  (fragment.splitOn 47).map fun part =>
   replaceAll (ascii "~0") (ascii "~") (replaceAll (ascii "~1") (ascii "/") part)

def member (name : Bytes) : Value → Option Value
 | .object fields => (fields.find? fun entry => entry.1 = name).map Prod.snd
 | _ => none

structure InstanceCandidate where
 value : Value
 path : Path

def InstanceCandidate.property (name : Bytes) (c : InstanceCandidate) : Option InstanceCandidate :=
 (member name c.value).map fun value => ⟨value, c.path ++ [name]⟩

def InstanceCandidate.items (c : InstanceCandidate) : List InstanceCandidate :=
 match c.value with
 | .array items => items.zipIdx.map fun item => ⟨item.1, c.path ++ [decimal item.2]⟩
 | _ => []

/-- The candidates along the tokens; `none` is an index out of range. -/
def follow : List Bytes → List InstanceCandidate → Option (List InstanceCandidate)
 | [], cs => some cs
 | token :: tokens, cs =>
  if token = ascii "properties" then
   match tokens with
   | [] => none
   | name :: tokens => follow tokens (cs.filterMap (InstanceCandidate.property name))
  else if token = ascii "items" then follow tokens (cs.flatMap InstanceCandidate.items)
  else follow tokens cs

def findPropertyPaths (document : Value) (url property : Bytes) : Option (List Path) :=
 (follow (schemaLocationTokens url) [⟨document, []⟩]).map fun cs =>
  (cs.filterMap (InstanceCandidate.property property)).map InstanceCandidate.path

structure Collector where
 propertyPaths : Bytes → Option (List Path) := fun _ => none
 propertyOffsets : Bytes → ℕ := fun _ => 0
 issues : List ValidationIssue := []

def nextPropertyPath (document : Value) (url property : Bytes) (fallback : Path) (c : Collector) :
  Option (Path × Collector) :=
 let key := url ++ 0 :: property
 ((c.propertyPaths key).or (findPropertyPaths document url property)).map fun paths =>
  let c := { c with propertyPaths := Function.update c.propertyPaths key (some paths) }
  match paths[c.propertyOffsets key]? with
  | none => (fallback, c)
  | some path => (path, { c with
    propertyOffsets := Function.update c.propertyOffsets key (c.propertyOffsets key + 1) })

def jsonPointer (tokens : Path) : Bytes :=
 tokens.flatMap fun token =>
  ascii "/" ++ replaceAll (ascii "/") (ascii "~1") (replaceAll (ascii "~") (ascii "~0") token)

section

variable (quote:Bytes → Bytes) (document:Value)

def leafIssues (location : Path) (keyword : Bytes) : ErrorKind → List ValidationIssue
 | .required missing => missing.mergeSort.map fun property =>
  ⟨jsonPointer (location ++ [property]), keyword, ascii "required property is missing"⟩
 | .dependentRequired prop missing => missing.mergeSort.map fun property =>
  ⟨jsonPointer (location ++ [property]), keyword,
   ascii "property is required when " ++ quote prop ++ ascii " is present"⟩
 | .additionalProperties properties => properties.mergeSort.map fun property =>
  ⟨jsonPointer (location ++ [property]), keyword, ascii "additional property is not allowed"⟩
 | .other text => [⟨jsonPointer location, keyword, text⟩]

mutual

def collect : EngineError → Path → Collector → Option Collector
 | .propertyNames base pointer location property, parent, c =>
  let location := if location = [] then parent else location
  let path := location ++ [property]
  let found := if location = [] then
    nextPropertyPath document (schemaURL base pointer) property path c else some (path, c)
  found.map fun (path, c) => { c with issues := c.issues ++
   [⟨jsonPointer path, propertyNames, ascii "property name is not allowed"⟩] }
 | .failed location keywordPath kind causes, parent, c =>
  let location := if location = [] then parent else location
  if causes.isEmpty then
   some { c with issues := c.issues ++ leafIssues quote location (keywordPath.headD []) kind }
  else collectAll causes location c

def collectAll : List EngineError → Path → Collector → Option Collector
 | [], _, c => some c
 | cause :: causes, location, c => do
  let c ← collect cause location c
  collectAll causes location c

end

def issueLE (a b : ValidationIssue) : Bool :=
 if a.path ≠ b.path then a.path ≤ b.path
 else if a.keyword ≠ b.keyword then a.keyword ≤ b.keyword
 else a.message ≤ b.message

def validationIssues (err : EngineError) : Option (List ValidationIssue) :=
 (collect quote document err [] {}).map fun c => c.issues.mergeSort issueLE

/-- The issues of a value, empty if it is valid; `none` is a panic. -/
def validate (unmarshal : Bytes → Option Value) (engine : Value → Option EngineError)
  (raw : Bytes) : Option (List ValidationIssue) :=
 match unmarshal raw with
 | none => some [⟨[], ascii "json", ascii "value must be valid JSON"⟩]
 | some value =>
  match engine value with
  | some err => validationIssues quote value err
  | none => some []

end

inductive At (document : Value) : Path → Value → Prop where
 | root : At document [] document
 | member {path : Path} {v w : Value} {name : Bytes} (h : At document path v)
   (hw : member name v = some w) : At document (path ++ [name]) w
 | item {path : Path} {items : List Value} {w : Value} {i : ℕ} (h : At document path (.array items))
   (hw : items[i]? = some w) : At document (path ++ [decimal i]) w

variable {document:Value}

lemma hexDigit_slash : hexDigit 47=none := by decide +kernel

lemma suffix_of_pathUnescape {keyword} (hkeyword:pathUnescape keyword=some keyword) :
  ∀ (pointer) {text},pathUnescape (pointer++47 :: keyword)=some text → 47 :: keyword <:+ text
 | [], text, h => by
  unfold pathUnescape at h
  change (47 :: ·) <$> pathUnescape keyword=_ at h
  rw [hkeyword] at h
  cases h
  exact suffix_rfl
 | b :: pointer, text, h => by
  unfold pathUnescape at h
  simp only [cons_append] at h
  split at h
  · split at h
    · next x y rest heq =>
      simp only [Option.bind_eq_bind,Option.bind_eq_some_iff] at h
      obtain ⟨_,hx,_,hy,unescaped,hrest,⟨⟩⟩:=h
      -- The slash before the keyword is no hexadecimal digit, so no escape reaches over it.
      match pointer, heq with
      | [], heq =>
       cases heq
       cases hexDigit_slash.symm.trans hx
      | [_], heq =>
       cases heq
       cases hexDigit_slash.symm.trans hy
      | _ :: _ :: pointer, heq =>
       cases heq
       exact (suffix_of_pathUnescape hkeyword pointer hrest).trans (suffix_cons _ _)
    · cases h
  · obtain ⟨rest,hrest,rfl⟩:=Option.map_eq_some_iff.mp h
    exact (suffix_of_pathUnescape hkeyword pointer hrest).trans (suffix_cons _ _)

lemma fragment_eq {base pointer} : ∃ longer,
  ((schemaURL base pointer).dropWhile (· ≠ 35)).tail=longer++47 :: propertyNames := by
 unfold schemaURL
 induction base with
 | nil => exact ⟨pointer,rfl⟩
 | cons b base ih =>
  by_cases hb : b=35
  · exact ⟨base++35 :: pointer,by simp [hb]⟩
  · simpa [hb] using ih

lemma getLast_splitOn {text:Bytes} :
  ((text++47 :: propertyNames).splitOn 47).getLast? = some propertyNames := by
 rw [splitOn,splitOnP_append_cons _ _ (by decide),getLast?_append]
 have hlast:(splitOnP (· == 47) propertyNames).getLast? = some propertyNames := by decide +kernel
 rw [hlast]
 rfl

lemma tokens_last {base pointer} :
  (schemaLocationTokens (schemaURL base pointer)).getLast? ≠ some (ascii "properties") := by
 obtain ⟨longer,hfragment⟩:=fragment_eq
 rw [schemaLocationTokens,hfragment,if_neg (by simp),getLast?_map]
 cases htext : pathUnescape (longer++47 :: propertyNames) with
 | none => decide +kernel
 | some text =>
  obtain ⟨start,rfl⟩:=suffix_of_pathUnescape (by decide +kernel) longer htext
  have hlast:((if [47] <+: start++47 :: propertyNames then
    (start++47 :: propertyNames).tail else start++47 :: propertyNames).splitOn 47).getLast? =
    some propertyNames := by
   split
   · cases start with
     | nil => decide +kernel
     | cons b start => exact getLast_splitOn
   · exact getLast_splitOn
  rw [Option.getD_some,hlast]
  decide +kernel

lemma follow_isSome : ∀ {tokens:List Bytes} (cs),
  tokens.getLast? ≠ some (ascii "properties") → (follow tokens cs).isSome
 | [], _, _ => rfl
 | [token], cs, h => by
  rw [follow,if_neg (by simpa using h)]
  split <;> rfl
 | token :: name :: tokens, cs, h => by
  rw [getLast?_cons_cons] at h
  unfold follow
  split
  · apply follow_isSome
    cases tokens with
    | nil => nofun
    | cons t ts => exact h
  split <;> exact follow_isSome _ h

lemma At.property {c:InstanceCandidate} (h:At document c.path c.value) {name d}
  (hd:c.property name=some d) : At document d.path d.value := by
 obtain ⟨w,hw,rfl⟩:=Option.map_eq_some_iff.mp hd
 exact h.member hw

lemma At.items {c d:InstanceCandidate} (h:At document c.path c.value) (hd:d ∈ c.items) :
  At document d.path d.value := by
 unfold InstanceCandidate.items at hd
 split at hd
 · next items hitems =>
   obtain ⟨⟨w,i⟩,hw,rfl⟩:=mem_map.mp hd
   rw [hitems] at h
   exact h.item (mem_zipIdx_iff_getElem?.mp hw)
 · cases hd

lemma follow_at : ∀ (tokens) {cs cs'},(∀ c ∈ cs,At document c.path c.value) →
  follow tokens cs=some cs' → ∀ c ∈ cs',At document c.path c.value
 | [], cs, cs', hcs, h => by
  cases h
  exact hcs
 | token :: tokens, cs, cs', hcs, h => by
  unfold follow at h
  split at h
  · match tokens, h with
    | name :: tokens, h =>
     refine follow_at tokens ?_ h
     intro d hd
     obtain ⟨c,hc,hd⟩:=mem_filterMap.mp hd
     exact (hcs c hc).property hd
  split at h
  · refine follow_at tokens ?_ h
    intro d hd
    obtain ⟨c,hc,hd⟩:=mem_flatMap.mp hd
    exact (hcs c hc).items hd
  · exact follow_at tokens hcs h

lemma findPropertyPaths_isSome {document base pointer property} :
  (findPropertyPaths document (schemaURL base pointer) property).isSome := by
 rw [findPropertyPaths,Option.isSome_map]
 exact follow_isSome _ (tokens_last)

section

variable {quote:Bytes → Bytes}

mutual

lemma collect_isSome : ∀ (err parent c),(collect quote document err parent c).isSome
 | .propertyNames base pointer location property, parent, c => by
  rw [collect,Option.isSome_map]
  generalize (if location=[] then parent else location)=here
  split
  · rw [nextPropertyPath,Option.isSome_map,Option.isSome_or,
     findPropertyPaths_isSome,Bool.or_true]
  · rfl
 | .failed location keywordPath kind causes, parent, c => by
  rw [collect]
  split
  · rfl
  · exact collectAll_isSome causes _ c

lemma collectAll_isSome :
  ∀ (causes location c),(collectAll quote document causes location c).isSome
 | [], _, _ => rfl
 | cause :: causes, location, c => by
  obtain ⟨c,hc⟩:=Option.isSome_iff_exists.mp (collect_isSome cause location c)
  rw [collectAll,hc]
  exact collectAll_isSome causes location c

end

end

theorem validate_total_and_paths_exist (quote : Bytes → Bytes) (unmarshal : Bytes → Option Value)
  (engine : Value → Option EngineError) (raw : Bytes) :
  (validate quote unmarshal engine raw).isSome ∧
  ∀ document url property paths, findPropertyPaths document url property = some paths →
   ∀ path ∈ paths, ∃ parent v w, path = parent ++ [property] ∧ At document parent v ∧
    member property v = some w := by
 constructor
 · unfold validate
   split
   · rfl
   split
   · rw [validationIssues,Option.isSome_map]
     exact collect_isSome _ _ _
   · rfl
 intro document url property paths hpaths path hpath
 obtain ⟨cs,hcs,rfl⟩:=Option.map_eq_some_iff.mp hpaths
 obtain ⟨d,hd,rfl⟩:=mem_map.mp hpath
 obtain ⟨c,hc,hd⟩:=mem_filterMap.mp hd
 obtain ⟨w,hw,rfl⟩:=Option.map_eq_some_iff.mp hd
 refine ⟨c.path,c.value,w,rfl,follow_at _ ?_ hcs c hc,hw⟩
 simpa using At.root

end Lebro.SchemaIssues
