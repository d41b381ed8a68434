import Lebro.ExactValues
import Lebro.RetrievalScope
import Mathlib

set_option autoImplicit false

/-! Chunks repeat the end of the one before and are stored with their provenance. Texts are lists of
their runes. -/
namespace Lebro.DocumentChunks

open RuntimeTypes JsonCodec CanonicalJson ExactValues RetrievalScope List

abbrev Text := List Char

structure Document where
 id : String
 content : String
 source : String := ""
 metadata : RawMessage := .empty

def Document.validate (d : Document) : Option Err :=
 if d.id = "" then some (.new "lebro: document ID is required")
 else if d.content = "" then some (.new "lebro: document content is required")
 else
  match d.metadata with
  | .empty => none
  | .json .null => some (.new "lebro: document metadata must be a JSON object, got null")
  | metadata =>
   match decodeObject metadata with
   | none => some (.new "lebro: document metadata must be a JSON object")
   | some fields =>
    (provenanceKeys.find? fun key => fields.any fun f => f.1 = key).map fun key =>
     .new ("lebro: document metadata must not set reserved key " ++ quote key)

def chunkID (documentID : String) (index : ℕ) : String := documentID ++ "#" ++ toString index

structure RecursiveChunkerConfig where
 size : ℤ := 0
 overlap : ℤ := 0
 separators : Option (List Text) := none

structure RecursiveChunker where
 size : ℕ
 overlap : ℕ
 separators : List Text
 overlap_lt : overlap < size
 fallback : [] ∈ separators

def chunkerSize (size : ℤ) : Except Err ℕ :=
 if size = 0 then .ok 1000
 else if size < 0 then .error (.new "lebro: chunk size must not be negative")
 else .ok size.toNat

def preferred : Option (List Text) → List Text
 | none => ["\n\n".toList, "\n".toList, " ".toList, []]
 | some separators => if separators.getLast? = some [] then separators else separators ++ [[]]

lemma preferred_fallback {separators} : [] ∈ preferred separators := by
 cases separators with
 | none => simp [preferred]
 | some separators =>
  rw [preferred]
  split
  · rename_i hlast
    exact mem_of_getLast? hlast
  · simp

def newRecursiveChunker (config : RecursiveChunkerConfig) : Except Err RecursiveChunker := do
 let size ← chunkerSize config.size
 if config.overlap < 0 then .error (.new "lebro: chunk overlap must not be negative")
 else if h : config.overlap.toNat < size then
  .ok ⟨size, config.overlap.toNat, preferred config.separators, h,
   preferred_fallback⟩
 else
  .error (.new ("lebro: chunk overlap " ++ toString config.overlap ++
   " must be less than chunk size " ++ toString size))

/-- `strings.SplitAfter` for a separator that is not empty; of the separator at hand, `left` runes
are still to come. -/
def splitAfter (separator : Text) : ℕ → Text → Text → List Text
 | _, part, [] => [part]
 | left, part, r :: text =>
  let left := if left = 0 ∧ separator <+: r :: text then separator.length else left
  if left = 1 then (part ++ [r]) :: splitAfter separator 0 [] text
  else splitAfter separator (left - 1) (part ++ [r]) text

def splitRunes (text : Text) : List Text := text.map ([·])

/-- A separator that the text does not have is passed over. -/
def splitAt (size : ℕ) : List Text → Text → List Text
 | [], text => [text]
 | separator :: separators, text =>
  if text.length ≤ size then [text]
  else if separator = [] then splitRunes text
  else if separator <:+: text then
   ((splitAfter separator 0 [] text).filter (· ≠ [])).flatMap fun part =>
     if part.length ≤ size then [part] else splitAt size separators part
  else splitAt size separators text

def suffixRunes (text : Text) (count : ℕ) : Text :=
 if text.length ≤ count then text else text.drop (text.length - count)

/-- The overlap loses runes until the part fits; without any left, the slice is out of range. -/
def trimPrefix (size partRunes : ℕ) : Text → Except Err Text
 | [] => if size < partRunes then .error (.new "slice bounds out of range") else .ok []
 | r :: runes =>
  if size < (r :: runes).length + partRunes then trimPrefix size partRunes runes
  else .ok (r :: runes)

def flushed (chunks : List Text) (current : Text) : List Text :=
 if current = [] then chunks else chunks ++ [current]

/-- The context is asked before each part; `ctx n` is its n-th answer. -/
def mergeParts (ctx : ℕ → Option Err) (size overlap : ℕ) :
  ℕ → List Text → Text → List Text → Except Err (List Text)
 | _, chunks, current, [] => .ok (flushed chunks current)
 | n, chunks, current, part :: parts =>
  match ctx n with
  | some e => .error e
  | none =>
   if part = [] then mergeParts ctx size overlap (n + 1) chunks current parts
   else if current.length + part.length ≤ size then
    mergeParts ctx size overlap (n + 1) chunks (current ++ part) parts
   else do
    let kept ← trimPrefix size part.length (suffixRunes current overlap)
    mergeParts ctx size overlap (n + 1) (flushed chunks current) (kept ++ part) parts

def chunkContents (document : Document) (contents : List Text) : List Chunk :=
 contents.mapIdx fun index content => {
  id := chunkID document.id index
  documentID := document.id
  content := String.ofList content
  source := document.source
  index := index
  metadata := document.metadata }

def RecursiveChunker.chunk (c : RecursiveChunker) (ctx : ℕ → Option Err) (document : Document) :
  Except Err (List Chunk) :=
 match ctx 0, document.validate with
 | some e, _ => .error e
 | none, some e => .error (e.wrap ("lebro: rag_invalid_document for document " ++
   quote document.id ++ ": "))
 | none, none =>
  (mergeParts ctx c.size c.overlap 1 [] [] (splitAt c.size c.separators document.content.toList)).map
   (chunkContents document)

lemma splitAfter_flatten (separator left) (part text) :
  (splitAfter separator left part text).flatten=part++text := by
 induction text generalizing left part with
 | nil => simp [splitAfter]
 | cons r text ih =>
  rw [splitAfter]
  generalize (if left=0 ∧ separator <+: r :: text then separator.length else left)=left'
  split
  · simp [ih]
  · simp [ih]

lemma flatten_flatMap {cut} (hcut:∀ part,(cut part).flatten=part) (parts:List Text) :
  ((parts.filter (· ≠ [])).flatMap cut).flatten=parts.flatten := by
 induction parts with
 | nil => rfl
 | cons part parts ih =>
  by_cases hpart : part=[]
  · simpa [hpart] using ih
  · simpa [hpart,hcut part] using ih

lemma splitAt_spec {size} (hsize:0 < size) {separators} (hfallback:[] ∈ separators) (text) :
  (splitAt size separators text).flatten=text ∧
   ∀ part ∈ splitAt size separators text,part.length ≤ size := by
 induction separators generalizing text with
 | nil => cases hfallback
 | cons separator separators ih =>
  rw [splitAt]
  split
  · rename_i hfits
    simpa using hfits
  · split
    · refine ⟨by rw [splitRunes,← flatMap_def,flatMap_singleton'],?_⟩
      intro part hpart
      obtain ⟨r,-,rfl⟩:=mem_map.mp hpart
      exact hsize
    · rename_i hseparator
      have hrest:=ih ((mem_cons.mp hfallback).resolve_left fun h=>hseparator h.symm)
      split
      · refine ⟨?_,?_⟩
        · rw [flatten_flatMap,splitAfter_flatten,nil_append]
          intro part
          split
          · exact append_nil part
          · exact (hrest part).1
        · intro part hpart
          obtain ⟨long,-,hpart⟩:=mem_flatMap.mp hpart
          split at hpart
          · rename_i hfits
            exact mem_singleton.mp hpart ▸ hfits
          · exact (hrest long).2 part hpart
      · exact hrest text

/-- The chunks before the current one, the current chunk and the text of them all: a chunk is a
short end of the one before it and then new text. -/
inductive Spans (overlap : ℕ) : List Text → Text → Text → Prop where
 | first (text : Text) : Spans overlap [] text text
 | next {earlier : List Text} {previous text kept new : Text}
   (h : Spans overlap earlier previous text) (hkept : kept <:+ previous)
   (hlength : kept.length ≤ overlap) (hnew : new ≠ []) :
   Spans overlap (earlier ++ [previous]) (kept ++ new) (text ++ new)

section

variable {size overlap:ℕ} {chunks:List Text} {current text:Text}

lemma Spans.extend (h:Spans overlap chunks current text) (part) :
  Spans overlap chunks (current++part) (text++part) := by
 cases h with
 | first => exact .first _
 | next h hkept hlength hnew =>
  rw [append_assoc,append_assoc]
  exact .next h hkept hlength (by simp [hnew])

lemma suffixRunes_suffix {text count} :
  suffixRunes text count <:+ text ∧ (suffixRunes text count).length ≤ count := by
 unfold suffixRunes
 split
 · rename_i hle
   exact ⟨suffix_refl text,hle⟩
 · refine ⟨drop_suffix _ _,?_⟩
   rw [length_drop]
   omega

lemma trimPrefix_spec {partRunes} (h:partRunes ≤ size) (runes) :
  ∃ kept,trimPrefix size partRunes runes = .ok kept ∧ kept <:+ runes ∧
   kept.length+partRunes ≤ size := by
 induction runes with
 | nil => exact ⟨[],by rw [trimPrefix,if_neg (by omega)],suffix_refl [],by simpa using h⟩
 | cons r runes ih =>
  rw [trimPrefix]
  split
  · obtain ⟨kept,hkept,hsuffix,hlength⟩:=ih
    exact ⟨kept,hkept,hsuffix.trans (suffix_cons r runes),hlength⟩
  · rename_i hfits
    exact ⟨_,rfl,suffix_refl _,by omega⟩

/-- What holds between two parts: only at the start there is no current text. -/
structure Merging (size overlap : ℕ) (chunks : List Text) (current text : Text) : Prop where
 spans : Spans overlap chunks current text
 sized : ∀ chunk ∈ chunks, chunk ≠ [] ∧ chunk.length ≤ size
 fits : current.length ≤ size
 started : current = [] → text = []

structure Chunked (size overlap : ℕ) (text : Text) (contents : List Text) : Prop where
 sized : ∀ content ∈ contents, content ≠ [] ∧ content.length ≤ size
 spans : ∃ earlier last, contents = earlier ++ [last] ∧ Spans overlap earlier last text

lemma Merging.step (h:Merging size overlap chunks current text) {part kept} (hpart:part ≠ [])
  (hlong:size < current.length+part.length) (hfits:part.length ≤ size)
  (hkept:kept <:+ suffixRunes current overlap) (hlength:kept.length+part.length ≤ size) :
  Merging size overlap (flushed chunks current) (kept++part) (text++part) := by
 have hcurrent:current ≠ []:=by
  rintro rfl
  rw [length_nil] at hlong
  omega
 obtain ⟨hsuffix,hshort⟩:=suffixRunes_suffix
 rw [flushed,if_neg hcurrent]
 refine ⟨.next h.spans (hkept.trans hsuffix) (hkept.length_le.trans hshort) hpart,?_,?_,?_⟩
 · intro chunk hchunk
   rcases mem_append.mp hchunk with hchunk | hchunk
   · exact h.sized chunk hchunk
   · rw [mem_singleton.mp hchunk]
     exact ⟨hcurrent,h.fits⟩
 · rwa [length_append]
 · intro hnil
   exact absurd (append_eq_nil_iff.mp hnil).2 hpart

lemma mergeParts_spec (ctx:ℕ → Option Err) (n parts)
  (hparts:∀ part ∈ parts,part.length ≤ size) (h:Merging size overlap chunks current text)
  (htext:text++parts.flatten ≠ []) :
  (∃ i e,ctx i=some e ∧ mergeParts ctx size overlap n chunks current parts = .error e) ∨
   ∃ contents,mergeParts ctx size overlap n chunks current parts = .ok contents ∧
    Chunked size overlap (text++parts.flatten) contents := by
 induction parts generalizing n chunks current text with
 | nil =>
  rw [flatten_nil,append_nil] at htext ⊢
  have hcurrent:current ≠ []:=fun hnil=>htext (h.started hnil)
  refine .inr ⟨_,rfl,?_,?_⟩
  · rw [flushed,if_neg hcurrent]
    intro content hcontent
    rcases mem_append.mp hcontent with hcontent | hcontent
    · exact h.sized content hcontent
    · rw [mem_singleton.mp hcontent]
      exact ⟨hcurrent,h.fits⟩
  · exact ⟨chunks,current,by rw [flushed,if_neg hcurrent],h.spans⟩
 | cons part parts ih =>
  obtain ⟨hpart,hparts⟩:=forall_mem_cons.mp hparts
  rw [mergeParts]
  cases hctx : ctx n with
  | some e => exact .inl ⟨n,e,hctx,rfl⟩
  | none =>
   dsimp only
   rw [flatten_cons,← append_assoc] at htext ⊢
   split
   · rename_i hnil
     rw [hnil,append_nil] at htext ⊢
     exact ih (n+1) hparts h htext
   · rename_i hne
     split
     · rename_i hle
       refine ih (n+1) hparts ⟨h.spans.extend part,h.sized,?_,?_⟩ htext
       · rwa [length_append]
       · intro hnil
         exact absurd (append_eq_nil_iff.mp hnil).2 hne
     · rename_i hlong
       obtain ⟨kept,hkept,hsuffix,hlength⟩:=trimPrefix_spec hpart (suffixRunes current overlap)
       rw [hkept]
       exact ih (n+1) hparts (h.step hne (by omega) hpart hsuffix hlength) htext

end

structure ChunksOf (c : RecursiveChunker) (document : Document) (chunks : List Chunk) : Prop where
 indexes : ∀ (i : ℕ) (h : i < chunks.length), chunks[i].index = i
 texts : Chunked c.size c.overlap document.content.toList
  (chunks.map fun chunk => chunk.content.toList)

lemma chunksOf_contents {c} {document contents}
  (h:Chunked c.size c.overlap document.content.toList contents) :
  ChunksOf c document (chunkContents document contents) := by
 have hmap:(chunkContents document contents).map (fun chunk=>chunk.content.toList) =
   contents := by
  unfold chunkContents
  apply ext_getElem (by simp)
  intro i _ _
  simp
 refine ⟨?_,by rwa [hmap]⟩
 intro i hi
 simp [chunkContents]

lemma validate_content {document:Document} (h:document.validate=none) :
  document.content.toList ≠ [] := by
 intro hnil
 unfold Document.validate at h
 rw [String.toList_eq_nil_iff.mp hnil] at h
 split at h
 · cases h
 · cases h

/-- Chunking a valid document gives chunks of it, unless the context ends. -/
theorem recursive_chunks_rebuild (config : RecursiveChunkerConfig) (c : RecursiveChunker)
  (_ : newRecursiveChunker config = .ok c) (ctx : ℕ → Option Err) (document : Document)
  (hvalid : document.validate = none) :
  (∃ i e, ctx i = some e ∧ c.chunk ctx document = .error e) ∨
   ∃ chunks, c.chunk ctx document = .ok chunks ∧ ChunksOf c document chunks := by
 unfold RecursiveChunker.chunk
 cases hctx : ctx 0 with
 | some e => exact .inl ⟨0,e,hctx,rfl⟩
 | none =>
  rw [hvalid]
  obtain ⟨hflatten,hsized⟩:=splitAt_spec (Nat.zero_lt_of_lt c.overlap_lt) c.fallback
   document.content.toList
  have hstart:Merging c.size c.overlap [] [] [] :=
   ⟨.first [],fun _ h=>absurd h not_mem_nil,Nat.zero_le _,fun _=>rfl⟩
  have hmerged:=mergeParts_spec ctx 1 _ hsized hstart
   (by rw [nil_append,hflatten]; exact validate_content hvalid)
  rw [nil_append,hflatten] at hmerged
  rcases hmerged with ⟨i,e,he,herror⟩ | ⟨contents,hok,hchunked⟩
  · exact .inl ⟨i,e,he,by rw [herror]; rfl⟩
  · exact .inr ⟨_,by rw [hok]; rfl,chunksOf_contents hchunked⟩

def words : Document := ⟨"notes", "ab cd", "", .empty⟩

def wordChunker : RecursiveChunker := ⟨4, 1, preferred none, by decide, preferred_fallback⟩

theorem words_rebuilt : ∃ chunks, wordChunker.chunk (fun _ => none) words = .ok chunks ∧
  ChunksOf wordChunker words chunks := by
 refine (recursive_chunks_rebuild { size := 4, overlap := 1 } wordChunker rfl (fun _=>none)
  words rfl).resolve_left ?_
 rintro ⟨i,e,he,-⟩
 cases he

def provenance (chunk : Chunk) : List (String × Json) :=
 [("document_id", .str chunk.documentID), ("chunk_index", .num (toString chunk.index))] ++
   if chunk.source = "" then [] else [("source", .str chunk.source)]

/-- The provenance replaces entries of its keys. -/
def chunkMetadata (chunk : Chunk) : Except Err RawMessage :=
 match if chunk.metadata.isEmpty then some [] else decodeObject chunk.metadata with
 | none => .error (.new "lebro: chunk metadata must be a JSON object")
 | some fields => .ok (.json (.obj (mapFields (fields ++ provenance chunk))))

section

variable {key:String} {fields:List (String × Json)}

lemma mapFields_ordered {fields} : Ordered (mapFields fields) := by
 induction fields with
 | nil => exact List.Pairwise.nil
 | cons f fields ih =>
  rw [mapFields]
  split
  · exact ih
  · rename_i hnew
    exact insertField_ordered _ ih (not_any_key (Bool.eq_false_iff.mpr hnew))

lemma lastField_mapFields : lastField key (mapFields fields)=lastField key fields := by
 induction fields with
 | nil => rfl
 | cons f fields ih => rw [mapFields,lastField_merge,ih,lastField]

lemma lastField_append (more) :
  lastField key (fields++more)=(lastField key more).or (lastField key fields) := by
 induction fields with
 | nil => exact (Option.or_none).symm
 | cons f fields ih => rw [cons_append,lastField,ih,lastField,Option.or_assoc]

lemma lastField_filter (keys:List String) :
  lastField key (fields.filter fun f=>f.1 ∉ keys) =
   if key ∈ keys then none else lastField key fields := by
 induction fields with
 | nil => simp [lastField]
 | cons f fields ih =>
  by_cases hkey : key ∈ keys
  · refine (lastField_eq_none ?_).trans (if_pos hkey).symm
    intro g hg heq
    exact of_decide_eq_true (mem_filter.mp hg).2 (heq ▸ hkey)
  · rw [if_neg hkey] at ih ⊢
    by_cases hf : f.1 ∈ keys
    · have hne:f.1 ≠ key:=fun heq=>hkey (heq ▸ hf)
      rw [filter_cons_of_neg (by simpa using hf),ih,lastField,if_neg hne,Option.or_none]
    · rw [filter_cons_of_pos (by simpa using hf),lastField,ih,lastField]

lemma lookupField_mapFields : lookupField key (mapFields fields)=lastField key fields :=
  (find_eq_lastField (mapFields_ordered)).trans lastField_mapFields

lemma validate_metadata {document:Document} (h:document.validate=none) :
  document.id ≠ "" ∧ ∃ fields,
   (if document.metadata.isEmpty then some [] else decodeObject document.metadata) =
     some fields ∧
    (∀ key ∈ provenanceKeys,lastField key fields=none) := by
 unfold Document.validate at h
 split at h
 · cases h
 rename_i hid
 refine ⟨hid,?_⟩
 split at h
 · cases h
 split at h
 · rename_i hempty
   exact ⟨[],by rw [hempty]; rfl,fun _ _=>rfl⟩
 · cases h
 · rename_i hpresent _
   split at h
   · cases h
   rename_i fields hfields
   refine ⟨fields,?_,?_⟩
   · rw [if_neg,hfields]
     intro hempty
     cases hmetadata : document.metadata with
     | empty => exact hpresent hmetadata
     | _ => rw [hmetadata] at hempty; cases hempty
   · intro key hkey
     have hfound:=List.find?_eq_none.mp (Option.map_eq_none_iff.mp h) key hkey
     exact lastField_eq_none (not_any_key (Bool.eq_false_iff.mpr hfound))

/-- What the metadata of a chunk stands for; there is no difference between none and `{}`. -/
def metadataEntries : RawMessage → String → Option Value
 | .json (.obj fields) => entries fields
 | _ => fun _ => none

lemma lastField_provenance {chunk} (h:key ∉ provenanceKeys) :
  lastField key (provenance chunk)=none := by
 obtain ⟨hid,hsource,hindex⟩ : "document_id" ≠ key ∧ "source" ≠ key ∧ "chunk_index" ≠ key := by
  simpa [provenanceKeys,eq_comm] using h
 unfold provenance
 split
 · simp [lastField,hid,hindex]
 · simp [lastField,hid,hsource,hindex]

lemma metadataEntries_decoded {metadata}
  (h:(if metadata.isEmpty then some [] else decodeObject metadata)=some fields) :
  metadataEntries metadata key=(lastField key fields).map meaning := by
 cases metadata with
 | empty =>
  cases h
  rfl
 | malformed text => cases h
 | json v =>
  cases v with
  | obj decoded =>
   cases h
   rw [lastField_mapFields]
   exact entries_eq
  | null =>
   cases h
   rfl
  | _ => cases h

lemma metadataEntries_rest (rest) :
  metadataEntries (if rest.isEmpty then .empty else .json (.obj rest)) key =
   (lastField key rest).map meaning := by
 split
 · rename_i hempty
   rw [isEmpty_iff.mp hempty]
   rfl
 · exact entries_eq

lemma read_provenance {chunk stored}
  (hstored:∀ key ∈ provenanceKeys,lookupField key stored=lastField key (provenance chunk))
  (hid:chunk.documentID ≠ "") (hindex:0 ≤ chunk.index ∧ chunk.index < 2 ^ 63) :
  provenanceText "document_id" "document ID" stored = .ok chunk.documentID ∧
   provenanceText "source" "source" stored = .ok chunk.source ∧
   provenanceIndex stored = .ok chunk.index := by
 refine ⟨?_,?_,?_⟩
 · have hfield:lastField "document_id" (provenance chunk)=some (.str chunk.documentID):=by
    unfold provenance
    split
    · simp [lastField]
    · simp [lastField]
   rw [provenanceText,hstored _ (by simp [provenanceKeys]),hfield]
   simp [decodeString,hid]
 · rw [provenanceText,hstored _ (by simp [provenanceKeys])]
   by_cases hsource : chunk.source = ""
   · simp [provenance,hsource,lastField]
   · simp [provenance,hsource,lastField,decodeString]
 · have hfield:lastField "chunk_index" (provenance chunk)=some (.num chunk.index.repr):=by
    unfold provenance
    split
    · simp [lastField]
    · simp [lastField]
   have hdecoded:decodeInt (.num chunk.index.repr)=some chunk.index:=by
    rw [decodeInt,Int.toInt?_repr]
    exact Option.filter_eq_some_iff.mpr ⟨rfl,by simp; omega⟩
   rw [provenanceIndex,hstored _ (by simp [provenanceKeys]),hfield]
   dsimp only
   rw [hdecoded]
   dsimp only
   rw [if_neg (by omega)]

/-- A chunk that is stored with its metadata is read back as it was. -/
theorem provenance_survives {Score : Type} (document : Document) (hvalid : document.validate = none)
  (contents : List Text) (hcount : contents.length ≤ 2 ^ 63) (chunk : Chunk)
  (hchunk : chunk ∈ chunkContents document contents) (score : Score) :
  ∃ metadata restored, chunkMetadata chunk = .ok metadata ∧
   chunkFromMetadata ⟨chunk.id, score, metadata, chunk.content⟩ = .ok restored ∧
   { restored with metadata := chunk.metadata } = chunk ∧
   metadataEntries restored.metadata = metadataEntries chunk.metadata := by
 obtain ⟨hid,fields,hfields,hreserved⟩:=validate_metadata hvalid
 obtain ⟨hid,hindex,hfields⟩ : chunk.documentID ≠ "" ∧
   (0 ≤ chunk.index ∧ chunk.index < 2 ^ 63) ∧
   (if chunk.metadata.isEmpty then some [] else decodeObject chunk.metadata) = some fields := by
  obtain ⟨index,hindex,rfl⟩:=mem_mapIdx.mp hchunk
  exact ⟨hid,by dsimp only; omega,hfields⟩
 have hlast:∀ key, lastField key (mapFields (fields ++ provenance chunk)) =
   (lastField key (provenance chunk)).or (lastField key fields) := by
  intro key
  rw [lastField_mapFields,lastField_append]
 obtain ⟨hdocument,hsource,hread⟩:=@read_provenance chunk
  (mapFields (mapFields (fields ++ provenance chunk)))
  (fun key hkey=>by rw [lookupField_mapFields,hlast,hreserved key hkey,Option.or_none])
  hid hindex
 let rest:=(mapFields (mapFields (fields ++ provenance chunk))).filter fun f =>
  f.1 ∉ provenanceKeys
 refine ⟨_,{ chunk with metadata := if rest.isEmpty then .empty else .json (.obj rest) },
  by rw [chunkMetadata,hfields],?_,rfl,?_⟩
 · simp only [chunkFromMetadata,decodeObject,hdocument,hsource,hread]
   rfl
 · funext key
   rw [metadataEntries_rest,metadataEntries_decoded hfields,lastField_filter,
    lastField_mapFields,hlast]
   by_cases hkey : key ∈ provenanceKeys
   · rw [if_pos hkey,hreserved key hkey]
   · rw [if_neg hkey,lastField_provenance hkey,Option.none_or]

end

def taggedWords : Document := { words with metadata := .json (.obj [("lang", .str "en")]) }

def taggedChunk : Chunk := ⟨"notes#0", "notes", "ab", "", 0, taggedWords.metadata⟩

theorem tagged_chunk_survives : ∃ metadata restored, chunkMetadata taggedChunk = .ok metadata ∧
  chunkFromMetadata ⟨taggedChunk.id, (1 : ℕ), metadata, taggedChunk.content⟩ = .ok restored ∧
  { restored with metadata := taggedChunk.metadata } = taggedChunk ∧
  metadataEntries restored.metadata = metadataEntries taggedChunk.metadata :=
  provenance_survives taggedWords rfl [['a','b']] (by decide) taggedChunk
    (mem_singleton.mpr rfl) 1

end Lebro.DocumentChunks
