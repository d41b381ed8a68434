import Lebro.CanonicalJson
import Mathlib.Data.List.Forall2
import Mathlib.Data.List.Nodup

set_option autoImplicit false

/-! Scores are of any type with a comparison; similarities are what the store computes. -/
namespace Lebro.RetrievalScope

open EffectProgram RuntimeTypes JsonCodec AgentEffects List

structure VectorMetadataFilter where
 wanted : List (String × RawMessage) := []
 distinct : (wanted.map Prod.fst).Nodup := by simp

def VectorMetadataFilter.keys (f : VectorMetadataFilter) : List String := f.wanted.map Prod.fst

def mergeVectorMetadataFilters (caller enforced : VectorMetadataFilter) : VectorMetadataFilter where
 wanted := enforced.wanted ++ caller.wanted.filter fun f => f.1 ∉ enforced.keys
 distinct := by
  rw [map_append]
  refine enforced.distinct.append (caller.distinct.sublist (filter_sublist.map _)) ?_
  intro key hkey hkey'
  obtain ⟨f, hf, rfl⟩ := mem_map.mp hkey'
  exact of_decide_eq_true (mem_filter.mp hf).2 hkey

/-- The entries of a decoded object: the last value of each key, in key order. -/
def mapFields : List (String × Json) → List (String × Json)
 | [] => []
 | (k, v) :: fs =>
  let rest := mapFields fs
  if rest.any fun f => f.1 = k then rest else insertField k v rest

/-- Decoding into a map of raw messages; null leaves the map empty. -/
def decodeObject : RawMessage → Option (List (String × Json))
 | .json (.obj fields) => some (mapFields fields)
 | .json .null => some []
 | _ => none

def lookupField (key : String) (fields : List (String × Json)) : Option Json :=
 (fields.find? fun f => f.1 = key).map Prod.snd

def jsonEqual : RawMessage → RawMessage → Bool
 | .empty, .empty => true
 | .json a, .json b => jsonEq (decodeAny some a) (decodeAny some b)
 | _, _ => false

variable (metadata:RawMessage)

def metadataMatches (f : VectorMetadataFilter) : Bool :=
 if f.wanted.isEmpty then true
 else
  match decodeObject metadata with
  | none => false
  | some fields => f.wanted.all fun w =>
    match lookupField w.1 fields with
    | none => false
    | some got => jsonEqual (.json got) w.2

structure EmbeddingRecord (Score : Type) where
 id : String
 vector : List Score
 metadata : RawMessage := .empty
 content : String := ""

structure SimilarityQuery (Score : Type) where
 vector : List Score
 index : String
 filter : VectorMetadataFilter
 topK : Int
 minScore : Score

structure SimilarityResult (Score : Type) where
 id : String
 score : Score
 metadata : RawMessage := .empty
 content : String := ""

structure Chunk where
 id : String
 documentID : String := ""
 content : String
 source : String := ""
 index : Int := 0
 metadata : RawMessage := .empty

structure RetrievedChunk (Score : Type) where
 chunk : Chunk
 score : Score
 vectorScore : Option Score := none
 scoreExplanation : String := ""

structure RerankResult (Score : Type) where
 candidate : RetrievedChunk Score
 score : Score
 explanation : String := ""

structure RetrievalQuery (Score : Type) where
 query : String
 topK : Int
 minScore : Score
 filter : VectorMetadataFilter

inductive RAGErrorKind where
 | embedding
 | retrieval
 | reranking

def RAGErrorKind.text : RAGErrorKind → String
 | .embedding => "rag_embedding"
 | .retrieval => "rag_retrieval"
 | .reranking => "rag_reranking"

def ragError (kind : RAGErrorKind) (e : Err) : Err := e.wrap ("lebro: " ++ kind.text ++ ": ")

def errMetadataKey (key problem : String) : Err :=
 .new ("lebro: chunk metadata " ++ quote key ++ " must " ++ problem)

def provenanceText (key what : String) (fields : List (String × Json)) : Except Err String :=
 match lookupField key fields with
 | none => .ok ""
 | some raw =>
  match decodeString raw with
  | none => .error (.new ("lebro: decode chunk " ++ what))
  | some text => if text = "" then .error (errMetadataKey key "be a non-empty string") else .ok text

def provenanceIndex (fields : List (String × Json)) : Except Err Int :=
 match lookupField "chunk_index" fields with
 | none => .ok 0
 | some .null => .error (errMetadataKey "chunk_index" "not be null")
 | some raw =>
  match decodeInt raw with
  | none => .error (.new "lebro: decode chunk index")
  | some n =>
   if n < 0 then .error (errMetadataKey "chunk_index" ("not be negative, got " ++ toString n))
   else .ok n

def provenanceKeys : List String := ["document_id", "source", "chunk_index"]

def chunkFromMetadata {Score : Type} (result : SimilarityResult Score) : Except Err Chunk :=
 match result.metadata with
 | .empty => .ok { id := result.id, content := result.content }
 | metadata =>
  match decodeObject metadata with
  | none => .error (.new "lebro: decode chunk metadata")
  | some fields => do
   let documentID ← provenanceText "document_id" "document ID" fields
   let source ← provenanceText "source" "source" fields
   let index ← provenanceIndex fields
   let rest := fields.filter fun f => f.1 ∉ provenanceKeys
   .ok {
    id := result.id
    documentID := documentID
    content := result.content
    source := source
    index := index
    metadata := if rest.isEmpty then .empty else .json (.obj rest) }

inductive RetrievalOp (Score : Type) where
 | ctxErr
 | embed (text : String)
 | search (query : SimilarityQuery Score)
 | rerank (query : String) (candidates : List (RetrievedChunk Score))

@[reducible] def RetrievalOp.Reply {Score : Type} : RetrievalOp Score → Type
  | .ctxErr => Option Err
  | .embed _ => Except Err (List (List Score))
  | .search _ => Except Err (List (SimilarityResult Score))
  | .rerank _ _ => Except Err (List (RerankResult Score))

def RetrievalSig (Score : Type) : Sig := ⟨RetrievalOp Score, RetrievalOp.Reply⟩

abbrev RetrievalProg (Score : Type) := Prog (RetrievalSig Score)

def retrievalOp {Score : Type} (o : RetrievalOp Score) : RetrievalProg Score o.Reply :=
 Prog.perform (S := RetrievalSig Score) o

/-- Scores are compared, with each other and with zero and one. -/
class Scores (Score : Type) extends LT Score, BEq Score, Zero Score, One Score where
 decidableLT : DecidableLT Score

instance scoresDecidableLT {Score : Type} [Scores Score] : DecidableLT Score := Scores.decidableLT

structure VectorRetriever (Score : Type) where
 dimension : Nat
 index : String
 topK : Int
 minScore : Score
 filter : VectorMetadataFilter
 reranks : Bool
 candidateTopK : Int

section

variable {Score:Type} [Scores Score]

/-- The characters that `strings.TrimSpace` removes. -/
def isSpace (c : Char) : Bool :=
 c ∈ ['\t', '\n', '\x0b', '\x0c', '\r', ' ', '\u0085', '\u00a0', '\u1680', '\u2028', '\u2029',
  '\u202f', '\u205f', '\u3000'] || decide ('\u2000' ≤ c ∧ c ≤ '\u200a')

def isNaN (s : Score) : Bool := !(s == s)

def RetrievalQuery.validate (q : RetrievalQuery Score) : Option Err :=
 if q.query.toList.all isSpace then some (.new "lebro: retrieval query must not be empty")
 else if q.topK < 0 then some (.new "lebro: retrieval TopK must not be negative")
 else if q.minScore < 0 || 1 < q.minScore || isNaN q.minScore then
  some (.new "lebro: retrieval MinScore must be in [0, 1]")
 else none

def stageFailed {α : Type} (kind : RAGErrorKind) (e : Err) : RetrievalProg Score (Except Err α) := do
 let ended ← retrievalOp .ctxErr
 match ended with
 | some ctxErr => .ret (.error ctxErr)
 | none => .ret (.error (ragError kind e))

def chunksOf : List (SimilarityResult Score) → Except Err (List (RetrievedChunk Score))
 | [] => .ok []
 | result :: results =>
  match chunkFromMetadata result with
  | .error e => .error e
  | .ok chunk =>
   match chunksOf results with
   | .error e => .error e
   | .ok chunks => .ok ({ chunk := chunk, score := result.score } :: chunks)

def restoreCandidates (candidates : List (RetrievedChunk Score)) :
  List String → List (RerankResult Score) → Except Err (List (RerankResult Score))
 | _, [] => .ok []
 | seen, result :: results =>
  if isNaN result.score then
   .error (.new ("lebro: reranker score for chunk " ++ quote result.candidate.chunk.id ++
    " must not be NaN"))
  else
   match candidates.reverse.find? fun c => c.chunk.id = result.candidate.chunk.id with
   | none => .error (.new ("lebro: reranker returned unknown chunk " ++
     quote result.candidate.chunk.id))
   | some candidate =>
    if candidate.chunk.id ∈ seen then
     .error (.new ("lebro: reranker returned chunk " ++ quote candidate.chunk.id ++
      " more than once"))
    else
     match restoreCandidates candidates (candidate.chunk.id :: seen) results with
     | .error e => .error e
     | .ok restored => .ok ({ result with candidate := candidate } :: restored)

def rerankedBefore (a b : RerankResult Score) : Bool :=
 if a.score != b.score then decide (b.score < a.score)
 else if a.candidate.score != b.candidate.score then decide (b.candidate.score < a.candidate.score)
 else decide (a.candidate.chunk.id < b.candidate.chunk.id)

def normalizeRerankResults (candidates : List (RetrievedChunk Score))
  (results : List (RerankResult Score)) : Except Err (List (RerankResult Score)) :=
 if results.length ≠ candidates.length then
  .error (.new ("lebro: reranker returned " ++ toString results.length ++ " results for " ++
   toString candidates.length ++ " candidates"))
 else
  match restoreCandidates candidates [] results with
  | .error e => .error e
  | .ok restored => .ok (restored.mergeSort fun a b => !rerankedBefore b a)

def RerankResult.retrieved (result : RerankResult Score) : RetrievedChunk Score where
 chunk := result.candidate.chunk
 score := result.score
 vectorScore := some result.candidate.score
 scoreExplanation := result.explanation

variable (r:VectorRetriever Score)

def rerankChunks (query : String) (topK : Int) (retrieved : List (RetrievedChunk Score)) :
  RetrievalProg Score (Except Err (List (RetrievedChunk Score))) :=
 if !r.reranks || retrieved.isEmpty then .ret (.ok retrieved)
 else do
  let reply ← retrievalOp (.rerank query retrieved)
  match reply with
  | .error e => stageFailed .reranking e
  | .ok results =>
   match normalizeRerankResults retrieved results with
   | .error e => .ret (.error (ragError .reranking e))
   | .ok reranked => .ret (.ok ((reranked.take topK.toNat).map RerankResult.retrieved))

def searchChunks (query : RetrievalQuery Score) (vector : List Score) :
  RetrievalProg Score (Except Err (List (RetrievedChunk Score))) := do
 let topK := if query.topK = 0 then r.topK else query.topK
 let found ← retrievalOp (.search {
  vector := vector
  index := r.index
  filter := mergeVectorMetadataFilters query.filter r.filter
  topK := if r.reranks then max topK r.candidateTopK else topK
  minScore := if query.minScore == 0 then r.minScore else query.minScore })
 match found with
 | .error e => stageFailed .retrieval e
 | .ok results =>
  match chunksOf results with
  | .error e => .ret (.error (ragError .retrieval e))
  | .ok retrieved => rerankChunks r query.query topK retrieved

def VectorRetriever.retrieve (query : RetrievalQuery Score) :
  RetrievalProg Score (Except Err (List (RetrievedChunk Score))) := do
 let ended ← retrievalOp .ctxErr
 match ended with
 | some e => .ret (.error e)
 | none =>
  match query.validate with
  | some e => .ret (.error (ragError .retrieval e))
  | none => do
   let embedded ← retrievalOp (.embed query.query)
   match embedded with
   | .error e => stageFailed .embedding e
   | .ok [vector] =>
    if vector.length ≠ r.dimension then
     .ret (.error (ragError .embedding (.new ("lebro: query embedding has dimension " ++
      toString vector.length ++ ", want " ++ toString r.dimension))))
    else searchChunks r query vector
   | .ok vectors => .ret (.error (ragError .embedding
     (.new ("lebro: embedding model returned " ++ toString vectors.length ++
      " vectors for 1 input"))))

structure RetrievalTool (Score : Type) where
 topK : Int
 maxTopK : Int
 minScore : Score
 filter : VectorMetadataFilter

structure RetrievalToolChunk (Score : Type) where
 content : String
 documentID : String
 source : String
 chunkIndex : Int
 score : Score

def decodeToolInput : RawMessage → Option (String × Int)
 | .json (.obj fields) => do
  let query ← ((namedField "query" fields).map decodeString).getD (some "")
  let topK ← ((namedField "top_k" fields).map decodeInt).getD (some 0)
  some (query, topK)
 | .json .null => some ("", 0)
 | _ => none

def RetrievalTool.resolveTopK (t : RetrievalTool Score) (requested : Int) : Int :=
 if requested ≤ 0 then t.topK
 else if 0 < t.maxTopK ∧ t.maxTopK < requested then t.maxTopK
 else requested

def toolChunk (c : RetrievedChunk Score) : RetrievalToolChunk Score where
 content := c.chunk.content
 documentID := c.chunk.documentID
 source := c.chunk.source
 chunkIndex := c.chunk.index
 score := c.score

def toolFailed {α : Type} (e : Err) : RetrievalProg Score (Except Err α) := do
 let ended ← retrievalOp .ctxErr
 match ended with
 | some ctxErr => .ret (.error ctxErr)
 | none => .ret (.error e)

def RetrievalTool.execute (t : RetrievalTool Score) (r : VectorRetriever Score)
  (input : RawMessage) :
  RetrievalProg Score (Except Err (List (RetrievalToolChunk Score))) := do
 let ended ← retrievalOp .ctxErr
 match ended with
 | some e => .ret (.error e)
 | none =>
  match decodeToolInput input with
  | none => .ret (.error (ragError .retrieval (.new "lebro: decode retrieval input")))
  | some (query, topK) =>
   if query = "" then
    .ret (.error (ragError .retrieval (.new "lebro: retrieval query must not be empty")))
   else if topK < 0 then
    .ret (.error (ragError .retrieval (.new "lebro: retrieval top_k must not be negative")))
   else do
    let retrieved ← r.retrieve ⟨query, t.resolveTopK topK, t.minScore, t.filter⟩
    match retrieved with
    | .error e => toolFailed e
    | .ok chunks => .ret (.ok (chunks.map toolChunk))

def matchingResults (similarity : List Score → List Score → Score)
  (records : List (EmbeddingRecord Score)) (q : SimilarityQuery Score) :
  List (SimilarityResult Score) :=
 (records.filter fun record => metadataMatches record.metadata q.filter).map fun record =>
  ⟨record.id, similarity q.vector record.vector, record.metadata, record.content⟩

/-- The results of a sorted list that reach the score, at most `topK` of them. -/
def rankResults (sorted : List (SimilarityResult Score)) (topK : Int) (minScore : Score) :
  List (SimilarityResult Score) :=
 let reached := if 0 < minScore then sorted.takeWhile fun r => !decide (r.score < minScore)
  else sorted
 if 0 < topK then reached.take topK.toNat else reached

/-- A store answers a search from the records of the index; equal scores come in any order. -/
def StoreReply (similarity : List Score → List Score → Score)
  (records : List (EmbeddingRecord Score)) : (o : RetrievalOp Score) → o.Reply → Prop
 | .search q, .ok results => ∃ sorted, sorted.Perm (matchingResults similarity records q) ∧
   results = rankResults sorted q.topK q.minScore
 | _, _ => True

end

def metadataField (key : String) : Option Json := (decodeObject metadata).bind (lookupField key)

def Holds (w : String × RawMessage) : Prop :=
 ∃ got, metadataField metadata w.1 = some got ∧ jsonEqual (.json got) w.2 = true

lemma metadataMatches_iff (metadata f) :
  metadataMatches metadata f=true ↔ ∀ w ∈ f.wanted,Holds metadata w := by
 unfold metadataMatches Holds metadataField
 split
 · rename_i hempty
   rw [isEmpty_iff.mp hempty]
   simp
 · rename_i hne
   cases decodeObject metadata with
   | none =>
    obtain ⟨w,hw⟩:=exists_mem_of_ne_nil f.wanted (by simpa using hne)
    exact iff_of_false Bool.false_ne_true fun h=>by
     obtain ⟨_,hgot,_⟩:=h w hw
     cases hgot
   | some fields =>
    rw [all_eq_true]
    refine forall₂_congr fun w _=>?_
    rw [Option.bind_some]
    cases lookupField w.1 fields with
    | none => simp
    | some got => simp

lemma jsonEqual_iff_of_equal {got v w} (h:jsonEqual (.json got) w=true) :
  jsonEqual (.json got) v=true ↔ jsonEqual w v=true := by
 cases w with
 | json b =>
  cases v with
  | json a =>
   rw [jsonEqual,jsonEq_iff] at h ⊢
   rw [jsonEqual,jsonEq_iff,h]
  | _ => exact Iff.rfl
 | _ => cases h

def Compatible (caller enforced : VectorMetadataFilter) : Prop :=
 ∀ v ∈ caller.wanted, ∀ w ∈ enforced.wanted, v.1 = w.1 → jsonEqual w.2 v.2 = true

lemma matches_merged_iff (metadata) (caller enforced) :
  metadataMatches metadata (mergeVectorMetadataFilters caller enforced)=true ↔
   metadataMatches metadata enforced=true ∧
    ∀ v ∈ caller.wanted,v.1 ∉ enforced.keys → Holds metadata v := by
 simp only [metadataMatches_iff,mergeVectorMetadataFilters,mem_append,mem_filter,
  decide_eq_true_eq]
 constructor
 · intro h
   exact ⟨fun w hw=>h w (.inl hw),fun v hv hkey=>h v (.inr ⟨hv,hkey⟩)⟩
 · rintro ⟨henforced,hcaller⟩ w (hw | ⟨hw,hkey⟩)
   · exact henforced w hw
   · exact hcaller w hw hkey

lemma matches_caller_iff {metadata caller enforced}
  (h:metadataMatches metadata (mergeVectorMetadataFilters caller enforced)=true) :
  metadataMatches metadata caller=true ↔ Compatible caller enforced := by
 obtain ⟨henforced,hcaller⟩:=(matches_merged_iff metadata caller enforced).mp h
 rw [metadataMatches_iff] at henforced ⊢
 constructor
 · intro hall v hv w hw hkey
   obtain ⟨got,hgot,hequal⟩:=henforced w hw
   obtain ⟨got',hgot',hequal'⟩:=hall v hv
   rw [hkey,hgot] at hgot'
   cases hgot'
   exact (jsonEqual_iff_of_equal hequal).mp hequal'
 · intro hcompatible v hv
   by_cases hkey : v.1 ∈ enforced.keys
   · obtain ⟨w,hw,hname⟩:=mem_map.mp hkey
     obtain ⟨got,hgot,hequal⟩:=henforced w hw
     refine ⟨got,by rw [← hname]; exact hgot,?_⟩
     exact (jsonEqual_iff_of_equal hequal).mpr (hcompatible v hv w hw hname.symm)
   · exact hcaller v hv hkey

section

variable {Score:Type}

def Shows (c : Chunk) (record : EmbeddingRecord Score) : Prop :=
 ∃ score : Score, chunkFromMetadata ⟨record.id, score, record.metadata, record.content⟩ = .ok c

def Sourced (records : List (EmbeddingRecord Score)) (f : VectorMetadataFilter)
  (c : RetrievedChunk Score) : Prop :=
 ∃ record ∈ records, metadataMatches record.metadata f = true ∧ Shows c.chunk record

variable {results:List (SimilarityResult Score)} {chunks:List (RetrievedChunk Score)}

lemma exists_of_chunksOf (h:chunksOf results = .ok chunks) :
  ∀ c ∈ chunks,∃ result ∈ results,chunkFromMetadata result = .ok c.chunk := by
 induction results generalizing chunks with
 | nil =>
  cases h
  exact nofun
 | cons result results ih =>
  rw [chunksOf] at h
  split at h
  · cases h
  rename_i chunk hchunk
  split at h
  · cases h
  rename_i rest hrest
  cases h
  intro c hc
  rcases mem_cons.mp hc with rfl | hc
  · exact ⟨result,mem_cons_self,hchunk⟩
  · obtain ⟨other,hother,hshown⟩:=ih hrest c hc
    exact ⟨other,mem_cons_of_mem _ hother,hshown⟩

variable [Scores Score]

lemma mem_of_rankResults {sorted:List (SimilarityResult Score)} {topK minScore result}
  (h:result ∈ rankResults sorted topK minScore) : result ∈ sorted := by
 have hreached:∀ x ∈ (if 0 < minScore then
   sorted.takeWhile fun r=>!decide (r.score < minScore) else sorted),x ∈ sorted := by
  intro x hx
  split at hx
  · exact takeWhile_subset _ hx
  · exact hx
 unfold rankResults at h
 dsimp only at h
 split at h
 · exact hreached result (mem_of_mem_take h)
 · exact hreached result h

lemma sourced_of_search {similarity records q}
  (hreply:StoreReply similarity records (.search q) (.ok results))
  (hchunks:chunksOf results = .ok chunks) : ∀ c ∈ chunks,Sourced records q.filter c := by
 intro c hc
 obtain ⟨sorted,hperm,rfl⟩:=hreply
 obtain ⟨result,hresult,hshown⟩:=exists_of_chunksOf hchunks c hc
 obtain ⟨record,hrecord,rfl⟩:=mem_map.mp (hperm.subset (mem_of_rankResults hresult))
 obtain ⟨hmem,hmatches⟩:=mem_filter.mp hrecord
 exact ⟨record,hmem,hmatches,_,hshown⟩

variable {candidates:List (RetrievedChunk Score)}

lemma candidate_of_restored {seen results restored}
  (h:restoreCandidates candidates seen results = .ok restored) :
  ∀ x ∈ restored,x.candidate ∈ candidates := by
 induction results generalizing seen restored with
 | nil =>
  cases h
  exact nofun
 | cons result results ih =>
  rw [restoreCandidates] at h
  split at h
  · cases h
  split at h
  · cases h
  rename_i candidate hcandidate
  split at h
  · cases h
  split at h
  · cases h
  rename_i rest hrest
  cases h
  intro x hx
  rcases mem_cons.mp hx with rfl | hx
  · exact mem_reverse.mp (mem_of_find?_eq_some hcandidate)
  · exact ih hrest x hx

lemma candidate_of_normalized {results reranked}
  (h:normalizeRerankResults candidates results = .ok reranked) :
  ∀ x ∈ reranked,x.candidate ∈ candidates := by
 unfold normalizeRerankResults at h
 split at h
 · cases h
 split at h
 · cases h
 rename_i restored hrestored
 cases h
 intro x hx
 exact candidate_of_restored hrestored x (mem_mergeSort.mp hx)

def Succeeds {α : Type} (P : α → Prop) : Except Err α → Unit → Prop
 | .ok a, _ => P a
 | .error _, _ => True

variable (similarity:List Score → List Score → Score)
 (records:List (EmbeddingRecord Score))

def storeMonitor : Monitor (RetrievalSig Score) Unit :=
 Monitor.replies fun o r => StoreReply similarity records o r

variable {similarity records}

lemma wp_retrievalOp {α:Type} {o:RetrievalOp Score} {k:o.Reply → RetrievalProg Score α} {Q}
  (h:∀ r,StoreReply similarity records o r → wp (storeMonitor similarity records) (k r) Q ()) :
  wp (storeMonitor similarity records) (retrievalOp o >>= k) Q () :=
 ⟨trivial,fun r _ hr=>h r hr⟩

lemma wp_stageFailed {α:Type} {P:α → Prop} {kind e} :
  wp (storeMonitor similarity records) (stageFailed kind e) (Succeeds P) () := by
 apply wp_retrievalOp
 intro ended _
 cases ended <;> trivial

lemma wp_toolFailed {α:Type} {P:α → Prop} {e} :
  wp (storeMonitor similarity records) (toolFailed e) (Succeeds P) () := by
 apply wp_retrievalOp
 intro ended _
 cases ended <;> trivial

lemma wp_rerankChunks {r query topK} {retrieved f} (h:∀ c ∈ retrieved,Sourced records f c) :
  wp (storeMonitor similarity records) (rerankChunks r query topK retrieved)
   (Succeeds fun chunks=>∀ c ∈ chunks,Sourced records f c) () := by
 unfold rerankChunks
 split
 · exact h
 apply wp_retrievalOp
 intro reply _
 cases reply with
 | error e => exact wp_stageFailed
 | ok results =>
  dsimp only
  split
  · trivial
  rename_i reranked hreranked
  intro c hc
  obtain ⟨x,hx,rfl⟩:=mem_map.mp hc
  exact h x.candidate (candidate_of_normalized hreranked x (mem_of_mem_take hx))

lemma wp_searchChunks {r query vector} :
  wp (storeMonitor similarity records) (searchChunks r query vector)
   (Succeeds fun chunks=>∀ c ∈ chunks,
    Sourced records (mergeVectorMetadataFilters query.filter r.filter) c) () := by
 apply wp_retrievalOp
 intro found hfound
 cases found with
 | error e => exact wp_stageFailed
 | ok results =>
  dsimp only
  split
  · trivial
  · rename_i retrieved hretrieved
    exact wp_rerankChunks (sourced_of_search hfound hretrieved)

lemma wp_retrieve {r:VectorRetriever Score} {query:RetrievalQuery Score} :
  wp (storeMonitor similarity records) (r.retrieve query) (Succeeds fun chunks=>∀ c ∈ chunks,
      Sourced records (mergeVectorMetadataFilters query.filter r.filter) c) () := by
 apply wp_retrievalOp
 intro ended _
 cases ended with
 | some e => trivial
 | none =>
  dsimp only
  split
  · trivial
  apply wp_retrievalOp
  intro embedded _
  split
  · exact wp_stageFailed
  · split
    · trivial
    · exact wp_searchChunks
  · trivial

lemma wp_execute (t:RetrievalTool Score) (r:VectorRetriever Score) (input) :
  wp (storeMonitor similarity records) (t.execute r input)
   (Succeeds fun chunks=>∃ retrieved : List (RetrievedChunk Score),
    chunks=retrieved.map toolChunk ∧ ∀ c ∈ retrieved,
     Sourced records (mergeVectorMetadataFilters t.filter r.filter) c) () := by
 apply wp_retrievalOp
 intro ended _
 cases ended with
 | some e => trivial
 | none =>
  dsimp only
  split
  · trivial
  split
  · trivial
  split
  · trivial
  apply wp_seq wp_retrieve
  intro retrieved _ h
  cases retrieved with
  | error e => exact wp_toolFailed
  | ok chunks => exact ⟨chunks,rfl,h⟩

/-- A returned chunk matches the filter of the tool exactly when both filters want equal values for
the keys they share. -/
theorem returned_chunks_match_iff (t : RetrievalTool Score) (r : VectorRetriever Score)
  (input : RawMessage) (es : List (Event (RetrievalSig Score)))
  (chunks : List (RetrievalToolChunk Score))
  (h : Trace (t.execute r input) es (.ret (.ok chunks)))
  (hstore : ∀ e ∈ es, StoreReply similarity records e.1 e.2) :
  ∃ retrieved : List (RetrievedChunk Score), chunks = retrieved.map toolChunk ∧
   ∀ c ∈ retrieved, ∃ record ∈ records, Shows c.chunk record ∧
    metadataMatches record.metadata r.filter = true ∧
    (metadataMatches record.metadata t.filter = true ↔ Compatible t.filter r.filter) := by
 obtain ⟨retrieved,hchunks,hsourced⟩ :=
  h.wp (M := storeMonitor similarity records) (Monitor.replies_follows hstore)
   (wp_execute t r input)
 refine ⟨retrieved,hchunks,?_⟩
 intro c hc
 obtain ⟨record,hrecord,hmatches,hshows⟩:=hsourced c hc
 exact ⟨record,hrecord,hshows,((matches_merged_iff _ _ _).mp hmatches).1,
  matches_caller_iff hmatches⟩

end

instance : Scores Int where
 zero := 0
 one := 1
 decidableLT := inferInstance

def tenantFilter (tenant : String) : VectorMetadataFilter where
 wanted := [("tenant", .json (.str tenant))]

def tenantTool (tenant : String) : RetrievalTool Int := ⟨1, 1, 0, tenantFilter tenant⟩

def tenantRetriever (tenant : String) : VectorRetriever Int where
 dimension := 1
 index := "docs"
 topK := 5
 minScore := 0
 filter := tenantFilter tenant
 reranks := false
 candidateTopK := 0

def sharedRecord : EmbeddingRecord Int where
 id := "r1"
 vector := [1]
 metadata := .json (.obj [("tenant", .str "b")])
 content := "text"

def flatSimilarity : List Int → List Int → Int := fun _ _ => 1

def tenantInput : RawMessage := .json (.obj [("query", .str "q")])

def sharedChunk : RetrievalToolChunk Int := ⟨"text", "", "", 0, 1⟩

def sharedResult : SimilarityResult Int := ⟨"r1", 1, sharedRecord.metadata, "text"⟩

def tenantAnswers : (o : RetrievalOp Int) → Unit → Option (o.Reply × Unit)
 | .ctxErr, _ => some (none, ())
 | .embed _, _ => some (.ok [[1]], ())
 | .search _, _ => some (.ok [sharedResult], ())
 | .rerank _ _, _ => none

def tenantSearch (tool : String) : RetrievalProg Int (Except Err (List (RetrievalToolChunk Int))) :=
 (tenantTool tool).execute (tenantRetriever "b") tenantInput

def tenantEvents (tool : String) : List (Event (RetrievalSig Int)) :=
 [⟨.ctxErr, none⟩, ⟨.ctxErr, none⟩, ⟨.embed "q", .ok [[1]]⟩,
   ⟨.search ⟨[1], "docs", mergeVectorMetadataFilters (tenantFilter tool) (tenantFilter "b"), 1, 0⟩,
    .ok [sharedResult]⟩]

lemma tenant_trace {tool}
  (hanswer:(tenantSearch tool).answer tenantAnswers ()=some (.ok [sharedChunk],()))
  (hevents:(tenantSearch tool).answered tenantAnswers ()=tenantEvents tool) :
  Trace (tenantSearch tool) (tenantEvents tool) (.ret (.ok [sharedChunk])) :=
 hevents ▸ (Monitor.follows_answered (M := Monitor.replies fun _ _=>True)
  (fun _ _ _ _ _=>trivial) hanswer).1

lemma tenant_store {tool}
  (hmatches:metadataMatches sharedRecord.metadata (mergeVectorMetadataFilters (tenantFilter tool)
   (tenantFilter "b"))=true) :
  ∀ e ∈ tenantEvents tool,StoreReply flatSimilarity [sharedRecord] e.1 e.2 := by
 simp only [tenantEvents,forall_mem_cons,StoreReply,not_mem_nil,false_imp_iff,
  implies_true,and_true,true_and]
 refine ⟨[sharedResult],?_,rfl⟩
 rw [matchingResults,filter_cons_of_pos (by exact hmatches)]
 exact List.Perm.refl _

theorem one_tenant_in_scope :
  ∃ retrieved : List (RetrievedChunk Int), [sharedChunk] = retrieved.map toolChunk ∧
   ∀ c ∈ retrieved, ∃ record ∈ [sharedRecord], Shows c.chunk record ∧
    metadataMatches record.metadata (tenantFilter "b") = true ∧
    (metadataMatches record.metadata (tenantFilter "b") = true ↔
     Compatible (tenantFilter "b") (tenantFilter "b")) :=
 returned_chunks_match_iff (tenantTool "b") (tenantRetriever "b") tenantInput
  (tenantEvents "b") [sharedChunk] (tenant_trace rfl rfl) (tenant_store rfl)

/-- A tool for one tenant over a retriever for another returns the record of the other, the only
one of the index. -/
theorem tool_filter_overridden :
  Trace (tenantSearch "a") (tenantEvents "a") (.ret (.ok [sharedChunk])) ∧
   (∀ e ∈ tenantEvents "a", StoreReply flatSimilarity [sharedRecord] e.1 e.2) ∧
   metadataMatches sharedRecord.metadata (tenantTool "a").filter = false :=
 ⟨tenant_trace rfl rfl,tenant_store rfl,rfl⟩

end Lebro.RetrievalScope
