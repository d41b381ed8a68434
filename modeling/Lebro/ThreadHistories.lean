import Lebro.DocumentChunks
import Lebro.StoreTables

set_option autoImplicit false

namespace Lebro.ThreadHistories

open RuntimeTypes RuntimeRecords JsonCodec CanonicalJson ExactValues RetrievalScope DocumentChunks
open StoreRecords StoreTables List

/-- How numbers are read into `any`, and how times are written and read. -/
structure Codec where
 number : String → Option String
 format : Time → String
 parse : String → Option Time

def decodedMetadata (codec : Codec) : RawMessage → Except Err (Option Json)
 | .empty => .ok none
 | .malformed _ => .error (.new "invalid character in JSON")
 | .json v =>
  if decodable codec.number v then .ok (some (decodeAny codec.number v))
  else .error (.new "json: cannot unmarshal number")

def roleText : Role → String
 | .system => "system"
 | .user => "user"
 | .assistant => "assistant"
 | .tool => "tool"

def historyFields (codec : Codec) (thread : ThreadRecord) (message : MessageRecord)
  (threadMetadata messageMetadata : Option Json) : List (String × Json) :=
 ("created_at", .str (codec.format message.createdAt)) :: ("message_id", .str message.id) ::
  (messageMetadata.toList.map fun v => ("message_metadata", v)) ++
  ("namespace", .str thread.scope.ns) :: ("owner_id", .str thread.scope.ownerID) ::
  ("role", .str (roleText message.message.role)) :: ("thread_id", .str message.threadID) ::
  threadMetadata.toList.map fun v => ("thread_metadata", v)

def threadHistoryMetadata (codec : Codec) (thread : ThreadRecord) (message : MessageRecord) :
  Except Err RawMessage :=
 match decodedMetadata codec thread.metadata, decodedMetadata codec message.metadata with
 | .error e, _ => .error e
 | .ok _, .error e => .error e
 | .ok threadMetadata, .ok messageMetadata =>
  .ok (.json (.obj (historyFields codec thread message threadMetadata messageMetadata)))

def threadHistoryScopeFilter (scope : RuntimeScope) (threadID : ThreadID) :
  VectorMetadataFilter where
 wanted := [("namespace", .json (.str scope.ns)), ("owner_id", .json (.str scope.ownerID))] ++
  if threadID = "" then [] else [("thread_id", .json (.str threadID))]
 distinct := by
  split
  · simp
  · simp

structure ThreadHistoryHit (Score : Type) where
 messageID : String
 threadID : ThreadID
 role : String
 content : String
 createdAt : Time
 score : Score

def hitField (name : String) (fields : List (String × Json)) : Except Err String :=
 match (namedField name fields).map decodeString with
 | none => .ok ""
 | some none => .error (.new ("json: cannot unmarshal into Go struct field " ++ name))
 | some (some text) => .ok text

def errIncomplete : Err := .new "lebro: incomplete thread history metadata"

def threadHistoryHit {Score : Type} (codec : Codec) (result : SimilarityResult Score) :
  Except Err (ThreadHistoryHit Score) :=
 match result.metadata with
 | .json (.obj fields) => do
  let messageID ← hitField "message_id" fields
  let threadID ← hitField "thread_id" fields
  let role ← hitField "role" fields
  let createdAt ← hitField "created_at" fields
  if messageID = "" ∨ threadID = "" ∨ createdAt = "" then .error errIncomplete
  else
   match codec.parse createdAt with
   | none => .error (.new ("parsing time " ++ quote createdAt))
   | some created => .ok ⟨messageID, threadID, role, result.content, created, result.score⟩
 | .json .null => .error errIncomplete
 | _ => .error (.new "json: cannot unmarshal into Go value")

structure ThreadHistoryQuery where
 scope : RuntimeScope
 threadID : ThreadID := ""
 query : String
 topK : Int := 0
 maxTokens : Int := 0
 filter : VectorMetadataFilter := {}

def ThreadHistoryQuery.limit (q : ThreadHistoryQuery) : ℕ := if q.topK = 0 then 5 else q.topK.toNat

structure ThreadHistory (Score : Type) where
 codec : Codec
 index : String
 dimension : ℕ
 embed : List String → Except Err (List (List Score))
 search : SimilarityQuery Score → Except Err (List (SimilarityResult Score))

section

variable {Score:Type} [LinearOrder Score]

def hitBefore (a b : ThreadHistoryHit Score) : Bool :=
 if a.score ≠ b.score then b.score < a.score else b.createdAt < a.createdAt

def tokenEstimate (hit : ThreadHistoryHit Score) : ℕ := (hit.content.length + 3) / 4

/-- The last loop of `Retrieve`: `tokens` are used, and there is room for `room` more hits. -/
def trimHits (maxTokens : Int) : ℕ → ℕ → List (ThreadHistoryHit Score) →
  List (ThreadHistoryHit Score)
 | _, _, [] => []
 | tokens, room, hit :: hits =>
  if 0 < maxTokens ∧ maxTokens < (tokens + tokenEstimate hit : ℕ) then
   trimHits maxTokens tokens room hits
  else if room = 1 then [hit]
  else hit :: trimHits maxTokens (tokens + tokenEstimate hit) (room - 1) hits

def ThreadHistory.retrieve [Zero Score] (h : ThreadHistory Score) (q : ThreadHistoryQuery) :
  Except Err (List (ThreadHistoryHit Score)) :=
 if q.scope.ns = "" ∨ q.scope.ownerID = "" then
  .error (.new "lebro: thread history scope is required")
 else if q.query.toList.all isSpace then .error (.new "lebro: thread history query is required")
 else if q.topK < 0 ∨ q.maxTokens < 0 then
  .error (.new "lebro: thread history limits must not be negative")
 else do
  let vectors ← (h.embed [q.query]).mapError (ragError .embedding)
  match vectors with
  | [vector] =>
   if vector.length ≠ h.dimension then
    .error (ragError .embedding (.new "lebro: invalid query embedding"))
   else do
    let filter := mergeVectorMetadataFilters q.filter (threadHistoryScopeFilter q.scope q.threadID)
    let results ← (h.search ⟨vector, h.index, filter, q.limit, 0⟩).mapError (ragError .retrieval)
    let hits ← (results.mapM (threadHistoryHit h.codec)).mapError (ragError .retrieval)
    .ok (trimHits q.maxTokens 0 q.limit (hits.mergeSort fun a b => !hitBefore b a))
  | _ => .error (ragError .embedding (.new "lebro: invalid query embedding"))

/-- The first loop of `indexMessages`: each thread is read once. -/
def indexedThreads (getThread : ThreadID → Except Err ThreadRecord) :
  (ThreadID → Option ThreadRecord) → List MessageRecord →
   Except Err (ThreadID → Option ThreadRecord)
 | threads, [] => .ok threads
 | threads, message :: messages =>
  if message.message.content = "" ∨ (threads message.threadID).isSome then
   indexedThreads getThread threads messages
  else
   match getThread message.threadID with
   | .error e => .error e
   | .ok thread => indexedThreads getThread (put threads message.threadID (some thread)) messages

/-- The records that are written to the index. -/
def ThreadHistory.indexMessages (h : ThreadHistory Score)
  (getThread : ThreadID → Except Err ThreadRecord) (vectorID : ThreadID → String → String)
  (messages : List MessageRecord) : Except Err (List (EmbeddingRecord Score)) := do
 let threads ← indexedThreads getThread (fun _ => none) messages
 let kept := messages.filter fun message => message.message.content ≠ ""
 if kept.isEmpty then .ok []
 else do
  let vectors ← (h.embed (kept.map (·.message.content))).mapError (ragError .embedding)
  if vectors.length ≠ kept.length then
   .error (ragError .embedding (.new ("lebro: embedding model returned " ++
    toString vectors.length ++ " vectors for " ++ toString kept.length ++ " inputs")))
  else
   (kept.zip vectors).mapM fun (message, vector) =>
    if vector.length ≠ h.dimension then
     .error (ragError .embedding (.new "lebro: invalid message embedding dimension"))
    else do
     let thread := (threads message.threadID).getD { id := "", scope := {} }
     let metadata ← threadHistoryMetadata h.codec thread message
     .ok ⟨vectorID message.threadID message.id, vector, metadata, message.message.content⟩

def Describes (codec : Codec) (thread : ThreadRecord) (message : MessageRecord)
  (record : EmbeddingRecord Score) : Prop :=
 record.content = message.message.content ∧
  threadHistoryMetadata codec thread message = .ok record.metadata

omit [LinearOrder Score] in
lemma Describes.metadata {codec thread message} {record:EmbeddingRecord Score}
  (h:Describes codec thread message record) :
  ∃ threadMetadata messageMetadata,record.metadata =
   .json (.obj (historyFields codec thread message threadMetadata messageMetadata)) := by
 have hmetadata:=h.2
 unfold threadHistoryMetadata at hmetadata
 split at hmetadata
 · cases hmetadata
 · cases hmetadata
 · exact ⟨_,_,(Except.ok.inj hmetadata).symm⟩

lemma exists_of_mapM {α β:Type} {f:α → Except Err β} {xs:List α} {ys} (h:xs.mapM f = .ok ys) :
  ∀ y ∈ ys,∃ x ∈ xs,f x = .ok y := by
 induction xs generalizing ys with
 | nil =>
  cases h
  exact nofun
 | cons x xs ih =>
  rw [mapM_cons] at h
  cases hx : f x with
  | error e =>
   rw [hx] at h
   cases h
  | ok first =>
   cases hrest : xs.mapM f with
   | error e =>
    rw [hx,hrest] at h
    cases h
   | ok rest =>
    rw [hx,hrest] at h
    cases h
    refine forall_mem_cons.mpr ⟨⟨x,mem_cons_self,hx⟩,fun y hy=>?_⟩
    obtain ⟨source,hsource,hmade⟩:=ih hrest y hy
    exact ⟨source,mem_cons_of_mem _ hsource,hmade⟩

lemma indexedThreads_spec {getThread threads messages out}
  (hstore:∀ id thread,getThread id = .ok thread → thread.id=id)
  (hthreads:∀ id thread,threads id=some thread → thread.id=id)
  (h:indexedThreads getThread threads messages = .ok out) :
  (∀ id thread,out id=some thread → thread.id=id) ∧ (∀ id,threads id ≠ none → out id ≠ none) ∧
   ∀ message ∈ messages,message.message.content ≠ "" → out message.threadID ≠ none := by
 induction messages generalizing threads with
 | nil =>
  cases h
  exact ⟨hthreads,fun _ hid=>hid,nofun⟩
 | cons message messages ih =>
  rw [indexedThreads] at h
  split at h
  · rename_i hskip
    obtain ⟨hout,hkept,hall⟩:=ih hthreads h
    refine ⟨hout,hkept,forall_mem_cons.mpr ⟨fun hne=>hkept _ ?_,hall⟩⟩
    exact Option.isSome_iff_ne_none.mp (hskip.resolve_left hne)
  · split at h
    · cases h
    rename_i thread hthread
    have hput:∀ id other,put threads message.threadID (some thread) id=some other → other.id=id:=by
     unfold put
     intro id other hother
     split at hother
     · cases hother
       rename_i hid
       exact hid ▸ hstore _ _ hthread
     · exact hthreads id other hother
    obtain ⟨hout,hkept,hall⟩:=ih hput h
    refine ⟨hout,fun id hid=>hkept id ?_,forall_mem_cons.mpr ⟨fun _=>hkept _ (by simp [put]),hall⟩⟩
    unfold put
    split
    · exact Option.some_ne_none thread
    · exact hid

omit [LinearOrder Score] in
/-- What is indexed describes messages together with the threads that they belong to. -/
lemma indexed_described (h:ThreadHistory Score) {getThread vectorID messages}
  (hstore:∀ id thread,getThread id = .ok thread → thread.id=id) :
  ∀ record ∈ (h.indexMessages getThread vectorID messages).toOption.getD [],
   ∃ thread message,thread.id=message.threadID ∧ Describes h.codec thread message record := by
 cases hindexed : h.indexMessages getThread vectorID messages with
 | error e => exact nofun
 | ok records =>
  intro record hrecord
  unfold ThreadHistory.indexMessages at hindexed
  simp only [bind,Except.bind] at hindexed
  split at hindexed
  · cases hindexed
  rename_i threads hthreads
  obtain ⟨hids,-,hall⟩:=indexedThreads_spec hstore (fun _ _ h=>by cases h) hthreads
  split at hindexed
  · cases hindexed
    cases hrecord
  split at hindexed
  · cases hindexed
  split at hindexed
  · cases hindexed
  obtain ⟨⟨message,vector⟩,hmem,hmade⟩:=exists_of_mapM hindexed record hrecord
  obtain ⟨hmessage,hcontent⟩:=mem_filter.mp (of_mem_zip hmem).1
  obtain ⟨thread,hthread⟩:=Option.ne_none_iff_exists'.mp
   (hall message hmessage (of_decide_eq_true hcontent))
  dsimp only at hmade
  split at hmade
  · cases hmade
  rw [hthread,Option.getD_some] at hmade
  split at hmade
  · cases hmade
  rename_i metadata hmetadata
  cases hmade
  exact ⟨thread,message,hids _ _ hthread,rfl,hmetadata⟩

section

variable (codec:Codec) (thread:ThreadRecord) (message:MessageRecord) (a b:Option Json)

lemma lastField_historyFields :
  lastField "namespace" (historyFields codec thread message a b)=some (.str thread.scope.ns) ∧
   lastField "owner_id" (historyFields codec thread message a b) =
    some (.str thread.scope.ownerID) ∧
   lastField "thread_id" (historyFields codec thread message a b) =
    some (.str message.threadID) ∧
   lastField "message_id" (historyFields codec thread message a b)=some (.str message.id) := by
 cases a with
 | none | some v =>
  cases b with
  | none | some w => simp [historyFields,lastField]

/-- Fields of these names are not confused when their case is disregarded. -/
def historyKeys : List String := ["created_at", "message_id", "message_metadata", "namespace",
 "owner_id", "role", "thread_id", "thread_metadata"]

lemma historyFields_keys : (historyFields codec thread message a b).map Prod.fst ⊆ historyKeys := by
 cases a with
 | none | some v =>
  cases b with
  | none | some w => simp [historyFields,historyKeys]

lemma namedField_eq_lastField {name fields}
  (h:∀ f ∈ fields,f.1.toList.map Char.toLower=name.toList ↔ f.1=name) :
  namedField name fields=lastField name fields := by
 induction fields with
 | nil => rfl
 | cons f fields ih =>
  obtain ⟨hf,hfields⟩:=forall_mem_cons.mp h
  rw [namedField,reverse_cons,List.find?_append,lastField,← ih hfields,namedField,
   Option.map_or]
  congr 1
  simp only [List.find?_singleton,hf,decide_eq_true_eq]
  split
  · rfl
  · rfl

lemma hitField_historyFields :
  hitField "message_id" (historyFields codec thread message a b) = .ok message.id ∧
   hitField "thread_id" (historyFields codec thread message a b) = .ok message.threadID := by
 obtain ⟨-,-,hthread,hmessage⟩:=lastField_historyFields codec thread message a b
 have hkeys:∀ name ∈ ["message_id","thread_id"],∀ key ∈ historyKeys,
   (key.toList.map Char.toLower=name.toList ↔ key=name) := by decide +kernel
 refine ⟨?_,?_⟩
 · rw [hitField,namedField_eq_lastField fun f hf=>hkeys _ (by simp) _
    (historyFields_keys codec thread message a b (mem_map_of_mem hf)),hmessage]
   rfl
 · rw [hitField,namedField_eq_lastField fun f hf=>hkeys _ (by simp) _
    (historyFields_keys codec thread message a b (mem_map_of_mem hf)),hthread]
   rfl

end

lemma holds_string {fields key value text} (hfield:lastField key fields=some (.str value))
  (h:Holds (.json (.obj fields)) (key,.json (.str text))) : value=text := by
 obtain ⟨got,hgot,hequal⟩:=h
 rw [metadataField,decodeObject,Option.bind_some,lookupField_mapFields,hfield] at hgot
 cases hgot
 rw [jsonEqual,jsonEq_iff] at hequal
 simpa [decodeAny] using hequal

omit [LinearOrder Score] in
lemma Describes.scope {codec} {thread:ThreadRecord} {message:MessageRecord}
  {record:EmbeddingRecord Score} (h:Describes codec thread message record)
  {caller scope threadID}
  (hmatches:metadataMatches record.metadata (mergeVectorMetadataFilters caller
   (threadHistoryScopeFilter scope threadID))=true) :
  thread.scope=scope ∧ (threadID ≠ "" → message.threadID=threadID) := by
 obtain ⟨a,b,hmetadata⟩:=h.metadata
 rw [matches_merged_iff,metadataMatches_iff,hmetadata] at hmatches
 obtain ⟨hns,howner,hid,-⟩:=lastField_historyFields codec thread message a b
 have hscope:=hmatches.1
 refine ⟨?_,?_⟩
 · have hns:=holds_string hns (hscope ("namespace",.json (.str scope.ns))
    (by simp [threadHistoryScopeFilter]))
   have howner:=holds_string howner (hscope ("owner_id",.json (.str scope.ownerID))
    (by simp [threadHistoryScopeFilter]))
   cases hthread : thread.scope with
   | mk ns ownerID =>
    rw [hthread] at hns howner
    cases hns
    cases howner
    rfl
 · intro hne
   exact holds_string hid (hscope ("thread_id",.json (.str threadID))
    (by simp [threadHistoryScopeFilter,hne]))

omit [LinearOrder Score] in
lemma Describes.hit {codec thread} {message:MessageRecord} {record:EmbeddingRecord Score}
  (h:Describes codec thread message record) {result:SimilarityResult Score}
  (hmetadata:result.metadata=record.metadata) {hit:ThreadHistoryHit Score}
  (hhit:threadHistoryHit codec result = .ok hit) :
  hit.messageID=message.id ∧ hit.threadID=message.threadID ∧ hit.content=result.content := by
 obtain ⟨a,b,hfields⟩:=h.metadata
 obtain ⟨hmessage,hthread⟩:=hitField_historyFields codec thread message a b
 rw [threadHistoryHit,hmetadata,hfields] at hhit
 dsimp only at hhit
 rw [hmessage,hthread] at hhit
 simp only [bind,Except.bind] at hhit
 split at hhit
 · cases hhit
 split at hhit
 · cases hhit
 split at hhit
 · cases hhit
 split at hhit
 · cases hhit
 · cases hhit
   exact ⟨rfl,rfl,rfl⟩

lemma mapError_eq_ok {α:Type} {f:Err → Err} {x:Except Err α} {a} (h:x.mapError f = .ok a) :
  x = .ok a := by
 cases x with
 | error e => cases h
 | ok b =>
  cases h
  rfl

omit [LinearOrder Score] in
lemma trimHits_spec (maxTokens:Int) (hits:List (ThreadHistoryHit Score)) (tokens room:ℕ)
  (hroom:0 < room) (htokens:0 < maxTokens → tokens ≤ maxTokens) :
  (trimHits maxTokens tokens room hits).Sublist hits ∧
   (trimHits maxTokens tokens room hits).length ≤ room ∧
   (0 < maxTokens → tokens+(((trimHits maxTokens tokens room hits).map tokenEstimate).sum : ℕ) ≤
    maxTokens) := by
 induction hits generalizing tokens room with
 | nil => simpa [trimHits] using htokens
 | cons hit hits ih =>
  rw [trimHits]
  split
  · obtain ⟨hsub,hlength,hsum⟩:=ih tokens room hroom htokens
    exact ⟨hsub.cons hit,hlength,hsum⟩
  · rename_i hfits
    split
    · refine ⟨by simp,Nat.succ_le_of_lt hroom,?_⟩
      intro hmax
      simp only [map_cons,map_nil,sum_cons,sum_nil]
      omega
    · obtain ⟨hsub,hlength,hsum⟩:=ih (tokens+tokenEstimate hit) (room - 1) (by omega)
       (fun hmax=>by omega)
      refine ⟨hsub.cons_cons hit,by rw [length_cons]; omega,?_⟩
      intro hmax
      have hrest:=hsum hmax
      rw [map_cons,sum_cons]
      omega

lemma hitBefore_iff (a b:ThreadHistoryHit Score) : (!hitBefore b a)=true ↔
  b.score < a.score ∨ b.score=a.score ∧ b.createdAt ≤ a.createdAt := by
 unfold hitBefore
 rcases lt_trichotomy a.score b.score with h | h | h
 · simp [h,h.ne',h.not_gt]
 · simp [h]
 · simp [h,h.ne,h.not_gt]

lemma sortHits_ordered (hits:List (ThreadHistoryHit Score)) :
  (hits.mergeSort fun a b=>!hitBefore b a).Pairwise fun a b=>b.score ≤ a.score := by
 refine (pairwise_mergeSort ?_ ?_ hits).imp ?_
 · intro a b c hab hbc
   rw [hitBefore_iff] at hab hbc ⊢
   rcases hab with hab | ⟨hab,htime⟩
   · rcases hbc with hbc | ⟨hbc,-⟩
     · exact .inl (hbc.trans hab)
     · exact .inl (hbc ▸ hab)
   · rcases hbc with hbc | ⟨hbc,htime'⟩
     · exact .inl (hab ▸ hbc)
     · exact .inr ⟨hbc.trans hab,htime'.trans htime⟩
 · intro a b
   rw [Bool.or_eq_true,hitBefore_iff,hitBefore_iff]
   rcases lt_trichotomy a.score b.score with h | h | h
   · exact .inr (.inl h)
   · exact (le_total b.createdAt a.createdAt).imp (fun ht=>.inr ⟨h.symm,ht⟩)
      (fun ht=>.inr ⟨h,ht⟩)
   · exact .inl (.inl h)
 · intro a b hab
   rcases (hitBefore_iff a b).mp hab with h | ⟨h,-⟩
   · exact h.le
   · exact h.le

end

def plainCodec : Codec := ⟨some, fun _ => "now", fun _ => some 0⟩

def thread (ownerID : String) : ThreadRecord := { id := ownerID, scope := ⟨"app", ownerID⟩ }

def greeting (ownerID : String) : MessageRecord :=
 { id := ownerID, threadID := ownerID, message := { role := .user, content := "hello" } }

def writer : ThreadHistory Int where
 codec := plainCodec
 index := "history"
 dimension := 1
 embed := fun texts => .ok (texts.map fun _ => [1])
 search := fun _ => .ok []

def sharedIndex : List (EmbeddingRecord Int) :=
 (writer.indexMessages (fun id => .ok (thread id)) (· ++ ·)
  [greeting "bob", greeting "eve"]).toOption.getD []

def sharedHistory : ThreadHistory Int :=
 { writer with
   search := fun q => .ok ((sharedIndex.filter fun r => metadataMatches r.metadata q.filter).map
    fun r => ⟨r.id, 1, r.metadata, r.content⟩) }

def bobQuery : ThreadHistoryQuery where
 scope := ⟨"app", "bob"⟩
 query := "hello"
 maxTokens := 8
 filter := ⟨[("role", .json (.str "user"))], by simp⟩

end Lebro.ThreadHistories
