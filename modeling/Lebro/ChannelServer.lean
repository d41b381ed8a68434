import Lebro.EffectPool
import Lebro.LengthPrefixes

set_option autoImplicit false

/-! Go strings are byte strings. Adapters, agents and the stores answer the operations of a
delivery; the thread mapper is a pure function. -/
namespace Lebro.ChannelServer

open EffectProgram LengthPrefixes

abbrev Text := Bytes
abbrev ThreadID := Text
abbrev Time := Int

structure ConversationRef where
 platform : Text
 id : Text
 replyTarget : Text

structure ChannelIdentity where
 providerUserID : Text
 displayName : Text
 tenant : Text

structure InboundMessage where
 conversation : ConversationRef
 providerMessageID : Text
 sender : ChannelIdentity
 text : Text
 metadata : List (Text × Text)

inductive TextFormat where
 | markdown
 | plain

structure OutboundMessage where
 text : Text
 final : Bool
 format : TextFormat

inductive Role where
 | system
 | user
 | assistant
 | tool
deriving DecidableEq

structure Turn where
 role : Role
 content : Text

structure Identity where
 subject : Text
 tenant : Text
 attributes : List (Text × Text)

structure RunInput where
 messages : List Turn
 threadID : ThreadID
 metadata : List (Text × Text)

structure ThreadRecord where
 id : ThreadID
 scope : Text
 ownerID : Text
 createdAt : Time
 updatedAt : Time

structure MessageKey where
 agentID : Text
 platform : Text
 providerMessageID : Text
deriving DecidableEq

/-- A registered agent with its adapter; `responds` and `acknowledges` say which optional
interfaces the adapter implements. -/
structure Binding where
 agentID : Text
 platform : Text
 responds : Bool
 acknowledges : Bool

variable (b : Binding) (message : InboundMessage)

def Binding.key : MessageKey := ⟨b.agentID, b.platform, message.providerMessageID⟩

def Binding.dedupKey (providerMessageID : Text) : Text :=
 lengthPrefixed [b.agentID, b.platform, providerMessageID]

structure DispatchJob where
 agentID : Text
 platform : Text
 message : InboundMessage

abbrev StoreRef := Nat

structure StoreDeduplicator where
 store : StoreRef
 scope : Text

inductive Deduplicator where
 | persistent (d : StoreDeduplicator)
 | memory (capacity : Nat)

structure Server where
 store : Option StoreRef
 mapper : InboundMessage → ThreadID × Text × Text
 deduplicator : Deduplicator
 textFormat : TextFormat
 hasDispatch : Bool
 routes : List Binding

inductive StoreErr where
 | notFound
 | other (message : Text)

inductive ChannelErr where
 | noRoute (agentID platform : Text)
 | deduplicate (key : Text) (cause : StoreErr)
 | store (cause : StoreErr)
 | external (message : Text)

inductive ChannelOp where
 | verify
 | webhookResponse (body : Text)
 | decode (body : Text)
 | dispatch (job : DispatchJob)
 | webhookAcknowledgement (body : Text)
 | memorySeen (capacity : Nat) (key : Text)
 | now
 | getThread (store : StoreRef) (id : ThreadID)
 | createThread (store : StoreRef) (record : ThreadRecord)
 | runStream (key : MessageKey) (identity : Identity) (input : RunInput)
 | send (conversation : ConversationRef) (message : OutboundMessage)
 | cancel
 | wait

@[reducible] def ChannelReply : ChannelOp → Type
  | .verify => Except Text Text
  | .webhookResponse _ => Except Text (Text × Bool)
  | .decode _ => Except Text (InboundMessage × Bool)
  | .dispatch _ => Except Text Unit
  | .webhookAcknowledgement _ => Except Text (Text × Text)
  | .memorySeen _ _ => Bool
  | .now => Time
  | .getThread _ _ => Except StoreErr ThreadRecord
  | .createThread _ _ => Except StoreErr Unit
  | .runStream _ _ _ => Except Text (List Text)
  | .send _ _ => Except Text Unit
  | .cancel => Unit
  | .wait => Except Text (List Turn)

def channelSig : Sig := ⟨ChannelOp, ChannelReply⟩

abbrev ChannelProg := Prog channelSig

def channelOp (o : ChannelOp) : ChannelProg (ChannelReply o) := Prog.perform (S := channelSig) o

/-- A bounded deduplicator: the keys of its list, oldest first, and those of its map. -/
structure MemoryDeduplicator where
 order : List Text := []
 seen : Finset Text := ∅

/-- The loop that removes the oldest keys from the list and the map. -/
def evict (capacity : Nat) : List Text → Finset Text → MemoryDeduplicator
 | [], seen => ⟨[], seen⟩
 | oldest :: order, seen =>
  if capacity < order.length + 1 then evict capacity order (seen.erase oldest)
  else ⟨oldest :: order, seen⟩

def memorySeen (capacity : Nat) (d : MemoryDeduplicator) (key : Text) :
  Bool × MemoryDeduplicator :=
 if key ∈ d.seen then (true, d)
 else (false, evict (max capacity 1) (d.order ++ [key]) (insert key d.seen))

section

variable (sha256 : Bytes → Bytes)

def markerStem : Text := ascii "chdedup-"

def StoreDeduplicator.markerID (d : StoreDeduplicator) (key : Text) : ThreadID :=
 markerStem ++ hex (sha256 (lengthPrefixed [d.scope, key]))

/-- The marker could not be created: a marker that is there now makes the delivery a duplicate. -/
def reread (d : StoreDeduplicator) (key : Text) (cause : StoreErr) :
  ChannelProg (Except ChannelErr Bool) := do
 match ← channelOp (.getThread d.store (d.markerID sha256 key)) with
 | .ok _ => pure (.ok true)
 | .error _ => pure (.error (.deduplicate key cause))

def record (d : StoreDeduplicator) (key : Text) : ChannelProg (Except ChannelErr Bool) := do
 let now ← channelOp .now
 match ← channelOp (.createThread d.store
  ⟨d.markerID sha256 key, d.scope, [], now, now⟩) with
 | .ok _ => pure (.ok false)
 | .error e => reread sha256 d key e

def StoreDeduplicator.seen (d : StoreDeduplicator) (key : Text) :
  ChannelProg (Except ChannelErr Bool) := do
 match ← channelOp (.getThread d.store (d.markerID sha256 key)) with
 | .ok _ => pure (.ok true)
 | .error .notFound => record sha256 d key
 | .error (.other message) => pure (.error (.deduplicate key (.other message)))

def Deduplicator.seen (d : Deduplicator) (key : Text) : ChannelProg (Except ChannelErr Bool) :=
 match d with
 | .persistent d => d.seen sha256 key
 | .memory capacity => do
  let duplicate ← channelOp (.memorySeen capacity key)
  pure (.ok duplicate)

def threadStem : Text := ascii "ch-"

def namespaceThreadMapper (scope : Text) (message : InboundMessage) : ThreadID × Text × Text :=
 (threadStem ++
   hex (sha256 (lengthPrefixed [scope, message.conversation.platform, message.conversation.id])),
  scope, message.sender.providerUserID)

end

def validateInbound : Bool := message.conversation.id != []

def ChannelIdentity.identity (c : ChannelIdentity) (platform : Text) : Identity where
 subject := lengthPrefixed [platform, c.providerUserID]
 tenant := c.tenant
 attributes := (ascii "platform", platform) ::
  if c.displayName = [] then [] else [(ascii "display_name", c.displayName)]

def callerIdentity (scope : Text) : Identity :=
 let identity := message.sender.identity message.conversation.platform
 if scope = [] then identity
 else { identity with attributes := identity.attributes ++ [(ascii "namespace", scope)] }

def assistantText (messages : List Turn) : Text :=
 match messages.reverse.find? (·.role = .assistant) with
 | some turn => turn.content
 | none => []

/-- The thread could not be created: one that is there now is as good. -/
def threadPresent (store : StoreRef) (id : ThreadID) (cause : StoreErr) :
  ChannelProg (Except ChannelErr Unit) := do
 match ← channelOp (.getThread store id) with
 | .ok _ => pure (.ok ())
 | .error _ => pure (.error (.store cause))

def createThread (store : StoreRef) (id : ThreadID) (scope ownerID : Text) :
  ChannelProg (Except ChannelErr Unit) := do
 let now ← channelOp .now
 match ← channelOp (.createThread store ⟨id, scope, ownerID, now, now⟩) with
 | .ok _ => pure (.ok ())
 | .error e => threadPresent store id e

def Server.ensureThread (s : Server) (id : ThreadID) (scope ownerID : Text) :
  ChannelProg (Except ChannelErr Unit) :=
 match s.store with
 | none => pure (.ok ())
 | some store => do
  match ← channelOp (.getThread store id) with
  | .ok _ => pure (.ok ())
  | .error .notFound => createThread store id scope ownerID
  | .error (.other message) => pure (.error (.store (.other message)))

/-- Relay the deltas of a run; a chunk that cannot be delivered cancels the run, whose other deltas
are drained. -/
def relay (conversation : ConversationRef) (format : TextFormat) :
  List Text → ChannelProg (Option ChannelErr)
 | [] => pure none
 | delta :: deltas =>
  if delta = [] then relay conversation format deltas
  else do
   match ← channelOp (.send conversation ⟨delta, false, format⟩) with
   | .ok _ => relay conversation format deltas
   | .error e => do
    let _ ← channelOp .cancel
    pure (some (.external e))

/-- The end of a run: a failed delivery comes before the error of the run, and the terminal chunk
carries the complete message. -/
def conclude (conversation : ConversationRef) (format : TextFormat) (deliverErr : Option ChannelErr)
  (result : Except Text (List Turn)) : ChannelProg (Except ChannelErr Unit) :=
 match deliverErr, result with
 | some e, _ => pure (.error e)
 | none, .error e => pure (.error (.external e))
 | none, .ok messages => do
  match ← channelOp (.send conversation ⟨assistantText messages, true, format⟩) with
  | .ok _ => pure (.ok ())
  | .error e => pure (.error (.external e))

def Server.stream (s : Server) (message : InboundMessage) (deltas : List Text) :
  ChannelProg (Except ChannelErr Unit) := do
 let deliverErr ← relay message.conversation s.textFormat deltas
 let result ← channelOp .wait
 conclude message.conversation s.textFormat deliverErr result

def runInput (threadID : ThreadID) : RunInput :=
 ⟨[⟨.user, message.text⟩], threadID, message.metadata⟩

def Server.start (s : Server) (b : Binding) (message : InboundMessage) (threadID : ThreadID)
  (scope : Text) : ChannelProg (Except ChannelErr Unit) := do
 match ← channelOp (.runStream (b.key message) (callerIdentity message scope)
  (runInput message threadID)) with
 | .error e => pure (.error (.external e))
 | .ok deltas => s.stream message deltas

def Server.run (s : Server) (b : Binding) (message : InboundMessage) :
  ChannelProg (Except ChannelErr Unit) := do
 let mapped := s.mapper message
 match ← s.ensureThread mapped.1 mapped.2.1 mapped.2.2 with
 | .error e => pure (.error e)
 | .ok _ => s.start b message mapped.1 mapped.2.1

inductive Verdict where
 | failedDedup (e : ChannelErr)
 | duplicate
 | failedRun (e : ChannelErr)
 | completed

section

variable (sha256 : Bytes → Bytes)

def Server.process (s : Server) (b : Binding) (message : InboundMessage) : ChannelProg Verdict := do
 match ← s.run b message with
 | .error e => pure (.failedRun e)
 | .ok _ => pure .completed

def Server.afterSeen (s : Server) (b : Binding) (message : InboundMessage) :
  Except ChannelErr Bool → ChannelProg Verdict
 | .error e => pure (.failedDedup e)
 | .ok true => pure .duplicate
 | .ok false => s.process b message

/-- Drop a duplicate or run the message; one without a provider ID is always processed. -/
def Server.deduplicated (s : Server) (b : Binding) (message : InboundMessage) :
  ChannelProg Verdict :=
 if message.providerMessageID = [] then s.process b message
 else do
  let duplicate ← s.deduplicator.seen sha256 (b.dedupKey message.providerMessageID)
  s.afterSeen b message duplicate

inductive Answer where
 | unauthorized
 | badRequest
 | handled (response : Text)
 | ignored
 | dispatchFailed
 | dispatched
 | acknowledged (response contentType : Text)
 | processed (key : MessageKey) (verdict : Verdict)

def Verdict.status : Verdict → Nat
 | .failedDedup _ => 500
 | .duplicate => 200
 | .failedRun _ => 500
 | .completed => 200

def Answer.status : Answer → Nat
 | .unauthorized => 401
 | .badRequest => 400
 | .handled _ => 200
 | .ignored => 200
 | .dispatchFailed => 500
 | .dispatched => 200
 | .acknowledged _ _ => 200
 | .processed _ verdict => verdict.status

def acknowledge (body : Text) : ChannelProg Answer :=
 if b.acknowledges then do
  match ← channelOp (.webhookAcknowledgement body) with
  | .error _ => pure .dispatchFailed
  | .ok (response, contentType) => pure (.acknowledged response contentType)
 else pure .dispatched

def handOff (body : Text) (message : InboundMessage) : ChannelProg Answer := do
 match ← channelOp (.dispatch ⟨b.agentID, b.platform, message⟩) with
 | .error _ => pure .dispatchFailed
 | .ok _ => acknowledge b body

def Server.accept (s : Server) (b : Binding) (body : Text) (message : InboundMessage) :
  ChannelProg Answer :=
 if s.hasDispatch then handOff b body message
 else do
  let verdict ← s.deduplicated sha256 b message
  pure (.processed (b.key message) verdict)

def Server.validated (s : Server) (b : Binding) (body : Text) (message : InboundMessage) :
  ChannelProg Answer :=
 if validateInbound message then s.accept sha256 b body message else pure .badRequest

def Server.receive (s : Server) (b : Binding) (body : Text) : ChannelProg Answer := do
 match ← channelOp (.decode body) with
 | .error _ => pure .badRequest
 | .ok (message, actionable) =>
  if actionable then s.validated sha256 b body message else pure .ignored

def Server.respond (s : Server) (b : Binding) (body : Text) : ChannelProg Answer := do
 match ← channelOp (.webhookResponse body) with
 | .error _ => pure .badRequest
 | .ok (response, handled) =>
  if handled then pure (.handled response)
  else s.receive sha256 b body

def Server.webhookHandler (s : Server) (b : Binding) : ChannelProg Answer := do
 match ← channelOp .verify with
 | .error _ => pure .unauthorized
 | .ok body => if b.responds then s.respond sha256 b body else s.receive sha256 b body

def webhookPath (agentID platform : Text) : Text :=
 ascii "/agents/" ++ agentID ++ ascii "/channels/" ++ platform ++ ascii "/webhook"

def Server.route (s : Server) (agentID platform : Text) : Option Binding :=
 s.routes.find? fun b => webhookPath b.agentID b.platform = webhookPath agentID platform

inductive DispatchEnd where
 | noRoute (e : ChannelErr)
 | processed (key : MessageKey) (verdict : Verdict)

def Server.runDispatch (s : Server) (job : DispatchJob) : ChannelProg DispatchEnd :=
 match s.route job.agentID job.platform with
 | none => pure (.noRoute (.noRoute job.agentID job.platform))
 | some b => do
  let verdict ← s.deduplicated sha256 b job.message
  pure (.processed (b.key job.message) verdict)

end

/-- The keys taken for new, and the deduplicator, after a call of `Seen`. -/
def seenAfter (capacity : Nat) (s : List Text × MemoryDeduplicator) (key : Text) :
  List Text × MemoryDeduplicator :=
 match memorySeen capacity s.2 key with
 | (true, d) => (s.1, d)
 | (false, d) => (s.1 ++ [key], d)

structure Window (capacity : Nat) (s : List Text × MemoryDeduplicator) : Prop where
 distinct : s.2.order.Nodup
 recent : s.2.order = s.1.drop (s.1.length - max capacity 1)
 seen : s.2.seen = s.2.order.toFinset

lemma evict_eq {order} (capacity) (h : order.Nodup) : evict capacity order order.toFinset =
  ⟨order.drop (order.length - capacity),(order.drop (order.length - capacity)).toFinset⟩ := by
 induction order with
 | nil =>
  rw [List.drop_nil]
  rfl
 | cons oldest order ih =>
  obtain ⟨hnew,horder⟩ := List.nodup_cons.mp h
  rw [evict]
  split
  · rename_i hlt
    have hcount : (oldest :: order).length - capacity=order.length - capacity+1 := by
     rw [List.length_cons]
     omega
    rw [List.toFinset_cons,Finset.erase_insert (mt List.mem_toFinset.mp hnew),ih horder,hcount,
     List.drop_succ_cons]
  · rename_i hle
    rw [List.length_cons,Nat.sub_eq_zero_of_le (Nat.le_of_not_lt hle),List.drop_zero]

lemma Window.after {capacity s} (h : Window capacity s) (key) :
  Window capacity (seenAfter capacity s key) := by
 unfold seenAfter memorySeen
 by_cases hkey : key ∈ s.2.seen
 · rw [if_pos hkey]
   exact h
 have hnodup : (s.2.order++[key]).Nodup := by
  rw [h.seen,List.mem_toFinset] at hkey
  refine List.nodup_append.mpr ⟨h.distinct,List.nodup_singleton key,?_⟩
  rintro k hk _ hb rfl
  exact hkey (List.mem_singleton.mp hb ▸ hk)
 have hseen : insert key s.2.seen=(s.2.order++[key]).toFinset := by
  rw [h.seen,List.toFinset_append,List.toFinset_cons,List.toFinset_nil,Finset.union_comm]
  rfl
 rw [if_neg hkey,hseen,evict_eq _ hnodup]
 refine ⟨hnodup.sublist (List.drop_sublist _ _),?_,rfl⟩
 dsimp only
 rw [h.recent,← List.drop_append_of_le_length (Nat.sub_le _ _),List.drop_drop,List.length_drop]
 congr 1
 simp only [List.length_append,List.length_singleton]
 omega

/-- The list and the map of a bounded deduplicator hold the same keys, those that it last took for
new up to its capacity, and these it reports. -/
theorem memory_window (capacity : Nat) (calls : List Text) (key : Text) :
  let s := calls.foldl (seenAfter capacity) ([], {})
  s.2.order.Nodup ∧ s.2.seen = s.2.order.toFinset ∧ ((memorySeen capacity s.2 key).1 = true ↔
   key ∈ s.1.drop (s.1.length - max capacity 1)) := by
 have hwindow:Window capacity (calls.foldl (seenAfter capacity) ([],{})) :=
  List.foldlRecOn calls _ ⟨List.nodup_nil,List.drop_nil.symm,rfl⟩ fun s hs k _=>hs.after k
 refine ⟨hwindow.distinct,hwindow.seen,?_⟩
 rw [← hwindow.recent,← List.mem_toFinset,← hwindow.seen]
 unfold memorySeen
 split <;> simp_all

end Lebro.ChannelServer
