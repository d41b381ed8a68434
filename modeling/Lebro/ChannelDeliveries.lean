import Lebro.ChannelServer

set_option autoImplicit false

namespace Lebro.ChannelDeliveries

open EffectProgram EffectPool LengthPrefixes ChannelServer

variable {store:StoreRef} {o:ChannelOp} {r:ChannelReply o} {failing:Bool} {id:ThreadID}

/-- The threads of every store, the in-memory deduplicator, and the threads that
started runs may create on their own. -/
structure ChannelState where
 threads : StoreRef → ThreadID → Option ThreadRecord
 recent : MemoryDeduplicator
 running : List ThreadID

variable {s u:ChannelState}

def ChannelState.insert (s : ChannelState) (store : StoreRef) (record : ThreadRecord) :
  ChannelState :=
 { s with
   threads := fun other id =>
    if other = store ∧ id = record.id then some record else s.threads other id }

lemma ChannelState.insert_self (s:ChannelState) (store record) :
  (s.insert store record).threads store record.id=some record := by
 simp [ChannelState.insert]
lemma ChannelState.insert_of_ne {other record} (h : ¬ (other=store ∧ id=record.id)) :
  (s.insert store record).threads other id=s.threads other id := by
 simp only [ChannelState.insert,h,if_false]

structure AgentWrites (s u : ChannelState) : Prop where
 kept : ∀ store id, s.threads store id ≠ none → u.threads store id ≠ none
 own : ∀ store id, u.threads store id ≠ none → s.threads store id ≠ none ∨ id ∈ s.running
 recent : u.recent = s.recent
 running : u.running = s.running

lemma AgentWrites.refl (s) : AgentWrites s s := ⟨fun _ _ h=>h,fun _ _ h=>.inl h,rfl,rfl⟩

/-- A store inserts a thread atomically unless one is there. A create that reports an error may
have taken effect all the same. -/
def Answers (s u : ChannelState) : (o : ChannelOp) → ChannelReply o → Prop
 | .getThread store id, .ok record => s.threads store id = some record ∧ u = s
 | .getThread store id, .error .notFound => s.threads store id = none ∧ u = s
 | .getThread _ _, .error (.other _) => u = s
 | .createThread store record, .ok _ => s.threads store record.id = none ∧ u = s.insert store record
 | .createThread store record, .error _ =>
  u = s ∨ s.threads store record.id = none ∧ u = s.insert store record
 | .memorySeen capacity key, duplicate =>
  memorySeen capacity s.recent key = (duplicate, u.recent) ∧ u.threads = s.threads ∧
   u.running = s.running
 | .runStream _ _ input, _ => u = { s with running := input.threadID :: s.running }
 | _, _ => u = s

def channelWorld : Monitor channelSig ChannelState where
 demand _ _ := True
 step s o r u := ∃ m, AgentWrites s m ∧ Answers m u o r

lemma answers_kept (h:Answers s u o r) {store id} (hid:s.threads store id ≠ none) :
  u.threads store id ≠ none := by
 have hinsert:∀ other record,u=s.insert other record → u.threads store id ≠ none:=by
  rintro other record rfl
  by_cases hsame : store=other ∧ id=record.id
  · obtain ⟨rfl,rfl⟩:=hsame
    rw [ChannelState.insert_self]
    exact Option.some_ne_none record
  · rw [ChannelState.insert_of_ne hsame]
    exact hid
 cases o with
 | getThread other key =>
  rcases r with (_ | message) | record
  · exact h.2 ▸ hid
  · exact (show u=s from h) ▸ hid
  · exact h.2 ▸ hid
 | createThread other record =>
  cases r with
  | ok _ => exact hinsert other record h.2
  | error e =>
   rcases h with h | h
   · exact h ▸ hid
   · exact hinsert other record h.2
 | memorySeen capacity key =>
  rw [h.2.1]
  exact hid
 | runStream key identity input => exact (show u = { s with running := _ } from h) ▸ hid
 | _ => exact (show u=s from h) ▸ hid

lemma step_kept (h:channelWorld.step s o r u) (store id) (hid:s.threads store id ≠ none) :
  u.threads store id ≠ none := by
 obtain ⟨m,hm,hu⟩:=h
 exact answers_kept hu (hm.kept store id hid)

section

variable (sha256:Bytes → Bytes) (server:Server) (route:Binding)

def deliveries : ℕ → ChannelProg (List Answer)
 | 0 => pure []
 | n + 1 => do
  let answer ← server.webhookHandler sha256 route
  let answers ← deliveries n
  pure (answer :: answers)

def Complete : Answer → Bool
 | .processed _ .completed => true
 | _ => false

def Skipped (a : Answer) : Bool := a.status = 200 && !Complete a

/-- Only a message that an earlier delivery has run to its end is skipped. -/
def Retried (answers : List Answer) : Prop :=
 ∀ earlier answer later, answers = earlier ++ answer :: later → Skipped answer = true →
  ∃ done ∈ earlier, Complete done = true

lemma retried_nil : Retried [] := by
 intro earlier answer later heq
 simp at heq

lemma retried_cons {answer answers} (ha:Skipped answer=false)
  (h:Complete answer=true ∨ Retried answers) : Retried (answer :: answers) := by
 intro earlier other later heq hskipped
 cases earlier with
 | nil =>
  cases heq
  rw [ha] at hskipped
  cases hskipped
 | cons first earlier =>
  obtain ⟨rfl,htail⟩:=List.cons.inj heq
  rcases h with h | h
  · exact ⟨answer,List.mem_cons_self,h⟩
  · obtain ⟨done,hdone,hcomplete⟩:=h earlier other later htail hskipped
    exact ⟨done,List.mem_cons_of_mem answer hdone,hcomplete⟩

lemma skipped_of_complete {a} (h:Complete a=true) : Skipped a=false := by simp [Skipped,h]

def OfMessage (providerMessageID : Text) : (o : ChannelOp) → ChannelReply o → Prop
 | .webhookResponse _, .ok (_, handled) => handled = false
 | .decode _, .ok (message, actionable) =>
  actionable = true ∧ message.providerMessageID = providerMessageID
 | _, _ => True

def IsMarker (d : Deduplicator) (key : Text) (store : StoreRef) (id : ThreadID) : Prop :=
 match d with
 | .persistent d => store = d.store ∧ id = d.markerID sha256 key
 | .memory _ => False

/-- No failure comes after the marker of the message has been stored, and a marker whose creation
fails has not been stored. -/
def Unfailing (d : Deduplicator) (key : Text) (s u : ChannelState) :
  (o : ChannelOp) → ChannelReply o → Prop
 | .getThread store id, .error (.other _) =>
  IsMarker sha256 d key store id ∧ s.threads store id = none
 | .createThread store record, .error _ =>
  (u.threads store record.id = none ↔ IsMarker sha256 d key store record.id)
 | .runStream _ _ _, .error _ => False
 | .send _ _, .error _ => False
 | .wait, .error _ => False
 | _, _ => True

def Unrecorded (d : Deduplicator) (key : Text) (s : ChannelState) : Prop :=
 match d with
 | .persistent d => s.threads d.store (d.markerID sha256 key) = none ∧
   d.markerID sha256 key ∉ s.running
 | .memory _ => key ∉ s.recent.seen

def Recorded (d : Deduplicator) (key : Text) (s : ChannelState) : Prop :=
 ∀ store id, IsMarker sha256 d key store id → s.threads store id ≠ none

def steadyWorld (d : Deduplicator) (key providerMessageID : Text) :
  Monitor channelSig ChannelState :=
 guarded channelWorld fun s o r u => OfMessage providerMessageID o r ∧ Unfailing sha256 d key s u o r

variable {sha256 server route} {d:Deduplicator} {key providerMessageID:Text}
 {s u:ChannelState}

lemma unrecorded_writes (h:Unrecorded sha256 d key s) (hu:AgentWrites s u) :
  Unrecorded sha256 d key u := by
 cases d with
 | persistent d =>
  refine ⟨?_,hu.running ▸ h.2⟩
  by_contra hstored
  rcases hu.own _ _ hstored with hold | hrunning
  · exact hold h.1
  · exact h.2 hrunning
 | memory capacity =>
  change key ∉ u.recent.seen
  rw [hu.recent]
  exact h

lemma recorded_step (h:Recorded sha256 d key s) (hu:channelWorld.step s o r u) :
  Recorded sha256 d key u := by
 intro store id hmarker
 exact step_kept hu store id (h store id hmarker)

lemma reread_unrecorded {d cause} (hs:Unrecorded sha256 (.persistent d) key s) :
  wp (steadyWorld sha256 (.persistent d) key providerMessageID) (reread sha256 d key cause)
   (fun r u=>(∃ e,r = .error e) ∧ Unrecorded sha256 (.persistent d) key u) s := by
 refine ⟨trivial,?_⟩
 rintro r u ⟨⟨m,hm,hu⟩,-⟩
 have hclean:=unrecorded_writes hs hm
 rcases r with (_ | message) | record
 · obtain ⟨-,rfl⟩:=hu
   exact ⟨⟨_,rfl⟩,hclean⟩
 · obtain rfl : u=m := hu
   exact ⟨⟨_,rfl⟩,hclean⟩
 · exact absurd (hu.1.symm.trans hclean.1) (Option.some_ne_none record)

def SeenFirst (d : Deduplicator) (key : Text) (sha256 : Bytes → Bytes)
  (r : Except ChannelErr Bool) (u : ChannelState) : Prop :=
 match r with
 | .error _ => Unrecorded sha256 d key u
 | .ok duplicate => duplicate = false ∧ Recorded sha256 d key u

lemma record_unrecorded {d} (hs:Unrecorded sha256 (.persistent d) key s) :
  wp (steadyWorld sha256 (.persistent d) key providerMessageID) (record sha256 d key)
   (SeenFirst (.persistent d) key sha256) s := by
 refine ⟨trivial,?_⟩
 rintro now s' ⟨⟨m,hm,hs'⟩,-⟩
 obtain rfl : s'=m := hs'
 refine ⟨trivial,?_⟩
 rintro r u ⟨⟨m',hm',hu⟩,-,hunfailing⟩
 have hclean:=unrecorded_writes (unrecorded_writes hs hm) hm'
 cases r with
 | ok _ =>
  obtain ⟨-,rfl⟩:=hu
  refine ⟨rfl,?_⟩
  rintro store id ⟨rfl,rfl⟩
  exact fun h=>Option.some_ne_none _ ((ChannelState.insert_self m' _ _).symm.trans h)
 | error e =>
  have habsent:=hunfailing.mpr ⟨rfl,rfl⟩
  have hu':Unrecorded sha256 (.persistent d) key u:=by
   refine ⟨habsent,?_⟩
   rcases hu with rfl | ⟨-,rfl⟩
   · exact hclean.2
   · exact hclean.2
  apply wp_mono (reread_unrecorded hu')
  rintro r u ⟨⟨e,rfl⟩,hu⟩
  exact hu

lemma seen_unrecorded (hs:Unrecorded sha256 d key s) :
  wp (steadyWorld sha256 d key providerMessageID) (d.seen sha256 key)
   (SeenFirst d key sha256) s := by
 cases d with
 | persistent d =>
  refine ⟨trivial,?_⟩
  rintro r u ⟨⟨m,hm,hu⟩,-⟩
  have hclean:=unrecorded_writes hs hm
  rcases r with (_ | message) | record
  · obtain ⟨-,rfl⟩:=hu
    exact record_unrecorded hclean
  · obtain rfl : u=m := hu
    exact hclean
  · exact absurd (hu.1.symm.trans hclean.1) (Option.some_ne_none record)
 | memory capacity =>
  refine ⟨trivial,?_⟩
  rintro duplicate u ⟨⟨m,hm,hseen,-,-⟩,-⟩
  have hclean:key ∉ m.recent.seen:=unrecorded_writes hs hm
  simp only [memorySeen,hclean,if_false] at hseen
  exact ⟨(congrArg Prod.fst hseen).symm,fun _ _ h=>h.elim⟩

lemma ensureThread_recorded {scope ownerID} (hs:Recorded sha256 d key s) :
  wp (steadyWorld sha256 d key providerMessageID) (server.ensureThread id scope ownerID)
   (fun r _=>r = .ok ()) s := by
 unfold Server.ensureThread
 cases server.store with
 | none => rfl
 | some store =>
  refine ⟨trivial,?_⟩
  rintro r u ⟨hstep,-,hunfailing⟩
  have hu:=recorded_step hs hstep
  rcases r with (_ | message) | record
  · refine ⟨trivial,?_⟩
    rintro now v ⟨hstep,-⟩
    have hv:=recorded_step hu hstep
    refine ⟨trivial,?_⟩
    rintro r w ⟨hstep,-,hunfailing⟩
    cases r with
    | ok _ => rfl
    | error e =>
     have hw:=recorded_step hv hstep
     have hpresent:w.threads store id ≠ none:=by
      intro habsent
      exact hw store id (hunfailing.mp habsent) habsent
     refine ⟨trivial,?_⟩
     rintro r x ⟨⟨m,hm,hx⟩,-,hunfailing⟩
     rcases r with (_ | message) | record
     · exact absurd hx.1 (hm.kept store id hpresent)
     · exact absurd hunfailing.2 hpresent
     · rfl
  · exact absurd hunfailing.2 (hs store id hunfailing.1)
  · rfl

lemma relay_steady {conversation format deltas} :
  wp (steadyWorld sha256 d key providerMessageID) (relay conversation format deltas)
   (fun r _=>r=none) s := by
 induction deltas generalizing s with
 | nil => rfl
 | cons delta deltas ih =>
  unfold relay
  by_cases hempty : delta=[]
  · simp only [hempty,if_true]
    exact ih
  · simp only [hempty,if_false]
    refine ⟨trivial,?_⟩
    rintro r u ⟨-,-,hunfailing⟩
    cases r with
    | ok _ => exact ih
    | error e => exact hunfailing.elim

lemma stream_steady {message deltas} :
  wp (steadyWorld sha256 d key providerMessageID) (server.stream message deltas)
   (fun r _=>r = .ok ()) s := by
 apply wp_seq relay_steady
 rintro deliverErr u rfl
 refine ⟨trivial,?_⟩
 rintro result v ⟨-,-,hunfailing⟩
 cases result with
 | error e => exact hunfailing.elim
 | ok messages =>
  refine ⟨trivial,?_⟩
  rintro r w ⟨-,-,hunfailing⟩
  cases r with
  | ok _ => rfl
  | error e => exact hunfailing.elim

lemma run_recorded {message} (hs:Recorded sha256 d key s) :
  wp (steadyWorld sha256 d key providerMessageID) (server.run route message)
   (fun r _=>r = .ok ()) s := by
 apply wp_seq (ensureThread_recorded hs)
 rintro r u rfl
 refine ⟨trivial,?_⟩
 rintro r v ⟨-,-,hunfailing⟩
 cases r with
 | ok deltas => exact stream_steady
 | error e => exact hunfailing.elim

def Eligible (sha256 : Bytes → Bytes) (d : Deduplicator) (key providerMessageID : Text)
  (s : ChannelState) : Prop :=
 providerMessageID ≠ [] → Unrecorded sha256 d key s

def Progress (sha256 : Bytes → Bytes) (d : Deduplicator) (key providerMessageID : Text)
  (a : Answer) (u : ChannelState) : Prop :=
 Complete a = true ∨ Skipped a = false ∧ Eligible sha256 d key providerMessageID u

abbrev Progresses {α : Type} (sha256 : Bytes → Bytes) (server : Server) (route : Binding)
  (providerMessageID : Text) (p : ChannelProg α) (answer : α → Answer) : Prop :=
 let key := route.dedupKey providerMessageID
 ∀ s, Eligible sha256 server.deduplicator key providerMessageID s →
  wp (steadyWorld sha256 server.deduplicator key providerMessageID) p
   (fun v => Progress sha256 server.deduplicator key providerMessageID (answer v)) s

lemma process_returns {message} : Returns (server.process route message) fun v =>
   v = .completed ∨ ∃ e,v = .failedRun e := by
 apply returns_then
 intro r
 cases r with
 | ok _ => exact .inl rfl
 | error e => exact .inr ⟨e,rfl⟩

lemma deduplicated_progress {message} (hmessage:message.providerMessageID=providerMessageID) :
  Progresses sha256 server route providerMessageID (server.deduplicated sha256 route message)
   (.processed (route.key message)) := by
 subst hmessage
 intro s hs
 unfold Server.deduplicated
 by_cases hempty : message.providerMessageID=[]
 · simp only [hempty,if_true]
   apply wp_mono (process_returns.wp_and (wp_trivial (fun _ _=>trivial)))
   rintro v u ⟨rfl | ⟨e,rfl⟩,-⟩
   · exact .inl rfl
   · exact .inr ⟨rfl,fun h=>(h rfl).elim⟩
 · simp only [hempty,if_false]
   apply wp_seq (seen_unrecorded (hs hempty))
   intro r u hu
   cases r with
   | error e => exact .inr ⟨rfl,fun _=>hu⟩
   | ok duplicate =>
    obtain ⟨rfl,hrecorded⟩:=hu
    apply wp_seq (run_recorded hrecorded)
    rintro r v rfl
    exact .inl rfl

section

variable (hsync:server.hasDispatch = false)

include hsync

lemma admit_progress {body message} (hmessage:message.providerMessageID=providerMessageID) :
  Progresses sha256 server route providerMessageID (server.validated sha256 route body message)
   fun a=>a := by
 intro s hs
 unfold Server.validated
 by_cases hvalid : validateInbound message=true
 · rw [if_pos hvalid,Server.accept,hsync]
   exact wp_seq (deduplicated_progress hmessage s hs) fun v w hw=>hw
 · rw [if_neg hvalid]
   exact .inr ⟨rfl,hs⟩

lemma receive_progress {body} :
  Progresses sha256 server route providerMessageID (server.receive sha256 route body)
   fun a=>a := by
 intro s hs
 refine ⟨trivial,?_⟩
 rintro r u ⟨⟨m,hm,hu⟩,hof,-⟩
 obtain rfl : u=m := hu
 have heligible:=fun h=>unrecorded_writes (hs h) hm
 cases r with
 | error e => exact .inr ⟨rfl,heligible⟩
 | ok decoded =>
  obtain ⟨message,actionable⟩:=decoded
  obtain ⟨rfl,hmessage⟩:=hof
  exact admit_progress hsync hmessage u heligible

lemma webhookHandler_progress :
  Progresses sha256 server route providerMessageID (server.webhookHandler sha256 route)
   fun a=>a := by
 intro s hs
 refine ⟨trivial,?_⟩
 rintro r u ⟨⟨m,hm,hu⟩,-⟩
 obtain rfl : u=m := hu
 have heligible:=fun h=>unrecorded_writes (hs h) hm
 cases r with
 | error e => exact .inr ⟨rfl,heligible⟩
 | ok body =>
  cases hresponds : route.responds with
  | false => exact receive_progress hsync u heligible
  | true =>
   refine ⟨trivial,?_⟩
   rintro r v ⟨⟨m',hm',hv⟩,hof,-⟩
   obtain rfl : v=m' := hv
   have heligible':=fun h=>unrecorded_writes (heligible h) hm'
   cases r with
   | error e => exact .inr ⟨rfl,heligible'⟩
   | ok response =>
    obtain ⟨response,handled⟩:=response
    obtain rfl : handled=false := hof
    exact receive_progress hsync v heligible'

lemma deliveries_retried {n:ℕ}
  (hs:Eligible sha256 server.deduplicator (route.dedupKey providerMessageID)
   providerMessageID s) :
  wp (steadyWorld sha256 server.deduplicator (route.dedupKey providerMessageID)
      providerMessageID) (deliveries sha256 server route n)
   (fun answers _=>Retried answers) s := by
 induction n generalizing s with
 | zero => exact retried_nil
 | succ n ih =>
  apply wp_seq (webhookHandler_progress hsync s hs)
  intro answer u hu
  rcases hu with hcomplete | ⟨hskipped,hu⟩
  · apply wp_seq (wp_trivial (fun _ _=>trivial))
    intro answers _ _
    exact retried_cons (skipped_of_complete hcomplete) (.inl hcomplete)
  · apply wp_seq (ih hu)
    intro answers _ hanswers
    exact retried_cons hskipped (.inr hanswers)

end

end

def plainHash (bytes : Bytes) : Bytes := bytes

def storeServer : Server where
 store := some 0
 mapper := namespaceThreadMapper plainHash []
 deduplicator := .persistent ⟨0, []⟩
 textFormat := .markdown
 hasDispatch := false
 routes := []

def chatRoute : Binding := ⟨ascii "helper", ascii "chat", false, false⟩

def question : InboundMessage where
 conversation := ⟨ascii "chat", ascii "room", []⟩
 providerMessageID := ascii "m1"
 sender := ⟨ascii "u1", [], []⟩
 text := ascii "hello"
 metadata := []

def quietState : ChannelState := ⟨fun _ _ => none, {}, []⟩

def answerQuestion (failing : Bool) :
  (o : ChannelOp) → ChannelState → Option (ChannelReply o × ChannelState)
 | .verify, s => some (.ok [], s)
 | .webhookResponse _, _ => none
 | .decode _, s => some (.ok (question, true), s)
 | .dispatch _, _ => none
 | .webhookAcknowledgement _, _ => none
 | .memorySeen _ _, _ => none
 | .now, s => some (0, s)
 | .getThread store id, s =>
  match s.threads store id with
  | some record => some (.ok record, s)
  | none => some (.error .notFound, s)
 | .createThread store record, s =>
  match s.threads store record.id with
  | some _ => none
  | none => some (.ok (), s.insert store record)
 | .runStream _ _ input, s =>
  some (if failing && s.running.isEmpty then .error (ascii "unavailable")
   else .ok [ascii "hi"], { s with running := input.threadID :: s.running })
 | .send _ _, s => some (.ok (), s)
 | .cancel, s => some ((), s)
 | .wait, s => some (.ok [⟨.assistant, ascii "hi"⟩], s)

lemma answerQuestion_getThread {r}
  (h:answerQuestion failing (.getThread store id) s=some (r,u)) :
  u=s ∧ ((∃ record,r = .ok record ∧ s.threads store id=some record) ∨
   r = .error .notFound ∧ s.threads store id=none) := by
 unfold answerQuestion at h
 cases hthread : s.threads store id with
 | some record =>
  simp only [hthread,Option.some.injEq,Prod.mk.injEq] at h
  exact ⟨h.2.symm,.inl ⟨record,h.1.symm,rfl⟩⟩
 | none =>
  simp only [hthread,Option.some.injEq,Prod.mk.injEq] at h
  exact ⟨h.2.symm,.inr ⟨h.1.symm,rfl⟩⟩

lemma answerQuestion_createThread {record r}
  (h:answerQuestion failing (.createThread store record) s=some (r,u)) :
  r = .ok () ∧ s.threads store record.id=none ∧ u=s.insert store record := by
 unfold answerQuestion at h
 cases hthread : s.threads store record.id with
 | some _ => simp [hthread] at h
 | none =>
  simp only [hthread,Option.some.injEq,Prod.mk.injEq] at h
  exact ⟨h.1.symm,rfl,h.2.symm⟩

lemma answerQuestion_step (h:answerQuestion failing o s=some (r,u)) :
  channelWorld.step s o r u := by
 refine ⟨s,.refl s,?_⟩
 cases o with
 | getThread store id =>
  obtain ⟨rfl,⟨record,rfl,hthread⟩ | ⟨rfl,hthread⟩⟩:=answerQuestion_getThread h
  · exact ⟨hthread,rfl⟩
  · exact ⟨hthread,rfl⟩
 | createThread store record =>
  obtain ⟨rfl,hthread,rfl⟩:=answerQuestion_createThread h
  exact ⟨hthread,rfl⟩
 | webhookResponse _ | dispatch _ | webhookAcknowledgement _ | memorySeen _ _ => cases h
 | _ =>
  cases h
  rfl

lemma answerQuestion_ofMessage (h:answerQuestion failing o s=some (r,u)) :
  OfMessage question.providerMessageID o r := by
 cases o with
 | webhookResponse _ => cases h
 | decode _ =>
  cases h
  exact ⟨rfl,rfl⟩
 | _ => trivial

lemma answerQuestion_unfailing {d} {key:Text} (h:answerQuestion false o s=some (r,u)) :
  Unfailing plainHash d key s u o r := by
 cases o with
 | getThread store id =>
  obtain ⟨rfl,⟨record,rfl,-⟩ | ⟨rfl,-⟩⟩:=answerQuestion_getThread h
  · trivial
  · trivial
 | createThread store record =>
  obtain ⟨rfl,-⟩:=answerQuestion_createThread h
  trivial
 | runStream _ _ _ | send _ _ | wait =>
  cases h
  trivial
 | _ => trivial

lemma quietState_eligible : Eligible plainHash storeServer.deduplicator
  (chatRoute.dedupKey question.providerMessageID) question.providerMessageID quietState :=
 fun _=>⟨rfl,List.not_mem_nil⟩

def twoDeliveries (failing : Bool) : Option (List Answer × ChannelState) :=
 (deliveries plainHash storeServer chatRoute 2).answer (answerQuestion failing) quietState

def outcome (a : Answer) : Nat × Bool := (a.status, Complete a)

lemma twoDeliveries_run {outcomes} {M:Monitor channelSig ChannelState}
  (hM:∀ o s r u,answerQuestion failing o s=some (r,u) → M.step s o r u)
  (h:(twoDeliveries failing).map (fun a=>a.1.map outcome)=some outcomes) :
  ∃ answers es u,Trace (deliveries plainHash storeServer chatRoute 2) es (.ret answers) ∧
   M.Follows quietState es u ∧ answers.map outcome=outcomes := by
 obtain ⟨⟨answers,u⟩,hanswer,houtcomes⟩:=Option.map_eq_some_iff.mp h
 obtain ⟨htrace,hfollows⟩:=Monitor.follows_answered hM hanswer
 exact ⟨answers,_,u,htrace,hfollows,houtcomes⟩

lemma not_retried_of_outcomes {answers status}
  (h:answers.map outcome=[(status,false),(200,false)]) : ¬ Retried answers := by
 obtain ⟨first,rest,rfl,hfirst,hrest⟩:=List.map_eq_cons_iff.mp h
 obtain ⟨second,rest,rfl,hsecond,hrest⟩:=List.map_eq_cons_iff.mp hrest
 obtain ⟨-,hincomplete⟩:=Prod.mk.inj hfirst
 obtain ⟨hstatus,hskipped⟩:=Prod.mk.inj hsecond
 intro hretried
 obtain ⟨done,hdone,hcomplete⟩:=hretried [first] second rest rfl
  (by simp [Skipped,hstatus,hskipped])
 obtain rfl : done=first := List.mem_singleton.mp hdone
 rw [hincomplete] at hcomplete
 cases hcomplete

end Lebro.ChannelDeliveries
