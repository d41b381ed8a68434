import Lebro.ChannelDeliveries

set_option autoImplicit false

namespace Lebro.ChannelDuplicates

open EffectProgram EffectRuns EffectPool LengthPrefixes List
 Lebro.ChannelServer Lebro.ChannelDeliveries

variable {s u:ChannelState} {message:InboundMessage} {id:ThreadID} {o:ChannelOp}
 {store:StoreRef} {es events:List (Event channelSig)} {key:MessageKey}

inductive Goroutine where
 | delivery (server : Server) (route : Binding)
 | dispatch (server : Server) (job : DispatchJob)

def Goroutine.server : Goroutine → Server
 | .delivery server _ => server
 | .dispatch server _ => server

inductive Outcome where
 | answered (a : Answer)
 | dispatched (e : DispatchEnd)

def Goroutine.program (sha256 : Bytes → Bytes) : Goroutine → ChannelProg Outcome
 | .delivery server route => do
  let answer ← server.webhookHandler sha256 route
  pure (.answered answer)
 | .dispatch server job => do
  let ended ← server.runDispatch sha256 job
  pure (.dispatched ended)

def droppedAs (key : MessageKey) : Verdict → Option MessageKey
 | .duplicate => some key
 | _ => none

def Outcome.duplicateOf : Outcome → Option MessageKey
 | .answered (.processed key verdict) => droppedAs key verdict
 | .dispatched (.processed key verdict) => droppedAs key verdict
 | _ => none

def Goroutine.Handles (key : MessageKey) (events : List (Event channelSig)) : Goroutine → Prop
 | .delivery _ route => ∃ body message,
   (⟨.decode body, .ok (message, true)⟩ : Event channelSig) ∈ events ∧ route.key message = key
 | .dispatch server job => ∃ route, server.route job.agentID job.platform = some route ∧
   route.key job.message = key

def keyText (key : MessageKey) : Text :=
 lengthPrefixed [key.agentID, key.platform, key.providerMessageID]

lemma keyText_injective : Function.Injective keyText := by
 intro a b h
 obtain ⟨agentID,platform,providerMessageID⟩:=a
 have hfields:=lengthPrefixed_injective h
 simp only [List.cons.injEq,and_true] at hfields
 obtain ⟨rfl,rfl,rfl⟩:=hfields
 rfl

lemma markerID_injective {sha256} (hsha:Function.Injective sha256) {d:StoreDeduplicator} :
  Function.Injective (d.markerID sha256) := by
 intro a b h
 have hhash:=hsha (hex_injective (append_cancel_left h))
 have hfields:=lengthPrefixed_injective hhash
 simp only [List.cons.injEq,and_true,true_and] at hfields
 exact hfields

lemma namespaceThreadMapper_ne_markerID {sha256:Bytes → Bytes} {scope message}
  {d:StoreDeduplicator} {key} :
  (namespaceThreadMapper sha256 scope message).1 ≠ d.markerID sha256 key := by
 intro h
 have hbyte:=congrArg (fun id : ThreadID => id[2]?) h
 have hthread:(namespaceThreadMapper sha256 scope message).1[2]? = some 45:=rfl
 have hmarker:(d.markerID sha256 key)[2]? = some 100:=rfl
 rw [hthread,hmarker] at hbyte
 exact absurd hbyte (by decide)

section

variable {sha256:Bytes → Bytes} {d:StoreDeduplicator} {key:MessageKey}

def inserts (d : StoreDeduplicator) (id : ThreadID) : Event channelSig → Bool
 | ⟨.createThread store record, .ok _⟩ => decide (store = d.store ∧ record.id = id)
 | _ => false

def starts (key : MessageKey) : ChannelOp → Bool
 | .runStream k _ _ => decide (k = key)
 | _ => false

lemma step_inserts {r} (h:channelWorld.step s o r u) (hinserts:inserts d id ⟨o,r⟩ = true) :
  s.threads d.store id=none ∧ u.threads d.store id ≠ none := by
 obtain ⟨m,hm,hu⟩:=h
 cases o with
 | createThread store record =>
  cases r with
  | error e => cases hinserts
  | ok _ =>
   obtain ⟨rfl,rfl⟩:=of_decide_eq_true hinserts
   obtain ⟨habsent,rfl⟩:=hu
   refine ⟨?_,?_⟩
   · by_contra hpresent
     exact hm.kept _ _ hpresent habsent
   · rw [ChannelState.insert_self]
     exact Option.some_ne_none record
 | _ => cases hinserts

lemma inserts_none (h:channelWorld.Follows s es u) (hs:s.threads d.store id ≠ none) :
  es.countP (inserts d id)=0 := by
 induction h with
 | nil s => rfl
 | @cons s u v o r es hstep tail ih =>
  have hrest:=ih (step_kept hstep d.store id hs)
  have hnot:inserts d id ⟨o,r⟩ = false:=by
   by_contra hinserts
   exact hs (step_inserts hstep (Bool.eq_true_of_not_eq_false hinserts)).1
  rw [countP_cons,hrest,hnot]
  rfl

lemma inserts_once (h:channelWorld.Follows s es u) : es.countP (inserts d id) ≤ 1 := by
 induction h with
 | nil s => exact Nat.zero_le 1
 | @cons s u v o r es hstep tail ih =>
  rw [countP_cons]
  by_cases hinserts : inserts d id ⟨o,r⟩ = true
  · have hrest:=inserts_none tail (step_inserts hstep hinserts).2
    rw [hrest,if_pos hinserts]
  · rw [if_neg hinserts]
    exact ih

def claims (sha256 : Bytes → Bytes) (d : StoreDeduplicator) (key : MessageKey) :
  Monitor channelSig ℕ :=
 tokens (fun _ _ => True) (inserts d (d.markerID sha256 (keyText key))) (starts key)

def NoRun (o : ChannelOp) : Prop := ∀ key, starts key o = false

lemma wp_noRun {α:Type} {p:ChannelProg α} (hp:Asks NoRun p) {n} :
  wp (claims sha256 d key) p (fun _ m=>n ≤ m) n := by
 refine hp.wp (fun m=>n ≤ m) ?_ (Nat.le_refl n)
 intro m o ho hm
 have hspend:starts key o=false:=ho key
 refine ⟨fun h=>absurd (hspend.symm.trans h) Bool.false_ne_true,?_⟩
 rintro r u ⟨-,rfl⟩
 rw [hspend,Bool.toNat_false]
 omega

def Ensures (id : ThreadID) : ChannelOp → Prop
 | .getThread _ _ | .now => True
 | .createThread _ record => record.id = id
 | _ => False

lemma Ensures.noRun (h:Ensures id o) : NoRun o := by
 cases o with
 | runStream _ _ _ => exact h.elim
 | _ => exact fun _=>rfl

def Delivers : ChannelOp → Prop
 | .send _ _ | .cancel | .wait => True
 | _ => False

lemma Delivers.noRun (h:Delivers o) : NoRun o := by
 cases o with
 | runStream _ _ _ => exact h.elim
 | _ => exact fun _=>rfl

lemma asks_ensureThread {server:Server} {id} {scope ownerID} :
  Asks (Ensures id) (server.ensureThread id scope ownerID) := by
 unfold Server.ensureThread
 cases server.store with
 | none => exact asks_ret
 | some store =>
  refine asks_perform trivial fun r=>?_
  rcases r with (_ | message) | record
  · refine asks_perform trivial fun now=>asks_perform rfl fun r=>?_
    cases r with
    | ok _ => exact asks_ret
    | error e =>
     refine asks_perform trivial fun r=>?_
     cases r with
     | ok _ | error e => exact asks_ret
  · exact asks_ret
  · exact asks_ret

lemma asks_relay {conversation format deltas} :
  Asks Delivers (relay conversation format deltas) := by
 induction deltas with
 | nil => exact asks_ret
 | cons delta deltas ih =>
  unfold relay
  refine asks_ite ih (asks_perform trivial fun r=>?_)
  cases r with
  | ok _ => exact ih
  | error e => exact asks_perform trivial fun _=>asks_ret

lemma asks_stream (server:Server) (message deltas) :
  Asks Delivers (server.stream message deltas) := by
 refine asks_bind asks_relay fun deliverErr=>?_
 refine asks_perform trivial fun result=>?_
 cases deliverErr with
 | some e => exact asks_ret
 | none =>
  cases result with
  | error e => exact asks_ret
  | ok messages =>
   refine asks_perform trivial fun r=>?_
   cases r with
   | ok _ | error e => exact asks_ret

lemma asks_seen {key} : Asks NoRun (d.seen sha256 key) := by
 refine asks_perform (fun _=>rfl) fun r=>?_
 rcases r with (_ | message) | record
 · refine asks_perform (fun _=>rfl) fun now=>asks_perform (fun _=>rfl) fun r=>?_
   cases r with
   | ok _ => exact asks_ret
   | error e =>
    refine asks_perform (fun _=>rfl) fun r=>?_
    cases r with
    | ok _ | error e => exact asks_ret
 · exact asks_ret
 · exact asks_ret

lemma wp_run_claims {server:Server} {route:Binding} {n} (hn:route.key message=key → 0 < n) :
  wp (claims sha256 d key) (server.run route message) (fun _ _=>True) n := by
 refine wp_seq (wp_noRun (asks_ensureThread.mono fun _=>Ensures.noRun)) ?_
 intro r m hm
 cases r with
 | error e => trivial
 | ok _ =>
  refine ⟨?_,?_⟩
  · intro hstarts
    have hkey:route.key message=key:=of_decide_eq_true hstarts
    have hpaid:=hn hkey
    omega
  · intro r l _
    cases r with
    | error e => trivial
    | ok deltas =>
     have hstream:=(asks_stream server message deltas).mono fun _=>Delivers.noRun
     exact wp_mono (wp_noRun hstream) fun _ _ _=>trivial

lemma wp_process_claims {server:Server} {route:Binding} {n}
  (hn:route.key message=key → 0 < n) :
  wp (claims sha256 d key) (server.process route message) (fun _ _=>True) n := by
 apply wp_seq (wp_run_claims hn)
 intro r m _
 cases r with
 | ok _ => trivial
 | error e => trivial

/-- A message that `Seen` has not seen has just had its marker inserted. -/
lemma wp_seen_claims {n} : wp (claims sha256 d key) (d.seen sha256 (keyText key))
   (fun r m=>r = .ok false → 0 < m) n := by
 refine ⟨nofun,?_⟩
 intro r m _
 rcases r with (_ | message) | record
 · refine ⟨nofun,?_⟩
   intro now l _
   refine ⟨nofun,?_⟩
   rintro r k ⟨-,rfl⟩
   cases r with
   | ok _ =>
    intro _
    have hinserts:inserts d (d.markerID sha256 (keyText key))
      ⟨.createThread d.store ⟨d.markerID sha256 (keyText key),d.scope,[],now,now⟩,
       .ok ()⟩ = true := decide_eq_true ⟨rfl,rfl⟩
    rw [hinserts]
    exact Nat.succ_pos _
   | error e =>
    refine ⟨nofun,?_⟩
    intro r _ _
    cases r with
    | ok _ | error e => exact nofun
 · exact nofun
 · exact nofun

lemma wp_deduplicated_claims {server:Server} {route} (hkey:key.providerMessageID ≠ [])
  (hshared:server.deduplicator = .persistent d) {n} :
  wp (claims sha256 d key) (server.deduplicated sha256 route message) (fun _ _=>True) n := by
 unfold Server.deduplicated
 by_cases hempty : message.providerMessageID=[]
 · rw [if_pos hempty]
   apply wp_process_claims
   rintro rfl
   exact absurd hempty hkey
 · rw [if_neg hempty,hshared]
   by_cases hsame : route.key message=key
   · subst hsame
     apply wp_seq wp_seen_claims
     intro r m hm
     rcases r with e | _ | _
     · trivial
     · exact wp_process_claims fun _=>hm rfl
     · trivial
   · apply wp_seq (wp_noRun asks_seen)
     intro r m _
     rcases r with e | _ | _
     · trivial
     · exact wp_process_claims fun h=>absurd h hsame
     · trivial

lemma wp_handOff_claims {route body message n} :
  wp (claims sha256 d key) (handOff route body message) (fun _ _=>True) n := by
 refine ⟨nofun,?_⟩
 intro r m _
 cases r with
 | error e => trivial
 | ok _ =>
  change wp _ (acknowledge route body) _ m
  unfold acknowledge
  cases route.acknowledges with
  | false => trivial
  | true =>
   refine ⟨nofun,?_⟩
   intro r _ _
   cases r with
   | error e => trivial
   | ok response => trivial

section

variable (hkey:key.providerMessageID ≠ [])

include hkey

lemma wp_receive_claims {server:Server} {route body}
  (hshared:server.deduplicator = .persistent d) {n} :
  wp (claims sha256 d key) (server.receive sha256 route body) (fun _ _=>True) n := by
 refine ⟨nofun,?_⟩
 intro r m _
 rcases r with e | ⟨message,_ | _⟩
 · trivial
 · trivial
 · change wp _ (server.validated sha256 route body message) _ m
   unfold Server.validated
   split
   · unfold Server.accept
     split
     · exact wp_handOff_claims
     · exact wp_seq (wp_deduplicated_claims hkey hshared) fun _ _ _=>trivial
   · trivial

lemma wp_webhookHandler_claims {server:Server} {route}
  (hshared:server.deduplicator = .persistent d) {n} :
  wp (claims sha256 d key) (server.webhookHandler sha256 route) (fun _ _=>True) n := by
 refine ⟨nofun,?_⟩
 intro r m _
 cases r with
 | error e => trivial
 | ok body =>
  cases route.responds with
  | false => exact wp_receive_claims hkey hshared
  | true =>
   refine ⟨nofun,?_⟩
   intro r l _
   rcases r with e | ⟨response,_ | _⟩
   · trivial
   · exact wp_receive_claims hkey hshared
   · trivial

lemma wp_program_claims {g:Goroutine} (hshared:g.server.deduplicator = .persistent d) {n} :
  wp (claims sha256 d key) (g.program sha256) (fun _ _=>True) n := by
 cases g with
 | delivery server route =>
  exact wp_seq (wp_webhookHandler_claims hkey hshared) fun _ _ _=>trivial
 | dispatch server job =>
  refine wp_seq (R := fun _ _=>True) ?_ fun _ _ _=>trivial
  unfold Server.runDispatch
  cases server.route job.agentID job.platform with
  | none => trivial
  | some route => exact wp_seq (wp_deduplicated_claims hkey hshared) fun _ _ _=>trivial

lemma starts_once {gs:List Goroutine} (hshared:∀ g ∈ gs,g.server.deduplicator = .persistent d)
  {qs} {es:List (PoolEvent channelSig)}
  (h:PoolRun channelWorld s (gs.map (Goroutine.program sha256)) es u qs) :
  es.countP (fun e=>starts key e.2.1) ≤ 1 := by
 have hpaid:es.countP (fun e=>starts key e.2.1) ≤
   es.countP fun e=>inserts d (d.markerID sha256 (keyText key)) e.2 := by
  apply h.countP_spend_le (fun _ _ _ _ _=>trivial)
  intro p hp
  obtain ⟨g,hg,rfl⟩:=mem_map.mp hp
  exact wp_program_claims hkey (hshared g hg)
 have honce:(es.map Prod.snd).countP (inserts d (d.markerID sha256 (keyText key))) ≤ 1:=
  inserts_once h.follows
 rw [countP_map] at honce
 exact hpaid.trans honce

end

end

structure Findings where
 message : Option InboundMessage
 found : List (StoreRef × ThreadID)

def note (g : Findings) : (o : ChannelOp) → ChannelReply o → Findings
 | .decode _, .ok (message, true) => { g with message := g.message.or (some message) }
 | .getThread store id, .ok _ => { g with found := (store, id) :: g.found }
 | _, _ => g

section

variable (sha256:Bytes → Bytes) (d:StoreDeduplicator) (server:Server) (route:Binding)

/-- The threads that a goroutine creates, or hands to a run, are those of the mapper and the marker
of the message in hand. -/
def Confined (g : Findings) : ChannelOp → Prop
 | .createThread _ record =>
  (∃ message, g.message = some message ∧
   record.id = d.markerID sha256 (keyText (route.key message))) ∨
   ∃ message, record.id = (server.mapper message).1
 | .runStream _ _ input => ∃ message, input.threadID = (server.mapper message).1
 | _ => True

def confined : Monitor channelSig Findings := Monitor.ghost (Confined sha256 d server route) note

variable {sha256 d server route} {message:InboundMessage} {g:Findings}

def MapperThread (server : Server) : ChannelOp → Prop
 | .createThread _ record => ∃ message, record.id = (server.mapper message).1
 | .runStream _ _ input => ∃ message, input.threadID = (server.mapper message).1
 | _ => True

lemma wp_mapperThread {α:Type} {p:ChannelProg α} (hp:Asks (MapperThread server) p) {g} :
  wp (confined sha256 d server route) p (fun _ _=>True) g := by
 refine hp.wp (fun _=>True) ?_ trivial
 intro g o ho _
 refine ⟨?_,fun _ _ _=>trivial⟩
 cases o with
 | createThread store record => exact .inr ho
 | runStream key identity input => exact ho
 | _ => trivial

lemma asks_run_mapperThread {message} : Asks (MapperThread server) (server.run route message) := by
 refine asks_bind (asks_ensureThread.mono ?_) fun r=>?_
 · intro o ho
   cases o with
   | createThread store record => exact ⟨message,ho⟩
   | runStream _ _ _ => exact ho.elim
   | _ => trivial
 · cases r with
   | error e => exact asks_ret
   | ok _ =>
    refine asks_perform ⟨message,rfl⟩ fun r=>?_
    cases r with
    | error e => exact asks_ret
    | ok deltas =>
     refine (asks_stream server message deltas).mono fun o ho=>?_
     cases o with
     | createThread store record | runStream _ _ _ => exact ho.elim
     | _ => trivial

/-- A message that `Seen` has seen has its marker among the threads found. -/
lemma wp_seen_confined (hg:g.message=some message) :
  wp (confined sha256 d server route) (d.seen sha256 (keyText (route.key message)))
   (fun r g=>r = .ok true →
    (d.store,d.markerID sha256 (keyText (route.key message))) ∈ g.found) g := by
 refine ⟨trivial,?_⟩
 rintro r _ rfl
 rcases r with (_ | text) | record
 · refine ⟨trivial,?_⟩
   rintro now _ rfl
   refine ⟨.inl ⟨message,hg,rfl⟩,?_⟩
   rintro r _ rfl
   cases r with
   | ok _ => exact nofun
   | error e =>
    refine ⟨trivial,?_⟩
    rintro r _ rfl
    cases r with
    | ok record => exact fun _=>mem_cons_self
    | error e => exact nofun
 · exact nofun
 · exact fun _=>mem_cons_self

def Found (sha256 : Bytes → Bytes) (d : StoreDeduplicator) (duplicate : Option MessageKey)
  (g : Findings) : Prop :=
 ∀ key, duplicate = some key → (d.store, d.markerID sha256 (keyText key)) ∈ g.found

lemma found_none {g} : Found sha256 d none g := nofun

lemma wp_process_confined {message g} :
  wp (confined sha256 d server route) (server.process route message)
   (fun v _=>v ≠ .duplicate) g := by
 apply wp_seq (wp_mapperThread asks_run_mapperThread)
 intro r _ _
 cases r with
 | ok _ | error e => exact nofun

lemma wp_deduplicated_confined (hshared:server.deduplicator = .persistent d)
  (hg:g.message=some message) :
  wp (confined sha256 d server route) (server.deduplicated sha256 route message)
   (fun v g=>v = .duplicate →
    (d.store,d.markerID sha256 (keyText (route.key message))) ∈ g.found) g := by
 unfold Server.deduplicated
 split
 · exact wp_mono wp_process_confined fun _ _ hv h=>absurd h hv
 rw [hshared]
 apply wp_seq (wp_seen_confined hg)
 intro r g hfound
 rcases r with e | _ | _
 · exact nofun
 · exact wp_mono wp_process_confined fun _ _ hv h=>absurd h hv
 · exact fun _=>hfound rfl

lemma wp_handOff_confined {body message g} :
  wp (confined sha256 d server route) (handOff route body message)
   (fun a g=>Found sha256 d (Outcome.answered a).duplicateOf g) g := by
 refine ⟨trivial,?_⟩
 intro r g _
 cases r with
 | error e => exact found_none
 | ok _ =>
  change wp _ (acknowledge route body) _ g
  unfold acknowledge
  cases route.acknowledges with
  | false => exact found_none
  | true =>
   refine ⟨trivial,?_⟩
   intro r _ _
   cases r with
   | error e | ok response => exact found_none

lemma found_processed {v message g}
  (h:v = .duplicate → (d.store,d.markerID sha256 (keyText (route.key message))) ∈ g.found) :
  Found sha256 d (droppedAs (route.key message) v) g := by
 intro key hkey
 cases v with
 | duplicate =>
  cases hkey
  exact h rfl
 | _ => cases hkey

lemma wp_receive_confined (hshared:server.deduplicator = .persistent d) {body}
  (hg:g.message=none) :
  wp (confined sha256 d server route) (server.receive sha256 route body)
   (fun a g=>Found sha256 d (Outcome.answered a).duplicateOf g) g := by
 refine ⟨trivial,?_⟩
 rintro r _ rfl
 rcases r with e | ⟨message,_ | _⟩
 · exact found_none
 · exact found_none
 · have hmessage:(note g (.decode body) (.ok (message,true))).message=some message:=by
    simp [note,hg]
   change wp _ (server.validated sha256 route body message) _ (note g (.decode body) _)
   unfold Server.validated
   split
   · unfold Server.accept
     split
     · exact wp_handOff_confined
     · exact wp_seq (wp_deduplicated_confined hshared hmessage) fun _ _ hv=>found_processed hv
   · exact found_none

lemma wp_webhookHandler_confined (hshared:server.deduplicator = .persistent d)
  (hg:g.message=none) :
  wp (confined sha256 d server route) (server.webhookHandler sha256 route)
   (fun a g=>Found sha256 d (Outcome.answered a).duplicateOf g) g := by
 refine ⟨trivial,?_⟩
 rintro r _ rfl
 cases r with
 | error e => exact found_none
 | ok body =>
  cases route.responds with
  | false => exact wp_receive_confined hshared hg
  | true =>
   refine ⟨trivial,?_⟩
   rintro r _ rfl
   rcases r with e | ⟨response,_ | _⟩
   · exact found_none
   · exact wp_receive_confined hshared hg
   · exact found_none

end

def Touches (store : StoreRef) (id : ThreadID) : ChannelOp → Prop
 | .createThread other record => other = store ∧ record.id = id
 | .runStream _ _ input => input.threadID = id
 | _ => False

def Present (store : StoreRef) (id : ThreadID) (s : ChannelState) : Prop :=
 s.threads store id ≠ none ∨ id ∈ s.running

lemma present_of_writes (h:AgentWrites s u) (hu:Present store id u) : Present store id s := by
 rcases hu with hu | hu
 · exact h.own store id hu
 · exact .inr (h.running ▸ hu)

lemma present_of_insert {other record} (hu:Present store id (s.insert other record)) :
  Present store id s ∨ Touches store id (.createThread other record) := by
 by_cases hsame : store=other ∧ id=record.id
 · exact .inr ⟨hsame.1.symm,hsame.2.symm⟩
 · rcases hu with hu | hu
   · rw [ChannelState.insert_of_ne hsame] at hu
     exact .inl (.inl hu)
   · exact .inl (.inr hu)

lemma present_of_answers {r} (h:Answers s u o r) (hu:Present store id u) :
  Present store id s ∨ Touches store id o := by
 cases o with
 | getThread other key =>
  left
  rcases r with (_ | message) | record
  · exact h.2 ▸ hu
  · exact (show u=s from h) ▸ hu
  · exact h.2 ▸ hu
 | createThread other record =>
  cases r with
  | ok _ =>
   obtain ⟨-,rfl⟩:=h
   exact present_of_insert hu
  | error e =>
   rcases h with rfl | ⟨-,rfl⟩
   · exact .inl hu
   · exact present_of_insert hu
 | memorySeen capacity key =>
  left
  rw [Present,h.2.1,h.2.2] at hu
  exact hu
 | runStream key identity input =>
  obtain rfl : u = { s with running := input.threadID :: s.running } := h
  rcases hu with hu | hu
  · exact .inl (.inl hu)
  · rcases mem_cons.mp hu with rfl | hu
    · exact .inr rfl
    · exact .inl (.inr hu)
 | _ => exact .inl ((show u=s from h) ▸ hu)

lemma present_of_follows (h:channelWorld.Follows s es u) (hu:Present store id u) :
  Present store id s ∨ ∃ e ∈ es,Touches store id e.1 := by
 revert hu
 refine h.invariant
  (fun tr v=>Present store id v → Present store id s ∨ ∃ e ∈ tr,Touches store id e.1)
  (fun hs=>.inl hs) ?_
 intro tr v o r w hv hstep hw
 obtain ⟨m,hm,hw'⟩:=hstep
 rcases present_of_answers hw' hw with hpresent | htouches
 · rcases hv (present_of_writes hm hpresent) with hs | ⟨e,he,htouches⟩
   · exact .inl hs
   · exact .inr ⟨e,mem_append_left _ he,htouches⟩
 · exact .inr ⟨⟨o,r⟩,mem_append_right _ (mem_singleton_self _),htouches⟩

def Goroutine.route : Goroutine → Option Binding
 | .delivery _ route => some route
 | .dispatch server job => server.route job.agentID job.platform

def Goroutine.findings : Goroutine → Findings
 | .delivery _ _ => ⟨none, []⟩
 | .dispatch _ job => ⟨some job.message, []⟩

section

variable {sha256:Bytes → Bytes} {d:StoreDeduplicator} {g:Goroutine}

lemma wp_program_confined {route} (hroute:g.route=some route)
  (hshared:g.server.deduplicator = .persistent d) :
  wp (confined sha256 d g.server route) (g.program sha256)
   (fun o f=>Found sha256 d o.duplicateOf f) g.findings := by
 cases g with
 | delivery server route =>
  cases hroute
  exact wp_seq (wp_webhookHandler_confined hshared rfl) fun _ _ h=>h
 | dispatch server job =>
  have hfound:server.route job.agentID job.platform=some route:=hroute
  simp only [Goroutine.program,Server.runDispatch,hfound,LawfulMonad.bind_assoc]
  exact wp_seq (wp_deduplicated_confined hshared rfl) fun v f hv=>found_processed hv

lemma program_of_route_none {sha256:Bytes → Bytes} (hroute:g.route=none) :
  ∃ e,g.program sha256 = .ret (.dispatched (.noRoute e)) := by
 cases g with
 | delivery server route => cases hroute
 | dispatch server job =>
  have hnone:server.route job.agentID job.platform=none:=hroute
  refine ⟨.noRoute job.agentID job.platform,?_⟩
  simp only [Goroutine.program,Server.runDispatch,hnone]
  rfl

lemma note_cases (f:Findings) (e:Event channelSig) : note f e.1 e.2=f ∨
   (∃ body message,e = ⟨.decode body,.ok (message,true)⟩ ∧
    note f e.1 e.2 = { f with message := f.message.or (some message) }) ∨
   ∃ store id record,e = ⟨.getThread store id,.ok record⟩ ∧
    note f e.1 e.2 = { f with found := (store,id) :: f.found } := by
 obtain ⟨o,r⟩:=e
 cases o with
 | decode body =>
  rcases r with e | ⟨message,_ | _⟩
  · exact .inl rfl
  · exact .inl rfl
  · exact .inr (.inl ⟨body,message,rfl,rfl⟩)
 | getThread store id =>
  cases r with
  | error e => exact .inl rfl
  | ok record => exact .inr (.inr ⟨store,id,record,rfl,rfl⟩)
 | _ => exact .inl rfl

lemma message_of_fold {f}
  (h:(events.foldl (fun f e=>note f e.1 e.2) f).message=some message) :
  f.message=some message ∨ f.message=none ∧ ∃ body,
   (⟨.decode body,.ok (message,true)⟩ : Event channelSig) ∈ events := by
 induction events generalizing f with
 | nil => exact .inl h
 | cons e events ih =>
  have hrest:(note f e.1 e.2).message=some message ∨
    (note f e.1 e.2).message=none ∧ ∃ body,
     (⟨.decode body,.ok (message,true)⟩ : Event channelSig) ∈ events := ih h
  rcases note_cases f e with hnote | ⟨body,decoded,rfl,hnote⟩ | ⟨_,_,_,-,hnote⟩
  · rw [hnote] at hrest
    rcases hrest with hmessage | ⟨hnone,body,hmem⟩
    · exact .inl hmessage
    · exact .inr ⟨hnone,body,mem_cons_of_mem _ hmem⟩
  · rw [hnote] at hrest
    cases hmessage : f.message with
    | some held =>
     simp only [hmessage,Option.some_or] at hrest
     rcases hrest with hheld | ⟨hnone,-⟩
     · exact .inl hheld
     · cases hnone
    | none =>
     simp only [hmessage,Option.none_or] at hrest
     rcases hrest with hdecoded | ⟨hnone,-⟩
     · obtain rfl := Option.some.inj hdecoded
       exact .inr ⟨rfl,body,mem_cons_self⟩
     · cases hnone
  · rw [hnote] at hrest
    rcases hrest with hmessage | ⟨hnone,body,hmem⟩
    · exact .inl hmessage
    · exact .inr ⟨hnone,body,mem_cons_of_mem _ hmem⟩

lemma found_of_fold {f} (h:(store,id) ∈ (events.foldl (fun f e=>note f e.1 e.2) f).found) :
  (store,id) ∈ f.found ∨ ∃ record,
   (⟨.getThread store id,.ok record⟩ : Event channelSig) ∈ events := by
 induction events generalizing f with
 | nil => exact .inl h
 | cons e events ih =>
  have hrest:(store,id) ∈ (note f e.1 e.2).found ∨ ∃ record,
    (⟨.getThread store id,.ok record⟩ : Event channelSig) ∈ events := ih h
  rcases hrest with hfound | ⟨record,hmem⟩
  · rcases note_cases f e with hnote | ⟨_,_,-,hnote⟩ | ⟨other,key,record,rfl,hnote⟩
    · rw [hnote] at hfound
      exact .inl hfound
    · rw [hnote] at hfound
      exact .inl hfound
    · rw [hnote] at hfound
      rcases mem_cons.mp hfound with hsame | hfound
      · obtain ⟨rfl,rfl⟩:=Prod.mk.inj hsame
        exact .inr ⟨record,mem_cons_self⟩
      · exact .inl hfound
  · exact .inr ⟨record,mem_cons_of_mem _ hmem⟩

lemma handles_of_message {route} (hroute:g.route=some route)
  (h:(events.foldl (fun f e=>note f e.1 e.2) g.findings).message=some message) :
  g.Handles (route.key message) events := by
 cases g with
 | delivery server route =>
  cases hroute
  rcases message_of_fold h with hnone | ⟨-,body,hmem⟩
  · cases hnone
  · exact ⟨body,message,hmem,rfl⟩
 | dispatch server job =>
  rcases message_of_fold h with hmessage | ⟨hnone,-⟩
  · obtain rfl := Option.some.inj hmessage
    exact ⟨route,hroute,rfl⟩
  · cases hnone

lemma Goroutine.Handles.mono {more} (h:g.Handles key events) (hsub:∀ e ∈ events,e ∈ more) :
  g.Handles key more := by
 cases g with
 | delivery server route =>
  obtain ⟨body,message,hmem,hkey⟩:=h
  exact ⟨body,message,hsub _ hmem,hkey⟩
 | dispatch server job => exact h

variable {gs:List Goroutine} {s u:ChannelState} {qs:List (ChannelProg Outcome)}
 {es:List (PoolEvent channelSig)}

lemma goroutine_of_program {i:ℕ} {p} (h:(gs.map (Goroutine.program sha256))[i]? = some p) :
  ∃ g,gs[i]? = some g ∧ g ∈ gs ∧ p=g.program sha256 := by
 rw [List.getElem?_map] at h
 obtain ⟨g,hg,rfl⟩:=Option.map_eq_some_iff.mp h
 exact ⟨g,hg,mem_of_getElem? hg,rfl⟩

lemma found_of_duplicate (hshared:∀ g ∈ gs,g.server.deduplicator = .persistent d)
  (h:PoolRun channelWorld s (gs.map (Goroutine.program sha256)) es u qs) {i outcome}
  (hi:qs[i]? = some (.ret outcome)) (hkey:outcome.duplicateOf=some key) :
  ∃ record,(i,(⟨.getThread d.store (d.markerID sha256 (keyText key)),.ok record⟩ :
   Event channelSig)) ∈ es := by
 have hlt:i < (gs.map (Goroutine.program sha256)).length:=by
  rw [← h.length_eq]
  exact (List.getElem?_eq_some_iff.mp hi).1
 have hp:=List.getElem?_eq_getElem hlt
 obtain ⟨g,-,hg,hprogram⟩:=goroutine_of_program hp
 obtain ⟨q,hq,htrace⟩:=h.trace hp
 obtain rfl : q = .ret outcome := Option.some.inj (hq.symm.trans hi)
 rw [hprogram] at htrace
 cases hroute : g.route with
 | none =>
  obtain ⟨e,hret⟩:=program_of_route_none hroute
  rw [hret] at htrace
  generalize threadEvents i es=events at htrace
  cases htrace
  cases hkey
 | some route =>
  have hfollows:(confined sha256 d g.server route).Follows g.findings (threadEvents i es)
    ((threadEvents i es).foldl (fun f e=>note f e.1 e.2) g.findings) :=
   Monitor.ghost_follows _ _ _ _
  have hfound:=htrace.wp hfollows (wp_program_confined hroute (hshared g hg)) key hkey
  rcases found_of_fold hfound with hnone | ⟨record,hmem⟩
  · cases g <;> cases hnone
  · exact ⟨record,mem_threadEvents.mp hmem⟩

def Marks (sha256 : Bytes → Bytes) (d : StoreDeduplicator) (key : MessageKey)
  (e : Event channelSig) : Prop :=
 ∃ record, e.1 = .createThread d.store record ∧ record.id = d.markerID sha256 (keyText key)

lemma handles_of_touches (hsha:Function.Injective sha256)
  (hshared:∀ g ∈ gs,g.server.deduplicator = .persistent d)
  (hmapper:∀ g ∈ gs,∀ message key,(g.server.mapper message).1 ≠ d.markerID sha256 key)
  (h:PoolRun channelWorld s (gs.map (Goroutine.program sha256)) es u qs) {j e} (he:(j,e) ∈ es)
  (htouches:Touches d.store (d.markerID sha256 (keyText key)) e.1) :
  ∃ g,gs[j]? = some g ∧ g.Handles key (threadEvents j es) ∧ Marks sha256 d key e := by
 obtain ⟨before,after,rfl⟩:=append_of_mem he
 have hp:=List.getElem?_eq_getElem (h.thread_lt he)
 obtain ⟨g,hj,hg,hprogram⟩:=goroutine_of_program hp
 rw [hprogram] at hp
 cases hroute : g.route with
 | none =>
  obtain ⟨e',hret⟩:=program_of_route_none hroute
  obtain ⟨q,-,htrace⟩:=h.trace hp
  have hmem:e ∈ threadEvents j (before++(j,e) :: after):=mem_threadEvents.mpr he
  rw [hret] at htrace
  generalize threadEvents j (before++(j,e) :: after)=events at htrace hmem
  cases htrace
  cases hmem
 | some route =>
  have hconfined:=h.demand_at hp (wp_program_confined hroute (hshared g hg))
  obtain ⟨o,r⟩:=e
  cases o with
  | createThread store record =>
   obtain ⟨rfl,hid⟩:=htouches
   rcases hconfined with ⟨message,hmessage,hmarker⟩ | ⟨message,hthread⟩
   · have hkey:=keyText_injective (markerID_injective hsha (hmarker.symm.trans hid))
     have hhandles:=handles_of_message hroute hmessage
     rw [hkey] at hhandles
     refine ⟨g,hj,hhandles.mono ?_,record,rfl,hid⟩
     intro f hf
     rw [threadEvents_append]
     exact mem_append_left _ hf
   · exact absurd (hthread.symm.trans hid) (hmapper g hg message _)
  | runStream key' identity input =>
   obtain ⟨message,hthread⟩:=hconfined
   exact absurd (hthread.symm.trans htouches) (hmapper g hg message _)
  | _ => exact htouches.elim

/-- A goroutine drops a message only if its marker was stored before, or by a goroutine that had
the same message in hand. -/
def DroppedForOwn (sha256 : Bytes → Bytes) (d : StoreDeduplicator) (gs : List Goroutine)
  (s : ChannelState) (es : List (PoolEvent channelSig)) (qs : List (ChannelProg Outcome)) :
  Prop :=
 ∀ (i : ℕ) (outcome : Outcome) (key : MessageKey), qs[i]? = some (.ret outcome) →
  outcome.duplicateOf = some key →
  s.threads d.store (d.markerID sha256 (keyText key)) ≠ none ∨
   ∃ j g e, gs[j]? = some g ∧ g.Handles key (threadEvents j es) ∧ (j, e) ∈ es ∧ Marks sha256 d key e

lemma droppedForOwn (hsha:Function.Injective sha256)
  (hshared:∀ g ∈ gs,g.server.deduplicator = .persistent d)
  (hmapper:∀ g ∈ gs,∀ message key,(g.server.mapper message).1 ≠ d.markerID sha256 key)
  (hs:s.running=[]) (h:PoolRun channelWorld s (gs.map (Goroutine.program sha256)) es u qs) :
  DroppedForOwn sha256 d gs s es qs := by
 intro i outcome key hi hkey
 obtain ⟨record,hfound⟩:=found_of_duplicate hshared h hi hkey
 obtain ⟨before,after,rfl⟩:=append_of_mem hfound
 obtain ⟨v,rs,hbefore,hafter⟩:=h.split
 have hpresent:Present d.store (d.markerID sha256 (keyText key)) v:=by
  cases hafter with
  | next _ hstep _ =>
   obtain ⟨m,hm,hget,-⟩:=hstep
   exact present_of_writes hm (.inl (hget ▸ Option.some_ne_none record))
 rcases present_of_follows hbefore.follows hpresent with (hstored | hrunning) | ⟨e,he,htouches⟩
 · exact .inl hstored
 · rw [hs] at hrunning
   cases hrunning
 · obtain ⟨⟨j,e⟩,hbefore,rfl⟩:=mem_map.mp he
   have hmem:(j,e) ∈ before++(i,(⟨.getThread d.store (d.markerID sha256 (keyText key)),
     .ok record⟩ : Event channelSig)) :: after := mem_append_left _ hbefore
   obtain ⟨g,hj,hhandles,hmarks⟩:=handles_of_touches hsha hshared hmapper h hmem htouches
   exact .inr ⟨j,g,e,hj,hhandles,hmem,hmarks⟩

end

def twoQuestions : List Goroutine :=
 [.delivery storeServer chatRoute, .delivery storeServer chatRoute]

def markerServer : Server where
 store := some 0
 mapper _ := ((⟨0, []⟩ : StoreDeduplicator).markerID plainHash (keyText (chatRoute.key question)),
  [], [])
 deduplicator := .persistent ⟨0, []⟩
 textFormat := .plain
 hasDispatch := true
 routes := [chatRoute]

def jobAndQuestion : List Goroutine :=
 [.dispatch markerServer ⟨ascii "helper", ascii "chat",
  { question with providerMessageID := ascii "m0" }⟩, .delivery storeServer chatRoute]

def creates : ChannelOp → Bool
 | .createThread _ _ => true
 | _ => false

def inTurn (gs : List Goroutine) :
  List (PoolEvent channelSig) × ChannelState × List (ChannelProg Outcome) :=
 schedule (fun _ => answerQuestion false)
  [0, 0, 0, 0, 0, 0, 0, 0, 0, 0, 0, 0, 1, 1, 1] quietState (gs.map (Goroutine.program plainHash))

lemma inTurn_run {gs} :
  PoolRun channelWorld quietState (gs.map (Goroutine.program plainHash)) (inTurn gs).1
   (inTurn gs).2.1 (inTurn gs).2.2 :=
 schedule_run (fun _ _ _ _ _ h=>answerQuestion_step h) _ _ _

/-- Whatever the mappers, a message starts at most one run. When no mapper gives out markers as
threads, no message is dropped because of another. -/
theorem messages_run_at_most_once (sha256 : Bytes → Bytes) (hsha : Function.Injective sha256)
  (d : StoreDeduplicator) (gs : List Goroutine)
  (hshared : ∀ g ∈ gs, g.server.deduplicator = .persistent d) (s u : ChannelState)
  (hs : s.running = []) (es : List (PoolEvent channelSig)) (qs : List (ChannelProg Outcome))
  (h : PoolRun channelWorld s (gs.map (Goroutine.program sha256)) es u qs) :
  (∀ key : MessageKey, key.providerMessageID ≠ [] →
   es.countP (fun e => starts key e.2.1) ≤ 1) ∧
   ((∀ g ∈ gs, ∀ message key, (g.server.mapper message).1 ≠ d.markerID sha256 key) →
     DroppedForOwn sha256 d gs s es qs) :=
 ⟨fun _ hkey=>starts_once hkey hshared h,fun hmapper=>droppedForOwn hsha hshared hmapper hs h⟩

/-- The second delivery of a question is dropped, for the marker of the first. -/
theorem second_question_dropped :
  PoolRun channelWorld quietState (twoQuestions.map (Goroutine.program plainHash))
    (inTurn twoQuestions).1 (inTurn twoQuestions).2.1 (inTurn twoQuestions).2.2 ∧
   (inTurn twoQuestions).1.countP (fun e => starts (chatRoute.key question) e.2.1) = 1 ∧
   (∃ outcome, (inTurn twoQuestions).2.2[1]? = some (.ret outcome) ∧
    outcome.duplicateOf = some (chatRoute.key question)) ∧
   DroppedForOwn plainHash ⟨0, []⟩ twoQuestions quietState (inTurn twoQuestions).1
    (inTurn twoQuestions).2.2 := by
 have hshared:∀ g ∈ twoQuestions, g.server.deduplicator = .persistent ⟨0,[]⟩ := by
  intro g hg
  rcases mem_pair.mp hg with rfl | rfl <;> rfl
 have hall:=messages_run_at_most_once plainHash (fun _ _ h=>h) ⟨0,[]⟩ twoQuestions hshared
  quietState _ rfl _ _ (inTurn_run)
 refine ⟨inTurn_run,?_,⟨_,rfl,rfl⟩,hall.2 ?_⟩
 · exact Nat.le_antisymm (hall.1 (chatRoute.key question) (by decide)) (by decide)
 · intro g hg message key
   rcases mem_pair.mp hg with rfl | rfl
   · exact namespaceThreadMapper_ne_markerID
   · exact namespaceThreadMapper_ne_markerID

/-- The thread of another conversation makes the first delivery of the question a duplicate. -/
theorem question_dropped_for_thread :
  PoolRun channelWorld quietState (jobAndQuestion.map (Goroutine.program plainHash))
    (inTurn jobAndQuestion).1 (inTurn jobAndQuestion).2.1 (inTurn jobAndQuestion).2.2 ∧
   (∀ g ∈ jobAndQuestion, g.server.deduplicator = .persistent ⟨0, []⟩) ∧
   ¬ DroppedForOwn plainHash ⟨0, []⟩ jobAndQuestion quietState (inTurn jobAndQuestion).1
    (inTurn jobAndQuestion).2.2 := by
 refine ⟨inTurn_run,?_,?_⟩
 · intro g hg
   rcases mem_pair.mp hg with rfl | rfl <;> rfl
 · intro h
   have hcreates:∀ e ∈ (inTurn jobAndQuestion).1, (!creates e.2.1 || e.1 == 0) = true :=
    all_eq_true.mp rfl
   rcases h 1 _ (chatRoute.key question) rfl rfl with hstored | ⟨j,g,e,hj,hhandles,he,hmarks⟩
   · exact hstored rfl
   · obtain ⟨record,hop,-⟩:=hmarks
     have hfirst:=hcreates (j,e) he
     rw [hop] at hfirst
     obtain rfl : j = 0 := by simpa [creates] using hfirst
     cases hj
     obtain ⟨route,-,hkey⟩:=hhandles
     have hid:ascii "m0" = ascii "m1" := congrArg MessageKey.providerMessageID hkey
     exact absurd hid (by decide)

end Lebro.ChannelDuplicates
