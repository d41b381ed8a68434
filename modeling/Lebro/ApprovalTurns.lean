import Lebro.ApprovalOperations
import Lebro.ApprovalStore
import Lebro.CanonicalJson
import Lebro.EffectTurns

set_option autoImplicit false

namespace Lebro.ApprovalTurns

open EffectProgram EffectRuns EffectPool EffectTurns RuntimeTypes RuntimeRecords RuntimeEffects
open MemoryStore LatestEntry AgentEffects AgentTools AgentLoop AgentApprovals AgentOperations
open ApprovalStore List

variable {s u v:RuntimeState} {st state:ToolApprovalSnapshot} {o:AgentOp} {rid:RunID}
 {start:List WorkflowSnapshotRecord} {calls:List ModelToolCall} {input:RunInput}
 {id:AgentID}

def Holds (id : AgentID) (v : WorkflowSnapshotRecord) (st : ToolApprovalSnapshot) : Prop :=
 v.state = .toolApproval st ∧ st.agentID = id ∧ st.request.id ≠ "" ∧ unmarshals st = true

def Found (id : AgentID) (vs : List WorkflowSnapshotRecord) (st : ToolApprovalSnapshot) : Prop :=
 ∃ v ∈ vs, Holds id v st ∧ ∀ w ∈ vs, ∀ st', Holds id w st' → w.sequence ≤ v.sequence

lemma pickApproval_eq_some {a v} : pickApproval a v=some st ↔ Holds a.id v st := by
 unfold pickApproval Holds
 cases v.state with
 | workflow env => simp
 | other state => simp
 | toolApproval state =>
  by_cases h : unmarshals state=false ∨ state.agentID ≠ a.id ∨ state.request.id = ""
  · dsimp only
    rw [if_pos h]
    constructor
    · intro hnone
      cases hnone
    · rintro ⟨⟨⟩,hid,hrequest,hdecodes⟩
      rw [hdecodes] at h
      simp [hid,hrequest] at h
  · dsimp only
    rw [if_neg h]
    simp only [not_or,not_not,Bool.not_eq_false] at h
    constructor
    · rintro ⟨⟩
      exact ⟨rfl,h.2.1,h.2.2,h.1⟩
    · rintro ⟨⟨⟩,-⟩
      rfl

lemma found_of_scan {a vs n} (h:vs.foldl (laterApproval a) none=some (n,st)) :
  Found a.id vs st := by
 rw [laterApproval_eq] at h
 obtain ⟨hnone | ⟨v,hv,hpick,rfl⟩,-,hall⟩:=foldl_later_eq_some h
 · cases hnone
 · refine ⟨v,hv,pickApproval_eq_some.mp hpick,?_⟩
   intro w hw st' hst'
   exact hall w hw (by rw [pickApproval_eq_some.mpr hst']; rfl)

def callIDs (st : ToolApprovalSnapshot) : List String := st.calls.map ModelToolCall.id

structure SameBatch (b st : ToolApprovalSnapshot) : Prop where
 step : st.request.step = b.request.step
 stepID : st.request.stepID = b.request.stepID
 calls : callIDs st = callIDs b
 later : b.callIndex < st.callIndex

/-- The calls are those of a message of the transcript. -/
def Answers (transcript : List Message) (ids : List String) : Prop :=
 ∃ m ∈ transcript, m.toolCalls.map ModelToolCall.id = ids

lemma Answers.distinct {ids} (h:Answers st.transcript ids) (hst:unmarshals st=true) :
  ids.Nodup := by
 obtain ⟨m,hm,rfl⟩:=h
 have hall:=all_eq_true.mp hst m hm
 exact of_decide_eq_true (Bool.and_eq_true_iff.mp hall).2

/-- A request that a call makes after the one it has resumed. -/
structure Next (rid : RunID) (base : Option ToolApprovalSnapshot) (st : ToolApprovalSnapshot) :
  Prop where
 runID : st.request.runID = rid
 requestID : st.request.id =
  toolApprovalRequestID rid st.request.step st.request.stepID st.request.toolCallID
 call : (callIDs st)[st.callIndex]? = some st.request.toolCallID
 after : ∀ b, base = some b → b.request.step < st.request.step ∨ SameBatch b st
 fresh : Answers st.transcript (callIDs st) ∨ ∃ b, base = some b ∧ SameBatch b st

def snapshotsOf (rid : RunID) (s : RuntimeState) : List WorkflowSnapshotRecord :=
 s.store.snapshots rid

def Suspended (rid : RunID) (s : RuntimeState) : Prop :=
 ∃ run, s.store.runs rid = some run ∧ run.status = .suspended

def Same (rid : RunID) (s u : RuntimeState) : Prop :=
 u.store.runs rid = s.store.runs rid ∧ snapshotsOf rid u = snapshotsOf rid s

def decidedID (st : ToolApprovalSnapshot) : String :=
 toolApprovalSnapshotID st.request.runID st.request.step st.callIndex (st.revision + 1)

structure Claims (rid : RunID) (s u : RuntimeState) (st : ToolApprovalSnapshot)
  (next : ToolApprovalState) : Prop where
 decides : next ≠ .pending
 suspended : Suspended rid s
 released : ¬ Suspended rid u
 keyed : ∀ run, u.store.runs rid = some run → run.id = rid
 snapshot : ∃ v st', Appends s.store u.store v ∧ v.runID = rid ∧ v.id = decidedID st ∧
  v.state = .toolApproval st' ∧ st'.agentID = st.agentID ∧ st'.request.id = st.request.id ∧
  st'.transcript = st.transcript ∧ st'.request.runID = rid ∧ st'.state = next

structure Suspends (rid : RunID) (base : Option ToolApprovalSnapshot) (s u : RuntimeState)
  (st : ToolApprovalSnapshot) : Prop where
 unsuspended : ¬ Suspended rid s
 suspended : Suspended rid u
 keyed : ∀ run, u.store.runs rid = some run → run.id = rid
 snapshot : ∃ v, Appends s.store u.store v ∧ v.runID = rid ∧ v.state = .toolApproval st
 pending : st.state = .pending
 next : Next rid base st

/-- A call waits to decide, has committed a decision, owns the run, has read its emitter for the
next request, reports a rejection, or has suspended the run and is still to report it. -/
inductive Phase where
 | idle (requestID : String)
 | claimed (st : ToolApprovalSnapshot) (next : ToolApprovalState)
 | owned (base : Option ToolApprovalSnapshot) (armed : Bool)
 | pinned (base : Option ToolApprovalSnapshot) (sequence : Nat)
 | rejected
 | suspending (st : ToolApprovalSnapshot)
 | finished

variable {t:Phase}

def resumed (st : ToolApprovalSnapshot) (next : ToolApprovalState) : Phase :=
 if next = .executing then .owned (some st) true else .rejected

def Emits : AgentOp → Prop
 | .runtime (.step (.emit _)) => True
 | .generate _ _ | .stream _ _ | .compact _ _ _ _ => True
 | _ => False

def Silent : AgentOp → Prop
 | .runtime (.step (.emit _)) => False
 | .generate _ _ | .stream _ _ | .compact _ _ _ _ => False
 | .tool _ | .emitterSequence | .resumeEmitter _ => False
 | _ => True

def commits : (o : AgentOp) → o.Reply → Bool
 | .runtime (.transaction _), .ok _ => true
 | _, _ => false

def Gated (st : ToolApprovalSnapshot) (invocation : ToolInvocation) : Prop :=
 invocation.runID = st.request.runID ∧ invocation.step = st.request.step ∧
  invocation.callID = st.request.toolCallID

def Unrepeated (st : ToolApprovalSnapshot) : Prop :=
 ∀ i, st.callIndex < i → (callIDs st)[i]? ≠ some st.request.toolCallID

def Loaded (id : AgentID) (rid : RunID) (start : List WorkflowSnapshotRecord) (s : RuntimeState)
  (st : ToolApprovalSnapshot) : Prop :=
 ∃ vs, start <+: vs ∧ vs <+: snapshotsOf rid s ∧ Found id vs st ∧ st.state = .pending

inductive Moves (id : AgentID) (rid : RunID) (start : List WorkflowSnapshotRecord) :
  Phase → RuntimeState → (o : AgentOp) → o.Reply → RuntimeState → Phase → Prop where
 | silent {t : Phase} {s u : RuntimeState} {o : AgentOp} {r : o.Reply} (ho : Silent o)
   (hopen : commits o r = false) (hsame : Same rid s u) : Moves id rid start t s o r u t
 | claim {requestID : String} {s u : RuntimeState} {body : RepoProg (Except Err Unit)}
   {st used : ToolApprovalSnapshot} {next : ToolApprovalState} (hst : Loaded id rid start s st)
   (hrequest : st.request.id = requestID) (hloaded : Loaded id rid start s used)
   (hused : used.request.id = requestID) (hclaims : Claims rid s u used next) :
   Moves id rid start (.idle requestID) s (.runtime (.transaction body)) (.ok ()) u
    (.claimed st next)
 | resume {s u : RuntimeState} {st : ToolApprovalSnapshot} {next : ToolApprovalState}
   (hsame : Same rid s u) :
   Moves id rid start (.claimed st next) s (.resumeEmitter st.eventSequence) () u
    (resumed st next)
 | emit {base : Option ToolApprovalSnapshot} {armed : Bool} {s u : RuntimeState} {o : AgentOp}
   {r : o.Reply} (ho : Emits o) (hsame : Same rid s u) :
   Moves id rid start (.owned base armed) s o r u (.owned base armed)
 | approved {st : ToolApprovalSnapshot} {s u : RuntimeState} {invocation : ToolInvocation}
   {r : HandlerReply} (hsame : Same rid s u) :
   Moves id rid start (.owned (some st) true) s (.tool invocation) r u
    (.owned (some st) false)
 | tool {base : Option ToolApprovalSnapshot} {s u : RuntimeState} {invocation : ToolInvocation}
   {r : HandlerReply} (hsame : Same rid s u)
   (hother : ∀ b, base = some b → Unrepeated b → ¬ Gated b invocation) :
   Moves id rid start (.owned base false) s (.tool invocation) r u (.owned base false)
 | record {base : Option ToolApprovalSnapshot} {armed : Bool} {s u : RuntimeState}
   {v : WorkflowRunRecord} {r : Except Err Unit} (hstatus : v.status ≠ .suspended)
   (hid : v.id = rid) (hstore : u.store.snapshots = s.store.snapshots)
   (hrun : u.store.runs rid = some v ∨ u.store.runs rid = s.store.runs rid) :
   Moves id rid start (.owned base armed) s (.runtime (.repo (.saveWorkflowRun v))) r u
    (.owned base armed)
 | read {base : Option ToolApprovalSnapshot} {s u : RuntimeState} {sequence : Nat}
   (hsame : Same rid s u) :
   Moves id rid start (.owned base false) s .emitterSequence sequence u
    (.pinned base sequence)
 | goOn {base : Option ToolApprovalSnapshot} {s u : RuntimeState} {sequence : Nat}
   (hsame : Same rid s u) :
   Moves id rid start (.pinned base sequence) s (.resumeEmitter sequence) () u
    (.owned base false)
 | unpin {base : Option ToolApprovalSnapshot} {s u : RuntimeState} {sequence : Nat} {o : AgentOp}
   {r : o.Reply} (ho : Emits o) (hsame : Same rid s u) :
   Moves id rid start (.pinned base sequence) s o r u (.owned base false)
 | suspend {base : Option ToolApprovalSnapshot} {s u : RuntimeState} {sequence : Nat}
   {body : RepoProg (Except Err Unit)} {st : ToolApprovalSnapshot}
   (hsuspends : Suspends rid base s u st)
   (hsequence : st.eventSequence = sequence + 1) :
   Moves id rid start (.pinned base sequence) s (.runtime (.transaction body)) (.ok ())
    u (.suspending st)
 | report {st : ToolApprovalSnapshot} {s u : RuntimeState} {event : RunEvent}
   (htype : event.type = .suspended) (hsame : Same rid s u) :
   Moves id rid start (.suspending st) s (.runtime (.step (.emit event))) () u .finished
 | reject {s u : RuntimeState} {o : AgentOp} {r : o.Reply} (ho : Emits o) (hsame : Same rid s u) :
   Moves id rid start .rejected s o r u .rejected

/-- What is known of every state: runs are stored under their IDs, and a request that is found
names the run. -/
structure Sound (id : AgentID) (rid : RunID) (start : List WorkflowSnapshotRecord)
  (s : RuntimeState) : Prop where
 keyed : ∀ run, s.store.runs rid = some run → run.id = rid
 runID : ∀ vs, start <+: vs → vs <+: snapshotsOf rid s → ∀ st, Found id vs st →
  st.request.runID = rid

lemma Loaded.later (h:Loaded id rid start s st) (hu:snapshotsOf rid s <+: snapshotsOf rid u) :
  Loaded id rid start u st := by
 obtain ⟨vs,hstart,hvs,hfound⟩:=h
 exact ⟨vs,hstart,hvs.trans hu,hfound⟩

lemma Loaded.runID (h:Loaded id rid start s st) (hsound:Sound id rid start s) :
  st.request.runID=rid := by
 obtain ⟨vs,hstart,hvs,hfound,-⟩:=h
 exact hsound.runID vs hstart hvs st hfound

def Between (id : AgentID) (rid : RunID) (start : List WorkflowSnapshotRecord) :
  Phase → RuntimeState → RuntimeState → Prop
 | .idle _, v, s => start <+: snapshotsOf rid v ∧ snapshotsOf rid v <+: snapshotsOf rid s ∧
   Sound id rid start s
 | _, _, _ => True

def approvalTurns (id : AgentID) (rid : RunID) (start : List WorkflowSnapshotRecord) :
  Turns AgentSig RuntimeState Phase where
 between := Between id rid start
 moves := Moves id rid start

def approvalWorld (faulty : Prop) (given : (o : AgentOp) → o.Reply → Prop) :
  Monitor AgentSig RuntimeState :=
 guarded (agentWorld faulty) fun _ o r _ => given o r

/-- What holds of a program of the agent that moves between the phases of a claim. -/
abbrev phased {α : Type} (faulty : Prop) (given : (o : AgentOp) → o.Reply → Prop) (id : AgentID)
  (rid : RunID) (start : List WorkflowSnapshotRecord) (p : AgentProg α) :=
 turn (approvalWorld faulty given) (approvalTurns id rid start) p

lemma snapshotsOf_appends {v} (h:Appends s.store u.store v) (hrid:v.runID=rid) :
  snapshotsOf rid u=snapshotsOf rid s ++ [v] := by
 rw [← hrid]
 exact h.snapshots

lemma Moves.grows {t' r} (h:Moves id rid start t s o r u t') :
  snapshotsOf rid s <+: snapshotsOf rid u := by
 cases h with
 | claim _ _ _ _ hclaims =>
  obtain ⟨v,-,happends,hrid,-⟩:=hclaims.snapshot
  rw [snapshotsOf_appends happends hrid]
  exact prefix_append _ _
 | suspend hsuspends _ =>
  obtain ⟨v,happends,hrid,-⟩:=hsuspends.snapshot
  rw [snapshotsOf_appends happends hrid]
  exact prefix_append _ _
 | record _ _ hstore _ =>
  unfold snapshotsOf
  rw [hstore]
 | silent _ _ hsame | emit _ hsame | tool hsame _ | unpin _ hsame | report _ hsame
 | reject _ hsame => rw [hsame.2]
 | resume hsame | approved hsame | read hsame | goOn hsame => rw [hsame.2]

lemma Same.refl (rid s) : Same rid s s := ⟨rfl,rfl⟩

def Own : AgentOp → Prop
 | .runtime (.step .ctxErr) | .runtime (.step (.emit _)) => True
 | .runtime .now | .runtime .newRunID | .runtime (.authorize _ _) => True
 | .runtime _ => False
 | .tool _ | .emitterSequence | .resumeEmitter _ => False
 | _ => True

lemma own_of_plain (o) (ho:Plain o) : Own o := by
 cases o with
 | runtime o =>
  cases o with
  | step o => cases o <;> exact ho
  | _ => exact ho
 | emitterSequence | resumeEmitter | tool => exact ho
 | _ => trivial

lemma own_not_commits (ho:Own o) {r} : commits o r=false := by
 cases o with
 | runtime o =>
  cases o with
  | transaction => exact ho.elim
  | _ => rfl
 | _ => rfl

lemma own_unchanged {faulty:Prop} {r} (ho:Own o) (h:agentStep faulty s o r u) : u=s := by
 cases o with
 | runtime o =>
  cases o with
  | step o => exact h
  | now | newRunID | authorize => exact h
  | _ => exact ho.elim
 | _ => exact h

section

variable {faulty:Prop} {given:(o:AgentOp) → o.Reply → Prop} {id:AgentID} {rid:RunID}
 {start:List WorkflowSnapshotRecord} {α β:Type}
 {base:Option ToolApprovalSnapshot} {armed:Bool}

lemma owned_moves {o r} (ho:Own o) (h:agentStep faulty s o r u) :
  Moves id rid start (.owned base armed) s o r u (.owned base armed) := by
 obtain rfl := own_unchanged ho h
 cases o with
 | runtime o =>
  cases o with
  | step o =>
   cases o with
   | emit event => exact .emit trivial (Same.refl rid u)
   | _ => exact .silent trivial (own_not_commits ho) (Same.refl rid u)
  | _ => exact .silent trivial (own_not_commits ho) (Same.refl rid u)
 | generate | stream | compact => exact .emit trivial (Same.refl rid u)
 | tool | emitterSequence | resumeEmitter => exact ho.elim
 | _ => exact .silent trivial (own_not_commits ho) (Same.refl rid u)

def Stays (faulty : Prop) (given : (o : AgentOp) → o.Reply → Prop) (id : AgentID) (rid : RunID)
  (start : List WorkflowSnapshotRecord) (t : Phase) (p : AgentProg α) : Prop :=
 ∀ v, phased faulty given id rid start p
  (fun _ t' _ => t' = t) t v

lemma stays_own {p:AgentProg α} (hp:Asks Own p) :
  Stays faulty given id rid start (.owned base armed) p := by
 intro v
 refine turn_of_asks hp (fun t (_ : RuntimeState)=>t=Phase.owned base armed) ?_ rfl
 rintro t s m o r u ho rfl - ⟨hstep,-⟩
 exact ⟨_,owned_moves ho hstep,rfl⟩

lemma turn_answered {o:AgentOp} {g:o.Reply → AgentProg β} {Q} (ho:Own o)
  (h:∀ r u,given o r → phased faulty given id rid start (g r) Q (.owned base armed) u) :
  phased faulty given id rid start (agentOp o >>= g) Q (.owned base armed) v :=
 fun _ r u _ hstep=>⟨_,owned_moves ho hstep.1,h r u hstep.2⟩

lemma turn_own {o:AgentOp} {g:o.Reply → AgentProg β} {Q} (ho:Own o)
  (h:∀ r u,phased faulty given id rid start (g r) Q (.owned base armed) u) :
  phased faulty given id rid start (agentOp o >>= g) Q (.owned base armed) v :=
 turn_answered ho fun r u _=>h r u

lemma turn_read {g:Nat → AgentProg β} {Q}
  (h:∀ sequence u,phased faulty given id rid start (g sequence) Q
   (.pinned base sequence) u) :
  phased faulty given id rid start
   (agentOp .emitterSequence >>= g) Q (.owned base false) v := by
 rintro m sequence u - ⟨hstep,-⟩
 obtain rfl : u=m := hstep
 exact ⟨_,.read (Same.refl rid u),h sequence u⟩

def Quiet (o : AgentOp) : Prop := Own o ∧ Silent o

lemma stays_quiet {p:AgentProg α} (hp:Asks Quiet p) :
  Stays faulty given id rid start t p := by
 intro v
 refine turn_of_asks hp (fun t' (_ : RuntimeState)=>t'=t) ?_ rfl
 rintro t' s m o r u ⟨hown,hsilent⟩ rfl - ⟨hstep,-⟩
 obtain rfl := own_unchanged hown hstep
 exact ⟨_,.silent hsilent (own_not_commits hown) (Same.refl rid u),rfl⟩

lemma asks_quiet_flush (a runID) : Asks Quiet (flushDiagnostics a runID) := by
 unfold flushDiagnostics
 split
 · exact asks_op ⟨trivial,trivial⟩
 · exact asks_ret

lemma turn_stays {p:AgentProg α} {f:α → AgentProg β} {Q}
  (hp:Stays faulty given id rid start t p)
  (hf:∀ a u,phased faulty given id rid start (f a) Q t u) :
  phased faulty given id rid start (p >>= f) Q t v :=
 turn_seq (hp v) fun a _ u ht=>ht ▸ hf a u

lemma callIDs_encoded {encoded} (h:encodeApproval state = .ok encoded) :
  callIDs encoded=callIDs state := by
 rw [encodeApproval_eq_ok h,callIDs,callIDs,map_map]
 rfl

lemma Next.encoded {encoded} (h:encodeApproval { state with state := .pending } = .ok encoded)
  (hnext : Next rid base state) : Next rid base encoded := by
 have hcalls:callIDs encoded=callIDs state:=(callIDs_encoded h).trans rfl
 have hencoded:=encodeApproval_eq_ok h
 have hbatch:∀ b,SameBatch b state → SameBatch b encoded:=by
  intro b hb
  refine ⟨?_,?_,hcalls.trans hb.calls,?_⟩
  · rw [hencoded]
    exact hb.step
  · rw [hencoded]
    exact hb.stepID
  · rw [hencoded]
    exact hb.later
 refine ⟨?_,?_,?_,?_,?_⟩
 · rw [hencoded]
   exact hnext.runID
 · rw [hencoded]
   exact hnext.requestID
 · rw [hcalls,hencoded]
   exact hnext.call
 · intro b hb
   refine (hnext.after b hb).imp ?_ (hbatch b)
   rw [hencoded]
   exact fun hstep=>hstep
 · rw [hcalls]
   refine hnext.fresh.imp ?_ fun ⟨b,hb,hsame⟩=>⟨b,hb,hbatch b hsame⟩
   rw [hencoded]
   exact fun h=>h

lemma digits_colon {n m xs ys}
  (h:Nat.toDigits 10 n ++ ':' :: xs=Nat.toDigits 10 m ++ ':' :: ys) :
  n=m ∧ xs=ys := by
 have htake:∀ (k : Nat) (zs : List Char),
   (Nat.toDigits 10 k ++ ':' :: zs).takeWhile Char.isDigit=Nat.toDigits 10 k := by
  intro k zs
  rw [takeWhile_append_of_pos fun c hc=>Nat.isDigit_of_mem_toDigits (by decide) (by decide) hc]
  exact append_nil _
 have hdigits:Nat.toDigits 10 n=Nat.toDigits 10 m:=by rw [← htake n xs,h,htake]
 refine ⟨?_,?_⟩
 · have hnumber:=congrArg (fun digits=>Nat.ofDigitChars 10 digits 0) hdigits
   simpa using hnumber
 · rw [hdigits] at h
   exact (List.cons.inj (append_cancel_left h)).2

lemma toolApprovalRequestID_inj {runID step step' stepID stepID' callID callID'}
  (h:toolApprovalRequestID runID step stepID callID=toolApprovalRequestID runID step' stepID'
   callID') : step=step' ∧ (stepID=stepID' → callID=callID') := by
 have hchars:=congrArg String.toList h
 simp only [toolApprovalRequestID,String.toList_append,Nat.toString_eq_repr,Nat.toList_repr,
  append_assoc] at hchars
 obtain ⟨hstep,hrest⟩:=digits_colon (append_cancel_left (append_cancel_left hchars))
 refine ⟨hstep,?_⟩
 rintro rfl
 exact String.toList_inj.mp (append_cancel_left (append_cancel_left hrest))

lemma transaction_error {body m u e} (h:transaction body m=(.error e,u)) : u=m := by
 unfold transaction at h
 split at h
 · cases h
 · cases h
   rfl

lemma transaction_step {body r} (h:agentStep faulty s (.runtime (.transaction body)) r u) :
  (r = .ok () ∧ transaction body s.store=(.ok (),u.store)) ∨
   ∃ e,r = .error e ∧ u.store=s.store := by
 rcases h with ⟨hstore,-⟩ | ⟨-,⟨e,rfl⟩,rfl⟩
 · cases r with
   | ok _ => exact .inl ⟨rfl,hstore.symm⟩
   | error e => exact .inr ⟨e,rfl,transaction_error hstore.symm⟩
 · exact .inr ⟨e,rfl,rfl⟩

lemma same_of_store (h:u.store=s.store) : Same rid s u :=
 ⟨by rw [h],by rw [snapshotsOf,h]; rfl⟩

lemma suspends_of_writes {a now} (hpending:st.state = .pending)
  (hnext:Next rid base st) (h:SuspendWrites a st now s.store u.store) :
  Suspends rid base s u st := by
 obtain ⟨sequence,happends⟩:=h.snapshot
 have hrid:=hnext.runID
 have hrun:=h.run
 have hfound:=h.found
 rw [hrid] at hrun hfound
 refine ⟨?_,⟨_,hrun,rfl⟩,?_,⟨_,happends,hrid,rfl⟩,hpending,hnext⟩
 · rintro ⟨run,hrun,hstatus⟩
   rw [hfound run hrun] at hstatus
   cases hstatus
 · intro run hsome
   rw [hrun] at hsome
   cases hsome
   exact hrid

def Persisted (base : Option ToolApprovalSnapshot) (sequence : Nat) (r : Except Err Unit)
  (t : Phase) : Prop :=
 (r = .ok () ∧ ∃ st, t = .suspending st) ∨ (∃ e, r = .error e) ∧ t = .pinned base sequence

lemma turn_persistToolApproval (a) {sequence}
  (hnext:Next rid base state) (hsequence:state.eventSequence=sequence+1) (v) :
  phased faulty given id rid start
   (persistToolApproval a state) (fun r t _=>Persisted base sequence r t)
   (.pinned base sequence) v := by
 unfold persistToolApproval
 split
 · exact .inr ⟨⟨_,rfl⟩,rfl⟩
 split
 · exact .inr ⟨⟨_,rfl⟩,rfl⟩
 split
 · exact .inr ⟨⟨_,rfl⟩,rfl⟩
 rename_i encoded hencoded
 refine turn_stays (stays_quiet (asks_op ⟨trivial,trivial⟩)) ?_
 rintro now u m r w - ⟨hstep,-⟩
 rcases transaction_step hstep with ⟨rfl,hok⟩ | ⟨e,rfl,hstore⟩
 · have heq:=encodeApproval_eq_ok hencoded
   have hsuspends:Suspends rid base m w encoded:=by
    refine suspends_of_writes ?_ (hnext.encoded hencoded) (suspendRun_ok hok)
    rw [heq]
   refine ⟨.suspending encoded,.suspend hsuspends ?_,.inl ⟨rfl,encoded,rfl⟩⟩
   rw [heq]
   exact hsequence
 · exact ⟨_,.silent trivial rfl (same_of_store hstore),.inr ⟨⟨e,rfl⟩,rfl⟩⟩

def OwnTool (P : ToolInvocation → Prop) : AgentOp → Prop
 | .tool invocation => P invocation
 | o => Own o

lemma ownTool_of_plain (P:ToolInvocation → Prop) (o) (ho:Plain o) : OwnTool P o := by
 cases o with
 | tool => exact ho.elim
 | _ => exact own_of_plain _ ho

lemma ownTool_cases {P o} (ho:OwnTool P o) :
  Own o ∨ ∃ invocation,o = .tool invocation ∧ P invocation := by
 cases o with
 | tool invocation => exact .inr ⟨invocation,rfl,ho⟩
 | _ => exact .inl ho

def Others (base : Option ToolApprovalSnapshot) (invocation : ToolInvocation) : Prop :=
 ∀ b, base = some b → Unrepeated b → ¬ Gated b invocation

lemma stays_tools {p:AgentProg α} (hp:Asks (OwnTool (Others base)) p) :
  Stays faulty given id rid start (.owned base false) p := by
 intro v
 refine turn_of_asks hp (fun t (_ : RuntimeState)=>t=Phase.owned base false) ?_ rfl
 rintro t s m o r u ho rfl - ⟨hstep,-⟩
 rcases ownTool_cases ho with hown | ⟨invocation,rfl,hother⟩
 · exact ⟨_,owned_moves hown hstep,rfl⟩
 · obtain rfl : u=m := hstep
   exact ⟨_,.tool (Same.refl rid u) hother,rfl⟩

def Ended (base : Option ToolApprovalSnapshot) (out : AgentOutcome) (t : Phase) : Prop :=
 t = .owned base false ∨ t = .finished ∧ out.result.status = .suspended

def Ran (base : Option ToolApprovalSnapshot) (r : List Message ⊕ AgentOutcome) (t : Phase) : Prop :=
 match r with
 | .inl _ => t = .owned base false
 | .inr out => Ended base out t

variable {a:Agent} {f:RunFrame} {step:Nat} {stepID:StepID}

lemma turn_inr {p}
  (h:phased faulty given id rid start p (fun out t _=>Ended base out t) t v) :
  phased faulty given id rid start
   (p >>= fun out=>.ret (Sum.inr out : List Message ⊕ AgentOutcome))
   (fun r t _=>Ran base r t) t v :=
 turn_seq h fun _ _ _ ht=>ht

lemma turn_ended {p} (hp:Asks Own p) (v) :
  phased faulty given id rid start p
   (fun out t _=>Ended base out t) (.owned base false) v :=
 turn_mono (stays_own hp v) fun _ _ _ ht=>.inl ht

lemma turn_fail {transcript e v} :
  phased faulty given id rid start (endFailed f step stepID transcript e >>=
    fun out=>.ret (Sum.inr out : List Message ⊕ AgentOutcome))
   (fun r t _=>Ran base r t) (.owned base false) v :=
 turn_inr (turn_ended (asks_endFailed own_of_plain) v)

lemma turn_fail_pinned {transcript e sequence v} :
  phased faulty given id rid start (endFailed f step stepID transcript e >>=
    fun out=>.ret (Sum.inr out : List Message ⊕ AgentOutcome))
   (fun r t _=>Ran base r t) (.pinned base sequence) v := by
 rintro m r u - ⟨hstep,-⟩
 obtain rfl : u=m := hstep
 exact ⟨_,.unpin trivial (Same.refl rid u),.inl rfl⟩

structure Batch (rid : RunID) (base : Option ToolApprovalSnapshot) (runID : RunID) (step : Nat)
  (calls : List ModelToolCall) (transcript : List Message) : Prop where
 runID : runID = rid
 later : ∀ b, base = some b → b.request.step < step
 answers : Answers transcript (calls.map ModelToolCall.id)

def Extends (transcript : List Message) (r : List Message ⊕ AgentOutcome) : Prop :=
 ∀ later, r = .inl later → transcript ⊆ later

lemma returns_inr {transcript} {p:AgentProg AgentOutcome} :
  Returns (p >>= fun out=>.ret (.inr out)) (Extends transcript) :=
 returns_then fun _ _ h=>by cases h

lemma returns_runTool {transcript call} :
  Returns (runTool a f step stepID transcript call) (Extends transcript) := by
 refine returns_then fun _=>returns_then fun result=>returns_then fun _=>?_
 dsimp only
 split
 · rintro _ ⟨⟩
   exact subset_append_left _ _
 · exact returns_inr
 · exact returns_inr

lemma returns_runToolCall {callIndex transcript call} :
  Returns (runToolCall a f step stepID calls callIndex transcript call) (Extends transcript) := by
 refine returns_then fun ended=>?_
 cases ended with
 | some e => exact returns_inr
 | none =>
  refine returns_then fun _=>returns_then fun resolution=>?_
  cases resolution with
  | error e => exact returns_inr
  | ok resolution =>
   dsimp only
   split
   · exact returns_inr
   · refine returns_then fun suspended=>?_
     cases suspended with
     | error e => exact returns_inr
     | ok request => exact fun _ h=>by cases h
   · exact returns_runTool

lemma turn_suspend {callIndex call transcript}
  (hbatch:Batch rid base f.runID step calls transcript) (hcall:calls[callIndex]? = some call)
  {resolution v} :
  phased faulty given id rid start
   (suspendAgentToolApproval a f step stepID transcript calls callIndex call resolution)
   (fun r t _=>(∃ request,r = .ok request) ∧ t = .finished ∨
    (∃ e,r = .error e) ∧ ∃ sequence,t = .pinned base sequence) (.owned base false) v := by
 apply turn_own (o := .runtime .now) trivial
 intro now u
 apply turn_read
 intro sequence w
 refine turn_seq (turn_persistToolApproval a ⟨hbatch.runID,?_,?_,?_,.inl hbatch.answers⟩ rfl w) ?_
 · rw [← hbatch.runID]
 · dsimp only [callIDs]
   rw [List.getElem?_map,hcall]
   rfl
 · exact fun b hb=>.inl (hbatch.later b hb)
 · rintro persisted t x (⟨rfl,st,rfl⟩ | ⟨⟨e,rfl⟩,rfl⟩)
   · rintro m' r' x' - ⟨hstep',-⟩
     obtain rfl : x'=m' := hstep'
     exact ⟨.finished,.report rfl (Same.refl rid x'),.inl ⟨⟨_,rfl⟩,rfl⟩⟩
   · exact .inr ⟨⟨e,rfl⟩,sequence,rfl⟩

lemma others_of_later {invocation} (hlater:∀ b,base=some b → b.request.step < step)
  (hstep:invocation.step=step) : Others base invocation := by
 rintro b hb - ⟨-,hgated,-⟩
 have hlt:=hlater b hb
 omega

lemma turn_resolveTool {callIndex call transcript}
  (hbatch:Batch rid base f.runID step calls transcript) (hcall:calls[callIndex]? = some call)
  (v) :
  phased faulty given id rid start
   (resolveTool a f step stepID calls callIndex transcript call)
   (fun r t _=>Ran base r t) (.owned base false) v := by
 apply turn_stays (stays_own (asks_evaluateToolApproval own_of_plain))
 intro resolution u
 cases resolution with
 | error e => exact turn_fail
 | ok resolution =>
  dsimp only
  split
  · exact turn_fail
  · apply turn_seq (turn_suspend hbatch hcall)
    rintro suspended t w (⟨⟨request,rfl⟩,rfl⟩ | ⟨⟨e,rfl⟩,sequence,rfl⟩)
    · exact .inr ⟨rfl,rfl⟩
    · exact turn_fail_pinned
  · have hplain:=ownTool_of_plain (Others base)
    have hrun:Asks (OwnTool (Others base)) (runTool a f step stepID transcript call):=
     asks_runTool hplain
      fun _ _ hstep _=>others_of_later hbatch.later hstep
    apply turn_mono (stays_tools hrun u)
    rintro r t w rfl
    cases r with
    | inl _ => rfl
    | inr out => exact .inl rfl

lemma turn_runToolCalls {transcript} (hbatch:Batch rid base f.runID step calls transcript)
  (callIndex rest) (hrest:calls.drop callIndex=rest) (v) :
  phased faulty given id rid start
   (runToolCalls a f step stepID calls callIndex rest transcript)
   (fun r t _=>Ran base r t) (.owned base false) v := by
 induction rest generalizing callIndex transcript v with
 | nil => exact rfl
 | cons call rest ih =>
  have hcall:calls[callIndex]? = some call:=by
   rw [← List.head?_drop,hrest]
   rfl
  have htail:calls.drop (callIndex+1)=rest:=by
   rw [← tail_drop,hrest]
   rfl
  have hone:phased faulty given id rid start
    (runToolCall a f step stepID calls callIndex transcript call)
    (fun r t _=>Ran base r t) (.owned base false) v := by
   apply turn_stays (stays_own (asks_runCtxErr own_of_plain))
   intro ended u
   cases ended with
   | some e => exact turn_inr (turn_ended (asks_endCancelled own_of_plain) u)
   | none =>
    apply turn_stays (stays_own (asks_emitEvent own_of_plain))
    intro _ w
    exact turn_resolveTool hbatch hcall w
  apply turn_seq (turn_and_returns returns_runToolCall hone)
  rintro ran t u ⟨hextends,ht⟩
  cases ran with
  | inr out => exact ht
  | inl later =>
   obtain rfl : t = .owned base false := ht
   obtain ⟨m,hm,hids⟩:=hbatch.answers
   exact ih ⟨hbatch.runID,hbatch.later,m,hextends later rfl hm,hids⟩ (callIndex+1) htail u

lemma turn_handleResponse (hrunID:f.runID=rid)
  (hlater:∀ b,base=some b → b.request.step < step) {transcript}
  {response v} :
  phased faulty given id rid start (handleResponse a f step stepID transcript response)
   (fun r t _=>Ran base r t) (.owned base false) v := by
 apply turn_stays (stays_own (asks_process own_of_plain))
 intro processed u
 cases processed with
 | error e => exact turn_inr (turn_ended (asks_endProcessor own_of_plain) u)
 | ok response =>
  dsimp only
  split
  · apply turn_own (o := .runtime (.step (.emit _))) trivial
    intro _ w
    exact turn_inr (turn_ended (asks_endFailedWith own_of_plain) w)
  · apply turn_own (o := .runtime (.step (.emit _))) trivial
    intro _ w
    split
    · exact turn_runToolCalls ⟨hrunID,hlater,response.message,mem_append_right _ mem_cons_self,
       rfl⟩ 0 _ rfl w
    · exact turn_inr (turn_ended
       (asks_finishRun own_of_plain fun _=>trivial) w)

lemma stays_prepareRequest {transcript} :
  Stays faulty given id rid start (.owned base false)
   (prepareRequest a f step stepID transcript) :=
 stays_own (asks_prepareRequest own_of_plain
  fun _ _ _ _ _ _ _=>trivial)

lemma stays_generateModel {c request} :
  Stays faulty given id rid start (.owned base false) (generateModel c request) := by
 have hone target : Stays faulty given id rid start (.owned base false)
   (agentOp (.generate target request)) :=
  stays_own (asks_op (S := AgentSig) (P := Own) trivial)
 intro v
 unfold generateModel
 split
 · exact hone _ v
 · exact hone _ v
 · exact fun _ r=>r.elim

lemma asks_consumeStream_own {request} : Asks Own (consumeStream a f step stepID request) :=
 asks_consumeStream own_of_plain (fun _ _ _=>trivial) fun _ _=>trivial

lemma turn_openStep {transcript} {send}
  (hsend:∀ stepID request v,phased faulty given id rid start (send stepID request)
   (fun r t _=>Ran base r t) (.owned base false) v) {v} :
  phased faulty given id rid start (openStep a f step transcript send)
   (fun r t _=>Ran base r t) (.owned base false) v := by
 apply turn_own (o := .runtime (.step .ctxErr)) trivial
 intro ended u
 cases ended with
 | some e => exact turn_inr (turn_ended (asks_endCancelled own_of_plain) u)
 | none =>
  apply turn_own (o := .newStepID) trivial
  intro stepID u
  apply turn_own (o := .runtime (.step (.emit _))) trivial
  intro _ u
  apply turn_stays stays_prepareRequest
  intro prepared u
  cases prepared with
  | inr out => exact .inl rfl
  | inl request => exact hsend stepID request u

lemma turn_runStep (hrunID:f.runID=rid)
  (hlater:∀ b,base=some b → b.request.step < step) {transcript v} :
  phased faulty given id rid start
   (runStep a f step transcript) (fun r t _=>Ran base r t) (.owned base false) v := by
 refine turn_openStep ?_
 intro stepID request u
 apply turn_stays stays_generateModel
 intro response w
 cases response with
 | error e => exact turn_inr (turn_ended (asks_endModel own_of_plain) w)
 | ok response =>
  exact turn_handleResponse hrunID hlater

lemma turn_streamStep (hrunID:f.runID=rid)
  (hlater:∀ b,base=some b → b.request.step < step) {transcript v} :
  phased faulty given id rid start
   (streamStep a f step transcript) (fun r t _=>Ran base r t) (.owned base false) v := by
 refine turn_openStep ?_
 intro stepID request u
 apply turn_stays (stays_own asks_consumeStream_own)
 intro response w
 cases response with
 | error failure => exact turn_inr (turn_ended (asks_endStream own_of_plain) w)
 | ok response =>
  exact turn_handleResponse hrunID hlater

lemma turn_runLoop {body}
  (hbody:∀ step transcript v,(∀ b,base=some b → b.request.step < step) →
   phased faulty given id rid start (body step transcript) (fun r t _=>Ran base r t)
   (.owned base false) v) (n) (hlater:∀ b,base=some b → b.request.step < step) (transcript)
  (v) :
  phased faulty given id rid start
   (runLoop a f body n step transcript) (fun out t _=>Ended base out t) (.owned base false)
   v := by
 induction n generalizing step transcript v with
 | zero => exact turn_ended (asks_endFailed own_of_plain) v
 | succ n ih =>
  apply turn_seq (hbody step transcript v hlater)
  intro ran t u ht
  cases ran with
  | inr out => exact ht
  | inl transcript =>
   obtain rfl : t = .owned base false := ht
   refine ih ?_ transcript u
   intro b hb
   exact Nat.lt_succ_of_lt (hlater b hb)

lemma turn_ended_flush {p:AgentProg Unit} (hp:Asks Quiet p) {out} (ht:Ended base out t) {v} :
  phased faulty given id rid start
   (p >>= fun _=>.ret out) (fun out t _=>Ended base out t) t v :=
 turn_stays (stays_quiet hp) fun _ _=>ht

lemma asks_quiet_finishJournal {a runID journaled} :
  Asks Quiet (finishJournal a runID journaled) := by
 unfold finishJournal
 split
 · exact asks_bind (asks_quiet_flush a runID) fun _=>asks_quiet_flush a runID
 · exact asks_ret

structure Framed (rid : RunID) (base : Option ToolApprovalSnapshot) (f : RunFrame) : Prop where
 runID : f.runID = rid
 later : ∀ b, base = some b → b.request.step < max 1 f.input.resumeStartStep

lemma turn_run
  (hsetup:phased faulty given id rid start (setupRun a input) (fun r t _ =>
   t = .owned base false ∧ Started (Framed rid base) r.1) (.owned base false) v) :
  phased faulty given id rid start (run a input)
   (fun out t _=>Ended base out t) (.owned base false) v := by
 apply turn_seq hsetup
 rintro ⟨setup,journaled⟩ t u ⟨rfl,hstarted⟩
 cases setup with
 | error out => exact turn_ended_flush asks_quiet_finishJournal (.inl rfl)
 | ok f =>
  refine turn_seq (turn_runLoop ?_ _ hstarted.later _ u) ?_
  · intro step transcript w hlater
    exact turn_runStep hstarted.runID hlater
  · intro out t w ht
    exact turn_ended_flush asks_quiet_finishJournal ht

def Names (given : (o : AgentOp) → o.Reply → Prop) (rid : RunID) (input : RunInput) : Prop :=
 if input.runID = "" then ∀ runID, given (.runtime .newRunID) runID → runID = rid
 else input.runID = rid

lemma turn_newRunID (hnames:Names given rid input) {v} :
  phased faulty given id rid start
   (newRunID input.runID) (fun runID t _=>t = .owned base false ∧ runID=rid)
   (.owned base false) v := by
 unfold newRunID Names at *
 by_cases hempty : input.runID = ""
 · rw [if_pos hempty] at hnames
   rw [if_neg (not_not.mpr hempty)]
   apply turn_answered (o := .runtime .newRunID) (g := .ret) trivial
   intro runID u hrunID
   exact ⟨rfl,hnames runID hrunID⟩
 · rw [if_neg hempty] at hnames
   rw [if_pos hempty]
   exact ⟨rfl,hnames⟩

lemma turn_setupRun (hnames:Names given rid input) {v} :
  phased faulty given id rid start (setupRun a input)
   (fun r t _=>t = .owned none false ∧ Started (Framed rid none) r.1) (.owned none false)
   v := by
 unfold setupRun
 split
 · exact ⟨rfl,nofun,nofun⟩
 apply turn_own (o := .runtime (.step .ctxErr)) trivial
 intro ended u
 cases ended with
 | some e =>
  apply turn_seq (turn_newRunID hnames)
  rintro runID t u ⟨rfl,rfl⟩
  apply turn_own (o := .runtime (.step (.emit _))) trivial
  intro _ u
  apply turn_stays (stays_quiet (asks_quiet_flush a _))
  exact fun _ _=>⟨rfl,nofun,nofun⟩
 | none =>
  apply turn_seq (turn_newRunID hnames)
  rintro runID t u ⟨rfl,rfl⟩
  split
  · refine turn_seq (turn_and_returns (returns_failSetup (P := fun _=>False))
     (stays_own (asks_failSetup own_of_plain) u)) ?_
    rintro r t u ⟨hr,rfl⟩
    cases r with
    | ok f => exact hr.elim
    | error out => exact ⟨rfl,hr⟩
  · refine turn_seq (turn_and_returns returns_startRun_runID
     (stays_own (asks_startRun own_of_plain) u)) ?_
    rintro r t u ⟨hr,rfl⟩
    cases r with
    | ok f => exact ⟨rfl,hr,fun _ h=>by cases h⟩
    | error out => exact ⟨rfl,hr⟩

lemma turn_newRun
  (hnames:Names given rid input) (v) :
  phased faulty given id rid start (run a input)
   (fun out t _=>Ended none out t) (.owned none false) v :=
 turn_run (turn_setupRun hnames)

lemma turn_newRunStream
  (hnames:Names given rid input) (v) :
  phased faulty given id rid start (runStream a input)
   (fun _ t _=>t = .owned none false ∨ t = .finished) (.owned none false) v := by
 have hfresh:Names given rid
   { input with resumeStartStep := 0, resumeSkipInputPhase := false } := hnames
 apply turn_seq (turn_setupRun hfresh)
 rintro ⟨setup,journaled⟩ t u ⟨rfl,hstarted⟩
 cases setup with
 | error out => exact .inl rfl
 | ok f =>
  refine turn_seq (turn_runLoop ?_ _ (fun _ h=>by cases h) _ u) ?_
  · intro step transcript w hlater
    exact turn_streamStep hstarted.runID hlater
  · intro out t w ht
    apply turn_stays (stays_quiet (asks_quiet_flush a _))
    exact fun _ _=>ht.imp_right And.left

lemma turn_continuedRun (hrid:rid ≠ "")
  (hrunID:input.runID=rid) (hskip:input.resumeSkipInputPhase=true)
  (hfirst:st.request.step < input.resumeStartStep) (v) :
  phased faulty given id rid start (run a input)
   (fun out t _=>Ended (some st) out t) (.owned (some st) false) v := by
 refine turn_run (turn_mono (turn_and_returns (returns_setupRun (.inr hskip))
  (stays_own (asks_setupRun own_of_plain) v)) ?_)
 rintro ⟨setup,journaled⟩ t u ⟨hsetup,rfl⟩
 refine ⟨rfl,?_⟩
 cases setup with
 | error out => exact hsetup
 | ok f =>
  have hplainly:=hsetup.2
  refine ⟨(hplainly.runID (hrunID ▸ hrid)).trans hrunID,?_⟩
  rintro b ⟨⟩
  rw [hplainly.input]
  exact lt_of_lt_of_le hfirst (Nat.le_max_right _ _)

end

end Lebro.ApprovalTurns
