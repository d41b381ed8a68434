import Lebro.AgentLoop

set_option autoImplicit false

namespace Lebro.AgentApprovals

open EffectProgram RuntimeTypes RuntimeRecords RuntimeEffects AgentEffects AgentTools AgentLoop

variable (a : Agent) (state : ToolApprovalSnapshot) (decision : ToolApprovalDecision)

/-- Whether `json.Unmarshal` accepts a stored snapshot: the tool calls of each of its messages are
validated again, and an ID that two of them share is refused. -/
def unmarshals (state : ToolApprovalSnapshot) : Bool :=
 state.transcript.all fun m => m.toolCalls.all (fun call => call.id ≠ "" && call.toolID ≠ "") &&
  (m.toolCalls.map ModelToolCall.id).Nodup

/-- The later of two snapshots; those of other agents or of workflows do not count. -/
def laterApproval (best : Option (Nat × ToolApprovalSnapshot))
  (candidate : WorkflowSnapshotRecord) : Option (Nat × ToolApprovalSnapshot) :=
 match candidate.state with
 | .workflow _ | .other _ => best
 | .toolApproval state =>
  if unmarshals state = false ∨ state.agentID ≠ a.id ∨ state.request.id = "" then best
  else
   match best with
   | none => some (candidate.sequence, state)
   | some (sequence, _) =>
    if sequence < candidate.sequence then some (candidate.sequence, state) else best

/-- The pages of the listing, in order; a listing that never ends is not returned from. -/
def scanApprovals (a : Agent) (runID : RunID) :
  Nat → Option Nat → Option (Nat × ToolApprovalSnapshot) →
   AgentProg (Except Err (Option (Nat × ToolApprovalSnapshot)))
 | 0, _, _ => .ask (.runtime .hang) Empty.elim
 | n + 1, cursor, best => do
  let page ← agentOp (.runtime (.repo (.listWorkflowSnapshots runID ⟨cursor, 1000⟩)))
  match page with
  | .error e => .ret (.error
    (e.wrap ("lebro: list tool approval snapshots for " ++ quote runID ++ ": ")))
  | .ok page =>
   match page.nextCursor with
   | none => .ret (.ok (page.records.foldl (laterApproval a) best))
   | some next => scanApprovals a runID n (some next) (page.records.foldl (laterApproval a) best)

def errOtherAgent (run : WorkflowRunRecord) (runID : RunID) : Err :=
 .new ("lebro: run " ++ quote runID ++ " belongs to agent " ++ quote run.workflowID ++ ", not " ++
  quote a.id)

def loadApprovalOf (runID : RunID) (run : WorkflowRunRecord) :
  AgentProg (Except Err (WorkflowRunRecord × ToolApprovalSnapshot)) := do
 let found ← scanApprovals a runID a.pages none none
 match found with
 | .error e => .ret (.error e)
 | .ok none => .ret (.error (.new ("lebro: no tool approval snapshot for run " ++ quote runID)))
 | .ok (some best) => .ret (.ok (run, best.2))

def loadToolApproval (runID : RunID) :
  AgentProg (Except Err (WorkflowRunRecord × ToolApprovalSnapshot)) :=
 if a.store.isNone then .ret (.error errApprovalStore)
 else do
  let run ← agentOp (.runtime (.repo (.getWorkflowRun runID)))
  match run with
  | .error e => .ret (.error (e.wrap ("lebro: load tool approval run " ++ quote runID ++ ": ")))
  | .ok run =>
   if run.workflowID ≠ a.id then .ret (.error (errOtherAgent a run runID))
   else loadApprovalOf a runID run

def errStale (requestID : String) : Err := (⟨.stale, requestID⟩ : ToolApprovalError).toErr

def decided (next : ToolApprovalState) : ToolApprovalSnapshot :=
 { state with state := next, revision := state.revision + 1, decision := some decision }

def decidedRun (run : WorkflowRunRecord) (status : RunStatus)
  (failure : Option WorkflowFailureData) (now : Time) : WorkflowRunRecord :=
 { run with
   status := status
   updatedAt := now
   failure := failure
   finishedAt := if status = .failed then some now else run.finishedAt }

def saveTransition (run : WorkflowRunRecord) (state : ToolApprovalSnapshot) (status : RunStatus)
  (failure : Option WorkflowFailureData) (now : Time) : RepoProg (Except Err Unit) := do
 let saved ← saveApprovalSnapshot a state now
 match saved with
 | .error e => .ret (.error e)
 | .ok () => repoOp (.saveWorkflowRun (decidedRun run status failure now))

def transitionRun (requestID : String) (decision : ToolApprovalDecision) (status : RunStatus)
  (next : ToolApprovalState) (failure : Option WorkflowFailureData) (now : Time) :
  RepoProg (Except Err Unit) := do
 let run ← repoOp (.getWorkflowRun state.request.runID)
 match run with
 | .error e => .ret (.error e)
 | .ok run =>
  if run.status ≠ .suspended ∨ state.request.id ≠ requestID ∨ state.state ≠ .pending then
   .ret (.error (errStale requestID))
  else
   match encodeApproval (decided state decision next) with
   | .error e => .ret (.error e)
   | .ok state => saveTransition a run state status failure now

def transitionAttempts (a : Agent) (runID : RunID) (requestID : String)
  (decision : ToolApprovalDecision) (status : RunStatus) (next : ToolApprovalState)
  (failure : Option WorkflowFailureData) :
  Nat → ToolApprovalSnapshot → AgentProg (Except Err Unit)
 | 0, _ => .ret (.error MemoryStore.errConflict)
 | n + 1, state => do
  let now ← clockNow
  let committed ← agentOp (.runtime (.transaction
   (transitionRun a state requestID decision status next failure now)))
  match committed with
  | .ok () => .ret (.ok ())
  | .error e =>
   if ¬ e.is .conflict then .ret (.error e)
   else do
    let loaded ← loadToolApproval a runID
    match loaded with
    | .error _ => .ret (.error e)
    | .ok (run, latest) =>
     if run.status ≠ .suspended ∨ latest.state ≠ .pending ∨
       latest.request.id ≠ requestID then .ret (.error (errStale requestID))
     else transitionAttempts a runID requestID decision status next failure n latest

def transitionToolApproval (status : RunStatus) (next : ToolApprovalState)
  (failure : Option WorkflowFailureData) : AgentProg (Except Err Unit) :=
 transitionAttempts a state.request.runID state.request.id decision status next failure 2 state

def approvalEvent (type : RunEventType) (state : ToolApprovalSnapshot) : RunEvent :=
 { type := type, runID := state.request.runID, step := state.request.step,
   stepID := state.request.stepID }

def approvalFailureData (kind : WorkflowErrorKind) (message : String) : WorkflowFailureData :=
 ⟨kind, state.request.step, state.request.stepID, message⟩

def continuationFailure (out : AgentOutcome) : Option WorkflowFailureData :=
 if out.result.status = .cancelled then
  some (approvalFailureData state .cancelled "agent tool approval continuation cancelled")
 else if out.error.isSome then
  some (approvalFailureData state .stepFailed "agent tool approval continuation failed")
 else none

def terminalRunRecord (out : AgentOutcome) (now : Time) : WorkflowRunRecord where
 id := state.request.runID
 workflowID := a.id
 threadID := state.threadID
 scope := state.scope
 status := out.result.status
 currentStep := state.request.step
 currentStepID := state.request.stepID
 metadata := state.metadata
 startedAt := state.request.requestedAt
 finishedAt := some now
 updatedAt := now
 failure := continuationFailure state out

def persistApprovalRunTerminal (out : AgentOutcome) : AgentProg Unit :=
 if a.store.isNone then .ret ()
 else do
  let now ← clockNow
  let _ ← agentOp (.runtime (.repo (.saveWorkflowRun (terminalRunRecord a state out now))))
  .ret ()

def endApprovalResume (type : RunEventType) (reported : Err) (out : AgentOutcome) :
  AgentProg AgentOutcome := do
 emitEvent (terminalEvent type out.result.status state.request.runID state.request.step
  state.request.stepID (some reported))
 flushDiagnostics a state.request.runID
 persistApprovalRunTerminal a state out
 .ret out

def finishApprovalResume (transcript : List Message) (failure : AgentFailure) :
  AgentProg AgentOutcome :=
 endApprovalResume a state .failed failure.toErr
  ⟨{ id := state.request.runID, status := .failed, messages := transcript,
     metadata := state.metadata }, some failure⟩

def cancelApprovalResume (transcript : List Message) (cause : Err) : AgentProg AgentOutcome :=
 endApprovalResume a state .cancelled cause
  ⟨{ id := state.request.runID, status := .cancelled, messages := transcript,
     metadata := state.metadata }, some (.agent (cancelledError state.request.step cause))⟩

def approvalExecutionID : String := "approval-" ++ state.request.id ++ "-tool"

def resumeTool (transcript : List Message) (call : ModelToolCall) :
  AgentProg (List Message ⊕ AgentOutcome) := do
 emitEvent (toolEvent .toolStarted state.request.runID state.request.step state.request.stepID
  call none)
 let result ← executeToolCall a state.request.runID state.request.step state.request.stepID
  state.threadID call state.metadata
 emitEvent (toolEvent .toolFinished state.request.runID state.request.step state.request.stepID
  call result.err)
 let transcript := transcript ++ [toolResultMessage call.id result]
 match result.state with
 | .succeeded => .ret (.inl transcript)
 | .cancelled => do
  let out ← cancelApprovalResume a state transcript (result.err.getD (.new ""))
  .ret (.inr out)
 | _ => do
  let out ← finishApprovalResume a state transcript
   (.agent (toolExecutionAgentError state.request.step result))
  .ret (.inr out)

def nextApproval (request : ToolApprovalRequest) (i : Nat) (transcript : List Message)
  (sequence : Nat) : ToolApprovalSnapshot :=
 { state with
   request := request
   decision := none
   callIndex := i
   transcript := transcript
   eventSequence := pendingToolApprovalSuspendSequence sequence }

def suspendAgain (i : Nat) (transcript : List Message) (call : ModelToolCall)
  (resolution : ToolApprovalResolution) : AgentProg AgentOutcome := do
 let request ← newToolApprovalRequest state.request.runID (approvalExecutionID state)
  state.request.step state.request.stepID state.threadID call resolution
 let sequence ← agentOp .emitterSequence
 let persisted ← persistToolApproval a (nextApproval state request i transcript sequence)
 match persisted with
 | .error e => .ret ⟨{}, some (.plain e)⟩
 | .ok () => do
  emitEvent (approvalEvent .suspended state)
  flushDiagnostics a state.request.runID
  .ret ⟨{ id := state.request.runID, status := .suspended, messages := transcript,
          metadata := state.metadata, toolApproval := some request }, none⟩

def resumeInvocation (call : ModelToolCall) : ToolApprovalInvocation where
 runID := state.request.runID
 executionID := approvalExecutionID state
 step := state.request.step
 stepID := state.request.stepID
 threadID := state.threadID
 toolCallID := call.id
 toolID := call.toolID
 arguments := call.arguments
 metadata := state.metadata

def resolveNext (i : Nat) (transcript : List Message) (call : ModelToolCall) :
  AgentProg (List Message ⊕ AgentOutcome) := do
 let resolution ← evaluateToolApproval a (resumeInvocation state call)
 match resolution with
 | .error e => do
  let out ← finishApprovalResume a state transcript
   (.agent ⟨.toolFailure, state.request.step, e⟩)
  .ret (.inr out)
 | .ok resolution =>
  match resolution.outcome with
  | .deny => do
   let out ← finishApprovalResume a state transcript (.approval ⟨.denied, state.request.id⟩)
   .ret (.inr out)
  | .require => do
   let out ← suspendAgain a state i transcript call resolution
   .ret (.inr out)
  | _ => resumeTool a state transcript call

def resumeNext (i : Nat) (transcript : List Message) (call : ModelToolCall) :
  AgentProg (List Message ⊕ AgentOutcome) := do
 let ended ← runCtxErr
 match ended with
 | some e => do
  let out ← cancelApprovalResume a state transcript e
  .ret (.inr out)
 | none => do
  emitEvent (toolEvent .toolRequested state.request.runID state.request.step
   state.request.stepID call none)
  resolveNext a state i transcript call

def resumeCalls (a : Agent) (state : ToolApprovalSnapshot) :
  Nat → List ModelToolCall → List Message → AgentProg (List Message ⊕ AgentOutcome)
 | _, [], transcript => .ret (.inl transcript)
 | i, call :: calls, transcript => do
  let ran ← resumeNext a state i transcript call
  match ran with
  | .inr out => .ret (.inr out)
  | .inl transcript => resumeCalls a state (i + 1) calls transcript

def resumeBatch (call : ModelToolCall) : AgentProg (List Message ⊕ AgentOutcome) := do
 let ran ← resumeTool a state state.transcript call
 match ran with
 | .inr out => .ret (.inr out)
 | .inl transcript =>
  resumeCalls a state (state.callIndex + 1) (state.calls.drop (state.callIndex + 1)) transcript

def continuationAgent : Agent :=
 { a with instructionsResolver := false, instructions := state.instructions }

def resumeStart (transcript : List Message) (loadedCount : Nat) : Nat :=
 (if (transcript.head?.map Message.role) = some .system then 1 else 0) + loadedCount

def resumeInput (transcript : List Message) : RunInput where
 messages := transcript.drop (resumeStart transcript state.loadedCount)
 threadID := state.threadID
 runID := state.request.runID
 executionID := "approval-" ++ state.request.id ++ "-loop"
 metadata := state.metadata
 outputSchema := state.outputSchema
 scope := state.scope
 resumeStartStep := state.request.step + 1
 resumeSkipInputPhase := true

/-- The agent loop after the batch, whose emitter goes on where the one of the batch is. -/
def continueRun (transcript : List Message) : AgentProg AgentOutcome := do
 flushDiagnostics a state.request.runID
 let sequence ← agentOp .emitterSequence
 agentOp (.resumeEmitter sequence)
 let out ← run (continuationAgent a state) (resumeInput state transcript)
 if out.result.status = .suspended then .ret out
 else do
  persistApprovalRunTerminal a state out
  .ret out

def uncertain (requestID : String) : AgentOutcome := ⟨{}, some (.approval ⟨.uncertain, requestID⟩)⟩

def stale (requestID : String) : AgentOutcome := ⟨{}, some (.approval ⟨.stale, requestID⟩)⟩

def resumeApprovedTool : AgentProg AgentOutcome :=
 match state.calls[state.callIndex]? with
 | none => .ret (uncertain state.request.id)
 | some call => do
  agentOp (.resumeEmitter state.eventSequence)
  emitEvent (approvalEvent .resumed state)
  let ran ← resumeBatch a state call
  match ran with
  | .inr out => .ret out
  | .inl transcript => continueRun a state transcript

def toolApprovalExpired (request : ToolApprovalRequest) (now decidedAt : Time) : Bool :=
 match request.expiresAt with
 | none => false
 | some expiresAt => expiresAt < decidedAt || expiresAt < now

/-- Arguments are compared as decoded values, whose numbers are read by `number`. -/
def toolApprovalMatchesCall (number : String → Option String) (state : ToolApprovalSnapshot) :
  Bool :=
 match state.calls[state.callIndex]? with
 | none => false
 | some call => call.id = state.request.toolCallID && call.toolID = state.request.toolID &&
   JsonCodec.rawJSONEqual number call.arguments state.request.arguments

def rejectToolApproval (kind : ToolApprovalErrorKind) (next : ToolApprovalState) :
  AgentProg AgentOutcome := do
 let committed ← transitionToolApproval a state decision .failed next
  (some (approvalFailureData state .stepFailed (errToolApproval kind).message))
 match committed with
 | .error e => .ret ⟨{}, some (.plain e)⟩
 | .ok () => do
  agentOp (.resumeEmitter state.eventSequence)
  emitEvent (terminalEvent .failed .failed state.request.runID state.request.step
   state.request.stepID (some (⟨kind, decision.requestID⟩ : ToolApprovalError).toErr))
  flushDiagnostics a state.request.runID
  .ret ⟨{ id := decision.runID, status := .failed, messages := state.transcript,
          metadata := state.metadata }, some (.approval ⟨kind, decision.requestID⟩)⟩

def approveTool : AgentProg AgentOutcome := do
 let committed ← transitionToolApproval a state decision .running .executing none
 match committed with
 | .error e => .ret ⟨{}, some (.plain e)⟩
 | .ok () => resumeApprovedTool a state

def applyDecision (decidedAt : Time) : AgentProg AgentOutcome := do
 let now ← clockNow
 if toolApprovalExpired state.request now decidedAt then
  rejectToolApproval a state decision .expired .expired
 else if ¬ decision.approved then rejectToolApproval a state decision .denied .denied
 else approveTool a state decision

def resumeToolApproval (number : String → Option String) (a : Agent)
  (decision : ToolApprovalDecision) : AgentProg AgentOutcome :=
 match decision.decidedAt with
 | none => .ret (stale decision.requestID)
 | some decidedAt =>
  if decision.runID = "" ∨ decision.requestID = "" then .ret (stale decision.requestID)
  else do
   let loaded ← loadToolApproval a decision.runID
   match loaded with
   | .error e => .ret ⟨{}, some (.plain e)⟩
   | .ok (run, state) =>
    if state.request.id ≠ decision.requestID then .ret (stale decision.requestID)
    else if state.state = .executing then .ret (uncertain decision.requestID)
    else if run.status ≠ .suspended ∨ state.state ≠ .pending then .ret (stale decision.requestID)
    else if ¬ toolApprovalMatchesCall number state then .ret (uncertain decision.requestID)
    else applyDecision a state decision decidedAt

end Lebro.AgentApprovals
