import Lebro.AgentEffects

set_option autoImplicit false

namespace Lebro.AgentTools

open EffectProgram RuntimeTypes RuntimeRecords RuntimeEffects AgentEffects

def escapeChar (c : Char) : String :=
 if c = '"' then "\\\""
 else if c = '\\' then "\\\\"
 else if c = '\n' then "\\n"
 else if c = '\r' then "\\r"
 else if c = '\t' then "\\t"
 else c.toString

def jsonString (s : String) : String := quote (String.join (s.toList.map escapeChar))

mutual

def jsonText : Json → String
 | .null => "null"
 | .bool b => if b then "true" else "false"
 | .num literal => literal
 | .str s => jsonString s
 | .arr items => "[" ++ ",".intercalate (itemTexts items) ++ "]"
 | .obj fields => "\x7b" ++ ",".intercalate (fieldTexts fields) ++ "\x7d"

def itemTexts : List Json → List String
 | [] => []
 | v :: vs => jsonText v :: itemTexts vs

def fieldTexts : List (String × Json) → List String
 | [] => []
 | (k, v) :: fs => (jsonString k ++ ":" ++ jsonText v) :: fieldTexts fs

end

/-- A text of a raw message; the spelling of a JSON value is not kept, so it is written compactly.
    -/
def rawText : RawMessage → String
 | .empty => ""
 | .malformed text => text
 | .json v => jsonText v

def ToolExecutionState.text : ToolExecutionState → String
 | .succeeded => "succeeded"
 | .notFound => "not_found"
 | .invalidInput => "invalid_input"
 | .invalidOutput => "invalid_output"
 | .handlerError => "handler_error"
 | .panicked => "panicked"
 | .cancelled => "cancelled"
 | .unauthorized => "unauthorized"

def checkResolution (r : ToolApprovalResolution) : Except Err ToolApprovalResolution :=
 match r.outcome with
 | .other text => .error (.new ("lebro: invalid tool approval outcome " ++ quote text))
 | outcome =>
  if r.ttl < 0 then .error (.new "lebro: tool approval TTL must not be negative")
  else .ok { r with outcome := if outcome = .unset then .allow else outcome }

variable (a : Agent)

def evaluateToolApproval (invocation : ToolApprovalInvocation) :
  AgentProg (Except Err ToolApprovalResolution) :=
 if a.toolApprovalPolicy then do
  let reply ← agentOp (.evaluateToolApproval invocation)
  match reply with
  | .error e => .ret (.error
    (e.wrap ("lebro: evaluate tool approval for " ++ quote invocation.toolID ++ ": ")))
  | .ok resolution => .ret (checkResolution resolution)
 else .ret (.ok { outcome := .allow })

variable (runID : RunID) (id : ToolID) (state : ToolApprovalSnapshot) (step : Nat)

def toolApprovalRequestID (stepID : StepID) (callID : String) : String :=
 runID ++ ":" ++ toString step ++ ":" ++ stepID ++ ":" ++ callID

/-- Compact JSON; text that is not JSON is dropped. -/
def canonicalToolApprovalArguments : RawMessage → RawMessage
 | .json v => .json v
 | _ => .empty

def newToolApprovalRequest (executionID : String) (step : Nat) (stepID : StepID)
  (threadID : ThreadID) (call : ModelToolCall) (resolution : ToolApprovalResolution) :
  AgentProg ToolApprovalRequest := do
 let now ← clockNow
 .ret {
  id := toolApprovalRequestID runID step stepID call.id
  runID := runID
  executionID := executionID
  step := step
  stepID := stepID
  threadID := threadID
  toolCallID := call.id
  toolID := call.toolID
  arguments := canonicalToolApprovalArguments call.arguments
  reason := resolution.reason
  requester := resolution.requester
  metadata := resolution.metadata
  requestedAt := now
  expiresAt := if 0 < resolution.ttl then some (now + resolution.ttl) else none }

def toolApprovalSnapshotID (index revision : Nat) : String :=
 runID ++ "-tool-approval-" ++ toString step ++ "-" ++ toString index ++ "-" ++ toString revision

def latestSequence (runID : RunID) : Nat → Option Nat → Nat → RepoProg (Except Err Nat)
 | 0, _, _ => .ret (.error (.new "lebro: tool approval snapshot sequence exhausted"))
 | n + 1, cursor, latest => do
  let page ← repoOp (.listWorkflowSnapshots runID ⟨cursor, 1000⟩)
  match page with
  | .error e => .ret (.error e)
  | .ok page =>
   let latest := page.records.foldl (fun latest v => max latest v.sequence) latest
   match page.nextCursor with
   | none => .ret (.ok latest)
   | some next => latestSequence runID n (some next) latest

variable (now : Time)

def saveApprovalSnapshot : RepoProg (Except Err Unit) := do
 let latest ← latestSequence state.request.runID a.pages none 0
 match latest with
 | .error e => .ret (.error e)
 | .ok latest => repoOp (.saveWorkflowSnapshot {
   id := toolApprovalSnapshotID state.request.runID state.request.step state.callIndex
    state.revision
   runID := state.request.runID
   sequence := latest + 1
   schemaVersion := 1
   state := .toolApproval state
   createdAt := now })

def suspendedRunRecord : WorkflowRunRecord where
 id := state.request.runID
 workflowID := a.id
 threadID := state.threadID
 scope := state.scope
 status := .suspended
 currentStep := state.request.step
 currentStepID := state.request.stepID
 metadata := state.metadata
 startedAt := state.request.requestedAt
 updatedAt := now

def saveSuspended : RepoProg (Except Err Unit) := do
 let saved ← repoOp (.saveWorkflowRun (suspendedRunRecord a state now))
 match saved with
 | .error e => .ret (.error e)
 | .ok () => saveApprovalSnapshot a state now

def suspendRun : RepoProg (Except Err Unit) := do
 let existing ← repoOp (.getWorkflowRun state.request.runID)
 match existing with
 | .ok run =>
  if run.workflowID ≠ a.id ∨ run.status ≠ .running then
   .ret (.error (.new ("lebro: tool approval run " ++ quote state.request.runID ++
    " already exists")))
  else saveSuspended a state now
 | .error e => if e.is .notFound then saveSuspended a state now else .ret (.error e)

def errCapability (capability feature : String) : Err :=
 .new ("lebro: storage adapter does not support capability " ++ quote capability ++
  " required by " ++ feature ++ ": the attached storage adapter does not advertise it")

def errApprovalStore : Err := .new "lebro: durable tool approval requires a store"

/-- Arguments as they are read back: absent ones are encoded as null. -/
def storedArguments : RawMessage → RawMessage
 | .empty => .json .null
 | raw => raw

def storedCall (call : ModelToolCall) : ModelToolCall :=
 { call with arguments := storedArguments call.arguments }

def approvalStorable : Bool :=
 state.calls.all (fun call => call.arguments.storable) && state.request.arguments.storable &&
  state.transcript.all fun m => m.structuredOutput.storable && m.reasoning.details.storable

def encodeApproval : Except Err ToolApprovalSnapshot :=
 if approvalStorable state then
  .ok { state with
   calls := state.calls.map storedCall
   request := { state.request with arguments := storedArguments state.request.arguments } }
 else .error JsonCodec.errMarshal

lemma encodeApproval_eq_ok {state encoded} (h : encodeApproval state = .ok encoded) :
  encoded = { state with
   calls := state.calls.map storedCall
   request := { state.request with arguments := storedArguments state.request.arguments } } := by
 unfold encodeApproval at h
 split at h
 · exact (Except.ok.inj h).symm
 · cases h

/-- The number that the suspended event will get; an agent with a store has its journal as a
listener. -/
def pendingToolApprovalSuspendSequence (sequence : Nat) : Nat := sequence + 1

def persistToolApproval : AgentProg (Except Err Unit) :=
 match a.store with
 | none => .ret (.error errApprovalStore)
 | some caps =>
  if ¬ caps.workflowState then
   .ret (.error (errCapability "workflow_state" "durable tool approval"))
  else
   match encodeApproval { state with state := .pending } with
   | .error e => .ret (.error (e.wrap "lebro: encode tool approval snapshot: "))
   | .ok state => do
    let now ← clockNow
    agentOp (.runtime (.transaction (suspendRun a state now)))

def snapshotInstructions : List Message → String
 | [] => ""
 | m :: _ => if m.role = .system then m.content else ""

def failedToolExecution (state : ToolExecutionState) (err : Err) : ToolExecutionResult where
 toolID := id
 state := state
 err := some (err.wrap
  ("lebro: tool " ++ quote id ++ " execution " ++ ToolExecutionState.text state ++ ": "))

def errToolNotFound : Err := .new "lebro: tool not found"

def unlessCancelled (next : AgentProg ToolExecutionResult) : AgentProg ToolExecutionResult := do
 let ended ← runCtxErr
 match ended with
 | some e => .ret (failedToolExecution id .cancelled e)
 | none => next

def handlerResult (tool : RegisteredTool) (id : ToolID) :
  HandlerReply → AgentProg ToolExecutionResult
 | .panic value => .ret (failedToolExecution id .panicked
   (.new ("lebro: tool handler panicked: " ++ value)))
 | .error e =>
  if e.is .canceled ∨ e.is .deadlineExceeded then .ret (failedToolExecution id .cancelled e)
  else .ret (failedToolExecution id .handlerError e)
 | .output value => unlessCancelled id <|
   match tool.validateOutput value with
   | some e => .ret (failedToolExecution id .invalidOutput e)
   | none => .ret { toolID := id, state := .succeeded, output := value }

def executeTool (tool : RegisteredTool) (invocation : ToolInvocation) :
  AgentProg ToolExecutionResult :=
 let id := invocation.toolID
 unlessCancelled id <| unlessCancelled id <|
  match tool.validateInput invocation.arguments with
  | some e => .ret (failedToolExecution id .invalidInput e)
  | none => do
   let reply ← agentOp (.tool invocation)
   unlessCancelled id (handlerResult tool id reply)

def setKey (m : StringMap) (key value : String) : StringMap :=
 (key, value) :: m.filter fun kv => kv.1 ≠ key

def toolMetadata (metadata : StringMap) (runID : RunID) (step : Nat) (callID : String) :
  StringMap :=
 setKey (setKey (setKey metadata "run_id" runID) "step" (toString step)) "tool_call_id" callID

def authorizeTool : AgentProg (Option Err) :=
 if a.policy then agentOp (.runtime (.authorize .toolCall id)) else .ret none

def executeToolCall (stepID : StepID) (threadID : ThreadID) (call : ModelToolCall)
  (metadata : StringMap) : AgentProg ToolExecutionResult :=
 match a.registry with
 | none => .ret (failedToolExecution call.toolID .notFound (errToolNotFound.wrap
   ("lebro: tool " ++ quote call.toolID ++ " is not registered: ")))
 | some registry =>
  if call.toolID ∉ a.tools then
   .ret (failedToolExecution call.toolID .notFound (errToolNotFound.wrap
    ("lebro: tool " ++ quote call.toolID ++ " is not allowed for this agent: ")))
  else do
   let denial ← authorizeTool a call.toolID
   match denial with
   | some e => .ret (failedToolExecution call.toolID .unauthorized e)
   | none =>
    match registry call.toolID with
    | none => .ret (failedToolExecution call.toolID .notFound errToolNotFound)
    | some tool => executeTool tool {
      runID := runID
      step := step
      stepID := stepID
      threadID := threadID
      callID := call.id
      toolID := call.toolID
      arguments := call.arguments
      metadata := toolMetadata metadata runID step call.id }

def toolResultMessage (callID : String) (result : ToolExecutionResult) : Message where
 role := .tool
 toolCallID := callID
 content :=
  if result.state = .succeeded then rawText result.output
  else jsonText (.obj [("error", .str ((result.err.map Err.message).getD "")),
   ("state", .str (ToolExecutionState.text result.state)), ("tool_id", .str result.toolID)])

def toolExecutionAgentError (result : ToolExecutionResult) : AgentError where
 kind := match result.state with
  | .notFound => .unknownTool
  | .invalidInput => .invalidToolArguments
  | .invalidOutput => .invalidToolOutput
  | .cancelled => .cancelled
  | .unauthorized => .unauthorized
  | _ => .toolFailure
 step := step
 err := result.err.getD (.new "")

end Lebro.AgentTools
