import Lebro.AgentTools
import Lebro.WorkflowRuns

set_option autoImplicit false

namespace Lebro.AgentLoop

open EffectProgram RuntimeTypes RuntimeRecords StoreRecords AgentEffects AgentTools

def normalizeProcessorError (phase : ProcessorPhase) (name : String) (e : Err) : Err :=
 if e.is .processorError then e
 else
  let cancelled := e.is .canceled || e.is .deadlineExceeded
  { e with
    message := "lebro: processor " ++ (if name = "" then "unnamed" else name) ++ " " ++
     (if cancelled then "cancelled" else "failed") ++ " at " ++ phase.text ++ ": " ++ e.message
    matching := .processorError ::
     (if cancelled then .processorCancelled :: e.matching else e.matching) }

def errInvalidDecision (text : String) : Err :=
 .new ("lebro: processor invalid decision: " ++ quote text)

def errProcessorBlocked : Err := .new "lebro: processor blocked run"

def processorCancelled (e : Err) : Bool :=
 e.is .processorCancelled || e.is .canceled || e.is .deadlineExceeded

def reconcileStreamDeltaParts (before after : StreamDelta) : StreamDelta :=
 if after.parts.isEmpty ∨ ¬ partsEq before.parts after.parts then after
 else if after.text = before.text ∧ reasoningEq after.reasoning before.reasoning then after
 else { after with parts := [] }
where
 rawEq (a b : RawMessage) : Bool := rawText a = rawText b
 partsEq (a b : List StreamContentPart) : Bool :=
  a.map (fun p => (p.text, rawText p.reasoningDetails)) =
   b.map (fun p => (p.text, rawText p.reasoningDetails)) && a.map (·.kind) = b.map (·.kind)
 reasoningEq (a b : ModelReasoning) : Bool := a.text = b.text && rawEq a.details b.details

def transformed : (phase : ProcessorPhase) → PhaseValue phase → PhaseValue phase → PhaseValue phase
 | .streamDelta, before, after => reconcileStreamDeltaParts before after
 | .input, _, after | .modelRequest, _, after | .modelResponse, _, after | .output, _, after =>
  after

/-- The working-memory processor: recalled facts become a system message before the input, and
facts are extracted from a successful result. -/
def memoryProcess : (phase : ProcessorPhase) → PhaseValue phase →
  AgentProg (Option (ProcessorReply (PhaseValue phase)))
 | .input, input => do
  let recalled ← agentOp (.recall input)
  match recalled with
  | .error e => .ret (some (.error e))
  | .ok content =>
   if content = "" then .ret (some (.decided .unset input))
   else .ret (some (.decided .transform { input with
    messages := { role := .system, content := content } :: input.messages
    memoryRecalled := true }))
 | .output, result =>
  if result.status ≠ .succeeded then .ret (some (.decided .unset result))
  else do
   let extracted ← agentOp (.extract result)
   match extracted with
   | .error e => .ret (some (.error e))
   | .ok () => .ret (some (.decided .unset result))
 | .modelRequest, _ | .modelResponse, _ | .streamDelta, _ => .ret none

/-- `processOne`; a processor that does not implement the phase is not invoked. -/
def processOne (p : Processor) (phase : ProcessorPhase) (value : PhaseValue phase) :
  AgentProg (Option (ProcessorReply (PhaseValue phase))) :=
 if p.memory then memoryProcess phase value
 else if phase ∈ p.phases then do
  let reply ← agentOp (.process phase p.name value)
  .ret (some reply)
 else .ret none

def processorEvent (runID : RunID) (step : Nat) (stepID : StepID) : RunEvent :=
 { type := .processor, runID := runID, step := step, stepID := stepID }

def process (runID : RunID) (step : Nat) (stepID : StepID) (phase : ProcessorPhase) :
  List Processor → PhaseValue phase → AgentProg (Except Err (PhaseValue phase))
 | [], value => .ret (.ok value)
 | p :: ps, value => do
  let reply ← processOne p phase value
  match reply with
  | none => process runID step stepID phase ps value
  | some (.error e) => do
   emitEvent (processorEvent runID step stepID)
   .ret (.error (normalizeProcessorError phase p.name e))
  | some (.decided decision next) => do
   emitEvent (processorEvent runID step stepID)
   match decision with
   | .other text => .ret (.error (normalizeProcessorError phase p.name (errInvalidDecision text)))
   | .block => .ret (.error (normalizeProcessorError phase p.name errProcessorBlocked))
   | .transform => process runID step stepID phase ps (transformed phase value next)
   | .unset | .allow => process runID step stepID phase ps value

structure RunConfig where
 instructions : String
 model : Option ModelRef
 router : Option RouterID
 modelName : String

def resolverAgentError (action : String) (e : Err) : AgentError :=
 ⟨.resolver, 0, e.wrap ("lebro: " ++ action ++ ": ")⟩

def systemMessage (content : String) : Message := { role := .system, content := content }

def resolveInstructions (a : Agent) (input : RunInput) : AgentProg (Except AgentError String) :=
 if a.instructionsResolver then do
  let resolved ← agentOp (.resolveInstructions input)
  match resolved with
  | .error e => .ret (.error (resolverAgentError "resolve instructions" e))
  | .ok instructions =>
   match (systemMessage instructions).validate with
   | some e => .ret (.error (resolverAgentError "resolve instructions" e))
   | none => .ret (.ok instructions)
 else .ret (.ok a.instructions)

def resolveModel (a : Agent) (input : RunInput) : AgentProg (Except AgentError ModelSelection) :=
 if a.modelResolver then do
  let resolved ← agentOp (.resolveModel input)
  match resolved with
  | .error e => .ret (.error (resolverAgentError "resolve model" e))
  | .ok selection =>
   match selection.validate with
   | some e => .ret (.error (resolverAgentError "resolve model" e))
   | none => .ret (.ok selection)
 else .ret (.ok ⟨a.model, a.router, a.modelName⟩)

def resolveRunConfig (a : Agent) (input : RunInput) : AgentProg (Except AgentError RunConfig) := do
 let instructions ← resolveInstructions a input
 match instructions with
 | .error e => .ret (.error e)
 | .ok instructions => do
  let selection ← resolveModel a input
  match selection with
  | .error e => .ret (.error e)
  | .ok s => .ret (.ok ⟨instructions, s.model, s.router, s.modelName⟩)

def RunConfig.modelForSummary (c : RunConfig) : Option ModelTarget :=
 match c.model with
 | some m => some (.model m)
 | none => c.router.map .router

def RunConfig.streamingModel (c : RunConfig) : Option ModelTarget :=
 match c.router with
 | some r => some (.router r)
 | none => c.model.bind fun m => if m.streams then some (.model m) else none

def ContextCompactor.forRun (c : Option ContextCompactor) (model : Option ModelTarget) :
  Except Err (Option ContextCompactor) :=
 match c with
 | none => .ok none
 | some c =>
  if ¬ c.enabled ∨ c.summarizer.isSome then .ok (some c)
  else
   match model with
   | none => .error (.new "lebro: context compaction summarizer is required")
   | some target => .ok (some { c with summarizer := some target })

structure RunFrame where
 runID : RunID
 executionID : String
 input : RunInput
 config : RunConfig
 compactor : Option ContextCompactor
 priorMessages : List MessageRecord
 toolDefinitions : List ToolID
 outputSchema : Option RawMessage
 compiledOutput : Option CompiledSchema

def RunFrame.transcript (f : RunFrame) : List Message :=
 if f.config.instructions ≠ "" then systemMessage f.config.instructions :: f.input.messages
 else f.input.messages

variable (a : Agent) (f : RunFrame) (step : Nat) (stepID : StepID) (transcript : List Message)

def RunFrame.metadata : StringMap := f.input.metadata

def RunFrame.loadedCount : Nat := f.priorMessages.length

def loadPriorMessages (threadID : ThreadID) : AgentProg (Except Err (List MessageRecord)) :=
 match a.store with
 | none => .ret (.ok [])
 | some caps =>
  if threadID = "" then .ret (.ok [])
  else if ¬ caps.transcript then .ret (.error (errCapability "transcript" "thread persistence"))
  else do
   let page ← agentOp (.listMessages threadID)
   match page with
   | .error e =>
    if e.is .notFound then .ret (.ok [])
    else .ret (.error (e.wrap "lebro: load thread messages: "))
   | .ok records => .ret (.ok records)

def checkMessages : Nat → List Message → Option AgentError
 | _, [] => none
 | i, m :: ms =>
  match m.validate with
  | some e => some ⟨.providerFailure, 0, e.wrap ("lebro: run input message " ++ toString i ++ ": ")⟩
  | none => checkMessages (i + 1) ms

def buildInitialTranscript (messages : List Message) (instructions : String) :
  Except AgentError (List Message) :=
 match checkMessages 0 messages with
 | some e => .error e
 | none => .ok (if instructions ≠ "" then systemMessage instructions :: messages else messages)

def errUnknownTool : Err := .new "lebro: agent unknown tool"

def checkTools (registry : ToolID → Option RegisteredTool) :
  List ToolID → List ToolID → Option AgentError
 | _, [] => none
 | seen, id :: ids =>
  if id ∈ seen then some ⟨.unknownTool, 0, errUnknownTool.wrap
   ("lebro: agent definition lists duplicate tool ID " ++ quote id ++ ": ")⟩
  else if (registry id).isNone then some ⟨.unknownTool, 0, errUnknownTool.wrap
   ("lebro: agent tool " ++ quote id ++ " is not registered: ")⟩
  else checkTools registry (id :: seen) ids

def resolveToolDefinitions : Except AgentError (List ToolID) :=
 if a.tools.isEmpty then .ok []
 else
  match a.registry with
  | none => .error ⟨.unknownTool, 0, errUnknownTool⟩
  | some registry =>
   match checkTools registry [] a.tools with
   | some e => .error e
   | none => .ok a.tools

def schemaError (message : String) : AgentError := ⟨.invalidStructuredOutput, 0, .new message⟩

def resolveOutputSchema (input : RunInput) :
  Except AgentError (Option RawMessage × Option CompiledSchema) :=
 match input.outputSchema with
 | none => .ok (a.outputSchema, a.compiledOutput)
 | some schema =>
  if schema.isEmpty then .error (schemaError "lebro: run output schema must not be empty")
  else if ¬ schema.storable then .error (schemaError "lebro: run output schema must be valid JSON")
  else
   match a.schemaCompiler with
   | none => .error (schemaError
     "lebro: agent schema compiler is required when run output schema is set")
   | some compile =>
    match compile schema with
    | .error e => .error ⟨.invalidStructuredOutput, 0, e.wrap "lebro: compile run output schema: "⟩
    | .ok compiled => .ok (some schema, some compiled)

def terminalEvent (type : RunEventType) (status : RunStatus) (runID : RunID) (step : Nat)
  (stepID : StepID) (err : Option Err) : RunEvent :=
 { type := type, runID := runID, step := step, stepID := stepID, status := status, err := err }

def cancelledError (e : Err) : AgentError := ⟨.cancelled, step, preferContextError e (some e)⟩

def processorAgentError (e : Err) : AgentError := ⟨.processor, step, e⟩

/-- A run that ends before its loop, as `Run` reports it. -/
def failSetup (runID : RunID) (messages : List Message) (metadata : StringMap)
  (failure : AgentFailure) : AgentProg (Except AgentOutcome RunFrame) := do
 emitEvent (terminalEvent .failed .failed runID 0 "" (some failure.toErr))
 .ret (.error ⟨{ id := runID, status := .failed, messages := messages, metadata := metadata },
  some failure⟩)

def cancelSetup (runID : RunID) (metadata : StringMap) (e : Err) :
  AgentProg (Except AgentOutcome RunFrame) := do
 emitEvent (terminalEvent .cancelled .cancelled runID 0 "" (some e))
 .ret (.error ⟨{ id := runID, status := .cancelled, metadata := metadata },
  some (.agent (cancelledError 0 e))⟩)

def failInput (runID : RunID) (input : RunInput) (failure : AgentFailure) :
  AgentProg (Except AgentOutcome RunFrame) :=
 failSetup runID input.messages input.metadata failure

/-- The last part of the setup: everything that is computed from the input and the loaded
messages. -/
def assembleRun (runID : RunID) (executionID : String) (input : RunInput) (config : RunConfig)
  (compactor : Option ContextCompactor) (prior : List MessageRecord) :
  AgentProg (Except AgentOutcome RunFrame) :=
 let input := { input with messages := prior.map MessageRecord.message ++ input.messages }
 match buildInitialTranscript input.messages config.instructions with
 | .error e => failInput runID input (.agent e)
 | .ok _ =>
  match resolveToolDefinitions a with
  | .error e => failInput runID input (.agent e)
  | .ok toolDefinitions =>
   match resolveOutputSchema a input with
   | .error e => failInput runID input (.agent e)
   | .ok schemas => .ret (.ok {
     runID := runID
     executionID := executionID
     input := input
     config := config
     compactor := compactor
     priorMessages := prior
     toolDefinitions := toolDefinitions
     outputSchema := schemas.1
     compiledOutput := schemas.2 })

def resolveRun (runID : RunID) (executionID : String) (input : RunInput) :
  AgentProg (Except AgentOutcome RunFrame) := do
 let config ← resolveRunConfig a input
 match config with
 | .error e => failInput runID input (.agent e)
 | .ok config =>
  match ContextCompactor.forRun a.contextCompactor config.modelForSummary with
  | .error e => failInput runID input (.plain e)
  | .ok compactor => do
   let prior ← loadPriorMessages a input.threadID
   match prior with
   | .error e => failInput runID input (.plain e)
   | .ok prior => assembleRun a runID executionID input config compactor prior

def authorizeRun : AgentProg (Option Err) :=
 if a.policy then agentOp (.runtime (.authorize .agentRun a.id)) else .ret none

def emitStarted (runID : RunID) (input : RunInput) : AgentProg Unit :=
 if input.resumeSkipInputPhase then .ret ()
 else emitEvent { type := .started, runID := runID, step := 0, stepID := "" }

def startRun (runID : RunID) (input : RunInput) : AgentProg (Except AgentOutcome RunFrame) := do
 emitStarted runID input
 let denial ← authorizeRun a
 match denial with
 | some e => failSetup runID [] input.metadata (.agent ⟨.unauthorized, 0, e⟩)
 | none =>
  if input.resumeSkipInputPhase then resolveRun a runID input.executionID input
  else do
   let processed ← process runID 0 "" .input a.processors input
   match processed with
   | .error e =>
    if processorCancelled e then cancelSetup runID input.metadata e
    else failInput runID input (.agent (processorAgentError 0 e))
   | .ok processed => resolveRun a runID input.executionID processed

def newRunID (supplied : RunID) : AgentProg RunID :=
 if supplied ≠ "" then .ret supplied else agentOp (.runtime .newRunID)

def flushDiagnostics (runID : RunID) : AgentProg Unit :=
 if a.store.isSome then agentOp (.flushDiagnostics runID) else .ret ()

def endCancelled (cause : Err) : AgentProg AgentOutcome := do
 emitEvent (terminalEvent .cancelled .cancelled f.runID step stepID (some cause))
 .ret ⟨{ id := f.runID, status := .cancelled, messages := transcript, metadata := f.metadata },
  some (.agent (cancelledError step cause))⟩

def endFailedWith (reported : Err) (e : AgentError) : AgentProg AgentOutcome := do
 emitEvent (terminalEvent .failed .failed f.runID step stepID (some reported))
 .ret ⟨{ id := f.runID, status := .failed, messages := transcript, metadata := f.metadata },
  some (.agent e)⟩

def endFailed (e : AgentError) : AgentProg AgentOutcome :=
 endFailedWith f step stepID transcript e.toErr e

def endProcessor (e : Err) : AgentProg AgentOutcome :=
 if processorCancelled e then endCancelled f step stepID transcript e
 else endFailed f step stepID transcript (processorAgentError step e)

def modelEvent (type : RunEventType) (f : RunFrame) (step : Nat) (stepID : StepID)
  (err : Option Err) : RunEvent :=
 { type := type, runID := f.runID, step := step, stepID := stepID, err := err }

def toolEvent (type : RunEventType) (runID : RunID) (step : Nat) (stepID : StepID)
  (call : ModelToolCall) (err : Option Err) : RunEvent :=
 { type := type, runID := runID, step := step, stepID := stepID, toolCallID := call.id,
   toolID := call.toolID, err := err }

def suspendAgentToolApproval (calls : List ModelToolCall) (callIndex : Nat) (call : ModelToolCall)
  (resolution : ToolApprovalResolution) : AgentProg (Except Err ToolApprovalRequest) := do
 let request ← newToolApprovalRequest f.runID f.executionID step stepID f.input.threadID call
  resolution
 let sequence ← agentOp .emitterSequence
 let persisted ← persistToolApproval a {
  agentID := a.id
  request := request
  decision := none
  state := .pending
  transcript := transcript
  calls := calls
  callIndex := callIndex
  revision := 0
  metadata := f.metadata
  threadID := f.input.threadID
  scope := f.input.scope
  instructions := snapshotInstructions transcript
  outputSchema := f.input.outputSchema
  loadedCount := f.loadedCount
  eventSequence := pendingToolApprovalSuspendSequence sequence }
 match persisted with
 | .error e => .ret (.error e)
 | .ok () => do
  emitEvent (modelEvent .suspended f step stepID none)
  .ret (.ok request)

def runTool (call : ModelToolCall) : AgentProg (List Message ⊕ AgentOutcome) := do
 emitEvent (toolEvent .toolStarted f.runID step stepID call none)
 let result ← executeToolCall a f.runID step stepID f.input.threadID call f.metadata
 emitEvent (toolEvent .toolFinished f.runID step stepID call result.err)
 let transcript := transcript ++ [toolResultMessage call.id result]
 match result.state with
 | .succeeded => .ret (.inl transcript)
 | .cancelled => do
  let out ← endCancelled f step stepID transcript (result.err.getD (.new ""))
  .ret (.inr out)
 | _ => do
  let out ← endFailed f step stepID transcript (toolExecutionAgentError step result)
  .ret (.inr out)

def toolApprovalInvocation (call : ModelToolCall) : ToolApprovalInvocation where
 runID := f.runID
 executionID := f.executionID
 step := step
 stepID := stepID
 threadID := f.input.threadID
 toolCallID := call.id
 toolID := call.toolID
 arguments := call.arguments
 metadata := f.metadata

def resolveTool (calls : List ModelToolCall) (callIndex : Nat) (transcript : List Message)
  (call : ModelToolCall) : AgentProg (List Message ⊕ AgentOutcome) := do
 let resolution ← evaluateToolApproval a (toolApprovalInvocation f step stepID call)
 match resolution with
 | .error e => do
  let out ← endFailed f step stepID transcript ⟨.toolFailure, step, e⟩
  .ret (.inr out)
 | .ok resolution =>
  match resolution.outcome with
  | .deny => do
   let denied : ToolApprovalError := ⟨.denied, toolApprovalRequestID f.runID step stepID call.id⟩
   let out ← endFailed f step stepID transcript ⟨.toolFailure, step, denied.toErr⟩
   .ret (.inr out)
  | .require => do
   let suspended ← suspendAgentToolApproval a f step stepID transcript calls callIndex call
    resolution
   match suspended with
   | .error e => do
    let out ← endFailed f step stepID transcript ⟨.providerFailure, step, e⟩
    .ret (.inr out)
   | .ok request => .ret (.inr ⟨{
     id := f.runID
     status := .suspended
     messages := transcript
     metadata := f.metadata
     toolApproval := some request }, none⟩)
  | _ => runTool a f step stepID transcript call

def runToolCall (calls : List ModelToolCall) (callIndex : Nat) (transcript : List Message)
  (call : ModelToolCall) : AgentProg (List Message ⊕ AgentOutcome) := do
 let ended ← runCtxErr
 match ended with
 | some e => do
  let out ← endCancelled f step stepID transcript e
  .ret (.inr out)
 | none => do
  emitEvent (toolEvent .toolRequested f.runID step stepID call none)
  resolveTool a f step stepID calls callIndex transcript call

/-- The calls of one response from `callIndex` on. -/
def runToolCalls (a : Agent) (f : RunFrame) (step : Nat) (stepID : StepID)
  (calls : List ModelToolCall) :
  Nat → List ModelToolCall → List Message → AgentProg (List Message ⊕ AgentOutcome)
 | _, [], transcript => .ret (.inl transcript)
 | callIndex, call :: rest, transcript => do
  let ran ← runToolCall a f step stepID calls callIndex transcript call
  match ran with
  | .inr out => .ret (.inr out)
  | .inl transcript => runToolCalls a f step stepID calls (callIndex + 1) rest transcript

def newMessageRecords (threadID : ThreadID) (runID : RunID) (transcript : List Message)
  (loadedCount : Nat) (memoryRecalled : Bool) (now : Time) : List MessageRecord :=
 let start := (if a.instructions ≠ "" then 1 else 0) + loadedCount
 (transcript.drop start).zipIdx.filterMap fun (message, i) =>
  if memoryRecalled ∧ i = 0 then none
  else some {
   id := runID ++ "-msg-" ++ toString (i + 1)
   threadID := threadID
   message := message
   createdAt := now }

def appendNew (records : List MessageRecord) : Prog TranscriptSig (Except Err Unit) :=
 if records.isEmpty then .ret (.ok ()) else transcriptOp (.appendMessages records)

def appendRecords (records : List MessageRecord) (runID : RunID) :
  Prog TranscriptSig (Except Err Unit) := do
 let appended ← appendNew records
 match appended with
 | .error e => .ret (.error e)
 | .ok () => transcriptOp (.writeObservability runID)

def recordRun (threadID : ThreadID) (runID : RunID) (records : List MessageRecord) (now : Time) :
  Prog TranscriptSig (Except Err Unit) :=
 if threadID = "" then transcriptOp (.writeObservability runID)
 else do
  let thread ← transcriptOp (.getThread threadID)
  match thread with
  | .ok _ => appendRecords records runID
  | .error e =>
   if e.is .notFound then do
    let scope ← transcriptOp .contextScope
    let created ← transcriptOp (.createThread
     { id := threadID, scope := scope, createdAt := now, updatedAt := now })
    match created with
    | .error e => .ret (.error (e.wrap "lebro: create thread for persist: "))
    | .ok () => appendRecords records runID
   else .ret (.error (e.wrap "lebro: check thread for persist: "))

/-- At most `n` more attempts; only conflicts are retried. -/
def recordAttempts (body : Prog TranscriptSig (Except Err Unit)) :
  Nat → Except Err Unit → AgentProg (Except Err Unit)
 | 0, last => .ret last
 | n + 1, _ => do
  let recorded ← agentOp (.transcript body)
  match recorded with
  | .ok () => .ret (.ok ())
  | .error e => if e.is .conflict then recordAttempts body n (.error e) else .ret (.error e)

def persistRunRecords : AgentProg (Except Err Unit) :=
 match a.store with
 | none => .ret (.ok ())
 | some caps =>
  if f.input.threadID ≠ "" ∧ ¬ caps.transcript then
   .ret (.error (errCapability "transcript" "thread persistence"))
  else do
   let created ← clockNow
   let now ← clockNow
   let records := newMessageRecords a f.input.threadID f.runID transcript f.loadedCount
    f.input.memoryRecalled created
   recordAttempts (recordRun f.input.threadID f.runID records now) 3 (.ok ())

def validateStructuredOutput (compiled : Option CompiledSchema) (response : ModelResponse) :
  Option Err :=
 match compiled with
 | none => none
 | some validate =>
  if response.message.structuredOutput.isEmpty then
   some (.new "lebro: structured output is missing")
  else validate response.message.structuredOutput

def finishRun (response : ModelResponse) : AgentProg AgentOutcome :=
 match validateStructuredOutput f.compiledOutput response with
 | some e => endFailed f step stepID transcript ⟨.invalidStructuredOutput, step, e⟩
 | none => do
  let processed ← process f.runID step stepID .output a.processors
   { id := f.runID, status := .succeeded, messages := transcript, metadata := f.metadata }
  match processed with
  | .error e => endProcessor f step stepID transcript e
  | .ok result => do
   let persisted ← persistRunRecords a f result.messages
   match persisted with
   | .error e => endFailed f step stepID result.messages ⟨.providerFailure, step, e⟩
   | .ok () => do
    emitEvent (terminalEvent .succeeded .succeeded f.runID step stepID none)
    .ret ⟨result, none⟩

def invalidResponse (response : ModelResponse) (e : Err) : Err × AgentError :=
 if f.compiledOutput.isSome ∧ response.finishReason ≠ .toolCalls ∧
   e.is .structuredOutputInvalidJSON then
  let failure : AgentError :=
   ⟨.invalidStructuredOutput, step, .new "lebro: structured output must be valid JSON"⟩
  (failure.toErr, failure)
 else (malformedResponse e, ⟨.providerFailure, step, malformedResponse e⟩)

def handleResponse (response : ModelResponse) : AgentProg (List Message ⊕ AgentOutcome) := do
 let processed ← process f.runID step stepID .modelResponse a.processors response
 match processed with
 | .error e => do
  let out ← endProcessor f step stepID transcript e
  .ret (.inr out)
 | .ok response =>
  match ModelResponse.validate response with
  | some e => do
   let (reported, failure) := invalidResponse f step response e
   emitEvent (modelEvent .modelFinished f step stepID (some reported))
   let out ← endFailedWith f step stepID transcript reported failure
   .ret (.inr out)
  | none => do
   emitEvent (modelEvent .modelFinished f step stepID none)
   let transcript := transcript ++ [response.message]
   if response.finishReason = .toolCalls then
    runToolCalls a f step stepID response.message.toolCalls 0 response.message.toolCalls
     transcript
   else do
    let out ← finishRun a f step stepID transcript response
    .ret (.inr out)

def modelRequest : ModelRequest where
 model := f.config.modelName
 messages := transcript
 tools := f.toolDefinitions
 outputSchema := f.outputSchema

def compact (request : ModelRequest) : AgentProg (Except Err ModelRequest) :=
 match f.compactor with
 | none => .ret (.ok request)
 | some c =>
  if f.input.threadID = "" then .ret (.ok request)
  else
   match c.enabled, c.summarizer with
   | true, some target => agentOp (.compact target f.input.threadID f.priorMessages request)
   | true, none => crash
   | false, _ => do
    emitEvent (modelEvent .contextCompactionSkipped f step stepID none)
    .ret (.ok request)

def prepareRequest : AgentProg (ModelRequest ⊕ AgentOutcome) := do
 let processed ← process f.runID step stepID .modelRequest a.processors
  (modelRequest f transcript)
 match processed with
 | .error e => do
  let out ← endProcessor f step stepID transcript e
  .ret (.inr out)
 | .ok request => do
  let compacted ← compact f step stepID request
  match compacted with
  | .error e => do
   let out ← endFailed f step stepID transcript ⟨.processor, step, e⟩
   .ret (.inr out)
  | .ok request => .ret (.inl request)

def generateModel (c : RunConfig) (request : ModelRequest) : AgentProg (Except Err ModelResponse) :=
 match c.router, c.model with
 | some r, _ => agentOp (.generate (.router r) request)
 | none, some m => agentOp (.generate (.model m) request)
 | none, none => crash

def isModelTimeout (e : Err) : Bool := e.is .modelTimeout

def modelAgentError (e : Err) : AgentError :=
 ⟨if isModelTimeout e then .timeout else .providerFailure, step, e⟩

def endModel (e : Err) : AgentProg AgentOutcome := do
 let ended ← runCtxErr
 if ended.isSome ∨ ¬ isModelTimeout e ∧ (e.is .canceled ∨ e.is .deadlineExceeded) then do
  let cause := preferContextError e ended
  emitEvent (modelEvent .modelFinished f step stepID (some cause))
  endCancelled f step stepID transcript cause
 else do
  emitEvent (modelEvent .modelFinished f step stepID (some e))
  endFailedWith f step stepID transcript e (modelAgentError step e)

def endStream (e : Err) : AgentProg AgentOutcome := do
 let ended ← runCtxErr
 if processorCancelled e ∨ ended.isSome then do
  let cause := preferContextError e ended
  emitEvent (modelEvent .modelFinished f step stepID (some cause))
  endCancelled f step stepID transcript cause
 else do
  let failure := if e.is .processorError then processorAgentError step e else modelAgentError step e
  emitEvent (modelEvent .modelFinished f step stepID (some failure.toErr))
  endFailed f step stepID transcript failure

/-- A failed stream: its error, and the message it delivered before. -/
structure StreamFailure where
 err : Err
 partialMessage : Option Message := none

def hasPartialStreamResponse (m : Message) : Bool :=
 m.content ≠ "" || !m.reasoning.isZero || !m.toolCalls.isEmpty || !m.structuredOutput.isEmpty

def failWith (m : Message) (e : Err) : StreamFailure :=
 ⟨e, if hasPartialStreamResponse m then some m else none⟩

def deltaEvent : RunEvent := { type := .delta, runID := f.runID, step := step, stepID := stepID }

/-- Emit a delta and hand it to the caller; the context may end first. -/
def deliver (delta : StreamDelta) : AgentProg Bool := do
 emitEvent (deltaEvent f step stepID)
 agentOp (.sendDelta delta)

/-- The tool calls of a complete response, one delta each. A processor that takes the call out of
its delta makes the runtime panic. -/
def deliverCalls (a : Agent) (f : RunFrame) (step : Nat) (stepID : StepID) :
  List ModelToolCall → AgentProg (Except Err (List ModelToolCall))
 | [] => .ret (.ok [])
 | call :: calls => do
  let processed ← process f.runID step stepID .streamDelta a.processors
   { toolCall := some call }
  match processed with
  | .error e => .ret (.error e)
  | .ok delta =>
   match delta.validate with
   | some e => .ret (.error (malformedResponse e))
   | none => do
    let sent ← deliver f step stepID delta
    match sent, delta.toolCall with
    | false, _ => .ret (.error errCanceled)
    | true, none => crash
    | true, some call => do
     let rest ← deliverCalls a f step stepID calls
     match rest with
     | .error e => .ret (.error e)
     | .ok calls => .ret (.ok (call :: calls))

def terminalDelta (r : ModelResponse) : StreamDelta where
 text := r.message.content
 reasoning := r.message.reasoning
 structuredOutput := r.message.structuredOutput
 finishReason := r.finishReason
 invalid := r.invalid

def completeTerminal (d : StreamDelta) : StreamDelta :=
 if d.text = "" ∧ d.reasoning.isZero ∧ d.toolCall.isNone ∧ d.structuredOutput.isEmpty ∧
   d.finishReason = .unset then { d with finishReason := .unspecified }
 else d

def rebuildResponse (r : ModelResponse) (terminal : StreamDelta) (calls : List ModelToolCall) :
  Except StreamFailure ModelResponse :=
 let message := { r.message with
  content := terminal.text
  reasoning := terminal.reasoning
  structuredOutput := terminal.structuredOutput }
 match newModelToolCalls calls with
 | .error e => .error (failWith message (malformedResponse e))
 | .ok calls => .ok { r with
   message := { message with toolCalls := calls }
   finishReason := terminal.finishReason
   invalid := terminal.invalid }

def deliverResponse (r : ModelResponse) : AgentProg (Except StreamFailure ModelResponse) := do
 let delivered ← deliverCalls a f step stepID r.message.toolCalls
 match delivered with
 | .error e => .ret (.error (failWith r.message e))
 | .ok calls => do
  let processed ← process f.runID step stepID .streamDelta a.processors (terminalDelta r)
  match processed with
  | .error e => .ret (.error (failWith r.message e))
  | .ok terminal =>
   let terminal := completeTerminal terminal
   match terminal.validate with
   | some e => .ret (.error (failWith r.message (malformedResponse e)))
   | none => do
    let sent ← deliver f step stepID terminal
    match sent with
    | false => .ret (.error (failWith r.message errCanceled))
    | true => .ret (rebuildResponse r terminal calls)

structure Received where
 content : String := ""
 reasoning : ModelReasoning := {}
 toolCalls : List ModelToolCall := []
 structuredOutput : RawMessage := .empty
 finishReason : FinishReason := .unset

/-- The elements that a provider's reasoning details add to an array; a null array is empty. -/
def reasoningValues : RawMessage → Option (List Json)
 | .json (.arr items) => some items
 | .json .null => some []
 | .json v => some [v]
 | .empty | .malformed _ => none

def appendReasoning (current next : ModelReasoning) : Except Err ModelReasoning :=
 let text := current.text ++ next.text
 if current.details.isEmpty then .ok ⟨text, next.details⟩
 else if next.details.isEmpty then .ok ⟨text, current.details⟩
 else
  match reasoningValues current.details, reasoningValues next.details with
  | some vs, some ws => .ok ⟨text, .json (.arr (vs ++ ws))⟩
  | _, _ => .error (JsonCodec.errMarshal.wrap "lebro: combine reasoning details: ")

/-- The ordered parts of a delta; reasoning that cannot be combined is lost. -/
def appendParts : List StreamContentPart → String × ModelReasoning →
  (String × ModelReasoning) × Option Err
 | [], got => (got, none)
 | p :: ps, (content, reasoning) =>
  match p.kind with
  | .text => appendParts ps (content ++ p.text, reasoning)
  | .reasoning =>
   match appendReasoning reasoning ⟨p.text, p.reasoningDetails⟩ with
   | .error e => ((content, {}), some e)
   | .ok reasoning => appendParts ps (content, reasoning)
  | .other _ => appendParts ps (content, reasoning)

def appendStreamDeltaContent (content : String) (reasoning : ModelReasoning) (d : StreamDelta) :
  (String × ModelReasoning) × Option Err :=
 if d.parts.isEmpty then
  match appendReasoning reasoning d.reasoning with
  | .error e => ((content ++ d.text, {}), some e)
  | .ok reasoning => ((content ++ d.text, reasoning), none)
 else appendParts d.parts (content, reasoning)

def Received.add (g : Received) (d : StreamDelta) : Received × Option Err :=
 match appendStreamDeltaContent g.content g.reasoning d with
 | ((content, reasoning), some e) =>
  ({ g with content := content, reasoning := reasoning }, some (malformedResponse e))
 | ((content, reasoning), none) => ({
     content := content
     reasoning := reasoning
     toolCalls := g.toolCalls ++ d.toolCall.toList
     structuredOutput :=
      if d.structuredOutput.isEmpty then g.structuredOutput else d.structuredOutput
     finishReason := if d.finishReason = .unset then g.finishReason else d.finishReason }, d.err)

def Received.message (g : Received) : Message where
 role := .assistant
 content := g.content
 reasoning := g.reasoning
 structuredOutput := g.structuredOutput

/-- `partialResponse`: the message received so far, and the failure to encode its calls. -/
def Received.response (g : Received) : ModelResponse × Option Err :=
 let finishReason := if g.finishReason = .unset then .unspecified else g.finishReason
 match newModelToolCalls g.toolCalls with
 | .error e => (⟨g.message, finishReason, .empty, none⟩, some (malformedResponse e))
 | .ok calls => (⟨{ g.message with toolCalls := calls }, finishReason, .empty, none⟩, none)

/-- `partialFailure`. -/
def Received.fail (g : Received) (e : Err) : StreamFailure :=
 failWith g.response.1.message ((g.response.2.map (Err.join e)).getD e)

def endOfStream (g : Received) (failure : Option Err) :
  AgentProg (Except StreamFailure ModelResponse) :=
 match failure with
 | some e => .ret (.error (g.fail e))
 | none => do
  let ended ← runCtxErr
  match ended, g.response with
  | some e, _ => .ret (.error (g.fail e))
  | none, (r, some e) => .ret (.error (failWith r.message e))
  | none, (r, none) => .ret (.ok r)

def receiveDelta (g : Received) (d : StreamDelta) : AgentProg (Except StreamFailure Received) := do
 let processed ← process f.runID step stepID .streamDelta a.processors d
 match processed with
 | .error e => .ret (.error (g.fail e))
 | .ok d => do
  let sent ← deliver f step stepID d
  match sent, g.add d with
  | false, _ => .ret (.error (g.fail errCanceled))
  | true, (g, some e) => .ret (.error (g.fail e))
  | true, (g, none) => .ret (.ok g)

def receiveDeltas (a : Agent) (f : RunFrame) (step : Nat) (stepID : StepID) (failure : Option Err) :
  List StreamDelta → Received → AgentProg (Except StreamFailure ModelResponse)
 | [], g => do
  let ended ← runCtxErr
  match ended with
  | some e => .ret (.error (g.fail e))
  | none => endOfStream g failure
 | d :: ds, g => do
  let ended ← runCtxErr
  match ended with
  | some e => .ret (.error (g.fail e))
  | none =>
   match d.validate with
   | some e => .ret (.error (g.fail (malformedResponse e)))
   | none => do
    let received ← receiveDelta a f step stepID g d
    match received with
    | .error e => .ret (.error e)
    | .ok g => receiveDeltas a f step stepID failure ds g

def fallbackModel (request : ModelRequest) : AgentProg (Except Err ModelResponse) :=
 match a.router, a.model with
 | some r, _ => agentOp (.generate (.router r) request)
 | none, some m => agentOp (.generate (.model m) request)
 | none, none => crash

def streamTarget (streaming : ModelTarget) : ModelTarget :=
 match a.router with
 | some r => .router r
 | none => streaming

def consumeStream (request : ModelRequest) : AgentProg (Except StreamFailure ModelResponse) :=
 match f.config.streamingModel with
 | none => do
  let response ← fallbackModel a request
  match response with
  | .error e => .ret (.error ⟨e, none⟩)
  | .ok r => deliverResponse a f step stepID r
 | some streaming => do
  let opened ← agentOp (.stream (streamTarget a streaming) request)
  match opened with
  | .error e => .ret (.error ⟨e, none⟩)
  | .ok stream => receiveDeltas a f step stepID stream.failure stream.deltas {}

def runStep : AgentProg (List Message ⊕ AgentOutcome) := do
 let ended ← runCtxErr
 match ended with
 | some e => do
  let out ← endCancelled f step "" transcript e
  .ret (.inr out)
 | none => do
  let stepID ← agentOp .newStepID
  emitEvent (modelEvent .modelStarted f step stepID none)
  let prepared ← prepareRequest a f step stepID transcript
  match prepared with
  | .inr out => .ret (.inr out)
  | .inl request => do
   let response ← generateModel f.config request
   match response with
   | .error e => do
    let out ← endModel f step stepID transcript e
    .ret (.inr out)
   | .ok response => handleResponse a f step stepID transcript response

def streamStep : AgentProg (List Message ⊕ AgentOutcome) := do
 let ended ← runCtxErr
 match ended with
 | some e => do
  let out ← endCancelled f step "" transcript e
  .ret (.inr out)
 | none => do
  let stepID ← agentOp .newStepID
  emitEvent (modelEvent .modelStarted f step stepID none)
  let prepared ← prepareRequest a f step stepID transcript
  match prepared with
  | .inr out => .ret (.inr out)
  | .inl request => do
   let response ← consumeStream a f step stepID request
   match response with
   | .error failure => do
    let out ← endStream f step stepID (transcript ++ failure.partialMessage.toList)
     failure.err
    .ret (.inr out)
   | .ok response => handleResponse a f step stepID transcript response

def errStepLimitExhausted : Err := .new "lebro: agent step limit exhausted"

def runLoop (a : Agent) (f : RunFrame)
  (body : Nat → List Message → AgentProg (List Message ⊕ AgentOutcome)) :
  Nat → Nat → List Message → AgentProg AgentOutcome
 | 0, _, transcript =>
  endFailed f a.maxSteps "" transcript ⟨.stepLimitExhausted, a.maxSteps, errStepLimitExhausted⟩
 | n + 1, step, transcript => do
  let ran ← body step transcript
  match ran with
  | .inr out => .ret out
  | .inl transcript => runLoop a f body n (step + 1) transcript

def loopFrom (body : Nat → List Message → AgentProg (List Message ⊕ AgentOutcome)) (first : Nat) :
  AgentProg AgentOutcome :=
 runLoop a f body (a.maxSteps + 1 - first) first f.transcript

def errExecutionID : Err := .new "lebro: run input execution ID must not contain NUL"

/-- A frame for the loop, or the outcome that `Run` reports. The checks before the journal exists
write no diagnostics, apart from a context that has already ended. -/
def setupRun (input : RunInput) : AgentProg (Except AgentOutcome RunFrame × Bool) :=
 match WorkflowRuns.validateSuppliedRunID input.runID with
 | some e => .ret (.error ⟨{}, some (.agent ⟨.providerFailure, 0, e⟩)⟩, false)
 | none => do
  let ended ← runCtxErr
  match ended with
  | some e => do
   let runID ← newRunID input.runID
   emitEvent (terminalEvent .cancelled .cancelled runID 0 "" (some e))
   flushDiagnostics a runID
   .ret (.error ⟨{ id := runID, status := .cancelled, metadata := input.metadata },
    some (.agent (cancelledError 0 e))⟩, false)
  | none => do
   let runID ← newRunID input.runID
   if input.executionID.toList.contains '\x00' then do
    let failed ← failSetup runID [] input.metadata
     (.agent ⟨.providerFailure, 0, errExecutionID⟩)
    .ret (failed, false)
   else do
    let frame ← startRun a runID input
    .ret (frame, true)

/-- The two deferred flushes of `Run`. -/
def finishJournal (runID : RunID) (journaled : Bool) : AgentProg Unit :=
 if journaled then do
  flushDiagnostics a runID
  flushDiagnostics a runID
 else .ret ()

def run (input : RunInput) : AgentProg AgentOutcome := do
 let setup ← setupRun a input
 match setup with
 | (.error out, journaled) => do
  finishJournal a out.result.id journaled
  .ret out
 | (.ok f, journaled) => do
  let out ← loopFrom a f (runStep a f) (max 1 f.input.resumeStartStep)
  finishJournal a f.runID journaled
  .ret out

/-- `Agent.RunStream`, then draining its deltas and waiting for the outcome. The continuation fields
of the input are not read. -/
def runStream (input : RunInput) : AgentProg AgentOutcome := do
 let setup ← setupRun a { input with resumeStartStep := 0, resumeSkipInputPhase := false }
 match setup with
 | (.error out, _) => .ret ⟨{}, out.error⟩
 | (.ok f, _) => do
  let out ← loopFrom a f (streamStep a f) 1
  flushDiagnostics a f.runID
  .ret out

end Lebro.AgentLoop
