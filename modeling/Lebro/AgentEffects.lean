import Lebro.JsonCodec
import Lebro.StoreRecords

set_option autoImplicit false

/-! What an agent is configured with and what it asks for. Diagnostics and accounting are left out.
-/
namespace Lebro.AgentEffects

open EffectProgram RuntimeTypes RuntimeRecords RuntimeEffects StoreRecords

abbrev RouterID := String

structure ModelRef where
 id : String
 streams : Bool
deriving DecidableEq

inductive ModelTarget where
 | model (m : ModelRef)
 | router (id : RouterID)
deriving DecidableEq

structure ModelSelection where
 model : Option ModelRef
 router : Option RouterID
 modelName : String

def ModelSelection.validate (s : ModelSelection) : Option Err :=
 if s.model.isSome = s.router.isSome then
  some (.new "lebro: model resolver must select exactly one model or router")
 else none

inductive AgentErrorKind where
 | unknownTool
 | invalidToolArguments
 | invalidToolOutput
 | toolFailure
 | providerFailure
 | timeout
 | stepLimitExhausted
 | cancelled
 | invalidStructuredOutput
 | unauthorized
 | processor
 | resolver
deriving DecidableEq

def AgentErrorKind.text : AgentErrorKind → String
 | .unknownTool => "unknown_tool"
 | .invalidToolArguments => "invalid_tool_arguments"
 | .invalidToolOutput => "invalid_tool_output"
 | .toolFailure => "tool_failure"
 | .providerFailure => "provider_failure"
 | .timeout => "timeout"
 | .stepLimitExhausted => "step_limit_exhausted"
 | .cancelled => "cancelled"
 | .invalidStructuredOutput => "invalid_structured_output"
 | .unauthorized => "unauthorized"
 | .processor => "processor"
 | .resolver => "resolver"

structure AgentError where
 kind : AgentErrorKind
 step : Nat
 err : Err

def AgentErrorKind.targets : AgentErrorKind → List Sentinel
 | .cancelled => [.agentCancelled]
 | _ => []

/-- The error value of an agent failure: `Error()` as text, the cause for `errors.Is`. -/
def AgentError.toErr (e : AgentError) : Err :=
 let step := if 0 < e.step then " at step " ++ toString e.step else ""
 let head := "lebro: agent " ++ e.kind.text ++ step
 { e.err with
   message := if e.err.message = "" then head else head ++ ": " ++ e.err.message
   matching := e.kind.targets ++ e.err.matching }

inductive ToolApprovalErrorKind where
 | denied
 | expired
 | stale
 | uncertain
deriving DecidableEq

def ToolApprovalErrorKind.text : ToolApprovalErrorKind → String
 | .denied => "denied"
 | .expired => "expired"
 | .stale => "stale"
 | .uncertain => "execution_uncertain"

def errToolApproval : ToolApprovalErrorKind → Err
 | .denied => .sentinel "lebro: tool approval denied" .toolApprovalDenied
 | .expired => .sentinel "lebro: tool approval expired" .toolApprovalExpired
 | .stale => .sentinel "lebro: tool approval stale" .toolApprovalStale
 | .uncertain => .sentinel "lebro: tool approval execution uncertain" .toolApprovalUncertain

structure ToolApprovalError where
 kind : ToolApprovalErrorKind
 requestID : String

def ToolApprovalError.toErr (e : ToolApprovalError) : Err :=
 (errToolApproval e.kind).wrap
  ("lebro: tool approval " ++ e.kind.text ++ " for " ++ quote e.requestID ++ ": ")

inductive AgentFailure where
 | agent (e : AgentError)
 | approval (e : ToolApprovalError)
 | plain (e : Err)

def AgentFailure.toErr : AgentFailure → Err
 | .agent e => e.toErr
 | .approval e => e.toErr
 | .plain e => e

structure AgentOutcome where
 result : RunResult := {}
 error : Option AgentFailure := none

def errCanceled : Err := .sentinel "context canceled" .canceled

def errDeadlineExceeded : Err := .sentinel "context deadline exceeded" .deadlineExceeded

/-- `errors.Join` of two errors. -/
def Err.join (e f : Err) : Err where
 message := e.message ++ "\n" ++ f.message
 matching := e.matching ++ f.matching
 suspend := e.suspend.or f.suspend

def preferContextError (primary : Err) (fallback : Option Err) : Err :=
 if primary.is .canceled then errCanceled
 else if primary.is .deadlineExceeded then errDeadlineExceeded
 else if fallback.any fun e => e.is .canceled then errCanceled
 else if fallback.any fun e => e.is .deadlineExceeded then errDeadlineExceeded
 else primary

def malformedResponse (e : Err) : Err := e.wrap "lebro: model malformed_response from agent: "

def validFinishReason : FinishReason → Bool
 | .unset | .other _ => false
 | _ => true

def FinishReason.text : FinishReason → String
 | .stop => "stop"
 | .length => "length"
 | .toolCalls => "tool_calls"
 | .contentFilter => "content_filter"
 | .cancelled => "cancelled"
 | .unspecified => "unspecified"
 | .unset => ""
 | .other text => text

def ModelResponse.validate (r : ModelResponse) : Option Err :=
 match r.message.validate with
 | some e => some (e.wrap "lebro: model response: ")
 | none =>
  if r.message.role ≠ .assistant then
   some (.new ("lebro: model response message role must be " ++ quote "assistant"))
  else if ¬ validFinishReason r.finishReason then
   some (.new ("lebro: invalid model finish reason " ++ quote (FinishReason.text r.finishReason)))
  else if r.invalid.isSome then r.invalid
  else if ¬ r.message.toolCalls.isEmpty ∧ r.finishReason ≠ .toolCalls then
   some (.new "lebro: model response with tool calls requires tool_calls finish reason")
  else if r.finishReason = .toolCalls ∧ r.message.toolCalls.isEmpty then
   some (.new "lebro: tool_calls finish reason requires at least one tool call")
  else if ¬ r.extension.storable then
   some (.new "lebro: model response extension must be valid JSON")
  else none

def ModelToolCall.validate (c : ModelToolCall) : Option Err :=
 if c.id = "" then some (.new "tool call requires an ID")
 else if c.toolID = "" then some (.new "tool call requires a tool ID")
 else if c.arguments.isEmpty ∨ ¬ c.arguments.storable then
  some (.new "tool call arguments must be valid JSON")
 else none

/-- Decoding keeps number literals here; objects come out with one entry per key, in key order. -/
def canonicalJSON : RawMessage → RawMessage
 | .json v => .json (JsonCodec.decodeAny some v)
 | raw => raw

def checkToolCalls : Nat → List String → List ModelToolCall → Option Err
 | _, _, [] => none
 | i, seen, call :: calls =>
  match ModelToolCall.validate call with
  | some e => some (e.wrap ("lebro: model tool call " ++ toString i ++ ": "))
  | none =>
   if call.id ∈ seen then some (.new ("lebro: duplicate model tool call ID " ++ quote call.id))
   else checkToolCalls (i + 1) (call.id :: seen) calls

def newModelToolCalls (calls : List ModelToolCall) : Except Err (List ModelToolCall) :=
 match checkToolCalls 0 [] calls with
 | some e => .error e
 | none => .ok (calls.map fun call => { call with arguments := canonicalJSON call.arguments })

inductive StreamContentPartKind where
 | text
 | reasoning
 | other (text : String)
deriving DecidableEq

structure StreamContentPart where
 kind : StreamContentPartKind
 text : String := ""
 reasoningDetails : RawMessage := .empty

def StreamContentPart.validate (p : StreamContentPart) : Option Err :=
 match p.kind with
 | .text =>
  if p.text = "" then some (.new "lebro: text stream content part must contain text")
  else if ¬ p.reasoningDetails.isEmpty then
   some (.new "lebro: text stream content part must not contain reasoning details")
  else none
 | .reasoning =>
  if p.text = "" ∧ p.reasoningDetails.isEmpty then
   some (.new "lebro: reasoning stream content part must contain text or reasoning details")
  else if ¬ p.reasoningDetails.storable then
   some (.new "lebro: stream content part reasoning details must be valid JSON")
  else none
 | .other text => some (.new ("lebro: unsupported stream content part kind " ++ quote text))

/-- A stream delta; `accounted` says whether it reports usage or accounting, and `invalid` what
their checks report. -/
structure StreamDelta where
 parts : List StreamContentPart := []
 text : String := ""
 reasoning : ModelReasoning := {}
 toolCall : Option ModelToolCall := none
 structuredOutput : RawMessage := .empty
 finishReason : FinishReason := .unset
 accounted : Bool := false
 invalid : Option Err := none
 err : Option Err := none

def StreamDelta.isEmpty (d : StreamDelta) : Bool :=
 d.parts.isEmpty && d.text = "" && d.reasoning.isZero && d.toolCall.isNone &&
  d.structuredOutput.isEmpty && d.finishReason = .unset && !d.accounted && d.err.isNone

def StreamDelta.validate (d : StreamDelta) : Option Err :=
 if d.isEmpty then some (.new "lebro: stream delta is empty")
 else
  match d.parts.findSome? StreamContentPart.validate with
  | some e => some (e.wrap "lebro: stream delta part: ")
  | none =>
   match d.toolCall.bind ModelToolCall.validate with
   | some e => some (e.wrap "lebro: stream delta tool call: ")
   | none =>
    if ¬ d.structuredOutput.storable then
     some (.new "lebro: stream delta structured output must be valid JSON")
    else if d.reasoning.validate.isSome then d.reasoning.validate
    else if d.finishReason ≠ .unset ∧ ¬ validFinishReason d.finishReason then
     some (.new ("lebro: invalid stream delta finish reason " ++
      quote (FinishReason.text d.finishReason)))
    else d.invalid

structure ModelStream where
 deltas : List StreamDelta
 failure : Option Err := none

inductive ProcessorPhase where
 | input
 | modelRequest
 | modelResponse
 | streamDelta
 | output
deriving DecidableEq

def ProcessorPhase.text : ProcessorPhase → String
 | .input => "input"
 | .modelRequest => "model_request"
 | .modelResponse => "model_response"
 | .streamDelta => "stream_delta"
 | .output => "output"

@[reducible] def PhaseValue : ProcessorPhase → Type
  | .input => RunInput
  | .modelRequest => ModelRequest
  | .modelResponse => ModelResponse
  | .streamDelta => StreamDelta
  | .output => RunResult

/-- A processor takes part in the phases that it implements; the working-memory processor is the
runtime's own. -/
structure Processor where
 name : String
 phases : List ProcessorPhase := []
 memory : Bool := false

inductive ProcessorDecision where
 | unset
 | allow
 | transform
 | block
 | other (text : String)
deriving DecidableEq

inductive ProcessorReply (α : Type) where
 | error (err : Err)
 | decided (decision : ProcessorDecision) (value : α)

structure RegisteredTool where
 validateInput : RawMessage → Option Err
 validateOutput : RawMessage → Option Err

abbrev CompiledSchema := RawMessage → Option Err

structure StoreCapabilities where
 transcript : Bool := true
 workflowState : Bool := true

/-- A compactor with a context window of zero is not enabled. -/
structure ContextCompactor where
 enabled : Bool
 summarizer : Option ModelTarget

/-- An agent that passed the checks of `NewAgent`: it has a model, a router or a resolver. -/
structure Agent where
 id : AgentID
 instructions : String := ""
 modelName : String := ""
 tools : List ToolID := []
 model : Option ModelRef := none
 router : Option RouterID := none
 instructionsResolver : Bool := false
 modelResolver : Bool := false
 registry : Option (ToolID → Option RegisteredTool) := none
 outputSchema : Option RawMessage := none
 compiledOutput : Option CompiledSchema := none
 schemaCompiler : Option (RawMessage → Except Err CompiledSchema) := none
 maxSteps : Nat
 store : Option StoreCapabilities := none
 policy : Bool := false
 toolApprovalPolicy : Bool := false
 processors : List Processor := []
 contextCompactor : Option ContextCompactor := none
 /-- A bound on the pages of one listing. -/
 pages : Nat := 0
 configured : (model.isSome || router.isSome || modelResolver) = true

structure ToolApprovalInvocation where
 runID : RunID
 executionID : String
 step : Nat
 stepID : StepID
 threadID : ThreadID
 toolCallID : String
 toolID : ToolID
 arguments : RawMessage
 metadata : StringMap

structure ToolInvocation where
 runID : RunID
 step : Nat
 stepID : StepID
 threadID : ThreadID
 callID : String
 toolID : ToolID
 arguments : RawMessage
 metadata : StringMap

inductive TranscriptOp where
 | getThread (id : ThreadID)
 | contextScope
 | createThread (v : ThreadRecord)
 | appendMessages (vs : List MessageRecord)
 | writeObservability (runID : RunID)

@[reducible] def TranscriptOp.Reply : TranscriptOp → Type
  | .getThread _ => Except Err ThreadRecord
  | .contextScope => RuntimeScope
  | .createThread _ => Except Err Unit
  | .appendMessages _ => Except Err Unit
  | .writeObservability _ => Except Err Unit

abbrev TranscriptSig : Sig := ⟨TranscriptOp, TranscriptOp.Reply⟩

inductive AgentOp where
 | runtime (o : RuntimeOp)
 | newStepID
 | resolveInstructions (input : RunInput)
 | resolveModel (input : RunInput)
 | recall (input : RunInput)
 | extract (result : RunResult)
 | process (phase : ProcessorPhase) (name : String) (value : PhaseValue phase)
 | listMessages (threadID : ThreadID)
 | transcript (body : Prog TranscriptSig (Except Err Unit))
 | compact (summarizer : ModelTarget) (threadID : ThreadID) (prior : List MessageRecord)
   (request : ModelRequest)
 | generate (target : ModelTarget) (request : ModelRequest)
 | stream (target : ModelTarget) (request : ModelRequest)
 | sendDelta (delta : StreamDelta)
 | evaluateToolApproval (invocation : ToolApprovalInvocation)
 | tool (invocation : ToolInvocation)
 | flushDiagnostics (runID : RunID)
 | emitterSequence
 | resumeEmitter (sequence : Nat)
 | crash

/-- `recall` is answered with the rendered facts, `emitterSequence` with the number of the last
event of the call, `crash` with nothing: the process is gone. -/
@[reducible] def AgentOp.Reply : AgentOp → Type
  | .runtime o => o.Reply
  | .newStepID => StepID
  | .resolveInstructions _ => Except Err String
  | .resolveModel _ => Except Err ModelSelection
  | .recall _ => Except Err String
  | .extract _ => Except Err Unit
  | .process phase _ _ => ProcessorReply (PhaseValue phase)
  | .listMessages _ => Except Err (List MessageRecord)
  | .transcript _ => Except Err Unit
  | .compact _ _ _ _ => Except Err ModelRequest
  | .generate _ _ => Except Err ModelResponse
  | .stream _ _ => Except Err ModelStream
  | .sendDelta _ => Bool
  | .evaluateToolApproval _ => Except Err ToolApprovalResolution
  | .tool _ => HandlerReply
  | .flushDiagnostics _ => Unit
  | .emitterSequence => Nat
  | .resumeEmitter _ => Unit
  | .crash => Empty

abbrev AgentSig : Sig := ⟨AgentOp, AgentOp.Reply⟩

abbrev AgentProg := Prog AgentSig

def agentOp (o : AgentOp) : AgentProg o.Reply := Prog.perform (S := AgentSig) o

def transcriptOp (o : TranscriptOp) : Prog TranscriptSig o.Reply :=
 Prog.perform (S := TranscriptSig) o

def runCtxErr : AgentProg (Option Err) := agentOp (.runtime (.step .ctxErr))

def clockNow : AgentProg Time := agentOp (.runtime .now)

def emitEvent (event : RunEvent) : AgentProg Unit := agentOp (.runtime (.step (.emit event)))

def crash {α : Type} : AgentProg α := .ask .crash Empty.elim

end Lebro.AgentEffects
