import Lebro.RuntimeTypes

set_option autoImplicit false

/-! Snapshot states are kept decoded: a state is what `json.Unmarshal` reads back from the bytes
written. -/
namespace Lebro.RuntimeRecords

open RuntimeTypes

structure RuntimeScope where
 ns : String := ""
 ownerID : String := ""
deriving DecidableEq

inductive Role where
 | system
 | user
 | assistant
 | tool
deriving DecidableEq

structure ModelToolCall where
 id : String
 toolID : ToolID
 arguments : RawMessage

inductive ContentPart where
 | text (text : String)
 | image
 | document
deriving DecidableEq

structure ModelReasoning where
 text : String := ""
 details : RawMessage := .empty

def ModelReasoning.isZero (r : ModelReasoning) : Bool := r.text = "" && r.details.isEmpty

def ModelReasoning.validate (r : ModelReasoning) : Option Err :=
 if r.details.storable then none
 else some (.new "lebro: model reasoning details must be valid JSON")

structure Message where
 role : Role
 content : String := ""
 reasoning : ModelReasoning := {}
 contentParts : List ContentPart := []
 toolCallID : String := ""
 toolCalls : List ModelToolCall := []
 structuredOutput : RawMessage := .empty

def Message.validate (m : Message) : Option Err :=
 if m.role = .tool ∧ m.toolCallID = "" then
  some (.new "lebro: tool messages require a tool call ID")
 else if m.role ≠ .tool ∧ m.toolCallID ≠ "" then
  some (.new "lebro: only tool messages can contain a tool call ID")
 else if ¬ m.toolCalls.isEmpty ∧ m.role ≠ .assistant then
  some (.new "lebro: only assistant messages can contain tool calls")
 else if ¬ m.structuredOutput.isEmpty ∧ m.role ≠ .assistant then
  some (.new "lebro: only assistant messages can contain structured output")
 else if ¬ m.structuredOutput.storable then
  some (.sentinel "lebro: message structured output must be valid JSON"
   .structuredOutputInvalidJSON)
 else if ¬ m.reasoning.isZero ∧ m.role ≠ .assistant then
  some (.new "lebro: only assistant messages can contain reasoning")
 else if m.reasoning.validate.isSome then m.reasoning.validate
 else if ¬ m.contentParts.isEmpty ∧ m.content ≠ "" then
  some (.new "lebro: message cannot contain both content and content parts")
 else if ¬ m.contentParts.isEmpty ∧ m.role ≠ .user then
  some (.new "lebro: only user messages can contain content parts")
 else none

structure WorkflowRunRecord where
 id : RunID
 workflowID : WorkflowID
 threadID : ThreadID := ""
 scope : RuntimeScope := {}
 status : RunStatus
 input : RawMessage := .empty
 output : RawMessage := .empty
 stepOutputs : List RawMessage := []
 currentStep : Nat := 0
 currentStepID : StepID := ""
 path : List StepID := []
 failure : Option WorkflowFailureData := none
 fanOut : List FanOutJoinResult := []
 workflowVersion : String := ""
 metadata : StringMap := []
 startedAt : Time
 finishedAt : Option Time := none
 updatedAt : Time

structure WakeEnvelope where
 wakeAt : Time
 token : String

structure SuspendEnvelope where
 contract : RawMessage := .empty
 payload : RawMessage := .empty
 wake : Option WakeEnvelope := none

structure LoopCheckpoint where
 stepID : StepID
 iterations : Nat
 output : RawMessage

structure WorkflowSnapshotEnvelope where
 step : Nat
 stepID : StepID
 output : RawMessage := .empty
 outputs : List RawMessage := []
 suspend : Option SuspendEnvelope := none
 path : List StepID := []
 fanOut : List FanOutJoinResult := []
 forEach : List ForEachResult := []
 loops : List LoopCheckpoint := []

structure ToolApprovalRequest where
 id : String
 runID : RunID
 executionID : String
 step : Nat
 stepID : StepID
 threadID : ThreadID
 toolCallID : String
 toolID : ToolID
 arguments : RawMessage
 reason : String
 requester : String
 metadata : StringMap
 requestedAt : Time
 expiresAt : Option Time

structure ToolApprovalDecision where
 runID : RunID
 requestID : String
 approved : Bool
 decider : String := ""
 reason : String := ""
 decidedAt : Option Time

inductive ToolApprovalState where
 | pending
 | executing
 | expired
 | denied
 | other (text : String)
deriving DecidableEq

structure ToolApprovalSnapshot where
 agentID : AgentID
 request : ToolApprovalRequest
 decision : Option ToolApprovalDecision
 state : ToolApprovalState
 transcript : List Message
 calls : List ModelToolCall
 callIndex : Nat
 revision : Nat
 metadata : StringMap
 threadID : ThreadID
 scope : RuntimeScope
 instructions : String
 outputSchema : Option RawMessage
 loadedCount : Nat
 eventSequence : Nat := 0

inductive SnapshotState where
 | workflow (envelope : WorkflowSnapshotEnvelope)
 | toolApproval (state : ToolApprovalSnapshot)
 | other (state : RawMessage)

structure WorkflowSnapshotRecord where
 id : String
 runID : RunID
 sequence : Nat
 schemaVersion : Nat
 state : SnapshotState
 createdAt : Time

inductive ConcurrencyPolicy where
 | unset
 | allow
 | skip
 | other (text : String)
deriving DecidableEq

structure ScheduleRecord where
 id : String
 workflowID : WorkflowID
 scope : RuntimeScope
 spec : String
 paused : Bool := false
 concurrency : ConcurrencyPolicy := .unset
 input : RawMessage := .empty
 metadata : RawMessage := .empty
 nextFireAt : Option Time
 lastFireAt : Option Time := none
 wakeRunID : RunID
 wakeToken : String
 createdAt : Time
 updatedAt : Time

structure RetryPolicy where
 attempts : Int
 delay : Duration := 0
 retryable : Option (Err → Bool) := none

structure WorkflowRunInput where
 input : RawMessage
 threadID : ThreadID := ""
 runID : RunID := ""
 scope : RuntimeScope := {}
 metadata : StringMap := []
 retryOverrides : List (StepID × RetryPolicy) := []

structure WorkflowResumeInput where
 runID : RunID
 input : RawMessage
 metadata : StringMap := []

structure SuspendResult where
 step : Nat
 stepID : StepID
 contract : RawMessage := .empty
 payload : RawMessage := .empty

structure WorkflowRunResult where
 id : RunID := ""
 status : RunStatus := .unset
 output : RawMessage := .empty
 metadata : StringMap := []
 suspend : Option SuspendResult := none
 path : List StepID := []
 fanOut : List FanOutJoinResult := []
 forEach : List ForEachResult := []

inductive FinishReason where
 | stop
 | length
 | toolCalls
 | contentFilter
 | cancelled
 | unspecified
 | unset
 | other (text : String)
deriving DecidableEq

structure ModelRequest where
 model : String
 messages : List Message
 tools : List ToolID
 outputSchema : Option RawMessage

/-- A model response; `invalid` is what the checks of its usage and accounting report. -/
structure ModelResponse where
 message : Message
 finishReason : FinishReason
 extension : RawMessage := .empty
 invalid : Option Err := none

/-- Agent and network run input; the last three fields are continuation state. -/
structure RunInput where
 messages : List Message
 threadID : ThreadID := ""
 runID : RunID := ""
 executionID : String := ""
 metadata : StringMap := []
 outputSchema : Option RawMessage := none
 scope : RuntimeScope := {}
 memoryRecalled : Bool := false
 resumeStartStep : Nat := 0
 resumeSkipInputPhase : Bool := false

structure RunResult where
 id : RunID := ""
 status : RunStatus := .unset
 messages : List Message := []
 metadata : StringMap := []
 toolApproval : Option ToolApprovalRequest := none

inductive ToolExecutionState where
 | succeeded
 | notFound
 | invalidInput
 | invalidOutput
 | handlerError
 | panicked
 | cancelled
 | unauthorized
deriving DecidableEq

structure ToolExecutionResult where
 toolID : ToolID
 state : ToolExecutionState
 output : RawMessage := .empty
 err : Option Err := none

inductive ToolApprovalOutcome where
 | unset
 | allow
 | require
 | deny
 | other (text : String)
deriving DecidableEq

structure ToolApprovalResolution where
 outcome : ToolApprovalOutcome
 reason : String := ""
 requester : String := ""
 metadata : StringMap := []
 ttl : Duration := 0

end Lebro.RuntimeRecords
