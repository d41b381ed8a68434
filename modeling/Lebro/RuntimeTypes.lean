import Mathlib.Data.List.Basic

set_option autoImplicit false

namespace Lebro.RuntimeTypes

abbrev RunID := String
abbrev StepID := String
abbrev WorkflowID := String
abbrev AgentID := String
abbrev ThreadID := String
abbrev ToolID := String
abbrev Time := Int
abbrev Duration := Int

abbrev StringMap := List (String × String)

inductive Json where
 | null
 | bool (value : Bool)
 | num (literal : String)
 | str (value : String)
 | arr (items : List Json)
 | obj (fields : List (String × Json))

/-- A raw message is read up to the spelling of its JSON value: whitespace and string escapes
are not kept, number literals are. Empty and absent raw messages are the same value. -/
inductive RawMessage where
 | empty
 | malformed (text : String)
 | json (value : Json)

def RawMessage.isEmpty : RawMessage → Bool
 | .empty => true
 | _ => false

/-- The check of `validateJSON`: empty or well formed. -/
def RawMessage.storable : RawMessage → Bool
 | .malformed _ => false
 | _ => true

/-- The targets that the runtime looks for with `errors.Is`. -/
inductive Sentinel where
 | canceled
 | deadlineExceeded
 | workflowSuspend
 | noBranchMatched
 | notFound
 | conflict
 | runIDAlreadyExists
 | notSuspended
 | invalidResumeInput
 | resumeRequiresStore
 | sleepRequiresScheduler
 | wakeupStale
 | policyDenied
 | toolApprovalDenied
 | toolApprovalExpired
 | toolApprovalStale
 | toolApprovalUncertain
 | modelTimeout
 | processorError
 | processorCancelled
 | structuredOutputInvalidJSON
 | agentCancelled
 | subagentInvalidInput
 | subagentRunFailed
 | subagentCancelled
 | approvalRejected
 | approvalExpired
 | approvalInvalidDecision
deriving DecidableEq

structure SuspendSignal where
 stepID : StepID
 contract : RawMessage
 payload : RawMessage

/-- An error chain: its text, the sentinels it matches, and the suspend signal it carries. -/
structure Err where
 message : String
 matching : List Sentinel
 suspend : Option SuspendSignal

namespace Err

def new (message : String) : Err := ⟨message, [], none⟩

def sentinel (message : String) (target : Sentinel) : Err := ⟨message, [target], none⟩

/-- Wrapping with `%w` puts text in front and keeps what the chain matches. -/
def wrap (text : String) (e : Err) : Err := { e with message := text ++ e.message }

def is (e : Err) (target : Sentinel) : Bool := e.matching.contains target

@[simp] lemma is_wrap (text : String) (e : Err) (target : Sentinel) :
  (wrap text e).is target=e.is target := rfl

end Err

inductive RunStatus where
 | unset
 | pending
 | running
 | succeeded
 | failed
 | cancelled
 | suspended
deriving DecidableEq

def RunStatus.text : RunStatus → String
 | .unset => ""
 | .pending => "pending"
 | .running => "running"
 | .succeeded => "succeeded"
 | .failed => "failed"
 | .cancelled => "cancelled"
 | .suspended => "suspended"

def RunStatus.terminal : RunStatus → Bool
 | .succeeded | .failed | .cancelled => true
 | _ => false

inductive WorkflowErrorKind where
 | invalidStepInput
 | invalidStepOutput
 | stepFailed
 | stepPanicked
 | cancelled
 | noBranchMatched
 | branchConditionFailed
 | invalidBranchInput
 | fanOutBranchFailed
 | fanOutInputMapperFailed
 | invalidFanOutInput
 | unauthorized
 | maxIterations
deriving DecidableEq

def WorkflowErrorKind.text : WorkflowErrorKind → String
 | .invalidStepInput => "invalid_step_input"
 | .invalidStepOutput => "invalid_step_output"
 | .stepFailed => "step_failed"
 | .stepPanicked => "step_panicked"
 | .cancelled => "cancelled"
 | .noBranchMatched => "no_branch_matched"
 | .branchConditionFailed => "branch_condition_failed"
 | .invalidBranchInput => "invalid_branch_input"
 | .fanOutBranchFailed => "fanout_branch_failed"
 | .fanOutInputMapperFailed => "fanout_input_mapper_failed"
 | .invalidFanOutInput => "invalid_fanout_input"
 | .unauthorized => "unauthorized"
 | .maxIterations => "max_iterations"

/-- `%q` on a name without characters that need an escape. -/
def quote (s : String) : String := "\"" ++ s ++ "\""

structure WorkflowError where
 kind : WorkflowErrorKind
 step : Nat
 stepID : StepID
 err : Err

/-- The error value of a workflow failure: `Error()` as text, the cause for `errors.Is`. -/
def WorkflowError.toErr (e : WorkflowError) : Err :=
 let step :=
  if e.stepID ≠ "" then " at step " ++ quote e.stepID
  else if 0 < e.step then " at step " ++ toString e.step
  else ""
 let head := "lebro: workflow " ++ e.kind.text ++ step
 { e.err with message := if e.err.message = "" then head else head ++ ": " ++ e.err.message }

structure WorkflowFailureData where
 kind : WorkflowErrorKind
 step : Nat
 stepID : StepID
 message : String
deriving DecidableEq

/-- The portable form of a failure, with `failureMessage` as its text. -/
def WorkflowError.data (e : WorkflowError) : WorkflowFailureData :=
 ⟨e.kind, e.step, e.stepID, e.err.message⟩

structure FanOutBranchResult where
 name : String
 status : RunStatus
 output : RawMessage
 failure : Option WorkflowFailureData

structure FanOutJoinResult where
 stepID : StepID
 status : RunStatus
 branches : List FanOutBranchResult

structure ForEachItemResult where
 index : Nat
 status : RunStatus
 output : RawMessage
 failure : Option WorkflowFailureData

structure ForEachResult where
 stepID : StepID
 status : RunStatus
 items : List ForEachItemResult

inductive RunEventType where
 | started
 | modelStarted
 | modelFinished
 | delta
 | processor
 | toolRequested
 | toolStarted
 | toolFinished
 | stepStarted
 | stepFinished
 | stepAttemptStarted
 | stepAttemptFinished
 | branchSelected
 | routeSelected
 | loopIterationStarted
 | loopIterationFinished
 | contextCompactionSkipped
 | suspended
 | resumed
 | succeeded
 | failed
 | cancelled
deriving DecidableEq

/-- Run events without their times, sequence numbers and parent references. -/
structure RunEvent where
 type : RunEventType
 runID : RunID
 step : Nat
 stepID : StepID
 branch : String := ""
 attempt : Nat := 0
 iteration : Nat := 0
 toolCallID : String := ""
 toolID : ToolID := ""
 status : RunStatus := .unset
 err : Option Err := none

end Lebro.RuntimeTypes
