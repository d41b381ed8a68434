import Lebro.RuntimeEffects
import Lebro.WorkflowSteps

set_option autoImplicit false

namespace Lebro.WorkflowRetry

open EffectProgram RuntimeTypes RuntimeRecords RuntimeEffects WorkflowSteps

inductive ValidationTarget where
 | stepInput
 | stepOutput
 | suspendContract
 | resumeInput
deriving DecidableEq

def ValidationTarget.text : ValidationTarget → String
 | .stepInput => "step input"
 | .stepOutput => "step output"
 | .suspendContract => "suspend contract"
 | .resumeInput => "resume input"

def validateStepValue (schema : Option CompiledSchema) (target : ValidationTarget)
  (value : RawMessage) : Option Err :=
 match schema with
 | none => none
 | some c =>
  (c.validate value).map fun detail =>
   .new ("lebro: " ++ target.text ++ " validation failed" ++ detail)

def errCanceled : Err := .sentinel "context canceled" .canceled

def errDeadlineExceeded : Err := .sentinel "context deadline exceeded" .deadlineExceeded

/-- Whether the error matches `context.Canceled` or `context.DeadlineExceeded`. -/
def isContextErr (e : Err) : Bool := e.is .canceled || e.is .deadlineExceeded

def preferContextError (primary fallback : Err) : Err :=
 if primary.is .canceled then errCanceled
 else if primary.is .deadlineExceeded then errDeadlineExceeded
 else if fallback.is .canceled then errCanceled
 else if fallback.is .deadlineExceeded then errDeadlineExceeded
 else primary

def defaultRetryable (e : Err) : Bool := !isContextErr e

def isRetryable (p : RetryPolicy) (e : Err) : Bool :=
 match p.retryable with
 | some f => f e
 | none => defaultRetryable e

def resolveRetryPolicy (compiled : Option RetryPolicy) (overrides : List (StepID × RetryPolicy))
  (stepID : StepID) : Option RetryPolicy :=
 match overrides.find? fun o => o.1 = stepID with
 | some o => some o.2
 | none => compiled

inductive RetryOutcome where
 | failed (cause : Err)
 | cancelled (cause : Err)
 | panicked (cause : Err)
 | invalidOutput (cause : Err)
 | suspended (signal : SuspendSignal)

structure StepRun where
 runID : RunID
 position : Nat

variable (run : StepRun) (step : CompiledStep) (stepID : StepID) (policy : Option RetryPolicy)

def maxAttempts : Nat :=
 match policy with
 | none => 1
 | some p => max 1 p.attempts.toNat

variable (attempt : Nat)

def invokeStepHandler (input : RawMessage) : StepProg HandlerReply :=
 if step.handler then stepOp (.handler ⟨run.runID, run.position, step.id, attempt, input⟩)
 else .ret (.panic "invalid memory address or nil pointer dereference")

def emitAttemptStarted : StepProg Unit :=
 emit { type := .stepAttemptStarted, runID := run.runID, step := run.position, stepID, attempt }

def emitAttemptFinished (err : Option Err) : StepProg Unit :=
 if attempt = 1 then .ret ()
 else emit { type := .stepAttemptFinished, runID := run.runID, step := run.position, stepID,
             attempt, err }

/-- The wait before an attempt; it ends early, with the context's error, when the run does. -/
def awaitDelay (delay : Duration) : StepProg (Option Err) :=
 if 0 < delay then stepOp (.wait delay) else .ret none

def beginAttempt : StepProg (Option Err) :=
 if attempt = 1 then .ret none
 else do
  let ended ← awaitDelay ((policy.map RetryPolicy.delay).getD 0)
  match ended with
  | some e => .ret (some e)
  | none => do
   emitAttemptStarted run stepID attempt
   .ret none

/-- What one handler reply means: an outcome with the event that reports it, or another attempt. -/
inductive Verdict where
 | silent (outcome : RetryOutcome)
 | done (outcome : Except RetryOutcome RawMessage) (reported : Option Err)
 | again (err : Err)

def suspendVerdict (err : Err) : Verdict :=
 match err.suspend with
 | none => .silent (.failed (err.wrap
   ("lebro: handler returned an error matching ErrWorkflowSuspend but it carried no " ++
    "SuspendSignal: ")))
 | some signal =>
  match step.suspendSchema with
  | none => .silent (.invalidOutput (.new ("lebro: step " ++ quote step.id ++
    " signalled suspend but declares no SuspendSchema")))
  | some schema =>
   match if signal.contract.isEmpty then none
    else validateStepValue (some schema) .suspendContract signal.contract with
   | some e => .done (.error (.invalidOutput e)) (some e)
   | none => .done (.error (.suspended { signal with stepID := step.id })) none

def judgeReply (isLast : Bool) : HandlerReply → Verdict
 | .panic value =>
  let e := Err.new ("lebro: step handler panicked: " ++ value)
  .done (.error (.panicked e)) (some e)
 | .error err =>
  if err.is .workflowSuspend then suspendVerdict step err
  else if isContextErr err then .done (.error (.cancelled err)) (some err)
  else if isLast || !(policy.any fun p => isRetryable p err) then
   .done (.error (.failed err)) (some err)
  else .again err
 | .output output =>
  match validateStepValue step.outputSchema .stepOutput output with
  | some e => .done (.error (.invalidOutput e)) (some e)
  | none => .done (.ok output) none

/-- The attempts that are left, counted down; `attempt` is the number of the next one. -/
def retryLoop (run : StepRun) (step : CompiledStep) (policy : Option RetryPolicy)
  (input : RawMessage) : Nat → Nat → StepProg (Except RetryOutcome RawMessage)
 | 0, _ => .ret (.error (.failed (.new "lebro: step retry loop exited without result")))
 | left + 1, attempt => do
  let err ← stepOp .ctxErr
  match err with
  | some e => .ret (.error (.cancelled e))
  | none => do
   let ended ← beginAttempt run step.id policy attempt
   match ended with
   | some e => .ret (.error (.cancelled e))
   | none => do
    let reply ← invokeStepHandler run step attempt input
    let err ← stepOp .ctxErr
    match err with
    | some e => do
     let cause := preferContextError e e
     emitAttemptFinished run step.id attempt (some cause)
     .ret (.error (.cancelled cause))
    | none =>
     match judgeReply step policy (left = 0) reply with
     | .silent outcome => .ret (.error outcome)
     | .done outcome reported => do
      emitAttemptFinished run step.id attempt reported
      .ret outcome
     | .again e => do
      emitAttemptFinished run step.id attempt (some e)
      retryLoop run step policy input left (attempt + 1)

def runStepWithRetry (input : RawMessage) : StepProg (Except RetryOutcome RawMessage) := do
 stepOp (.enterStep step.id step.handler)
 retryLoop run step policy input (maxAttempts policy) 1

end Lebro.WorkflowRetry
