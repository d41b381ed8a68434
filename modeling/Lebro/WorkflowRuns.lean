import Lebro.WorkflowExecution

set_option autoImplicit false

namespace Lebro.WorkflowRuns

open EffectProgram RuntimeTypes RuntimeRecords RuntimeEffects JsonCodec WorkflowSteps WorkflowRetry
open WorkflowPersistence WorkflowExecution

variable (w : LinearWorkflow)

def errInvalidRunID : Err := .new "lebro: invalid supplied run ID"

def errRunIDAlreadyExists : Err :=
 .sentinel "lebro: supplied run ID already exists" .runIDAlreadyExists

/-- The code points that `strings.TrimSpace` removes. -/
def isSpace (c : Char) : Bool :=
 let n := c.toNat
 (9 ≤ n && n ≤ 13) || n = 0x20 || n = 0x85 || n = 0xA0 || n = 0x1680 ||
  (0x2000 ≤ n && n ≤ 0x200A) || n = 0x2028 || n = 0x2029 || n = 0x202F || n = 0x205F ||
  n = 0x3000

def isControlChar (c : Char) : Bool := c.toNat < 0x20 || c.toNat = 0x7f

def validateSuppliedRunID (id : RunID) : Option Err :=
 if id = "" then none
 else if 128 < id.utf8ByteSize then some errInvalidRunID
 else if id.toList.all isSpace then some errInvalidRunID
 else if id.toList.any isControlChar then some errInvalidRunID
 else none

def rejected (kind : WorkflowErrorKind) (err : Err) : RunOutcome where
 error := some (.workflow ⟨kind, 0, "", err⟩)

def authorizeRun : RuntimeProg (Option Err) :=
 if w.policy then runtimeOp (.authorize .workflowRun w.definition.id) else .ret none

def invalidRetryOverride : List (StepID × RetryPolicy) → Option (StepID × Err)
 | [] => none
 | (stepID, policy) :: rest =>
  match validateRetryPolicy (some policy), invalidRetryOverride rest with
  | .ok (), found => found
  | .error e, none => some (stepID, e)
  | .error e, some found => if stepID ≤ found.1 then some (stepID, e) else some found

def validateRetryOverrides (overrides : List (StepID × RetryPolicy)) : Option (StepID × Err) :=
 (invalidRetryOverride overrides).map fun found =>
  (found.1, found.2.wrap ("lebro: invalid retry override for step " ++ quote found.1 ++ ": "))

/-- The position of a top-level step, counted from one; zero when there is none. -/
def stepPosition (stepID : StepID) : Nat :=
 match w.steps.findIdx? fun s => s.id = stepID with
 | some i => i + 1
 | none => 0

def startEnv (anchor : RunAnchor) (input : WorkflowRunInput) : ExecEnv where
 workflow := w
 anchor := anchor
 runID := anchor.runID
 metadata := input.metadata
 overrides := input.retryOverrides

variable (runID : RunID) (input : WorkflowRunInput)

def startState : ExecState where
 frames := [⟨w.steps, 0⟩]
 current := input.input
 completed := []
 path := []
 fanOut := []
 forEach := []
 position := 0

def failStart (env : ExecEnv) (st : ExecState) (err : WorkflowError) : RuntimeProg RunOutcome := do
 emitTerminal env err.step err.stepID .failed .failed (some err.toErr)
 persistTerminalBestEffort env st .failed err
 .ret (fail env st err)

def beginRun (env : ExecEnv) (st : ExecState) : RuntimeProg RunOutcome := do
 let saved ← persistRunStart env.workflow env.anchor
 match saved with
 | .error e => failStart env st ⟨.stepFailed, 0, "", e.wrap "lebro: persist workflow run start: "⟩
 | .ok () => do
  emitRun { type := .started, runID := env.runID, step := 0, stepID := "" }
  executeFrames env st

def startRun : RuntimeProg RunOutcome := do
 let st := startState w input
 let err ← ctxErr
 match err with
 | some e => do
  let anchor ← newAnchor w runID input
  let env := startEnv w anchor input
  emitTerminal env 0 "" .cancelled .cancelled (some e)
  persistTerminalBestEffort env st .cancelled ⟨.cancelled, 0, "", e⟩
  .ret (cancelled env st "" e)
 | none => do
  let anchor ← newAnchor w runID input
  let env := startEnv w anchor input
  let denial ← authorizeRun w
  match denial with
  | some e => failStart env st ⟨.unauthorized, 0, "", e⟩
  | none =>
   match validateRetryOverrides input.retryOverrides with
   | some (stepID, e) => failStart env st ⟨.stepFailed, stepPosition w stepID, stepID, e⟩
   | none => beginRun env st

def startSupplied : RuntimeProg RunOutcome :=
 if w.store then do
  let err ← ctxErr
  match err with
  | some e => .ret (rejected .cancelled e)
  | none => do
   let found ← runtimeOp (.repo (.getWorkflowRun input.runID))
   match found with
   | .ok _ => .ret (rejected .stepFailed errRunIDAlreadyExists)
   | .error e =>
    if e.is .notFound then startRun w input.runID input
    else do
     let err ← ctxErr
     match err with
     | some c => .ret (rejected .cancelled c)
     | none => .ret (rejected .stepFailed
       (e.wrap "lebro: check supplied workflow run ID: "))
 else startRun w input.runID input

/-- `Run`: a supplied ID is claimed from this workflow value until the call returns. -/
def run : RuntimeProg RunOutcome :=
 match validateSuppliedRunID input.runID with
 | some e => .ret (rejected .stepFailed e)
 | none =>
  if input.runID = "" then do
   let runID : RunID ← runtimeOp .newRunID
   startRun w runID input
  else do
   let claimed ← runtimeOp (.claim w.executor input.runID)
   match claimed with
   | false => .ret (rejected .stepFailed errRunIDAlreadyExists)
   | true => do
    let out ← startSupplied w input
    let _ ← runtimeOp (.release w.executor input.runID)
    .ret out

def errNotSuspended (status : RunStatus) : Err :=
 .sentinel ("lebro: run " ++ quote runID ++ " lebro: workflow run is not suspended: " ++
  status.text) .notSuspended

def errInvalidResumeInput : Err :=
 .sentinel "lebro: workflow resume input invalid" .invalidResumeInput

def errResumeRequiresStore : Err :=
 .sentinel "lebro: workflow resume requires a bound store" .resumeRequiresStore

def errSleepRequiresScheduler : Err :=
 .sentinel "lebro: workflow sleep resumes via scheduler" .sleepRequiresScheduler

def errWakeupStale : Err := .sentinel "lebro: workflow wakeup is stale" .wakeupStale

def enterBranch (step : CompiledStep) (path : List StepID) :
  Option (CompiledBranch CompiledStep × List StepID) :=
 match step.control, path with
 | .branches branches _, entry :: rest =>
  (branches.find? fun b => b.entryID = entry).map fun b => (b, rest)
 | _, _ => none

/-- The loop of `resumeFrames`, with the rounds that are left. -/
def resumeFramesFrom (suspendStepID : StepID) :
  Nat → List StepID → List StepFrame → Option (List StepFrame)
 | 0, _, _ => none
 | _ + 1, _, [] => none
 | n + 1, path, f :: fs =>
  match f.steps[f.index]? with
  | none => resumeFramesFrom suspendStepID n path (advanceTop fs)
  | some step =>
   if step.id = suspendStepID then some (advanceTop (f :: fs))
   else
    match enterBranch step path with
    | some (b, rest) => resumeFramesFrom suspendStepID n rest (⟨b.steps, 0⟩ :: f :: fs)
    | none => resumeFramesFrom suspendStepID n path (advanceTop (f :: fs))

def resumeFrames (path : List StepID) (suspendStepID : StepID) : Option (List StepFrame) :=
 resumeFramesFrom suspendStepID (framesSize [⟨w.steps, 0⟩] + 1) path [⟨w.steps, 0⟩]

mutual

def findSuspendSchema (stepID : StepID) : CompiledStep → Option CompiledSchema
 | ⟨id, _, _, _, suspendSchema, _, control⟩ =>
  if id = stepID then suspendSchema else findInControl stepID control

def findInControl (stepID : StepID) : Control CompiledStep → Option CompiledSchema
 | .branches branches _ => findInBranches stepID branches
 | _ => none

def findInBranches (stepID : StepID) : List (CompiledBranch CompiledStep) → Option CompiledSchema
 | [] => none
 | ⟨_, steps, _⟩ :: bs =>
  match findInSteps stepID steps with
  | some schema => some schema
  | none => findInBranches stepID bs

def findInSteps (stepID : StepID) : List CompiledStep → Option CompiledSchema
 | [] => none
 | s :: ss =>
  match findSuspendSchema stepID s with
  | some schema => some schema
  | none => findInSteps stepID ss

end

def suspendSchemaForStep (stepID : StepID) : Option CompiledSchema := findInSteps stepID w.steps

def laterSuspend (best : Option (Nat × WorkflowSnapshotEnvelope))
  (candidate : WorkflowSnapshotRecord) : Option (Nat × WorkflowSnapshotEnvelope) :=
 match candidate.state with
 | .workflow env =>
  if env.suspend.isNone then best
  else
   match best with
   | none => some (candidate.sequence, env)
   | some b => if b.1 < candidate.sequence then some (candidate.sequence, env) else best
 | _ => best

/-- The pages of a listing, in order; a listing that never ends is not returned from. -/
def scanSuspendSnapshots (runID : RunID) :
  Nat → Option Nat → Option (Nat × WorkflowSnapshotEnvelope) →
   RuntimeProg (Except Err (Option (Nat × WorkflowSnapshotEnvelope)))
 | 0, _, _ => .ask .hang Empty.elim
 | n + 1, cursor, best => do
  let page ← runtimeOp (.repo (.listWorkflowSnapshots runID ⟨cursor, 1000⟩))
  match page with
  | .error e => .ret (.error (e.wrap ("lebro: list snapshots for run " ++ quote runID ++ ": ")))
  | .ok page =>
   if page.records.isEmpty && cursor.isNone then
    .ret (.error (.new ("lebro: no snapshot for suspended run " ++ quote runID)))
   else
    match page.nextCursor with
    | none => .ret (.ok (page.records.foldl laterSuspend best))
    | some next => scanSuspendSnapshots runID n (some next) (page.records.foldl laterSuspend best)

def loadSuspendSnapshot : RuntimeProg (Except Err WorkflowSnapshotEnvelope) := do
 let found ← scanSuspendSnapshots runID w.pages none none
 match found with
 | .error e => .ret (.error e)
 | .ok none => .ret (.error (.new ("lebro: no suspend snapshot for run " ++ quote runID)))
 | .ok (some best) => .ret (.ok best.2)

def setKey (key value : String) : StringMap → StringMap
 | [] => [(key, value)]
 | (k, v) :: rest => if k = key then (key, value) :: rest else (k, v) :: setKey key value rest

def mergeMetadata (base extra : StringMap) : StringMap :=
 extra.foldl (fun m kv => setKey kv.1 kv.2 m) base

variable (run : WorkflowRunRecord) (metadata : StringMap)

def resumedAnchor : RunAnchor where
 runID := run.id
 input := { input := run.input, threadID := run.threadID, runID := run.id, scope := run.scope,
            metadata }
 metadata := metadata
 startedAt := run.startedAt

def resumedEnv : ExecEnv where
 workflow := w
 anchor := resumedAnchor run metadata
 runID := run.id
 metadata := metadata
 overrides := []

def resumedState (envelope : WorkflowSnapshotEnvelope) (frames : List StepFrame)
  (current : RawMessage) : ExecState where
 frames := frames
 current := current
 completed := envelope.outputs
 path := envelope.path
 fanOut := envelope.fanOut
 forEach := envelope.forEach
 position := envelope.step

/-- The step that a resumed event names: the next one of the top frame, when it has one. -/
def nextStepID : List StepFrame → StepID
 | [] => ""
 | f :: _ => ((f.steps[f.index]?).map CompiledStep.id).getD ""

def continueRun (envelope : WorkflowSnapshotEnvelope) (frames : List StepFrame)
  (current : RawMessage) : RuntimeProg RunOutcome := do
 emitRun { type := .resumed, runID := run.id, step := envelope.step + 1,
           stepID := nextStepID frames }
 executeFrames (resumedEnv w run metadata) (resumedState envelope frames current)

def checkResumeInput (stepID : StepID) (contract input : RawMessage) : Option Err :=
 match suspendSchemaForStep w stepID with
 | none => some (.new ("lebro: cannot resolve SuspendSchema for step " ++ quote stepID ++
   " to validate resume input"))
 | some schema =>
  match validateStepValue (some schema) .resumeInput input with
  | some e => some { errInvalidResumeInput with
    message := "lebro: " ++ errInvalidResumeInput.message ++ ": " ++ e.message }
  | none =>
   if ¬ contract.isEmpty ∧ ¬ rawJSONEqual w.number input contract then
    some { errInvalidResumeInput with
     message := "lebro: " ++ errInvalidResumeInput.message ++
      ": resume input does not match the persisted contract" }
   else none

def resumeSuspended (input : WorkflowResumeInput) (run : WorkflowRunRecord) :
  RuntimeProg RunOutcome := do
 let denial ← authorizeRun w
 match denial with
 | some e => .ret (rejected .unauthorized e)
 | none => do
  let loaded ← loadSuspendSnapshot w input.runID
  match loaded with
  | .error e => .ret (rejected .stepFailed e)
  | .ok envelope =>
   let suspend := envelope.suspend.getD {}
   if suspend.wake.isSome then .ret (rejected .stepFailed errSleepRequiresScheduler)
   else
    match checkResumeInput w envelope.stepID suspend.contract input.input with
    | some e => .ret (rejected .stepFailed e)
    | none =>
     match resumeFrames w envelope.path envelope.stepID with
     | none => .ret (rejected .stepFailed (.new
       ("lebro: cannot resolve resume frame for suspended step " ++
        quote envelope.stepID)))
     | some frames =>
      continueRun w run (mergeMetadata run.metadata input.metadata) envelope frames
       input.input

def resume (input : WorkflowResumeInput) : RuntimeProg RunOutcome :=
 if w.store then do
  let err ← ctxErr
  match err with
  | some e => .ret (rejected .cancelled e)
  | none => do
   let found ← runtimeOp (.repo (.getWorkflowRun input.runID))
   match found with
   | .error e => .ret (rejected .stepFailed
     (e.wrap ("lebro: load suspended run " ++ quote input.runID ++ ": ")))
   | .ok run =>
    if run.workflowID ≠ w.definition.id then
     .ret (rejected .stepFailed (.new ("lebro: run " ++ quote input.runID ++
      " belongs to workflow " ++ quote run.workflowID ++ ", not " ++
      quote w.definition.id)))
    else if run.status ≠ .suspended then
     .ret (rejected .stepFailed (errNotSuspended input.runID run.status))
    else resumeSuspended w input run
 else .ret (rejected .stepFailed errResumeRequiresStore)

def failWake (err : Err) : RunOutcome where
 error := some (.plain err)

def wakeSuspended (token : String) (run : WorkflowRunRecord) : RuntimeProg RunOutcome := do
 let loaded ← loadSuspendSnapshot w runID
 match loaded with
 | .error e => .ret (failWake e)
 | .ok envelope =>
  let suspend := envelope.suspend.getD {}
  if suspend.wake.all fun wake => wake.token ≠ token then .ret (failWake errWakeupStale)
  else do
   let denial ← authorizeRun w
   match denial with
   | some e => .ret (failWake e)
   | none =>
    match resumeFrames w envelope.path envelope.stepID with
    | none => .ret (failWake (.new ("lebro: cannot resolve resume frame for sleep step " ++
      quote envelope.stepID)))
    | some frames => continueRun w run run.metadata envelope frames suspend.payload

def resumeWake (token : String) : RuntimeProg RunOutcome :=
 if w.store then do
  let err ← ctxErr
  match err with
  | some e => .ret (failWake e)
  | none => do
   let found ← runtimeOp (.repo (.getWorkflowRun runID))
   match found with
   | .error e => .ret (failWake e)
   | .ok run =>
    if run.workflowID ≠ w.definition.id ∨ run.status ≠ .suspended then
     .ret (failWake errWakeupStale)
    else wakeSuspended w runID token run
 else .ret (failWake errWakeupStale)

end Lebro.WorkflowRuns
