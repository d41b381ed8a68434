import Lebro.WorkflowRegions
import Mathlib.Algebra.Group.Nat.Defs

set_option autoImplicit false

namespace Lebro.WorkflowPersistence

open RuntimeTypes RuntimeRecords RuntimeEffects JsonCodec WorkflowSteps

/-- The stable fields of a run that every persistence point writes. -/
structure RunAnchor where
 runID : RunID
 input : WorkflowRunInput
 metadata : StringMap
 startedAt : Time

variable (w : LinearWorkflow) (anchor : RunAnchor)

def workflowSnapshotSchemaVersion : Nat := 7

variable (runID : RunID) (path : List StepID) (position : Nat)

def workflowSnapshotSequence (iteration : Nat) : Nat := position * 2 ^ 32 + iteration

def workflowTerminalSnapshotSequence : Nat := position * 2 ^ 32 + (2 ^ 32 - 1)

def snapshotID : String := runID ++ "-snapshot-" ++ toString position

def loopSnapshotID (iteration : Nat) : String :=
 snapshotID runID position ++ "-loop-" ++ toString iteration

def wakeToken : String := runID ++ "-wake-" ++ toString position

def baseRunRecord (status : RunStatus) (now : Time) : WorkflowRunRecord where
 id := anchor.runID
 workflowID := w.definition.id
 workflowVersion := w.definition.version
 threadID := anchor.input.threadID
 scope := anchor.input.scope
 input := anchor.input.input
 metadata := anchor.metadata
 startedAt := anchor.startedAt
 status := status
 updatedAt := now

def boundarySnapshot (id : String) (sequence : Nat) (env : WorkflowSnapshotEnvelope) (now : Time) :
  WorkflowSnapshotRecord where
 id := id
 runID := anchor.runID
 sequence := sequence
 schemaVersion := workflowSnapshotSchemaVersion
 state := .workflow env
 createdAt := now

def saveBoundary (snapshot : WorkflowSnapshotRecord) (record : WorkflowRunRecord) :
  RepoProg (Except Err Unit) := do
 let saved ← repoOp (.saveWorkflowSnapshot snapshot)
 match saved with
 | .error e => .ret (.error e)
 | .ok () => repoOp (.saveWorkflowRun record)

def commitEncoded (context : String) (env : WorkflowSnapshotEnvelope)
  (body : WorkflowSnapshotEnvelope → Time → RepoProg (Except Err Unit)) :
  RuntimeProg (Except Err Unit) :=
 match encodeEnvelope env with
 | .error e => .ret (.error (e.wrap ("lebro: encode workflow " ++ context ++ ": ")))
 | .ok state => do
  let now ← runtimeOp .now
  runtimeOp (.transaction (body state now))

/-- A boundary with its run record; nothing happens without a store. -/
def persistBoundary (context id : String) (sequence : Nat) (env : WorkflowSnapshotEnvelope)
  (record : Time → WorkflowRunRecord) : RuntimeProg (Except Err Unit) :=
 if w.store then
  commitEncoded context env fun state now =>
   saveBoundary (boundarySnapshot anchor id sequence state now) (record now)
 else .ret (.ok ())

def boundaryRecord (status : RunStatus) (position : Nat) (stepID : StepID)
  (outputs : List RawMessage) (path : List StepID) (now : Time) : WorkflowRunRecord :=
 { baseRunRecord w anchor status now with
   currentStep := position, currentStepID := stepID, stepOutputs := outputs, path := path }

variable (stepID : StepID) (fanOut : List FanOutJoinResult) (output : RawMessage)

def persistStep (completed : List RawMessage) (forEach : List ForEachResult) :
  RuntimeProg (Except Err Unit) :=
 let outputs := completed ++ [output]
 persistBoundary w anchor "snapshot" (snapshotID anchor.runID position)
  (workflowTerminalSnapshotSequence position)
  { step := position, stepID, output, outputs, path, forEach }
  (boundaryRecord w anchor .running position stepID outputs path)

def appendOutput (completed : List RawMessage) (output : RawMessage) : List RawMessage :=
 if output.isEmpty then completed else completed ++ [output]

def persistFanOutStep (completed : List RawMessage) (fanOut : List FanOutJoinResult) :
  RuntimeProg (Except Err Unit) :=
 let outputs := appendOutput completed output
 persistBoundary w anchor "fan-out snapshot" (snapshotID anchor.runID position)
  (workflowTerminalSnapshotSequence position)
  { step := position, stepID, output, outputs, path, fanOut }
  (boundaryRecord w anchor .running position stepID outputs path)

def persistForEachStep (completed : List RawMessage) (forEach : List ForEachResult) :
  RuntimeProg (Except Err Unit) :=
 let outputs := appendOutput completed output
 persistBoundary w anchor "foreach snapshot" (snapshotID anchor.runID position)
  (workflowTerminalSnapshotSequence position)
  { step := position, stepID, output, outputs, path, forEach }
  (boundaryRecord w anchor .running position stepID outputs path)

def persistLoopCheckpoint (iteration : Nat) (output : RawMessage) (completed : List RawMessage) :
  RuntimeProg (Except Err Unit) :=
 let outputs := completed ++ [output]
 persistBoundary w anchor "loop checkpoint" (loopSnapshotID anchor.runID position iteration)
  (workflowSnapshotSequence position iteration)
  { step := position, stepID, output, outputs,
    loops := [{ stepID, iterations := iteration, output }] }
  (boundaryRecord w anchor .running position stepID outputs [])

variable (forEach : List ForEachResult)

def persistSuspend (position : Nat) (stepID : StepID) (completed : List RawMessage)
  (signal : SuspendSignal) : RuntimeProg (Except Err Unit) :=
 persistBoundary w anchor "suspend snapshot" (snapshotID anchor.runID position)
  (workflowTerminalSnapshotSequence position)
  { step := position, stepID, outputs := completed,
    suspend := some { contract := signal.contract, payload := signal.payload },
    path, fanOut, forEach }
  (boundaryRecord w anchor .suspended position stepID completed path)

def sleepSchedule (wakeAt : Time) (now : Time) : ScheduleRecord where
 id := wakeToken anchor.runID position
 workflowID := w.definition.id
 scope := anchor.input.scope
 spec := "@once"
 wakeRunID := anchor.runID
 wakeToken := wakeToken anchor.runID position
 nextFireAt := some wakeAt
 createdAt := now
 updatedAt := now

def saveSleep (snapshot : WorkflowSnapshotRecord) (record : WorkflowRunRecord)
  (wakeup : ScheduleRecord) : RepoProg (Except Err Unit) := do
 let saved ← saveBoundary snapshot record
 match saved with
 | .error e => .ret (.error e)
 | .ok () => repoOp (.saveSchedule wakeup)

def persistSleep (position : Nat) (stepID : StepID) (completed : List RawMessage)
  (input : RawMessage) (wakeAt : Time) : RuntimeProg (Except Err Unit) :=
 if w.store then
  commitEncoded "sleep snapshot"
   { step := position, stepID, outputs := completed,
     suspend := some
      { payload := input, wake := some ⟨wakeAt, wakeToken anchor.runID position⟩ },
     path, fanOut, forEach }
   fun state now => saveSleep
    (boundarySnapshot anchor (snapshotID anchor.runID position)
     (workflowTerminalSnapshotSequence position) state now)
    (boundaryRecord w anchor .suspended position stepID completed path now)
    (sleepSchedule w anchor position wakeAt now)
 else .ret (.error (.new "lebro: durable sleep requires a bound store"))

def startTime : RuntimeProg Time := if w.store then runtimeOp .now else .ret (0 : Int)

def newAnchor (input : WorkflowRunInput) : RuntimeProg RunAnchor := do
 let startedAt ← startTime w
 .ret { runID, input, metadata := input.metadata, startedAt }

def persistRunStart : RuntimeProg (Except Err Unit) :=
 if w.store then do
  let now ← runtimeOp .now
  runtimeOp (.repo (.saveWorkflowRun (baseRunRecord w anchor .running now)))
 else .ret (.ok ())

def terminalRecord (currentStep : Nat) (currentStepID : StepID) (fanOut : List FanOutJoinResult)
  (completed : List RawMessage) (status : RunStatus) (failure : Option WorkflowError)
  (now : Time) : WorkflowRunRecord :=
 { boundaryRecord w anchor status currentStep currentStepID completed path now with
   finishedAt := some now
   failure := failure.map WorkflowError.data
   output := if status = .succeeded then completed.getLast?.getD .empty else .empty
   fanOut := fanOut }

def persistTerminal (currentStep : Nat) (currentStepID : StepID) (fanOut : List FanOutJoinResult)
  (completed : List RawMessage) (status : RunStatus) (failure : Option WorkflowError) :
  RuntimeProg (Except Err Unit) :=
 if w.store then do
  let now ← runtimeOp .now
  let saved ← runtimeOp (.repo (.saveWorkflowRun
   (terminalRecord w anchor path currentStep currentStepID fanOut completed status failure now)))
  match saved with
  | .error e => .ret (if status = .succeeded then .error e else .ok ())
  | .ok () => .ret (.ok ())
 else .ret (.ok ())

end Lebro.WorkflowPersistence
