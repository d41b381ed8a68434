import Lebro.WorkflowPersistence

set_option autoImplicit false

namespace Lebro.WorkflowExecution

open EffectProgram RuntimeTypes RuntimeRecords RuntimeEffects WorkflowSteps WorkflowRetry
open WorkflowRegions WorkflowPersistence

inductive RunError where
 | workflow (err : WorkflowError)
 | plain (err : Err)

structure RunOutcome where
 result : WorkflowRunResult := {}
 error : Option RunError := none

structure StepFrame where
 steps : List CompiledStep
 index : Nat

/-- The parameters of `executeFrames` that stay the same in its loop. -/
structure ExecEnv where
 workflow : LinearWorkflow
 anchor : RunAnchor
 runID : RunID
 metadata : StringMap
 overrides : Overrides

/-- The variables of the loop, with the top frame first. -/
structure ExecState where
 frames : List StepFrame
 current : RawMessage
 completed : List RawMessage
 path : List StepID
 fanOut : List FanOutJoinResult
 forEach : List ForEachResult
 position : Nat
 lastStepID : StepID := ""
 lastPosition : Nat := 0

variable (env:ExecEnv) (st:ExecState) (step:CompiledStep)

def advanceTop : List StepFrame → List StepFrame
 | [] => []
 | f :: fs => { f with index := f.index + 1 } :: fs

def ExecState.withFrames (frames : List StepFrame) : ExecState := { st with frames }

def ExecState.enterStep : ExecState := { st with position := st.position + 1 }

def ExecState.enterBranch (b : CompiledBranch CompiledStep) : ExecState :=
 { st with path := st.path ++ [b.entryID], frames := ⟨b.steps, 0⟩ :: st.frames }

def ExecState.complete (stepID : StepID) (output : RawMessage) : ExecState :=
 { st with
   frames := advanceTop st.frames
   current := output
   completed := st.completed ++ [output]
   lastStepID := stepID
   lastPosition := st.position }

def failResult : WorkflowRunResult where
 id := env.runID
 status := .failed
 metadata := env.metadata
 path := st.path
 fanOut := st.fanOut

def fail (err : WorkflowError) : RunOutcome where
 result := failResult env st
 error := some (.workflow err)

def cancelled (stepID : StepID) (err : Err) : RunOutcome where
 result := { failResult env st with status := .cancelled }
 error := some (.workflow ⟨.cancelled, st.position, stepID, preferContextError err err⟩)

def emitStepStarted (stepID : StepID) : RuntimeProg Unit :=
 emitRun { type := .stepStarted, runID := env.runID, step := st.position, stepID }

def emitStepFinished (stepID : StepID) (err : Option WorkflowError) : RuntimeProg Unit :=
 emitRun { type := .stepFinished, runID := env.runID, step := st.position, stepID,
           err := err.map WorkflowError.toErr }

def emitTerminal (step : Nat) (stepID : StepID) (type : RunEventType) (status : RunStatus)
  (err : Option Err) : RuntimeProg Unit :=
 emitRun { type, runID := env.runID, step, stepID, status, err }

def persistTerminalBestEffort (status : RunStatus) (failure : WorkflowError) : RuntimeProg Unit :=
  do
 let _ ← persistTerminal env.workflow env.anchor st.path st.lastPosition st.lastStepID st.fanOut
  st.completed status (some failure)
 .ret ()

/-- How a step ends. `stranded` is the failure of a foreach or loop step whose boundary could not be
written; a failed foreach step also returns the item results. -/
inductive StepEnd where
 | advanced (st : ExecState)
 | failed (st : ExecState) (err : WorkflowError) (forEach : List ForEachResult := [])
 | stranded (st : ExecState) (err : WorkflowError)
 | cancelled (st : ExecState) (err : WorkflowError) (reported : Err)
   (forEach : List ForEachResult := [])
 | suspended (st : ExecState) (result : WorkflowRunResult)

def withForEach (forEach : List ForEachResult) (out : RunOutcome) : RunOutcome :=
 { out with result := { out.result with forEach } }

/-- The exits of a step. All but `stranded` write a terminal record when the run ends. -/
def finishStep (stepID : StepID) : StepEnd → RuntimeProg (ExecState ⊕ RunOutcome)
 | .advanced st => do
  emitStepFinished env st stepID none
  .ret (.inl st)
 | .failed st err forEach => do
  emitStepFinished env st stepID (some err)
  emitTerminal env st.position stepID .failed .failed (some err.toErr)
  persistTerminalBestEffort env st .failed err
  .ret (.inr (withForEach forEach (fail env st err)))
 | .stranded st err => do
  emitStepFinished env st stepID (some err)
  emitTerminal env st.position stepID .failed .failed (some err.toErr)
  .ret (.inr (fail env st err))
 | .cancelled st err reported forEach => do
  emitStepFinished env st stepID (some err)
  emitTerminal env st.position stepID .cancelled .cancelled (some reported)
  persistTerminalBestEffort env st .cancelled err
  .ret (.inr (withForEach forEach (cancelled env st stepID err.err)))
 | .suspended st result => do
  emitStepFinished env st stepID none
  emitRun { type := .suspended, runID := env.runID, step := st.position, stepID }
  .ret (.inr { result })

def exitOutcome (stepID : StepID) : StepEnd → ExecState ⊕ RunOutcome
 | .advanced st => .inl st
 | .failed st err forEach => .inr (withForEach forEach (fail env st err))
 | .stranded st err => .inr (fail env st err)
 | .cancelled st err _ forEach => .inr (withForEach forEach (cancelled env st stepID err.err))
 | .suspended _ result => .inr { result }

lemma wp_finishStep_exitOutcome {σ:Type} {M} (hM:∀ s o,M.demand s o) (env stepID)
  (ending:StepEnd) (s:σ) :
  wp M (finishStep env stepID ending) (fun res _=>res=exitOutcome env stepID ending) s := by
 cases ending with
 | advanced st => exact wp_seq (wp_trivial hM) fun _ _ _=>rfl
 | failed st err forEach =>
  exact wp_seq (wp_trivial hM) fun _ _ _=>wp_seq (wp_trivial hM) fun _ _ _ =>
   wp_seq (wp_trivial hM) fun _ _ _=>rfl
 | stranded st err =>
  exact wp_seq (wp_trivial hM) fun _ _ _=>wp_seq (wp_trivial hM) fun _ _ _=>rfl
 | cancelled st err reported forEach =>
  exact wp_seq (wp_trivial hM) fun _ _ _=>wp_seq (wp_trivial hM) fun _ _ _ =>
   wp_seq (wp_trivial hM) fun _ _ _=>rfl
 | suspended st result =>
  exact wp_seq (wp_trivial hM) fun _ _ _=>wp_seq (wp_trivial hM) fun _ _ _=>rfl

def failRegion (err : WorkflowError) (forEach : List ForEachResult := []) : StepEnd :=
 if err.kind = .cancelled then .cancelled st err err.toErr forEach else .failed st err forEach

def stepRun : StepRun := ⟨env.runID, st.position⟩

def withValidInput (kind : WorkflowErrorKind) (next : RuntimeProg StepEnd) : RuntimeProg StepEnd :=
 match validateStepValue step.inputSchema .stepInput st.current with
 | some e => .ret (.failed st ⟨kind, st.position, step.id, e⟩)
 | none => next

def persistFailure (kind : String) (stepID : StepID) (e : Err) : WorkflowError :=
 ⟨.stepFailed, st.position, stepID,
  e.wrap ("lebro: persist workflow " ++ kind ++ " " ++ quote stepID ++ ": ")⟩

def runBranching (branches : List (CompiledBranch CompiledStep)) (defaultBranch : String) :
  RuntimeProg StepEnd :=
 withValidInput st step .invalidBranchInput do
  let selected ← liftStep (selectBranch step.id branches defaultBranch st.current)
  match selected with
  | .error e => .ret (.failed st ⟨selectionKind e, st.position, step.id, e⟩)
  | .ok b => do
   emitRun { type := .branchSelected, runID := env.runID, step := st.position,
             stepID := step.id, branch := b.name }
   .ret (.advanced (st.enterBranch b))

def runMap (path : String) (fields : StringMap) : RuntimeProg StepEnd :=
 withValidInput st step .invalidStepInput
  (match executeMap env.workflow.number path fields st.current with
  | .error e => .ret (.failed st ⟨.stepFailed, st.position, step.id, e⟩)
  | .ok output =>
   match validateStepValue step.outputSchema .stepOutput output with
   | some e => .ret (.failed st ⟨.invalidStepOutput, st.position, step.id, e⟩)
   | none => do
    let saved ← persistStep env.workflow env.anchor st.path st.position step.id output
     st.completed st.forEach
    match saved with
    | .error e => .ret (.failed st (persistFailure st "map step" step.id e))
    | .ok () => .ret (.advanced (st.complete step.id output)))

def runForEach (steps : List CompiledStep) (maxParallel : Nat) : RuntimeProg StepEnd :=
 withValidInput st step .invalidStepInput do
  let (result, output) ← executeForEach (stepRun env st) env.overrides step.id steps maxParallel
   st.current
  let st := { st with forEach := st.forEach ++ [result] }
  match output with
  | .error err => .ret (failRegion st err st.forEach)
  | .ok output => do
   let saved ← persistForEachStep env.workflow env.anchor st.path st.position step.id output
    st.completed st.forEach
   match saved with
   | .error e => .ret (.stranded st (persistFailure st "foreach step" step.id e))
   | .ok () => .ret (.advanced (st.complete step.id output))

def loopChildren (env : ExecEnv) (st : ExecState) (iteration : Nat) :
  List CompiledStep → RawMessage → RuntimeProg (Except WorkflowError RawMessage)
 | [], current => .ret (.ok current)
 | child :: rest, current => do
  let err ← ctxErr
  match err with
  | some e => .ret (.error ⟨.cancelled, st.position, child.id, e⟩)
  | none => do
   let result ← liftStep (runChild (stepRun env st) env.overrides
    ("iteration-" ++ toString iteration) child current)
   match result with
   | .error failure => .ret (.error failure)
   | .ok output => loopChildren env st iteration rest output

def emitLoopIteration (stepID : StepID) (iteration : Nat) (type : RunEventType)
  (err : Option WorkflowError) : RuntimeProg Unit :=
 emitRun { type, runID := env.runID, step := st.position, stepID, iteration,
           err := err.map WorkflowError.toErr }

def finishIteration (stepID : StepID) (iteration : Nat) (result : Except WorkflowError RawMessage) :
  RuntimeProg (Except WorkflowError RawMessage) := do
 emitLoopIteration env st stepID iteration .loopIterationFinished
  (match result with
  | .error e => some e
  | .ok _ => none)
 .ret result

def testCondition (stepID : StepID) (mode : LoopMode) (iteration : Nat) (current : RawMessage) :
  RuntimeProg (Except WorkflowError Bool) := do
 let err ← ctxErr
 match err with
 | some e => .ret (.error ⟨.cancelled, st.position, stepID, e⟩)
 | none => do
  let matched ← runtimeOp (.step (.loopCondition stepID current iteration))
  match matched with
  | .error e =>
   .ret (.error ⟨.stepFailed, st.position, stepID, e.wrap "lebro: loop condition failed: "⟩)
  | .ok matched => do
   let err ← ctxErr
   match err with
   | some e => .ret (.error ⟨.cancelled, st.position, stepID, e⟩)
   | none => .ret (.ok (if mode = .untilTrue then !matched else matched))

def checkpointAndTest (stepID : StepID) (mode : LoopMode) (iteration : Nat) (current : RawMessage) :
  RuntimeProg (Except WorkflowError Bool) := do
 let saved ← persistLoopCheckpoint env.workflow env.anchor st.position stepID iteration current
  st.completed
 match saved with
 | .error e => .ret (.error ⟨.stepFailed, st.position, stepID,
   e.wrap ("lebro: persist workflow loop checkpoint " ++ quote stepID ++ " iteration " ++
    toString iteration ++ ": ")⟩)
 | .ok () => testCondition st stepID mode iteration current

def errMaxIterations (stepID : StepID) (maxIterations : Nat) : Err :=
 .new ("lebro: workflow max iterations reached: step " ++ quote stepID ++ " (" ++
  toString maxIterations ++ ")")

/-- The iterations that are left, counted down; `iteration` is the number of the next one. -/
def loopFrom (env : ExecEnv) (st : ExecState) (stepID : StepID) (steps : List CompiledStep)
  (maxIterations : Nat) (mode : LoopMode) :
  Nat → Nat → RawMessage → RuntimeProg (Except WorkflowError RawMessage)
 | 0, _, _ => .ret (.error ⟨.maxIterations, st.position, stepID,
   .new "lebro: workflow max iterations reached"⟩)
 | left + 1, iteration, current => do
  let err ← ctxErr
  match err with
  | some e => .ret (.error ⟨.cancelled, st.position, stepID, e⟩)
  | none => do
   emitLoopIteration env st stepID iteration .loopIterationStarted none
   let body ← loopChildren env st iteration steps current
   match body with
   | .error failure => finishIteration env st stepID iteration (.error failure)
   | .ok current => do
    let goOn ← checkpointAndTest env st stepID mode iteration current
    match goOn with
    | .error failure => finishIteration env st stepID iteration (.error failure)
    | .ok false => finishIteration env st stepID iteration (.ok current)
    | .ok true =>
     if left = 0 then
      finishIteration env st stepID iteration
       (.error ⟨.maxIterations, st.position, stepID, errMaxIterations stepID maxIterations⟩)
     else do
      emitLoopIteration env st stepID iteration .loopIterationFinished none
      loopFrom env st stepID steps maxIterations mode left (iteration + 1) current

def executeLoop (stepID : StepID) (steps : List CompiledStep) (maxIterations : Nat)
  (mode : LoopMode) : RuntimeProg (Except WorkflowError RawMessage) :=
 loopFrom env st stepID steps maxIterations mode maxIterations 1 st.current

def runLoop (steps : List CompiledStep) (maxIterations : Nat) (mode : LoopMode) :
  RuntimeProg StepEnd :=
 withValidInput st step .invalidStepInput do
  let output ← executeLoop env st step.id steps maxIterations mode
  match output with
  | .error err => .ret (failRegion st err)
  | .ok output => do
   let saved ← persistStep env.workflow env.anchor st.path st.position step.id output
    st.completed st.forEach
   match saved with
   | .error e => .ret (.stranded st (persistFailure st "loop step" step.id e))
   | .ok () => .ret (.advanced (st.complete step.id output))

def runFanOut (branches : List (CompiledFanOutBranch CompiledStep)) (maxParallel : Nat)
  (failFast : Bool) : RuntimeProg StepEnd :=
 withValidInput st step .invalidFanOutInput do
  let (join, output) ← executeFanOut env.workflow.number (stepRun env st) env.overrides step.id
   branches maxParallel failFast st.current
  let joined := { st with fanOut := st.fanOut ++ [join] }
  match output with
  | .error err => .ret (failRegion joined err)
  | .ok output => do
   let saved ← persistFanOutStep env.workflow env.anchor st.path st.position step.id output
    st.completed [join]
   match saved with
   | .error e => .ret (.failed st (persistFailure st "fan-out step" step.id e))
   | .ok () => .ret (.advanced (joined.complete step.id output))

def suspendedResult (suspend : SuspendResult) (forEach : List ForEachResult := []) :
  WorkflowRunResult where
 id := env.runID
 status := .suspended
 metadata := env.metadata
 suspend := some suspend
 path := st.path
 fanOut := st.fanOut
 forEach := forEach

/-- A sleep step passes its input through, so both schemas judge the current value. `wakeAt` is
the wake time as a function of the clock. -/
def runSleep (wakeAt : Time → Time) : RuntimeProg StepEnd :=
 withValidInput st step .invalidStepInput
  (match validateStepValue step.outputSchema .stepOutput st.current with
  | some e => .ret (.failed st ⟨.invalidStepOutput, st.position, step.id, e⟩)
  | none => do
   let now ← runtimeOp .now
   let saved ← persistSleep env.workflow env.anchor st.path st.fanOut st.forEach st.position
    step.id st.completed st.current (wakeAt now)
   match saved with
   | .error e => .ret (.failed st (persistFailure st "sleep at step" step.id e))
   | .ok () =>
    let suspend : SuspendResult := { step := st.position, stepID := step.id, payload := st.current }
    .ret (.suspended st (suspendedResult env st suspend st.forEach)))

def suspendStep (signal : SuspendSignal) : RuntimeProg StepEnd := do
 let saved ← persistSuspend env.workflow env.anchor st.path st.fanOut st.forEach st.position
  step.id st.completed signal
 match saved with
 | .error e => .ret (.failed st (persistFailure st "suspend at step" step.id e))
 | .ok () =>
  let suspend : SuspendResult :=
   { step := st.position, stepID := signal.stepID, contract := signal.contract,
     payload := signal.payload }
  .ret (.suspended st (suspendedResult env st suspend))

def runHandler : RuntimeProg StepEnd :=
 withValidInput st step .invalidStepInput do
  let policy := resolveRetryPolicy step.retry env.overrides step.id
  let result ← liftStep (runStepWithRetry (stepRun env st) step policy st.current)
  match result with
  | .error (.cancelled cause) =>
   .ret (.cancelled st ⟨.cancelled, st.position, step.id, cause⟩ cause)
  | .error (.panicked cause) => .ret (.failed st ⟨.stepPanicked, st.position, step.id, cause⟩)
  | .error (.invalidOutput cause) =>
   .ret (.failed st ⟨.invalidStepOutput, st.position, step.id, cause⟩)
  | .error (.suspended signal) => suspendStep env st step signal
  | .error (.failed cause) => .ret (.failed st ⟨.stepFailed, st.position, step.id, cause⟩)
  | .ok output => do
   let saved ← persistStep env.workflow env.anchor st.path st.position step.id output
    st.completed st.forEach
   match saved with
   | .error e => .ret (.failed st (persistFailure st "step" step.id e))
   | .ok () => .ret (.advanced (st.complete step.id output))

def runControl : RuntimeProg StepEnd :=
 match step.control with
 | .branches branches defaultBranch => runBranching env st step branches defaultBranch
 | .map path fields => runMap env st step path fields
 | .forEach steps maxParallel => runForEach env st step steps maxParallel
 | .loop steps maxIterations mode => runLoop env st step steps maxIterations mode
 | .fanOut branches maxParallel failFast => runFanOut env st step branches maxParallel failFast
 | .sleep duration => runSleep env st step fun now => now + duration
 | .sleepUntil wakeAt => runSleep env st step fun _ => wakeAt
 | .handler => runHandler env st step

def executeStep : RuntimeProg (ExecState ⊕ RunOutcome) := do
 emitStepStarted env st step.id
 let ending ← runControl env st step
 finishStep env step.id ending

def cancelRun (stepID : StepID) (err : Err) : RuntimeProg (ExecState ⊕ RunOutcome) := do
 emitTerminal env st.position stepID .cancelled .cancelled (some err)
 persistTerminalBestEffort env st .cancelled ⟨.cancelled, st.position, stepID, err⟩
 .ret (.inr (cancelled env st stepID err))

def succeededResult : WorkflowRunResult where
 id := env.runID
 status := .succeeded
 output := st.current
 metadata := env.metadata
 path := st.path
 fanOut := st.fanOut
 forEach := st.forEach

def succeedRun : RuntimeProg RunOutcome := do
 let saved ← persistTerminal env.workflow env.anchor st.path st.lastPosition st.lastStepID
  st.fanOut st.completed .succeeded none
 match saved with
 | .error e => do
  let err : WorkflowError := ⟨.stepFailed, 0, "", e.wrap "lebro: persist workflow terminal state: "⟩
  emitTerminal env st.lastPosition st.lastStepID .failed .failed (some err.toErr)
  .ret (fail env st err)
 | .ok () => do
  emitTerminal env st.lastPosition st.lastStepID .succeeded .succeeded none
  .ret { result := succeededResult env st }

def executeRound : RuntimeProg (ExecState ⊕ RunOutcome) :=
 match st.frames with
 | [] => do
  let out ← succeedRun env st
  .ret (.inr out)
 | f :: fs =>
  match f.steps[f.index]? with
  | none => .ret (.inl (st.withFrames (advanceTop fs)))
  | some step => do
   let err ← ctxErr
   match err with
   | some e => cancelRun env st.enterStep step.id e
   | none => executeStep env st.enterStep step

lemma executeRound_nil {env st} (h:st.frames=[]) :
  executeRound env st=succeedRun env st >>= fun out=>.ret (.inr out) := by
 unfold executeRound
 rw [h]

lemma executeRound_pop {env st f fs} (h:st.frames=f :: fs) (hf:f.steps[f.index]? = none) :
  executeRound env st = .ret (.inl (st.withFrames (advanceTop fs))) := by
 unfold executeRound
 rw [h]
 dsimp only
 rw [hf]

lemma executeRound_step {env:ExecEnv} {st:ExecState} {f:StepFrame} {fs:List StepFrame}
  {step:CompiledStep} (h:st.frames=f :: fs) (hf:f.steps[f.index]? = some step) :
  executeRound env st=ctxErr >>= fun err=>match err with
   | some e => cancelRun env st.enterStep step.id e
   | none => executeStep env st.enterStep step := by
 unfold executeRound
 rw [h]
 dsimp only
 rw [hf]

/-- The work left in the frames below the top one, whose current steps have been entered. -/
def enteredSize : List StepFrame → Nat
 | [] => 0
 | f :: fs => stepsSize (f.steps.drop (f.index + 1)) + 1 + enteredSize fs

def framesSize : List StepFrame → Nat
 | [] => 0
 | f :: fs => stepsSize (f.steps.drop f.index) + 1 + enteredSize fs

/-- The loop of `executeFrames`; the bound on its rounds is never reached. -/
def executeFrames : RuntimeProg RunOutcome :=
 Prog.iterate (executeRound env) (.ask .hang Empty.elim) (framesSize st.frames + 1) st

end Lebro.WorkflowExecution
