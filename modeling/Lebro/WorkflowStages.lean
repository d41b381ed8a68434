import Lebro.WorkflowRounds
import Lebro.WorkflowUserCode

set_option autoImplicit false

namespace Lebro.WorkflowStages

open EffectProgram EffectRuns RuntimeTypes RuntimeRecords RuntimeEffects JsonCodec WorkflowSteps
open WorkflowRetry WorkflowRegions WorkflowPersistence WorkflowExecution WorkflowRuns WorkflowRounds
open WorkflowUserCode

/-- Where the executor is: its frames, the branches entered, the step that was entered last and the
step that was completed last. -/
structure Place where
 frames : List StepFrame := []
 path : List StepID := []
 position : Nat := 0
 lastStepID : StepID := ""
 lastPosition : Nat := 0

def place (st : ExecState) : Place where
 frames := st.frames
 path := st.path
 position := st.position
 lastStepID := st.lastStepID
 lastPosition := st.lastPosition

def Place.enter (pl : Place) : Place := { pl with position := pl.position + 1 }

def Place.select (pl : Place) (b : CompiledBranch CompiledStep) : Place :=
 { pl with path := pl.path ++ [b.entryID], frames := ⟨b.steps, 0⟩ :: pl.frames }

def Place.complete (pl : Place) (stepID : StepID) : Place :=
 { pl with
   frames := advanceTop pl.frames
   lastStepID := stepID
   lastPosition := pl.position }

def Place.pop (pl : Place) (fs : List StepFrame) : Place := { pl with frames := advanceTop fs }

def resumedPlace (env : WorkflowSnapshotEnvelope) (frames : List StepFrame) : Place where
 frames := frames
 path := env.path
 position := env.step

/-- How far a call has come. `checked` follows the checkpoint of an iteration, `passed` and
`waiting` the boundary of a step, and nothing is written after `closed`. -/
inductive Stage where
 | idle
 | reading
 | found (record : WorkflowRunRecord)
 | loaded (record : WorkflowRunRecord) (env : WorkflowSnapshotEnvelope)
 | resting
 | within (step : CompiledStep) (iterations : Nat)
 | looping (step : CompiledStep) (iteration : Nat)
 | checked (step : CompiledStep) (iteration : Nat)
 | passed (step : CompiledStep)
 | waiting (step : CompiledStep)
 | paused (step : CompiledStep)
 | failing
 | ended
 | written
 | unwritten
 | closed

def Stage.GivesUp : Stage → Prop
 | .idle => True
 | .resting => True
 | .failing => True
 | _ => False

def Stage.Final : Stage → Prop
 | .idle => True
 | .reading => True
 | .found _ => True
 | .loaded _ _ => True
 | .ended => True
 | .closed => True
 | _ => False

def Refusal (e : RunEvent) : Prop :=
 (e.type = .failed ∧ e.status = .failed) ∨ (e.type = .cancelled ∧ e.status = .cancelled)

/-- The events of a call, each with the stages before and after it. -/
inductive Emits (id : RunID) : Stage → Place → RunEvent → Stage → Place → Prop where
 | started {pl : Place} :
   Emits id .idle pl { type := .started, runID := id, step := 0, stepID := "" } .resting pl
 | stepStarted {pl : Place} {f : StepFrame} {fs : List StepFrame} {step : CompiledStep}
   (hframes : pl.frames = f :: fs) (hf : f.steps[f.index]? = some step) :
   Emits id .resting pl
    { type := .stepStarted, runID := id, step := pl.position + 1, stepID := step.id }
    (.within step 0) pl.enter
 | branchSelected {pl : Place} {step : CompiledStep} {b : CompiledBranch CompiledStep}
   {branches : List (CompiledBranch CompiledStep)} {defaultBranch : String}
   (hc : step.control = .branches branches defaultBranch) (hb : b ∈ branches) :
   Emits id (.within step 0) pl
    { type := .branchSelected, runID := id, step := pl.position, stepID := step.id,
      branch := b.name } (.passed step) (pl.select b)
 | iterationStarted {pl : Place} {step : CompiledStep} {steps : List CompiledStep}
   {maxIterations n : Nat} {mode : LoopMode}
   (hc : step.control = .loop steps maxIterations mode) (hn : n < maxIterations) :
   Emits id (.within step n) pl
    { type := .loopIterationStarted, runID := id, step := pl.position, stepID := step.id,
      iteration := n + 1 } (.looping step (n + 1)) pl
 | iterationFinished {pl : Place} {step : CompiledStep} {k : Stage} {n : Nat} {err : Option Err}
   (hk : k = .looping step n ∨ k = .checked step n) :
   Emits id k pl
    { type := .loopIterationFinished, runID := id, step := pl.position, stepID := step.id,
      iteration := n, err } (.within step n) pl
 | stepPassed {pl : Place} {step : CompiledStep} :
   Emits id (.passed step) pl
    { type := .stepFinished, runID := id, step := pl.position, stepID := step.id } .resting pl
 | stepFailed {pl : Place} {step : CompiledStep} {n : Nat} {err : Err} :
   Emits id (.within step n) pl
    { type := .stepFinished, runID := id, step := pl.position, stepID := step.id,
      err := some err } .failing pl
 | stepWaiting {pl : Place} {step : CompiledStep} :
   Emits id (.waiting step) pl
    { type := .stepFinished, runID := id, step := pl.position, stepID := step.id }
    (.paused step) pl
 | suspended {pl : Place} {step : CompiledStep} :
   Emits id (.paused step) pl
    { type := .suspended, runID := id, step := pl.position, stepID := step.id } .closed pl
 | refused {pl : Place} {k : Stage} {e : RunEvent} (hk : k.GivesUp) (hid : e.runID = id)
   (he : Refusal e) : Emits id k pl e .ended pl
 | unsaved {pl : Place} {e : RunEvent} (hid : e.runID = id) (he : Refusal e) :
   Emits id .unwritten pl e .closed pl
 | succeeded {pl : Place} :
   Emits id .written pl
    { type := .succeeded, runID := id, step := pl.lastPosition, stepID := pl.lastStepID,
      status := .succeeded } .closed pl

structure BoundaryOf (runID : RunID) (position : Nat) (stepID : StepID) (path : List StepID)
  (id : String) (sequence : Nat) (status : RunStatus) (suspend : Option SuspendEnvelope)
  (snapshot : WorkflowSnapshotRecord) (record : WorkflowRunRecord) : Prop where
 run : snapshot.runID = runID
 snapshotID : snapshot.id = id
 sequence : snapshot.sequence = sequence
 named : record.id = runID
 recordStatus : record.status = status
 recordPath : record.path = path
 currentStep : record.currentStep = position
 currentStepID : record.currentStepID = stepID
 state : ∃ env, snapshot.state = .workflow env ∧ env.step = position ∧ env.stepID = stepID ∧
  env.path = path ∧ env.suspend = suspend

structure TerminalOf (runID : RunID) (pl : Place) (record : WorkflowRunRecord) : Prop where
 named : record.id = runID
 path : record.path = pl.path
 currentStep : record.currentStep = pl.lastPosition
 currentStepID : record.currentStepID = pl.lastStepID
 status : record.status.terminal = true

/-- The writes of a call, each with the stages before it, after its failure and after its
success. -/
inductive Writes (w : LinearWorkflow) (id : RunID) :
  Stage → Place → RuntimeOp → Stage → Stage → Place → Prop where
 | start {pl : Place} {anchor : RunAnchor} {now : Time} (hid : anchor.runID = id) :
   Writes w id .idle pl (.repo (.saveWorkflowRun (baseRunRecord w anchor .running now))) .idle
    .idle pl
 | step {pl : Place} {step : CompiledStep} {n : Nat} {snapshot : WorkflowSnapshotRecord}
   {record : WorkflowRunRecord}
   (h : BoundaryOf id pl.position step.id pl.path (snapshotID id pl.position)
    (workflowTerminalSnapshotSequence pl.position) .running none snapshot record) :
   Writes w id (.within step n) pl (.transaction (saveBoundary snapshot record))
    (.within step n) (.passed step) (pl.complete step.id)
 | checkpoint {pl : Place} {step : CompiledStep} {n : Nat} {snapshot : WorkflowSnapshotRecord}
   {record : WorkflowRunRecord}
   (h : BoundaryOf id pl.position step.id [] (loopSnapshotID id pl.position n)
    (workflowSnapshotSequence pl.position n) .running none snapshot record) :
   Writes w id (.looping step n) pl (.transaction (saveBoundary snapshot record))
    (.looping step n) (.checked step n) pl
 | suspend {pl : Place} {step : CompiledStep} {suspend : SuspendEnvelope}
   {snapshot : WorkflowSnapshotRecord} {record : WorkflowRunRecord} (hwake : suspend.wake = none)
   (h : BoundaryOf id pl.position step.id pl.path (snapshotID id pl.position)
    (workflowTerminalSnapshotSequence pl.position) .suspended (some suspend) snapshot record) :
   Writes w id (.within step 0) pl (.transaction (saveBoundary snapshot record))
    (.within step 0) (.waiting step) pl
 | sleep {pl : Place} {step : CompiledStep} {payload : RawMessage} {wakeAt : Time}
   {snapshot : WorkflowSnapshotRecord} {record : WorkflowRunRecord} {wakeup : ScheduleRecord}
   (h : BoundaryOf id pl.position step.id pl.path (snapshotID id pl.position)
    (workflowTerminalSnapshotSequence pl.position) .suspended
    (some { payload, wake := some ⟨wakeAt, wakeToken id pl.position⟩ }) snapshot record) :
   Writes w id (.within step 0) pl (.transaction (saveSleep snapshot record wakeup))
    (.within step 0) (.waiting step) pl
 | terminal {pl : Place} {record : WorkflowRunRecord} (h : TerminalOf id pl record) :
   Writes w id .ended pl (.repo (.saveWorkflowRun record)) .closed .closed pl
 | success {pl : Place} {record : WorkflowRunRecord} (hframes : pl.frames = [])
   (h : TerminalOf id pl record) :
   Writes w id .resting pl (.repo (.saveWorkflowRun record)) .unwritten .written pl

inductive Region (run : StepRun) : {α : Type} → RuntimeProg α → Prop where
 | select (stepID : StepID) (branches : List (CompiledBranch CompiledStep))
   (defaultBranch : String) (input : RawMessage) :
   Region run (liftStep (selectBranch stepID branches defaultBranch input))
 | forEach (overrides : Overrides) (stepID : StepID) (steps : List CompiledStep)
   (maxParallel : Nat) (input : RawMessage) :
   Region run (executeForEach run overrides stepID steps maxParallel input)
 | fanOut (number : String → Option String) (overrides : Overrides) (stepID : StepID)
   (branches : List (CompiledFanOutBranch CompiledStep)) (maxParallel : Nat) (failFast : Bool)
   (input : RawMessage) :
   Region run (executeFanOut number run overrides stepID branches maxParallel failFast input)
 | children {env : ExecEnv} {st : ExecState} (h : stepRun env st = run) (iteration : Nat)
   (steps : List CompiledStep) (input : RawMessage) :
   Region run (loopChildren env st iteration steps input)
 | condition (st : ExecState) (stepID : StepID) (mode : LoopMode) (iteration : Nat)
   (output : RawMessage) : Region run (testCondition st stepID mode iteration output)
 | handler (step : CompiledStep) (policy : Option RetryPolicy) (input : RawMessage) :
   Region run (liftStep (runStepWithRetry run step policy input))

lemma Region.asks {run:StepRun} {α:Type} {p:RuntimeProg α} (h:Region run p) :
  Asks (RegionOp run.position) p := by
 cases h with
 | select stepID branches defaultBranch input => exact asks_liftStep (asks_selectBranch _ _ _ _ _)
 | forEach overrides stepID steps maxParallel input => exact asks_executeForEach _ _ _ _ _ _ _
 | fanOut number overrides stepID branches maxParallel failFast input =>
  exact asks_executeFanOut _ _ _ _ _ _ _ _ _
 | children h iteration steps input =>
  subst h
  exact asks_loopChildren _ _ _ _ _
 | condition st stepID mode iteration output => exact asks_testCondition _ _ _ _ _ _
 | handler step policy input =>
  exact asks_liftStep ((asks_runStepWithRetry run step policy input).mono
   fun _=>childOp_of_attemptOp)

inductive Glances (w : LinearWorkflow) (id : RunID) : RuntimeOp → Prop where
 | ctxErr : Glances w id (.step .ctxErr)
 | now : Glances w id .now
 | authorize : Glances w id (.authorize .workflowRun w.definition.id)
 | claim : Glances w id (.claim w.executor id)
 | release : Glances w id (.release w.executor id)

section

variable {σ:Type}

def Saved (I : RunID → Stage → Place → σ → Prop) (id : RunID) (pl : Place) (kf k' : Stage)
  (pl' : Place) : Except Err Unit → σ → Prop
 | .ok _, u => I id k' pl' u
 | .error _, u => I id kf pl u

def Settles (I : RunID → Stage → Place → σ → Prop) (id : RunID) (pl : Place) (kf k' : Stage)
  (pl' : Place) : (o : RuntimeOp) → o.Reply → σ → Prop
 | .transaction _, r, u => Saved I id pl kf k' pl' r u
 | .repo (.saveWorkflowRun _), r, u => Saved I id pl kf k' pl' r u
 | _, _, _ => False

/-- What an invariant of the stages has to satisfy to hold while steps are executed. -/
structure Conduct (M : Monitor RuntimeSig σ) (w : LinearWorkflow)
  (I : RunID → Stage → Place → σ → Prop) : Prop where
 glance : ∀ {id k pl s o}, I id k pl s → Glances w id o →
  wp M (runtimeOp o) (fun _ u => I id k pl u) s
 region : ∀ {id k pl s α} {p : RuntimeProg α}, I id k pl s → Region ⟨id, pl.position⟩ p →
  wp M p (fun _ u => I id k pl u) s
 emit : ∀ {id k pl k' pl' s e}, I id k pl s → Emits id k pl e k' pl' →
  wp M (emitRun e) (fun _ u => I id k' pl' u) s
 write : ∀ {id k pl kf k' pl' s o}, I id k pl s → w.store = true →
  Writes w id k pl o kf k' pl' → wp M (runtimeOp o) (Settles I id pl kf k' pl' o) s
 skip : ∀ {id k pl kf k' pl' s o}, I id k pl s → w.store = false →
  Writes w id k pl o kf k' pl' → I id k' pl' s
 pop : ∀ {id pl f fs s}, I id .resting pl s → pl.frames = f :: fs → f.steps[f.index]? = none →
  I id .resting (pl.pop fs) s

variable {M:Monitor RuntimeSig σ} {w:LinearWorkflow} {I:RunID → Stage → Place → σ → Prop}
variable {env:ExecEnv} {st:ExecState} {step:CompiledStep} {s:σ} {k k' kf:Stage}
variable {pl pl':Place} {id:RunID} {n:Nat} {u:σ} {status:RunStatus} {context:String}
 {envelope:WorkflowSnapshotEnvelope} {input:WorkflowRunInput}

lemma Conduct.ctxErr (C:Conduct M w I) (h:I id k pl s) :
  wp M ctxErr (fun _ u=>I id k pl u) s := C.glance h .ctxErr
lemma Conduct.now (C : Conduct M w I) (h : I id k pl s) :
  wp M (runtimeOp .now) (fun _ u=>I id k pl u) s := C.glance h .now

lemma Conduct.transaction (C:Conduct M w I) {body} (hstore:w.store=true) (h:I id k pl s)
  (hbody:∀ state now,state.step=envelope.step → state.stepID=envelope.stepID →
   state.path=envelope.path → state.suspend=envelope.suspend →
   Writes w id k pl (.transaction (body state now)) k k' pl') :
  wp M (commitEncoded context envelope body) (Saved I id pl k k' pl') s := by
 unfold commitEncoded
 cases hencode : encodeEnvelope envelope with
 | error e => exact h
 | ok state =>
  obtain ⟨_,_,values,rfl⟩:=encodeEnvelope_eq_ok hencode
  apply wp_seq (C.now h)
  intro now u hu
  exact C.write hu hstore (hbody _ now rfl rfl rfl rfl)

lemma Conduct.boundary (C:Conduct M w I) {anchor name sequence outputs} (hid:anchor.runID=id)
  (h:I id k pl s) (hstep:envelope.step=pl.position) (hstepID:envelope.stepID=step.id)
  (hwrites:∀ snapshot record,BoundaryOf id pl.position step.id envelope.path name sequence status
   envelope.suspend snapshot record →
   Writes w id k pl (.transaction (saveBoundary snapshot record)) k k' pl') :
  wp M (persistBoundary w anchor context name sequence envelope
   (boundaryRecord w anchor status pl.position step.id outputs envelope.path))
   (Saved I id pl k k' pl') s := by
 unfold persistBoundary
 split
 · next hstore =>
    apply C.transaction hstore h
    intro state now hs hi hp hsuspend
    exact hwrites _ _ ⟨hid,rfl,rfl,hid,rfl,rfl,rfl,rfl,state,rfl,hs.trans hstep,
     hi.trans hstepID,hp,hsuspend⟩
 · next hstore =>
    exact C.skip h (Bool.eq_false_iff.mpr hstore) (hwrites
     (boundarySnapshot anchor name sequence envelope 0)
     (boundaryRecord w anchor status pl.position step.id outputs envelope.path 0)
     ⟨hid,rfl,rfl,hid,rfl,rfl,rfl,rfl,envelope,rfl,hstep,hstepID,rfl,rfl⟩)

def EndsAt (I : RunID → Stage → Place → σ → Prop) (id : RunID) (step : CompiledStep) :
  StepEnd → σ → Prop
 | .advanced st, u => I id (.passed step) (place st) u
 | .failed st _ _, u => ∃ n, I id (.within step n) (place st) u
 | .stranded st _, u => ∃ n, I id (.within step n) (place st) u
 | .cancelled st _ _ _, u => ∃ n, I id (.within step n) (place st) u
 | .suspended st _, u => I id (.waiting step) (place st) u

lemma endsAt_failRegion (st err forEach) (h:I id (.within step n) (place st) u) :
  EndsAt I id step (failRegion st err forEach) u := by
 unfold failRegion
 split
 · exact ⟨n,h⟩
 · exact ⟨n,h⟩

section

variable (C:Conduct M w I) (hw:env.workflow = w) (hid:env.anchor.runID = env.runID)

lemma wp_validInput {kind next} (h:I id (.within step n) (place st) s)
  (hnext:wp M next (EndsAt I id step) s) :
  wp M (withValidInput st step kind next) (EndsAt I id step) s := by
 unfold withValidInput
 split
 · exact ⟨n,h⟩
 · exact hnext

lemma wp_settled {p:RuntimeProg (Except Err Unit)} {st':ExecState} {failed:Err → StepEnd}
  (hend:∀ e u,I id (.within step n) (place st) u → EndsAt I id step (failed e) u)
  (hp:wp M p (Saved I id (place st) (.within step n) (.passed step) (place st')) s) :
  wp M (p >>= fun saved=>match saved with
   | .error e => .ret (failed e)
   | .ok () => .ret (.advanced st')) (EndsAt I id step) s := by
 apply wp_seq hp
 intro saved u hu
 cases saved with
 | error e => exact hend e u hu
 | ok _ => exact hu

include C hw hid

lemma wp_completed (st) {failed:Err → StepEnd} {outputs st'}
  (h:I env.runID (.within step n) (place st) s) (hstep:envelope.step=st.position)
  (hstepID:envelope.stepID=step.id) (hpath:envelope.path=st.path)
  (hsuspend:envelope.suspend=none) (hplace:place st'=(place st).complete step.id)
  (hend:∀ e u,I env.runID (.within step n) (place st) u → EndsAt I env.runID step (failed e) u) :
  wp M (persistBoundary env.workflow env.anchor context (snapshotID env.anchor.runID st.position)
   (workflowTerminalSnapshotSequence st.position) envelope
   (boundaryRecord env.workflow env.anchor .running st.position step.id outputs st.path) >>=
   fun saved=>match saved with
    | .error e => .ret (failed e)
    | .ok () => .ret (.advanced st')) (EndsAt I env.runID step) s := by
 apply wp_settled hend
 rw [hplace,hw,hid,← hpath]
 apply C.boundary hid h hstep hstepID
 intro snapshot record hb
 rw [hpath,hsuspend] at hb
 exact .step hb

omit hw hid in
lemma wp_runBranching {branches defaultBranch}
  (hc:step.control = .branches branches defaultBranch)
  (h:I env.runID (.within step 0) (place st) s) :
  wp M (runBranching env st step branches defaultBranch) (EndsAt I env.runID step) s := by
 apply wp_validInput h
 have hselect:Returns (liftStep (selectBranch step.id branches defaultBranch st.current))
   (fun r=>∀ b,r = .ok b → b ∈ branches) := by
  unfold Returns
  rw [wp_liftStep]
  refine wp_mono (wp_selectBranch (I := fun _=>True) ?_ branches defaultBranch () trivial) ?_
  · exact fun s name _=>⟨trivial,fun _ _ _=>trivial⟩
  · exact fun r _ hr=>hr.2
 apply wp_seq (hselect.wp_and (C.region h (.select _ _ _ _)))
 rintro (e | b) u ⟨hmem,hu⟩
 · exact ⟨0,hu⟩
 · exact wp_seq (C.emit hu (.branchSelected hc (hmem b rfl))) fun _ _ hv=>hv

omit hw hid in
lemma wp_finishIteration {iteration result}
  (hk:k = .looping step iteration ∨ k = .checked step iteration)
  (h:I env.runID k (place st) s) :
  wp M (finishIteration env st step.id iteration result)
   (fun _ u=>∃ n,I env.runID (.within step n) (place st) u) s :=
 wp_seq (C.emit h (.iterationFinished hk)) fun _ _ hu=>⟨iteration,hu⟩

lemma wp_checkpointAndTest {mode iteration current}
  (h:I env.runID (.looping step iteration) (place st) s) :
  wp M (checkpointAndTest env st step.id mode iteration current) (fun r u=>match r with
   | .ok _ => I env.runID (.checked step iteration) (place st) u
   | .error _ => ∃ k,(k = .looping step iteration ∨ k = .checked step iteration) ∧
    I env.runID k (place st) u) s := by
 have hsave:wp M (persistLoopCheckpoint env.workflow env.anchor st.position step.id iteration
   current st.completed) (Saved I env.runID (place st) (.looping step iteration)
    (.checked step iteration) (place st)) s := by
  unfold persistLoopCheckpoint
  rw [hw,hid]
  exact C.boundary hid h rfl rfl fun _ _ hb=>.checkpoint hb
 apply wp_seq hsave
 intro saved u hu
 cases saved with
 | error e => exact ⟨_,.inl rfl,hu⟩
 | ok _ =>
  apply wp_mono (C.region hu (.condition _ _ _ _ _))
  intro r v hv
  cases r with
  | error e => exact ⟨_,.inr rfl,hv⟩
  | ok more => exact hv

lemma wp_loopFrom {steps maxIterations mode} (hc:step.control = .loop steps maxIterations mode)
  (left n) (current) (hleft:left+n=maxIterations)
  (h:I env.runID (.within step n) (place st) s) :
  wp M (loopFrom env st step.id steps maxIterations mode left (n+1) current)
   (fun _ u=>∃ n,I env.runID (.within step n) (place st) u) s := by
 induction left generalizing n current s with
 | zero => exact ⟨n,h⟩
 | succ left ih =>
  apply wp_seq (C.ctxErr h)
  intro err u hu
  cases err with
  | some e => exact ⟨n,hu⟩
  | none =>
   apply wp_seq (C.emit hu (.iterationStarted hc (by omega)))
   intro _ u hu
   apply wp_seq (C.region hu (.children rfl _ _ _))
   intro body u hu
   cases body with
   | error failure => exact wp_finishIteration C (.inl rfl) hu
   | ok current =>
    apply wp_seq (wp_checkpointAndTest C hw hid hu)
    intro goOn u hu
    cases goOn with
    | error failure =>
     obtain ⟨k,hk,hu⟩:=hu
     exact wp_finishIteration C hk hu
    | ok more =>
     cases more with
     | false => exact wp_finishIteration C (.inr rfl) hu
     | true =>
      dsimp only
      split
      · exact wp_finishIteration C (.inr rfl) hu
      apply wp_seq (C.emit hu (.iterationFinished (.inr rfl)))
      intro _ u hu
      exact ih (n+1) current (by omega) hu

lemma wp_runSleep {wakeAt:Time → Time} (h:I env.runID (.within step 0) (place st) s) :
  wp M (runSleep env st step wakeAt) (EndsAt I env.runID step) s := by
 apply wp_validInput h
 split
 · exact ⟨0,h⟩
 apply wp_seq (C.now h)
 intro now u hu
 have hsave:wp M (persistSleep env.workflow env.anchor st.path st.fanOut st.forEach st.position
   step.id st.completed st.current (wakeAt now)) (Saved I env.runID (place st) (.within step 0)
    (.waiting step) (place st)) u := by
  unfold persistSleep
  rw [hw,hid]
  split
  · next hstore =>
     apply C.transaction hstore hu
     intro state now hs hi hp hsuspend
     exact .sleep ⟨hid,rfl,rfl,hid,rfl,rfl,rfl,rfl,state,rfl,hs,hi,hp,hsuspend⟩
  · exact hu
 apply wp_seq hsave
 intro saved u hu
 cases saved with
 | error e => exact ⟨0,hu⟩
 | ok _ => exact hu

lemma wp_suspendStep {signal} (h:I env.runID (.within step 0) (place st) s) :
  wp M (suspendStep env st step signal) (EndsAt I env.runID step) s := by
 have hsave:wp M (persistSuspend env.workflow env.anchor st.path st.fanOut st.forEach st.position
   step.id st.completed signal) (Saved I env.runID (place st) (.within step 0)
    (.waiting step) (place st)) s := by
  unfold persistSuspend
  rw [hw,hid]
  exact C.boundary hid h rfl rfl fun _ _ hb=>.suspend rfl hb
 apply wp_seq hsave
 intro saved u hu
 cases saved with
 | error e => exact ⟨0,hu⟩
 | ok _ => exact hu

lemma wp_runHandler (h:I env.runID (.within step 0) (place st) s) :
  wp M (runHandler env st step) (EndsAt I env.runID step) s := by
 refine wp_validInput h (wp_seq (C.region h (.handler _ _ _)) ?_)
 rintro (outcome | output) u hu
 · cases outcome with
   | suspended signal => exact wp_suspendStep C hw hid hu
   | _ => exact ⟨0,hu⟩
 · exact wp_completed C hw hid st hu rfl rfl rfl rfl rfl fun _ _ hv=>⟨0,hv⟩

lemma wp_runControl {st} (h:I env.runID (.within step 0) (place st) s) :
  wp M (runControl env st step) (EndsAt I env.runID step) s := by
 unfold runControl
 cases hc : step.control with
 | branches branches defaultBranch => exact wp_runBranching C hc h
 | map path fields =>
  apply wp_validInput h
  split
  · exact ⟨0,h⟩
  split
  · exact ⟨0,h⟩
  · exact wp_completed C hw hid st h rfl rfl rfl rfl rfl fun _ _ hv=>⟨0,hv⟩
 | forEach steps maxParallel =>
  refine wp_validInput h (wp_seq (C.region h (.forEach _ _ _ _ _)) ?_)
  rintro ⟨result,output⟩ u hu
  cases output with
  | error err => exact endsAt_failRegion { st with forEach := _ } err _ hu
  | ok output =>
   exact wp_completed C hw hid { st with forEach := _ } hu rfl rfl rfl rfl rfl
    fun _ _ hv=>⟨0,hv⟩
 | loop steps maxIterations mode =>
  refine wp_validInput h (wp_seq (wp_loopFrom C hw hid hc maxIterations 0 st.current rfl h) ?_)
  rintro output u ⟨n,hu⟩
  cases output with
  | error err => exact endsAt_failRegion st err _ hu
  | ok output => exact wp_completed C hw hid st hu rfl rfl rfl rfl rfl fun _ _ hv=>⟨n,hv⟩
 | fanOut branches maxParallel failFast =>
  refine wp_validInput h (wp_seq (C.region h (.fanOut _ _ _ _ _ _ _)) ?_)
  rintro ⟨join,output⟩ u hu
  cases output with
  | error err => exact endsAt_failRegion { st with fanOut := _ } err _ hu
  | ok output => exact wp_completed C hw hid st hu rfl rfl rfl rfl rfl fun _ _ hv=>⟨0,hv⟩
 | sleep duration | sleepUntil wakeAt => exact wp_runSleep C hw hid h
 | handler => exact wp_runHandler C hw hid h

def Over (I : RunID → Stage → Place → σ → Prop) (id : RunID) (u : σ) : Prop :=
 ∃ pl, I id .ended pl u ∨ I id .closed pl u

lemma wp_persistTerminal {fanOut completed failure} (hstatus:status.terminal=true)
  (h:I env.runID k (place st) s)
  (hwrites:∀ record,TerminalOf env.runID (place st) record → Writes w env.runID k (place st)
   (.repo (.saveWorkflowRun record)) kf k' (place st)) :
  wp M (persistTerminal env.workflow env.anchor st.path st.lastPosition st.lastStepID fanOut
   completed status failure) (fun r u=>match r with
    | .ok _ => I env.runID k' (place st) u ∨ status ≠ .succeeded ∧ I env.runID kf (place st) u
    | .error _ => I env.runID kf (place st) u) s := by
 have hof:∀ now,TerminalOf env.runID (place st) (terminalRecord w env.anchor st.path
   st.lastPosition st.lastStepID fanOut completed status failure now) :=
  fun now=>⟨hid,rfl,rfl,rfl,hstatus⟩
 unfold persistTerminal
 rw [hw]
 split
 · next hstore =>
    apply wp_seq (C.now h)
    intro now u hu
    apply wp_seq (C.write hu hstore (hwrites _ (hof now)))
    intro saved v hv
    cases saved with
    | ok _ => exact .inl hv
    | error e =>
     by_cases hs : status = .succeeded
     · subst hs
       exact hv
     · dsimp only
       rw [if_neg hs]
       exact .inr ⟨hs,hv⟩
 · next hstore => exact .inl (C.skip h (Bool.eq_false_iff.mpr hstore) (hwrites _ (hof 0)))

lemma wp_refuse (st) {β:Type} {a:β} {Q number stepID} {type:RunEventType} {err failure}
  (hk:k.GivesUp) (h:I env.runID k (place st) s)
  (he:(type = .failed ∧ status = .failed) ∨ (type = .cancelled ∧ status = .cancelled))
  (hQ:∀ u,Over I env.runID u → Q a u) :
  wp M (do
   emitTerminal env number stepID type status (some err)
   persistTerminalBestEffort env st status failure
   .ret a) Q s := by
 have hstatus:status.terminal=true:=by
  rcases he with ⟨_,rfl⟩ | ⟨_,rfl⟩
  · rfl
  · rfl
 refine wp_seq (C.emit h (.refused hk rfl he)) ?_
 intro _ u hu
 refine wp_seq (R := fun _ u=>Over I env.runID u)
  (wp_seq (wp_persistTerminal C hw hid hstatus hu fun _ hr=>.terminal hr) ?_) fun _ v=>hQ v
 intro r u hu
 cases r with
 | error e => exact ⟨_,.inr hu⟩
 | ok _ => exact ⟨_,.inr (hu.elim id And.right)⟩

def After (I : RunID → Stage → Place → σ → Prop) (id : RunID) : ExecState ⊕ RunOutcome → σ → Prop
 | .inl st, u => I id .resting (place st) u
 | .inr _, u => Over I id u

lemma wp_finishStep {ending} (h:EndsAt I env.runID step ending s) :
  wp M (finishStep env step.id ending) (After I env.runID) s := by
 cases ending with
 | advanced st => exact wp_seq (C.emit h .stepPassed) fun _ _ hu=>hu
 | suspended st result =>
  refine wp_seq (C.emit h .stepWaiting) fun _ u hu=>wp_seq (C.emit hu .suspended) ?_
  exact fun _ _ hv=>⟨_,.inr hv⟩
 | failed st err forEach =>
  obtain ⟨n,h⟩:=h
  refine wp_seq (C.emit h .stepFailed) fun _ u hu=>?_
  exact wp_refuse (k := .failing) C hw hid _ trivial hu (.inl ⟨rfl,rfl⟩) fun _ hv=>hv
 | cancelled st err reported forEach =>
  obtain ⟨n,h⟩:=h
  refine wp_seq (C.emit h .stepFailed) fun _ u hu=>?_
  exact wp_refuse (k := .failing) C hw hid _ trivial hu (.inr ⟨rfl,rfl⟩) fun _ hv=>hv
 | stranded st err =>
  obtain ⟨n,h⟩:=h
  refine wp_seq (C.emit h .stepFailed) fun _ u hu=>?_
  exact wp_seq (C.emit hu (.refused trivial rfl (.inl ⟨rfl,rfl⟩))) fun _ _ hv=>⟨_,.inl hv⟩

lemma wp_succeedRun (hframes:st.frames=[]) (h:I env.runID .resting (place st) s) :
  wp M (succeedRun env st) (fun _ u=>Over I env.runID u) s := by
 refine wp_seq (wp_persistTerminal C hw hid rfl h fun _ hr=>.success hframes hr) ?_
 intro saved u hu
 cases saved with
 | error e => exact wp_seq (C.emit hu (.unsaved rfl (.inl ⟨rfl,rfl⟩))) fun _ _ hv=>⟨_,.inr hv⟩
 | ok _ =>
  rcases hu with hu | hu
  · exact wp_seq (C.emit hu .succeeded) fun _ _ hv=>⟨_,.inr hv⟩
  · exact absurd rfl hu.1

lemma wp_executeRound (h:I env.runID .resting (place st) s) :
  wp M (executeRound env st) (After I env.runID) s := by
 cases hst : st.frames with
 | nil =>
  rw [executeRound_nil hst]
  exact wp_seq (wp_succeedRun C hw hid hst h) fun _ _ hu=>hu
 | cons f fs =>
  cases hf : f.steps[f.index]? with
  | none =>
   rw [executeRound_pop hst hf]
   exact C.pop h hst hf
  | some step =>
   rw [executeRound_step hst hf]
   apply wp_seq (C.ctxErr h)
   intro err u hu
   cases err with
   | some e =>
    exact wp_refuse (k := .resting) C hw hid st trivial hu (.inr ⟨rfl,rfl⟩) fun _ hv=>hv
   | none =>
    apply wp_seq (C.emit hu (.stepStarted hst hf))
    intro _ u hu
    apply wp_seq (wp_runControl C hw hid hu)
    exact fun ending _ hv=>wp_finishStep C hw hid hv

lemma wp_executeFrames_conduct (h:I env.runID .resting (place st) s) :
  wp M (executeFrames env st) (fun _ u=>Over I env.runID u) s := by
 refine wp_executeFrames (fun st t=>I env.runID .resting (place st) t) ?_ st s h
 intro st t ht
 apply wp_mono (wp_executeRound C hw hid ht)
 intro res u hu
 cases res with
 | inl st' | inr out => exact fun _=>hu

end

/-- What an invariant of the stages has to satisfy to hold in all calls: the reads that come before
the execution, too. -/
structure CallConduct (M : Monitor RuntimeSig σ) (w : LinearWorkflow)
  (I : RunID → Stage → Place → σ → Prop) : Prop extends Conduct M w I where
 peek : ∀ {id pl s}, I id .idle pl s →
  wp M (runtimeOp (.repo (.getWorkflowRun id))) (fun _ u => I id .idle pl u) s
 find : ∀ {id pl s}, I id .reading pl s → wp M (runtimeOp (.repo (.getWorkflowRun id)))
  (fun (r : Except Err WorkflowRunRecord) u => match r with
   | .ok record => I id (.found record) pl u
   | .error _ => I id .reading pl u) s
 load : ∀ {id record pl s}, I id (.found record) pl s → record.status = .suspended →
  wp M (loadSuspendSnapshot w id) (fun r u => match r with
   | .ok env => I id (.loaded record env) pl u
   | .error _ => I id (.found record) pl u) s
 resumed : ∀ {id record env frames pl s}, I id (.loaded record env) pl s →
  record.status = .suspended → resumeFrames w env.path env.stepID = some frames →
  wp M (emitRun
   { type := .resumed, runID := record.id, step := env.step + 1, stepID := nextStepID frames })
   (fun _ u => I record.id .resting (resumedPlace env frames) u) s

def Done (I : RunID → Stage → Place → σ → Prop) (u : σ) : Prop := ∃ id k pl, k.Final ∧ I id k pl u

lemma done_of (h:I id k pl s) (hk:k.Final) : Done I s := ⟨_,_,_,hk,h⟩

lemma Over.done (h:Over I id u) : Done I u := by
 obtain ⟨pl,h | h⟩:=h
 · exact done_of h trivial
 · exact done_of h trivial

def startPlace (w : LinearWorkflow) : Place := { frames := [⟨w.steps, 0⟩] }

section

variable (C:CallConduct M w I)

include C

lemma wp_authorizeRun (h:I id k pl s) : wp M (authorizeRun w) (fun _ u=>I id k pl u) s := by
 unfold authorizeRun
 split
 · exact C.glance h .authorize
 · exact h

lemma wp_failStart (hw:env.workflow=w) (hid:env.anchor.runID=env.runID) {err}
  (h:I env.runID .idle (place st) s) :
  wp M (failStart env st err) (fun _ u=>Over I env.runID u) s :=
 wp_refuse (k := .idle) C.toConduct hw hid _ trivial h (.inl ⟨rfl,rfl⟩) fun _ hu=>hu

lemma wp_beginRun (hw:env.workflow=w) (hid:env.anchor.runID=env.runID)
  (h:I env.runID .idle (place st) s) :
  wp M (beginRun env st) (fun _ u=>Over I env.runID u) s := by
 have hstart:wp M (persistRunStart env.workflow env.anchor)
   (Saved I env.runID (place st) .idle .idle (place st)) s := by
  unfold persistRunStart
  rw [hw]
  split
  · next hstore =>
     apply wp_seq (C.now h)
     intro now u hu
     exact C.write hu hstore (.start hid)
  · exact h
 apply wp_seq hstart
 intro saved u hu
 cases saved with
 | error e => exact wp_failStart C hw hid hu
 | ok _ =>
  apply wp_seq (C.emit hu .started)
  intro _ u hu
  exact wp_executeFrames_conduct C.toConduct hw hid hu

lemma wp_newAnchor {runID} (h:I runID .idle pl s) :
  wp M (newAnchor w runID input) (fun anchor u=>anchor.runID=runID ∧
  I runID .idle pl u) s := by
 unfold newAnchor startTime
 split
 · exact wp_seq (C.now h) fun _ _ hu=>⟨rfl,hu⟩
 · exact ⟨rfl,h⟩

lemma wp_startRun {runID} (h:I runID .idle (startPlace w) s) :
  wp M (startRun w runID input) (fun _ u=>Over I runID u) s := by
 apply wp_seq (C.ctxErr h)
 intro err u hu
 cases err with
 | some e =>
  apply wp_seq (wp_newAnchor C hu)
  rintro anchor u ⟨rfl,hu⟩
  have hidle:I (startEnv w anchor input).runID .idle (place (startState w input)) u:=hu
  exact wp_refuse (k := .idle) C.toConduct rfl rfl _ trivial hidle (.inr ⟨rfl,rfl⟩)
   fun _ hv=>hv
 | none =>
  apply wp_seq (wp_newAnchor C hu)
  rintro anchor u ⟨rfl,hu⟩
  apply wp_seq (wp_authorizeRun C hu)
  intro denial u hu
  have hidle:I (startEnv w anchor input).runID .idle (place (startState w input)) u:=hu
  have hfail:∀ err,wp M (failStart (startEnv w anchor input) (startState w input) err)
    (fun _ u=>Over I anchor.runID u) u :=
   fun err=>wp_failStart C rfl rfl hidle
  cases denial with
  | some e => exact hfail _
  | none =>
   dsimp only
   split
   · exact hfail _
   · exact wp_beginRun C rfl rfl hidle

lemma wp_startSupplied (h:I input.runID .idle (startPlace w) s) :
  wp M (startSupplied w input) (fun _ u=>∃ k pl,k.Final ∧ I input.runID k pl u) s := by
 have hrun:∀ u,I input.runID .idle (startPlace w) u → wp M (startRun w input.runID input)
   (fun _ u=>∃ k pl,k.Final ∧ I input.runID k pl u) u := by
  intro u hu
  apply wp_mono (wp_startRun C hu)
  rintro _ v ⟨pl,hv | hv⟩
  · exact ⟨.ended,pl,trivial,hv⟩
  · exact ⟨.closed,pl,trivial,hv⟩
 unfold startSupplied
 split
 · apply wp_seq (C.ctxErr h)
   intro err u hu
   cases err with
   | some e => exact ⟨.idle,_,trivial,hu⟩
   | none =>
    apply wp_seq (C.peek hu)
    intro found u hu
    cases found with
    | ok record => exact ⟨.idle,_,trivial,hu⟩
    | error e =>
     dsimp only
     split
     · exact hrun u hu
     apply wp_seq (C.ctxErr hu)
     intro err u hu
     cases err with
     | some e | none => exact ⟨.idle,_,trivial,hu⟩
 · exact hrun s h

lemma wp_run (hnew:input.runID = "" → wp M (runtimeOp .newRunID) (fun (id:RunID) u =>
   I id .idle (startPlace w) u) s)
  (hsupplied:input.runID ≠ "" → I input.runID .idle (startPlace w) s) :
  wp M (run w input) (fun _ u=>Done I u) s := by
 unfold run
 by_cases hempty : input.runID = ""
 · rw [validateSuppliedRunID,if_pos hempty]
   rw [if_pos hempty]
   apply wp_seq (hnew hempty)
   intro id u hu
   exact wp_mono (wp_startRun C hu) fun _ _ hv=>hv.done
 · have h:=hsupplied hempty
   split
   · exact done_of h trivial
   rw [if_neg hempty]
   apply wp_seq (C.glance h .claim)
   intro claimed u hu
   cases claimed with
   | false => exact done_of hu trivial
   | true =>
    apply wp_seq (wp_startSupplied C hu)
    rintro out u ⟨k,pl,hk,hu⟩
    exact wp_seq (C.glance hu .release) fun _ _ hv=>⟨_,k,pl,hk,hv⟩

lemma wp_continueRun (id pl) {record metadata frames current}
  (h:I id (.loaded record envelope) pl s) (hstatus:record.status = .suspended)
  (hframes:resumeFrames w envelope.path envelope.stepID=some frames) :
  wp M (continueRun w record metadata envelope frames current) (fun _ u=>Done I u) s := by
 apply wp_seq (C.resumed h hstatus hframes)
 intro _ u hu
 have hresting:I (resumedEnv w record metadata).runID .resting
   (place (resumedState envelope frames current)) u := hu
 exact wp_mono (wp_executeFrames_conduct C.toConduct rfl rfl hresting) fun _ _ hv=>hv.done

lemma wp_resume (pl) {input} (h:I input.runID .reading pl s) :
  wp M (resume w input) (fun _ u=>Done I u) s := by
 unfold resume
 split
 · apply wp_seq (C.ctxErr h)
   intro err u hu
   cases err with
   | some e => exact done_of hu trivial
   | none =>
    apply wp_seq (C.find hu)
    intro found u hu
    cases found with
    | error e => exact done_of hu trivial
    | ok record =>
     dsimp only at hu ⊢
     split
     · exact done_of hu trivial
     split
     · exact done_of hu trivial
     · next hstatus =>
        apply wp_seq (wp_authorizeRun C hu)
        intro denial u hu
        cases denial with
        | some e => exact done_of hu trivial
        | none =>
         apply wp_seq (C.load hu (not_not.mp hstatus))
         intro loaded u hu
         cases loaded with
         | error e => exact done_of hu trivial
         | ok envelope =>
          have hdone:=done_of hu trivial
          dsimp only
          split
          · exact hdone
          split
          · exact hdone
          split
          · exact hdone
          · next frames hframes => exact wp_continueRun C _ _ hu (not_not.mp hstatus) hframes
 · exact done_of h trivial

lemma wp_resumeWake (pl) {token} (h:I id .reading pl s) :
  wp M (resumeWake w id token) (fun _ u=>Done I u) s := by
 unfold resumeWake
 split
 · apply wp_seq (C.ctxErr h)
   intro err u hu
   cases err with
   | some e => exact done_of hu trivial
   | none =>
    apply wp_seq (C.find hu)
    intro found u hu
    cases found with
    | error e => exact done_of hu trivial
    | ok record =>
     dsimp only at hu ⊢
     split
     · exact done_of hu trivial
     · next hstatus =>
        rw [not_or,not_not,not_not] at hstatus
        apply wp_seq (C.load hu hstatus.2)
        intro loaded u hu
        cases loaded with
        | error e => exact done_of hu trivial
        | ok envelope =>
         have hdone:=done_of hu trivial
         dsimp only
         split
         · exact hdone
         apply wp_seq (wp_authorizeRun C hu)
         intro denial u hu
         have hdone:=done_of hu trivial
         cases denial with
         | some e => exact hdone
         | none =>
          dsimp only
          split
          · exact hdone
          · next frames hframes => exact wp_continueRun C _ _ hu hstatus.2 hframes
 · exact done_of h trivial

end

end

end Lebro.WorkflowStages
