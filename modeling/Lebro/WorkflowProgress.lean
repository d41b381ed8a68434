import Lebro.WorkflowStages

set_option autoImplicit false

namespace Lebro.WorkflowProgress

open EffectProgram EffectRuns RuntimeTypes RuntimeRecords RuntimeEffects MemoryStore WorkflowSteps
open WorkflowPersistence WorkflowExecution WorkflowRuns WorkflowUserCode WorkflowStages

variable {o : RuntimeOp} {α : Type}

def envelopeToken (env : WorkflowSnapshotEnvelope) : Option String :=
 (env.suspend.bind SuspendEnvelope.wake).map WakeEnvelope.token

def boundaryToken (snapshot : WorkflowSnapshotRecord) : Option String :=
 match snapshot.state with
 | .workflow env => envelopeToken env
 | _ => none

/-- The transactions at the boundaries of steps: their run records are not terminal, and only sleep
boundaries carry a wake token, that of their position. -/
inductive Boundary : RepoProg (Except Err Unit) → Prop where
 | step (snapshot : WorkflowSnapshotRecord) (record : WorkflowRunRecord)
   (h : record.status = .running ∨ record.status = .suspended)
   (htoken : boundaryToken snapshot = none) : Boundary (saveBoundary snapshot record)
 | sleep (snapshot : WorkflowSnapshotRecord) (record : WorkflowRunRecord)
   (wakeup : ScheduleRecord) (h : record.status = .running ∨ record.status = .suspended)
   (position : Nat) (hid : snapshot.id = snapshotID snapshot.runID position)
   (htoken : boundaryToken snapshot = some (wakeToken snapshot.runID position)) :
   Boundary (saveSleep snapshot record wakeup)

def Inspects : RuntimeOp → Prop
 | .step .ctxErr => True
 | .authorize _ _ => True
 | .repo (.getWorkflowRun _) => True
 | .repo (.listWorkflowSnapshots _ _) => True
 | .hang => True
 | _ => False

lemma asks_authorizeRun (w) : Asks Inspects (authorizeRun w) := by
 unfold authorizeRun
 split
 · exact ⟨trivial,fun _ _ _=>trivial⟩
 · exact asks_ret

lemma asks_scanSuspendSnapshots (runID) (pages : Nat) (cursor best) :
  Asks Inspects (scanSuspendSnapshots runID pages cursor best) := by
 induction pages generalizing cursor best with
 | zero => exact ⟨trivial,fun r=>r.elim⟩
 | succ n ih =>
  apply asks_runtimeOp trivial
  intro page
  cases page with
  | error e => exact asks_ret
  | ok page =>
   dsimp only
   split
   · exact asks_ret
   split
   · exact asks_ret
   · exact ih _ _

lemma asks_loadSuspendSnapshot (w runID) : Asks Inspects (loadSuspendSnapshot w runID) := by
 apply asks_bind (asks_scanSuspendSnapshots runID _ _ _)
 intro found
 rcases found with e | best
 · exact asks_ret
 · cases best with
   | none | some best => exact asks_ret

def CallOp : RuntimeOp → Prop
 | .transaction body => Boundary body
 | .repo (.saveWorkflowSnapshot _) => False
 | .repo (.saveSchedule _) => False
 | _ => True

/-- What a call asks for once the ID of its run is known. -/
def BodyOp : RuntimeOp → Prop
 | .newRunID => False
 | o => CallOp o

lemma callOp_of_bodyOp (h:BodyOp o) : CallOp o := by
 cases o with
 | newRunID => exact h.elim
 | _ => exact h

lemma bodyOp_of_inspects (h : Inspects o) : BodyOp o := by
 cases o with
 | transaction body | newRunID => exact h.elim
 | repo o =>
  cases o with
  | saveWorkflowSnapshot v | saveSchedule v => exact h.elim
  | _ => trivial
 | _ => trivial

lemma bodyOp_of_regionOp {position} (h : RegionOp position o) : BodyOp o := by
 cases o with
 | transaction body | repo o | newRunID => exact h.elim
 | _ => trivial

lemma bodyOp_of_glances {w id} (h : Glances w id o) : BodyOp o := by
 cases h with
 | _ => trivial

section

variable {w : LinearWorkflow} {id : RunID} {k kf k' : Stage} {pl pl' : Place}

lemma boundaryOf_token {position stepID path name sequence status suspend snapshot record}
  (h : BoundaryOf id position stepID path name sequence status suspend snapshot record) :
  boundaryToken snapshot=(suspend.bind SuspendEnvelope.wake).map WakeEnvelope.token := by
 obtain ⟨env,hstate,_,_,_,hsuspend⟩ := h.state
 rw [boundaryToken,hstate]
 dsimp only
 rw [envelopeToken,hsuspend]

lemma boundary_of_writes {body} (h : Writes w id k pl (.transaction body) kf k' pl') :
  Boundary body := by
 cases h with
 | step h | checkpoint h => exact .step _ _ (.inl h.recordStatus) (boundaryOf_token h)
 | suspend hwake h =>
  refine .step _ _ (.inr h.recordStatus) ?_
  rw [boundaryOf_token h,Option.bind_some,hwake]
  rfl
 | sleep h =>
  refine .sleep _ _ _ (.inr h.recordStatus) pl.position ?_ ?_
  · rw [h.run,h.snapshotID]
  · rw [h.run,boundaryOf_token h]
    rfl

lemma bodyOp_of_writes (h : Writes w id k pl o kf k' pl') : BodyOp o := by
 cases o with
 | transaction body => exact boundary_of_writes h
 | newRunID => cases h
 | repo o =>
  cases h with
  | _ => trivial
 | _ => trivial

lemma settles_true (h : Writes w id k pl o kf k' pl') (r) (u : Unit) :
  Settles (fun _ _ _ _=>True) id pl kf k' pl' o r u := by
 cases h with
 | _ =>
  cases r with
  | error e => trivial
  | ok _ => trivial

end

lemma conduct_call {P : RuntimeOp → Prop} (hP : ∀ o, BodyOp o → P o) (w : LinearWorkflow) :
  CallConduct (asking P) w fun _ _ _ _=>True where
 glance _ h := ⟨hP _ (bodyOp_of_glances h),fun _ _ _=>trivial⟩
 region _ h := wp_mono (h.asks.mono fun _ h=>hP _ (bodyOp_of_regionOp h)) fun _ _ _=>trivial
 emit _ _ := ⟨hP _ trivial,fun _ _ _=>trivial⟩
 write _ _ h := ⟨hP _ (bodyOp_of_writes h),fun r u _=>settles_true h r u⟩
 skip _ _ _ := trivial
 pop _ _ _ := trivial
 peek _ := ⟨hP _ trivial,fun _ _ _=>trivial⟩
 find _ := ⟨hP _ trivial,fun r _ _=>by cases r with | _ => trivial⟩
 load _ _ := by
  refine wp_mono ((asks_loadSuspendSnapshot w _).mono fun _ h=>hP _ (bodyOp_of_inspects h)) ?_
  intro r _ _
  cases r with
  | _ => trivial
 resumed _ _ _ := ⟨hP _ trivial,fun _ _ _=>trivial⟩

lemma asks_continueRun {w record metadata envelope frames current}
  (hstatus : record.status = .suspended)
  (hframes : resumeFrames w envelope.path envelope.stepID=some frames) :
  Asks CallOp (continueRun w record metadata envelope frames current) :=
 wp_mono (wp_continueRun (conduct_call (fun _=>callOp_of_bodyOp) w) record.id {} trivial hstatus
  hframes) fun _ _ _=>trivial

lemma asks_startRun (w runID input) : Asks BodyOp (startRun w runID input) :=
 wp_mono (wp_startRun (conduct_call (fun _ h=>h) w) trivial) fun _ _ _=>trivial

lemma asks_run (w input) : Asks CallOp (run w input) :=
 wp_mono (wp_run (conduct_call (fun _=>callOp_of_bodyOp) w) (fun _=>⟨trivial,fun _ _ _=>trivial⟩)
  fun _=>trivial) fun _ _ _=>trivial

lemma asks_resume (w input) : Asks CallOp (resume w input) :=
 wp_mono (wp_resume (conduct_call (fun _=>callOp_of_bodyOp) w) {} trivial) fun _ _ _=>trivial

lemma asks_resumeWake (w runID token) : Asks BodyOp (resumeWake w runID token) :=
 wp_mono (wp_resumeWake (conduct_call (fun _ h=>h) w) {} trivial) fun _ _ _=>trivial

end Lebro.WorkflowProgress
