import Lebro.EffectProgram
import Lebro.RuntimeRecords

set_option autoImplicit false

namespace Lebro.RuntimeEffects

open EffectProgram RuntimeTypes RuntimeRecords

structure HandlerCall where
 runID : RunID
 position : Nat
 stepID : StepID
 attempt : Nat
 input : RawMessage

inductive HandlerReply where
 | output (value : RawMessage)
 | error (err : Err)
 | panic (value : String)

/-- Effects of running one step. `enterStep` marks an entry of `runStepWithRetry`; the last four
belong to the goroutines of a fan-out or foreach step. -/
inductive StepOp where
 | enterStep (stepID : StepID) (hasHandler : Bool)
 | ctxErr
 | wait (delay : Duration)
 | handler (call : HandlerCall)
 | branchCondition (stepID : StepID) (branch : String) (input : RawMessage)
 | inputMapper (stepID : StepID) (branch : String) (input : RawMessage)
 | loopCondition (stepID : StepID) (output : RawMessage) (iteration : Nat)
 | emit (event : RunEvent)
 | acquire
 | acquireOrDone
 | cancelFan
 | release

@[reducible] def StepOp.Reply : StepOp → Type
  | .enterStep _ _ => Unit
  | .ctxErr => Option Err
  | .wait _ => Option Err
  | .handler _ => HandlerReply
  | .branchCondition _ _ _ => Except Err Bool
  | .inputMapper _ _ _ => Except Err RawMessage
  | .loopCondition _ _ _ => Except Err Bool
  | .emit _ => Unit
  | .acquire => Unit
  | .acquireOrDone => Option Err
  | .cancelFan => Unit
  | .release => Unit

abbrev StepSig : Sig := ⟨StepOp, StepOp.Reply⟩

structure PageRequest where
 cursor : Option Nat
 limit : Nat

structure SnapshotPage where
 records : List WorkflowSnapshotRecord
 nextCursor : Option Nat

inductive RepoOp where
 | getWorkflowRun (id : RunID)
 | saveWorkflowRun (record : WorkflowRunRecord)
 | saveWorkflowSnapshot (record : WorkflowSnapshotRecord)
 | listWorkflowSnapshots (id : RunID) (page : PageRequest)
 | saveSchedule (record : ScheduleRecord)

@[reducible] def RepoOp.Reply : RepoOp → Type
  | .getWorkflowRun _ => Except Err WorkflowRunRecord
  | .saveWorkflowRun _ => Except Err Unit
  | .saveWorkflowSnapshot _ => Except Err Unit
  | .listWorkflowSnapshots _ _ => Except Err SnapshotPage
  | .saveSchedule _ => Except Err Unit

abbrev RepoSig : Sig := ⟨RepoOp, RepoOp.Reply⟩

inductive Action where
 | agentRun
 | toolCall
 | workflowRun
 | networkRun
 | storageRead
 | storageWrite
deriving DecidableEq

structure FanOutBranchOutcome where
 output : RawMessage := .empty
 status : RunStatus
 failure : Option WorkflowError := none

structure FanOutCall where
 maxParallel : Nat
 branches : List (Prog StepSig FanOutBranchOutcome)

/-- The goroutines of one foreach step; each returns its output or its failure. -/
structure ForEachCall where
 maxParallel : Nat
 items : List (Prog StepSig (Except WorkflowError RawMessage))

inductive RuntimeOp where
 | step (o : StepOp)
 | fanOut (call : FanOutCall)
 | forEach (call : ForEachCall)
 | now
 | newRunID
 | claim (executor : Nat) (id : RunID)
 | release (executor : Nat) (id : RunID)
 | authorize (action : Action) (resource : String)
 | repo (o : RepoOp)
 | transaction (body : Prog RepoSig (Except Err Unit))
 | hang

@[reducible] def RuntimeOp.Reply : RuntimeOp → Type
  | .step o => o.Reply
  | .fanOut _ => List FanOutBranchOutcome
  | .forEach _ => List (Except WorkflowError RawMessage)
  | .now => Time
  | .newRunID => RunID
  | .claim _ _ => Bool
  | .release _ _ => Unit
  | .authorize _ _ => Option Err
  | .repo o => o.Reply
  | .transaction _ => Except Err Unit
  | .hang => Empty

abbrev RuntimeSig : Sig := ⟨RuntimeOp, RuntimeOp.Reply⟩

abbrev StepProg := Prog StepSig
abbrev RepoProg := Prog RepoSig
abbrev RuntimeProg := Prog RuntimeSig

def stepOp (o : StepOp) : StepProg o.Reply := Prog.perform (S := StepSig) o

def repoOp (o : RepoOp) : RepoProg o.Reply := Prog.perform (S := RepoSig) o

def runtimeOp (o : RuntimeOp) : RuntimeProg o.Reply := Prog.perform (S := RuntimeSig) o

def liftStep {α : Type} (p : StepProg α) : RuntimeProg α :=
 p.lift (T := RuntimeSig) RuntimeOp.step fun _ r => r

def emit (event : RunEvent) : StepProg Unit := stepOp (.emit event)

def emitRun (event : RunEvent) : RuntimeProg Unit := runtimeOp (.step (.emit event))

def ctxErr : RuntimeProg (Option Err) := runtimeOp (.step .ctxErr)

section

variable {α σ:Type}

@[simp] lemma wp_stepOp (M o) (f:o.Reply → StepProg α) (Q:α → σ → Prop) (s:σ) :
  wp M (stepOp o >>= f) Q s ↔ M.demand s o ∧ ∀ r u,M.step s o r u → wp M (f r) Q u := Iff.rfl
@[simp] lemma wp_emit (M e) (f : Unit → StepProg α) (Q : α → σ → Prop) (s : σ) :
  wp M (emit e >>= f) Q s ↔ M.demand s (.emit e) ∧ ∀ u,M.step s (.emit e) () u → wp M (f ()) Q u :=
 and_congr_right fun _=>⟨fun h u hu=>h () u hu,fun h _ u hu=>h u hu⟩
@[simp] lemma wp_runtimeOp (M o) (f : o.Reply → RuntimeProg α) (Q : α → σ → Prop) (s : σ) :
  wp M (runtimeOp o >>= f) Q s ↔ M.demand s o ∧ ∀ r u,M.step s o r u → wp M (f r) Q u := Iff.rfl

@[simp] lemma wp_emitRun (M e) (f:Unit → RuntimeProg α) (Q:α → σ → Prop) (s:σ) :
  wp M (emitRun e >>= f) Q s ↔
   M.demand s (.step (.emit e)) ∧ ∀ u,M.step s (.step (.emit e)) () u → wp M (f ()) Q u :=
 and_congr_right fun _=>⟨fun h u hu=>h () u hu,fun h _ u hu=>h u hu⟩

@[simp] lemma wp_ctxErr (M) (f:Option Err → RuntimeProg α) (Q:α → σ → Prop) (s:σ) :
  wp M (ctxErr >>= f) Q s ↔ M.demand s (.step .ctxErr) ∧
   ∀ (r:Option Err) u,M.step s (.step .ctxErr) r u → wp M (f r) Q u := Iff.rfl

def onSteps (M : Monitor RuntimeSig σ) : Monitor StepSig σ where
 demand s o := M.demand s (.step o)
 step s o r u := M.step s (.step o) r u

lemma wp_liftStep (M p) (Q:α → σ → Prop) (s:σ) :
  wp M (liftStep p) Q s ↔ wp (onSteps M) p Q s := by
 induction p generalizing s with
 | ret a => exact Iff.rfl
 | ask o k ih =>
  exact and_congr_right fun _=>forall_congr' fun r=>forall_congr' fun u =>
   imp_congr_right fun _=>ih r u

end

end Lebro.RuntimeEffects
