import Lebro.EffectRuns
import Lebro.MemoryStore
import Lebro.WorkflowExecution

set_option autoImplicit false

/-! Surroundings in which the store works and user code is a function of what it is given. Clock
readings are arbitrary. -/
namespace Lebro.WorkflowUserCode

open EffectProgram EffectRuns RuntimeTypes RuntimeRecords RuntimeEffects JsonCodec WorkflowSteps
open WorkflowRetry WorkflowRegions WorkflowExecution

variable {o:RuntimeOp} {r:o.Reply} {α:Type} {e:RunEvent} {position:Nat}

structure UserCode where
 handler : HandlerCall → HandlerReply
 branchCondition : StepID → String → RawMessage → Except Err Bool
 inputMapper : StepID → String → RawMessage → Except Err RawMessage
 loopCondition : StepID → RawMessage → Nat → Except Err Bool
 fanOut : FanOutCall → List FanOutBranchOutcome
 forEach : ForEachCall → List (Except WorkflowError RawMessage)
 runID : RunID

variable {user:UserCode}

def AttemptOp (position : Nat) : StepOp → Prop
 | .handler call => call.position = position
 | .emit e => e.type = .stepAttemptStarted ∨ e.type = .stepAttemptFinished
 | _ => True

def StepEvent (e : RunEvent) : Prop :=
 e.type = .stepStarted ∨ e.type = .stepFinished ∨ e.type = .stepAttemptStarted ∨
  e.type = .stepAttemptFinished

def ChildOp (position : Nat) : StepOp → Prop
 | .handler call => call.position = position
 | .emit e => StepEvent e
 | _ => True

lemma childOp_of_attemptOp {o} (h:AttemptOp position o) : ChildOp position o := by
 cases o with
 | handler call => exact h
 | emit e => exact .inr (.inr h)
 | _ => trivial

section

variable (run:StepRun)

lemma asks_stepOp {P:StepOp → Prop} {o:StepOp} {f:o.Reply → StepProg α} (ho:P o)
  (hf:∀ r,Asks P (f r)) : Asks P (stepOp o >>= f) := asks_ask ho hf
lemma asks_emit {P} (he : P (.emit e)) : Asks P (emit e) := asks_ask he fun _=>asks_ret

lemma asks_beginAttempt (stepID policy attempt) :
  Asks (AttemptOp run.position) (beginAttempt run stepID policy attempt) := by
 unfold beginAttempt
 split
 · exact asks_ret
 refine asks_bind ?_ ?_
 · unfold awaitDelay
   split
   · exact asks_ask trivial fun _=>asks_ret
   · exact asks_ret
 · intro ended
   cases ended with
   | some e => exact asks_ret
   | none => exact asks_bind (asks_emit (.inl rfl)) fun _=>asks_ret

lemma asks_emitAttemptFinished (stepID attempt err) :
  Asks (AttemptOp run.position) (emitAttemptFinished run stepID attempt err) := by
 unfold emitAttemptFinished
 split
 · exact asks_ret
 · exact asks_emit (.inr rfl)

lemma asks_invokeStepHandler (step attempt input) :
  Asks (AttemptOp run.position) (invokeStepHandler run step attempt input) := by
 unfold invokeStepHandler
 split
 · exact asks_ask rfl fun _=>asks_ret
 · exact asks_ret

lemma asks_retryLoop (step policy input) (left attempt) :
  Asks (AttemptOp run.position) (retryLoop run step policy input left attempt) := by
 induction left generalizing attempt with
 | zero => exact asks_ret
 | succ left ih =>
  apply asks_stepOp trivial
  intro err
  cases err with
  | some e => exact asks_ret
  | none =>
   apply asks_bind (asks_beginAttempt _ _ _ _)
   intro ended
   cases ended with
   | some e => exact asks_ret
   | none =>
    apply asks_bind (asks_invokeStepHandler _ _ _ _)
    intro reply
    apply asks_stepOp trivial
    intro err
    cases err with
    | some e => exact asks_bind (asks_emitAttemptFinished _ _ _ _) fun _=>asks_ret
    | none =>
     cases judgeReply step policy (left=0) reply with
     | silent outcome => exact asks_ret
     | done outcome reported =>
      exact asks_bind (asks_emitAttemptFinished _ _ _ _) fun _=>asks_ret
     | again e => exact asks_bind (asks_emitAttemptFinished _ _ _ _) fun _=>ih _

lemma asks_runStepWithRetry (step policy input) :
  Asks (AttemptOp run.position) (runStepWithRetry run step policy input) :=
 asks_stepOp trivial fun _=>asks_retryLoop _ _ _ _ _ _

lemma asks_selectBranch (position stepID branches defaultBranch input) :
  Asks (ChildOp position) (selectBranch stepID branches defaultBranch input) := by
 have hselect:wp (asking (S := StepSig) (ChildOp position))
   (selectBranch stepID branches defaultBranch input)
   (fun r _=>True ∧ ∀ b,r = .ok b → b ∈ branches) () :=
  wp_selectBranch (I := fun _=>True)
   (fun _ _ _=>⟨trivial,fun _ _ _=>trivial⟩) branches defaultBranch () trivial
 exact wp_mono hselect fun _ _ _=>trivial

lemma asks_runChild {overrides label child current} :
  Asks (ChildOp run.position) (runChild run overrides label child current) := by
 unfold runChild
 cases validateStepValue child.inputSchema .stepInput current with
 | some e => exact asks_ret
 | none =>
  refine asks_bind (asks_emit (.inl rfl)) fun _ =>
   asks_bind ((asks_runStepWithRetry _ _ _ _).mono fun _=>childOp_of_attemptOp) ?_
  intro result
  cases result with
  | error outcome | ok output => exact asks_bind (asks_emit (.inr (.inl rfl))) fun _=>asks_ret

end

def RegionOp (position : Nat) : RuntimeOp → Prop
 | .step o => ChildOp position o
 | .fanOut _ => True
 | .forEach _ => True
 | _ => False

lemma asks_liftStep {p:StepProg α} (h:Asks (ChildOp position) p) :
  Asks (RegionOp position) (liftStep p) := by
 induction p with
 | ret a => exact asks_ret
 | ask o k ih => exact asks_ask h.1 fun r=>ih r (h.2 r () trivial)

lemma asks_runtimeOp {P:RuntimeOp → Prop} {f:o.Reply → RuntimeProg α} (ho:P o)
  (hf:∀ r,Asks P (f r)) : Asks P (runtimeOp o >>= f) := asks_ask ho hf
lemma asks_ctxErr (position) : Asks (RegionOp position) ctxErr :=
 asks_ask trivial fun _=>asks_ret

lemma asks_joinBranches (position st outcomes) :
  Asks (RegionOp position) (joinBranches st outcomes) := by
 induction outcomes generalizing st with
 | nil => exact asks_ret
 | cons x xs ih =>
  obtain ⟨name,out⟩:=x
  refine asks_bind ?_ fun st=>ih st
  unfold joinBranch
  split
  · split
    · apply asks_bind (asks_ctxErr _)
      intro err
      split
      · exact asks_ret
      · exact asks_ret
    · exact asks_ret
  · exact asks_ret

lemma asks_executeFanOut (position) (number:String → Option String) (run overrides stepID)
  (branches maxParallel failFast input) :
  Asks (RegionOp position)
   (executeFanOut number run overrides stepID branches maxParallel failFast input) := by
 refine asks_runtimeOp trivial fun outcomes=>asks_bind (asks_joinBranches _ _ _) ?_
 intro st
 cases st.primary with
 | some primary | none => exact asks_ret

lemma asks_executeForEach (position run overrides stepID steps maxParallel input) :
  Asks (RegionOp position) (executeForEach run overrides stepID steps maxParallel input) := by
 unfold executeForEach
 split
 · apply asks_runtimeOp trivial
   intro outcomes
   cases firstFailure outcomes with
   | some failure => exact asks_ret
   | none =>
    cases encodeElements (itemOutputs outcomes) with
    | none | some values => exact asks_ret
 · exact asks_ret

lemma asks_loopChildren (env st iteration steps current) :
  Asks (RegionOp st.position) (loopChildren env st iteration steps current) := by
 induction steps generalizing current with
 | nil => exact asks_ret
 | cons child rest ih =>
  apply asks_bind (asks_ctxErr _)
  intro err
  cases err with
  | some e => exact asks_ret
  | none =>
   apply asks_bind (asks_liftStep (asks_runChild (stepRun env st)))
   intro result
   cases result with
   | error failure => exact asks_ret
   | ok output => exact ih output

lemma asks_testCondition (p st stepID mode iteration current) :
  Asks (RegionOp p) (testCondition st stepID mode iteration current) := by
 apply asks_bind (asks_ctxErr _)
 intro err
 cases err with
 | some e => exact asks_ret
 | none =>
  apply asks_runtimeOp trivial
  intro matched
  cases matched with
  | error e => exact asks_ret
  | ok matched =>
   apply asks_bind (asks_ctxErr _)
   intro err
   cases err with
   | some e | none => exact asks_ret

def reviewWorkflow : LinearWorkflow where
 definition := { id := "review" }
 steps := [⟨"ask", true, none, none, some ⟨fun _ => none⟩, none, .handler⟩,
  ⟨"publish", true, none, none, none, none, .handler⟩]
 store := true
 policy := true
 executor := 0
 number := some
 pages := 1

def reviewUser : UserCode where
 handler call := if call.stepID = "ask" then
   .error ⟨"suspended", [.workflowSuspend], some ⟨"ask", .empty, .empty⟩⟩
  else .output call.input
 branchCondition _ _ _ := .ok true
 inputMapper _ _ input := .ok input
 loopCondition _ _ _ := .ok false
 fanOut _ := []
 forEach _ := []
 runID := "generated"

def UserCode.reply (user : UserCode) : (o : RuntimeOp) → Option o.Reply
 | .step .ctxErr => some none
 | .step (.emit _) => some ()
 | .step (.enterStep _ _) => some ()
 | .step (.handler call) => some (user.handler call)
 | .authorize _ _ => some none
 | .now => some (0 : Int)
 | _ => none

end Lebro.WorkflowUserCode
