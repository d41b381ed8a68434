import Lebro.WorkflowExecution

set_option autoImplicit false

namespace Lebro.WorkflowLoops

open EffectProgram RuntimeTypes RuntimeRecords RuntimeEffects JsonCodec WorkflowSteps WorkflowRetry
open WorkflowPersistence WorkflowExecution

abbrev Events := List (Event RuntimeSig)

section

variable (env:ExecEnv) (st:ExecState) (stepID:StepID) (steps:List CompiledStep)
variable (mode:LoopMode)

def context (err : Option Err) : Event RuntimeSig := ⟨.step .ctxErr, err⟩

def iterationEvent (number : Nat) (type : RunEventType) (err : Option WorkflowError) :
  Event RuntimeSig :=
 ⟨.step (.emit { type, runID := env.runID, step := st.position, stepID, iteration := number,
                 err := err.map WorkflowError.toErr }), ()⟩

def checkpointEnvelope (number : Nat) (output : RawMessage) : WorkflowSnapshotEnvelope where
 step := st.position
 stepID := stepID
 output := output
 outputs := st.completed ++ [output]
 loops := [{ stepID, iterations := number, output }]

/-- The events that save the checkpoint of an iteration; there are none without a store. -/
inductive Checkpoints (number : Nat) (output : RawMessage) : Events → Prop where
 | unsaved (h : env.workflow.store = false) : Checkpoints number output []
 | saved {now : Time} {state : WorkflowSnapshotEnvelope} (h : env.workflow.store = true)
   (hstate : encodeEnvelope (checkpointEnvelope st stepID number output) = .ok state) :
   Checkpoints number output
    [⟨.now, now⟩, ⟨.transaction (saveBoundary
      (boundarySnapshot env.anchor (loopSnapshotID env.anchor.runID st.position number)
       (workflowSnapshotSequence st.position number) state now)
      (boundaryRecord env.workflow env.anchor .running st.position stepID
       (st.completed ++ [output]) [] now)), .ok ()⟩]

/-- The checkpoint of an output, and only then the condition on it, which wishes to go on or not,
with a context that is alive before and after it. -/
def Tested (number : Nat) (output : RawMessage) (goOn : Bool) (es : Events) : Prop :=
 ∃ save matched, Checkpoints env st stepID number output save ∧
  goOn = (if mode = .untilTrue then !matched else matched) ∧
  es = save ++ [context none, ⟨.step (.loopCondition stepID output number), .ok matched⟩,
   context none]

def Iteration (number : Nat) (input output : RawMessage) (goOn : Bool)
  (err : Option WorkflowError) (es : Events) : Prop :=
 ∃ body test, Trace (loopChildren env st number steps input) body (.ret (.ok output)) ∧
  Trace (checkpointAndTest env st stepID mode number output) test (.ret (.ok goOn)) ∧
  Tested env st stepID mode number output goOn test ∧
  es = context none :: iterationEvent env st stepID number .loopIterationStarted none ::
   (body ++ (test ++ [iterationEvent env st stepID number .loopIterationFinished err]))

/-- The events of the first iterations, which all ask to go on, with the output of the last of
them. -/
inductive Rounds : Nat → RawMessage → Events → Prop where
 | start : Rounds 0 st.current []
 | next {k : Nat} {v v' : RawMessage} {es fs : Events} (h : Rounds k v es)
   (hnext : Iteration env st stepID steps mode (k + 1) v v' true none fs) :
   Rounds (k + 1) v' (es ++ fs)

/-- The context has ended before the iteration, or its body, its checkpoint, its condition or the
context fails in it. -/
inductive Breaks (number : Nat) (input : RawMessage) (failure : WorkflowError) : Events → Prop where
 | ended {e : Err} (h : failure = ⟨.cancelled, st.position, stepID, e⟩) :
   Breaks number input failure [context (some e)]
 | body {body : Events}
   (h : Trace (loopChildren env st number steps input) body (.ret (.error failure))) :
   Breaks number input failure (context none ::
    iterationEvent env st stepID number .loopIterationStarted none ::
    (body ++ [iterationEvent env st stepID number .loopIterationFinished (some failure)]))
 | test {body test : Events} {output : RawMessage}
   (hbody : Trace (loopChildren env st number steps input) body (.ret (.ok output)))
   (htest : Trace (checkpointAndTest env st stepID mode number output) test
    (.ret (.error failure))) :
   Breaks number input failure (context none ::
    iterationEvent env st stepID number .loopIterationStarted none ::
    (body ++ (test ++
     [iterationEvent env st stepID number .loopIterationFinished (some failure)])))

def exhausted (maxIterations : Nat) : WorkflowError :=
 ⟨.maxIterations, st.position, stepID, errMaxIterations stepID maxIterations⟩

inductive Ends (maxIterations number : Nat) (input : RawMessage) :
  Events → Except WorkflowError RawMessage → Prop where
 | stopped {output : RawMessage} {es : Events}
   (h : Iteration env st stepID steps mode number input output false none es) :
   Ends maxIterations number input es (.ok output)
 | exhausted {output : RawMessage} {es : Events} (hlast : number = maxIterations)
   (h : Iteration env st stepID steps mode number input output true
    (some (exhausted st stepID maxIterations)) es) :
   Ends maxIterations number input es (.error (exhausted st stepID maxIterations))
 | broken {failure : WorkflowError} {es : Events}
   (h : Breaks env st stepID steps mode number input failure es) :
   Ends maxIterations number input es (.error failure)

end

section

variable {env:ExecEnv} {st:ExecState} {stepID:StepID} {steps:List CompiledStep}
variable {mode:LoopMode} {number maxIterations:Nat} {output v:RawMessage} {es:Events}
 {out:Except WorkflowError RawMessage}

lemma trace_op {α:Type} {o:RuntimeOp} {f:o.Reply → RuntimeProg α} {a}
  (h:Trace (runtimeOp o >>= f) es (.ret a)) :
  ∃ r gs,es = ⟨o,r⟩ :: gs ∧ Trace (f r) gs (.ret a) := by
 cases h with
 | next tail => exact ⟨_,_,rfl,tail⟩

lemma trace_ret {α:Type} {a b} (h:Trace (.ret a : RuntimeProg α) es (.ret b)) :
  es=[] ∧ a=b := by
 cases h
 exact ⟨rfl,rfl⟩

lemma checkpoints_of_trace
  (h:Trace (persistLoopCheckpoint env.workflow env.anchor st.position stepID number output
   st.completed) es (.ret (.ok ()))) : Checkpoints env st stepID number output es := by
 unfold persistLoopCheckpoint persistBoundary at h
 by_cases hstore : env.workflow.store=true
 · rw [if_pos hstore] at h
   unfold commitEncoded at h
   cases hstate : encodeEnvelope (checkpointEnvelope st stepID number output) with
   | error e =>
    unfold checkpointEnvelope at hstate
    rw [hstate] at h
    cases h
   | ok state =>
    have hencoded:=hstate
    unfold checkpointEnvelope at hencoded
    rw [hencoded] at h
    obtain ⟨now,gs,rfl,htail⟩:=trace_op h
    cases htail with
    | next tail =>
     cases tail
     exact .saved hstore hstate
 · rw [if_neg hstore] at h
   obtain ⟨rfl,_⟩:=trace_ret h
   exact .unsaved (Bool.eq_false_iff.mpr hstore)

lemma test_of_trace {goOn}
  (h:Trace (checkpointAndTest env st stepID mode number output) es (.ret (.ok goOn))) :
  Tested env st stepID mode number output goOn es := by
 obtain ⟨save,rest,saved,rfl,hsave,hrest⟩:=h.of_bind
 cases saved with
 | error e => cases hrest
 | ok _ =>
  obtain ⟨_ | e,gs,rfl,htest⟩:=trace_op hrest
  · obtain ⟨_ | matched,gs,rfl,hmatched⟩:=trace_op htest
    · cases hmatched
    · obtain ⟨_ | e,gs,rfl,hend⟩:=trace_op hmatched
      · cases hend
        exact ⟨save,matched,checkpoints_of_trace hsave,rfl,rfl⟩
      · cases hend
  · cases htest

def failureOf : Except WorkflowError RawMessage → Option WorkflowError
 | .error e => some e
 | .ok _ => none

lemma finished_of_trace {result}
  (h:Trace (finishIteration env st stepID number result) es (.ret out)) :
  out=result ∧
   es=[iterationEvent env st stepID number .loopIterationFinished (failureOf result)] := by
 obtain ⟨r,gs,rfl,htail⟩:=trace_op h
 obtain ⟨rfl,rfl⟩:=trace_ret htail
 cases result with
 | error e | ok v => exact ⟨rfl,rfl⟩

lemma iteration_of_trace {left k} (hleft:left+1+k=maxIterations)
  (h:Trace (loopFrom env st stepID steps maxIterations mode (left+1) (k+1) v) es (.ret out)) :
  Ends env st stepID steps mode maxIterations (k+1) v es out ∨
   0 < left ∧ ∃ v' fs rest,es=fs++rest ∧
    Iteration env st stepID steps mode (k+1) v v' true none fs ∧
    Trace (loopFrom env st stepID steps maxIterations mode left (k+2) v') rest
     (.ret out) := by
 obtain ⟨_ | e,gs,rfl,halive⟩:=trace_op h
 · obtain ⟨_,gs,rfl,hstarted⟩:=trace_op halive
   obtain ⟨body,gs,result,rfl,hbody,hrest⟩:=hstarted.of_bind
   cases result with
   | error failure =>
    obtain ⟨rfl,rfl⟩:=finished_of_trace hrest
    exact .inl (.broken (.body hbody))
   | ok output =>
    obtain ⟨test,gs,goOn,rfl,htest,hrest⟩:=hrest.of_bind
    cases goOn with
    | error failure =>
     obtain ⟨rfl,rfl⟩:=finished_of_trace hrest
     exact .inl (.broken (.test hbody htest))
    | ok goOn =>
     have hiteration:∀ err,Iteration env st stepID steps mode (k+1) v output goOn err
       (context none :: iterationEvent env st stepID (k+1) .loopIterationStarted none ::
        (body++(test ++
         [iterationEvent env st stepID (k+1) .loopIterationFinished err]))) :=
      fun err=>⟨body,test,hbody,htest,test_of_trace htest,rfl⟩
     cases goOn with
     | false =>
      obtain ⟨rfl,rfl⟩:=finished_of_trace hrest
      exact .inl (.stopped (hiteration none))
     | true =>
      dsimp only at hrest
      by_cases hlast : left=0
      · rw [if_pos hlast] at hrest
        obtain ⟨rfl,rfl⟩:=finished_of_trace hrest
        exact .inl (.exhausted (by omega) (hiteration _))
      · rw [if_neg hlast] at hrest
        obtain ⟨_,gs,rfl,htail⟩:=trace_op hrest
        refine .inr ⟨Nat.pos_of_ne_zero hlast,output,_,gs,?_,hiteration none,htail⟩
        simp [iterationEvent,context]
 · obtain ⟨rfl,rfl⟩:=trace_ret halive
   exact .inl (.broken (.ended rfl))

lemma loopFrom_of_trace {left k fs} (hleft:left+1+k=maxIterations)
  (hrounds:Rounds env st stepID steps mode k v fs)
  (h:Trace (loopFrom env st stepID steps maxIterations mode (left+1) (k+1) v) es (.ret out)) :
  ∃ n u gs rest,n < maxIterations ∧ fs++es=gs++rest ∧
   Rounds env st stepID steps mode n u gs ∧
   Ends env st stepID steps mode maxIterations (n+1) u rest out := by
 induction left generalizing k v fs es with
 | zero =>
  rcases iteration_of_trace hleft h with hends | ⟨hpos,_⟩
  · exact ⟨k,v,fs,es,by omega,rfl,hrounds,hends⟩
  · omega
 | succ left ih =>
  rcases iteration_of_trace hleft h with hends | ⟨_,v',gs,rest,rfl,hiteration,htail⟩
  · exact ⟨k,v,fs,es,by omega,rfl,hrounds,hends⟩
  · rw [← List.append_assoc]
    exact ih (by omega) (.next hrounds hiteration) htail

lemma Ends.stopped_ok (h:Ends env st stepID steps mode maxIterations number v es out)
  (hstop:Iteration env st stepID steps mode number v output false none es) :
  out = .ok output := by
 obtain ⟨body,test,hbody,htest,_,hes⟩:=hstop
 cases h with
 | stopped h =>
  obtain ⟨body',test',hbody',_,_,hes'⟩:=h
  rw [hes] at hes'
  obtain ⟨hsame,-,-⟩:=hbody.unique_split hbody' (List.cons.inj (List.cons.inj hes').2).2
  exact hsame.symm
 | exhausted hlast h =>
  obtain ⟨body',test',hbody',htest',_,hes'⟩:=h
  rw [hes] at hes'
  obtain ⟨hsame,-,hrest⟩:=hbody.unique_split hbody' (List.cons.inj (List.cons.inj hes').2).2
  cases hsame
  cases (htest.unique_split htest' hrest).1
 | broken h =>
  cases h with
  | ended h => cases hes
  | body hbody' => cases (hbody.unique_split hbody' (List.cons.inj (List.cons.inj hes).2).2.symm).1
  | test hbody' htest' =>
   obtain ⟨hsame,-,hrest⟩ :=
    hbody.unique_split hbody' (List.cons.inj (List.cons.inj hes).2).2.symm
   cases hsame
   cases (htest.unique_split htest' hrest).1

end

def polishChild : CompiledStep := ⟨"edit", true, none, none, none, none, .handler⟩

def polishEnv : ExecEnv where
 workflow := ⟨{ id := "polish" }, [], true, false, 0, some, 1⟩
 anchor := ⟨"run", { input := .empty }, [], 0⟩
 runID := "run"
 metadata := []
 overrides := []

def polishState : ExecState := ⟨[], .empty, [], [], [], [], 1, "", 0⟩

/-- The condition asks to go on once; `ended` says whether the context has ended. -/
def polishReply (ended : Bool) : (o : RuntimeOp) → Nat → Option (o.Reply × Nat)
 | .step (.enterStep _ _), n => some ((), n)
 | .step (.emit _), n => some ((), n)
 | .step .ctxErr, n => some (if ended then some errCanceled else none, n)
 | .step (.handler _), n => some (.output (.json (.str "text")), n)
 | .step (.loopCondition _ _ _), n => some (.ok (n = 0), n + 1)
 | .now, n => some (0, n)
 | .transaction _, n => some (.ok (), n)
 | _, _ => none

def polish : RuntimeProg (Except WorkflowError RawMessage) :=
 executeLoop polishEnv polishState "polish" [polishChild] 3 .whileTrue

def polishTrace (ended : Bool) : Events := polish.answered (polishReply ended) 0

lemma polish_traced (ended:Bool) {out u}
  (h:polish.answer (polishReply ended) 0=some (out,u)) :
  Trace polish (polishTrace ended) (.ret out) :=
 (Monitor.follows_answered
  (M := ⟨fun _ _=>True,fun s o r u=>polishReply ended o s=some (r,u)⟩)
  (fun _ _ _ _ h=>h) h).1

end Lebro.WorkflowLoops
