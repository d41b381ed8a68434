import Lebro.EffectRuns
import Lebro.WorkflowRuns

set_option autoImplicit false

namespace Lebro.WorkflowRounds

open EffectProgram RuntimeTypes RuntimeEffects WorkflowSteps WorkflowRetry WorkflowRegions
open WorkflowExecution

def Plain (step : CompiledStep) : Prop :=
 ∀ branches defaultBranch, step.control ≠ .branches branches defaultBranch

def Completed (st st' : ExecState) : Prop :=
 st'.frames = advanceTop st.frames ∧ st'.completed = st.completed ++ [st'.current] ∧
  st'.position = st.position ∧ st'.path = st.path

def Entered (step : CompiledStep) (st st' : ExecState) : Prop :=
 ∃ branches defaultBranch b, step.control = .branches branches defaultBranch ∧ b ∈ branches ∧
  st' = st.enterBranch b

def Pauses (step : CompiledStep) : Prop :=
 step.control = .handler ∨ (∃ duration, step.control = .sleep duration) ∨
  ∃ wakeAt, step.control = .sleepUntil wakeAt

def Ends (step : CompiledStep) (st : ExecState) : StepEnd → Prop
 | .advanced st' => (Completed st st' ∧ Plain step) ∨ Entered step st st'
 | .suspended st' result => st' = st ∧ result.status = .suspended ∧ Pauses step ∧
   ∃ suspend, result.suspend = some suspend ∧ suspend.step = st.position
 | _ => True

variable {branches:List (CompiledBranch CompiledStep)}

section

variable {σ:Type} {M:Monitor RuntimeSig σ} {env:ExecEnv} {st:ExecState}
 {step:CompiledStep}

lemma ends_failRegion {err st' forEach} : Ends step st (failRegion st' err forEach) := by
 unfold failRegion
 split
 · trivial
 · trivial

lemma wp_withValidInput {kind next s} (h:wp M next (fun e _=>Ends step st e) s) :
  wp M (withValidInput st step kind next) (fun e _=>Ends step st e) s := by
 unfold withValidInput
 cases validateStepValue step.inputSchema .stepInput st.current with
 | some e => trivial
 | none => exact h

lemma wp_saved (hM:∀ s o,M.demand s o) {p:RuntimeProg (Except Err Unit)} {ok}
  {failed:Err → StepEnd} {s} (hok:Ends step st ok) (hfailed:∀ e,Ends step st (failed e)) :
  wp M (p >>= fun saved=>match saved with
   | .error e => .ret (failed e)
   | .ok () => .ret ok) (fun e _=>Ends step st e) s := by
 apply wp_seq (wp_trivial hM)
 intro saved _ _
 cases saved with
 | error e => exact hfailed e
 | ok _ => exact hok

lemma completed_complete {stepID output} : Completed st (st.complete stepID output) := ⟨rfl,rfl,rfl,rfl⟩

lemma wp_runBranching_ends (hM:∀ s o,M.demand s o) {defaultBranch}
  (hc:step.control = .branches branches defaultBranch) {s} :
  wp M (runBranching env st step branches defaultBranch) (fun e _=>Ends step st e) s := by
 have hselect:wp M (liftStep (selectBranch step.id branches defaultBranch st.current))
   (fun r _=>True ∧ ∀ b,r = .ok b → b ∈ branches) s := by
  rw [wp_liftStep]
  refine wp_selectBranch (I := fun _=>True) ?_ branches defaultBranch s trivial
  exact fun s name _=>⟨hM _ _,fun _ _ _=>trivial⟩
 refine wp_withValidInput (wp_seq hselect ?_)
 rintro (e | b) u ⟨_,hmem⟩
 · trivial
 · apply wp_seq (wp_trivial hM)
   intro _ _ _
   exact .inr ⟨branches,defaultBranch,b,hc,hmem b rfl,rfl⟩

lemma wp_runSleep_ends (hM:∀ s o,M.demand s o) (hpauses:Pauses step) {wakeAt:Time → Time}
  {s} :
  wp M (runSleep env st step wakeAt) (fun e _=>Ends step st e) s := by
 apply wp_withValidInput
 cases validateStepValue step.outputSchema .stepOutput st.current with
 | some e => trivial
 | none =>
  apply wp_seq (wp_trivial hM)
  intro now u _
  exact wp_saved hM ⟨rfl,rfl,hpauses,_,rfl,rfl⟩ fun e=>trivial

lemma wp_runControl_ends (hM:∀ s o,M.demand s o) {s} :
  wp M (runControl env st step) (fun e _=>Ends step st e) s := by
 unfold runControl
 cases hc : step.control with
 | branches branches defaultBranch => exact wp_runBranching_ends hM hc
 | map path fields =>
  have hplain:Plain step:=fun _ _ h=>by cases hc.symm.trans h
  apply wp_withValidInput
  cases executeMap env.workflow.number path fields st.current with
  | error e => trivial
  | ok output =>
   dsimp only
   cases validateStepValue step.outputSchema .stepOutput output with
   | some e => trivial
   | none => exact wp_saved hM (.inl ⟨completed_complete,hplain⟩) fun e=>trivial
 | forEach steps maxParallel =>
  have hplain:Plain step:=fun _ _ h=>by cases hc.symm.trans h
  refine wp_withValidInput (wp_seq (wp_trivial hM) ?_)
  rintro ⟨result,output⟩ u _
  cases output with
  | error err => exact ends_failRegion
  | ok output => exact wp_saved hM (.inl ⟨⟨rfl,rfl,rfl,rfl⟩,hplain⟩) fun e=>trivial
 | loop steps maxIterations mode =>
  have hplain:Plain step:=fun _ _ h=>by cases hc.symm.trans h
  refine wp_withValidInput (wp_seq (wp_trivial hM) ?_)
  intro output u _
  cases output with
  | error err => exact ends_failRegion
  | ok output => exact wp_saved hM (.inl ⟨completed_complete,hplain⟩) fun e=>trivial
 | fanOut branches maxParallel failFast =>
  have hplain:Plain step:=fun _ _ h=>by cases hc.symm.trans h
  refine wp_withValidInput (wp_seq (wp_trivial hM) ?_)
  rintro ⟨join,output⟩ u _
  cases output with
  | error err => exact ends_failRegion
  | ok output => exact wp_saved hM (.inl ⟨⟨rfl,rfl,rfl,rfl⟩,hplain⟩) fun e=>trivial
 | sleep duration => exact wp_runSleep_ends hM (.inr (.inl ⟨duration,hc⟩))
 | sleepUntil wakeAt => exact wp_runSleep_ends hM (.inr (.inr ⟨wakeAt,hc⟩))
 | handler =>
  have hplain:Plain step:=fun _ _ h=>by cases hc.symm.trans h
  refine wp_withValidInput (wp_seq (wp_trivial hM) ?_)
  rintro (outcome | output) u _
  · cases outcome with
    | suspended signal =>
     exact wp_saved hM ⟨rfl,rfl,.inl hc,_,rfl,rfl⟩ fun e=>trivial
    | _ => trivial
  · exact wp_saved hM (.inl ⟨completed_complete,hplain⟩) fun e=>trivial

end

inductive RoundStep (st : ExecState) : ExecState → Prop where
 | popped {f : StepFrame} {fs : List StepFrame} (hst : st.frames = f :: fs)
   (hf : f.steps[f.index]? = none) : RoundStep st (st.withFrames (advanceTop fs))
 | completed {f : StepFrame} {fs : List StepFrame} {step : CompiledStep} {st' : ExecState}
   (hst : st.frames = f :: fs) (hf : f.steps[f.index]? = some step) (hplain : Plain step)
   (h : Completed st.enterStep st') : RoundStep st st'
 | entered {f : StepFrame} {fs : List StepFrame} {step : CompiledStep} {st' : ExecState}
   (hst : st.frames = f :: fs) (hf : f.steps[f.index]? = some step)
   (h : Entered step st.enterStep st') : RoundStep st st'

variable {f:StepFrame}

lemma stepsSize_drop {step} (h:f.steps[f.index]? = some step) :
  stepsSize (f.steps.drop f.index)=stepSize step+stepsSize (f.steps.drop (f.index+1)) := by
 obtain ⟨hlt,rfl⟩:=List.getElem?_eq_some_iff.mp h
 rw [List.drop_eq_getElem_cons hlt,stepsSize]

lemma framesSize_advanceTop (fs) : framesSize (advanceTop fs)=enteredSize fs := by
 cases fs with
 | nil => rfl
 | cons f fs => rfl

lemma framesSize_pop {f fs} : framesSize (advanceTop fs) < framesSize (f :: fs) := by
 rw [framesSize_advanceTop,framesSize]
 omega

lemma framesSize_advance {step} (hf:f.steps[f.index]? = some step) {fs} :
  framesSize (advanceTop (f :: fs)) < framesSize (f :: fs) := by
 have hpos:2 ≤ stepSize step:=by
  rw [stepSize_eq]
  omega
 have hdrop:=stepsSize_drop hf
 rw [framesSize_advanceTop,enteredSize,framesSize]
 omega

lemma framesSize_enter {step defaultBranch b} (hf:f.steps[f.index]? = some step)
  (hc:step.control = .branches branches defaultBranch) (hb:b ∈ branches) {fs} :
  framesSize (⟨b.steps,0⟩ :: f :: fs) < framesSize (f :: fs) := by
 have hlt:=stepsSize_lt_stepSize hc hb
 have hdrop:=stepsSize_drop hf
 rw [framesSize,framesSize,enteredSize,List.drop_zero]
 dsimp only
 omega

lemma framesSize_roundStep {st st'} (h:RoundStep st st') :
  framesSize st'.frames < framesSize st.frames := by
 cases h with
 | @popped f fs hst hf =>
  rw [hst]
  exact framesSize_pop
 | @completed f fs step _ hst hf _ h =>
  have hframes:st.enterStep.frames=f :: fs:=hst
  rw [h.1,hframes,hst]
  exact framesSize_advance hf
 | @entered f fs step _ hst hf h =>
  obtain ⟨branches,defaultBranch,b,hc,hb,rfl⟩:=h
  have hframes:(st.enterStep.enterBranch b).frames = ⟨b.steps,0⟩ :: f :: fs:=
   congrArg (List.cons _) hst
  rw [hframes,hst]
  exact framesSize_enter hf hc hb

lemma returns_executeRound {env st} :
  Returns (executeRound env st) (fun res=>match res with
   | .inl st' => RoundStep st st'
   | .inr out => out.result.status = .succeeded → st.frames=[]) := by
 have hM:∀ (s : Unit) (o : RuntimeSig.Op),
   (Monitor.replies (S := RuntimeSig) fun _ _=>True).demand s o := fun _ _=>trivial
 unfold Returns
 cases hst : st.frames with
 | nil =>
  rw [executeRound_nil hst]
  apply wp_seq (wp_trivial hM)
  intro out _ _ _
  rfl
 | cons f fs =>
  cases hf : f.steps[f.index]? with
  | none =>
   rw [executeRound_pop hst hf]
   exact .popped hst hf
  | some step =>
   rw [executeRound_step hst hf,wp_ctxErr]
   refine ⟨trivial,?_⟩
   intro r u _
   cases r with
   | some e =>
    apply wp_seq (wp_trivial hM)
    intro _ _ _
    apply wp_seq (wp_trivial hM)
    intro _ _ _ h
    cases h
   | none =>
    apply wp_seq (wp_trivial hM)
    intro _ _ _
    apply wp_seq (wp_runControl_ends hM)
    intro ending v hend
    apply wp_mono (wp_finishStep_exitOutcome hM env step.id ending v)
    intro res _ hres
    rw [hres]
    cases ending with
    | advanced st' =>
     rcases hend with hend | hend
     · exact .completed hst hf hend.2 hend.1
     · exact .entered hst hf hend
    | suspended st' result =>
     intro h
     rw [hend.2.1] at h
     cases h
    | _ =>
     intro h
     cases h

lemma wp_executeFrames {σ:Type} {M:Monitor RuntimeSig σ} {env:ExecEnv}
  (I:ExecState → σ → Prop) {Q} (hround:∀ st s,I st s → wp M (executeRound env st) (fun res u =>
  match res with | .inl st' => RoundStep st st' → I st' u | .inr out => (out.result.status =
  .succeeded → st.frames=[]) → Q out u) s) (st s) (hI:I st s) :
  wp M (executeFrames env st) Q s := by
 unfold executeFrames
 refine wp_iterate I (fun st=>framesSize st.frames) ?_ _ st s hI (Nat.lt_succ_self _)
 intro st s hI
 apply wp_mono (returns_executeRound.wp_and (hround st s hI))
 intro res u h
 cases res with
 | inl st' => exact ⟨h.2 h.1,framesSize_roundStep h.1⟩
 | inr out => exact h.2 h.1

end Lebro.WorkflowRounds
