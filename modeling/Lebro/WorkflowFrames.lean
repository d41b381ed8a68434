import Lebro.WorkflowAcceptance
import Lebro.WorkflowRounds

set_option autoImplicit false

namespace Lebro.WorkflowFrames

open RuntimeTypes WorkflowSteps WorkflowExecution WorkflowRuns WorkflowAcceptance List

variable {P:List CompiledStep → Prop} {w:LinearWorkflow} {f:StepFrame}
 {defaultBranch:String} {fs:List StepFrame} {branches:List (CompiledBranch CompiledStep)}
 {step:CompiledStep} {b:CompiledBranch CompiledStep}

def StartFrames (w : LinearWorkflow) (frames : List StepFrame) : Prop :=
 frames = [⟨w.steps, 0⟩] ∨ ∃ path stepID, resumeFrames w path stepID = some frames

def FramesShape (frames : List StepFrame) : Prop := ∀ f ∈ frames, StepsShape f.steps

lemma forall_advanceTop (h:∀ f ∈ fs,P f.steps) : ∀ f ∈ advanceTop fs,P f.steps := by
 cases fs with
 | nil => exact h
 | cons f fs =>
  intro g hg
  rcases mem_cons.mp hg with rfl | hg
  · exact h f mem_cons_self
  · exact h g (mem_cons_of_mem f hg)

lemma framesShape_advanceTop (h:FramesShape fs) :
  FramesShape (advanceTop fs) := forall_advanceTop h
lemma framesShape_tail (h : FramesShape (f :: fs)) : FramesShape fs :=
 fun g hg=>h g (mem_cons_of_mem f hg)

lemma framesShape_push (h:FramesShape (f :: fs)) (hf:f.steps[f.index]? = some step)
  (hc:step.control = .branches branches defaultBranch) (hb:b ∈ branches) :
  b.steps ≠ [] ∧ FramesShape (⟨b.steps,0⟩ :: f :: fs) := by
 have hstep:StepShape step:=(h f mem_cons_self).mem (mem_of_getElem? hf)
 rw [stepShape_iff,hc] at hstep
 obtain ⟨⟨s,hs,_⟩,hshape⟩:=BranchesShape.mem hstep hb
 refine ⟨?_,?_⟩
 · intro hnil
   rw [hnil] at hs
   cases hs
 · intro g hg
   rcases mem_cons.mp hg with rfl | hg
   · exact hshape
   · exact h g hg

lemma enterBranch_mem {path rest} (h:WorkflowRuns.enterBranch step path=some (b,rest)) :
  ∃ branches d,step.control = .branches branches d ∧ b ∈ branches := by
 unfold WorkflowRuns.enterBranch at h
 split at h
 · rename_i branches d entry _ hc
   obtain ⟨c,hc',heq⟩:=Option.map_eq_some_iff.mp h
   cases heq
   exact ⟨branches,d,hc,mem_of_find?_eq_some hc'⟩
 · cases h

def Inherited (P : List CompiledStep → Prop) : Prop :=
 ∀ steps step branches defaultBranch b, P steps → step ∈ steps →
  step.control = .branches branches defaultBranch → b ∈ branches → P b.steps

lemma Inherited.push (hP:Inherited P) (h:∀ g ∈ f :: fs,P g.steps)
  (hf:f.steps[f.index]? = some step) (hc:step.control = .branches branches defaultBranch)
  (hb:b ∈ branches) : ∀ g ∈ (⟨b.steps,0⟩ : StepFrame) :: f :: fs,P g.steps := by
 intro g hg
 rcases mem_cons.mp hg with rfl | hg
 · exact hP _ step _ _ b (h f mem_cons_self) (mem_of_getElem? hf) hc hb
 · exact h g hg

lemma Inherited.resumeFramesFrom (hP:Inherited P) {suspendStepID} (n:Nat) (path:List StepID)
  (frames frames':List StepFrame) (h:∀ f ∈ frames,P f.steps)
  (hr:WorkflowRuns.resumeFramesFrom suspendStepID n path frames=some frames') :
  ∀ f ∈ frames',P f.steps := by
 induction n generalizing path frames with
 | zero => cases hr
 | succ n ih =>
  cases frames with
  | nil => cases hr
  | cons f fs =>
   rw [WorkflowRuns.resumeFramesFrom] at hr
   cases hf : f.steps[f.index]? with
   | none =>
    rw [hf] at hr
    have htail:∀ g ∈ fs,P g.steps:=fun g hg=>h g (mem_cons_of_mem f hg)
    exact ih path _ (forall_advanceTop htail) hr
   | some step =>
    rw [hf] at hr
    dsimp only at hr
    split at hr
    · cases hr
      exact forall_advanceTop h
    · cases he : enterBranch step path with
      | none =>
       rw [he] at hr
       exact ih path _ (forall_advanceTop h) hr
      | some br =>
       rw [he] at hr
       obtain ⟨b,rest⟩:=br
       obtain ⟨branches,d,hc,hb⟩:=enterBranch_mem he
       exact ih rest _ (hP.push h hf hc hb) hr

lemma inherited_stepsShape : Inherited StepsShape := by
 intro steps step branches d b h hstep hc hb
 have hshape:StepShape step:=h.mem hstep
 rw [stepShape_iff,hc] at hshape
 exact (BranchesShape.mem hshape hb).2

lemma framesShape_start {frames} (hw:StepsShape w.steps) (h:StartFrames w frames) :
  FramesShape frames := by
 have hfirst:FramesShape [⟨w.steps,0⟩]:=by
  intro f hf
  rw [mem_singleton.mp hf]
  exact hw
 rcases h with rfl | ⟨path,stepID,h⟩
 · exact hfirst
 · exact inherited_stepsShape.resumeFramesFrom _ path _ frames hfirst h

end Lebro.WorkflowFrames
