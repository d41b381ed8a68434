import Lebro.MemoryStore
import Lebro.WorkflowFrames

set_option autoImplicit false

namespace Lebro.WorkflowOutputs

open EffectProgram RuntimeTypes RuntimeRecords RuntimeEffects MemoryStore JsonCodec WorkflowSteps
open WorkflowPersistence WorkflowExecution WorkflowRuns WorkflowAcceptance WorkflowRounds
open WorkflowFrames

def stepRemains : List StepFrame → Bool
 | [] => false
 | f :: fs => f.index < f.steps.length || fs.any fun g => g.index + 1 < g.steps.length

/-- Equal values, or values that decode alike. -/
def SameJSON (number : String → Option String) (a b : RawMessage) : Prop :=
 a = b ∨ rawJSONEqual number a b = true

def lastOutput (completed : List RawMessage) : RawMessage := completed.getLast?.getD .empty

lemma stepRemains_advanceTop (fs:List StepFrame) :
  stepRemains (advanceTop fs)=fs.any fun g=>g.index+1 < g.steps.length := by
 cases fs with
 | nil => rfl
 | cons f fs => rfl

lemma lt_length_of_getElem? {f:StepFrame} {step} (h:f.steps[f.index]? = some step) :
  f.index < f.steps.length :=
 (List.getElem?_eq_some_iff.mp h).1

/-- The running value and the completed outputs, seen from the start of the call: nothing has
completed yet, or the value is the last output. -/
def OutputInv (start st : ExecState) : Prop :=
 FramesShape st.frames ∧
  ((st.completed = start.completed ∧ st.current = start.current ∧
    stepRemains st.frames = stepRemains start.frames) ∨
   (lastOutput st.completed = st.current ∧ stepRemains start.frames = true))

lemma outputInv_roundStep {start st st'} (h:OutputInv start st) (hstep:RoundStep st st') :
  OutputInv start st' := by
 obtain ⟨hshape,hinv⟩:=h
 cases hstep with
 | @popped f fs hst hf =>
  rw [hst] at hshape
  refine ⟨framesShape_advanceTop (framesShape_tail hshape),?_⟩
  rcases hinv with ⟨hcompleted,hcurrent,hremains⟩ | hdone
  · refine .inl ⟨hcompleted,hcurrent,?_⟩
    have hlen:f.steps.length ≤ f.index := List.getElem?_eq_none_iff.mp hf
    have hframes:(st.withFrames (advanceTop fs)).frames=advanceTop fs := rfl
    rw [hframes,stepRemains_advanceTop,← hremains,hst,stepRemains]
    simp [Nat.not_lt.mpr hlen]
  · exact .inr hdone
 | @completed f fs step _ hst hf _ hc =>
  have hframes:st.enterStep.frames=f :: fs := hst
  refine ⟨?_,.inr ⟨?_,?_⟩⟩
  · rw [hc.1,hframes]
    rw [hst] at hshape
    exact framesShape_advanceTop hshape
  · rw [lastOutput,hc.2.1]
    simp
  · rcases hinv with ⟨_,_,hremains⟩ | ⟨_,hremains⟩
    · rw [← hremains,hst,stepRemains]
      simp [lt_length_of_getElem? hf]
    · exact hremains
 | @entered f fs step _ hst hf he =>
  obtain ⟨branches,defaultBranch,b,hc,hb,rfl⟩:=he
  rw [hst] at hshape
  obtain ⟨hne,hpush⟩:=framesShape_push hshape hf hc hb
  have hframes:(st.enterStep.enterBranch b).frames = ⟨b.steps,0⟩ :: f :: fs :=
   congrArg (List.cons _) hst
  refine ⟨hframes ▸ hpush,?_⟩
  rcases hinv with ⟨hcompleted,hcurrent,hremains⟩ | hdone
  · refine .inl ⟨hcompleted,hcurrent,?_⟩
    have hpos:0 < b.steps.length := List.length_pos_iff.mpr hne
    have hlt:=lt_length_of_getElem? hf
    rw [← hremains,hframes,hst,stepRemains,stepRemains]
    simp [hpos,hlt]
  · exact .inr hdone

lemma wp_succeedRun {faulty:Prop} {env} (hstore:env.workflow.store=true) (st:ExecState)
  (s:RuntimeState) :
  wp (runtimeWorld faulty) (succeedRun env st) (fun out u=>out.result.status = .succeeded →
   out.result=succeededResult env st ∧ ∃ now,u.store.runs env.anchor.runID =
    some (terminalRecord env.workflow env.anchor st.path st.lastPosition st.lastStepID st.fanOut
     st.completed .succeeded none now)) s := by
 have hsave:wp (runtimeWorld faulty) (persistTerminal env.workflow env.anchor st.path
   st.lastPosition st.lastStepID st.fanOut st.completed .succeeded none)
   (fun saved u=>saved = .ok () → ∃ now,u.store.runs env.anchor.runID =
    some (terminalRecord env.workflow env.anchor st.path st.lastPosition st.lastStepID st.fanOut
     st.completed .succeeded none now)) s := by
  unfold persistTerminal
  rw [if_pos hstore,wp_runtimeOp]
  refine ⟨trivial,?_⟩
  intro now u _
  rw [wp_runtimeOp]
  refine ⟨trivial,?_⟩
  intro saved v hv
  cases saved with
  | error e =>
   intro h
   cases h
  | ok _ =>
   intro _
   exact ⟨now,runtimeStep_saved hv⟩
 refine wp_seq hsave ?_
 intro saved u hu
 cases saved with
 | error e =>
  refine wp_seq (wp_trivial (fun _ _=>trivial)) ?_
  intro _ _ _ h
  cases h
 | ok _ =>
  unfold emitTerminal
  rw [wp_emitRun]
  refine ⟨trivial,?_⟩
  intro v hv _
  cases hv
  exact ⟨rfl,hu rfl⟩

/-- The stored output is the returned one exactly when a step was left to run, or when the call
started with the last completed output. -/
theorem succeeded_output_stored_iff {config : LinearWorkflowConfig} {executor : Nat}
  {number : String → Option String} {pages : Nat} {w : LinearWorkflow}
  (hw : newLinearWorkflow config executor number pages = .ok w) (hstore : w.store = true)
  (env : ExecEnv) (henv : env.workflow = w) (st : ExecState) (hframes : StartFrames w st.frames)
  (faulty : Prop) (s u : RuntimeState) (events : List (Event RuntimeSig)) (out : RunOutcome)
  (htrace : Trace (executeFrames env st) events (.ret out))
  (hworld : (runtimeWorld faulty).Follows s events u) (hout : out.result.status = .succeeded) :
  ∃ record, u.store.runs env.anchor.runID = some record ∧ record.status = .succeeded ∧
   (SameJSON w.number record.output out.result.output ↔
    stepRemains st.frames = true ∨ SameJSON w.number (lastOutput st.completed) st.current) := by
 obtain ⟨_,hshape,_⟩:=newLinearWorkflow_shape hw
 have hrun:wp (runtimeWorld faulty) (executeFrames env st)
   (fun out u=>out.result.status = .succeeded →
    ∃ record, u.store.runs env.anchor.runID = some record ∧ record.status = .succeeded ∧
     (SameJSON w.number record.output out.result.output ↔ stepRemains st.frames = true ∨
      SameJSON w.number (lastOutput st.completed) st.current)) s := by
  refine wp_executeFrames (fun st' _=>OutputInv st st') ?_ st s
   ⟨framesShape_start hshape hframes,.inl ⟨rfl,rfl,rfl⟩⟩
  intro st' s' hinv
  cases hst : st'.frames with
  | cons f fs =>
   refine wp_mono (wp_trivial (fun _ _=>trivial)) ?_
   intro res u _
   cases res with
   | inl next => exact outputInv_roundStep hinv
   | inr out =>
    intro hend hsucceeded
    cases hend hsucceeded
  | nil =>
   rw [executeRound_nil hst]
   refine wp_seq (wp_succeedRun (henv ▸ hstore) st' s') ?_
   intro out u hout _ hsucceeded
   obtain ⟨hresult,now,hstored⟩:=hout hsucceeded
   refine ⟨_,hstored,rfl,?_⟩
   have houtput:out.result.output = st'.current := by rw [hresult]; rfl
   have hrecord:(terminalRecord env.workflow env.anchor st'.path st'.lastPosition
     st'.lastStepID st'.fanOut st'.completed .succeeded none now).output =
     lastOutput st'.completed := rfl
   rw [houtput,hrecord]
   obtain ⟨_,hfresh | hdone⟩:=hinv
   · obtain ⟨hcompleted,hcurrent,hremains⟩:=hfresh
     rw [hst] at hremains
     rw [hcompleted,hcurrent,← hremains]
     simp [stepRemains]
   · exact ⟨fun _=>.inl hdone.2,fun _=>.inl hdone.1⟩
 exact htrace.wp hworld hrun hout

def askStep : Step :=
 { handlerStep "ask" with definition := { id := "ask", suspendSchema := .json (.bool true) } }

def approvalConfig : LinearWorkflowConfig where
 definition := { id := "approval" }
 steps := [askStep]
 schemaCompiler := some fun _ => .ok (some ⟨fun _ => none⟩)

def approvalWorkflow : LinearWorkflow where
 definition := { id := "approval" }
 steps := [⟨"ask", true, none, none, some ⟨fun _ => none⟩, none, .handler⟩]
 store := true
 policy := true
 executor := 0
 number := some
 pages := 1

def approvalReply (handler : HandlerReply) : (o : RuntimeOp) → Option o.Reply
 | .step .ctxErr => some none
 | .step (.emit _) => some ()
 | .step (.enterStep _ _) => some ()
 | .step (.handler _) => some handler
 | .authorize _ _ => some none
 | .now => some (0 : Int)
 | _ => none

def approvalInput : WorkflowRunInput := { input := .json .null, runID := "run" }

def approvalStarted : RuntimeState where
 store := { MemoryState.empty with
  runs := fun id => if id = "run" then
   some { id := "run", workflowID := "approval", status := .running, startedAt := 0,
          updatedAt := 0 }
   else none }
 claims := fun _ _ => false

def approvalEnv : ExecEnv := startEnv approvalWorkflow ⟨"run", approvalInput, [], 0⟩ approvalInput

theorem approval_output_stored : ∃ events out u record,
  Trace (executeFrames approvalEnv (startState approvalWorkflow approvalInput)) events (.ret out) ∧
  (runtimeWorld False).Follows approvalStarted events u ∧
  out.result.output = .json (.str "granted") ∧ u.store.runs "run" = some record ∧
  record.status = .succeeded ∧ SameJSON some record.output out.result.output := by
 have hanswer:∃ out u, (executeFrames approvalEnv (startState approvalWorkflow approvalInput)).answer
   (answerWith (approvalReply (.output (.json (.str "granted"))))) approvalStarted =
    some (out,u) ∧ out.result.status = .succeeded ∧
   out.result.output = .json (.str "granted") := ⟨_,_,rfl,rfl,rfl⟩
 obtain ⟨out,u,hout,hstatus,houtput⟩:=hanswer
 have hrun:=Monitor.follows_answered (M := runtimeWorld False) (fun _ _ _ _=>answerWith_step) hout
 have haccepted:newLinearWorkflow approvalConfig 0 some 1 = .ok approvalWorkflow := rfl
 obtain ⟨record,hrecord,hsucceeded,hsame⟩:=succeeded_output_stored_iff haccepted rfl approvalEnv rfl
  (startState approvalWorkflow approvalInput) (.inl rfl) False _ u _ out hrun.1 hrun.2 hstatus
 exact ⟨_,out,u,record,hrun.1,hrun.2,houtput,hrecord,hsucceeded,hsame.mpr (.inl rfl)⟩

/-- A run whose only step suspends, resumed with a value: the value is returned as the output of
the successful run, and the store keeps none. -/
theorem resumed_output_not_stored :
  newLinearWorkflow approvalConfig 0 some 1 = .ok approvalWorkflow ∧
  ∃ events events' first second s u,
   Trace (run approvalWorkflow approvalInput) events (.ret first) ∧
   (runtimeWorld False).Follows .empty events s ∧ first.result.status = .suspended ∧
   Trace (resume approvalWorkflow { runID := "run", input := .json (.str "yes") }) events'
    (.ret second) ∧
   (runtimeWorld False).Follows s events' u ∧ second.result.status = .succeeded ∧
   ∃ record, u.store.runs "run" = some record ∧ record.status = .succeeded ∧
    ¬ SameJSON some record.output second.result.output := by
 have hanswer:∃ first s second u record,
   (run approvalWorkflow approvalInput).answer (answerWith (approvalReply
    (.error ⟨"suspended",[.workflowSuspend],some ⟨"ask",.empty,.empty⟩⟩))) .empty =
     some (first,s) ∧ first.result.status = .suspended ∧
   (resume approvalWorkflow { runID := "run", input := .json (.str "yes") }).answer
    (answerWith (approvalReply (.output .empty))) s = some (second,u) ∧
   second.result.status = .succeeded ∧ u.store.runs "run" = some record ∧
   record.status = .succeeded ∧ record.output = .empty ∧
   second.result.output = .json (.str "yes") :=
  ⟨_,_,_,_,_,rfl,rfl,rfl,rfl,rfl,rfl,rfl,rfl⟩
 obtain ⟨first,s,second,u,record,hfirst,hsuspended,hsecond,hsucceeded,hrecord,hstatus,
  hstored,hreturned⟩ := hanswer
 have hrun:=Monitor.follows_answered (M := runtimeWorld False) (fun _ _ _ _=>answerWith_step) hfirst
 have hresume:=Monitor.follows_answered (M := runtimeWorld False) (fun _ _ _ _=>answerWith_step) hsecond
 refine ⟨rfl,_,_,first,second,s,u,hrun.1,hrun.2,hsuspended,hresume.1,hresume.2,
  hsucceeded,record,hrecord,hstatus,?_⟩
 rw [hstored,hreturned]
 intro h
 rcases h with h | h
 · cases h
 · cases h

end Lebro.WorkflowOutputs
