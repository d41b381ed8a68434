import Lebro.MemoryStore
import Lebro.WorkflowFanOutBranches
import Lebro.WorkflowRuns

set_option autoImplicit false

namespace Lebro.WorkflowFanOutJoin

open EffectProgram EffectPool RuntimeTypes RuntimeEffects MemoryStore WorkflowSteps WorkflowRetry
open WorkflowRegions WorkflowExecution WorkflowRuns WorkflowFanOutBranches

def aliveReply (outcomes : List FanOutBranchOutcome) : (o : RuntimeOp) → o.Reply → Prop
 | .step .ctxErr, r => r = none
 | .fanOut _, r => r = outcomes
 | _, _ => True

def genuineFailure (out : FanOutBranchOutcome) : Option WorkflowError :=
 match out.failure with
 | none => none
 | some f => if f.kind = .cancelled then none else some f

lemma wp_joinBranch (outcomes st name out) :
  wp (Monitor.replies (aliveReply outcomes)) (joinBranch st name out)
   (fun st' _=>st'.results=st.results ++ [branchResult name out] ∧
    st'.primary=st.primary.or (genuineFailure out)) () := by
 unfold joinBranch
 cases hf : out.failure with
 | none => exact ⟨rfl,by simp [genuineFailure,hf]⟩
 | some f =>
  cases st.primary with
  | some p => exact ⟨rfl,by simp⟩
  | none =>
   dsimp only
   by_cases hk : f.kind = .cancelled
   · rw [if_pos hk,wp_ctxErr]
     refine ⟨trivial,?_⟩
     rintro r _ rfl
     exact ⟨rfl,by simp [genuineFailure,hf,hk]⟩
   · rw [if_neg hk]
     exact ⟨rfl,by simp [genuineFailure,hf,hk]⟩

lemma wp_joinBranches (outcomes pairs st) :
  wp (Monitor.replies (aliveReply outcomes)) (joinBranches st pairs)
   (fun st' _=>st'.results=st.results++pairs.map (fun p=>branchResult p.1 p.2) ∧
    st'.primary=st.primary.or (pairs.findSome? fun p=>genuineFailure p.2)) () := by
 induction pairs generalizing st with
 | nil => simp [joinBranches]
 | cons pair rest ih =>
  obtain ⟨name,out⟩:=pair
  apply wp_seq (wp_joinBranch outcomes st name out)
  rintro st' _ ⟨hresults,hprimary⟩
  apply wp_mono (ih st')
  rintro st'' _ ⟨hresults',hprimary'⟩
  refine ⟨by simp [hresults',hresults],?_⟩
  rw [hprimary',hprimary,List.findSome?_cons]
  cases st.primary with
  | some p => simp
  | none => cases genuineFailure out <;> simp

lemma wp_executeFanOut {number:String → Option String} {run overrides stepID branches}
  {maxParallel:Nat} {failFast:Bool} {input outcomes}
  (hlen:outcomes.length=branches.length) :
  wp (Monitor.replies (aliveReply outcomes))
   (executeFanOut number run overrides stepID branches maxParallel failFast input)
   (fun res _=>res.1.branches.map FanOutBranchResult.status =
     outcomes.map FanOutBranchOutcome.status ∧
    ((∃ v,res.2 = .ok v) ↔ ∀ out ∈ outcomes,genuineFailure out=none)) () := by
 have hpairs:(pairOutcomes branches outcomes).map Prod.snd=outcomes := by
  apply List.ext_getElem
  · simp [pairOutcomes,hlen]
  · intro i h1 h2
    simp [pairOutcomes,h2]
 have hstatus:∀ name out,(branchResult name out).status=out.status := by
  intro name out
  unfold branchResult
  split
  · rfl
  · rfl
 have hmem:∀ P : FanOutBranchOutcome → Prop,
   (∀ p ∈ pairOutcomes branches outcomes,P p.2) ↔ ∀ out ∈ outcomes,P out := by
  intro P
  conv_rhs => rw [← hpairs]
  simp
  tauto
 unfold executeFanOut
 rw [wp_runtimeOp]
 refine ⟨trivial,?_⟩
 rintro r _ rfl
 apply wp_seq (wp_joinBranches _ _ _)
 rintro st _ ⟨hresults,hprimary⟩
 have hresults':st.results.map FanOutBranchResult.status =
   List.map FanOutBranchOutcome.status r := by
  conv_rhs => rw [← hpairs]
  rw [hresults]
  simp [hstatus]
 have hprimary':st.primary=none ↔ ∀ out ∈ r,genuineFailure out=none := by
  rw [hprimary,← hmem fun out=>genuineFailure out=none]
  simp [List.findSome?_eq_none_iff]
 cases hp : st.primary with
 | some primary | none =>
  refine ⟨hresults',?_⟩
  rw [← hprimary',hp]
  simp

def Unsuccessful (res : ExecState ⊕ RunOutcome) : Prop :=
 ∃ out, res = .inr out ∧ (out.result.status = .failed ∨ out.result.status = .cancelled)

lemma unsuccessful_failRegion {env st stepID err} :
  Unsuccessful (exitOutcome env stepID (failRegion st err)) := by
 unfold failRegion
 split
 · exact ⟨_,rfl,.inr rfl⟩
 · exact ⟨_,rfl,.inl rfl⟩

lemma wp_executeStep_fanOut {env st step branches} {maxParallel:Nat} {failFast:Bool}
  (hcontrol:step.control = .fanOut branches maxParallel failFast) {outcomes}
  (hlen:outcomes.length=branches.length)
  (hgenuine:∃ out ∈ outcomes,genuineFailure out ≠ none) :
  wp (Monitor.replies (aliveReply outcomes)) (executeStep env st step)
   (fun res _=>Unsuccessful res) () := by
 unfold executeStep
 apply wp_seq (wp_trivial (fun _ _=>trivial))
 intro _ _ _
 have hend:wp (Monitor.replies (aliveReply outcomes)) (runControl env st step)
   (fun ending _=>Unsuccessful (exitOutcome env step.id ending)) () := by
  rw [runControl,hcontrol]
  unfold runFanOut withValidInput
  cases validateStepValue step.inputSchema .stepInput st.current with
  | some e => exact ⟨_,rfl,.inl rfl⟩
  | none =>
   apply wp_seq (wp_executeFanOut hlen)
   rintro ⟨join,err | output⟩ _ ⟨_,hok⟩
   · exact unsuccessful_failRegion
   · obtain ⟨out,hout,hne⟩:=hgenuine
     exact absurd (hok.mp ⟨output,rfl⟩ out hout) hne
 apply wp_seq hend
 intro ending _ hun
 apply wp_mono (wp_finishStep_exitOutcome (fun _ _=>trivial) env step.id ending _)
 rintro _ _ rfl
 exact hun

lemma genuineFailure_ne_none {out} :
  genuineFailure out ≠ none ↔ ∃ f,out.failure=some f ∧ f.kind ≠ .cancelled := by
 unfold genuineFailure
 cases out.failure with
 | none => simp
 | some f => simp

/-- When no handler reports a context error of its own, the step succeeds only if every branch did.
A leaked context error can make it succeed with a branch that did not. -/
theorem fanOut_succeeds_only_with_all_branches (env : ExecEnv) (st : ExecState)
  (step : CompiledStep) (branches : List (CompiledFanOutBranch CompiledStep))
  (maxParallel : Nat) (failFast : Bool)
  (hcontrol : step.control = .fanOut branches maxParallel failFast)
  (es : List (PoolEvent StepSig)) (outcomes : List FanOutBranchOutcome)
  (hfan : FanOutRun (fanOutCall (stepRun env st) env.overrides step.id branches maxParallel
   failFast st.current) es outcomes) :
  ((∀ i, ¬ Leak (threadEvents i es)) →
    (∀ events join output,
     Trace (executeFanOut env.workflow.number (stepRun env st) env.overrides step.id branches
      maxParallel failFast st.current) events (.ret (join, output)) →
     (∀ e ∈ events, aliveReply outcomes e.1 e.2) →
     (∃ v, output = .ok v) → ∀ b ∈ join.branches, b.status = .succeeded) ∧
    (∀ events res, Trace (executeStep env st step) events (.ret res) →
     (∀ e ∈ events, aliveReply outcomes e.1 e.2) →
     (∃ out ∈ outcomes, out.status ≠ .succeeded) → Unsuccessful res)) ∧
  ((∃ i, Leak (threadEvents i es)) →
    (∀ out ∈ outcomes, ∀ f, out.failure = some f → f.kind = .cancelled) →
    ∀ events join output,
     Trace (executeFanOut env.workflow.number (stepRun env st) env.overrides step.id branches
      maxParallel failFast st.current) events (.ret (join, output)) →
     (∀ e ∈ events, aliveReply outcomes e.1 e.2) →
     (∃ v, output = .ok v) ∧ ∃ b ∈ join.branches, b.status ≠ .succeeded) := by
 have hlen:=fanOutRun_length hfan
 have hjoin:∀ events join output,
   Trace (executeFanOut env.workflow.number (stepRun env st) env.overrides step.id branches
    maxParallel failFast st.current) events (.ret (join,output)) →
   (∀ e ∈ events, aliveReply outcomes e.1 e.2) →
   join.branches.map FanOutBranchResult.status = outcomes.map FanOutBranchOutcome.status ∧
    ((∃ v, output = .ok v) ↔ ∀ out ∈ outcomes, genuineFailure out = none) := by
  intro events join output htrace hevents
  exact htrace.wp (Monitor.replies_follows hevents) (wp_executeFanOut hlen)
 have hsucceeded:∀ out ∈ outcomes, out.failure = none → out.status = .succeeded := by
  intro out hout hnone
  obtain ⟨i,hi,rfl⟩:=List.mem_iff_getElem.mp hout
  have hend:=fanOutRun_goroutineEnd hfan (List.getElem?_eq_getElem hi)
  rw [GoroutineEnd,hnone] at hend
  exact hend.1
 refine ⟨fun hleak=>⟨?_,?_⟩,?_⟩
 · intro events join output htrace hevents hok b hb
   obtain ⟨hstatus,hiff⟩:=hjoin events join output htrace hevents
   have hnone:=hiff.mp hok
   have hall:∀ out ∈ outcomes, out.status = .succeeded := by
    intro out hout
    apply hsucceeded out hout
    by_contra hfail
    obtain ⟨out',hout',f,hf,hk⟩:=exists_genuine_failure hfan hleak
     ⟨out,hout,Option.isSome_iff_ne_none.mpr hfail⟩
    exact genuineFailure_ne_none.mpr ⟨f,hf,hk⟩ (hnone out' hout')
   have hmem:b.status ∈ join.branches.map FanOutBranchResult.status := List.mem_map_of_mem hb
   rw [hstatus] at hmem
   obtain ⟨out,hout,heq⟩:=List.mem_map.mp hmem
   rw [← heq]
   exact hall out hout
 · rintro events res htrace hevents ⟨out,hout,hne⟩
   have hfail:out.failure.isSome := by
    rw [Option.isSome_iff_ne_none]
    exact fun hnone=>hne (hsucceeded out hout hnone)
   obtain ⟨out',hout',f,hf,hk⟩:=exists_genuine_failure hfan hleak ⟨out,hout,hfail⟩
   exact htrace.wp (Monitor.replies_follows hevents)
    (wp_executeStep_fanOut hcontrol hlen
     ⟨out',hout',genuineFailure_ne_none.mpr ⟨f,hf,hk⟩⟩)
 · intro hleak hcancelled events join output htrace hevents
   obtain ⟨hstatus,hiff⟩:=hjoin events join output htrace hevents
   refine ⟨hiff.mpr ?_,?_⟩
   · intro out hout
     by_contra hne
     obtain ⟨f,hf,hk⟩:=genuineFailure_ne_none.mp hne
     exact hk (hcancelled out hout f hf)
   · obtain ⟨out,hout,hne⟩:=exists_cancelled_of_leak hfan hleak
     have hmem:out.status ∈ outcomes.map FanOutBranchOutcome.status := List.mem_map_of_mem hout
     rw [← hstatus] at hmem
     obtain ⟨b,hb,heq⟩:=List.mem_map.mp hmem
     exact ⟨b,hb,heq ▸ hne⟩

def fanOutStepOf (id : StepID) (branches : List (FanOutBranch Step)) : Step :=
 { handlerStep id with
   handler := false, fanOut := some { branches, maxParallel := 0, failurePolicy := none } }

def reportConfig : LinearWorkflowConfig where
 definition := { id := "report" }
 steps := [fanOutStepOf "fan" [⟨"fetch", false, [handlerStep "child"]⟩]]

def reportBranches : List (CompiledFanOutBranch CompiledStep) :=
 [⟨"fetch", false, [⟨"child", true, none, none, none, none, .handler⟩]⟩]

def reportFanOut : CompiledStep :=
 ⟨"fan", false, none, none, none, none, .fanOut reportBranches 1 true⟩

def reportWorkflow : LinearWorkflow where
 definition := { id := "report" }
 steps := [reportFanOut]
 store := true
 policy := true
 executor := 0
 number := some
 pages := 1

def reportCall : FanOutCall := fanOutCall ⟨"run", 1⟩ [] "fan" reportBranches 1 true (.json .null)

def reportStepReply (reply : HandlerReply) (_ : ℕ) :
  (o : StepOp) → FanState → Option (o.Reply × FanState)
 | .acquire, s => if s.active < 1 then some ((), { s with active := s.active + 1 }) else none
 | .release, s => some ((), { s with active := s.active - 1 })
 | .cancelFan, s => some ((), { s with cancelled := true })
 | .ctxErr, s => some (if s.cancelled then some errCanceled else none, s)
 | .handler _, s => some (reply, s)
 | .emit _, s => some ((), s)
 | .enterStep _ _, s => some ((), s)
 | _, _ => none

lemma reportStepReply_step (reply) (i:ℕ) (o s r u)
  (h:reportStepReply reply i o s=some (r,u)) : fanOutStep 1 s o r u := by
 cases o
 case acquire =>
  simp only [reportStepReply,Option.ite_none_right_eq_some] at h
  obtain ⟨hlt,heq⟩:=h
  cases heq
  exact ⟨hlt,rfl⟩
 case ctxErr =>
  cases h
  exact ⟨rfl,rfl⟩
 all_goals
  cases h
  try rfl

def reportEvents (reply : HandlerReply) : List (PoolEvent StepSig) :=
 (schedule (reportStepReply reply) (List.replicate 12 0) {} reportCall.branches).1

def failedOutcome : FanOutBranchOutcome :=
 branchFailure .failed ⟨.stepFailed, 1, "child", .new "not found"⟩

lemma reportCall_failed :
  FanOutRun reportCall (reportEvents (.error (.new "not found"))) [failedOutcome] :=
 ⟨_,schedule_run (W := fanOutWorld 1) (reportStepReply_step (.error (.new "not found")))
  (List.replicate 12 0) {} reportCall.branches⟩

def leakedOutcome : FanOutBranchOutcome :=
 branchFailure .cancelled ⟨.cancelled, 1, "child", errCanceled⟩

lemma reportCall_leaked :
  FanOutRun reportCall (reportEvents (.error errCanceled)) [leakedOutcome] :=
 ⟨_,schedule_run (W := fanOutWorld 1) (reportStepReply_step (.error errCanceled))
  (List.replicate 12 0) {} reportCall.branches⟩

def reportEnv : ExecEnv where
 workflow := reportWorkflow
 anchor := ⟨"run", { input := .json .null }, [], 0⟩
 runID := "run"
 metadata := []
 overrides := []

def reportState : ExecState where
 frames := [⟨reportWorkflow.steps, 0⟩]
 current := .json .null
 completed := []
 path := []
 fanOut := []
 forEach := []
 position := 1

def reportReply (outcome : FanOutBranchOutcome) : (o : RuntimeOp) → Option o.Reply
 | .step .ctxErr => some none
 | .step (.emit _) => some ()
 | .fanOut _ => some [outcome]
 | .authorize _ _ => some none
 | .now => some (0 : Int)
 | .newRunID => some "run"
 | _ => none

def aliveWorld (outcomes : List FanOutBranchOutcome) : Monitor RuntimeSig RuntimeState where
 demand _ _ := True
 step _ o r _ := aliveReply outcomes o r

lemma reportReply_alive (outcome o s r u)
  (h:answerWith (reportReply outcome) o s=some (r,u)) :
  (aliveWorld [outcome]).step s o r u := by
 cases o
 case step o =>
  cases o
  case ctxErr =>
   cases h
   rfl
  all_goals trivial
 case fanOut call =>
  cases h
  rfl
 all_goals trivial

theorem reportFanOut_failed_run_ends :
  ∃ events res, Trace (executeStep reportEnv reportState reportFanOut) events (.ret res) ∧
   Unsuccessful res := by
 have hanswer:∃ res u, (executeStep reportEnv reportState reportFanOut).answer
   (answerWith (reportReply failedOutcome)) .empty = some (res,u) := ⟨_,_,rfl⟩
 obtain ⟨res,u,hres⟩:=hanswer
 have hrun:=Monitor.follows_answered (reportReply_alive failedOutcome) hres
 have hleak:∀ i, ¬ Leak (threadEvents i (reportEvents (.error (.new "not found")))) := by
  intro i hleak
  have hleaked:=(BranchWatch.leaked_run {} _).mpr (.inr (.inr hleak))
  cases i with
  | zero | succ i => cases hleaked
 refine ⟨_,res,hrun.1,?_⟩
 have hjoin:=fanOut_succeeds_only_with_all_branches reportEnv reportState reportFanOut
  reportBranches 1 true rfl _ [failedOutcome] reportCall_failed
 exact (hjoin.1 hleak).2 _ res hrun.1 (hrun.2.forall_mem fun _ _ _ _ h=>h)
  ⟨failedOutcome,List.mem_singleton.mpr rfl,by decide⟩

/-- The only handler answers `context.Canceled` under a live context, and the run succeeds. -/
theorem run_succeeds_with_cancelled_branch :
  newLinearWorkflow reportConfig 0 some 1 = .ok reportWorkflow ∧
  FanOutRun reportCall (reportEvents (.error errCanceled)) [leakedOutcome] ∧
  ∃ events out, Trace (run reportWorkflow { input := .json .null }) events (.ret out) ∧
   (∀ e ∈ events, aliveReply [leakedOutcome] e.1 e.2) ∧
   (⟨.fanOut reportCall, [leakedOutcome]⟩ : Event RuntimeSig) ∈ events ∧
   out.result.status = .succeeded ∧
   (out.result.fanOut.map fun j => j.branches.map FanOutBranchResult.status) =
    [[.cancelled]] := by
 have hanswer:∃ out u, (run reportWorkflow { input := .json .null }).answer
   (answerWith (reportReply leakedOutcome)) .empty = some (out,u) ∧
   out.result.status = .succeeded ∧
   (out.result.fanOut.map fun j=>j.branches.map FanOutBranchResult.status) =
    [[.cancelled]] := ⟨_,_,rfl,rfl,rfl⟩
 obtain ⟨out,u,hout,hstatus,hbranches⟩:=hanswer
 have hrun:=Monitor.follows_answered (reportReply_alive leakedOutcome) hout
 refine ⟨rfl,reportCall_leaked,_,out,hrun.1,hrun.2.forall_mem fun _ _ _ _ h=>h,?_,
  hstatus,hbranches⟩
 exact List.mem_of_getElem? (i := 9) rfl

end Lebro.WorkflowFanOutJoin
