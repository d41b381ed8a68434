import Lebro.DelegationRoutes
import Lebro.ToolFailures

set_option autoImplicit false

namespace Lebro.DelegatedRuns

open EffectProgram RuntimeTypes RuntimeRecords AgentEffects AgentLoop AgentApprovals Subagents
open DelegationRoutes ToolFailures List

def Undisturbed : (o : DelegationOp) → o.Reply → Prop
 | .ctxErr, ended => ended = none
 | _, _ => True

def Delegates (s : Subagent) (parent : WorkflowInvocation) (arguments : RawMessage)
  (child : ChildOutcome) (e : Err) : Prop :=
 ∃ (es : List (Event DelegationSig)) (reported : DelegationError) (run : ChildRun),
  Trace (s.execute parent arguments) es (.ret (.error reported)) ∧
   (∀ f ∈ es, Undisturbed f.1 f.2) ∧
   (⟨.runTarget s.id run, child⟩ : Event DelegationSig) ∈ es ∧ reported.toErr = e

def childOutcome : (o : DelegationOp) → o.Reply → List ChildOutcome
 | .runTarget _ _, out => [out]
 | _, _ => []

def childOutcomes (es : List (Event DelegationSig)) : List ChildOutcome :=
 es.flatMap fun e => childOutcome e.1 e.2

def delegating : Monitor DelegationSig (List ChildOutcome) where
 demand _ _ := True
 step outs o r outs' := Undisturbed o r ∧ outs' = outs ++ childOutcome o r

lemma delegating_follows {es} (halive : ∀ e ∈ es,Undisturbed e.1 e.2) (outs) :
  delegating.Follows outs es (outs++childOutcomes es) := by
 induction es generalizing outs with
 | nil =>
  rw [childOutcomes,flatMap_nil,append_nil]
  exact .nil outs
 | cons e es ih =>
  obtain ⟨he,hes⟩ := forall_mem_cons.mp halive
  rw [childOutcomes,flatMap_cons,← append_assoc]
  exact .cons ⟨he,rfl⟩ (ih hes _)

def cause (child : ChildOutcome) : Err := child.err.getD (errStatus child.result.status)

def Wraps (s : Subagent) (child : ChildOutcome) : Except DelegationError RawMessage → Prop
 | .ok _ => True
 | .error e => ∃ kind, kind ≠ .invalidInput ∧
   e = .subagent ⟨kind, s.id, child.result.id, cause child⟩

lemma wp_report (s child outs) :
  wp delegating (s.report child)
   (fun reply outs' => outs'=outs ∧ Wraps s child reply) outs := by
 obtain ⟨result,err⟩ := child
 rw [Subagent.report]
 cases err with
 | none =>
  dsimp only
  split
  · exact ⟨rfl,.runFailed,by decide,rfl⟩
  · exact ⟨rfl,trivial⟩
 | some e =>
  refine ⟨trivial,?_⟩
  rintro ended _ ⟨rfl,rfl⟩
  dsimp only
  split
  · exact ⟨append_nil _,.cancelled,by decide,rfl⟩
  · exact ⟨append_nil _,.runFailed,by decide,rfl⟩

lemma wp_execute (s parent arguments) :
  wp delegating (s.execute parent arguments) (fun reply outs =>
   outs=[] ∨ ∃ child,outs=[child] ∧ Wraps s child reply) [] := by
 refine ⟨trivial,?_⟩
 rintro ended _ ⟨rfl,rfl⟩
 split
 · exact .inl rfl
 split
 · exact .inl rfl
 refine ⟨trivial,?_⟩
 rintro child _ ⟨_,rfl⟩
 apply wp_mono (wp_report s child _)
 rintro reply _ ⟨rfl,hreply⟩
 exact .inr ⟨child,rfl,hreply⟩

lemma cancels_subagentError {kind id runID} {e : Err} :
  Cancels (SubagentError.mk kind id runID e).toErr ↔ Cancels e := by
 rw [Cancels,subagentError_is kind id runID e (by cases kind <;> nofun),
  subagentError_is kind id runID e (by cases kind <;> nofun),Cancels]

lemma Delegates.cancels_iff {s parent arguments child e}
  (h : Delegates s parent arguments child e) :
  Cancels e ↔ Cancels (cause child) := by
 obtain ⟨es,reported,run,htrace,halive,hmem,rfl⟩ := h
 have hchild : child ∈ childOutcomes es := mem_flatMap.mpr ⟨_,hmem,mem_singleton_self child⟩
 have hwp:=htrace.wp (delegating_follows halive []) (wp_execute s parent arguments)
 rw [nil_append] at hwp
 rcases hwp with hnone | ⟨other,hone,kind,_,rfl⟩
 · rw [hnone] at hchild
   exact absurd hchild not_mem_nil
 · rw [hone] at hchild
   rw [mem_singleton.mp hchild]
   exact cancels_subagentError

def FailsDelegation (e : Err) (out : AgentOutcome) : Prop :=
 out.result.status = .failed ∧
  ∃ step text, out.error = some (.agent ⟨.toolFailure, step, e.wrap text⟩)

/-- A supervisor with a live context is cancelled when the error of the child matches the end of a
context, and fails otherwise. -/
theorem supervisor_fails_iff (number : String → Option String) (a : Agent) (input : RunInput)
  (decision : ToolApprovalDecision) (p : AgentProg AgentOutcome)
  (hp : p = run a input ∨ p = runStream a input ∨ p = resumeToolApproval number a decision)
  (es : List (Event AgentSig)) (out : AgentOutcome) (h : Trace p es (.ret out))
  (halive : ∀ e ∈ es, Alive e.1 e.2) (s : Subagent) (parent : WorkflowInvocation)
  (invocation : ToolInvocation) (child : ChildOutcome) (e : Err)
  (htool : (⟨.tool invocation, .error e⟩ : Event AgentSig) ∈ es)
  (hchild : Delegates s parent invocation.arguments child e) :
  (out.result.status ≠ .cancelled ∧ FailsDelegation e out ↔ ¬ Cancels (cause child)) ∧
   (Cancels (cause child) → out.result.status = .cancelled) := by
 have hcontained:Contained Ends p := by
  rcases hp with rfl | rfl | rfl
  · exact contained_run a input
  · exact contained_runStream a input
  · exact contained_resumeToolApproval number a decision
 obtain ⟨step,text,hends⟩:=ends_of_handler_error hcontained h halive htool
 rw [← hchild.cancels_iff]
 split at hends
 · rename_i he
   exact ⟨⟨fun hout=>absurd hends.1 hout.1,fun hnot=>absurd he hnot⟩,fun _=>hends.1⟩
 · rename_i he
   refine ⟨⟨fun _=>he,fun _=>⟨?_,hends.1,step,text,hends.2⟩⟩,fun hnot=>absurd hnot he⟩
   rw [hends.1]
   nofun

def taskArguments : RawMessage := .json (.obj [("task", .str "t")])

def helper : Subagent where
 id := "sub"
 agentSteps := some 1
 deadline := 1

def supervisor : Agent where
 id := "supervisor"
 tools := ["sub"]
 model := some ⟨"own", false⟩
 registry := some fun _ => some ⟨fun _ => none, fun _ => none⟩
 maxSteps := 1
 configured := rfl

def delegatingReply : ModelResponse :=
 ⟨{ role := .assistant, toolCalls := [⟨"call-1", "sub", taskArguments⟩] }, .toolCalls, .empty, none⟩

def supervised (e : Err) : (o : AgentOp) → Unit → Option (o.Reply × Unit)
 | .runtime (.step .ctxErr), _ => some ((none : Option Err), ())
 | .runtime (.step (.emit _)), _ => some ((), ())
 | .runtime .newRunID, _ => some ("run-1", ())
 | .newStepID, _ => some ("step-1", ())
 | .generate _ _, _ => some (.ok delegatingReply, ())
 | .tool _, _ => some (.error e, ())
 | _, _ => none

def requestInput : RunInput := { messages := [{ role := .user, content := "question" }] }

def supervisedEvents (e : Err) : List (Event AgentSig) :=
 (run supervisor requestInput).answered (supervised e) ()

lemma supervised_follows (e : Err) {out}
  (h : (run supervisor requestInput).answer (supervised e) ()=some (out,())) :
  Trace (run supervisor requestInput) (supervisedEvents e) (.ret out) ∧
   ∀ f ∈ supervisedEvents e,Alive f.1 f.2 := by
 have hreplies : ∀ o u r u',supervised e o u=some (r,u') → Alive o r := by
  intro o u r u' hanswer
  rcases o with ((_ | _) | _) | _ <;> first | trivial | (cases hanswer; rfl)
 have hfollows:=Monitor.follows_answered (M := Monitor.replies Alive) hreplies h
 exact ⟨hfollows.1,hfollows.2.forall_mem fun _ _ _ _ h => h⟩

def helperInvocation : ToolInvocation where
 runID := "run-1"
 step := 1
 stepID := "step-1"
 threadID := ""
 callID := "call-1"
 toolID := "sub"
 arguments := taskArguments
 metadata := AgentTools.toolMetadata [] "run-1" 1 "call-1"

lemma mem_supervisedEvents {e : Err} :
  (⟨.tool helperInvocation,.error e⟩ : Event AgentSig) ∈ supervisedEvents e :=
 mem_of_getElem? (i := 13) rfl

def helperEvents (child : ChildOutcome) : List (Event DelegationSig) :=
 [⟨.ctxErr, none⟩, ⟨.runTarget "sub" (helper.childRun {} "t" ""), child⟩, ⟨.ctxErr, none⟩]

lemma helper_delegates {child reported}
  (h : Trace (helper.execute {} taskArguments) (helperEvents child) (.ret (.error reported))) :
  Delegates helper {} taskArguments child reported.toErr := by
 refine ⟨_,reported,_,h,?_,.tail _ (.head _),rfl⟩
 intro f hf
 simp only [helperEvents,mem_cons,not_mem_nil,or_false] at hf
 rcases hf with rfl | rfl | rfl
 · rfl
 · trivial
 · rfl

def failedChild : ChildOutcome := ⟨{ id := "run-1", status := .failed }, some (.new "failure")⟩

def failedReport : DelegationError := helper.failed .runFailed "run-1" (.new "failure")

theorem failed_child_fails_delegation :
  ∃ out, Trace (run supervisor requestInput) (supervisedEvents failedReport.toErr) (.ret out) ∧
   out.result.status ≠ .cancelled ∧ FailsDelegation failedReport.toErr out := by
 obtain ⟨htrace,halive⟩:=supervised_follows failedReport.toErr rfl
 refine ⟨_,htrace,?_⟩
 refine (supervisor_fails_iff (fun _=>none) supervisor requestInput
  ⟨"","",false,"","",none⟩ _ (.inl rfl) _ _ htrace halive helper {} helperInvocation
   failedChild _ (mem_supervisedEvents)
   (helper_delegates (.next (.next (.next (.refl _)))))).1.mpr ?_
 decide

def delegate : Agent where
 id := "child"
 model := some ⟨"own", false⟩
 maxSteps := 1
 configured := rfl

def expiring : (o : AgentOp) → Bool → Option (o.Reply × Bool)
 | .runtime (.step .ctxErr), expired =>
  some (if expired then some errDeadlineExceeded else none, expired)
 | .runtime (.step (.emit _)), expired => some ((), expired)
 | .runtime .newRunID, expired => some ("run-1", expired)
 | .newStepID, expired => some ("step-1", expired)
 | .generate _ _, _ => some (.error errDeadlineExceeded, true)
 | _, _ => none

def expiredRun : AgentOutcome where
 result := {
  id := "run-1"
  status := .cancelled
  messages := [{ role := .user, content := "t" }] }
 error := some (.agent (cancelledError 1 errDeadlineExceeded))

def expiredChild : ChildOutcome := ⟨expiredRun.result, expiredRun.error.map AgentFailure.toErr⟩

def expiredReport : DelegationError :=
 helper.failed .cancelled "run-1" (AgentFailure.agent (cancelledError 1 errDeadlineExceeded)).toErr

/-- The deadline of the child passes, the context of the supervisor is alive, and the run of the
supervisor is cancelled. -/
theorem child_deadline_cancels_supervisor :
  (∃ es, Trace (run delegate (helper.childRun {} "t" "").input) es (.ret expiredRun)) ∧
   Trace (helper.execute {} taskArguments) (helperEvents expiredChild)
    (.ret (.error expiredReport)) ∧
   ∃ out, Trace (run supervisor requestInput) (supervisedEvents expiredReport.toErr) (.ret out) ∧
    (∀ e ∈ supervisedEvents expiredReport.toErr, Alive e.1 e.2) ∧
    out.result.status = .cancelled := by
 have hchild:(run delegate (helper.childRun {} "t" "").input).answer expiring false =
   some (expiredRun,true) := rfl
 obtain ⟨htrace,halive⟩:=supervised_follows expiredReport.toErr rfl
 have hfollows:=Monitor.follows_answered (M := ⟨fun _ _=>True,fun _ _ _ _=>True⟩)
  (fun _ _ _ _ _=>trivial) hchild
 exact ⟨⟨_,hfollows.1⟩,.next (.next (.next (.refl _))),_,htrace,halive,rfl⟩

end Lebro.DelegatedRuns
