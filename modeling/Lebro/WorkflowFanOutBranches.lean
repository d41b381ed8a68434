import Lebro.EffectPool
import Lebro.WorkflowRegions

set_option autoImplicit false

/-! The goroutines of a fan-out step as a pool over the slots and the shared context, under a run
context that stays alive. -/
namespace Lebro.WorkflowFanOutBranches

open EffectProgram EffectPool RuntimeTypes RuntimeRecords RuntimeEffects WorkflowSteps WorkflowRetry
open WorkflowRegions

structure FanState where
 active : Nat := 0
 cancelled : Bool := false

/-- The shared context has an error only after a sibling cancelled it; a wait may still end on its
timer then. -/
def fanOutStep (maxParallel : Nat) (s : FanState) : (o : StepOp) → o.Reply → FanState → Prop
 | .acquire, _, u => s.active < maxParallel ∧ u = { s with active := s.active + 1 }
 | .release, _, u => u = { s with active := s.active - 1 }
 | .cancelFan, _, u => u = { s with cancelled := true }
 | .ctxErr, r, u => u = s ∧ r = if s.cancelled then some errCanceled else none
 | .wait _, r, u => u = s ∧ (r = none ∨ s.cancelled = true ∧ r = some errCanceled)
 | _, _, u => u = s

def fanOutWorld (maxParallel : Nat) : Monitor StepSig FanState where
 demand _ _ := True
 step s o r u := fanOutStep maxParallel s o r u

def FanOutRun (call : FanOutCall) (es : List (PoolEvent StepSig))
  (outcomes : List FanOutBranchOutcome) : Prop :=
 ∃ u, PoolRun (fanOutWorld call.maxParallel) {} call.branches es u (outcomes.map .ret)

def contextReply : HandlerReply → Bool
 | .error e => !e.is .workflowSuspend && isContextErr e
 | _ => false

/-- A handler reported a context error although the context was alive right after. -/
def Leak (es : List (Event StepSig)) : Prop :=
 ∃ before call reply after,
  es = before ++ ⟨.handler call, reply⟩ :: ⟨.ctxErr, (none : Option Err)⟩ :: after ∧
   contextReply reply = true

/-- A context error just reported by a handler, whether one leaked, whether the context was seen
cancelled, and whether the branch cancelled it. -/
structure BranchWatch where
 pending : Bool := false
 leaked : Bool := false
 cancelled : Bool := false
 fired : Bool := false
deriving DecidableEq

namespace BranchWatch

def update (w : BranchWatch) : (o : StepOp) → o.Reply → BranchWatch
 | .handler _, r => { w with pending := contextReply r }
 | .ctxErr, (none : Option Err) => { w with pending := false, leaked := w.leaked || w.pending }
 | .ctxErr, (some _ : Option Err) =>
  { w with pending := false, cancelled := w.cancelled || !w.fired }
 | .wait _, (none : Option Err) => { w with pending := false }
 | .wait _, (some _ : Option Err) =>
  { w with pending := false, cancelled := w.cancelled || !w.fired }
 | .cancelFan, _ => { w with pending := false, fired := true }
 | _, _ => { w with pending := false }

def run (w : BranchWatch) (es : List (Event StepSig)) : BranchWatch :=
 es.foldl (fun w e => w.update e.1 e.2) w

end BranchWatch

def watch : Monitor StepSig BranchWatch := Monitor.ghost (fun _ _ => True) BranchWatch.update

@[simp] lemma watch_demand (w o) : watch.demand w o ↔ True := Iff.rfl
@[simp] lemma watch_step (w u) (o r) : watch.step w o r u ↔ u=w.update o r := Iff.rfl

def RetryEnd (result : Except RetryOutcome RawMessage) (w : BranchWatch) : Prop :=
 match result with
 | .error (.cancelled _) => w.pending = false ∧ w.fired = false ∧ (w.leaked || w.cancelled) = true
 | _ => w = {}

def Verdict.cancelled : Verdict → Bool
 | .silent (.cancelled _) => true
 | .done (.error (.cancelled _)) _ => true
 | _ => false

lemma suspendVerdict_not_cancelled (step e) :
  Verdict.cancelled (suspendVerdict step e)=false := by
 unfold suspendVerdict
 cases e.suspend with
 | none => rfl
 | some signal =>
  cases step.suspendSchema with
  | none => rfl
  | some schema =>
   dsimp only
   split
   · rfl
   · rfl

lemma judgeReply_cancelled (step policy isLast reply) :
  Verdict.cancelled (judgeReply step policy isLast reply)=contextReply reply := by
 cases reply with
 | panic value => rfl
 | output output =>
  dsimp only [judgeReply]
  split
  · rfl
  · rfl
 | error e =>
  dsimp only [judgeReply,contextReply]
  by_cases hs : e.is .workflowSuspend=true
  · rw [if_pos hs,suspendVerdict_not_cancelled]
    simp [hs]
  · rw [if_neg hs]
    by_cases hc : isContextErr e=true
    · rw [if_pos hc]
      simp [hs,hc,Verdict.cancelled]
    · rw [if_neg hc]
      split
      · simp [hc,Verdict.cancelled]
      · simp [hc,Verdict.cancelled]

section

variable (run:StepRun)

lemma wp_invokeStepHandler {step attempt input} :
  wp watch (invokeStepHandler run step attempt input)
   (fun r w=>w = { pending := contextReply r }) {} := by
 unfold invokeStepHandler
 cases step.handler with
 | true => exact ⟨trivial,fun _ _ hu=>hu⟩
 | false => rfl

lemma wp_emitAttemptFinished (stepID attempt err w) (hw:w.pending=false) :
  wp watch (emitAttemptFinished run stepID attempt err) (fun _ u=>u=w) w := by
 unfold emitAttemptFinished
 split
 · rfl
 refine ⟨trivial,?_⟩
 rintro _ u rfl
 cases w
 cases hw
 rfl

lemma wp_awaitDelay {delay} :
  wp watch (awaitDelay delay) (fun r w=>w = { cancelled := r.isSome }) {} := by
 unfold awaitDelay
 by_cases hd : 0 < delay
 · rw [if_pos hd]
   refine ⟨trivial,?_⟩
   rintro (_ | e) u rfl
   · rfl
   · rfl
 · rw [if_neg hd]
   rfl

lemma wp_beginAttempt (stepID policy attempt) :
  wp watch (beginAttempt run stepID policy attempt)
   (fun r w=>w = { cancelled := r.isSome }) {} := by
 unfold beginAttempt
 by_cases ha : attempt=1
 · rw [if_pos ha]
   rfl
 · rw [if_neg ha]
   apply wp_seq wp_awaitDelay
   rintro (_ | e) w rfl
   · refine ⟨trivial,?_⟩
     rintro _ u rfl
     rfl
   · rfl

lemma wp_retryLoop (step policy input) (left attempt) :
  wp watch (retryLoop run step policy input left attempt) RetryEnd {} := by
 induction left generalizing attempt with
 | zero => rfl
 | succ left ih =>
  rw [retryLoop,wp_stepOp]
  refine ⟨trivial,?_⟩
  rintro (_ | e) u rfl
  · apply wp_seq (wp_beginAttempt run step.id policy attempt)
    rintro (_ | e) u rfl
    · apply wp_seq (wp_invokeStepHandler run)
      rintro reply u rfl
      rw [wp_stepOp]
      refine ⟨trivial,?_⟩
      have hjudge:=judgeReply_cancelled step policy (left=0) reply
      rintro (_ | e) u rfl
      · dsimp only
        -- the context is alive: the reply decides, and leaks when it is a context error
        cases hv : judgeReply step policy (left=0) reply with
        | silent outcome =>
         rw [hv] at hjudge
         cases outcome with
         | cancelled e =>
          exact ⟨rfl,rfl,by simpa [BranchWatch.update,Verdict.cancelled] using hjudge.symm⟩
         | _ => simp [RetryEnd,BranchWatch.update,← hjudge,Verdict.cancelled]
        | done outcome reported =>
         rw [hv] at hjudge
         apply wp_seq (wp_emitAttemptFinished run step.id attempt reported _ rfl)
         rintro _ u rfl
         rcases outcome with (_ | e | _ | _ | _) | _
         case error.cancelled =>
          exact ⟨rfl,rfl,by simpa [BranchWatch.update,Verdict.cancelled] using hjudge.symm⟩
         all_goals simp [RetryEnd,BranchWatch.update,← hjudge,Verdict.cancelled]
        | again e =>
         rw [hv] at hjudge
         apply wp_seq (wp_emitAttemptFinished run step.id attempt _ _ rfl)
         rintro _ u rfl
         simpa [BranchWatch.update,← hjudge,Verdict.cancelled] using ih (attempt+1)
      · apply wp_seq (wp_emitAttemptFinished run step.id attempt _ _ rfl)
        rintro _ u rfl
        exact ⟨rfl,rfl,rfl⟩
    · exact ⟨rfl,rfl,rfl⟩
  · exact ⟨rfl,rfl,rfl⟩

def BranchEnd (out : FanOutBranchOutcome) (w : BranchWatch) : Prop :=
 match out.failure with
 | none => out.status = .succeeded ∧ w = {}
 | some f => out.status ≠ .succeeded ∧ w.fired = false ∧
   (w.leaked || w.cancelled) = decide (f.kind = .cancelled)

lemma wp_emitChildStarted (stepID branch w) :
  wp watch (emitChildStarted run stepID branch) (fun _ u=>u = { w with pending := false }) w :=
 ⟨trivial,fun _ _ hu=>hu⟩

lemma wp_emitChildFinished {stepID branch err w} :
  wp watch (emitChildFinished run stepID branch err)
   (fun _ u=>u = { w with pending := false }) w :=
 ⟨trivial,fun _ _ hu=>hu⟩

lemma wp_fanOutSelect (branch s branches defaultBranch current) :
  wp watch (fanOutSelect run branch s branches defaultBranch current)
   (fun r w=>match r with
    | .error out => BranchEnd out w
    | .ok b => b ∈ branches ∧ w = {}) {} := by
 unfold fanOutSelect
 cases validateStepValue s.inputSchema .stepInput current with
 | some e =>
  apply wp_seq (wp_emitChildFinished run)
  rintro _ u rfl
  exact ⟨by simp [branchFailure],rfl,rfl⟩
 | none =>
  refine wp_seq (wp_selectBranch (I := fun w : BranchWatch => w = {}) ?_ branches defaultBranch _ rfl) ?_
  · rintro _ name rfl
    refine ⟨trivial,?_⟩
    rintro r u rfl
    rfl
  · rintro (e | b) u ⟨rfl,hmem⟩
    · apply wp_seq (wp_emitChildFinished run)
      rintro _ u rfl
      refine ⟨by simp [branchFailure],rfl,?_⟩
      simp only [selectionKind]
      split
      · rfl
      · rfl
    · rw [wp_emit]
      refine ⟨trivial,?_⟩
      rintro u rfl
      apply wp_seq (wp_emitChildFinished run)
      rintro _ u rfl
      exact ⟨hmem b rfl,rfl⟩

lemma wp_runStepWithRetry {step policy input} :
  wp watch (runStepWithRetry run step policy input) RetryEnd {} := by
 unfold runStepWithRetry
 rw [wp_stepOp]
 refine ⟨trivial,?_⟩
 rintro r u rfl
 exact wp_retryLoop run step policy input _ 1

lemma branchEnd_fanOutFailure {branch stepID outcome w} (hw:RetryEnd (.error outcome) w) :
  BranchEnd (fanOutFailure run branch stepID outcome) { w with pending := false } := by
 cases outcome with
 | cancelled cause =>
  obtain ⟨_,hfired,hcause⟩:=hw
  exact ⟨by simp [fanOutFailure,branchFailure],hfired,hcause⟩
 | _ =>
  cases hw
  exact ⟨by simp [fanOutFailure,branchFailure],rfl,rfl⟩

lemma wp_fanOutChild (overrides branch s current) :
  wp watch (fanOutChild run overrides branch s current)
   (fun r w=>match r with
    | .error out => BranchEnd out w
    | .ok _ => w = {}) {} := by
 unfold fanOutChild
 cases validateStepValue s.inputSchema .stepInput current with
 | some e =>
  apply wp_seq (wp_emitChildFinished run)
  rintro _ u rfl
  exact ⟨by simp [branchFailure],rfl,rfl⟩
 | none =>
  apply wp_seq (wp_runStepWithRetry run)
  rintro (outcome | output) w hw
  · apply wp_seq (wp_emitChildFinished run)
    rintro _ u rfl
    exact branchEnd_fanOutFailure run hw
  · cases hw
    apply wp_seq (wp_emitChildFinished run)
    rintro _ u rfl
    rfl

lemma wp_fanOutSteps (overrides branch fuel steps current)
  (hfuel:stepsSize steps < fuel) :
  wp watch (fanOutSteps run overrides branch fuel steps current) BranchEnd {} := by
 induction fuel generalizing steps current with
 | zero => omega
 | succ fuel ih =>
  cases steps with
  | nil => exact ⟨rfl,rfl⟩
  | cons s remaining =>
   rw [stepsSize] at hfuel
   have hpos:2 ≤ stepSize s:=by
    rw [stepSize_eq]
    omega
   rw [fanOutSteps,wp_stepOp]
   refine ⟨trivial,?_⟩
   rintro (_ | e) u rfl
   · apply wp_seq (wp_emitChildStarted run s.id branch _)
     rintro _ u rfl
     cases hc : s.control
     case branches branches defaultBranch =>
      apply wp_seq (wp_fanOutSelect run branch s branches defaultBranch current)
      rintro (out | b) w hw
      · exact hw
      · obtain ⟨hb,rfl⟩:=hw
        have hlt:=stepsSize_lt_stepSize hc hb
        apply ih (b.steps++remaining) current
        rw [stepsSize_append]
        omega
     all_goals
      apply wp_seq (wp_fanOutChild run overrides branch s current)
      rintro (out | output) w hw
      · exact hw
      · cases hw
        exact ih remaining output (by omega)
   · exact ⟨by simp [branchFailure],rfl,rfl⟩

lemma wp_mapBranchInput {fanOutStepID branch input} :
  wp watch (mapBranchInput fanOutStepID branch input) (fun _ w=>w = {}) {} := by
 unfold mapBranchInput
 cases branch.inputMapper with
 | true => exact ⟨trivial,fun _ _ hu=>hu⟩
 | false => rfl

lemma wp_executeFanOutBranch (overrides fanOutStepID branch input) :
  wp watch (executeFanOutBranch run overrides fanOutStepID branch input) BranchEnd {} := by
 unfold executeFanOutBranch
 rw [wp_stepOp]
 refine ⟨trivial,?_⟩
 rintro (_ | e) u rfl
 · apply wp_seq wp_mapBranchInput
   rintro (e | mapped) u rfl
   · exact ⟨by simp [branchFailure],rfl,rfl⟩
   · exact wp_fanOutSteps run overrides branch.name _ branch.steps mapped (Nat.lt_succ_self _)
 · exact ⟨by simp [branchFailure],rfl,rfl⟩

def GoroutineEnd (out : FanOutBranchOutcome) (w : BranchWatch) : Prop :=
 match out.failure with
 | none => out.status = .succeeded ∧ w = {}
 | some f => out.status ≠ .succeeded ∧ (w.leaked || w.cancelled) = decide (f.kind = .cancelled)

lemma wp_cancelSiblings {failFast out w} (hw:BranchEnd out w) :
  wp watch (cancelSiblings failFast out) (fun _ u=>GoroutineEnd out u) w := by
 unfold cancelSiblings
 unfold BranchEnd at hw
 cases hf : out.failure with
 | none =>
  rw [hf] at hw
  rw [Option.isSome_none,Bool.and_false]
  simpa [GoroutineEnd,hf] using hw
 | some f =>
  rw [hf] at hw
  cases failFast with
  | true =>
   refine ⟨trivial,?_⟩
   rintro _ u rfl
   simpa [GoroutineEnd,hf,BranchWatch.update] using ⟨hw.1,hw.2.2⟩
  | false => simpa [GoroutineEnd,hf] using ⟨hw.1,hw.2.2⟩

lemma wp_fanOutGoroutine {failFast body} (hbody:wp watch body BranchEnd {}) :
  wp watch (fanOutGoroutine failFast body) GoroutineEnd {} := by
 unfold fanOutGoroutine
 rw [wp_stepOp]
 refine ⟨trivial,?_⟩
 rintro _ u rfl
 apply wp_seq hbody
 intro out w hw
 apply wp_seq (wp_cancelSiblings hw)
 intro _ u hu
 rw [wp_stepOp]
 refine ⟨trivial,?_⟩
 rintro _ v rfl
 unfold GoroutineEnd at hu
 cases hf : out.failure with
 | none =>
  rw [hf] at hu
  simp [GoroutineEnd,hf,hu,BranchWatch.update]
 | some f =>
  rw [hf] at hu
  simpa [GoroutineEnd,hf,BranchWatch.update] using hu

end

lemma BranchWatch.run_append (w:BranchWatch) (es fs) : w.run (es++fs)=(w.run es).run fs := by
 simp only [BranchWatch.run,List.foldl_append]
lemma BranchWatch.run_cons (w : BranchWatch) (e : Event StepSig) (es) :
  w.run (e :: es)=(w.update e.1 e.2).run es := rfl

lemma BranchWatch.leaked_run (w:BranchWatch) (es) :
  (w.run es).leaked=true ↔ w.leaked=true ∨
   (w.pending=true ∧ ∃ after,es = ⟨.ctxErr,(none:Option Err)⟩ :: after) ∨ Leak es := by
 induction es generalizing w with
 | nil => simp [BranchWatch.run,Leak]
 | cons e es ih =>
  rw [BranchWatch.run_cons,ih]
  have hleak:Leak (e :: es) ↔ Leak es ∨ (∃ call reply,e = ⟨.handler call,reply⟩ ∧
    contextReply reply=true ∧ ∃ after,es = ⟨.ctxErr,(none : Option Err)⟩ :: after) := by
   constructor
   · rintro ⟨_ | ⟨b,bs⟩,call,reply,after,heq,hr⟩
     · obtain ⟨rfl,rfl⟩:=List.cons.inj heq
       exact .inr ⟨call,reply,rfl,hr,after,rfl⟩
     · obtain ⟨rfl,rfl⟩:=List.cons.inj heq
       exact .inl ⟨bs,call,reply,after,rfl,hr⟩
   · rintro (⟨before,call,reply,after,rfl,hr⟩ | ⟨call,reply,rfl,hr,after,rfl⟩)
     · exact ⟨e :: before,call,reply,after,rfl,hr⟩
     · exact ⟨[],call,reply,after,rfl,hr⟩
  rw [hleak]
  obtain ⟨o,r⟩:=e
  cases o
  case handler call =>
   simp [BranchWatch.update]
   tauto
  case ctxErr =>
   cases r with
   | none => simp [BranchWatch.update]; tauto
   | some e => simp [BranchWatch.update]
  case wait d =>
   cases r with
   | none | some e => simp [BranchWatch.update]
  all_goals simp [BranchWatch.update]

def Quiet : (o : StepOp) → o.Reply → Prop
 | .ctxErr, r => r = none
 | .wait _, r => r = none
 | _, _ => True

lemma BranchWatch.cancelled_run_quiet (w:BranchWatch) (es) (h:∀ e ∈ es,Quiet e.1 e.2) :
  (w.run es).cancelled=w.cancelled := by
 induction es generalizing w with
 | nil => rfl
 | cons e es ih =>
  rw [BranchWatch.run_cons,ih _ fun f hf=>h f (List.mem_cons_of_mem e hf)]
  have he:=h e List.mem_cons_self
  obtain ⟨o,r⟩:=e
  cases o
  case ctxErr => cases he; rfl
  case wait d => cases he; rfl
  all_goals rfl

lemma BranchWatch.run_fired (w:BranchWatch) (es) (h:w.fired=true) :
  (w.run es).fired=true ∧ (w.run es).cancelled=w.cancelled := by
 induction es generalizing w with
 | nil => exact ⟨h,rfl⟩
 | cons e es ih =>
  rw [BranchWatch.run_cons]
  have hupdate:(w.update e.1 e.2).fired=true ∧ (w.update e.1 e.2).cancelled=w.cancelled:=by
   obtain ⟨o,r⟩:=e
   cases o
   case ctxErr => cases r <;> simp [BranchWatch.update,h]
   case wait d => cases r <;> simp [BranchWatch.update,h]
   all_goals simp [BranchWatch.update,h]
  obtain ⟨hfired,hcancelled⟩:=ih _ hupdate.1
  exact ⟨hfired,hcancelled.trans hupdate.2⟩

def isCancelFan : StepOp → Bool
 | .cancelFan => true
 | _ => false

lemma quiet_of_no_cancelFan {maxParallel:Nat} {s u:FanState}
  {ps qs:List (StepProg FanOutBranchOutcome)} {es}
  (h:PoolRun (fanOutWorld maxParallel) s ps es u qs) (hs:s.cancelled=false)
  (hes:∀ e ∈ es,isCancelFan e.2.1=false) : ∀ e ∈ es,Quiet e.2.1 e.2.2 := by
 induction h with
 | refl _ _ => simp
 | @next s v _ _ _ i o k r es _ hstep _ ih =>
  have hquiet:Quiet o r ∧ v.cancelled=false:=by
   have ho:isCancelFan o=false:=hes _ List.mem_cons_self
   cases o
   case ctxErr =>
    obtain ⟨rfl,hr⟩:=hstep
    exact ⟨by simpa [Quiet,hs] using hr,hs⟩
   case wait d =>
    obtain ⟨rfl,hr⟩:=hstep
    exact ⟨by simpa [Quiet,hs] using hr,hs⟩
   case acquire =>
    obtain ⟨_,rfl⟩:=hstep
    exact ⟨trivial,hs⟩
   case release =>
    cases hstep
    exact ⟨trivial,hs⟩
   case cancelFan => cases ho
   all_goals
    cases hstep
    exact ⟨trivial,hs⟩
  intro e he
  rcases List.mem_cons.mp he with rfl | he
  · exact hquiet.1
  · exact ih hquiet.2 (fun f hf=>hes f (List.mem_cons_of_mem _ hf)) e he

lemma quiet_threadEvents {es:List (PoolEvent StepSig)} (h:∀ e ∈ es,Quiet e.2.1 e.2.2) {i} :
  ∀ e ∈ threadEvents i es,Quiet e.1 e.2 :=
 fun e he=>h (i,e) (mem_threadEvents.mp he)

section

variable {run:StepRun} {overrides:Overrides} {stepID:StepID}
 {branches:List (CompiledFanOutBranch CompiledStep)} {maxParallel:Nat} {failFast:Bool}
 {input:RawMessage} {es:List (PoolEvent StepSig)} {outcomes:List FanOutBranchOutcome}

section

variable (h:FanOutRun (fanOutCall run overrides stepID branches maxParallel failFast input) es
 outcomes)

include h

lemma fanOutRun_length : outcomes.length=branches.length := by
 obtain ⟨u,hrun⟩:=h
 simpa [fanOutCall] using hrun.length_eq

lemma fanOutRun_goroutineEnd {i out} (hi:outcomes[i]? = some out) :
  GoroutineEnd out (BranchWatch.run {} (threadEvents i es)) := by
 have hlen:=fanOutRun_length h
 obtain ⟨u,hrun⟩:=h
 have hlt:i < branches.length:=by
  rw [← hlen]
  exact (List.getElem?_eq_some_iff.mp hi).1
 obtain ⟨q,hq,htrace⟩:=hrun.trace (i := i)
  (p := fanOutGoroutine failFast (executeFanOutBranch run overrides stepID branches[i] input))
  (by simp [fanOutCall,hlt])
 have hret:q = .ret out:=by
  rw [List.getElem?_map,hi] at hq
  exact (Option.some.inj hq).symm
 subst hret
 exact htrace.wp (Monitor.ghost_follows _ _ _ _) (wp_fanOutGoroutine
  (wp_executeFanOutBranch run overrides stepID branches[i] input))

lemma exists_genuine_failure (hleak:∀ i,¬ Leak (threadEvents i es)) (hfail:∃ out ∈ outcomes,out.failure.isSome) :
  ∃ out ∈ outcomes,∃ f,out.failure=some f ∧ f.kind ≠ .cancelled := by
 have hnoleak:∀ i,(BranchWatch.run {} (threadEvents i es)).leaked=false:=by
  intro i
  rw [← Bool.not_eq_true,BranchWatch.leaked_run]
  simpa using hleak i
 have hgenuine:∀ i out,outcomes[i]? = some out →
   (BranchWatch.run {} (threadEvents i es)).cancelled=false → out.failure.isSome →
   ∃ f,out.failure=some f ∧ f.kind ≠ .cancelled := by
  intro i out hi hcancelled hsome
  obtain ⟨f,hf⟩:=Option.isSome_iff_exists.mp hsome
  have hend:=fanOutRun_goroutineEnd h hi
  rw [GoroutineEnd,hf] at hend
  refine ⟨f,hf,?_⟩
  simpa [hnoleak i,hcancelled] using hend.2
 obtain ⟨out,hout,hsome⟩:=hfail
 obtain ⟨j,hj,rfl⟩:=List.mem_iff_getElem.mp hout
 have hrun:=h
 obtain ⟨u,hrun⟩:=hrun
 cases hfind : es.find? fun e=>isCancelFan e.2.1 with
 | none =>
  have hquiet:=quiet_of_no_cancelFan hrun rfl (by simpa using hfind)
  refine ⟨outcomes[j],hout,hgenuine j _ (List.getElem?_eq_getElem hj) ?_ hsome⟩
  rw [BranchWatch.cancelled_run_quiet _ _ (quiet_threadEvents hquiet)]
 | some e =>
  obtain ⟨hfire,before,after,rfl,hbefore⟩:=List.find?_eq_some_iff_append.mp hfind
  obtain ⟨i,o,r⟩:=e
  obtain ⟨v,qs,hfirst,-⟩:=hrun.split
  have hquiet:=quiet_of_no_cancelFan hfirst rfl (by simpa using hbefore)
  have hi:i < outcomes.length:=by
   have hlt:=hrun.thread_lt (e := (i,⟨o,r⟩)) (by simp)
   rw [fanOutRun_length h]
   simpa [fanOutCall] using hlt
  cases o with
  | cancelFan =>
   have hwatch:(BranchWatch.run {} (threadEvents i
     (before++(i,⟨.cancelFan,r⟩) :: after))).fired=true ∧
     (BranchWatch.run {} (threadEvents i
      (before++(i,⟨.cancelFan,r⟩) :: after))).cancelled=false := by
    rw [threadEvents_append,threadEvents_cons_self,BranchWatch.run_append,BranchWatch.run_cons]
    obtain ⟨hfired,hcancelled⟩:=BranchWatch.run_fired
     ((BranchWatch.run {} (threadEvents i before)).update .cancelFan r)
     (threadEvents i after) rfl
    refine ⟨hfired,hcancelled.trans ?_⟩
    exact BranchWatch.cancelled_run_quiet {} _ (quiet_threadEvents hquiet)
   have hend:=fanOutRun_goroutineEnd h (List.getElem?_eq_getElem hi)
   have hsome:outcomes[i].failure.isSome:=by
    cases hf : outcomes[i].failure with
    | some f => rfl
    | none =>
     rw [GoroutineEnd,hf] at hend
     rw [hend.2] at hwatch
     simp at hwatch
   exact ⟨outcomes[i],List.getElem_mem hi,
    hgenuine i _ (List.getElem?_eq_getElem hi) hwatch.2 hsome⟩
  | _ => cases hfire

lemma exists_cancelled_of_leak (hleak:∃ i,Leak (threadEvents i es)) : ∃ out ∈ outcomes,out.status ≠ .succeeded := by
 obtain ⟨i,hi⟩:=hleak
 have hleaked:(BranchWatch.run {} (threadEvents i es)).leaked=true:=
  (BranchWatch.leaked_run {} _).mpr (.inr (.inr hi))
 have hlt:i < outcomes.length:=by
  obtain ⟨before,call,reply,after,heq,-⟩:=hi
  have hmem:(i,(⟨.handler call,reply⟩ : Event StepSig)) ∈ es:=by
   rw [← mem_threadEvents,heq]
   simp
  obtain ⟨u,hrun⟩:=id h
  have hlt:=hrun.thread_lt hmem
  rw [fanOutRun_length h]
  simpa [fanOutCall] using hlt
 refine ⟨outcomes[i],List.getElem_mem hlt,?_⟩
 have hend:=fanOutRun_goroutineEnd h (List.getElem?_eq_getElem hlt)
 unfold GoroutineEnd at hend
 split at hend
 · rw [hend.2] at hleaked
   simp at hleaked
 · exact hend.1

end

end

end Lebro.WorkflowFanOutBranches
