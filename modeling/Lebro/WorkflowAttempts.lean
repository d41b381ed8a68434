import Lebro.WorkflowRetry

set_option autoImplicit false


namespace Lebro.WorkflowAttempts

open EffectProgram RuntimeTypes RuntimeRecords RuntimeEffects WorkflowSteps WorkflowRetry

structure Invocation where
 before : Option Err
 call : HandlerCall
 reply : HandlerReply
 ended : Option Err

structure Calls where
 finished : List Invocation := []
 returned : Option (HandlerCall × HandlerReply) := none
 before : Option Err := none
 context : Option Err := none

def Calls.report (c : Calls) (e : Option Err) : Calls where
 finished := c.finished ++ (c.returned.map fun x => ⟨c.before, x.1, x.2, e⟩).toList
 context := e

def Calls.next (c : Calls) : (o : StepOp) → o.Reply → Calls
 | .ctxErr, e => c.report e
 | .wait _, e => c.report e
 | .handler call, reply => { c with returned := some (call, reply), before := c.context }
 | _, _ => c

def calls (es : List (Event StepSig)) : Calls := es.foldl (fun c e => c.next e.1 e.2) {}

def invocations (es : List (Event StepSig)) : List Invocation := (calls es).finished

/-- The last reply of the context: `ctx.Err()`, or the end of a wait. -/
def lastReport (es : List (Event StepSig)) : Option Err := (calls es).context

/-- The reply asks for another attempt: the context is alive, and the error is retryable, no
suspend signal and no cancellation. -/
def Retries (policy : Option RetryPolicy) (c : Invocation) : Prop :=
 c.ended = none ∧ ∃ e, c.reply = .error e ∧ e.is .workflowSuspend = false ∧
  isContextErr e = false ∧ ∃ p, policy = some p ∧ isRetryable p e = true

def Verdict.outcome : Verdict → Except RetryOutcome RawMessage
 | .silent outcome => .error outcome
 | .done outcome _ => outcome
 | .again err => .error (.failed err)

def Invocation.outcome (step : CompiledStep) (c : Invocation) : Except RetryOutcome RawMessage :=
 match c.ended, c.reply with
 | some e, _ => .error (.cancelled (preferContextError e e))
 | none, .panic value => .error (.panicked (.new ("lebro: step handler panicked: " ++ value)))
 | none, .error err =>
  if err.is .workflowSuspend then Verdict.outcome (suspendVerdict step err)
  else if isContextErr err then .error (.cancelled err)
  else .error (.failed err)
 | none, .output output =>
  match validateStepValue step.outputSchema .stepOutput output with
  | some e => .error (.invalidOutput e)
  | none => .ok output

/-- The context was last found ended, and its error is the cause of the cancellation. -/
def CutShort (report : Option Err) (out : Except RetryOutcome RawMessage) : Prop :=
 ∃ e, report = some e ∧
  (out = .error (.cancelled e) ∨ out = .error (.cancelled (preferContextError e e)))

/-- The outcome after the given calls. The context can also end before the first call, or after a
call that asks for another one. -/
def Decides (step : CompiledStep) (policy : Option RetryPolicy) (calls : List Invocation)
  (report : Option Err) (out : Except RetryOutcome RawMessage) : Prop :=
 match calls.getLast? with
 | none => CutShort report out ∨
   step.handler = false ∧ report = none ∧ ∃ e, out = .error (.panicked e)
 | some c => out = c.outcome step ∨ Retries policy c ∧ CutShort report out

structure Attempted (step : CompiledStep) (policy : Option RetryPolicy) (input : RawMessage)
  (calls : List Invocation) (report : Option Err) (out : Except RetryOutcome RawMessage) :
  Prop where
 same : ∀ c ∈ calls, c.call.input = input ∧ c.before = none
 retried : ∀ c ∈ calls.dropLast, Retries policy c
 decided : Decides step policy calls report out

def counting : Monitor StepSig Calls := Monitor.ghost (fun _ _ => True) Calls.next

variable {out:Except RetryOutcome RawMessage} {report:Option Err}

section

variable {run:StepRun} {step:CompiledStep} {policy:Option RetryPolicy} {input:RawMessage}
variable {c:Calls}

lemma wp_emitAttemptFinished {stepID:StepID} {attempt:Nat} {err:Option Err} {α:Type}
  {f:Unit → StepProg α} {Q} (h:wp counting (f ()) Q c) :
  wp counting (emitAttemptFinished run stepID attempt err >>= f) Q c := by
 unfold emitAttemptFinished
 split
 · exact h
 · exact ⟨trivial,fun _ u hu=>hu ▸ h⟩

lemma wp_beginAttempt (stepID attempt) (hreturned:c.returned=none)
  (hcontext:c.context=none) :
  wp counting (beginAttempt run stepID policy attempt) (fun ended u =>
   u.finished=c.finished ∧ u.returned=none ∧ u.context=ended) c := by
 unfold beginAttempt
 split
 · exact ⟨rfl,hreturned,hcontext⟩
 unfold awaitDelay
 split
 · rw [wp_stepOp]
   refine ⟨trivial,?_⟩
   rintro ended _ rfl
   have hfinished:(c.report ended).finished=c.finished:=by simp [Calls.report,hreturned]
   cases ended with
   | some e => exact ⟨hfinished,rfl,rfl⟩
   | none => exact ⟨trivial,fun _ u hu=>hu ▸ ⟨hfinished,rfl,rfl⟩⟩
 · exact ⟨trivial,fun _ u hu=>hu ▸ ⟨rfl,hreturned,hcontext⟩⟩

lemma judgeReply_cases (step policy isLast d) (hended:d.ended=none) :
  (∃ e,judgeReply step policy isLast d.reply = .again e ∧ isLast=false ∧ Retries policy d) ∨
   ((∀ e,judgeReply step policy isLast d.reply ≠ .again e) ∧
     Verdict.outcome (judgeReply step policy isLast d.reply)=d.outcome step) := by
 obtain ⟨before,call,reply,ended⟩:=d
 subst hended
 cases reply with
 | panic value => exact .inr ⟨nofun,rfl⟩
 | output value =>
  refine .inr ?_
  dsimp only [judgeReply,Invocation.outcome]
  cases validateStepValue step.outputSchema .stepOutput value with
  | some e | none => exact ⟨nofun,rfl⟩
 | error err =>
  dsimp only [judgeReply,Invocation.outcome]
  by_cases hsuspend : err.is .workflowSuspend=true
  · rw [if_pos hsuspend,if_pos hsuspend]
    refine .inr ⟨?_,rfl⟩
    unfold suspendVerdict
    repeat' split
    all_goals nofun
  · rw [if_neg hsuspend,if_neg hsuspend]
    by_cases hctx : isContextErr err=true
    · rw [if_pos hctx,if_pos hctx]
      exact .inr ⟨nofun,rfl⟩
    · rw [if_neg hctx,if_neg hctx]
      by_cases hlast : isLast || !(policy.any fun p=>isRetryable p err)
      · rw [if_pos hlast]
        exact .inr ⟨nofun,rfl⟩
      · rw [if_neg hlast]
        simp only [Bool.or_eq_true,Bool.not_eq_true',not_or,Bool.not_eq_true,
         Bool.not_eq_false,Option.any_eq_true] at hlast
        obtain ⟨hlast,p,hp,hretryable⟩:=hlast
        exact .inl ⟨err,rfl,hlast,rfl,err,rfl,Bool.eq_false_iff.mpr hsuspend,
         Bool.eq_false_iff.mpr hctx,p,hp,hretryable⟩

lemma Attempted.cons {d calls} (h:Attempted step policy input calls report out)
  (hd:d.call.input=input ∧ d.before=none) (hretries:Retries policy d)
  (hhandler:step.handler=true) : Attempted step policy input (d :: calls) report out := by
 cases calls with
 | nil =>
  refine ⟨by simpa using hd,by simp,.inr ⟨hretries,?_⟩⟩
  rcases h.decided with hcut | ⟨hnone,_⟩
  · exact hcut
  · rw [hhandler] at hnone
    cases hnone
 | cons c calls =>
  refine ⟨List.forall_mem_cons.mpr ⟨hd,h.same⟩,?_,h.decided⟩
  rw [List.dropLast_cons_cons]
  exact List.forall_mem_cons.mpr ⟨hretries,h.retried⟩

lemma attempted_cut (h:CutShort report out) : Attempted step policy input [] report out :=
 ⟨by simp,by simp,.inl h⟩

lemma attempted_last {d} (hd : d.call.input=input ∧ d.before=none) :
  Attempted step policy input [d] report (d.outcome step) :=
 ⟨by simpa using hd,by simp,.inl rfl⟩

lemma wp_retryLoop (left attempt) (hleft:0 < left) (hreturned:c.returned=none) :
  wp counting (retryLoop run step policy input left attempt) (fun out u =>
   ∃ calls,u.finished=c.finished++calls ∧ calls.length ≤ left ∧
    Attempted step policy input calls u.context out) c := by
 induction left generalizing attempt c with
 | zero => omega
 | succ left ih =>
  rw [retryLoop,wp_stepOp]
  refine ⟨trivial,?_⟩
  rintro err _ rfl
  have hsame:(c.report err).finished=c.finished:=by simp [Calls.report,hreturned]
  cases err with
  | some e =>
   exact ⟨[],hsame.trans (List.append_nil _).symm,Nat.zero_le _,attempted_cut ⟨e,rfl,.inl rfl⟩⟩
  | none =>
   refine wp_seq (wp_beginAttempt step.id attempt rfl rfl) ?_
   rintro ended u ⟨hfinished,hu,halive⟩
   have hfinished:u.finished=c.finished:=hfinished.trans hsame
   cases ended with
   | some e =>
    exact ⟨[],by simpa using hfinished,Nat.zero_le _,attempted_cut ⟨e,halive,.inl rfl⟩⟩
   | none =>
    by_cases hhandler : step.handler=true
    · rw [invokeStepHandler,if_pos hhandler,wp_stepOp]
      refine ⟨trivial,?_⟩
      rintro reply _ rfl
      rw [wp_stepOp]
      refine ⟨trivial,?_⟩
      rintro err v hv
      let d : Invocation := ⟨u.context,⟨run.runID,run.position,step.id,attempt,input⟩,
       reply,err⟩
      have hd:d.call.input=input ∧ d.before=none:=⟨rfl,halive⟩
      have hv':v.finished=c.finished ++ [d]:=by
       rw [hv,← hfinished]
       rfl
      cases err with
      | some e =>
       refine wp_emitAttemptFinished ?_
       exact ⟨[d],hv',by simp,attempted_last hd⟩
      | none =>
       have hcases:=judgeReply_cases step policy (left=0) d rfl
       dsimp only at hcases ⊢
       rcases hcases with ⟨e,hagain,hlast,hretries⟩ | ⟨hnot,houtcome⟩
       · rw [hagain]
         refine wp_emitAttemptFinished ?_
         have hpos:0 < left:=Nat.pos_of_ne_zero (of_decide_eq_false hlast)
         have hreturned':v.returned=none:=by rw [hv]; rfl
         refine wp_mono (ih (attempt+1) hpos hreturned') ?_
         rintro out x ⟨calls,hx,hlength,h⟩
         refine ⟨d :: calls,?_,by simpa using hlength,h.cons hd hretries hhandler⟩
         rw [hx,hv',List.append_assoc]
         rfl
       · have hlast:∃ calls,v.finished=c.finished++calls ∧ calls.length ≤ left+1 ∧
           Attempted step policy input calls v.context
            (Verdict.outcome (judgeReply step policy (left=0) reply)) := by
          refine ⟨[d],hv',by simp,?_⟩
          rw [houtcome]
          exact attempted_last hd
         cases hverdict : judgeReply step policy (left=0) reply with
         | again e => exact absurd hverdict (hnot e)
         | silent outcome =>
          rw [hverdict] at hlast
          exact hlast
         | done outcome reported =>
          rw [hverdict] at hlast
          exact wp_emitAttemptFinished hlast
    · rw [invokeStepHandler,if_neg hhandler]
      refine ⟨trivial,?_⟩
      rintro err _ rfl
      have hnil:(u.report err).finished=c.finished ++ []:=by
       simp [Calls.report,hu,hfinished]
      cases err with
      | some e =>
       refine wp_emitAttemptFinished ⟨[],hnil,Nat.zero_le _,attempted_cut ?_⟩
       exact ⟨e,rfl,.inr rfl⟩
      | none =>
       refine wp_emitAttemptFinished ⟨[],hnil,Nat.zero_le _,by simp,by simp,.inr ?_⟩
       exact ⟨Bool.eq_false_iff.mpr hhandler,rfl,_,rfl⟩

end

lemma outcome_ok_iff (step) (c:Invocation) (v) :
  c.outcome step = .ok v ↔ c.ended=none ∧ c.reply = .output v ∧
   validateStepValue step.outputSchema .stepOutput v=none := by
 obtain ⟨before,call,reply,ended⟩:=c
 cases ended with
 | some e => simp [Invocation.outcome]
 | none =>
  cases reply with
  | panic value => simp [Invocation.outcome]
  | output value =>
   dsimp only [Invocation.outcome]
   cases hvalid : validateStepValue step.outputSchema .stepOutput value with
   | some e =>
    refine ⟨nofun,?_⟩
    rintro ⟨_,⟨⟩,hv⟩
    rw [hvalid] at hv
    cases hv
   | none =>
    refine ⟨?_,?_⟩
    · rintro ⟨⟩
      exact ⟨rfl,rfl,hvalid⟩
    · rintro ⟨_,⟨⟩,_⟩
      rfl
  | error err =>
   have hfails:∀ v,Invocation.outcome step ⟨before,call,.error err,none⟩ ≠ .ok v:=by
    intro v
    dsimp only [Invocation.outcome]
    unfold suspendVerdict
    repeat' split
    all_goals nofun
   simp [hfails]

lemma Decides.ok_iff {step policy calls} (h:Decides step policy calls report out) (v) :
  out = .ok v ↔ ∃ c,calls.getLast? = some c ∧ c.ended=none ∧ c.reply = .output v ∧
   validateStepValue step.outputSchema .stepOutput v=none := by
 unfold Decides at h
 cases hlast : calls.getLast? with
 | none =>
  rw [hlast] at h
  rcases h with ⟨e,_,rfl | rfl⟩ | ⟨_,_,e,rfl⟩
  all_goals simp
 | some c =>
  rw [hlast] at h
  rcases h with rfl | ⟨⟨_,err,hreply,_⟩,e,_,rfl | rfl⟩
  · rw [outcome_ok_iff]
    simp
  all_goals simp [hreply]

def draftStep : CompiledStep := ⟨"draft", true, none, none, none, none, .handler⟩

def draftPolicy : RetryPolicy := { attempts := 2 }

/-- The first draft fails and the second one is fine; `ends` is the number of the report at which
the context has ended. -/
def draftReply (ends : Nat) : (o : StepOp) → Nat × Nat → Option (o.Reply × (Nat × Nat))
 | .enterStep _ _, s => some ((), s)
 | .emit _, s => some ((), s)
 | .ctxErr, s => some (if s.1 = ends then some errCanceled else none, (s.1 + 1, s.2))
 | .handler _, s =>
  some (if s.2 = 0 then .error (.new "busy") else .output (.json (.str "text")), (s.1, s.2 + 1))
 | _, _ => none

def draftTrace (ends : Nat) : List (Event StepSig) :=
 (runStepWithRetry ⟨"run", 1⟩ draftStep (some draftPolicy) .empty).answered (draftReply ends) (0, 0)

lemma draft_traced {ends u}
  (h:(runStepWithRetry ⟨"run",1⟩ draftStep (some draftPolicy) .empty).answer (draftReply ends)
   (0,0)=some (out,u)) :
  Trace (runStepWithRetry ⟨"run",1⟩ draftStep (some draftPolicy) .empty) (draftTrace ends)
   (.ret out) :=
 (Monitor.follows_answered
  (M := ⟨fun _ _=>True,fun s o r u=>draftReply ends o s=some (r,u)⟩)
  (fun _ _ _ _ h=>h) h).1

end Lebro.WorkflowAttempts
