import Lebro.SequenceCuts
import Lebro.Subagents
import Mathlib.Data.List.ModifyLast

set_option autoImplicit false

namespace Lebro.DelegationRoutes

open EffectProgram RuntimeTypes AgentEffects SequenceCuts Subagents List

/-- A started specialist: what its run returned, and what the context said when it was looked at
before the next one. -/
structure ChildStart where
 specialist : ToolID
 outcome : ChildOutcome
 context : Option ContextEnd := none

structure DelegationLog where
 selected : Option ToolID := none
 starts : List ChildStart := []

def ChildStart.seen (ended : Option ContextEnd) (c : ChildStart) : ChildStart :=
 { c with context := ended }

def DelegationLog.looked (l : DelegationLog) (ended : Option ContextEnd) : DelegationLog :=
 { l with starts := l.starts.modifyLast (ChildStart.seen ended) }

def DelegationLog.started (l : DelegationLog) (specialist : ToolID) (outcome : ChildOutcome) :
  DelegationLog :=
 { l with starts := l.starts ++ [⟨specialist, outcome, none⟩] }

def DelegationLog.record (l : DelegationLog) : (o : DelegationOp) → o.Reply → DelegationLog
 | .ctxErr, ended => l.looked ended
 | .route _ _, decision => { l with selected := decision.toOption }
 | .runTarget specialist _, outcome => l.started specialist outcome

def delegationLog (es : List (Event DelegationSig)) : DelegationLog :=
 es.foldl (fun l e => l.record e.1 e.2) {}

def delegationMonitor : Monitor DelegationSig DelegationLog :=
 Monitor.ghost (fun _ _ => True) fun l o r => l.record o r

lemma wp_delegationOp {α:Type} (o) (k:o.Reply → DelegationProg α) (Q:α → DelegationLog → Prop)
  (l) :
  wp delegationMonitor (delegationOp o >>= k) Q l ↔
   ∀ r,wp delegationMonitor (k r) Q (l.record o r) := by
 constructor
 · intro h r
   exact h.2 r _ rfl
 · intro h
   refine ⟨trivial,?_⟩
   rintro r u rfl
   exact h r

lemma of_trace {α:Type} {p:DelegationProg α} {es a Q} (h:Trace p es (.ret a))
  (hp:wp delegationMonitor p Q {}) : Q a (delegationLog es) :=
 h.wp (Monitor.ghost_follows _ _ _ es) hp

def decisions : List Sentinel :=
 [.canceled, .deadlineExceeded, .agentCancelled, .subagentCancelled, .approvalRejected,
  .approvalExpired, .approvalInvalidDecision]

/-- The outcomes of a specialist that are routed on: runs that did not succeed and returned no
error, and errors that match no decision. -/
def routesOn (out : ChildOutcome) : Bool :=
 match out.err with
 | none => decide (out.result.status ≠ .succeeded)
 | some e => decisions.all fun s => !e.is s

def ChildStart.GoesOn (c : ChildStart) : Prop := routesOn c.outcome = true ∧ c.context = none

def Decided (out : ChildOutcome) : Prop :=
 out.result.status = .cancelled ∨ out.err.any cancelsDelegation = true ∨
  out.result.status = .suspended ∨ out.err.any (·.is .toolApprovalDenied) = true ∨
  out.err.any (·.is .approvalRejected) = true

lemma subagentError_matching (kind id runID e) :
  (SubagentError.mk kind id runID e).toErr.matching=kind.target :: e.matching := rfl
lemma subagentError_is_target {kind id runID e} :
  (SubagentError.mk kind id runID e).toErr.is kind.target=true := by
 rw [Err.is,subagentError_matching,contains_cons,beq_self_eq_true,Bool.true_or]
lemma subagentError_is (kind id runID e) {s} (h : s ≠ kind.target) :
  (SubagentError.mk kind id runID e).toErr.is s=e.is s := by
 rw [Err.is,subagentError_matching,contains_cons,beq_false_of_ne h,Bool.false_or,Err.is]

lemma routeFallbackable_runFailed (id runID e) :
  routeFallbackable (SubagentError.mk .runFailed id runID e).toErr =
   (!e.is .canceled && !e.is .deadlineExceeded && !e.is .subagentCancelled &&
    !e.is .approvalRejected && !e.is .approvalExpired && !e.is .approvalInvalidDecision) := by
 have hother {s : Sentinel} := subagentError_is .runFailed id runID e (s := s)
 have htarget:(SubagentError.mk .runFailed id runID e).toErr.is .subagentRunFailed=true:=
  subagentError_is_target
 rw [routeFallbackable,hother (s := .canceled) nofun,hother (s := .deadlineExceeded) nofun,
  hother (s := .subagentCancelled) nofun,hother (s := .approvalRejected) nofun,
  hother (s := .approvalExpired) nofun,hother (s := .approvalInvalidDecision) nofun,htarget,
  Bool.true_or,Bool.and_true]

lemma routeFallbackable_cancelled (id runID e) :
  routeFallbackable (SubagentError.mk .cancelled id runID e).toErr=false := by
 have htarget:(SubagentError.mk .cancelled id runID e).toErr.is .subagentCancelled=true:=
  subagentError_is_target
 simp [routeFallbackable,htarget]

lemma routeFallbackable_context (e:ContextEnd) : routeFallbackable e.toErr=false := by
 cases e <;> rfl

def DelegationLog.Open (l : DelegationLog) : Prop := ∀ c ∈ l.starts, c.context = none

lemma DelegationLog.Open.looked_none {l:DelegationLog} (h:l.Open) : l.looked none=l := by
 have hstarts:l.starts.modifyLast (ChildStart.seen none)=l.starts:=by
  rcases l.starts.eq_nil_or_concat' with hnil | ⟨cs,c,hconcat⟩
  · rw [hnil]
    rfl
  · have hc:ChildStart.seen none c=c:=by
     have hnone:=h c (by simp [hconcat])
     cases c
     cases hnone
     rfl
    rw [hconcat,modifyLast_concat,hc]
 rw [DelegationLog.looked,hstarts]

lemma DelegationLog.Open.started {l:DelegationLog} (h:l.Open) (specialist outcome) :
  (l.started specialist outcome).Open := by
 intro c hc
 rcases mem_append.mp hc with hc | hc
 · exact h c hc
 · rw [mem_singleton.mp hc]

inductive Executed (l : DelegationLog) (id : ToolID) :
  Except DelegationError RawMessage → DelegationLog → Prop where
 | ended (e : ContextEnd) : Executed l id (.error (.context e)) (l.looked (some e))
 | interrupted (out : ChildOutcome) (e : ContextEnd) :
   Executed l id (.error (.context e)) ((l.started id out).looked (some e))
 | failed (out : ChildOutcome) (e : DelegationError)
   (h : routeFallbackable e.toErr = routesOn out) :
   Executed l id (.error e) (l.started id out)
 | succeeded (out : ChildOutcome) (value : RawMessage) (h : routesOn out = false) :
   Executed l id (.ok value) (l.started id out)

lemma wp_report (s:Subagent) (l:DelegationLog) (hopen:l.Open) (out) :
  wp delegationMonitor (s.report out) (Executed l s.id) (l.started s.id out) := by
 obtain ⟨result,err⟩:=out
 rw [Subagent.report]
 cases err with
 | none =>
  dsimp only
  split
  · rename_i hstatus
    refine .failed _ _ ?_
    simp [Subagent.failed,DelegationError.toErr,routeFallbackable_runFailed,errStatus,
     routesOn,Err.is,Err.sentinel,hstatus]
  · rename_i hstatus
    exact .succeeded _ _ (by simpa [routesOn] using hstatus)
 | some e =>
  dsimp only
  rw [wp_delegationOp]
  intro ended
  cases ended with
  | some parentErr => exact .interrupted _ _
  | none =>
   rw [DelegationLog.record,(hopen.started _ _).looked_none]
   dsimp only
   split
   · rename_i hcancels
     refine .failed _ _ ?_
     rw [Subagent.failed,DelegationError.toErr,routeFallbackable_cancelled]
     simp only [cancelsDelegation,Bool.or_eq_true] at hcancels
     rcases hcancels with (h | h) | h <;> simp [routesOn,decisions,h]
   · rename_i hcancels
     refine .failed _ _ ?_
     rw [Subagent.failed,DelegationError.toErr,routeFallbackable_runFailed]
     simp only [cancelsDelegation,Bool.or_eq_true,not_or,Bool.not_eq_true] at hcancels
     obtain ⟨⟨hagent,hcanceled⟩,hdeadline⟩:=hcancels
     simp [routesOn,decisions,hagent,hcanceled,hdeadline,Bool.and_assoc]

def NamesTask (input : RawMessage) : Prop :=
 ∃ task context, decodeSubagentInput input = some (task, context) ∧ task ≠ ""

lemma wp_execute (s:Subagent) (parent) {input} (hinput:NamesTask input) (l:DelegationLog)
  (hopen:l.Open) : wp delegationMonitor (s.execute parent input) (Executed l s.id) l := by
 obtain ⟨task,context,hdecode,htask⟩:=hinput
 rw [Subagent.execute,wp_delegationOp]
 intro ended
 cases ended with
 | some e => exact .ended e
 | none =>
  rw [DelegationLog.record,hopen.looked_none]
  dsimp only
  rw [hdecode]
  dsimp only
  rw [if_neg htask,wp_delegationOp]
  exact wp_report s l hopen

def remaining (attempts : List ToolID) : List ToolID → List ToolID
 | [] => []
 | id :: ids =>
  if id ∈ attempts then remaining attempts ids
  else id :: remaining (attempts ++ [id]) ids

lemma remaining_of_nodup (attempts ids) (h:ids.Nodup) :
  remaining attempts ids=ids.filter (· ∉ attempts) := by
 induction ids generalizing attempts with
 | nil => rfl
 | cons id ids ih =>
  obtain ⟨hid,hids⟩:=nodup_cons.mp h
  rw [remaining]
  split
  · rename_i hmem
    rw [ih attempts hids,filter_cons_of_neg (by simpa using hmem)]
  · rename_i hmem
    rw [ih _ hids,filter_cons_of_pos (by simpa using hmem)]
    congr 1
    refine filter_congr fun other hother=>?_
    have hne:other ≠ id:=fun h=>hid (h ▸ hother)
    simp [hne]

def plan (r : RoutedSubagent) : Option ToolID → List ToolID
 | none => []
 | some selected => selected :: r.fallback.filter (· ≠ selected)

lemma plan_eq_remaining (r selected) :
  plan r (some selected)=remaining [] (selected :: r.fallback) := by
 rw [remaining,if_neg not_mem_nil,remaining_of_nodup _ _ r.once,plan]
 simp

abbrev CutStarts : List ToolID → List ChildStart → Prop :=
 Cut ChildStart.specialist ChildStart.GoesOn

structure Going (selected : ToolID) (attempts : List ToolID) (l : DelegationLog) : Prop where
 selected : l.selected = some selected
 attempts : l.starts.map ChildStart.specialist = attempts
 on : ∀ c ∈ l.starts, c.GoesOn

structure Gone (selected : ToolID) (ids : List ToolID) (l : DelegationLog) : Prop where
 selected : l.selected = some selected
 cut : l.starts = [] ∨ CutStarts ids l.starts

section

variable {selected:ToolID} {attempts:List ToolID} {l:DelegationLog}

section

variable (h:Going selected attempts l)

include h

lemma Going.toOpen : l.Open := fun c hc=>(h.on c hc).2

lemma Going.finished : Gone selected attempts l where
 selected := h.selected
 cut := by
  have hcut:CutStarts (l.starts.map ChildStart.specialist ++ []) (l.starts ++ []):=
   Cut.append h.on .finished
  rw [append_nil,append_nil,h.attempts] at hcut
  exact .inr hcut

lemma Going.next (id:ToolID) {out:ChildOutcome}
  (hout:routesOn out=true) : Going selected (attempts ++ [id]) (l.started id out) where
 selected := h.selected
 attempts := by rw [DelegationLog.started,map_append,h.attempts,map_singleton]
 on := by
  intro c hc
  rcases mem_append.mp hc with hc | hc
  · exact h.on c hc
  · rw [mem_singleton.mp hc]
    exact ⟨hout,rfl⟩

lemma Going.stopped (c:ChildStart) (hc:¬ c.GoesOn)
  (ids:List ToolID) :
  Gone selected (attempts++c.specialist :: ids) { l with starts := l.starts ++ [c] } where
 selected := h.selected
 cut := by
  rw [← h.attempts]
  exact .inr (Cut.append h.on (.stopped c ids hc))

lemma Going.ended (e:ContextEnd) (ids:List ToolID) :
  Gone selected (attempts++ids) (l.looked (some e)) where
 selected := h.selected
 cut := by
  rcases l.starts.eq_nil_or_concat' with hnil | ⟨cs,c,hconcat⟩
  · left
    rw [DelegationLog.looked,hnil]
    rfl
  · right
    have hstops:¬ (ChildStart.seen (some e) c).GoesOn:=by
     rintro ⟨_,hcontext⟩
     cases hcontext
    have hcs:∀ d ∈ cs,d.GoesOn:=by
     intro d hd
     exact h.on d (hconcat ▸ mem_append_left _ hd)
    rw [DelegationLog.looked,← h.attempts,hconcat,modifyLast_concat,map_append,append_assoc]
    exact Cut.append hcs (.stopped _ _ hstops)

end

end

lemma encodeRouteOutput_error {output selected candidates st e}
  (h:encodeRouteOutput output selected candidates st = .error e) :
  routeFallbackable e=false := by
 have he:e = .new "lebro: decode routed subagent result":=by
  unfold encodeRouteOutput at h
  dsimp only at h
  split at h
  · split at h
    · cases h
    · cases h
      rfl
  · cases h
    rfl
 rw [he]
 rfl

section

variable {r:RoutedSubagent} {parent:WorkflowInvocation} {input:RawMessage}
 {selected:ToolID}

lemma specialist_isSome {id} (h:id ∈ r.specialists.map Subagent.id) :
  ∃ s,r.specialist id=some s ∧ s.id=id := by
 obtain ⟨s,hs,hid⟩:=mem_map.mp h
 cases hfind : r.specialist id with
 | none =>
  have hnone:=List.find?_eq_none.mp hfind s hs
  exact absurd (decide_eq_true hid) hnone
 | some s' =>
  have hid':=List.find?_some hfind
  exact ⟨s',rfl,of_decide_eq_true hid'⟩

def afterAttempt (r : RoutedSubagent) (parent : WorkflowInvocation) (input : RawMessage)
  (selected : ToolID) (ids : List ToolID) :
  Attempt × RouteState → DelegationProg (Except RoutedError RawMessage)
 | (.succeeded output, _) => .ret (.ok output)
 | (.skipped, st) => trySpecialists r parent input selected ids st
 | (.failed e, st) =>
  if routeFallbackable e then trySpecialists r parent input selected ids st
  else .ret (.error (.route .exhausted selected st.attempts (some e)))

lemma wp_trySpecialists (hinput:NamesTask input) (ids)
  (hknown:∀ id ∈ ids,id ∈ r.specialists.map Subagent.id) (st l)
  (h:Going selected st.attempts l) :
  wp delegationMonitor (trySpecialists r parent input selected ids st)
   (fun _ u=>Gone selected (st.attempts++remaining st.attempts ids) u) l := by
 induction ids generalizing st l with
 | nil =>
  rw [remaining,append_nil]
  exact h.finished
 | cons id ids ih =>
  obtain ⟨hid,hids⟩:=forall_mem_cons.mp hknown
  rw [trySpecialists,wp_bind,attemptSpecialist,remaining]
  split
  · exact ih hids st l h
  obtain ⟨s,hs,rfl⟩:=specialist_isSome hid
  rw [hs]
  apply wp_seq (wp_execute s parent hinput l h.toOpen)
  intro reply u hreply
  change wp delegationMonitor (afterAttempt r parent input selected ids _) _ u
  cases hreply with
  | ended e =>
   simp only [afterSpecialist,afterAttempt,DelegationError.toErr,routeFallbackable_context]
   exact h.ended e _
  | interrupted out e =>
   simp only [afterSpecialist,afterAttempt,DelegationError.toErr,routeFallbackable_context]
   have hstops:¬ (ChildStart.mk s.id out (some e)).GoesOn:=by
    rintro ⟨_,hcontext⟩
    cases hcontext
   rw [DelegationLog.looked,DelegationLog.started,modifyLast_concat]
   exact h.stopped _ hstops _
  | failed out e hout =>
   simp only [afterSpecialist,afterAttempt,hout]
   split
   · rename_i hon
     have hrest:=ih hids { st with
      attempts := st.attempts ++ [s.id]
      childRunIDs := appendSubagentRunID st.childRunIDs e
      lastErr := some e.toErr } _ (h.next s.id hon)
     rwa [append_assoc] at hrest
   · rename_i hon
     exact h.stopped (ChildStart.mk s.id out none) (fun hgoes=>hon hgoes.1) _
  | succeeded out value hout =>
   have hstops:¬ (ChildStart.mk s.id out none).GoesOn:=by
    rintro ⟨hon,_⟩
    exact Bool.false_ne_true (hout.symm.trans hon)
   have hgone:=h.stopped _ hstops (remaining (st.attempts ++ [s.id]) ids)
   rw [afterSpecialist]
   split
   · exact hgone
   rename_i e hencode
   simp only [afterAttempt,encodeRouteOutput_error hencode]
   exact hgone

end

lemma wp_routed_execute {r parent input} :
  wp delegationMonitor (r.execute parent input) (fun _ u =>
   u.starts=[] ∨ CutStarts (plan r u.selected) u.starts) {} := by
 rw [RoutedSubagent.execute]
 dsimp only
 rw [wp_delegationOp]
 intro ended
 cases ended with
 | some e => exact .inl rfl
 | none =>
  dsimp only
  cases hdecode : decodeSubagentInput input with
  | none => exact .inl rfl
  | some decoded =>
   obtain ⟨task,context⟩:=decoded
   dsimp only
   split
   · exact .inl rfl
   rename_i htask
   rw [wp_delegationOp]
   intro decision
   cases decision with
   | error e => exact .inl rfl
   | ok selected =>
    dsimp only
    split
    · exact .inl rfl
    rename_i hselected
    have hinput:NamesTask input:=⟨task,context,hdecode,htask⟩
    have hknown:∀ id ∈ selected :: r.fallback,id ∈ r.specialists.map Subagent.id:=
     forall_mem_cons.mpr ⟨not_not.mp hselected,r.known⟩
    have hgoing:Going selected [] ⟨some selected,[]⟩:=
     ⟨rfl,rfl,fun _ hc=>absurd hc not_mem_nil⟩
    apply wp_mono (wp_trySpecialists hinput _ hknown {} _ hgoing)
    intro _ u hgone
    rw [hgone.selected,plan_eq_remaining]
    exact hgone.cut

def StopsAtDecisions (starts : List ChildStart) : Prop :=
 ∀ (i : Nat) (c : ChildStart), starts[i]? = some c → Decided c.outcome → i + 1 = starts.length

/-- No specialist is started after a decided run, exactly when every decided run is one that is
not routed on, or the last of the plan. -/
theorem no_start_after_decision_iff (r : RoutedSubagent) (parent : WorkflowInvocation)
  (input : RawMessage) (es : List (Event DelegationSig)) (out : Except RoutedError RawMessage)
  (h : Trace (r.execute parent input) es (.ret out)) :
  StopsAtDecisions (delegationLog es).starts ↔
   ∀ (i : Nat) (c : ChildStart), (delegationLog es).starts[i]? = some c → Decided c.outcome →
    routesOn c.outcome = true → c.context = none →
     (plan r (delegationLog es).selected).length ≤ i + 1 := by
 refine forall₂_congr fun i c=>forall₂_congr fun hc _=>?_
 have hlt:i < (delegationLog es).starts.length := (List.getElem?_eq_some_iff.mp hc).1
 have hcut:CutStarts (plan r (delegationLog es).selected) (delegationLog es).starts := by
  apply (of_trace h wp_routed_execute).resolve_left
  intro hnil
  rw [hnil] at hlt
  exact Nat.not_lt_zero i hlt
 have hfollows:=hcut.follows_iff hc
 rw [ChildStart.GoesOn] at hfollows
 constructor
 · intro hlast hon hcontext
   by_contra hleft
   have := hfollows.mpr ⟨⟨hon,hcontext⟩,by omega⟩
   omega
 · intro hplan
   by_contra hnot
   obtain ⟨⟨hon,hcontext⟩,hleft⟩:=hfollows.mp (by omega)
   have := hplan hon hcontext
   omega

def pair : RoutedSubagent where
 id := "team"
 specialists := [{ id := "a" }, { id := "b" }]
 fallback := ["b"]
 distinct := by decide
 known := by decide
 once := by decide

def pairInput : RawMessage := .json (.obj [("task", .str "t")])

def childOf (id : ToolID) : ChildRun := Subagent.childRun { id := id } {} "t" ""

def pairStart (out : ChildOutcome) : List (Event DelegationSig) :=
 [⟨.ctxErr, none⟩, ⟨.route "t" pair.candidates, .ok "a"⟩, ⟨.ctxErr, none⟩,
   ⟨.runTarget "a" (childOf "a"), out⟩]

def pairFallback : List (Event DelegationSig) :=
 [⟨.ctxErr, none⟩, ⟨.runTarget "b" (childOf "b"), ⟨{ status := .succeeded }, none⟩⟩]

def cancelledRun : ChildOutcome :=
 ⟨{ status := .cancelled }, some (.sentinel "lebro: agent cancelled" .agentCancelled)⟩

def suspendedRun : ChildOutcome := ⟨{ status := .suspended }, none⟩

def deniedRun : ChildOutcome :=
 ⟨{ status := .failed }, some (.sentinel "lebro: tool approval denied" .toolApprovalDenied)⟩

lemma cancelled_trace : ∃ out,Trace (pair.execute {} pairInput)
  (pairStart cancelledRun ++ [⟨.ctxErr,none⟩]) (.ret out) :=
 ⟨_,.next (.next (.next (.next (.next (.refl _)))))⟩

theorem cancelled_run_ends_delegation :
  StopsAtDecisions (delegationLog (pairStart cancelledRun ++ [⟨.ctxErr, none⟩])).starts := by
 obtain ⟨out,h⟩:=cancelled_trace
 apply (no_start_after_decision_iff pair {} pairInput _ out h).mpr
 intro i c hc _ hon
 cases i with
 | zero =>
  cases hc
  cases hon
 | succ i => cases hc

/-- A specialist that waits for an approval is passed by, and so is one whose tool was denied. -/
theorem decided_runs_passed_by :
  (∃ out, Trace (pair.execute {} pairInput) (pairStart suspendedRun ++ pairFallback) (.ret out)) ∧
   (delegationLog (pairStart suspendedRun ++ pairFallback)).starts =
    [⟨"a", suspendedRun, none⟩, ⟨"b", ⟨{ status := .succeeded }, none⟩, none⟩] ∧
   Decided suspendedRun ∧
   (∃ out, Trace (pair.execute {} pairInput)
    (pairStart deniedRun ++ ⟨.ctxErr, none⟩ :: pairFallback) (.ret out)) ∧
   (delegationLog (pairStart deniedRun ++ ⟨.ctxErr, none⟩ :: pairFallback)).starts =
    [⟨"a", deniedRun, none⟩, ⟨"b", ⟨{ status := .succeeded }, none⟩, none⟩] ∧
   Decided deniedRun :=
 ⟨⟨_,.next (.next (.next (.next (.next (.next (.refl _))))))⟩,rfl,
  by simp [Decided,suspendedRun],
  ⟨_,.next (.next (.next (.next (.next (.next (.next (.refl _)))))))⟩,rfl,
  by simp [Decided,deniedRun,Err.is,Err.sentinel]⟩

end Lebro.DelegationRoutes
