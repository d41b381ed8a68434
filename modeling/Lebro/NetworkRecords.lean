import Lebro.NetworkRuns
import Lebro.EffectRuns

set_option autoImplicit false

namespace Lebro.NetworkRecords

open EffectProgram EffectRuns RuntimeTypes RuntimeRecords Subagents NetworkRuns List

variable {st:HopState} {status:RunStatus} {out:NetworkOutcome} {hop:Nat}

structure NetworkLog where
 events : List RunEvent := []
 request : RoutingRequest := {}
 taken : List NetworkRouteRecord := []
 saves : List (WorkflowRunRecord × SaveReply) := []

variable {l:NetworkLog}

def NetworkLog.record (l : NetworkLog) : (o : NetworkOp) → o.Reply → NetworkLog
 | .emit event, _ => { l with events := l.events ++ [event] }
 | .route request, _ => { l with request := request }
 | .runSpecialist id _, child => { l with
   taken := l.taken ++ [routeRecord (l.request.hops + 1) l.request.candidates id child] }
 | .saveWorkflowRun _ record, reply => { l with saves := l.saves ++ [(record, reply)] }
 | _, _ => l

def networkLog (es : List (Event NetworkSig)) : NetworkLog :=
 es.foldl (fun l e => l.record e.1 e.2) {}

def networkMonitor : Monitor NetworkSig NetworkLog :=
 Monitor.ghost (fun _ _ => True) fun l o r => l.record o r

lemma wp_networkOp {α:Type} (o) (k:o.Reply → NetworkProg α) (Q:α → NetworkLog → Prop) (l) :
  wp networkMonitor (networkOp o >>= k) Q l ↔ ∀ r,wp networkMonitor (k r) Q (l.record o r) := by
 constructor
 · intro h r
   exact h.2 r _ rfl
 · intro h
   refine ⟨trivial,?_⟩
   rintro r u rfl
   exact h r

def Terminal (e : RunEvent) : Prop := e.type = .succeeded ∨ e.type = .failed ∨ e.type = .cancelled

def EndsOnce (events : List RunEvent) (status : RunStatus) : Prop :=
 ∃ before last, events = before ++ [last] ∧ (∀ e ∈ before, ¬ Terminal e) ∧ Terminal last ∧
  last.status = status

def Recorded (l : NetworkLog) (out : NetworkOutcome) : Prop :=
 ∃ s ∈ l.saves, s.2.err = none ∧ s.1.id = out.result.id ∧ s.1.status = out.result.status ∧
  s.1.status.terminal = true ∧ s.1.stepOutputs = l.taken.map encodeRoute

structure Going (routes : List NetworkRouteRecord) (l : NetworkLog) : Prop where
 quiet : ∀ e ∈ l.events, ¬ Terminal e
 started : l.events ≠ []
 taken : l.taken = routes
 saves : l.saves = []

def Wrote (n : Network) (runID : RunID) (l : NetworkLog) (out : NetworkOutcome) : Prop :=
 if n.store then ∃ record reply, l.saves = [(record, reply)] ∧ record.id = runID ∧
   record.status.terminal = true ∧ record.stepOutputs = l.taken.map encodeRoute ∧
   (reply.err = none → record.status = out.result.status)
 else l.saves = []

structure Finished (n : Network) (runID : RunID) (out : NetworkOutcome) (l : NetworkLog) :
  Prop where
 id : out.result.id = runID
 events : EndsOnce l.events out.result.status
 wrote : Wrote n runID l out

section

variable {n:Network} {runID:RunID} {input:RunInput} {routes:List NetworkRouteRecord}

lemma wp_save {ctx result failure Q} (hnone:n.store=false → Q none l)
  (hsome:n.store=true → ∀ now reply,
   Q reply.err { l with saves := l.saves ++
   [(runRecord n runID input routes result failure now,reply)] }) :
  wp networkMonitor (save n runID input routes ctx result failure) Q l := by
 unfold save
 split
 · rename_i hstore
   rw [wp_networkOp]
   intro now
   rw [wp_networkOp]
   intro reply
   exact hsome hstore now reply
 · rename_i hstore
   exact hnone (Bool.eq_false_iff.mpr hstore)

lemma wp_terminal {type:RunEventType} {err Q}
  (h:∀ e : RunEvent,e.type=type → e.status=status → Q out { l with events := l.events ++ [e]
   }) : wp networkMonitor (terminal runID hop type status err >>= fun _=>.ret out) Q l := by
 rw [terminal,wp_networkOp]
 intro _
 exact h _ rfl rfl

lemma endsOnce_append {events last} (hquiet:∀ e ∈ events,¬ Terminal e) (hlast:Terminal last)
  (hstatus:last.status=status) : EndsOnce (events ++ [last]) status :=
 ⟨events,last,rfl,hquiet,hlast,hstatus⟩
lemma failureStatus_terminal {cause : Err} : (failureStatus cause).terminal=true := by
 unfold failureStatus
 split <;> rfl

lemma terminal_failureEvent {e} (h:e.type=failureEvent status) : Terminal e := by
 unfold failureEvent at h
 split at h
 · exact .inr (.inr h)
 · exact .inr (.inl h)

lemma wrote_nothing (hstore:n.store=false) (hl:Going routes l) {events} :
  Wrote n runID { l with events := events } out := by
 rw [Wrote,if_neg (by rw [hstore]; exact Bool.false_ne_true)]
 exact hl.saves

lemma wrote_record (hstore:n.store=true) (hl:Going routes l) {result failure now reply}
  {events} (hterminal:result.status.terminal=true)
  (hstatus:reply.err=none → result.status=out.result.status) :
  Wrote n runID { l with
   events := events
   saves := l.saves ++ [(runRecord n runID input routes result failure now,reply)] } out := by
 rw [Wrote,if_pos hstore,hl.saves,hl.taken]
 exact ⟨_,reply,rfl,rfl,hterminal,rfl,hstatus⟩

lemma wp_fail (hl:Going routes l) (hop:Nat) (kind) (cause:Err) :
  wp networkMonitor (fail n runID input routes hop kind cause) (Finished n runID) l := by
 unfold fail
 rw [wp_bind,networkPersistenceContext,wp_networkOp]
 intro ended
 rw [wp_ret,wp_bind]
 refine wp_save ?_ ?_
 · intro hstore
   refine wp_terminal fun e htype hstatus=>?_
   exact ⟨rfl,endsOnce_append hl.quiet (terminal_failureEvent htype) hstatus,
    wrote_nothing hstore hl⟩
 · intro hstore now reply
   refine wp_terminal fun e htype hstatus=>?_
   exact ⟨rfl,endsOnce_append hl.quiet (terminal_failureEvent htype) hstatus,
    wrote_record hstore hl (failureStatus_terminal) fun _=>rfl⟩

lemma wp_succeed (hl:Going routes l) {last} :
  wp networkMonitor (succeed n runID input routes last) (Finished n runID) l := by
 unfold succeed
 rw [wp_bind]
 refine wp_save ?_ ?_
 · intro hstore
   refine wp_terminal fun e htype hstatus=>?_
   exact ⟨rfl,endsOnce_append hl.quiet (.inl htype) hstatus,wrote_nothing hstore hl⟩
 · intro hstore now reply
   cases herr : reply.err with
   | none =>
    refine wp_terminal fun e htype hstatus=>?_
    exact ⟨rfl,endsOnce_append hl.quiet (.inl htype) hstatus,
     wrote_record hstore hl rfl fun _=>rfl⟩
   | some e =>
    refine wp_terminal fun e htype hstatus=>?_
    refine ⟨rfl,endsOnce_append hl.quiet (.inr (.inl htype)) hstatus,
     wrote_record hstore hl rfl ?_⟩
    intro hnone
    rw [herr] at hnone
    cases hnone

end

section

variable {n:Network} {runID:RunID} {input:RunInput} {task:String}

def Hopped (n : Network) (runID : RunID) : HopState ⊕ NetworkOutcome → NetworkLog → Prop
 | .inl st, l => Going st.routes l
 | .inr out, l => Finished n runID out l

lemma wp_hopEnded {p} (hp:wp networkMonitor p (Finished n runID) l) :
  wp networkMonitor (p >>= fun out=>.ret (.inr out)) (Hopped n runID) l :=
 wp_seq hp fun _ _ h=>h

lemma wp_runSelected (hl:Going st.routes l)
  (hcandidates:l.request.candidates=candidates n st.visited) (hhops:l.request.hops+1=hop)
  {selected} :
  wp networkMonitor (runSelected n runID input task hop st selected) (Hopped n runID) l := by
 rw [runSelected,wp_networkOp]
 intro child
 have hgoing:Going (st.routes ++ [routeRecord hop (candidates n st.visited) selected child])
   (l.record (.runSpecialist selected st.current) child) := by
  refine ⟨hl.quiet,hl.started,?_,hl.saves⟩
  rw [NetworkLog.record,hl.taken,hcandidates,hhops]
 split
 · exact hgoing
 · exact wp_hopEnded (wp_fail hgoing _ _ _)

lemma wp_followDecision (hl:Going st.routes l)
  (hcandidates:l.request.candidates=candidates n st.visited) (hhops:l.request.hops+1=hop)
  {decision} :
  wp networkMonitor (followDecision n runID input task hop st decision) (Hopped n runID) l := by
 unfold followDecision
 split
 · split
   · exact wp_hopEnded (wp_fail hl _ _ _)
   · exact wp_hopEnded (wp_succeed hl)
 · split
   · exact wp_hopEnded (wp_fail hl _ _ _)
   · split
     · exact wp_hopEnded (wp_fail hl _ _ _)
     · exact wp_runSelected hl hcandidates hhops

lemma wp_runHop (hl:Going st.routes l) (hpos:0 < hop) :
  wp networkMonitor (runHop n runID input task hop st) (Hopped n runID) l := by
 rw [runHop,wp_networkOp]
 intro ended
 cases ended with
 | some e => exact wp_hopEnded (wp_fail hl _ _ _)
 | none =>
  rw [wp_networkOp]
  intro decided
  cases decided with
  | error e =>
   refine wp_hopEnded (wp_fail ?_ _ _ _)
   exact ⟨hl.quiet,hl.started,hl.taken,hl.saves⟩
  | ok decision =>
   rw [wp_networkOp]
   intro _
   refine wp_followDecision ?_ rfl (Nat.sub_add_cancel hpos)
   refine ⟨?_,?_,hl.taken,hl.saves⟩
   · intro e he
     rcases mem_append.mp he with he | he
     · exact hl.quiet e he
     · rw [mem_singleton.mp he]
       rintro (h | h | h) <;> cases h
   · exact append_ne_nil_of_right_ne_nil _ (cons_ne_nil _ _)

lemma wp_runHops {left:Nat} (hl:Going st.routes l) (hpos:0 < hop) :
  wp networkMonitor (runHops n runID input task left hop st) (Finished n runID) l := by
 induction left generalizing hop st l with
 | zero => exact wp_fail hl _ _ _
 | succ left ih =>
  apply wp_seq (wp_runHop hl hpos)
  intro ran u hran
  cases ran with
  | inr out => exact hran
  | inl st => exact ih hran (Nat.succ_pos hop)

end

lemma wp_authorizeNetwork {n l} : wp networkMonitor (authorizeNetwork n) (fun _ u=>u=l) l := by
 unfold authorizeNetwork
 split
 · refine ⟨trivial,?_⟩
   rintro _ u rfl
   rfl
 · rfl

lemma wp_startNetwork {n runID input} :
  wp networkMonitor (startNetwork n runID input) (Finished n runID) {} := by
 rw [startNetwork,wp_networkOp]
 intro _
 have hgoing:Going []
   { events := [{ type := .started, runID := runID, step := 0, stepID := "" }] } := by
  refine ⟨?_,cons_ne_nil _ _,rfl,rfl⟩
  intro e he
  rw [mem_singleton.mp he]
  rintro (h | h | h) <;> cases h
 split
 · exact wp_fail hgoing _ _ _
 apply wp_seq wp_authorizeNetwork
 rintro denied _ rfl
 cases denied with
 | some e => exact wp_fail hgoing _ _ _
 | none => exact wp_runHops hgoing Nat.one_pos

def RunEnded (n : Network) (out : NetworkOutcome) (l : NetworkLog) : Prop :=
 l.events = [] ∨ Finished n out.result.id out l

lemma Finished.runEnded {n runID} (h:Finished n runID out l) : RunEnded n out l := by
 have hid:=h.id
 subst hid
 exact .inr h

lemma wp_checkSuppliedID {n runID} :
  wp networkMonitor (checkSuppliedID n runID) (fun _ u=>u = {}) {} := by
 rw [checkSuppliedID,wp_networkOp]
 intro ended
 cases ended with
 | some e => rfl
 | none =>
  dsimp only
  split
  · rw [wp_networkOp]
    intro found
    cases found with
    | ok record => rfl
    | error e =>
     dsimp only
     split
     · rfl
     rw [wp_networkOp]
     intro ended
     cases ended <;> rfl
  · rfl

lemma wp_runSupplied {n input} : wp networkMonitor (runSupplied n input) (RunEnded n) {} := by
 rw [runSupplied,wp_networkOp]
 intro claimed
 split
 · apply wp_seq wp_checkSuppliedID
   rintro refused _ rfl
   cases refused with
   | some out =>
    rw [wp_networkOp]
    intro _
    exact .inl rfl
   | none =>
    apply wp_seq wp_startNetwork
    intro out u hout
    rw [wp_networkOp]
    intro _
    exact hout.runEnded
 · exact .inl rfl

lemma wp_network_run {n input} : wp networkMonitor (n.run input) (RunEnded n) {} := by
 unfold Network.run
 split
 · exact .inl rfl
 split
 · rw [wp_networkOp]
   intro runID
   exact wp_mono wp_startNetwork fun _ _ h=>h.runEnded
 · exact wp_runSupplied

def solo : Network where
 id := "network"
 specialists := ["a"]
 maxHops := 2
 encodeInput := fun _ => .empty
 distinct := by decide

def question : RunInput := { messages := [{ role := .user, content := "question" }] }

def answerRun : ChildOutcome where
 result := {
  id := "child"
  status := .succeeded
  messages := [{ role := .assistant, content := "answer" }] }
 err := none

def firstCurrent : RunInput := (firstHop question).current

def soloRoutes : List NetworkRouteRecord := [routeRecord 1 (candidates solo []) "a" answerRun]

def soloResult : RunResult := { answerRun.result with id := "run-1", status := .succeeded }

def soloEvents (reply : SaveReply) (terminal : RunEvent) : List (Event NetworkSig) :=
 [⟨.newRunID, "run-1"⟩,
   ⟨.emit { type := .started, runID := "run-1", step := 0, stepID := "" }, ()⟩,
   ⟨.ctxErr, none⟩,
   ⟨.route ⟨"question", candidates solo [], 0, ""⟩, .ok ⟨"a", false⟩⟩,
   ⟨.emit (routeEvent "run-1" 1 "a"), ()⟩,
   ⟨.runSpecialist "a" firstCurrent, answerRun⟩,
   ⟨.ctxErr, none⟩,
   ⟨.route ⟨"question", candidates solo ["a"], 1, "answer"⟩, .ok ⟨"", true⟩⟩,
   ⟨.emit (routeEvent "run-1" 2 ""), ()⟩,
   ⟨.now, (0 : Time)⟩,
   ⟨.saveWorkflowRun .running (runRecord solo "run-1" question soloRoutes soloResult none 0),
    reply⟩,
   ⟨.emit terminal, ()⟩]

def stored : SaveReply := ⟨true, none, fun _ => rfl⟩

def succeededEvent : RunEvent :=
 { type := .succeeded, runID := "run-1", step := 1, stepID := "", status := .succeeded }

lemma solo_trace : Trace (solo.run question) (soloEvents stored succeededEvent)
  (.ret ⟨soloResult,none⟩) :=
 .next (.next (.next (.next (.next (.next (.next (.next (.next (.next (.next (.next
  (.refl _))))))))))))

def refused : SaveReply := ⟨false, some AgentEffects.errCanceled, nofun⟩

def refusedError : NetworkError := persistError soloRoutes 1 AgentEffects.errCanceled

def failedEvent : RunEvent :=
 { type := .failed, runID := "run-1", step := 1, stepID := "", status := .failed,
   err := some refusedError.toErr }

section

def visit : Option (List ToolID) → (o : NetworkOp) → o.Reply → Option (List ToolID)
 | s, .runSpecialist id _, child => if childSucceeds child then s.map (id :: ·) else none
 | s, _, _ => s

/-- The specialists that have run, newest first, until one of them fails. -/
def visitedBy (es : List (Event NetworkSig)) : Option (List ToolID) :=
 es.foldl (fun s e => visit s e.1 e.2) (some [])

def Routed (n : Network) (s : Option (List ToolID)) : NetworkOp → Prop
 | .route r => ∃ ran, s = some ran ∧ r.candidates = candidates n ran ∧ r.hops = ran.length
 | .runSpecialist id _ => ∃ ran, s = some ran ∧ id ∈ candidates n ran ∧ ran.length < n.maxHops
 | _ => True

def routing (n : Network) : Monitor NetworkSig (Option (List ToolID)) :=
 Monitor.ghost (Routed n) visit

def Quiet : NetworkSig.Op → Prop
 | .route _ | .runSpecialist _ _ => False
 | _ => True

variable {n:Network} {runID:RunID} {input:RunInput} {s:Option (List ToolID)}

lemma asks_save {routes ctx result failure} :
  Asks Quiet (save n runID input routes ctx result failure) :=
 asks_ite (asks_perform trivial fun _=>asks_perform trivial fun _=>asks_ret) asks_ret

lemma asks_fail {routes kind cause} : Asks Quiet (fail n runID input routes hop kind cause) :=
 asks_perform trivial fun _=>asks_bind asks_save fun _=>asks_perform trivial fun _=>asks_ret

lemma asks_succeed {routes last} : Asks Quiet (succeed n runID input routes last) := by
 refine asks_bind asks_save ?_
 rintro (_ | e) <;> exact asks_perform trivial fun _=>asks_ret

lemma asks_authorizeNetwork : Asks Quiet (authorizeNetwork n) :=
 asks_ite (asks_perform trivial fun _=>asks_ret) asks_ret

lemma asks_checkSuppliedID : Asks Quiet (checkSuppliedID n runID) := by
 refine asks_perform trivial ?_
 rintro (_ | e)
 · refine asks_ite (asks_perform trivial ?_) asks_ret
   rintro (e | record)
   · refine asks_ite asks_ret (asks_perform trivial ?_)
     rintro (_ | e) <;> exact asks_ret
   · exact asks_ret
 · exact asks_ret

lemma wp_quiet {α:Type} {p:NetworkProg α} (hp:Asks Quiet p) :
  wp (routing n) p (fun _ u=>u=s) s := by
 refine hp.wp (· = s) ?_ rfl
 rintro _ o ho rfl
 cases o with
 | route _ | runSpecialist _ _ => cases ho
 | _ => exact ⟨trivial,fun _ _ h=>h⟩

def Hops (hop : Nat) : HopState ⊕ NetworkOutcome → Option (List ToolID) → Prop
 | .inl st, s => s = some st.visited ∧ st.visited.length = hop
 | .inr _, _ => True

lemma wp_ended {p} (hp:Asks Quiet p) :
  wp (routing n) (p >>= fun out=>.ret (.inr out)) (Hops hop) s :=
 wp_seq (wp_quiet hp) fun _ _ _=>trivial

lemma wp_hop {task} (hhop:st.visited.length+1=hop) (hleft:hop ≤ n.maxHops) :
  wp (routing n) (runHop n runID input task hop st) (Hops hop) (some st.visited) := by
 refine ⟨trivial,?_⟩
 rintro (_ | e) _ rfl
 swap
 · exact wp_ended asks_fail
 refine ⟨⟨_,rfl,rfl,(Nat.eq_sub_of_add_eq hhop).symm⟩,?_⟩
 rintro (e | decision) _ rfl
 · exact wp_ended asks_fail
 refine ⟨trivial,?_⟩
 rintro _ _ rfl
 unfold followDecision
 split
 · split
   · exact wp_ended asks_fail
   · exact wp_ended asks_succeed
 split
 · exact wp_ended asks_fail
 rename_i hconfigured
 split
 · exact wp_ended asks_fail
 rename_i hnew
 refine ⟨⟨_,rfl,?_,by omega⟩,?_⟩
 · simpa [candidates,hnew] using hconfigured
 rintro child _ rfl
 change wp _ (if childSucceeds child then _ else _) _ _
 by_cases hsucceeds : childSucceeds child
 · rw [if_pos hsucceeds]
   exact ⟨if_pos hsucceeds,hhop⟩
 · rw [if_neg hsucceeds]
   exact wp_ended asks_fail

lemma wp_hops (st:HopState) {task left} (hhop:st.visited.length+1=hop)
  (hleft:left+hop=n.maxHops+1) : wp (routing n) (runHops n runID input task left hop st)
   (fun _ _=>True) (some st.visited) := by
 induction left generalizing hop st with
 | zero => exact wp_mono (wp_quiet asks_fail) fun _ _ _=>trivial
 | succ left ih =>
  apply wp_seq (wp_hop hhop (by omega))
  rintro (st | out) u hran
  · obtain ⟨rfl,hlength⟩:=hran
    exact ih _ (congrArg Nat.succ hlength) (by omega)
  · trivial

lemma wp_start : wp (routing n) (startNetwork n runID input) (fun _ _=>True) (some []) := by
 unfold startNetwork
 refine (wp_perform _ _ _ _).mpr ⟨trivial,?_⟩
 rintro _ _ rfl
 split
 · exact wp_mono (wp_quiet asks_fail) fun _ _ _=>trivial
 apply wp_seq (wp_quiet asks_authorizeNetwork)
 rintro (_ | e) _ rfl
 · exact wp_hops (firstHop input) rfl rfl
 · exact wp_mono (wp_quiet asks_fail) fun _ _ _=>trivial

lemma wp_routed : wp (routing n) (n.run input) (fun _ _=>True) (some []) := by
 unfold Network.run
 split
 · trivial
 split
 · refine ⟨trivial,?_⟩
   rintro _ _ rfl
   exact wp_start
 refine ⟨trivial,?_⟩
 rintro (_ | _) _ rfl
 · trivial
 apply wp_seq (wp_quiet asks_checkSuppliedID)
 rintro (_ | out) _ rfl
 · exact wp_seq wp_start fun _ _ _=>⟨trivial,fun _ _ _=>trivial⟩
 · exact ⟨trivial,fun _ _ _=>trivial⟩

end

structure Visited (n : Network) (ran : List ToolID) : Prop where
 distinct : ran.Nodup
 configured : ran ⊆ n.specialists
 bounded : ran.length ≤ n.maxHops

/-- At every point of a run the specialists that have run are configured, distinct and within the
hop limit, the router is offered the others, and nothing is asked of either after a failure. -/
theorem network_hops_bounded (n : Network) (input : RunInput) (es : List (Event NetworkSig))
  (q : NetworkProg NetworkOutcome) (h : Trace (n.run input) es q) :
  (∀ ran ∈ visitedBy es, Visited n ran) ∧
   ∀ before e after, es = before ++ e :: after → Routed n (visitedBy before) e.1 := by
 refine ⟨?_,fun before e after hes=>h.demand_at wp_routed hes⟩
 refine h.keeps (Monitor.ghost_follows _ _ _ es) wp_routed (fun s=>∀ ran ∈ s, Visited n ran) ?_ ?_
 · rintro _ ⟨⟩
   exact ⟨nodup_nil,nil_subset _,Nat.zero_le _⟩
 rintro s o r _ hs hdemand rfl ran hran
 cases o with
 | runSpecialist id input =>
  obtain ⟨old,rfl,hid,hlength⟩:=hdemand
  obtain ⟨hdistinct,hconfigured,-⟩:=hs old rfl
  obtain ⟨hmem,hnew⟩:=mem_filter.mp hid
  change ran ∈ if childSucceeds r then some (id :: old) else none at hran
  split at hran
  · cases hran
    exact ⟨nodup_cons.mpr ⟨of_decide_eq_true hnew,hdistinct⟩,
     cons_subset.mpr ⟨mem_mergeSort.mp hmem,hconfigured⟩,hlength⟩
  · cases hran
 | _ => exact hs ran hran

theorem solo_hops_bounded : visitedBy (soloEvents stored succeededEvent) = some ["a"] ∧
  ["a"] ⊆ solo.specialists :=
 ⟨rfl,((network_hops_bounded solo question _ _ solo_trace).1 _ rfl).configured⟩

end Lebro.NetworkRecords
