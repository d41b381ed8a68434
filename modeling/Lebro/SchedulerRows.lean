import Lebro.EffectRuns
import Lebro.SchedulerTicks

set_option autoImplicit false

namespace Lebro.SchedulerRows

open EffectProgram EffectRuns RuntimeTypes RuntimeRecords RuntimeEffects MemoryStore StoreRecords
open StoreTables WorkflowSteps WorkflowExecution SchedulerTicks

variable {s t:StoreState} {missed:List ScheduleExecutionRecord} {a a' b:SchedulerState}
 {exec:ScheduleExecutionRecord} {α:Type} {compiled:Except Err CronSchedule} {id:ScheduleID}

def OwnHistory (id : ScheduleID) : HistoryOp → Prop
 | .saveScheduleExecution v => v.scheduleID = id
 | .saveSchedule v => v.id = id

def OwnOp (id : ScheduleID) : SchedulerOp → Prop
 | .runtime _ => True
 | .listSchedules _ _ => False
 | .claimInflight id' | .markInflight id' | .clearInflight id' => id' = id
 | .transaction body => Asks (OwnHistory id) body

lemma asks_saveExecutions {vs} (h:∀ v ∈ vs,v.scheduleID=id) :
  Asks (OwnHistory id) (saveExecutions vs) := by
 induction vs with
 | nil => exact asks_ret
 | cons v vs ih =>
  obtain ⟨hv,hvs⟩:=List.forall_mem_cons.mp h
  apply asks_perform hv
  intro saved
  cases saved with
  | error e => exact asks_ret
  | ok u => exact ih hvs

lemma asks_saveFire {schedule} (hid:schedule.id=id) (hexec:exec.scheduleID=id)
  (hmissed:∀ v ∈ missed,v.scheduleID=id) :
  Asks (OwnHistory id) (saveFire schedule exec missed) := by
 refine asks_bind (asks_saveExecutions ?_) ?_
 · exact List.forall_mem_append.mpr ⟨hmissed,List.forall_mem_singleton.mpr hexec⟩
 · intro saved
   cases saved with
   | error e => exact asks_ret
   | ok u => exact asks_perform hid fun _=>asks_ret

lemma asks_persist {schedule} (hid:schedule.id=id) (hexec:exec.scheduleID=id)
  (hmissed:∀ v ∈ missed,v.scheduleID=id) : Asks (OwnOp id) (persist schedule exec missed) := by
 have hscoped:∀ v ∈ missed.map fun m=>{ m with scope:=schedule.scope },
   v.scheduleID=id := by
  intro v hv
  obtain ⟨m,hm,rfl⟩:=List.mem_map.mp hv
  exact hmissed m hm
 refine asks_perform (asks_saveFire hid hexec hscoped) ?_
 intro saved
 cases saved with
 | error e | ok u => exact asks_ret

lemma asks_liftRuntime {id} {p:RuntimeProg α} : Asks (OwnOp id) (liftRuntime p) := by
 induction p with
 | ret a => exact asks_ret
 | ask o k ih => exact asks_ask trivial ih

lemma collectMissed_scheduleID {s now compiled latest} (h:∀ v ∈ missed,v.scheduleID=id) :
  ∀ v ∈ (collectMissed s id now compiled latest missed).2,v.scheduleID=id := by
 fun_induction collectMissed s id now compiled latest missed with
 | case1 => exact h
 | case2 latest missed next hnext hdue ih =>
  apply ih
  split
  · exact List.forall_mem_append.mpr ⟨h,List.forall_mem_singleton.mpr rfl⟩
  · exact h
 | case3 => exact h

lemma dueOccurrence_scheduleID (s now schedule compiled) :
  ∀ v ∈ (dueOccurrence s now schedule compiled).2,v.scheduleID=schedule.id := by
 cases compiled with
 | error e => exact fun v hv=>by cases hv
 | ok compiled => exact collectMissed_scheduleID fun v hv=>by cases hv

lemma asks_runMarked {schedule w claimed} :
  Asks (OwnOp schedule.id) (runMarked schedule w claimed) := by
 cases claimed with
 | true => exact asks_liftRuntime
 | false =>
  refine asks_perform rfl ?_
  intro _
  refine asks_bind asks_liftRuntime ?_
  intro out
  exact asks_perform rfl fun _=>asks_ret

section

variable (s:Scheduler) (now:Time) (schedule:ScheduleRecord)

lemma asks_advance (hexec:exec.scheduleID=schedule.id)
  (hmissed:∀ v ∈ missed,v.scheduleID=schedule.id) {count} :
  Asks (OwnOp schedule.id)
   (advance schedule compiled now exec missed >>= fun out=>.ret (counted count out)) :=
 asks_bind (asks_persist rfl hexec hmissed) fun _=>asks_ret

lemma asks_fireOccurrence {scheduledFor} {claimed}
  (hmissed:∀ v ∈ missed,v.scheduleID=schedule.id) :
  Asks (OwnOp schedule.id)
   (fireOccurrence s now schedule compiled scheduledFor missed claimed) := by
 cases compiled with
 | error e =>
  refine asks_bind (asks_persist rfl rfl ?_) fun _=>asks_ret
  exact fun v hv=>by cases hv
 | ok compiled =>
  unfold fireOccurrence
  dsimp only
  split
  · exact asks_advance now schedule rfl hmissed
  apply asks_bind asks_runMarked
  intro ran
  apply asks_perform trivial
  intro finished
  exact asks_advance now schedule rfl hmissed

lemma asks_fireClaimed {scheduledFor} (hmissed:∀ v ∈ missed,v.scheduleID=schedule.id) :
  Asks (OwnOp schedule.id) (fireClaimed s now schedule compiled scheduledFor missed) := by
 refine asks_perform rfl ?_
 intro claimed
 cases claimed with
 | false => exact asks_advance now schedule rfl hmissed
 | true =>
  refine asks_bind (asks_fireOccurrence s now schedule hmissed) ?_
  intro out
  exact asks_perform rfl fun _=>asks_ret

lemma asks_wakeupStatus {id runID out} : Asks (OwnOp id) (wakeupStatus runID out) := by
 unfold wakeupStatus
 split
 · split
   · exact asks_ret
   · split
     · exact asks_ret
     · refine asks_bind (asks_perform trivial fun _=>asks_ret) ?_
       intro terminal
       split
       · exact asks_ret
       · exact asks_ret
       · exact asks_ret
 · split
   · exact asks_ret
   · exact asks_ret

lemma asks_settleWakeup {status message} :
  Asks (OwnOp schedule.id) (settleWakeup now schedule status message) := by
 apply asks_perform trivial
 intro finished
 refine asks_bind (asks_persist rfl rfl ?_) fun _=>asks_ret
 exact fun v hv=>by cases hv

lemma asks_fireWakeup : Asks (OwnOp schedule.id) (fireWakeup s now schedule) := by
 unfold fireWakeup
 split
 · exact asks_settleWakeup now schedule
 apply asks_bind asks_liftRuntime
 intro out
 apply asks_bind asks_wakeupStatus
 intro status
 split
 · exact asks_ret
 · exact asks_settleWakeup now schedule

lemma asks_fireSchedule : Asks (OwnOp schedule.id) (fireSchedule s now schedule) := by
 unfold fireSchedule
 split
 · exact asks_fireWakeup s now schedule
 have hmissed:=dueOccurrence_scheduleID s now schedule (s.parseCronSpec schedule.spec)
 split
 · exact asks_fireClaimed s now schedule hmissed
 · exact asks_fireOccurrence s now schedule hmissed

end

section

variable (failing:ScheduleID → Bool) (ids:List ScheduleID)

structure Matches (s t : StoreState) : Prop where
 executions : ∀ id, failing id = false → t.executions id = s.executions id
 left : ∀ id ∈ ids, failing id = false → (s.schedules.lookup id).isSome = true
 right : ∀ id ∈ ids, failing id = false → (t.schedules.lookup id).isSome = true

structure Agrees (a b : SchedulerState) : Prop where
 inflight : ∀ id, failing id = false → b.inflight id = a.inflight id
 store : Matches failing ids a.store b.store

variable {failing} {ids}

lemma matches_saved {x y} (h:Matches failing ids s t)
  (hxy:(∃ e,x = .error e ∧ y = .error e) ∨ ∃ s' t',x = .ok s' ∧ y = .ok t' ∧
   Matches failing ids s' t') :
  (saved s x).1=(saved t y).1 ∧ Matches failing ids (saved s x).2 (saved t y).2 := by
 rcases hxy with ⟨e,rfl,rfl⟩ | ⟨s',t',rfl,rfl,h'⟩
 · exact ⟨rfl,h⟩
 · exact ⟨rfl,h'⟩

lemma matches_executions {v} (h:Matches failing ids s t) (hid:failing v.scheduleID=false) :
  Matches failing ids
   { s with executions := put s.executions v.scheduleID (s.executions v.scheduleID ++ [v]) }
   { t with executions := put t.executions v.scheduleID (t.executions v.scheduleID ++ [v]) } :=
  by
 refine { h with executions := ?_ }
 intro id' hid'
 dsimp only [put]
 rw [h.executions id' hid',h.executions v.scheduleID hid]

lemma isSome_insert {t:Table String ScheduleRecord} (v) {id} (h:(t.lookup id).isSome=true) :
  ((t.insert v.id v).lookup id).isSome=true := by
 by_cases heq : id=v.id
 · subst heq
   rw [AList.lookup_insert]
   rfl
 · rwa [AList.lookup_insert_ne heq]

lemma saveSchedule_checks {v} :
  (∃ e,∀ m,MemoryStore.saveSchedule m v = .error e) ∨
   ∀ m,∃ u,MemoryStore.saveSchedule m v = .ok u := by
 unfold MemoryStore.saveSchedule
 split
 · exact .inl ⟨_,fun _=>rfl⟩
 split
 · exact .inl ⟨_,fun _=>rfl⟩
 split
 · exact .inl ⟨_,fun _=>rfl⟩
 split
 · exact .inl ⟨_,fun _=>rfl⟩
 · exact .inr fun _=>⟨_,rfl⟩

lemma history_kept {o} (ho:OwnHistory id o) (hid:failing id=false) (hmem:id ∈ ids)
  (h:Matches failing ids s t) :
  (applyHistory o s).1=(applyHistory o t).1 ∧
   Matches failing ids (applyHistory o s).2 (applyHistory o t).2 := by
 cases o with
 | saveScheduleExecution v =>
  obtain rfl : v.scheduleID=id := ho
  apply matches_saved h
  have hleft:=Option.isNone_eq_false_iff.mpr (h.left _ hmem hid)
  have hright:=Option.isNone_eq_false_iff.mpr (h.right _ hmem hid)
  unfold saveScheduleExecution alive
  dsimp only
  rw [hleft,hright,h.executions _ hid]
  split
  · exact .inl ⟨_,rfl,rfl⟩
  rw [if_neg Bool.false_ne_true,if_neg Bool.false_ne_true]
  split
  · exact .inl ⟨_,rfl,rfl⟩
  refine .inr ⟨_,_,rfl,rfl,?_⟩
  have hkept:=matches_executions h hid
  rwa [h.executions _ hid] at hkept
 | saveSchedule v =>
  apply matches_saved h
  dsimp only [StoreTables.saveSchedule,alive]
  rcases saveSchedule_checks with ⟨e,herror⟩ | hok
  · rw [herror,herror]
    exact .inl ⟨e,rfl,rfl⟩
  · obtain ⟨m,hm⟩:=hok s.view
    obtain ⟨n,hn⟩:=hok t.view
    rw [hm,hn]
    refine .inr ⟨_,_,rfl,rfl,h.executions,?_,?_⟩
    · exact fun id hmem hid=>isSome_insert v (h.left id hmem hid)
    · exact fun id hmem hid=>isSome_insert v (h.right id hmem hid)

lemma history_dropped {o} (ho:OwnHistory id o) (hid:failing id=true)
  (h:Matches failing ids s t) : Matches failing ids (applyHistory o s).2 t := by
 cases o with
 | saveScheduleExecution v =>
  obtain rfl : v.scheduleID=id := ho
  dsimp only [applyHistory]
  cases hx : saveScheduleExecution {} s v with
  | error e => exact h
  | ok u =>
   have hx:=alive_eq_ok hx
   split at hx
   · cases hx
   split at hx
   · cases hx
   split at hx
   · cases hx
   cases hx
   refine { h with executions := ?_ }
   intro id' hid'
   have hne:id' ≠ v.scheduleID:=by
    rintro rfl
    rw [hid] at hid'
    cases hid'
   exact (h.executions id' hid').trans (if_neg hne).symm
 | saveSchedule v =>
  dsimp only [applyHistory]
  cases hx : StoreTables.saveSchedule {} s v with
  | error e => exact h
  | ok u =>
   obtain ⟨m,_,rfl⟩:=map_eq_ok (alive_eq_ok hx)
   refine { h with left := ?_ }
   exact fun id hmem hid=>isSome_insert v (h.left id hmem hid)

variable {body:Prog HistorySig α}

lemma body_kept (hbody:Asks (OwnHistory id) body) (hid:failing id=false) (hmem:id ∈ ids)
  (h:Matches failing ids s t) :
  (body.run applyHistory s).1=(body.run applyHistory t).1 ∧
   Matches failing ids (body.run applyHistory s).2 (body.run applyHistory t).2 := by
 induction body generalizing s t with
 | ret a => exact ⟨rfl,h⟩
 | ask o k ih =>
  obtain ⟨hreply,hafter⟩:=history_kept hbody.1 hid hmem h
  rw [Prog.run_ask,Prog.run_ask,← hreply]
  exact ih _ (hbody.2 _ () trivial) hafter

lemma body_dropped (hbody:Asks (OwnHistory id) body) (hid:failing id=true)
  (h:Matches failing ids s t) : Matches failing ids (body.run applyHistory s).2 t := by
 induction body generalizing s with
 | ret a => exact h
 | ask o k ih => exact ih _ (hbody.2 _ () trivial) (history_dropped hbody.1 hid h)

lemma agrees_inflight (h:Agrees failing ids a b) {id value} :
  Agrees failing ids { a with inflight := put a.inflight id value }
   { b with inflight := put b.inflight id value } := by
 refine { h with inflight := ?_ }
 intro id' hid'
 dsimp only [put]
 rw [h.inflight id' hid']

lemma agrees_inflight_left (h:Agrees failing ids a b) (hid:failing id=true) {value} :
  Agrees failing ids { a with inflight := put a.inflight id value } b := by
 refine { h with inflight := ?_ }
 intro id' hid'
 have hne:id' ≠ id:=by
  rintro rfl
  rw [hid] at hid'
  cases hid'
 exact (h.inflight id' hid').trans (if_neg hne).symm

lemma step_kept {o r} (ho:OwnOp id o) (hid:failing id=false) (hmem:id ∈ ids)
  (h:Agrees failing ids a b) (hstep:schedulerWorld.step a o r a') :
  ∃ b',schedulerWorld.step b o r b' ∧ Agrees failing ids a' b' := by
 cases o with
 | runtime o =>
  obtain ⟨hinflight,hexecutions,hstored⟩:=hstep
  refine ⟨b,⟨rfl,rfl,fun _ hs=>hs⟩,?_,?_⟩
  · rw [hinflight]
    exact h.inflight
  · refine { h.store with executions := ?_, left := ?_ }
    · rw [hexecutions]
      exact h.store.executions
    · exact fun id hmem hid=>hstored id (h.store.left id hmem hid)
 | listSchedules f q => exact ho.elim
 | claimInflight id' =>
  obtain rfl : id'=id := ho
  obtain ⟨rfl,rfl⟩:=hstep
  refine ⟨_,⟨?_,rfl⟩,agrees_inflight h⟩
  rw [h.inflight id' hid]
 | markInflight id' =>
  obtain rfl := hstep
  exact ⟨_,rfl,agrees_inflight h⟩
 | clearInflight id' =>
  obtain rfl := hstep
  exact ⟨_,rfl,agrees_inflight h⟩
 | transaction body =>
  cases r with
  | error e =>
   obtain rfl := hstep
   exact ⟨b,rfl,h⟩
  | ok u =>
   obtain ⟨hok,rfl⟩:=hstep
   obtain ⟨hreply,hafter⟩:=body_kept ho hid hmem h.store
   refine ⟨_,⟨?_,rfl⟩,h.inflight,hafter⟩
   rw [← hreply]
   exact hok

lemma step_dropped {o r} (ho:OwnOp id o) (hid:failing id=true) (h:Agrees failing ids a b)
  (hstep:schedulerWorld.step a o r a') : Agrees failing ids a' b := by
 cases o with
 | runtime o =>
  obtain ⟨hinflight,hexecutions,hstored⟩:=hstep
  refine ⟨?_,{ h.store with executions := ?_, left := ?_ }⟩
  · rw [hinflight]
    exact h.inflight
  · rw [hexecutions]
    exact h.store.executions
  · exact fun id hmem hid=>hstored id (h.store.left id hmem hid)
 | listSchedules f q => exact ho.elim
 | claimInflight id' =>
  obtain rfl : id'=id := ho
  obtain ⟨_,rfl⟩:=hstep
  exact agrees_inflight_left h hid
 | markInflight id' =>
  obtain rfl : id'=id := ho
  obtain rfl := hstep
  exact agrees_inflight_left h hid
 | clearInflight id' =>
  obtain rfl : id'=id := ho
  obtain rfl := hstep
  exact agrees_inflight_left h hid
 | transaction body =>
  cases r with
  | error e =>
   obtain rfl := hstep
   exact h
  | ok u =>
   obtain ⟨_,rfl⟩:=hstep
   exact ⟨h.inflight,body_dropped ho hid h.store⟩

variable {es:List (Event SchedulerSig)}

lemma events_kept (hes:∀ e ∈ es,OwnOp id e.1) (hid:failing id=false) (hmem:id ∈ ids)
  (h:Agrees failing ids a b) (hfollows:schedulerWorld.Follows a es a') :
  ∃ b',schedulerWorld.Follows b es b' ∧ Agrees failing ids a' b' := by
 induction hfollows generalizing b with
 | nil a => exact ⟨b,.nil b,h⟩
 | cons hstep _ ih =>
  obtain ⟨ho,hrest⟩:=List.forall_mem_cons.mp hes
  obtain ⟨v,hv,hagrees⟩:=step_kept ho hid hmem h hstep
  obtain ⟨b',hb',hend⟩:=ih hrest hagrees
  exact ⟨b',.cons hv hb',hend⟩

lemma events_dropped (hes:∀ e ∈ es,OwnOp id e.1) (hid:failing id=true)
  (h:Agrees failing ids a b) (hfollows:schedulerWorld.Follows a es a') :
  Agrees failing ids a' b := by
 induction hfollows with
 | nil a => exact h
 | cons hstep _ ih =>
  obtain ⟨ho,hrest⟩:=List.forall_mem_cons.mp hes
  exact ih hrest (step_dropped ho hid h hstep)

end

end Lebro.SchedulerRows
