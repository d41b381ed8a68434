import Lebro.SchedulerRows

set_option autoImplicit false

namespace Lebro.SchedulerIsolation

open EffectProgram RuntimeTypes RuntimeRecords RuntimeEffects StoreRecords StoreTables WorkflowSteps
open WorkflowExecution WorkflowRuns SchedulerTicks SchedulerRows List

variable {s:Scheduler} {es:List (Event SchedulerSig)} {o:SchedulerOp} {u:SchedulerState}
 {out:Except Err TickResult} {α:Type} {now:Time}

def failedPersist : (o : SchedulerOp) → o.Reply → Bool
 | .transaction _, .error _ => true
 | _, _ => false

def Persisted (es : List (Event SchedulerSig)) : Prop := ∀ e ∈ es, failedPersist e.1 e.2 = false

/-- The failure of a wake-up is recorded: the token is stale, or the run is stored as ended. The
events are those after the resumption. -/
def WakeSettled (runID : RunID) (out : RunOutcome) (after : List (Event SchedulerSig)) : Prop :=
 match out.error.map RunError.toErr with
 | none => out.result.status.terminal = true ∨ out.result.status = .suspended
 | some e =>
  e.is .canceled = false ∧ e.is .deadlineExceeded = false ∧
   (e.is .wakeupStale = true ∨ ∃ run : WorkflowRunRecord, ∃ rest,
    after = ⟨.runtime (.repo (.getWorkflowRun runID)), Except.ok run⟩ :: rest ∧
     run.status.terminal = true)

/-- The store accepts what the fire writes, and a wake-up that it resumes is settled. -/
def Recorded (s : Scheduler) (schedule : ScheduleRecord) (es : List (Event SchedulerSig)) : Prop :=
 Persisted es ∧
  (schedule.wakeRunID ≠ "" → ∀ w, s.resolveWorkflow schedule.workflowID = some w →
   ∃ out fs gs, es = fs ++ gs ∧
    Trace (liftRuntime (resumeWake w schedule.wakeRunID schedule.wakeToken)) fs (.ret out) ∧
    WakeSettled schedule.wakeRunID out gs)

def persisting : Monitor SchedulerSig Bool :=
 .ghost (fun _ _ => True) fun failed o r => failed || failedPersist o r

def Tells (out : Except Err TickResult) (failed : Bool) : Prop :=
 failed = false ↔ ∃ added, out = .ok added

lemma foldl_or_eq_false {es failed} :
  es.foldl (fun failed e=>failed || failedPersist e.1 e.2) failed=false ↔
   failed=false ∧ Persisted es := by
 induction es generalizing failed with
 | nil => simp [Persisted]
 | cons e es ih =>
  rw [foldl_cons,ih]
  simp only [Persisted,forall_mem_cons,Bool.or_eq_false_iff]
  exact and_assoc

variable {p:SchedulerProg (Except Err TickResult)}

lemma persisted_iff (h:Trace p es (.ret out)) (hp:wp persisting p Tells false) :
  Persisted es ↔ ∃ added,out = .ok added := by
 have hend:Tells out _:=h.wp (Monitor.ghost_follows _ _ false es) hp
 refine Iff.trans ?_ hend
 rw [foldl_or_eq_false]
 exact (and_iff_right rfl).symm

lemma tells_error {e} : Tells (.error e) true := ⟨nofun,nofun⟩
lemma tells_ok {added} : Tells (.ok added) false := ⟨fun _=>⟨added,rfl⟩,fun _=>rfl⟩

lemma tells_counted {count failed} (h:Tells out failed) : Tells (counted count out) failed := by
 apply h.trans
 cases out with
 | error e => exact ⟨nofun,nofun⟩
 | ok added => exact ⟨fun _=>⟨_,rfl⟩,fun _=>⟨_,rfl⟩⟩

lemma wp_quiet {f:o.Reply → SchedulerProg α} {Q failed} (ho:∀ r,failedPersist o r=false)
  (hf:∀ r,wp persisting (f r) Q failed) : wp persisting (schedulerOp o >>= f) Q failed := by
 refine ⟨trivial,?_⟩
 intro r u hu
 have hu:u=(failed || failedPersist o r):=hu
 rw [ho r,Bool.or_false] at hu
 rw [hu]
 exact hf r

lemma wp_persist (schedule exec missed) :
  wp persisting (persist schedule exec missed) Tells false := by
 refine ⟨trivial,?_⟩
 rintro r _ rfl
 cases r with
 | error e => exact tells_error
 | ok u => exact tells_ok

lemma wp_counted (count) (hp:wp persisting p Tells false) :
  wp persisting (p >>= fun out=>.ret (counted count out)) Tells false :=
 wp_seq hp fun _ _ h=>tells_counted h

lemma wp_liftRuntime (p:RuntimeProg α) (failed) :
  wp persisting (liftRuntime p) (fun _ u=>u=failed) failed := by
 induction p with
 | ret a => rfl
 | ask o k ih => exact wp_quiet (fun _=>rfl) ih

lemma wp_runMarked (schedule w) (claimed failed) :
  wp persisting (runMarked schedule w claimed) (fun _ u=>u=failed) failed := by
 cases claimed with
 | true => exact wp_liftRuntime _ failed
 | false =>
  apply wp_quiet (fun _=>rfl)
  intro _
  apply wp_seq (wp_liftRuntime _ failed)
  rintro out _ rfl
  exact wp_quiet (fun _=>rfl) fun _=>rfl

lemma wp_fireOccurrence (s now schedule compiled scheduledFor missed claimed) :
  wp persisting (fireOccurrence s now schedule compiled scheduledFor missed claimed) Tells
   false := by
 cases compiled with
 | error e => exact wp_counted _ (wp_persist _ _ _)
 | ok compiled =>
  unfold fireOccurrence
  dsimp only
  split
  · exact wp_counted _ (wp_persist _ _ _)
  · next w _ =>
     apply wp_seq (wp_runMarked schedule w claimed false)
     rintro ran _ rfl
     apply wp_quiet (fun _=>rfl)
     intro finished
     exact wp_counted _ (wp_persist _ _ _)

lemma wp_fireClaimed (s now schedule compiled scheduledFor missed) :
  wp persisting (fireClaimed s now schedule compiled scheduledFor missed) Tells false := by
 apply wp_quiet (fun _=>rfl)
 intro claimed
 cases claimed with
 | false => exact wp_counted _ (wp_persist _ _ _)
 | true =>
  apply wp_seq (wp_fireOccurrence s now schedule compiled scheduledFor missed true)
  intro out failed hout
  exact wp_quiet (fun _=>rfl) fun _=>hout

lemma wp_settleWakeup (now schedule status message) :
  wp persisting (settleWakeup now schedule status message) Tells false := by
 apply wp_quiet (fun _=>rfl)
 intro finished
 exact wp_counted _ (wp_persist _ _ _)

lemma trace_ret {a b} (h:Trace (Prog.ret a : SchedulerProg α) es (.ret b)) : es=[] ∧ a=b := by
 cases h
 exact ⟨rfl,rfl⟩

lemma wakeSettled_iff {runID out fs gs status}
  (h:Trace (wakeupStatus runID out) fs (.ret status)) :
  WakeSettled runID out (fs++gs) ↔ ∃ recorded,status = .ok recorded := by
 unfold wakeupStatus at h
 unfold WakeSettled
 split at h
 · next e he =>
    rw [he]
    split at h
    · next hctx =>
       obtain ⟨rfl,rfl⟩:=trace_ret h
       refine ⟨?_,nofun⟩
       rintro ⟨hcanceled,hdeadline,_⟩
       rw [hcanceled,hdeadline] at hctx
       simp at hctx
    · next hctx =>
       rw [not_or,Bool.not_eq_true,Bool.not_eq_true] at hctx
       split at h
       · next hstale =>
          obtain ⟨rfl,rfl⟩:=trace_ret h
          exact ⟨fun _=>⟨_,rfl⟩,fun _=>⟨hctx.1,hctx.2,.inl hstale⟩⟩
       · next hstale =>
          cases h with
          | @next _ _ found fs _ tail =>
           cases found with
           | error stateErr =>
            obtain ⟨rfl,rfl⟩:=trace_ret tail
            refine ⟨?_,nofun⟩
            rintro ⟨_,_,hold | ⟨run,rest,heq,_⟩⟩
            · exact (hstale hold).elim
            · cases heq
           | ok run =>
            dsimp only [Except.map,Prog.bind] at tail
            cases hended : run.status.terminal with
            | false =>
             rw [hended] at tail
             obtain ⟨rfl,rfl⟩:=trace_ret tail
             refine ⟨?_,nofun⟩
             rintro ⟨_,_,hold | ⟨run',rest,heq,hended'⟩⟩
             · exact (hstale hold).elim
             · cases heq
               rw [hended] at hended'
               cases hended'
            | true =>
             rw [hended] at tail
             obtain ⟨rfl,rfl⟩:=trace_ret tail
             refine ⟨fun _=>⟨_,rfl⟩,?_⟩
             intro _
             exact ⟨hctx.1,hctx.2,.inr ⟨run,gs,rfl,hended⟩⟩
 · next he =>
    rw [he]
    split at h
    · next hstatus =>
       obtain ⟨rfl,rfl⟩:=trace_ret h
       exact ⟨fun _=>⟨_,rfl⟩,fun _=>hstatus⟩
    · next hstatus =>
       obtain ⟨rfl,rfl⟩:=trace_ret h
       exact ⟨fun hold=>(hstatus hold).elim,nofun⟩

lemma wp_wakeupStatus (runID out failed) :
  wp persisting (wakeupStatus runID out) (fun _ u=>u=failed) failed := by
 unfold wakeupStatus
 split
 · split
   · rfl
   · split
     · rfl
     · apply wp_quiet (fun _=>rfl)
       intro found
       cases found with
       | error stateErr => rfl
       | ok run =>
        dsimp only [Except.map,Prog.bind]
        split
        · rfl
        · rfl
        · rfl
 · split
   · rfl
   · rfl

lemma persisted_of_wp {p:SchedulerProg α} {a} (h:Trace p es (.ret a))
  (hp:wp persisting p (fun _ u=>u=false) false) : Persisted es := by
 have hend:=h.wp (Monitor.ghost_follows _ _ false es) hp
 exact ((foldl_or_eq_false).mp hend).2

lemma persisted_append {fs} (hes:Persisted es) : Persisted (es++fs) ↔ Persisted fs := by
 unfold Persisted
 rw [forall_mem_append]
 exact and_iff_right hes

variable {schedule:ScheduleRecord}

lemma recorded_wakeup_iff (hwake:schedule.wakeRunID ≠ "")
  (h:Trace (fireWakeup s now schedule) es (.ret out)) :
  Recorded s schedule es ↔ ∃ added,out = .ok added := by
 unfold fireWakeup at h
 unfold Recorded
 cases hw : s.resolveWorkflow schedule.workflowID with
 | none =>
  rw [hw] at h
  rw [← persisted_iff h (wp_settleWakeup _ _ _ _)]
  exact and_iff_left fun _ _ hnone=>by cases hnone
 | some w =>
  rw [hw] at h
  obtain ⟨fs,gs,ran,rfl,hresume,h⟩:=h.of_bind
  obtain ⟨hs,ks,status,rfl,hstatus,h⟩:=h.of_bind
  have hsettled:WakeSettled _ _ (hs++ks) ↔ _:=wakeSettled_iff hstatus
  have hfs:=persisted_of_wp hresume (wp_liftRuntime _ false)
  have hhs:=persisted_of_wp hstatus (wp_wakeupStatus _ _ false)
  rw [persisted_append hfs,persisted_append hhs]
  cases status with
  | error e =>
   obtain ⟨rfl,rfl⟩:=trace_ret h
   refine ⟨?_,nofun⟩
   rintro ⟨_,hall⟩
   obtain ⟨ran',fs',gs',heq,hresume',hsettled'⟩:=hall hwake w rfl
   obtain ⟨rfl,rfl,rfl⟩:=hresume.unique_split hresume' heq
   obtain ⟨_,hnone⟩:=hsettled.mp hsettled'
   cases hnone
  | ok recorded =>
   rw [← persisted_iff h (wp_settleWakeup _ _ _ _)]
   apply and_iff_left
   rintro _ w' hw'
   cases hw'
   exact ⟨ran,fs,hs++ks,rfl,hresume,hsettled.mpr ⟨recorded,rfl⟩⟩

lemma recorded_iff (h:Trace (fireSchedule s now schedule) es (.ret out)) :
  Recorded s schedule es ↔ ∃ added,out = .ok added := by
 unfold fireSchedule at h
 split at h
 · next hwake => exact recorded_wakeup_iff hwake h
 · next hwake =>
    have hpersisted:Persisted es ↔ ∃ added,out = .ok added:=by
     dsimp only at h
     split at h
     · exact persisted_iff h (wp_fireClaimed _ _ _ _ _ _)
     · exact persisted_iff h (wp_fireOccurrence _ _ _ _ _ _ _)
    rw [← hpersisted]
    exact and_iff_left fun hne=>(hwake hne).elim

structure Firing where
 schedule : ScheduleRecord
 events : List (Event SchedulerSig)
 outcome : Except Err TickResult

variable {f:Firing} {fs:List Firing}

namespace Firing

def Valid (s : Scheduler) (now : Time) (f : Firing) : Prop :=
 Trace (fireSchedule s now f.schedule) f.events (.ret f.outcome)

def segment (f : Firing) : List (Event SchedulerSig) :=
 ⟨.runtime (.step .ctxErr), (none : Option Err)⟩ :: f.events

def added (f : Firing) : TickResult := f.outcome.toOption.getD {}

end Firing

def tally (result : TickResult) (fs : List Firing) : TickResult :=
 fs.foldl (fun r f => r.add f.added) result

lemma add_empty {r:TickResult} : r.add {} = r := by
 cases r
 simp [TickResult.add]

lemma trace_fireDue (hvalid:∀ f ∈ fs,f.Valid s now)
  (hok:∀ f ∈ fs,∃ added,f.outcome = .ok added) (rest result) :
  Trace (fireDue s now (fs.map Firing.schedule++rest) result) (fs.flatMap Firing.segment)
   (fireDue s now rest (tally result fs)) := by
 induction fs generalizing result with
 | nil => exact .refl _
 | cons f fs ih =>
  obtain ⟨hf,hfs⟩:=forall_mem_cons.mp hvalid
  obtain ⟨⟨added,hadded⟩,hoks⟩:=forall_mem_cons.mp hok
  have htail:=ih hfs hoks (result.add added)
  have hf:Trace (fireSchedule s now f.schedule) f.events (.ret (.ok added)):=by
   rw [← hadded]
   exact hf
  have htally:tally result (f :: fs)=tally (result.add added) fs:=by
   simp [tally,Firing.added,hadded,Except.toOption]
  rw [htally]
  exact .next ((hf.bind _).append htail)

lemma trace_fireDue_error {e} (hf:f.Valid s now) (he:f.outcome = .error e) (rest result) :
  Trace (fireDue s now (f.schedule :: rest) result) f.segment (.ret (result,some e)) := by
 have hf:Trace (fireSchedule s now f.schedule) f.events (.ret (.error e)):=by
  rw [← he]
  exact hf
 exact .next (hf.bind _)

def Ends (fs : List Firing) (rest : List ScheduleRecord) : Option Err → Prop
 | none => rest = [] ∧ ∀ f ∈ fs, ∃ added, f.outcome = .ok added
 | some e => ∃ before f, fs = before ++ [f] ∧ f.outcome = .error e ∧
   ∀ f ∈ before, ∃ added, f.outcome = .ok added

variable {rest:List ScheduleRecord}

lemma ends_cons {err} (hf:∃ added,f.outcome = .ok added) (h:Ends fs rest err) :
  Ends (f :: fs) rest err := by
 cases err with
 | none => exact ⟨h.1,forall_mem_cons.mpr ⟨hf,h.2⟩⟩
 | some e =>
  obtain ⟨before,g,rfl,hg,hbefore⟩:=h
  exact ⟨f :: before,g,rfl,hg,forall_mem_cons.mpr ⟨hf,hbefore⟩⟩

def Alive : Event SchedulerSig → Prop
 | ⟨.runtime (.step .ctxErr), err⟩ => err = (none : Option Err)
 | _ => True

lemma firings_of_trace {due result out} (h:Trace (fireDue s now due result) es (.ret out))
  (halive:∀ e ∈ es,Alive e) :
  ∃ fs rest,due=fs.map Firing.schedule++rest ∧ es=fs.flatMap Firing.segment ∧
   (∀ f ∈ fs,f.Valid s now) ∧ out.1=tally result fs ∧ Ends fs rest out.2 := by
 induction due generalizing result es with
 | nil =>
  obtain ⟨rfl,rfl⟩:=trace_ret h
  exact ⟨[],[],rfl,rfl,by simp,rfl,rfl,by simp⟩
 | cons schedule due ih =>
  cases h with
  | @next _ _ err es _ tail =>
   obtain ⟨herr,hrest⟩:=forall_mem_cons.mp halive
   obtain rfl : err=(none : Option Err) := herr
   obtain ⟨fs,gs,outcome,rfl,hfire,tail⟩ :=
    Trace.of_bind (p := fireSchedule s now schedule) tail
   have hvalid:Firing.Valid s now ⟨schedule,fs,outcome⟩:=hfire
   cases outcome with
   | error e =>
    obtain ⟨rfl,rfl⟩:=trace_ret tail
    refine ⟨[⟨schedule,fs,.error e⟩],due,rfl,by simp [Firing.segment],?_,?_,?_⟩
    · exact forall_mem_singleton.mpr hvalid
    · exact (add_empty).symm
    · exact ⟨[],_,rfl,rfl,by simp⟩
   | ok added =>
    obtain ⟨fs',rest,rfl,rfl,hfs',htally,hends⟩ :=
     ih tail fun e he=>hrest e (mem_append_right fs he)
    refine ⟨⟨schedule,fs,.ok added⟩ :: fs',rest,rfl,rfl,?_,htally,?_⟩
    · exact forall_mem_cons.mpr ⟨hvalid,hfs'⟩
    · exact ends_cons ⟨added,rfl⟩ hends

section

variable (failing:ScheduleID → Bool)

def otherSchedules (due : List ScheduleRecord) : List ScheduleRecord :=
 due.filter fun schedule => !failing schedule.id

def otherFirings (fs : List Firing) : List Firing := fs.filter fun f => !failing f.schedule.id

lemma otherSchedules_append (fs rest) :
  otherSchedules failing (fs.map Firing.schedule++rest) =
   (otherFirings failing fs).map Firing.schedule++otherSchedules failing rest := by
 unfold otherSchedules otherFirings
 rw [filter_append,filter_map]
 rfl

lemma forall_otherFirings {P:Firing → Prop} (h:∀ f ∈ fs,P f) :
  ∀ f ∈ otherFirings failing fs,P f :=
 fun f hf=>h f (mem_filter.mp hf).1

lemma others_iff {err} (hvalid:∀ f ∈ fs,f.Valid s now) (hends:Ends fs rest err) :
  (∃ err',Trace (fireDue s now (otherSchedules failing (fs.map Firing.schedule++rest)) {})
    ((otherFirings failing fs).flatMap Firing.segment)
    (.ret (tally {} (otherFirings failing fs),err'))) ↔
   (∀ f ∈ fs,failing f.schedule.id=true → Recorded s f.schedule f.events) ∨
    otherSchedules failing rest=[] := by
 rw [otherSchedules_append]
 cases err with
 | none =>
  obtain ⟨rfl,hok⟩:=hends
  have hothers:=trace_fireDue (forall_otherFirings failing hvalid)
   (forall_otherFirings failing hok) [] {}
  exact ⟨fun _=>.inr rfl,fun _=>⟨none,hothers⟩⟩
 | some e =>
  obtain ⟨before,f,rfl,he,hok⟩:=hends
  obtain ⟨hbefore,hf⟩:=forall_mem_append.mp hvalid
  have hf:=forall_mem_singleton.mp hf
  have hrecorded:∀ g ∈ before,failing g.schedule.id=true → Recorded s g.schedule g.events:=
   fun g hg _=>(recorded_iff (hbefore g hg)).mpr (hok g hg)
  have hothers:=trace_fireDue (forall_otherFirings failing hbefore)
   (forall_otherFirings failing hok)
  cases hfailing : failing f.schedule.id with
  | false =>
   have hkept:otherFirings failing (before ++ [f])=otherFirings failing before ++ [f]:=by
    simp [otherFirings,hfailing]
   have htally:tally {} (otherFirings failing before ++ [f]) =
     tally {} (otherFirings failing before) := by
    simp [tally,Firing.added,he,Except.toOption,add_empty]
   refine ⟨fun _=>.inl ?_,fun _=>⟨some e,?_⟩⟩
   · refine forall_mem_append.mpr ⟨hrecorded,?_⟩
     refine forall_mem_singleton.mpr ?_
     intro htrue
     rw [hfailing] at htrue
     cases htrue
   · rw [hkept,htally,map_append,flatMap_append,append_assoc]
     have hlast:=trace_fireDue_error hf he (otherSchedules failing rest)
      (tally {} (otherFirings failing before))
     have hall:=(hothers (f.schedule :: otherSchedules failing rest) {}).append hlast
     simpa using hall
  | true =>
   have hkept:otherFirings failing (before ++ [f])=otherFirings failing before:=by
    simp [otherFirings,hfailing]
   have hnot:¬ ∀ g ∈ before ++ [f],failing g.schedule.id=true →
     Recorded s g.schedule g.events := by
    intro hall
    have hrec:=hall f (mem_append_right before mem_cons_self) hfailing
    obtain ⟨added,hadded⟩:=(recorded_iff hf).mp hrec
    rw [he] at hadded
    cases hadded
   rw [hkept,or_iff_right hnot]
   have hothers:=hothers (otherSchedules failing rest) {}
   cases hrest : otherSchedules failing rest with
   | nil =>
    rw [hrest] at hothers
    exact ⟨fun _=>rfl,fun _=>⟨none,hothers⟩⟩
   | cons schedule rest' =>
    rw [hrest] at hothers
    refine ⟨?_,nofun⟩
    rintro ⟨err',h⟩
    cases hothers.unique h

variable {failing}

lemma own_segment (hf:f.Valid s now) : ∀ e ∈ f.segment,OwnOp f.schedule.id e.1 :=
 forall_mem_cons.mpr ⟨trivial,(asks_fireSchedule s now f.schedule).of_trace hf⟩

lemma others_possible {ids a b} (hvalid:∀ f ∈ fs,f.Valid s now)
  (hids:∀ f ∈ fs,f.schedule.id ∈ ids) (hagrees:Agrees failing ids a b)
  (h:schedulerWorld.Follows a (fs.flatMap Firing.segment) u) :
  ∃ v,schedulerWorld.Follows b ((otherFirings failing fs).flatMap Firing.segment) v ∧
   Agrees failing ids u v := by
 induction fs generalizing a b with
 | nil =>
  cases h
  exact ⟨b,.nil b,hagrees⟩
 | cons f fs ih =>
  obtain ⟨hf,hvalid⟩:=forall_mem_cons.mp hvalid
  obtain ⟨hmem,hids⟩:=forall_mem_cons.mp hids
  obtain ⟨c,hc,htail⟩:=Monitor.Follows.split h
  cases hfailing : failing f.schedule.id with
  | true =>
   have hdropped:otherFirings failing (f :: fs)=otherFirings failing fs:=by
    simp [otherFirings,hfailing]
   rw [hdropped]
   exact ih hvalid hids (events_dropped (own_segment hf) hfailing hagrees hc) htail
  | false =>
   have hkept:otherFirings failing (f :: fs)=f :: otherFirings failing fs:=by
    simp [otherFirings,hfailing]
   rw [hkept]
   obtain ⟨d,hd,hagrees⟩:=events_kept (own_segment hf) hfailing hmem hagrees hc
   obtain ⟨v,hv,hend⟩:=ih hvalid hids hagrees htail
   exact ⟨v,hd.append hv,hend⟩

end

/-- A tick without its failing fires produces the events of the others, with the same results,
exactly when the failures are recorded or nothing was due after the one that is not. -/
theorem tick_processes_others (s : Scheduler) (now : Time) {due : List ScheduleRecord}
  {es : List (Event SchedulerSig)} {out : TickResult × Option Err}
  (h : Trace (fireDue s now due {}) es (.ret out)) (halive : ∀ e ∈ es, Alive e) :
  ∃ fs rest, due = fs.map Firing.schedule ++ rest ∧ es = fs.flatMap Firing.segment ∧
   (∀ f ∈ fs, f.Valid s now) ∧ out.1 = tally {} fs ∧
   ∀ failing : ScheduleID → Bool,
    ((∃ err, Trace (fireDue s now (otherSchedules failing due) {})
      ((otherFirings failing fs).flatMap Firing.segment)
      (.ret (tally {} (otherFirings failing fs), err))) ↔
     (∀ f ∈ fs, failing f.schedule.id = true → Recorded s f.schedule f.events) ∨
      otherSchedules failing rest = []) ∧
    ∀ a u, (∀ schedule ∈ due, (a.store.schedules.lookup schedule.id).isSome = true) →
     schedulerWorld.Follows a es u →
     ∃ v, schedulerWorld.Follows a ((otherFirings failing fs).flatMap Firing.segment) v ∧
      ∀ id, failing id = false → v.inflight id = u.inflight id ∧
       v.store.executions id = u.store.executions id := by
 obtain ⟨fs,rest,rfl,rfl,hvalid,htally,hends⟩:=firings_of_trace h halive
 refine ⟨fs,rest,rfl,rfl,hvalid,htally,?_⟩
 intro failing
 refine ⟨others_iff failing hvalid hends,?_⟩
 intro a u hstored hfollows
 have hids:∀ f ∈ fs, f.schedule.id ∈ fs.map fun f=>f.schedule.id :=
  fun f hf=>mem_map_of_mem hf
 have hstored:∀ id ∈ fs.map (fun f=>f.schedule.id),
   (a.store.schedules.lookup id).isSome = true := by
  intro id hid
  obtain ⟨f,hf,rfl⟩:=mem_map.mp hid
  exact hstored _ (mem_append_left rest (mem_map_of_mem hf))
 have hagrees:Agrees failing (fs.map fun f=>f.schedule.id) a a :=
  ⟨fun _ _=>rfl,fun _ _=>rfl,fun id hid _=>hstored id hid,fun id hid _=>hstored id hid⟩
 obtain ⟨v,hv,hend⟩:=others_possible hvalid hids hagrees hfollows
 exact ⟨v,hv,fun id hid=>⟨hend.inflight id hid,hend.store.executions id hid⟩⟩

def wakeup (id : ScheduleID) : ScheduleRecord where
 id := id
 workflowID := "report"
 scope := {}
 spec := "@once"
 nextFireAt := some 5
 wakeRunID := "run-" ++ id
 wakeToken := "run-" ++ id ++ "-wake-1"
 createdAt := 1
 updatedAt := 1

def idleScheduler : Scheduler where
 resolveWorkflow _ := none
 parseCronSpec _ := .ok ⟨fun _ => none, nofun⟩
 maxCatchUp := 100
 pages := 1

def twoDue : SchedulerState where
 inflight _ := false
 store := { StoreState.empty with
  schedules := (AList.insert "b" (wakeup "b") ∅ : Table String ScheduleRecord).insert "a"
   (wakeup "a") }

def answerTick (conflict : ScheduleID) :
  (o : SchedulerOp) → SchedulerState → Option (o.Reply × SchedulerState)
 | .runtime (.step .ctxErr), s => some ((none : Option Err), s)
 | .runtime .now, s => some ((11 : Time), s)
 | .listSchedules f q, s => some (listSchedules {} s.store f q, s)
 | .transaction body, s =>
  match body.run applyHistory s.store with
  | (.ok (), store) =>
   if (store.executions conflict).isEmpty then some (.ok (), { s with store })
   else some (.error MemoryStore.errConflict, s)
  | (.error e, _) => some (.error e, s)
 | _, _ => none

lemma answerTick_step {conflict s r} (h:answerTick conflict o s=some (r,u)) :
  schedulerWorld.step s o r u := by
 unfold answerTick at h
 split at h
 · cases h
   exact ⟨rfl,rfl,fun _ hs=>hs⟩
 · cases h
   exact ⟨rfl,rfl,fun _ hs=>hs⟩
 · cases h
   rfl
 · next body s =>
    split at h
    · next store hbody =>
       split at h
       · cases h
         have hreply:=congrArg Prod.fst hbody
         have hstore:=congrArg Prod.snd hbody
         exact ⟨hreply,by rw [hstore]⟩
       · cases h
         rfl
    · cases h
      rfl
 · cases h

lemma answerTick_alive {conflict s r} (h:answerTick conflict o s=some (r,u)) :
  Alive ⟨o,r⟩ := by
 unfold answerTick at h
 split at h
 · cases h
   rfl
 · trivial
 · trivial
 · trivial
 · cases h

/-- A conflict in the history of the second wake-up leaves the first as it is without the second. -/
theorem later_conflict_isolated : ∃ es out fs err,
  Trace (fireDue idleScheduler 10 [wakeup "a", wakeup "b"] {}) es (.ret out) ∧
  (∀ e ∈ es, Alive e) ∧ out.1.fired = 1 ∧ es = fs.flatMap Firing.segment ∧
  Trace (fireDue idleScheduler 10 [wakeup "a"] {})
   ((otherFirings (· == "b") fs).flatMap Firing.segment)
   (.ret (tally {} (otherFirings (· == "b") fs), err)) := by
 have hanswer:∃ out u, (fireDue idleScheduler 10 [wakeup "a",wakeup "b"] {}).answer
   (answerTick "b") twoDue = some (out,u) ∧ out.1.fired = 1 := ⟨_,_,rfl,rfl⟩
 obtain ⟨out,u,hanswer,hfired⟩:=hanswer
 let answering : Monitor SchedulerSig SchedulerState :=
  ⟨fun _ _=>True,fun s o r u=>answerTick "b" o s = some (r,u)⟩
 obtain ⟨htrace,hfollows⟩:=Monitor.follows_answered (M := answering)
  (fun _ _ _ _ h=>h) hanswer
 have halive:=hfollows.forall_mem (P := fun o r=>Alive ⟨o,r⟩)
  fun _ _ _ _ h=>answerTick_alive h
 obtain ⟨fs,rest,hdue,hes,-,htally,hothers⟩ :=
  tick_processes_others idleScheduler 10 htrace halive
 have hrest:otherSchedules (· == "b") rest = [] := by
  cases fs with
  | nil =>
   rw [htally] at hfired
   cases hfired
  | cons f fs =>
   rw [map_cons,cons_append] at hdue
   have hlast:∀ v ∈ rest, v ∈ [wakeup "b"] := fun v hv =>
    (List.cons.inj hdue).2 ▸ mem_append_right _ hv
   refine filter_eq_nil_iff.mpr fun v hv=>?_
   rw [mem_singleton.mp (hlast v hv)]
   decide
 obtain ⟨err,halone⟩:=(hothers (· == "b")).1.mpr (.inr hrest)
 exact ⟨_,out,fs,err,htrace,halive,hfired,hes,halone⟩

/-- A conflict in the history of the first wake-up keeps the second one from firing. -/
theorem conflict_stops_tick : ∃ es u out es' u' out',
  Trace (tick idleScheduler 10) es (.ret out) ∧ schedulerWorld.Follows twoDue es u ∧
  u.store.executions "b" = [] ∧
  Trace (fireDue idleScheduler 10 [wakeup "b"] {}) es' (.ret out') ∧
  schedulerWorld.Follows twoDue es' u' ∧ (u'.store.executions "b").length = 1 := by
 have hboth:∃ out u, (tick idleScheduler 10).answer (answerTick "a") twoDue = some (out,u) ∧
   u.store.executions "b" = [] := ⟨_,_,rfl,rfl⟩
 have hone:∃ out u, (fireDue idleScheduler 10 [wakeup "b"] {}).answer (answerTick "a") twoDue =
   some (out,u) ∧ (u.store.executions "b").length = 1 := ⟨_,_,rfl,rfl⟩
 obtain ⟨out,u,hanswer,hnone⟩:=hboth
 obtain ⟨out',u',hanswer',hfired⟩:=hone
 obtain ⟨htrace,hfollows⟩:=Monitor.follows_answered (M := schedulerWorld)
  (fun _ _ _ _ h=>answerTick_step h) hanswer
 obtain ⟨htrace',hfollows'⟩:=Monitor.follows_answered (M := schedulerWorld)
  (fun _ _ _ _ h=>answerTick_step h) hanswer'
 exact ⟨_,u,out,_,u',out',htrace,hfollows,hnone,htrace',hfollows',hfired⟩

end Lebro.SchedulerIsolation
