import Lebro.EffectPool
import Lebro.SchedulerRows
import Lebro.CronSearch
import Lebro.WorkflowProgress

set_option autoImplicit false

namespace Lebro.ScheduleFires

open EffectProgram EffectRuns EffectPool RuntimeTypes RuntimeRecords RuntimeEffects MemoryStore
open StoreRecords StoreTables WorkflowSteps WorkflowExecution WorkflowRuns WorkflowProgress
open SchedulerTicks

/-- What an operator sets, without the bookkeeping of the fires; a wake-up ends paused. -/
def settings (v : ScheduleRecord) : ScheduleRecord :=
 { v with
   paused := v.paused || v.wakeRunID ≠ ""
   lastFireAt := none
   nextFireAt := none
   updatedAt := 0 }

structure Fired (now : Time) (r v : ScheduleRecord) : Prop where
 settings : settings v = settings r
 later : ∀ next, v.nextFireAt = some next → now < next

lemma Fired.id {now r v} (h:Fired now r v) : v.id=r.id := by
 have hid:=congrArg ScheduleRecord.id h.settings
 exact hid

/-- Every run that the scheduler starts is given a new ID first. -/
def startsRun : RuntimeOp → Bool
 | .newRunID => true
 | _ => false

/-- What a tick has listed and holds, and the schedule whose workflow it may start next. -/
structure Ledger where
 listed : List ScheduleRecord := []
 held : Option ScheduleID := none
 saved : Bool := false
 starting : Option ScheduleID := none

def Ledger.recorded (l : Ledger) : Ledger := { l with saved := true, starting := none }

def Ledger.after (l : Ledger) : (o : SchedulerOp) → o.Reply → Ledger
 | .listSchedules _ _, .ok page =>
  { l with listed := l.listed ++ page.records, starting := none }
 | .claimInflight id, true => { l with held := some id, saved := false, starting := some id }
 | .markInflight id, _ => { l with starting := some id }
 | .clearInflight id, _ =>
  { l with held := if l.held = some id then none else l.held, starting := none }
 | .transaction _, _ => l.recorded
 | .runtime o, _ => { l with starting := if startsRun o then none else l.starting }
 | _, _ => l

def Unclaimed (l : Ledger) (id : ScheduleID) : Prop :=
 ∃ r ∈ l.listed, r.id = id ∧ ConcurrencyPolicy.normalized r.concurrency ≠ .skip

def Persists (now : Time) (l : Ledger) (body : Prog HistorySig (Except Err Unit)) : Prop :=
 ∃ r ∈ l.listed, ∃ v exec missed, body = saveFire v exec missed ∧ Fired now r v ∧
  exec.scheduleID = v.id ∧ (∀ m ∈ missed, m.scheduleID = v.id) ∧
  ∀ id, l.held = some id → v.id = id

def ledgerDemand (now : Time) (l : Ledger) : SchedulerOp → Prop
 | .claimInflight id => l.held = none ∧ ∃ r ∈ l.listed, r.id = id
 | .markInflight id => Unclaimed l id
 | .clearInflight id => l.held = some id ∧ l.saved = true ∨ Unclaimed l id
 | .transaction body => Persists now l body
 | .listSchedules f _ => f.dueBy = some now
 | .runtime o => startsRun o = true → ∃ id, l.starting = some id

def ledger (now : Time) : Monitor SchedulerSig Ledger :=
 Monitor.ghost (ledgerDemand now) Ledger.after

variable {now:Time} {v:ScheduleRecord} {l:Ledger} {exec:ScheduleExecutionRecord}
 {compiled:Except Err CronSchedule} {s:StoreState}

lemma wp_op {α:Type} {o:SchedulerOp} {f:o.Reply → SchedulerProg α} {Q}
  (hdemand:ledgerDemand now l o) (h:∀ r,wp (ledger now) (f r) Q (l.after o r)) :
  wp (ledger now) (schedulerOp o >>= f) Q l := by
 refine (wp_perform _ _ _ _).mpr ⟨hdemand,?_⟩
 intro r u hu
 rw [show u=l.after o r from hu]
 exact h r

lemma wp_quiet {α:Type} {o:RuntimeOp} {f:o.Reply → SchedulerProg α} {Q}
  (ho:startsRun o=false) (h:∀ r,wp (ledger now) (f r) Q l) :
  wp (ledger now) (schedulerOp (.runtime o) >>= f) Q l := by
 refine wp_op ?_ fun r=>?_
 · intro hstarts
   rw [ho] at hstarts
   cases hstarts
 · have hsame:l.after (.runtime o) r=l:=by
    change { l with starting := if startsRun o then none else l.starting }=l
    rw [ho]
    rfl
   rw [hsame]
   exact h r

lemma startsRun_of_bodyOp {o} (h:BodyOp o) : startsRun o=false := by
 cases o with
 | newRunID => exact h.elim
 | _ => rfl

lemma wp_liftRuntime {α:Type} {p:RuntimeProg α} (hp:Asks BodyOp p) {Q} (hQ:∀ a,Q a l) :
  wp (ledger now) (liftRuntime p) Q l := by
 induction p with
 | ret a => exact hQ a
 | ask o k ih => exact wp_quiet (startsRun_of_bodyOp hp.1) fun r=>ih r (hp.2 r () trivial)

/-- The workflow of a schedule is started once. -/
lemma wp_runWorkflow (schedule workflow) {Q} (hstarting:l.starting=some schedule.id)
  (hQ:∀ out,Q out { l with starting := none }) :
  wp (ledger now) (runWorkflow schedule workflow) Q l := by
 refine wp_op (o := .runtime .newRunID) (fun _=>⟨schedule.id,hstarting⟩) fun runID=>?_
 exact wp_liftRuntime (asks_startRun workflow runID _) hQ

lemma wp_persist {r schedule missed Q} (hr:r ∈ l.listed) (hfired:Fired now r schedule)
  (hexec:exec.scheduleID=schedule.id) (hmissed:∀ m ∈ missed,m.scheduleID=schedule.id)
  (hheld:∀ id,l.held=some id → schedule.id=id) (hQ:∀ out,Q out l.recorded) :
  wp (ledger now) (persist schedule exec missed) Q l := by
 refine wp_op ?_ ?_
 · refine ⟨r,hr,schedule,_,_,rfl,hfired,hexec,?_,hheld⟩
   intro m' hm'
   obtain ⟨m,hm,rfl⟩:=List.mem_map.mp hm'
   exact hmissed m hm
 · intro saved
   cases saved with
   | error e | ok _ => exact hQ _

lemma nextFire_later {next} (h:nextFire compiled now=some next) : now < next := by
 cases compiled with
 | error e => cases h
 | ok compiled => exact compiled.later _ _ h

section

variable {s:Scheduler} {schedule:ScheduleRecord}
 {missed:List ScheduleExecutionRecord} {Q:Except Err TickResult → Ledger → Prop}

lemma wp_counted {p} (count) (h:wp (ledger now) p (fun _ u=>∀ out,Q out u) l) :
  wp (ledger now) (p >>= fun out=>.ret (counted count out)) Q l :=
 wp_seq h fun _ _ hQ=>hQ _

lemma wp_advance (hschedule:schedule ∈ l.listed) (hexec:exec.scheduleID=schedule.id)
  (hmissed:∀ m ∈ missed,m.scheduleID=schedule.id)
  (hheld:∀ id,l.held=some id → schedule.id=id)
  (hQ:∀ out,Q out l.recorded) :
  wp (ledger now) (advance schedule compiled now exec missed) Q l :=
 wp_persist hschedule ⟨rfl,fun _ hnext=>nextFire_later hnext⟩ hexec hmissed hheld hQ

lemma wp_advanceCleared (hschedule:schedule ∈ l.listed)
  (hexec:exec.scheduleID=schedule.id) (hheld:∀ id,l.held=some id → schedule.id=id)
  (hQ:∀ out,Q out l.recorded) :
  wp (ledger now) (advanceCleared schedule now exec) Q l := by
 refine wp_counted _ (wp_persist hschedule ⟨rfl,?_⟩ hexec ?_ hheld fun _=>hQ)
 · intro next hnext
   cases hnext
 · intro m hm
   cases hm

/-- A fire that is over has recorded its execution and holds what it held before. -/
structure Ended (l u : Ledger) : Prop where
 listed : u.listed = l.listed
 held : u.held = l.held
 saved : u.saved = true

/-- The schedule may be run, under the claim of the tick or without one. -/
def Cleared (schedule : ScheduleRecord) (l : Ledger) : Bool → Prop
 | true => l.starting = some schedule.id
 | false => l.held = none ∧ ConcurrencyPolicy.normalized schedule.concurrency ≠ .skip

lemma wp_runMarked (workflow) {claimed Q} (hschedule:schedule ∈ l.listed)
  (hcleared:Cleared schedule l claimed) (hQ:∀ out,Q out { l with starting := none }) :
  wp (ledger now) (runMarked schedule workflow claimed) Q l := by
 cases claimed with
 | true => exact wp_runWorkflow _ _ hcleared hQ
 | false =>
  obtain ⟨hheld,hpolicy⟩:=hcleared
  have hunclaimed:Unclaimed l schedule.id:=⟨schedule,hschedule,rfl,hpolicy⟩
  have hsame:Ledger.after { l with starting:=none } (.clearInflight schedule.id) ()=
    { l with starting:=none } := by
   obtain ⟨listed,held,saved⟩:=l
   obtain rfl : held=none := hheld
   rfl
  refine wp_op hunclaimed fun _=>?_
  refine wp_seq (R := fun _ u=>u={ l with starting:=none })
   (wp_runWorkflow _ _ rfl fun _=>rfl) ?_
  intro out u hu
  rw [hu]
  refine wp_op (.inr hunclaimed) fun _=>?_
  rw [hsame]
  exact hQ out

lemma wp_fireOccurrence {scheduledFor claimed} (hschedule:schedule ∈ l.listed)
  (hmissed:∀ m ∈ missed,m.scheduleID=schedule.id)
  (hheld:∀ id,l.held=some id → schedule.id=id) (hcleared:Cleared schedule l claimed)
  (hQ:∀ out u,Ended l u → Q out u) :
  wp (ledger now) (fireOccurrence s now schedule compiled scheduledFor missed claimed) Q l := by
 unfold fireOccurrence
 cases compiled with
 | error e => exact wp_advanceCleared hschedule rfl hheld fun out=>hQ out _ ⟨rfl,rfl,rfl⟩
 | ok compiled =>
  dsimp only
  split
  · exact wp_counted _ (wp_advance hschedule rfl hmissed hheld fun _ out=>
     hQ out _ ⟨rfl,rfl,rfl⟩)
  refine wp_seq (R := fun _ u=>u={ l with starting:=none })
   (wp_runMarked _ hschedule hcleared fun _=>rfl) ?_
  intro ran u hu
  rw [hu]
  refine wp_quiet rfl fun finished=>?_
  exact wp_counted _ (wp_advance (l := { l with starting:=none }) hschedule rfl hmissed hheld
   fun _ out=>hQ out _ ⟨rfl,rfl,rfl⟩)

lemma wp_fireClaimed {scheduledFor} (hschedule:schedule ∈ l.listed)
  (hmissed:∀ m ∈ missed,m.scheduleID=schedule.id) (hheld:l.held=none)
  (hQ:∀ out u,Ended l u → Q out u) :
  wp (ledger now) (fireClaimed s now schedule compiled scheduledFor missed) Q l := by
 refine wp_op ⟨hheld,schedule,hschedule,rfl⟩ fun claimed=>?_
 cases claimed with
 | false =>
  refine wp_counted _ (wp_advance (l := l) hschedule rfl hmissed ?_ fun _ out=>
   hQ out _ ⟨rfl,rfl,rfl⟩)
  intro id hid
  rw [hheld] at hid
  cases hid
 | true =>
  refine wp_seq (wp_fireOccurrence (Q := fun _ u=>Ended (l.after (.claimInflight schedule.id)
   true) u) hschedule hmissed ?_ rfl fun _ _ hu=>hu) ?_
  · intro id hid
    exact Option.some.inj hid
  · intro out u hu
    refine wp_op (.inl ⟨hu.held,hu.saved⟩) fun _=>hQ out _ ⟨hu.listed,?_,hu.saved⟩
    change (if u.held=some schedule.id then none else u.held)=l.held
    rw [hu.held,hheld]
    exact if_pos rfl

lemma wp_wakeupStatus (runID out) {Q} (hQ:∀ status,Q status l) :
  wp (ledger now) (wakeupStatus runID out) Q l := by
 unfold wakeupStatus
 split
 · split
   · exact hQ _
   · split
     · exact hQ _
     · refine wp_seq (R := fun _ u=>u=l) (wp_quiet rfl fun _=>rfl) ?_
       intro terminal u hu
       rw [hu]
       split
       · exact hQ _
       · exact hQ _
       · exact hQ _
 · split
   · exact hQ _
   · exact hQ _

lemma wp_settleWakeup (status message) (hschedule:schedule ∈ l.listed)
  (hwake:schedule.wakeRunID ≠ "") (hheld:l.held=none)
  (hQ:∀ out,Q out l.recorded) :
  wp (ledger now) (settleWakeup now schedule status message) Q l := by
 refine wp_quiet rfl fun finished=>?_
 refine wp_counted _ (wp_persist (l := l) hschedule ⟨?_,?_⟩ rfl ?_ ?_ fun _=>hQ)
 · unfold settings
   simp [hwake]
 · intro next hnext
   cases hnext
 · intro m hm
   cases hm
 · intro id hid
   rw [hheld] at hid
   cases hid

lemma wp_fireWakeup (hschedule:schedule ∈ l.listed) (hwake:schedule.wakeRunID ≠ "")
  (hheld:l.held=none) (hQ:∀ out u,u.listed=l.listed → u.held=none → Q out u) :
  wp (ledger now) (fireWakeup s now schedule) Q l := by
 have hsettled:∀ out,Q out l.recorded := fun out=>hQ out _ rfl hheld
 unfold fireWakeup
 split
 · exact wp_settleWakeup _ _ hschedule hwake hheld hsettled
 refine wp_seq (R := fun _ u=>u=l) (wp_liftRuntime (asks_resumeWake _ _ _) fun _=>rfl) ?_
 intro out u hu
 rw [hu]
 refine wp_seq (R := fun _ u=>u=l) (wp_wakeupStatus _ _ fun _=>rfl) ?_
 intro status u hu
 rw [hu]
 split
 · exact hQ _ l rfl hheld
 · exact wp_settleWakeup _ _ hschedule hwake hheld hsettled

lemma wp_fireSchedule (hschedule:schedule ∈ l.listed) (hheld:l.held=none)
  (hQ:∀ out u,u.listed=l.listed → u.held=none → Q out u) :
  wp (ledger now) (fireSchedule s now schedule) Q l := by
 have hfired:∀ out u,Ended l u → Q out u := fun out u hu=>
  hQ out u hu.listed (hu.held.trans hheld)
 have hnone:∀ id,l.held=some id → schedule.id=id:=fun id hid=>by
  rw [hheld] at hid
  cases hid
 unfold fireSchedule
 split
 · rename_i hwake
   exact wp_fireWakeup hschedule hwake hheld hQ
 · dsimp only
   have hmissed:=SchedulerRows.dueOccurrence_scheduleID s now schedule
    (s.parseCronSpec schedule.spec)
   split
   · exact wp_fireClaimed hschedule hmissed hheld hfired
   · rename_i hpolicy
     exact wp_fireOccurrence hschedule hmissed hnone ⟨hheld,hpolicy⟩ hfired

end

lemma wp_fireDue (s) {due} (result) (hdue:∀ schedule ∈ due,schedule ∈ l.listed)
  (hheld:l.held=none) : wp (ledger now) (fireDue s now due result) (fun _ _=>True) l := by
 induction due generalizing result l with
 | nil => trivial
 | cons schedule due ih =>
  obtain ⟨hschedule,hrest⟩:=List.forall_mem_cons.mp hdue
  refine wp_quiet rfl fun err=>?_
  cases err with
  | some e => trivial
  | none =>
   refine wp_seq (R := fun _ u=>u.listed=l.listed ∧ u.held=none)
    (wp_fireSchedule (l := l) hschedule hheld fun _ _ hlisted hfree=>⟨hlisted,hfree⟩) ?_
   rintro fired u ⟨hlisted,hfree⟩
   cases fired with
   | error e => trivial
   | ok added =>
    refine ih _ ?_ hfree
    rw [hlisted]
    exact hrest

lemma wp_loadPages (n:Nat) (loaded) (hloaded:∀ v ∈ loaded.2,v ∈ l.listed)
  (hheld:l.held=none) :
  wp (ledger now) (Prog.iterate (loadPage now)
   ((schedulerOp (.runtime .hang)) >>= fun (e:Empty)=>e.elim) n loaded)
   (fun out u=>u.held=none ∧ ∀ due,out = .ok due → ∀ v ∈ due,v ∈ u.listed) l := by
 refine wp_rounds (fun loaded u=>(∀ v ∈ loaded.2,v ∈ u.listed) ∧ u.held=none) ?_ ?_ n loaded l
  ⟨hloaded,hheld⟩
 · rintro loaded l ⟨hloaded,hheld⟩
   refine wp_op rfl fun page=>?_
   cases page with
   | error e => exact ⟨hheld,fun due hdue=>by cases hdue⟩
   | ok page =>
    have hall:∀ v ∈ loaded.2++page.records,v ∈ l.listed++page.records:=by
     intro v hv
     rcases List.mem_append.mp hv with hv | hv
     · exact List.mem_append_left _ (hloaded v hv)
     · exact List.mem_append_right _ hv
    dsimp only
    cases hcursor : page.nextCursor with
    | none =>
     refine ⟨hheld,?_⟩
     rintro due ⟨⟩
     exact hall
    | some cursor => exact ⟨hall,hheld⟩
 · exact fun _ _ _=>wp_quiet rfl fun e=>Empty.elim e

lemma wp_tick (s) : wp (ledger now) (tick s now) (fun _ _=>True) {} := by
 refine wp_quiet rfl fun err=>?_
 cases err with
 | some e => trivial
 | none =>
  refine wp_seq (wp_loadPages s.pages (⟨none,0⟩,[]) (l := {}) ?_ rfl) ?_
  · intro v hv
    cases hv
  · rintro loaded u ⟨hheld,hlisted⟩
    cases loaded with
    | error e => trivial
    | ok due => exact wp_fireDue s {} (hlisted due rfl) hheld

def Filed (s : StoreState) : Prop := ∀ id v, s.schedules.lookup id = some v → v.id = id

def Writes (v : ScheduleRecord) (s : StoreState) : Except Err Unit → StoreState → Prop
 | .ok _, u => StoreTables.saveSchedule {} s v = .ok u
 | .error _, u => u = s

/-- Listings and the writes of schedules go to the store; whatever else happens, schedules stay
stored under their IDs. -/
def StoreBacked (s : SchedulerState) : (o : SchedulerOp) → o.Reply → SchedulerState → Prop
 | .listSchedules f q, r, _ => ∀ page, r = .ok page →
   StoreTables.listSchedules {} s.store f q = .ok page
 | .runtime (.repo (.saveSchedule v)), r, u => Writes v s.store r u.store
 | .runtime _, _, u => Filed s.store → Filed u.store
 | _, _, _ => True

def storeWorld : Monitor SchedulerSig SchedulerState := guarded schedulerWorld StoreBacked

lemma saveSchedule_schedules {u} (h:StoreTables.saveSchedule {} s v = .ok u) :
  u = { s with schedules := s.schedules.insert v.id v } := by
 obtain ⟨m,_,hu⟩:=map_eq_ok (alive_eq_ok h)
 exact hu.symm

lemma filed_insert {t:Table ScheduleID ScheduleRecord}
  (h:∀ id w,t.lookup id=some w → w.id=id) :
  ∀ id w,(t.insert v.id v).lookup id=some w → w.id=id := by
 intro id w hw
 by_cases hid : id=v.id
 · subst hid
   rw [AList.lookup_insert] at hw
   cases hw
   rfl
 · rw [AList.lookup_insert_ne hid] at hw
   exact h id w hw

lemma history_execution (v s) :
  (applyHistory (.saveScheduleExecution v) s).2.schedules=s.schedules := by
 change (saved s (saveScheduleExecution {} s v)).2.schedules=s.schedules
 unfold saveScheduleExecution alive
 dsimp only
 split
 · rfl
 split
 · rfl
 split
 · rfl
 · rfl

lemma history_schedule (v s) : applyHistory (.saveSchedule v) s =
  (.ok (),{ s with schedules := s.schedules.insert v.id v }) ∨
   ∃ e,applyHistory (.saveSchedule v) s=(.error e,s) := by
 change saved s (StoreTables.saveSchedule {} s v)=_ ∨
  ∃ e,saved s (StoreTables.saveSchedule {} s v)=_
 cases hsave : StoreTables.saveSchedule {} s v with
 | error e => exact .inr ⟨e,rfl⟩
 | ok u =>
  rw [saveSchedule_schedules hsave]
  exact .inl rfl

lemma filed_history {o} (h:Filed s) : Filed (applyHistory o s).2 := by
 cases o with
 | saveScheduleExecution v =>
  unfold Filed
  rw [history_execution]
  exact h
 | saveSchedule v =>
  rcases history_schedule v s with hsaved | ⟨e,hrefused⟩
  · rw [hsaved]
    exact filed_insert h
  · rw [hrefused]
    exact h

lemma filed_run {α:Type} {body:Prog HistorySig α} (h:Filed s) :
  Filed (body.run applyHistory s).2 := by
 induction body generalizing s with
 | ret a => exact h
 | ask o k ih => exact ih _ (filed_history h)

lemma filed_writes {u r} (h:Writes v s r u) (hs:Filed s) : Filed u := by
 cases r with
 | error e =>
  rw [show u=s from h]
  exact hs
 | ok _ =>
  rw [saveSchedule_schedules h]
  exact filed_insert hs

lemma storeWorld_filed {s u o r} (h:storeWorld.step s o r u) (hs:Filed s.store) :
  Filed u.store := by
 obtain ⟨hstep,hbacked⟩:=h
 cases o with
 | runtime o =>
  unfold StoreBacked at hbacked
  split at hbacked
  · contradiction
  · exact filed_writes hbacked hs
  · exact hbacked hs
  · next hruntime => exact (hruntime o _ rfl HEq.rfl).elim
 | listSchedules f q =>
  rw [show u=s from hstep]
  exact hs
 | claimInflight id =>
  rw [hstep.2]
  exact hs
 | markInflight id | clearInflight id =>
  rw [show u=_ from hstep]
  exact hs
 | transaction body =>
  cases r with
  | error e =>
   rw [show u=s from hstep]
   exact hs
  | ok _ =>
   rw [hstep.2]
   exact filed_run hs

lemma mem_listSchedules {f q page} (hs:Filed s)
  (h:StoreTables.listSchedules {} s f q = .ok page) (hv:v ∈ page.records) :
  s.schedules.lookup v.id=some v ∧ scheduleMatchesFilter v f=true := by
 have hall:v ∈ (listed s.schedules ScheduleRecord.createdAt).filter
   fun v=>scheduleMatchesFilter v f := by
  have hpage:=alive_eq_ok h
  unfold StoreTables.paginate at hpage
  split at hpage
  · cases hpage
  split at hpage
  · cases hpage
  · cases hpage
    exact List.mem_of_mem_drop (List.mem_of_mem_take hv)
 obtain ⟨hlisted,hfilter⟩:=List.mem_filter.mp hall
 obtain ⟨⟨id,w⟩,hentry,rfl⟩:=List.mem_map.mp hlisted
 have hlookup:s.schedules.lookup id=some w:=
  List.mem_dlookup s.schedules.nodupKeys ((List.mem_insertionSort _).mp hentry)
 rw [hs id w hlookup]
 exact ⟨hlookup,hfilter⟩

lemma saveExecutions_schedules (vs s) :
  ((saveExecutions vs).run applyHistory s).2.schedules=s.schedules := by
 induction vs generalizing s with
 | nil => rfl
 | cons v vs ih =>
  have hfirst:=history_execution v s
  unfold saveExecutions
  rw [Prog.run_bind]
  split
  · exact hfirst
  · rw [ih]
    exact hfirst

lemma saveFire_schedules {missed} (h:((saveFire v exec missed).run applyHistory s).1 = .ok ()) :
  ((saveFire v exec missed).run applyHistory s).2.schedules=s.schedules.insert v.id v := by
 have hexecs:=saveExecutions_schedules (missed ++ [exec]) s
 unfold saveFire at h ⊢
 rw [Prog.run_bind] at h ⊢
 generalize (saveExecutions (missed ++ [exec])).run applyHistory s=ran at h hexecs ⊢
 obtain ⟨saved,u⟩:=ran
 cases saved with
 | error e => cases h
 | ok _ =>
  change (applyHistory (.saveSchedule v) u).1 = .ok () at h
  change (applyHistory (.saveSchedule v) u).2.schedules=_
  rcases history_schedule v u with hsaved | ⟨e,hrefused⟩
  · rw [hsaved,← hexecs]
  · rw [hrefused] at h
    cases h

/-- Whatever its surroundings answer, a tick claims one listed schedule at a time, clears its claim
only after a write, and writes only listed schedules, with their settings and a later fire. -/
theorem tick_heeds_ledger (s : Scheduler) (now : Time) :
  Heeds (ledgerDemand now) Ledger.after {} (tick s now) :=
 heeds_of_wp (wp_tick s)

section

open CronSearch

def Occurs (c : CronSearch.CronSchedule) (first t : Int) : Prop :=
 t = first ∨ first < t ∧ WholeMinute t ∧ Satisfies c t

/-- The occurrences from the first one on, in order, that are before the latest. -/
def Passed (c : CronSearch.CronSchedule) (first latest : Int) (passed : List Int) : Prop :=
 Occurs c first latest ∧ passed.Pairwise (· < ·) ∧ ∀ t, t ∈ passed ↔ t < latest ∧ Occurs c first t

lemma later_of_next {c:CronSearch.CronSchedule} (hc:c.every=0) (t u) (h:next c t=some u) :
  t < u := by
 have hfirst:=next_first hc t
 rw [h] at hfirst
 exact (nextMinute_le_iff hfirst.2.2.1).mp hfirst.1

abbrev Calendar := { c : CronSearch.CronSchedule // c.every = 0 }

def Calendar.compile (c : Calendar) : SchedulerTicks.CronSchedule := ⟨next c.1, later_of_next c.2⟩

variable {c:Calendar} {first latest:Int} {passed:List Int}

lemma Passed.next {u} (h:Passed c.1 first latest passed) (hu:next c.1 latest=some u) :
  Passed c.1 first u (passed ++ [latest]) := by
 have hfirst:=next_first c.2 latest
 rw [hu] at hfirst
 obtain ⟨hle,-,hwhole,hsat,hnone⟩:=hfirst
 obtain ⟨hlatest,hsorted,hmem⟩:=h
 have hlater:=(nextMinute_le_iff hwhole).mp hle
 have hfrom:first ≤ latest:=by
  rcases hlatest with rfl | hlatest <;> omega
 refine ⟨.inr ⟨by omega,hwhole,hsat⟩,?_,fun t=>?_⟩
 · refine List.pairwise_append.mpr ⟨hsorted,List.pairwise_singleton _ _,fun t ht m hm=>?_⟩
   rw [List.mem_singleton.mp hm]
   exact ((hmem t).mp ht).1
 rw [List.mem_append,List.mem_singleton,hmem]
 constructor
 · rintro (⟨hlt,ht⟩ | rfl)
   · exact ⟨by omega,ht⟩
   · exact ⟨hlater,hlatest⟩
 · rintro ⟨hlt,ht⟩
   rcases Int.lt_trichotomy t latest with hbefore | rfl | hafter
   · exact .inl ⟨hbefore,ht⟩
   · exact .inr rfl
   · rcases ht with rfl | ⟨-,ht,hsat⟩
     · omega
     · exact (hnone t ((nextMinute_le_iff ht).mpr hafter) hlt hsat).elim

variable {s:Scheduler} {id:ScheduleID} {now:Int}

def missedAt (s : Scheduler) (id : ScheduleID) (now : Int) (passed : List Int) :
  List ScheduleExecutionRecord :=
 (passed.take s.maxCatchUp.toNat).map fun t => newExecution id "" .missed t now (some now) ""

def CaughtUp (c : Calendar) (s : Scheduler) (id : ScheduleID) (now first : Int)
  (r : Time × List ScheduleExecutionRecord) : Prop :=
 ∃ passed, Passed c.1 first r.1 passed ∧ r.2 = missedAt s id now passed ∧
  (first ≤ now → r.1 ≤ now) ∧ ∀ t, WholeMinute t → Satisfies c.1 t → r.1 < t → t ≤ now →
   nextMinute r.1 + cronSearchLimit ≤ t

lemma missedAt_append : missedAt s id now (passed ++ [latest]) =
  if 0 ≤ s.maxCatchUp ∧ (missedAt s id now passed).length < s.maxCatchUp then
   missedAt s id now passed ++ [newExecution id "" .missed latest now (some now) ""]
  else missedAt s id now passed := by
 unfold missedAt
 rw [List.take_append,List.length_map,List.length_take]
 split
 · rw [List.take_of_length_le (l := [latest])] <;> simp
   omega
 · rw [Nat.sub_eq_zero_of_le (by omega)]
   simp

lemma caughtUp (h:Passed c.1 first latest passed) (hnow:first ≤ now → latest ≤ now) :
  CaughtUp c s id now first
   (collectMissed s id now c.compile latest (missedAt s id now passed)) := by
 generalize hm : missedAt s id now passed=missed
 fun_induction collectMissed s id now c.compile latest missed generalizing passed with
 | case1 latest missed hnext =>
  have hfirst:=next_first c.2 latest
  rw [show next c.1 latest=none from hnext] at hfirst
  refine ⟨passed,h,hm.symm,hnow,fun t ht hsat hlt hle=>?_⟩
  by_contra hbound
  exact hfirst t ((nextMinute_le_iff ht).mpr hlt) (Int.not_le.mp hbound) hsat
 | case2 latest missed u hnext hdue ih =>
  exact ih (h.next hnext) (fun _=>hdue) (hm ▸ missedAt_append)
 | case3 latest missed u hnext hdue =>
  have hfirst:=next_first c.2 latest
  rw [show next c.1 latest=some u from hnext] at hfirst
  refine ⟨passed,h,hm.symm,hnow,fun t ht hsat hlt hle=>?_⟩
  have hu:=Int.lt_of_le_of_lt hle (Int.not_le.mp hdue)
  exact (hfirst.2.2.2.2 t ((nextMinute_le_iff ht).mpr hlt) hu hsat).elim

/-- The walk of a tick over the due occurrences ends at the last one that the search finds by now,
and records the first ones before it as missed, in order and up to the limit. -/
theorem occurrences_caught_up (c : Calendar) (s : Scheduler) (id : ScheduleID) (now first : Int) :
  CaughtUp c s id now first (collectMissed s id now c.compile first []) := by
 have h:CaughtUp c s id now first
   (collectMissed s id now c.compile first (missedAt s id now [])) := by
  refine caughtUp ⟨.inl rfl,.nil,fun t=>⟨nofun,?_⟩⟩ fun h=>h
  rintro ⟨hlt,rfl | ht⟩ <;> omega
 simpa [missedAt] using h

end

end Lebro.ScheduleFires
