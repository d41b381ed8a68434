import Lebro.ScheduleFires

set_option autoImplicit false

namespace Lebro.ScheduleEdits

open EffectProgram EffectRuns EffectPool RuntimeTypes RuntimeRecords RuntimeEffects StoreRecords
open StoreTables WorkflowSteps WorkflowRuns SchedulerTicks ScheduleFires

variable {a b:SchedulerState} {es:List (PoolEvent SchedulerSig)}

def storedSettings (s : SchedulerState) (id : ScheduleID) : Option ScheduleRecord :=
 (s.store.schedules.lookup id).map settings

def KeepsSettings (id : ScheduleID) (s : SchedulerState) (o : SchedulerOp) (_ : o.Reply)
  (u : SchedulerState) : Prop :=
 storedSettings u id = storedSettings s id

def edit (v : ScheduleRecord) : Event SchedulerSig :=
 ⟨.runtime (.repo (.saveSchedule v)), (.ok () : Except Err Unit)⟩

abbrev TickProg := SchedulerProg (TickResult × Option Err)

variable {qs ps:List TickProg}

lemma filed_after (h:PoolRun storeWorld a ps es b qs) (ha:Filed a.store) : Filed b.store :=
 h.invariant (fun _ s _=>Filed s.store) ha fun _ _ _ _ _ _ _ _ hs _ hstep =>
  storeWorld_filed hstep hs

lemma settings_after {id} (h:PoolRun (guarded storeWorld (KeepsSettings id)) a ps es b qs) :
  storedSettings b id=storedSettings a id :=
 h.invariant (fun _ s _=>storedSettings s id=storedSettings a id) rfl
  fun _ _ _ _ _ _ _ _ hs _ hstep=>hstep.2.trans hs

lemma mem_listed {es:List (Event SchedulerSig)} {l:Ledger} {v}
  (h:v ∈ (es.foldl (fun l e=>Ledger.after l e.1 e.2) l).listed) :
  v ∈ l.listed ∨ ∃ f q page,(⟨.listSchedules f q,.ok page⟩ : Event SchedulerSig) ∈ es ∧
   v ∈ page.records := by
 induction es generalizing l with
 | nil => exact .inl h
 | cons e es ih =>
  rcases ih h with hv | ⟨f,q,page,he,hv⟩
  · obtain ⟨o,r⟩:=e
    dsimp only at hv
    unfold Ledger.after at hv
    split at hv
    · next f q page =>
       rcases List.mem_append.mp hv with hv | hv
       · exact .inl hv
       · exact .inr ⟨f,q,page,List.mem_cons_self,hv⟩
    all_goals exact .inl hv
  · exact .inr ⟨f,q,page,List.mem_cons_of_mem _ he,hv⟩

lemma listing_of_mem {i f q page v} (h:PoolRun storeWorld a ps es b qs) (ha:Filed a.store)
  (he:(i,⟨.listSchedules f q,.ok page⟩) ∈ es) (hv:v ∈ page.records) :
  ∃ early mid c rs,es=early++mid ∧ PoolRun storeWorld a ps early c rs ∧
   PoolRun storeWorld c rs mid b qs ∧ (i,⟨.listSchedules f q,.ok page⟩) ∈ early ∧
   c.store.schedules.lookup v.id=some v := by
 obtain ⟨before,mid,rfl⟩:=List.append_of_mem he
 obtain ⟨d,rs,hbefore,hrest⟩:=h.split
 cases hrest with
 | @next _ c _ _ _ _ _ k _ _ hi hstep tail =>
  have hsame:c=d := hstep.1
  refine ⟨before ++ [(i,⟨.listSchedules f q,.ok page⟩)],mid,c,rs.set i (k (.ok page)),
   by simp,hbefore.trans (.next hi hstep (.refl c _)),tail,by simp,?_⟩
  rw [hsame]
  exact (mem_listSchedules (filed_after hbefore ha) (hstep.2 page rfl) hv).1

/-- A tick leaves what is set for a schedule exactly if it is, when the tick persists the fire,
what it was when the tick listed the schedule. -/
theorem tick_keeps_edits (s : Scheduler) (now : Time) (others : List TickProg)
  {a b : SchedulerState} {qs : List TickProg} {before after : List (PoolEvent SchedulerSig)}
  {body : Prog HistorySig (Except Err Unit)} (ha : Filed a.store)
  (h : PoolRun storeWorld a (tick s now :: others)
   (before ++ (0, ⟨.transaction body, .ok ()⟩) :: after) b qs) :
  ∃ early mid c ps d rs e f q page listed,
   before = early ++ mid ∧ PoolRun storeWorld a (tick s now :: others) early c ps ∧
   PoolRun storeWorld c ps mid d rs ∧ storeWorld.step d (.transaction body) (.ok ()) e ∧
   (0, ⟨.listSchedules f q, .ok page⟩) ∈ early ∧ listed ∈ page.records ∧
   c.store.schedules.lookup listed.id = some listed ∧
   (∀ id, id ≠ listed.id → e.store.schedules.lookup id = d.store.schedules.lookup id) ∧
   storedSettings e listed.id = some (settings listed) ∧
   (∀ i v, (i, edit v) ∈ mid → v.id = listed.id →
    (storedSettings e listed.id = some (settings v) ↔ settings v = settings listed)) ∧
   (storedSettings e listed.id = storedSettings d listed.id ↔
    storedSettings d listed.id = storedSettings c listed.id) ∧
   (PoolRun (guarded storeWorld (KeepsSettings listed.id)) c ps mid d rs →
    storedSettings e listed.id = storedSettings d listed.id) := by
 obtain ⟨d,rs,hbefore,hrest⟩:=h.split
 cases hrest with
 | @next _ e _ _ _ _ _ k _ _ hi hstep tail =>
  have hpersists:Persists now _ body := h.demand_at rfl (wp_tick s)
  obtain ⟨listed,hlisted,updated,exec,missed,rfl,hfired,-⟩:=hpersists
  obtain hnone | ⟨f,q,page,hevent,hpage⟩ := mem_listed hlisted
  · cases hnone
  · obtain ⟨early,mid,c,ps,rfl,hearly,hmid,hmem,hrow⟩ :=
     listing_of_mem hbefore ha (mem_threadEvents.mp hevent) hpage
    have hsaved:e.store.schedules = d.store.schedules.insert listed.id updated := by
     obtain ⟨⟨hok,he⟩,-⟩:=hstep
     rw [he,← hfired.id]
     exact saveFire_schedules hok
    have hread:storedSettings c listed.id = some (settings listed) := by
     unfold storedSettings
     rw [hrow,Option.map_some]
    have hwritten:storedSettings e listed.id = some (settings listed) := by
     unfold storedSettings
     rw [hsaved,AList.lookup_insert,Option.map_some,hfired.settings]
    refine ⟨early,mid,c,ps,d,rs,e,f,q,page,listed,rfl,hearly,hmid,hstep,hmem,
     hpage,hrow,?_,hwritten,?_,?_,?_⟩
    · intro id hid
      rw [hsaved,AList.lookup_insert_ne hid]
    · intro i v _ _
      rw [hwritten,Option.some.injEq]
      exact eq_comm
    · rw [hwritten,hread]
      exact eq_comm
    · intro hkept
      rw [hwritten,settings_after hkept,hread]

def reportWorkflow : LinearWorkflow where
 definition := { id := "report" }
 steps := [⟨"write", true, none, none, none, none, .handler⟩]
 store := false
 policy := false
 executor := 0
 number := some
 pages := 1

def sixtieth : Scheduler where
 resolveWorkflow _ := some reportWorkflow
 parseCronSpec _ := .ok ⟨fun t => some (t + 60), fun t u h => by
  cases h
  exact Int.lt_add_of_pos_right t (by decide)⟩
 maxCatchUp := 100
 pages := 1

def job : ScheduleRecord where
 id := "job"
 workflowID := "report"
 scope := {}
 spec := "* * * * *"
 nextFireAt := some 5
 wakeRunID := ""
 wakeToken := ""
 createdAt := 0
 updatedAt := 0

def jobDue : SchedulerState where
 inflight _ := false
 store := { StoreState.empty with
  schedules := (AList.insert "job" job ∅ : Table String ScheduleRecord) }

def reportReply : (o : RuntimeOp) → Option o.Reply
 | .step .ctxErr => some none
 | .step (.emit _) => some ()
 | .step (.enterStep _ _) => some ()
 | .step (.handler _) => some (.output (.json .null))
 | .newRunID => some "run"
 | .now => some (10 : Int)
 | _ => none

def answerStore : (o : SchedulerOp) → SchedulerState → Option (o.Reply × SchedulerState)
 | .runtime (.repo (.saveSchedule v)), s =>
  let (r, store) := saved s.store (StoreTables.saveSchedule {} s.store v)
  some (r, { s with store })
 | .runtime o, s => (reportReply o).map fun r => (r, s)
 | .listSchedules f q, s => some (StoreTables.listSchedules {} s.store f q, s)
 | .claimInflight id, s => some (!s.inflight id, { s with inflight := put s.inflight id true })
 | .markInflight id, s => some ((), { s with inflight := put s.inflight id true })
 | .clearInflight id, s => some ((), { s with inflight := put s.inflight id false })
 | .transaction body, s =>
  match body.run applyHistory s.store with
  | (.ok (), store) => some (.ok (), { s with store })
  | (.error e, _) => some (.error e, s)

def save (v : ScheduleRecord) : TickProg := do
 let _ ← schedulerOp (.runtime (.repo (.saveSchedule v)))
 .ret ({}, none)

def pause : TickProg := save { job with paused := true }

lemma answerStore_step {o s u r} (h:answerStore o s=some (r,u)) : storeWorld.step s o r u := by
 unfold answerStore at h
 split at h
 · next v =>
    cases hsave : StoreTables.saveSchedule {} s.store v with
    | error e =>
     rw [hsave] at h
     cases h
     exact ⟨⟨rfl,rfl,fun _ hid=>hid⟩,rfl⟩
    | ok store =>
     rw [hsave] at h
     cases h
     refine ⟨⟨rfl,?_⟩,hsave⟩
     rw [saveSchedule_schedules hsave]
     exact ⟨rfl,fun id hid=>SchedulerRows.isSome_insert v hid⟩
 · next o hwrite =>
    obtain ⟨r,hr,hru⟩:=Option.map_eq_some_iff.mp h
    cases hru
    refine ⟨⟨rfl,rfl,fun _ hid=>hid⟩,?_⟩
    unfold StoreBacked
    split
    · contradiction
    · next heq _ => exact (hwrite _ (SchedulerOp.runtime.inj heq)).elim
    · exact id
    · trivial
 · cases h
   exact ⟨rfl,fun page hpage=>hpage⟩
 · cases h
   exact ⟨⟨rfl,rfl⟩,trivial⟩
 · cases h
   exact ⟨rfl,trivial⟩
 · cases h
   exact ⟨rfl,trivial⟩
 · next body =>
    split at h
    · next store hbody =>
       cases h
       have hreply:=congrArg Prod.fst hbody
       have hstore:=congrArg Prod.snd hbody
       exact ⟨⟨hreply,by rw [hstore]⟩,trivial⟩
    · cases h
      exact ⟨rfl,trivial⟩

lemma jobDue_filed : Filed jobDue.store :=
 filed_insert (t := (∅ : Table String ScheduleRecord)) (v := job) fun _ _ h=>by cases h

section

-- Runs on fixed inputs are computed, through the search for missed occurrences.
attribute [local semireducible] collectMissed

/-- A tick alone keeps what is set for the schedule that it fires. -/
-- The operator sets another policy before the tick lists the schedule.
theorem job_kept : ∃ before body u qs d e listed,
  PoolRun storeWorld jobDue [tick sixtieth 10, save { job with concurrency := .allow }]
   (before ++ [(0, ⟨.transaction body, .ok ()⟩)]) u qs ∧
  (1, edit { job with concurrency := .allow }) ∈ before ∧
  storedSettings u "job" = some (settings { job with concurrency := .allow }) ∧
  storeWorld.step d (.transaction body) (.ok ()) e ∧
  storedSettings e listed.id = some (settings listed) := by
 have hevents:∃ before body es u qs,
   schedule (fun _=>answerStore) (1 :: List.replicate 18 0) jobDue
    [tick sixtieth 10,save { job with concurrency := .allow }] = (es,u,qs) ∧
   es = before ++ [(0,⟨.transaction body,.ok ()⟩)] ∧
   before.head? = some (1,edit { job with concurrency := .allow }) ∧
   storedSettings u "job" = some (settings { job with concurrency := .allow }) :=
  ⟨[_,_,_,_,_,_,_,_,_,_,_,_,_,_,_,_,_,_],_,_,_,_,rfl,rfl,rfl,rfl⟩
 obtain ⟨before,body,es,u,qs,hschedule,rfl,hedit,hstored⟩:=hevents
 have hrun:=PoolRun.of_schedule (fun _ _ _ _ _ h=>answerStore_step h) hschedule
 obtain ⟨_,_,_,_,d,_,e,_,_,_,listed,-,-,-,hstep,-,-,-,-,hset,-⟩ :=
  tick_keeps_edits sixtieth 10 _ jobDue_filed hrun
 exact ⟨before,body,u,qs,d,e,listed,hrun,List.mem_of_mem_head? hedit,hstored,hstep,hset⟩

theorem pause_overwritten : ∃ before mid body u qs,
  PoolRun storeWorld jobDue [tick sixtieth 10, pause]
   (before ++ (1, edit { job with paused := true }) ::
    (mid ++ [(0, ⟨.transaction body, .ok ()⟩)])) u qs ∧
  (0, ⟨.runtime (.step (.enterStep "write" true)), ()⟩) ∈ before ∧
  (∃ call r, (0, ⟨.runtime (.step (.handler call)), r⟩) ∈ mid) ∧
  storedSettings u "job" = some (settings job) ∧
  settings { job with paused := true } ≠ settings job := by
 have hevents:∃ before mid body es u qs,
   schedule (fun _=>answerStore) (List.replicate 10 0 ++ 1 :: List.replicate 8 0) jobDue
    [tick sixtieth 10,pause] = (es,u,qs) ∧
   es = before ++ (1,edit { job with paused := true }) ::
    (mid ++ [(0,⟨.transaction body,.ok ()⟩)]) ∧
   before[9]? = some (0,⟨.runtime (.step (.enterStep "write" true)),()⟩) ∧
   (∃ call r, mid[1]? = some (0,⟨.runtime (.step (.handler call)),r⟩)) ∧
   storedSettings u "job" = some (settings job) :=
  ⟨[_,_,_,_,_,_,_,_,_,_],[_,_,_,_,_,_,_],_,_,_,_,rfl,rfl,rfl,
   ⟨_,_,rfl⟩,rfl⟩
 obtain ⟨before,mid,body,es,u,qs,hschedule,rfl,henter,⟨call,r,hcall⟩,hset⟩:=hevents
 have hrun:=PoolRun.of_schedule (fun _ _ _ _ _ h=>answerStore_step h) hschedule
 have hchanged:settings { job with paused := true } ≠ settings job := by
  intro heq
  have hpaused:=congrArg ScheduleRecord.paused heq
  cases hpaused
 exact ⟨before,mid,body,u,qs,hrun,List.mem_of_getElem? henter,
  ⟨call,r,List.mem_of_getElem? hcall⟩,hset,hchanged⟩

end

end Lebro.ScheduleEdits
