import Lebro.TaskGoroutines

set_option autoImplicit false

namespace Lebro.TaskLifecycles

open EffectProgram EffectPool EffectRuns RuntimeTypes TaskService TaskStore TaskGoroutines

lemma sound_fresh {records:List TaskRecord} : Sound (.fresh records) where
 filed := by
  intro id record h
  have hfound:records.find? (fun record=>record.id=id)=some record:=h
  have hid:=List.find?_some hfound
  exact of_decide_eq_true hid
 absent _ := rfl
 unleased _ _ _ := rfl

def programs (gs : List Goroutine) : List (TaskProg Unit) := gs.map Goroutine.program

variable {o:TaskOp} {r:o.Reply}

section

variable {timely calm:Prop} {s u:TaskState} {ps qs:List (TaskProg Unit)}
 {es:List (PoolEvent TaskSig)}

def Seated (timely calm : Prop) (s : TaskState) (ps : List (TaskProg Unit)) : Prop :=
 Sound s ∧ ∀ (i : ℕ) (p : TaskProg Unit), ps[i]? = some p →
  ∃ v, rely v s ∧ wp (shared timely calm) p (fun _ _ => True) v

lemma seated_fresh (records gs) : Seated timely calm (.fresh records) (programs gs) := by
 refine ⟨sound_fresh,?_⟩
 intro i p hp
 obtain ⟨g,-,rfl⟩:=List.mem_map.mp (List.mem_of_getElem? hp)
 exact ⟨_,fun h=>⟨h,.refl _⟩,shared_goroutine g (sound_fresh)⟩

lemma rely_of_guarantee {m w} (h:(careful timely calm).step m o r w)
  (hg:guarantee timely calm m o r w) : rely m w := by
 intro hm
 exact ⟨(hg hm).sound,step_later h.1 (hg hm).kept⟩

lemma Seated.run (hs:Seated timely calm s ps) (h:PoolRun (careful timely calm) s ps es u qs) :
  PoolRun (guarded (careful timely calm) (guarantee timely calm)) s ps es u qs ∧
   Later s u ∧ Seated timely calm u qs := by
 obtain ⟨hrun,hrely,hrest⟩:=h.guarantees (R := rely) (G := guarantee timely calm)
  (Q := fun _ _ _=>True) (fun _ h=>⟨h,.refl _⟩)
  (fun _ _ _ h h' hv=>⟨(h' (h hv).1).1,(h hv).2.trans (h' (h hv).1).2⟩)
  (fun _ _ _ _=>rely_of_guarantee) hs.2
 exact ⟨hrun,(hrely hs.1).2,(hrely hs.1).1,hrest⟩

lemma Seated.step (hs:Seated timely calm s ps) {i:ℕ} {k} (hi:ps[i]? = some (.ask o k))
  (h:(careful timely calm).step s o r u) : Keeps timely calm s o u := by
 obtain ⟨v,hrely,hdemand,-⟩:=hs.2 i _ hi
 exact hdemand s r u hrely h hs.1

end

structure Scene where
 clock : ℕ → Time
 down : ℕ → Caller → Bool
 renews : ℕ → Nat
 ends : ℕ → RunReply

def storeDown : TaskErr := .new "store down"

def answerTask (scene : Scene) (i : ℕ) : (o : TaskOp) → TaskState → Option (o.Reply × TaskState)
 | .createTask record, m =>
  match m.tasks record.id with
  | none => some (.ok (), m.put record)
  | some _ => some (.error errTaskConflict, m)
 | .getTask caller id, m =>
  if scene.down i caller then some (.error storeDown, m)
  else
   match m.tasks id with
   | some record => some (.ok record, m)
   | none => some (.error storeDown, m)
 | .updateTask caller record, m =>
  match m.tasks record.id with
  | some old =>
   if old.version = record.version then
    some (.ok (), (m.write record).won record.id caller (.ok ()))
   else some (.error errTaskConflict, m)
  | none => some (.error storeDown, m)
 | .listWorkingTasks, m => some (.ok (m.tasks "task").toList, m)
 | .now _, m => some (scene.clock i, m)
 | .identity, m => some (.ok .empty, m)
 | .newID, m => some (.ok "task", m)
 | .authorize _, m => some (none, m)
 | .cancelHook _, m => some (none, m)
 | .onConflict _, m => some ((), m)
 | .withCancel process id, m =>
  match m.targets i with
  | none => some (i, m.register process id i)
  | some _ => none
 | .deleteCancel process id, m => some ((), m.unregister process id)
 | .cancelLocal process id, m => some ((), m.cancelLocal process id)
 | .cancelRun e, m => some ((), m.cancel e)
 | .backoff _, m => some (false, m)
 | .window, m => some (false, m)
 | .startRenewal e, m => some ((), m.renewal e .started)
 | .awaitRenewal, m =>
  match m.renewals (scene.renews i), m.targets (scene.renews i) with
  | .started, some id => some ((scene.renews i, id), m.renewal (scene.renews i) .running)
  | _, _ => none
 | .tick e, m => some (m.cancelled e, m)
 | .closeRenewal e, m => some ((), m.renewal e .closed)
 | .joinRenewal e, m =>
  match m.renewals e with
  | .closed => some ((), m)
  | _ => none
 | .restoreContext _ _, m => some (.ready, m)
 | .run e _, m => some (scene.ends i, m.ended e (scene.ends i))

lemma answerTask_step (scene) (i:ℕ) (o m r u) (h:answerTask scene i o m=some (r,u)) :
  taskWorld.step m o r u := by
 cases o with
 | createTask record =>
  simp only [answerTask] at h
  split at h
  · rename_i habsent
    cases h
    exact .inl ⟨habsent,rfl⟩
  · cases h
    exact .inr ⟨⟨_,rfl⟩,rfl⟩
 | getTask caller id =>
  simp only [answerTask] at h
  split at h
  · cases h
    exact rfl
  · split at h
    · rename_i hrecord
      cases h
      exact ⟨hrecord,rfl⟩
    · cases h
      exact rfl
 | updateTask caller record =>
  simp only [answerTask] at h
  split at h
  · rename_i old hold
    split at h
    · rename_i hversion
      cases h
      exact .inl ⟨⟨old,hold,hversion⟩,rfl⟩
    · cases h
      exact .inr ⟨⟨_,rfl⟩,rfl⟩
  · cases h
    exact .inr ⟨⟨_,rfl⟩,rfl⟩
 | withCancel process id =>
  simp only [answerTask] at h
  split at h
  · rename_i hfree
    cases h
    exact ⟨hfree,rfl⟩
  · cases h
 | awaitRenewal =>
  simp only [answerTask] at h
  split at h
  · rename_i hstarted htarget
    cases h
    exact ⟨hstarted,htarget,rfl⟩
  · cases h
 | joinRenewal e =>
  simp only [answerTask] at h
  split at h
  · rename_i hclosed
    cases h
    exact ⟨hclosed,rfl⟩
  · cases h
 | backoff e =>
  cases h
  exact ⟨(fun h=>by cases h),rfl⟩
 | tick e =>
  cases h
  exact ⟨id,rfl⟩
 | _ =>
  cases h
  exact rfl

def scheduled (scene : Scene) (order : List ℕ) (s : TaskState) (ps : List (TaskProg Unit)) :
  List (PoolEvent TaskSig) × TaskState × List (TaskProg Unit) :=
 schedule (answerTask scene) order s ps

lemma scheduled_run (scene order s ps) :
  PoolRun taskWorld s ps (scheduled scene order s ps).1 (scheduled scene order s ps).2.1
   (scheduled scene order s ps).2.2 :=
 schedule_run (answerTask_step scene) order s ps

def server (process : Nat) : Service := ⟨process, ⟨0, 0, 0, false, true, fun _ => true⟩⟩

def orphan : TaskRecord where
 id := "task"
 entryID := "agent"
 arguments := .empty
 identity := .empty
 status := .working
 statusMessage := ""
 result := none
 failure := .empty
 createdAt := 0
 lastUpdatedAt := 0
 ttlMs := none
 pollIntervalMs := 1000
 leaseUntil := none
 version := 1

def recoveries : List Goroutine :=
 [.recovery (server 0) 0, .recovery (server 1) 0, .renewal (server 0) 2]

def outage : Scene where
 clock i := if i = 1 then 31 * 1000 * nanosPerMilli else 0
 down i _ := i == 2
 renews _ := 0
 ends _ := .returned none (some ⟨"context canceled", [.canceled], none⟩)

/-- Once a stored task is terminal, no run of the servers changes it any more. -/
def TerminalAbsorbing (s : TaskState) (ps : List (TaskProg Unit)) : Prop :=
 ∀ es u qs fs w rs id record, PoolRun taskWorld s ps es u qs → PoolRun taskWorld u qs fs w rs →
  u.tasks id = some record → record.status.terminal = true → w.tasks id = some record

lemma careful_of_step {m w} (h:taskWorld.step m o r w) : (careful False False).step m o r w :=
 ⟨h,False.elim,False.elim⟩

theorem terminal_tasks_absorbing (records : List TaskRecord) (gs : List Goroutine) :
  TerminalAbsorbing (.fresh records) (programs gs) := by
 intro es u qs fs w rs id record hbefore hafter hrecord hterminal
 have hfresh:Seated False False (.fresh records) (programs gs) := seated_fresh records gs
 have hstart:=hfresh.run (hbefore.mono fun _ _ _ _=>careful_of_step)
 have hend:=hstart.2.2.run (hafter.mono fun _ _ _ _=>careful_of_step)
 exact hend.2.1.kept hrecord hterminal

def Executing (qs : List (TaskProg Unit)) (id : TaskID) (e : Nat) : Prop :=
 ∃ (i : ℕ) (record : TaskRecord) (k : RunReply → TaskProg Unit),
  qs[i]? = some (.ask (S := TaskSig) (.run e record) k) ∧ record.id = id

/-- No two executions of a task call its handler at the same time under live run contexts. -/
def Exclusive (W : Monitor TaskSig TaskState) (s : TaskState) (ps : List (TaskProg Unit)) : Prop :=
 ∀ es u qs id e f, PoolRun W s ps es u qs → Executing qs id e → u.cancelled e = false →
  Executing qs id f → u.cancelled f = false → e = f

lemma Seated.executing {timely:Prop} {s ps id e} (hs:Seated timely False s ps)
  (h:Executing ps id e) : e ∈ s.holders id := by
 obtain ⟨i,record,k,hi,rfl⟩:=h
 have hended:(careful timely False).step s (.run e record) .panicked (s.ended e .panicked):=
  ⟨rfl,fun _=>trivial,False.elim⟩
 exact (hs.step hi hended).runs rfl

def OneLive (m : TaskState) : Prop := ∀ id e f, m.Live id e → m.Live id f → e = f

lemma new_holder_unique {m u:TaskState} {id e f} (h:m.Step o r u) (he:e ∈ u.holders id)
  (he':e ∉ m.holders id) (hf:f ∈ u.holders id) (hf':f ∉ m.holders id) : e=f := by
 rcases step_cases h with h | ⟨record,-,-,rfl⟩ | ⟨caller,record,saved,-,-,rfl⟩
 · exact (he' (h.holders ▸ he)).elim
 · exact (he' he).elim
 · rcases mem_holders_won he with he | ⟨-,target,hcaller⟩
   · exact (he' he).elim
   · rcases mem_holders_won hf with hf | ⟨-,target',hcaller'⟩
     · exact (hf' hf).elim
     · rw [hcaller] at hcaller'
       cases hcaller'
       rfl

lemma oneLive_step {calm:Prop} {m u} (hm:OneLive m) (h:m.Step o r u)
  (hkeeps:Keeps True calm m o u) : OneLive u := by
 have hlater:=step_later h hkeeps.kept
 have halive:∀ e,u.cancelled e=false → m.cancelled e=false:=by
  intro e he
  cases hcancelled : m.cancelled e with
  | false => rfl
  | true => exact absurd (hlater.cancelled hcancelled) (by rw [he]; decide)
 intro id e f he hf
 by_cases heold : e ∈ m.holders id
 · by_cases hfold : f ∈ m.holders id
   · exact hm id e f ⟨heold,halive e he.2⟩ ⟨hfold,halive f hf.2⟩
   · exact (hkeeps.claims hf.1 hfold trivial e ⟨heold,halive e he.2⟩).elim
 · by_cases hfold : f ∈ m.holders id
   · exact (hkeeps.claims he.1 heold trivial f ⟨hfold,halive f hf.2⟩).elim
   · exact new_holder_unique h he.1 heold hf.1 hfold

abbrev timelyWorld : Monitor TaskSig TaskState := careful True False

theorem one_run_at_a_time (records : List TaskRecord) (gs : List Goroutine) :
  Exclusive timelyWorld (.fresh records) (programs gs) := by
 intro es u qs id e f hrun he helive hf hflive
 have hstart:Seated True False (.fresh records) (programs gs) := seated_fresh records gs
 obtain ⟨hguarded,-,hend⟩:=hstart.run hrun
 have hone:Sound u ∧ OneLive u := by
  refine hguarded.invariant (fun _ m _=>Sound m ∧ OneLive m) ?_ ?_
  · exact ⟨sound_fresh,fun _ _ _ he=>by cases he.1⟩
  · rintro _ m _ _ o _ r w ⟨hm,hlive⟩ _ ⟨⟨hstep,-⟩,hguarantee⟩
    exact ⟨(hguarantee hm).sound,oneLive_step hlive hstep (hguarantee hm)⟩
 exact hone.2 id e f ⟨hend.executing he,helive⟩ ⟨hend.executing hf,hflive⟩

def claimedInTime : (o : TaskOp) → TaskState → o.Reply → Bool
 | .now (.claim _ id), m, now =>
  match m.tasks id with
  | some record => record.leaseUntil.all fun until_ => now < until_
  | none => true
 | _, _, _ => true

lemma timely_of_claimedInTime (o m) (r:o.Reply) (h:claimedInTime o m r=true) : Timely m o r := by
 unfold Timely
 split
 · rename_i e id now
   intro _ record until_ _ hrecord _ huntil
   simp only [claimedInTime,hrecord,huntil] at h
   exact of_decide_eq_true h
 · trivial

/-- The second server finds the lease of the first one alive. -/
theorem claimed_task_runs_alone : ∃ es u qs,
  PoolRun timelyWorld (.fresh [orphan]) (programs recoveries) es u qs ∧ Executing qs "task" 0 ∧
  u.cancelled 0 = false ∧ ∀ f, Executing qs "task" f → u.cancelled f = false → f = 0 := by
 have hrun:=passing_run (W := taskWorld) (G := fun m o r _ =>
   (True → Timely m o r) ∧ (False → Calm m o r)) (answerTask_step { outage with clock := fun _=>0 })
  (fun o m r _ h=>⟨fun _=>timely_of_claimedInTime o m r h,False.elim⟩)
  (List.replicate 9 0 ++ List.replicate 8 2 ++ List.replicate 10 1) (.fresh [orphan])
  (programs recoveries)
 refine ⟨_,_,_,hrun,⟨0,_,_,rfl,rfl⟩,rfl,fun f hf hlive=>?_⟩
 exact one_run_at_a_time [orphan] recoveries _ _ _ "task" f 0 hrun hf hlive ⟨0,_,_,rfl,rfl⟩ rfl

/-- The first server claims and calls the handler, its renewer fails once, and the second server
finds the lease lapsed. -/
def lapse : List ℕ := List.replicate 9 0 ++ List.replicate 8 2 ++ List.replicate 10 1

theorem two_runs_at_a_time : ¬ Exclusive taskWorld (.fresh [orphan]) (programs recoveries) := by
 intro h
 have hrun:=scheduled_run outage lapse (.fresh [orphan]) (programs recoveries)
 have hfirst:Executing (scheduled outage lapse (.fresh [orphan]) (programs recoveries)).2.2
   "task" 0 := ⟨0,_,_,rfl,rfl⟩
 have hsecond:Executing (scheduled outage lapse (.fresh [orphan]) (programs recoveries)).2.2
   "task" 1 := ⟨1,_,_,rfl,rfl⟩
 exact absurd (h _ _ _ "task" 0 1 hrun hfirst rfl hsecond rfl) (by decide)

/-- Every step that stores a task as cancelled is a cancel request's or follows a handler's own
report. -/
def CancelledOnRequest (W : Monitor TaskSig TaskState) (s : TaskState)
  (ps : List (TaskProg Unit)) : Prop :=
 ∀ es m qs (i : ℕ) (o : TaskOp) (k : o.Reply → TaskProg Unit) (r : o.Reply) u id before after,
  PoolRun W s ps es m qs → qs[i]? = some (.ask o k) → W.step m o r u →
  m.tasks id = some before → before.status ≠ .cancelled → u.tasks id = some after →
  after.status = .cancelled → Cancels m id o

abbrev calmWorld : Monitor TaskSig TaskState := careful False True

theorem tasks_cancelled_on_request (records : List TaskRecord) (gs : List Goroutine) :
  CancelledOnRequest calmWorld (.fresh records) (programs gs) := by
 intro es m qs i o k r u id before after hrun hi hstep hbefore hstatus hafter hcancelled
 have hstart:Seated False True (.fresh records) (programs gs) := seated_fresh records gs
 have hkeeps:=(hstart.run hrun).2.2.step hi hstep
 exact hkeeps.cancels hbefore hstatus hafter hcancelled trivial

def reportsCalmly : (o : TaskOp) → TaskState → o.Reply → Bool
 | .run e _, m, r => !(TaskState.canceledBy r && m.cancelled e)
 | .restoreContext _ _, _, .failed err => !err.is .canceled
 | _, _, _ => true

lemma calm_of_reportsCalmly (o m) (r:o.Reply) (h:reportsCalmly o m r=true) : Calm m o r := by
 unfold Calm
 split
 · rename_i e record r
   intro hcanceled hcancelled
   simp [reportsCalmly,hcanceled,hcancelled] at h
 · exact (Bool.not_eq_true' _).mp h
 · trivial

def cancelling : List Goroutine := [.recovery (server 0) 0, .cancel (server 0) true "task"]

def requested : List (PoolEvent TaskSig) × TaskState × List (TaskProg Unit) :=
 schedule (passing reportsCalmly (answerTask outage)) (List.replicate 9 0 ++ List.replicate 3 1)
  (.fresh [orphan]) (programs cancelling)

/-- A request cancels the task while the server runs its handler. -/
theorem cancelled_by_request : ∃ record k u,
  PoolRun calmWorld (.fresh [orphan]) (programs cancelling) requested.1 requested.2.1
   requested.2.2 ∧ Executing requested.2.2 "task" 0 ∧
  requested.2.2[1]? = some (.ask (S := TaskSig) (.updateTask .request record) k) ∧
  calmWorld.step requested.2.1 (.updateTask .request record) (.ok ()) u ∧
  (u.tasks "task").map TaskRecord.status = some .cancelled ∧
  Cancels requested.2.1 "task" (.updateTask .request record) := by
 have hG (o : TaskOp) (m : TaskState) (r : o.Reply) (h : reportsCalmly o m r = true) :
   (False → Timely m o r) ∧ (True → Calm m o r) :=
  ⟨False.elim,fun _=>calm_of_reportsCalmly o m r h⟩
 have hrun:PoolRun calmWorld (.fresh [orphan]) (programs cancelling) requested.1 requested.2.1
   requested.2.2 := passing_run (answerTask_step outage) (fun o m r _=>hG o m r) ..
 have hstep:calmWorld.step requested.2.1 (.updateTask .request (cancelledRecord
   { orphan with leaseUntil := some (30 * 1000 * nanosPerMilli), version := 2 }
   (31 * 1000 * nanosPerMilli))) (.ok ()) _ :=
  ⟨answerTask_step outage 1 _ requested.2.1 _ _ rfl,hG _ _ _ rfl⟩
 refine ⟨_,_,_,hrun,⟨0,_,_,rfl,rfl⟩,rfl,hstep,rfl,?_⟩
 exact tasks_cancelled_on_request [orphan] cancelling _ _ _ 1 _ _ _ _ "task" _ _ hrun rfl hstep
  rfl (by decide) rfl rfl

/-- The renewer of the first server gives the lease up, the second server claims the task, and the
first one's handler answers the cancellation of its context. -/
def giveAway : List ℕ :=
 List.replicate 9 0 ++ List.replicate 17 2 ++ List.replicate 10 1 ++ List.replicate 5 0

theorem lost_lease_cancels_task :
  ¬ CancelledOnRequest taskWorld (.fresh [orphan]) (programs recoveries) ∧
  ∃ es u qs record, PoolRun taskWorld (.fresh [orphan]) (programs recoveries) es u qs ∧
   Executing qs "task" 1 ∧ u.cancelled 1 = false ∧ u.tasks "task" = some record ∧
   record.status = .cancelled := by
 refine ⟨fun h=>?_,?_⟩
 · have hrun:=scheduled_run outage giveAway (.fresh [orphan]) (programs recoveries)
   have hcancels:=h _ _ _ 0 _ _ _ _ "task" _ _ hrun rfl
    (answerTask_step outage 0 _ _ _ _ rfl) rfl (by decide) rfl rfl
   rcases hcancels with ⟨record,ho,-⟩ | ⟨e,record,ho,-,halone⟩
   · cases ho
   · cases halone
 · exact ⟨_,_,_,_,scheduled_run outage (giveAway ++ [0]) (.fresh [orphan])
    (programs recoveries),⟨1,_,_,rfl,rfl⟩,rfl,rfl,rfl⟩

end Lebro.TaskLifecycles
