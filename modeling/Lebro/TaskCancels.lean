import Lebro.EffectTurns
import Lebro.TaskOutcomes

set_option autoImplicit false

namespace Lebro.TaskCancels

open EffectProgram EffectPool EffectRuns EffectTurns TaskService TaskStore TaskGoroutines
open TaskLifecycles TaskOutcomes Function

variable {o:TaskOp} {r:o.Reply} {m u:TaskState} {s:Service}

structure Entry where
 process : Nat
 execution : Option (TaskID × Nat) := none

variable {t:Entry}

/-- Inside an execution the table stays as it is, and the handler runs for the task of the entry. -/
def Within (t : Entry) (o : TaskOp) : Prop :=
 Spares [.table] o ∧ ∀ e record, o = .run e record → t.execution = some (record.id, e)

lemma within_of_inside (o) (h:Inside o) : Within t o := by
 refine ⟨h.mono (by decide),?_⟩
 rintro e record rfl
 exact absurd h Bool.false_ne_true

section

variable {α:Type} {p:TaskProg α} {e:Nat}

lemma asks_within (hp:Asks Steady p) : Asks (Within t) p :=
 (asks_sparing hp (by decide)).mono within_of_inside

def Filed (m : TaskState) : Prop := ∀ id record, m.tasks id = some record → record.id = id

lemma Filed.put {record} (h:Filed m) : Filed (m.put record) := by
 intro id stored hstored
 by_cases hid : id=record.id
 · subst hid
   rw [m.tasks_put_self] at hstored
   exact Option.some.inj hstored ▸ rfl
 · exact h id stored (m.tasks_put_of_ne hid ▸ hstored)

lemma Filed.step (h:Filed m) (hstep:m.Step o r u) : Filed u := by
 rcases step_cases hstep with hquiet | ⟨record,-,-,rfl⟩ | ⟨caller,record,saved,-,-,rfl⟩
 · exact fun id record hrecord=>h id record (hquiet.tasks ▸ hrecord)
 · exact h.put
 · rw [Filed,tasks_won]
   exact h.put

def entries : Turns TaskSig TaskState Entry where
 between _ _ m := Filed m
 moves
  | t, _, .withCancel process id, e, _, t' =>
   t = { process } ∧ t' = { process, execution := some (id, e) }
  | t, _, .deleteCancel process id, _, _, t' =>
   (∃ e, t = { process, execution := some (id, e) }) ∧ t' = { process }
  | t, _, o, _, _, t' => Within t o ∧ t' = t

/-- No execution begins in a process that has an entry for its task. -/
def apartWorld : Monitor TaskSig TaskState :=
 guarded taskWorld fun m o _ _ => ∀ process id, o = .withCancel process id →
  m.cancels process id = none

lemma moves_within (ho:Within t o) : entries.moves t m o r u t := by
 cases o with
 | withCancel process id | deleteCancel process id => exact absurd ho.1 Bool.false_ne_true
 | _ => exact ⟨ho,rfl⟩

lemma turn_within (hp:Asks (Within t) p) :
  turn apartWorld entries p (fun _ t' _=>t'=t) t m := by
 refine turn_of_asks hp (fun t' _=>t'=t) ?_ rfl
 rintro _ s m o r u ho rfl - -
 exact ⟨_,moves_within ho,rfl⟩

lemma asks_runHandler {current} (ht:t.execution=some (current.id,e)) :
  Asks (Within t) (runHandler s e current) := by
 have hrun:Within t (.run e current):=by
  refine ⟨rfl,?_⟩
  rintro _ _ ⟨⟩
  exact ht
 refine asks_perform hrun fun ended=>asks_bind (asks_within asks_stopRenewal) fun _=>?_
 exact asks_finish.mono within_of_inside

-- the record that the handler gets is read after the claim: the store has it under the same ID
lemma turn_executeClaimed {record} (ht:t.execution=some (record.id,e)) :
  turn apartWorld entries (executeClaimed s e record) (fun _ t' _=>t'=t) t m := by
 have hstop:Asks (Within t) (stopRenewal e):=asks_within asks_stopRenewal
 have hfailed (current err) : Asks (Within t) (restoreFailed s e current err) :=
  asks_bind hstop fun _=>asks_finish.mono within_of_inside
 refine turn_perform fun m _ u _ _=>⟨t,moves_within (within_of_inside _ rfl),?_⟩
 refine turn_perform fun m current u hfiled hstep=>⟨t,moves_within (within_of_inside _ rfl),turn_within ?_⟩
 cases current with
 | error err => exact asks_bind hstop fun _=>asks_within asks_onConflict
 | ok current =>
  have hid:current.id=record.id:=hfiled _ _ hstep.1.1
  refine asks_ite hstop (asks_perform (within_of_inside _ rfl) fun restored=>?_)
  cases restored with
  | ready => exact asks_runHandler (hid ▸ ht)
  | missing | failed err => exact hfailed current _

lemma turn_executeBody {record} (ht:t.execution=some (record.id,e)) :
  turn apartWorld entries (executeBody s e record) (fun _ t' _=>t'=t) t m := by
 apply turn_seq (turn_within (asks_claimAttempts.mono within_of_inside))
 rintro won _ u rfl
 cases won with
 | error err => exact turn_within (asks_within asks_onConflict)
 | ok won =>
  cases won with
  | false => rfl
  | true => exact turn_executeClaimed ht

lemma turn_execute (record) :
  turn apartWorld entries (execute s record) (fun _ _ _=>True) { process := s.process } m := by
 refine turn_perform fun _ e u _ _=>⟨_,⟨rfl,rfl⟩,?_⟩
 apply turn_seq (turn_executeBody rfl)
 rintro _ _ v rfl
 refine turn_perform fun _ _ w _ _=>⟨_,moves_within (within_of_inside _ rfl),?_⟩
 exact fun _ _ _ _ _=>⟨_,⟨⟨e,rfl⟩,rfl⟩,trivial⟩

lemma turn_goroutine (g) : turn apartWorld entries g.program (fun _ _ _=>True)
  { process := (service g).process } m := by
 cases g with
 | create s entryID arguments =>
  apply turn_seq (turn_within (asks_within asks_create))
  rintro created _ _ rfl
  cases created with
  | error err => trivial
  | ok record => exact turn_execute record
 | recovery s index =>
  apply turn_seq (turn_within (asks_within asks_recoverWorking))
  rintro launched _ _ rfl
  cases launched with
  | error err => trivial
  | ok records =>
   dsimp only
   split
   · exact turn_execute _
   · trivial
 | renewal s ticks =>
  have hasks:Asks Inside (renewLease s ticks):=
   asks_perform rfl fun _=>asks_renewTicks
  exact turn_mono (turn_within (hasks.mono within_of_inside)) fun _ _ _ _=>trivial
 | cancel s negotiated id =>
  have hasks:Asks Inside (cancelRequest s negotiated id):=
   asks_bind (asks_ite asks_cancelAttempts asks_ret) fun _=>asks_ret
  exact turn_mono (turn_within (hasks.mono within_of_inside)) fun _ _ _ _=>trivial

end

lemma step_keeps_cancels (h:m.Step o r u) (ho:Spares [.table] o) : u.cancels=m.cancels := by
 cases o with
 | withCancel process id | deleteCancel process id => exact absurd ho Bool.false_ne_true
 | createTask record =>
  rcases h with ⟨-,rfl⟩ | ⟨-,rfl⟩
  · rfl
  · rfl
 | updateTask caller record =>
  rcases h with ⟨-,rfl⟩ | ⟨-,rfl⟩
  · rcases won_eq (m.write record) record.id caller r with hwon | ⟨f,id,-,hwon⟩
    · rw [hwon]
      rfl
    · rw [hwon]
      rfl
  · rfl
 | getTask caller id =>
  cases r with
  | error err => exact congrArg _ h
  | ok record => exact congrArg _ h.2
 | cancelLocal process id =>
  cases h
  unfold TaskState.cancelLocal
  split <;> rfl
 | run e record =>
  cases h
  unfold TaskState.ended
  split <;> rfl
 | awaitRenewal =>
  cases h.2.2
  rfl
 | backoff e | tick e | joinRenewal e => exact congrArg _ h.2
 | _ =>
  cases h
  rfl

/-- The registered executions have their entries, and no two of them share one. -/
def Registered (process : ℕ → Nat) (es : List (PoolEvent TaskSig)) (ph : ℕ → Entry)
  (m : TaskState) : Prop :=
 ∀ i, (ph i).process = process i ∧ ∀ id e, (ph i).execution = some (id, e) →
  (i, ⟨.withCancel (process i) id, e⟩) ∈ es ∧ m.cancels (process i) id = some e ∧
  ∀ j f, process j = process i → (ph j).execution = some (id, f) → j = i

section

variable {process:ℕ → Nat} {es:List (PoolEvent TaskSig)} {ph:ℕ → Entry} {i:ℕ} {id:TaskID}

lemma Registered.move {x} (h:Registered process es ph m) (hprocess:t.process=process i)
  (hothers:∀ j id e,j ≠ i → (ph j).execution=some (id,e) → u.cancels (process j) id=some e)
  (hown:∀ id e,t.execution=some (id,e) →
   (i,⟨.withCancel (process i) id,e⟩) ∈ es ++ [x] ∧ u.cancels (process i) id=some e ∧
   ∀ j f,j ≠ i → process j=process i → (ph j).execution ≠ some (id,f)) :
  Registered process (es ++ [x]) (update ph i t) u := by
 intro j
 by_cases hji : j=i
 · subst hji
   rw [update_self]
   refine ⟨hprocess,fun id e he=>?_⟩
   obtain ⟨hbegun,hentry,halone⟩:=hown id e he
   refine ⟨hbegun,hentry,fun k f hk hf=>?_⟩
   by_contra hkj
   rw [update_of_ne hkj] at hf
   exact halone k f hkj hk hf
 · rw [update_of_ne hji]
   refine ⟨(h j).1,fun id e he=>?_⟩
   obtain ⟨hbegun,-,halone⟩:=(h j).2 id e he
   refine ⟨List.mem_append_left _ hbegun,hothers j id e hji he,fun k f hk hf=>?_⟩
   by_cases hki : k=i
   · subst hki
     rw [update_self] at hf
     exact absurd he ((hown id f hf).2.2 j e hji hk.symm)
   · rw [update_of_ne hki] at hf
     exact halone k f hk hf

lemma cancels_of_ne {c:Nat → TaskID → Option Nat} {p q id' v e} (h:c q id'=some e)
  (hne:q=p → id' ≠ id) :
  update c p (update (c p) id v) q id'=some e := by
 by_cases hq : q=p
 · subst hq
   rw [update_self,update_of_ne (hne rfl),h]
 · rw [update_of_ne hq,h]

lemma Registered.begin {e} (h:Registered process es ph m)
  (habsent:m.cancels (process i) id=none) :
  Registered process (es ++ [(i,⟨.withCancel (process i) id,e⟩)])
   (update ph i { process := process i, execution := some (id,e) })
   (m.register (process i) id e) := by
 -- an execution that shares the entry would have it in the table already
 have hother (j : ℕ) (f : Nat) (hj : process j=process i) : (ph j).execution ≠ some (id,f) := by
  intro hf
  obtain ⟨-,hentry,-⟩:=(h j).2 id f hf
  rw [hj,habsent] at hentry
  cases hentry
 refine h.move rfl ?_ ?_
 · intro j id' f _ hf
   apply cancels_of_ne ((h j).2 id' f hf).2.1
   rintro hj rfl
   exact hother j f hj hf
 · rintro _ _ ⟨⟩
   refine ⟨List.mem_append_right es (List.mem_singleton_self _),?_,fun j f _=>hother j f⟩
   simp [TaskState.register]

lemma Registered.clear {e x} (h:Registered process es ph m)
  (hi:(ph i).execution=some (id,e)) :
  Registered process (es ++ [x]) (update ph i { process := process i })
   (m.unregister (process i) id) := by
 refine h.move rfl ?_ nofun
 intro j id' f hji hf
 apply cancels_of_ne ((h j).2 id' f hf).2.1
 rintro hj rfl
 exact hji (((h i).2 id' e hi).2.2 j f hj hf)

lemma Registered.stay {x} (h:Registered process es ph m) (hu:u.cancels=m.cancels) :
  Registered process (es ++ [x]) (update ph i (ph i)) u := by
 refine h.move (h i).1 ?_ ?_
 · intro j id e _ he
   rw [hu]
   exact ((h j).2 id e he).2.1
 · intro id e he
   obtain ⟨hbegun,hentry,halone⟩:=(h i).2 id e he
   exact ⟨List.mem_append_left _ hbegun,hu ▸ hentry,fun j f hji hj hf=>hji (halone j f hj hf)⟩

lemma registered_together (process:ℕ → Nat) :
  Together apartWorld entries fun es ph m=>Filed m ∧ Registered process es ph m where
 knows _ hstep _ _ hfiled := hfiled.step hstep.1
 begins h := h.1
 keeps := by
  rintro es ph m i o r u t ⟨hfiled,h⟩ ⟨hstep,hapart⟩ hmoves
  refine ⟨hfiled.step hstep,?_⟩
  have hkept {s} (hs : Within s o) : u.cancels=m.cancels := step_keeps_cancels hstep hs.1
  cases o with
  | withCancel p id =>
   obtain ⟨hi,rfl⟩:=hmoves
   obtain rfl : process i=p := by rw [← (h i).1,hi]
   obtain ⟨-,rfl⟩:=hstep
   exact h.begin (hapart _ id rfl)
  | deleteCancel p id =>
   obtain ⟨⟨e,hi⟩,rfl⟩:=hmoves
   obtain rfl : process i=p := by rw [← (h i).1,hi]
   obtain rfl : u=m.unregister (process i) id := hstep
   exact h.clear (by rw [hi])
  | _ =>
   obtain ⟨hwithin,rfl⟩:=hmoves
   exact h.stay (hkept hwithin)

end

/-- While the handler of an execution runs, the table has the cancel function of its run context
under the ID of its task. -/
def CancelledLocally (W : Monitor TaskSig TaskState) (s : TaskState) (gs : List Goroutine) : Prop :=
 ∀ es u qs (i : ℕ) g e record k, PoolRun W s (programs gs) es u qs → gs[i]? = some g →
  qs[i]? = some (.ask (S := TaskSig) (.run e record) k) →
  (i, ⟨.withCancel (service g).process record.id, e⟩) ∈ es ∧
   u.cancels (service g).process record.id = some e ∧
   (u.cancelLocal (service g).process record.id).cancelled e = true

theorem runs_cancelled_locally (records : List TaskRecord) (gs : List Goroutine) :
  CancelledLocally apartWorld (.fresh records) gs := by
 intro es u qs i g e record k hrun hg hq
 let process (j : ℕ) : Nat := (gs[j]?.map fun g=>(service g).process).getD 0
 have hfiled:Filed (.fresh records) := fun _ _ h=>sound_fresh.filed h
 have hbegin:Registered process [] (fun j=>{ process := process j }) (.fresh records) :=
  fun j=>⟨rfl,nofun⟩
 have hseated:EffectTurns.Seated apartWorld entries (fun j=>{ process := process j })
   (.fresh records) (programs gs) := by
  intro j p hp
  obtain ⟨g,hj,rfl⟩:=Option.map_eq_some_iff.mp (List.getElem?_map ▸ hp)
  have hprocess:process j = (service g).process := by simp [process,hj]
  refine ⟨.fresh records,hfiled,?_⟩
  dsimp only
  rw [hprocess]
  exact turn_goroutine g
 obtain ⟨ph,⟨-,hregistered⟩,hrest⟩ :=
  EffectTurns.Seated.run (registered_together process) hrun hseated ⟨hfiled,hbegin⟩
 obtain ⟨v,hv,hturn⟩:=hrest i _ hq
 obtain ⟨_,⟨⟨-,hid⟩,-⟩,-⟩ :=
  hturn u .panicked (u.ended e .panicked) hv ⟨rfl,fun _ _ h=>by cases h⟩
 obtain ⟨hbegun,hentry,-⟩:=(hregistered i).2 record.id e (hid e record rfl)
 have hprocess:process i = (service g).process := by simp [process,hg]
 rw [hprocess] at hbegun hentry
 refine ⟨hbegun,hentry,?_⟩
 unfold TaskState.cancelLocal
 rw [hentry]
 exact update_self ..

def calm : Scene := { outage with clock := fun _ => 0, down := fun _ _ => false }

def twice : List Goroutine := [.recovery (server 0) 0, .recovery (server 0) 0]

def unregistered : (o : TaskOp) → TaskState → o.Reply → Bool
 | .withCancel process id, m, _ => (m.cancels process id).isNone
 | _, _, _ => true

/-- The recoveries of two processes; the first one has won the claim and runs the handler. -/
theorem recovered_run_cancelled : ∃ es u qs record k,
  PoolRun apartWorld (.fresh [orphan]) (programs recoveries) es u qs ∧
  qs[0]? = some (.ask (S := TaskSig) (.run 0 record) k) ∧ record.id = "task" ∧
  u.cancels 0 "task" = some 0 ∧ (u.cancelLocal 0 "task").cancelled 0 = true := by
 have hapart (o : TaskOp) (m : TaskState) (r : o.Reply) (h : unregistered o m r = true) :
   ∀ process id, o = .withCancel process id → m.cancels process id = none := by
  rintro process id rfl
  exact Option.isNone_iff_eq_none.mp h
 have hrun:=passing_run (W := taskWorld) (answerTask_step calm) (fun o m r _=>hapart o m r)
  (List.replicate 9 0 ++ List.replicate 4 1) (.fresh [orphan]) (programs recoveries)
 refine ⟨_,_,_,_,_,hrun,rfl,rfl,?_⟩
 exact (runs_cancelled_locally [orphan] recoveries _ _ _ 0 _ _ _ _ hrun rfl rfl).2

/-- A second recovery of the process takes the entry over, loses the claim and deletes it, while
the handler of the first one runs. -/
theorem entry_deleted_while_running : ¬ CancelledLocally taskWorld (.fresh [orphan]) twice := by
 intro h
 have hrun:=scheduled_run calm (List.replicate 9 0 ++ List.replicate 6 1) (.fresh [orphan])
  (programs twice)
 obtain ⟨-,hentry,-⟩:=h _ _ _ 0 _ _ _ _ hrun rfl rfl
 exact absurd hentry (by decide)

end Lebro.TaskCancels
