import Lebro.TaskService

set_option autoImplicit false

/-! `UpdateTask` is an atomic write that the stored version must admit. Any store call may fail,
also after it took effect. -/
namespace Lebro.TaskStore

open EffectProgram EffectPool RuntimeTypes TaskService Function

variable {target id:TaskID} {record:TaskRecord} {e:Nat}

inductive Renewal where
 | idle
 | started
 | running
 | closed
deriving DecidableEq

/-- The stored tasks, and per execution its task, its run context and its renewer. `holders` and
`alone` are for the statements. -/
structure TaskState where
 tasks : TaskID → Option TaskRecord
 targets : Nat → Option TaskID
 cancelled : Nat → Bool
 cancels : Nat → TaskID → Option Nat
 renewals : Nat → Renewal
 holders : TaskID → List Nat
 alone : List Nat

variable {s u m v:TaskState}

namespace TaskState

def fresh (records : List TaskRecord) : TaskState where
 tasks id := records.find? fun record => record.id = id
 targets _ := none
 cancelled _ := false
 cancels _ _ := none
 renewals _ := .idle
 holders _ := []
 alone := []

def put (m : TaskState) (record : TaskRecord) : TaskState :=
 { m with tasks := update m.tasks record.id (some record) }

@[simp] lemma tasks_put_self (m:TaskState) (record) :
  (m.put record).tasks record.id=some record :=
 update_self ..
lemma tasks_put_of_ne (m : TaskState) (h : id ≠ record.id) : (m.put record).tasks id=m.tasks id :=
 update_of_ne h ..

def write (m : TaskState) (record : TaskRecord) : TaskState :=
 m.put { record with version := record.version + 1 }

def hold (m : TaskState) (id : TaskID) (e : Nat) : TaskState :=
 { m with holders := update m.holders id (e :: m.holders id) }

def won (m : TaskState) (id : TaskID) : Caller → Except TaskErr Unit → TaskState
 | .claim e _, .ok _ => m.hold id e
 | _, _ => m

def cancel (m : TaskState) (e : Nat) : TaskState :=
 { m with cancelled := update m.cancelled e true }

def register (m : TaskState) (process : Nat) (id : TaskID) (e : Nat) : TaskState :=
 { m with
   targets := update m.targets e (some id)
   cancels := update m.cancels process (update (m.cancels process) id (some e)) }

def unregister (m : TaskState) (process : Nat) (id : TaskID) : TaskState :=
 { m with
   cancels := update m.cancels process (update (m.cancels process) id none) }

def renewal (m : TaskState) (e : Nat) (renewal : Renewal) : TaskState :=
 { m with renewals := update m.renewals e renewal }

def cancelLocal (m : TaskState) (process : Nat) (id : TaskID) : TaskState :=
 match m.cancels process id with
 | some e => m.cancel e
 | none => m

def canceledBy (r : RunReply) : Bool :=
 match r.err with
 | some err => err.is .canceled
 | none => false

def ended (m : TaskState) (e : Nat) (r : RunReply) : TaskState :=
 if canceledBy r && !m.cancelled e then { m with alone := e :: m.alone } else m

def Live (m : TaskState) (id : TaskID) (e : Nat) : Prop := e ∈ m.holders id ∧ m.cancelled e = false

def Admits (m : TaskState) (record : TaskRecord) : Prop :=
 ∃ old, m.tasks record.id = some old ∧ old.version = record.version

end TaskState

def TaskState.Step (m : TaskState) : (o : TaskOp) → o.Reply → TaskState → Prop
 | .createTask record, r, u =>
  (m.tasks record.id = none ∧ u = m.put record) ∨ ((∃ err, r = .error err) ∧ u = m)
 | .getTask _ id, .ok record, u => m.tasks id = some record ∧ u = m
 | .updateTask caller record, r, u =>
  (m.Admits record ∧ u = (m.write record).won record.id caller r) ∨
   ((∃ err, r = .error err) ∧ u = m)
 | .withCancel process id, e, u => m.targets e = none ∧ u = m.register process id e
 | .deleteCancel process id, _, u => u = m.unregister process id
 | .cancelLocal process id, _, u => u = m.cancelLocal process id
 | .cancelRun e, _, u => u = m.cancel e
 | .backoff e, done, u => (done = true → m.cancelled e = true) ∧ u = m
 | .startRenewal e, _, u => u = m.renewal e .started
 | .awaitRenewal, (e, id), u =>
  m.renewals e = .started ∧ m.targets e = some id ∧ u = m.renewal e .running
 | .tick e, done, u => (done = true → m.cancelled e = true) ∧ u = m
 | .closeRenewal e, _, u => u = m.renewal e .closed
 | .joinRenewal e, _, u => m.renewals e = .closed ∧ u = m
 | .run e _, r, u => u = m.ended e r
 | _, _, u => u = m

def taskWorld : Monitor TaskSig TaskState where
 demand _ _ := True
 step := TaskState.Step

structure Sound (m : TaskState) : Prop where
 filed : ∀ {id record}, m.tasks id = some record → record.id = id
 absent : ∀ {id}, m.tasks id = none → m.holders id = []
 unleased : ∀ {id record}, m.tasks id = some record → record.status = .working →
  record.leaseUntil = none → m.holders id = []

structure Later (v s : TaskState) : Prop where
 tasks : ∀ {id record}, v.tasks id = some record → ∃ current, s.tasks id = some current ∧
  (record.version < current.version ∨
   current = record ∧ ∀ e, s.Live id e → v.Live id e)
 kept : ∀ {id record}, v.tasks id = some record → record.status.terminal = true →
  s.tasks id = some record
 targets : ∀ {e id}, v.targets e = some id → s.targets e = some id
 cancelled : ∀ {e}, v.cancelled e = true → s.cancelled e = true
 holders : ∀ {id e}, e ∈ v.holders id → e ∈ s.holders id
 alone : ∀ {e}, e ∈ v.alone → e ∈ s.alone

lemma Later.refl (m:TaskState) : Later m m where
 tasks h := ⟨_,h,.inr ⟨rfl,fun _ hlive=>hlive⟩⟩
 kept h _ := h
 targets h := h
 cancelled h := h
 holders h := h
 alone h := h

lemma Later.trans (h:Later v m) (h':Later m s) : Later v s where
 tasks := by
  intro id record hv
  obtain ⟨middle,hm,hfirst⟩:=h.tasks hv
  obtain ⟨current,hs,hsecond⟩:=h'.tasks hm
  refine ⟨current,hs,?_⟩
  rcases hfirst with hfirst | ⟨rfl,hfirst⟩
  · rcases hsecond with hsecond | ⟨rfl,-⟩
    · exact .inl (hfirst.trans hsecond)
    · exact .inl hfirst
  · rcases hsecond with hsecond | ⟨rfl,hsecond⟩
    · exact .inl hsecond
    · exact .inr ⟨rfl,fun e he=>hfirst e (hsecond e he)⟩
 kept hv ht := h'.kept (h.kept hv ht) ht
 targets hv := h'.targets (h.targets hv)
 cancelled hv := h'.cancelled (h.cancelled hv)
 holders hv := h'.holders (h.holders hv)
 alone hv := h'.alone (h.alone hv)

def Reads (m : TaskState) (record : TaskRecord) : Prop :=
 ∃ current, m.tasks record.id = some current ∧ (current = record ∨ record.version < current.version)

lemma Reads.later (h:Reads v record) (hlater:Later v s) : Reads s record := by
 obtain ⟨current,hv,hread⟩:=h
 obtain ⟨now,hs,hnow⟩:=hlater.tasks hv
 refine ⟨now,hs,?_⟩
 rcases hread with rfl | hread
 · rcases hnow with hnow | ⟨rfl,-⟩
   · exact .inr hnow
   · exact .inl rfl
 · rcases hnow with hnow | ⟨rfl,-⟩
   · exact .inr (hread.trans hnow)
   · exact .inr hread

lemma Reads.admitted {new} (h:Reads m record) (hid:new.id=record.id)
  (hversion:new.version=record.version) (hm:m.Admits new) :
  m.tasks record.id=some record := by
 obtain ⟨current,hcurrent,hread⟩:=h
 obtain ⟨old,hold,hadmitted⟩:=hm
 rw [hid,hcurrent] at hold
 obtain rfl : current=old := Option.some.inj hold
 rcases hread with rfl | hread
 · exact hcurrent
 · omega

/-- While the record that was read is the stored one, no execution holds its claim. -/
def Clear (m : TaskState) (record : TaskRecord) : Prop :=
 m.tasks record.id = some record → ∀ e, ¬ m.Live record.id e

lemma Clear.later (h:Clear v record) (hread:Reads v record) (hlater:Later v s) :
  Clear s record := by
 intro hs e he
 obtain ⟨current,hv,hcurrent⟩:=hread
 obtain ⟨now,hnow,hgrown⟩:=hlater.tasks hv
 obtain rfl : now=record := Option.some.inj (hnow.symm.trans hs)
 rcases hcurrent with rfl | hcurrent
 · rcases hgrown with hgrown | ⟨-,hlive⟩
   · omega
   · exact h hv e (hlive e he)
 · rcases hgrown with hgrown | ⟨rfl,-⟩
   · omega
   · omega

structure Quiet (m u : TaskState) : Prop where
 tasks : u.tasks = m.tasks
 holders : u.holders = m.holders
 targets : ∀ {e id}, m.targets e = some id → u.targets e = some id
 cancelled : ∀ {e}, m.cancelled e = true → u.cancelled e = true
 alone : ∀ {e}, e ∈ m.alone → e ∈ u.alone

lemma Quiet.refl (m) : Quiet m m := ⟨rfl,rfl,id,id,id⟩

lemma quiet_cancel {m:TaskState} {e:Nat} : Quiet m (m.cancel e) where
 tasks := rfl
 holders := rfl
 targets h := h
 cancelled := by
  intro f hf
  by_cases hfe : f=e
  · subst hfe
    exact update_self ..
  · exact (update_of_ne hfe ..).trans hf
 alone h := h

lemma quiet_cancelLocal {m process id} : Quiet m (m.cancelLocal process id) := by
 unfold TaskState.cancelLocal
 split
 · exact quiet_cancel
 · exact .refl m

lemma quiet_register {process:Nat} {id:TaskID} (h:m.targets e=none) :
  Quiet m (m.register process id e) where
 tasks := rfl
 holders := rfl
 targets := by
  intro f target hf
  have hfe:f ≠ e:=by
   rintro rfl
   rw [h] at hf
   cases hf
  exact (update_of_ne hfe ..).trans hf
 cancelled h := h
 alone h := h

lemma quiet_ended (m e r) : Quiet m (m.ended e r) := by
 unfold TaskState.ended
 split
 · exact ⟨rfl,rfl,id,id,List.mem_cons_of_mem e⟩
 · exact .refl m

lemma step_cases {o r} (h:m.Step o r u) :
  Quiet m u ∨
  (∃ record,o = .createTask record ∧ m.tasks record.id=none ∧ u=m.put record) ∨
  ∃ caller record saved,o = .updateTask caller record ∧ m.Admits record ∧
   u=(m.write record).won record.id caller saved := by
 cases o with
 | createTask record =>
  rcases h with ⟨habsent,rfl⟩ | ⟨-,rfl⟩
  · exact .inr (.inl ⟨record,rfl,habsent,rfl⟩)
  · exact .inl (.refl _)
 | getTask caller id =>
  cases r with
  | error err => exact .inl (h ▸ .refl m)
  | ok record => exact .inl (h.2 ▸ .refl m)
 | updateTask caller record =>
  rcases h with ⟨hadmits,rfl⟩ | ⟨-,rfl⟩
  · exact .inr (.inr ⟨caller,record,r,rfl,hadmits,rfl⟩)
  · exact .inl (.refl _)
 | withCancel process id => exact .inl (h.2 ▸ quiet_register h.1)
 | deleteCancel process id => exact .inl (h ▸ ⟨rfl,rfl,fun h=>h,fun h=>h,fun h=>h⟩)
 | cancelLocal process id => exact .inl (h ▸ quiet_cancelLocal)
 | cancelRun e => exact .inl (h ▸ quiet_cancel)
 | startRenewal e | closeRenewal e =>
  exact .inl (h ▸ ⟨rfl,rfl,fun h=>h,fun h=>h,fun h=>h⟩)
 | awaitRenewal => exact .inl (h.2.2 ▸ ⟨rfl,rfl,id,id,id⟩)
 | backoff e | tick e | joinRenewal e => exact .inl (h.2 ▸ .refl m)
 | run e record => exact .inl (h ▸ quiet_ended m e r)
 | _ => exact .inl (h ▸ .refl m)

lemma won_eq (m:TaskState) (id caller r) :
  m.won id caller r=m ∨ ∃ e id',caller = .claim e id' ∧ m.won id caller r=m.hold id e := by
 cases caller with
 | claim e id' =>
  cases r with
  | error err => exact .inl rfl
  | ok _ => exact .inr ⟨e,id',rfl,rfl⟩
 | _ => exact .inl rfl

lemma mem_holders_hold {f} :
  e ∈ (m.hold id f).holders target ↔ e ∈ m.holders target ∨ target=id ∧ e=f := by
 unfold TaskState.hold
 by_cases htarget : target=id
 · subst htarget
   simp [or_comm]
 · simp [htarget]

lemma tasks_won (m:TaskState) (id caller r) : (m.won id caller r).tasks=m.tasks := by
 rcases won_eq m id caller r with h | ⟨e,id',-,h⟩ <;> rw [h]
 rfl

lemma mem_holders_won {caller r} (h:e ∈ (m.won id caller r).holders target) :
  e ∈ m.holders target ∨ target=id ∧ ∃ id',caller = .claim e id' := by
 rcases won_eq m id caller r with hwon | ⟨f,id',hcaller,hwon⟩
 · rw [hwon] at h
   exact .inl h
 · rw [hwon,mem_holders_hold] at h
   rcases h with h | ⟨htarget,rfl⟩
   · exact .inl h
   · exact .inr ⟨htarget,id',hcaller⟩

lemma mem_won_holders {caller r} (h:e ∈ m.holders target) :
  e ∈ (m.won id caller r).holders target := by
 rcases won_eq m id caller r with hwon | ⟨f,id',-,hwon⟩ <;> rw [hwon]
 · exact h
 · exact mem_holders_hold.mpr (.inl h)

lemma won_same {m:TaskState} {id caller r} :
  (m.won id caller r).targets=m.targets ∧ (m.won id caller r).cancelled=m.cancelled ∧
   (m.won id caller r).alone=m.alone := by
 rcases won_eq m id caller r with h | ⟨e,id',-,h⟩ <;> rw [h] <;> exact ⟨rfl,rfl,rfl⟩

lemma Quiet.later (h:Quiet m u) : Later m u where
 tasks := by
  intro id record hm
  refine ⟨record,h.tasks ▸ hm,.inr ⟨rfl,?_⟩⟩
  rintro e ⟨hholds,hlive⟩
  refine ⟨h.holders ▸ hholds,?_⟩
  cases hcancelled : m.cancelled e with
  | false => rfl
  | true => exact absurd (h.cancelled hcancelled) (by rw [hlive]; decide)
 kept hm _ := h.tasks ▸ hm
 targets := h.targets
 cancelled := h.cancelled
 holders he := h.holders ▸ he
 alone := h.alone

lemma step_later {o r} (h:m.Step o r u)
  (hkept:∀ {id record},m.tasks id=some record → record.status.terminal=true → u.tasks id =
   some record) : Later m u := by
 rcases step_cases h with
  hquiet | ⟨record,-,habsent,rfl⟩ | ⟨caller,record,saved,-,hadmits,rfl⟩
 · exact hquiet.later
 · refine ⟨?_,hkept,id,id,id,id⟩
   intro id old hold
   have hne:id ≠ record.id:=by
    rintro rfl
    rw [habsent] at hold
    cases hold
   exact ⟨old,(update_of_ne hne ..).trans hold,.inr ⟨rfl,fun e he=>he⟩⟩
 · obtain ⟨htargets,hcancelled,halone⟩:=won_same
   refine ⟨?_,hkept,?_,?_,fun he=>mem_won_holders he,?_⟩
   · intro id old hold
     by_cases hid : id=record.id
     · subst hid
       obtain ⟨stored,hstored,hversion⟩:=hadmits
       obtain rfl : old=stored := Option.some.inj (hold.symm.trans hstored)
       refine ⟨{ record with version := record.version+1 },?_,.inl ?_⟩
       · rw [tasks_won]
         exact update_self ..
       · rw [hversion]
         exact Int.lt_succ _
     · refine ⟨old,?_,.inr ⟨rfl,?_⟩⟩
       · rw [tasks_won]
         exact (update_of_ne hid ..).trans hold
       · rintro e ⟨hholds,hlive⟩
         rw [hcancelled] at hlive
         rcases mem_holders_won hholds with hholds | ⟨rfl,-⟩
         · exact ⟨hholds,hlive⟩
         · exact (hid rfl).elim
   · rw [htargets]
     exact id
   · rw [hcancelled]
     exact id
   · rw [halone]
     exact id

/-- While an execution that won a claim of the task has a live run context, the clock that another
one reads when it tries to claim the task has not reached the stored lease. -/
def Timely (m : TaskState) : (o : TaskOp) → o.Reply → Prop
 | .now (.claim _ id), now => ∀ e record until_, m.Live id e → m.tasks id = some record →
   record.status = .working → record.leaseUntil = some until_ → now < until_
 | _, _ => True

/-- A handler whose run context was cancelled reports the cancellation only when the task is
already terminal, and the `Context` hook does not fail with one. -/
def Calm (m : TaskState) : (o : TaskOp) → o.Reply → Prop
 | .run e record, r => TaskState.canceledBy r = true → m.cancelled e = true →
   ∃ stored, m.tasks record.id = some stored ∧ stored.status.terminal = true
 | .restoreContext _ _, .failed err => err.is .canceled = false
 | _, _ => True

def careful (timely calm : Prop) : Monitor TaskSig TaskState :=
 guarded taskWorld fun m o r _ => (timely → Timely m o r) ∧ (calm → Calm m o r)

/-- A write that stores the task as cancelled: by a cancel request for the task, or by an execution
of the task whose handler reported a cancellation under a live run context. -/
def Cancels (m : TaskState) (id : TaskID) (o : TaskOp) : Prop :=
 (∃ record, o = .updateTask .request record ∧ record.id = id) ∨
  ∃ e record, o = .updateTask (.finish e) record ∧ m.targets e = some id ∧ e ∈ m.alone

structure Keeps (timely calm : Prop) (m : TaskState) (o : TaskOp) (u : TaskState) : Prop where
 sound : Sound u
 kept : ∀ {id record}, m.tasks id = some record → record.status.terminal = true →
  u.tasks id = some record
 claims : ∀ {id e}, e ∈ u.holders id → e ∉ m.holders id → timely → ∀ f, ¬ m.Live id f
 runs : ∀ {e record}, o = .run e record → e ∈ m.holders record.id
 cancels : ∀ {id before after}, m.tasks id = some before → before.status ≠ .cancelled →
  u.tasks id = some after → after.status = .cancelled → calm → Cancels m id o

def rely (v s : TaskState) : Prop := Sound v → Sound s ∧ Later v s

def guarantee (timely calm : Prop) (m : TaskState) (o : TaskOp) (_ : o.Reply) (u : TaskState) :
  Prop :=
 Sound m → Keeps timely calm m o u

abbrev shared (timely calm : Prop) : Monitor TaskSig TaskState :=
 relying (careful timely calm) rely (guarantee timely calm)

end Lebro.TaskStore
