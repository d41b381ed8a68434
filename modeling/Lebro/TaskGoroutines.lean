import Lebro.TaskStore

set_option autoImplicit false

namespace Lebro.TaskGoroutines

open EffectProgram EffectPool EffectRuns RuntimeTypes TaskService TaskStore

variable {timely calm:Prop} {m u v:TaskState} {o:TaskOp} {e:Nat} {caller:Caller}
 {record new current:TaskRecord} {runErr:Option TaskErr}

lemma keeps_of_quiet (hm:Sound m) (h:Quiet m u)
  (hrun:∀ e record,o = .run e record → e ∈ m.holders record.id) : Keeps timely calm m o u where
 sound := by
  refine ⟨?_,?_,?_⟩
  · rw [h.tasks]
    exact hm.filed
  · rw [h.tasks,h.holders]
    exact hm.absent
  · rw [h.tasks,h.holders]
    exact hm.unleased
 kept hrecord _ := h.tasks ▸ hrecord
 claims he hnew := (hnew (h.holders ▸ he)).elim
 runs ho := hrun _ _ ho
 cancels := by
  intro id before after hbefore hstatus hafter hcancelled
  rw [h.tasks,hbefore] at hafter
  cases hafter
  exact (hstatus hcancelled).elim

lemma keeps_create (hm:Sound m) (habsent:m.tasks record.id=none) :
  Keeps timely calm m (.createTask record) (m.put record) where
 sound := by
  have hholders:=hm.absent habsent
  refine ⟨?_,?_,?_⟩
  · intro id stored hstored
    by_cases hid : id=record.id
    · subst hid
      obtain rfl : record=stored := Option.some.inj ((m.tasks_put_self record).symm.trans hstored)
      rfl
    · exact hm.filed ((m.tasks_put_of_ne hid).symm.trans hstored)
  · intro id hnone
    by_cases hid : id=record.id
    · exact hid ▸ hholders
    · exact hm.absent ((m.tasks_put_of_ne hid).symm.trans hnone)
  · intro id stored hstored hworking hlease
    by_cases hid : id=record.id
    · exact hid ▸ hholders
    · exact hm.unleased ((m.tasks_put_of_ne hid).symm.trans hstored) hworking hlease
 kept := by
  intro id stored hstored _
  have hid:id ≠ record.id:=by
   rintro rfl
   rw [habsent] at hstored
   cases hstored
  exact (m.tasks_put_of_ne hid).trans hstored
 claims he hnew := (hnew he).elim
 runs ho := by cases ho
 cancels := by
  intro id before after hbefore hstatus hafter hcancelled
  have hid:id ≠ record.id:=by
   rintro rfl
   rw [habsent] at hbefore
   cases hbefore
  have hsame:=(m.tasks_put_of_ne hid).symm.trans hafter
  rw [hbefore] at hsame
  cases hsame
  exact (hstatus hcancelled).elim

structure Follows (timely calm : Prop) (m : TaskState) (caller : Caller)
  (record new : TaskRecord) : Prop where
 reads : Reads m record
 working : record.status = .working
 id : new.id = record.id
 version : new.version = record.version
 leased : new.status = .working → new.leaseUntil ≠ none
 clear : ∀ e target, caller = .claim e target → timely → Clear m record
 cancels : new.status = .cancelled → calm → Cancels m record.id (.updateTask caller new)

lemma keeps_write {r} (hm:Sound m) (h:Follows timely calm m caller record new)
  (hadmits:m.Admits new) :
  Keeps timely calm m (.updateTask caller new) ((m.write new).won new.id caller r) := by
 have hstored:m.tasks record.id=some record:=h.reads.admitted h.id h.version hadmits
 have hother:∀ id,id ≠ record.id →
   ((m.write new).won new.id caller r).tasks id=m.tasks id := by
  intro id hid
  rw [tasks_won]
  exact Function.update_of_ne (h.id ▸ hid) ..
 have hwritten:((m.write new).won new.id caller r).tasks record.id =
   some { new with version := new.version+1 } := by
  rw [tasks_won,← h.id]
  exact Function.update_self ..
 have hholders:∀ id e,id ≠ record.id →
   e ∈ ((m.write new).won new.id caller r).holders id → e ∈ m.holders id := by
  intro id e hid he
  rcases mem_holders_won he with he | ⟨htarget,-⟩
  · exact he
  · exact (hid (htarget.trans h.id)).elim
 refine ⟨⟨?_,?_,?_⟩,?_,?_,(fun ho=>by cases ho),?_⟩
 · intro id stored hs
   by_cases hid : id=record.id
   · subst hid
     rw [hwritten] at hs
     cases hs
     exact h.id
   · exact hm.filed ((hother id hid).symm.trans hs)
 · intro id hnone
   by_cases hid : id=record.id
   · subst hid
     rw [hwritten] at hnone
     cases hnone
   · have habsent:=hm.absent ((hother id hid).symm.trans hnone)
     refine List.eq_nil_iff_forall_not_mem.mpr fun e he=>?_
     exact absurd (hholders id e hid he) (by rw [habsent]; exact List.not_mem_nil)
 · intro id stored hs hworking hlease
   by_cases hid : id=record.id
   · subst hid
     rw [hwritten] at hs
     cases hs
     exact (h.leased hworking hlease).elim
   · have hnone:=hm.unleased ((hother id hid).symm.trans hs) hworking hlease
     refine List.eq_nil_iff_forall_not_mem.mpr fun e he=>?_
     exact absurd (hholders id e hid he) (by rw [hnone]; exact List.not_mem_nil)
 · intro id stored hs hterminal
   have hid:id ≠ record.id:=by
    rintro rfl
    rw [hstored] at hs
    cases hs
    rw [h.working] at hterminal
    exact absurd hterminal (by decide)
   exact (hother id hid).trans hs
 · intro id e he hnew ht f
   rcases mem_holders_won he with he | ⟨rfl,target,hcaller⟩
   · exact (hnew he).elim
   · rw [h.id]
     exact h.clear e target hcaller ht hstored f
 · intro id before after hbefore hstatus hafter hcancelled hcalm
   by_cases hid : id=record.id
   · subst hid
     rw [hwritten] at hafter
     cases hafter
     exact h.cancels hcancelled hcalm
   · rw [hother id hid,hbefore] at hafter
     cases hafter
     exact (hstatus hcancelled).elim

section

variable {α:Type} {Q:α → TaskState → Prop}

lemma shared_ask {k} (hv:Sound v)
  (h:∀ m r u,Sound m → Later v m → m.Step o r u → (timely → Timely m o r) → (calm → Calm m o r) →
   Keeps timely calm m o u ∧ (Sound u → Later v u → wp (shared timely calm) (k r) Q u)) :
  wp (shared timely calm) (taskOp o >>= k) Q v := by
 refine ⟨?_,?_⟩
 · intro m r u hrely hstep hm
   exact (h m r u hm (hrely hv).2 hstep.1 hstep.2.1 hstep.2.2).1
 · rintro r u ⟨m,hrely,hstep⟩
   obtain ⟨hm,hlater⟩:=hrely hv
   obtain ⟨hkeeps,hnext⟩:=h m r u hm hlater hstep.1 hstep.2.1 hstep.2.2
   exact hnext hkeeps.sound (hlater.trans (step_later hstep.1 hkeeps.kept))

/-- What an operation does that other executions have to reckon with. -/
inductive Touched where
 | write
 | run
 | table
deriving DecidableEq

def touched : TaskOp → Option Touched
 | .updateTask _ _ => some .write
 | .run _ _ => some .run
 | .withCancel _ _ => some .table
 | .deleteCancel _ _ => some .table
 | _ => none

def Spares (fs : List Touched) (o : TaskOp) : Prop := (touched o).all (fun f => f ∉ fs) = true

lemma Spares.mono {fs gs} (hsub:gs ⊆ fs) (h:Spares fs o) : Spares gs o := by
 unfold Spares at h ⊢
 cases htouched : touched o with
 | none => rfl
 | some f =>
  rw [htouched] at h
  exact decide_eq_true fun hf=>of_decide_eq_true h (hsub hf)

lemma asks_sparing {p:TaskProg α} {fs gs} (hp:Asks (Spares fs) p) (hsub:gs ⊆ fs) :
  Asks (Spares gs) p := hp.mono fun _=>Spares.mono hsub

lemma keeps_of_spared {r} (hm:Sound m) (ho:Spares [.write,.run] o) (h:m.Step o r u) :
  Keeps timely calm m o u := by
 rcases step_cases h with h | ⟨record,rfl,habsent,rfl⟩ | ⟨caller,record,saved,rfl,-⟩
 · apply keeps_of_quiet hm h
   rintro e record rfl
   exact absurd ho Bool.false_ne_true
 · exact keeps_create hm habsent
 · exact absurd ho Bool.false_ne_true

lemma shared_spared {k} (hv:Sound v) (ho:Spares [.write,.run] o)
  (h:∀ r u,Sound u → Later v u → wp (shared timely calm) (k r) Q u) :
  wp (shared timely calm) (taskOp o >>= k) Q v := by
 refine shared_ask hv fun m r u hm _ hstep _ _=>?_
 exact ⟨keeps_of_spared hm ho hstep,h r u⟩

lemma shared_of_asks {p:TaskProg α} (hp:Asks (Spares [.write,.run]) p) (hv:Sound v) :
  wp (shared timely calm) p (fun _ u=>Sound u ∧ Later v u) v := by
 refine hp.wp (fun u=>Sound u ∧ Later v u) ?_ ⟨hv,.refl v⟩
 rintro u o ho ⟨hu,hlater⟩
 refine ⟨?_,?_⟩
 · intro m r w hrely hstep hm
   exact keeps_of_spared hm ho hstep.1
 · rintro r w ⟨m,hrely,hstep⟩
   obtain ⟨hm,hlater'⟩:=hrely hu
   have hkeeps:Keeps timely calm m o w:=keeps_of_spared hm ho hstep.1
   exact ⟨hkeeps.sound,(hlater.trans hlater').trans (step_later hstep.1 hkeeps.kept)⟩

/-- Neither a write of a task, nor a run of a handler, nor a change of the table of cancels. -/
abbrev Steady : TaskOp → Prop := Spares [.write, .run, .table]

lemma shared_of_steady {p:TaskProg α} (hp:Asks Steady p) (hv:Sound v) :
  wp (shared timely calm) p (fun _ u=>Sound u ∧ Later v u) v :=
 shared_of_asks (asks_sparing hp (by decide)) hv

lemma shared_read {id k} (hv:Sound v)
  (hfailed:∀ err u,Sound u → Later v u → wp (shared timely calm) (k (.error err)) Q u)
  (hread:∀ record u,Sound u → Later v u → record.id=id → u.tasks record.id=some record → wp
   (shared timely calm) (k (.ok record)) Q u) :
  wp (shared timely calm) (taskOp (.getTask caller id) >>= k) Q v := by
 refine shared_ask hv fun m r u hm _ hstep _ _=>⟨keeps_of_spared hm rfl hstep,?_⟩
 intro hu hlater
 cases r with
 | error err => exact hfailed err u hu hlater
 | ok record =>
  obtain ⟨hrecord,rfl⟩:=hstep
  have hid:=hm.filed hrecord
  exact hread record u hu hlater hid (hid ▸ hrecord)

lemma Follows.later {v s:TaskState} (h:Follows timely calm v caller record new)
  (hlater:Later v s) : Follows timely calm s caller record new where
 reads := h.reads.later hlater
 working := h.working
 id := h.id
 version := h.version
 leased := h.leased
 clear e target hcaller ht := (h.clear e target hcaller ht).later h.reads hlater
 cancels hcancelled hcalm := by
  rcases h.cancels hcancelled hcalm with hrequest | ⟨e,written,ho,htarget,halone⟩
  · exact .inl hrequest
  · exact .inr ⟨e,written,ho,hlater.targets htarget,hlater.alone halone⟩

lemma shared_update {k} (hv:Sound v) (record) (h:Follows timely calm v caller record new)
  (hfailed:∀ err u,Sound u → Later v u → wp (shared timely calm) (k (.error err)) Q u)
  (hsaved:∀ u,Sound u → Later v u →
   (∀ e target,caller = .claim e target → e ∈ u.holders record.id) →
   wp (shared timely calm) (k (.ok ())) Q u) :
  wp (shared timely calm) (taskOp (.updateTask caller new) >>= k) Q v := by
 refine shared_ask hv fun m r u hm hlater hstep _ _=>?_
 have hfollows:=h.later hlater
 rcases hstep with ⟨hadmits,rfl⟩ | ⟨⟨err,rfl⟩,rfl⟩
 · refine ⟨keeps_write hm hfollows hadmits,fun hu hlater=>?_⟩
   cases r with
   | error err => exact hfailed err _ hu hlater
   | ok _ =>
    apply hsaved _ hu hlater
    rintro e target rfl
    exact mem_holders_hold.mpr (.inr ⟨h.id.symm,rfl⟩)
 · exact ⟨keeps_of_quiet hm (.refl _) (fun _ _ ho=>by cases ho),hfailed err _⟩

end

lemma shared_leaseHeld {e} (hv:Sound v) (hworking:record.status = .working) :
  wp (shared timely calm) (leaseHeld (.claim e record.id) record)
   (fun held u=>Sound u ∧ Later v u ∧ (held=false → timely → Clear u record)) v := by
 unfold leaseHeld
 split
 · rename_i hnone
   refine ⟨hv,.refl v,fun _ _ hs f hf=>?_⟩
   have hholders:=hv.unleased hs hworking hnone
   exact absurd hf.1 (by rw [hholders]; exact List.not_mem_nil)
 · rename_i until_ huntil
   refine shared_ask hv fun m now u hm hlater hstep htimely _=>?_
   refine ⟨keeps_of_spared hm rfl hstep,fun hu hlater'=>⟨hu,hlater',fun hlate ht=>?_⟩⟩
   obtain rfl : u=m := hstep
   intro hs f hf
   exact of_decide_eq_false hlate (htimely ht f record until_ hf hs hworking huntil)

lemma shared_claimRead {retry} {s e} (hv:Sound v) (hread:Reads v current)
  (hretry:∀ u,Sound u → Later v u →
   wp (shared timely calm) retry (fun won w=>Sound w ∧ Later u w ∧
   (won = .ok true → e ∈ w.holders current.id)) u) :
  wp (shared timely calm) (claimRead s e current retry) (fun won u =>
   Sound u ∧ Later v u ∧ (won = .ok true → e ∈ u.holders current.id)) v := by
 unfold claimRead
 split
 · exact ⟨hv,.refl v,fun h=>by cases h⟩
 rename_i hworking
 have hworking:=not_not.mp hworking
 apply wp_seq (shared_leaseHeld hv hworking)
 rintro held u ⟨hu,hlater,hclear⟩
 cases held with
 | true => exact ⟨hu,hlater,fun h=>by cases h⟩
 | false =>
  refine shared_spared hu rfl fun from_ u₁ hu₁ hlater₁=>?_
  refine shared_spared hu₁ rfl fun updated u₂ hu₂ hlater₂=>?_
  have hread₂:=hread.later (hlater.trans (hlater₁.trans hlater₂))
  have hlater':=hlater.trans (hlater₁.trans hlater₂)
  refine shared_update hu₂ current ?_ ?_ ?_
  · refine ⟨hread₂,hworking,rfl,rfl,fun _=>by rintro ⟨⟩,?_,?_⟩
    · intro _ _ _ ht
      exact (hclear rfl ht).later (hread.later hlater) (hlater₁.trans hlater₂)
    · intro hcancelled
      exact absurd (hworking.symm.trans hcancelled) (by decide)
  · intro err w hw hlaterw
    by_cases hconflict : err.is .taskConflict=true
    · simp only [hconflict,if_true]
      apply wp_mono (hretry w hw (hlater'.trans hlaterw))
      rintro won x ⟨hx,hlaterx,hwon⟩
      exact ⟨hx,(hlater'.trans hlaterw).trans hlaterx,hwon⟩
    · simp only [hconflict]
      exact ⟨hw,hlater'.trans hlaterw,fun h=>by cases h⟩
  · intro w hw hlaterw hholds
    exact ⟨hw,hlater'.trans hlaterw,fun _=>hholds e current.id rfl⟩

lemma shared_claimAttempts {s e id left} (hv:Sound v) :
  wp (shared timely calm) (claimAttempts s e id left) (fun won u =>
   Sound u ∧ Later v u ∧ (won = .ok true → e ∈ u.holders id)) v := by
 induction left generalizing v with
 | zero => exact ⟨hv,.refl v,fun h=>by cases h⟩
 | succ left ih =>
  refine shared_read hv ?_ ?_
  · intro err u hu hlater
    by_cases hlast : left=0
    · simp only [hlast,if_true]
      exact ⟨hu,hlater,fun h=>by cases h⟩
    · simp only [hlast,if_false]
      refine shared_spared hu rfl fun done u₁ hu₁ hlater₁=>?_
      cases done with
      | true => exact ⟨hu₁,hlater.trans hlater₁,fun h=>by cases h⟩
      | false =>
       apply wp_mono (ih hu₁)
       rintro won w ⟨hw,hlaterw,hwon⟩
       exact ⟨hw,(hlater.trans hlater₁).trans hlaterw,hwon⟩
  · intro current u hu hlater hid hcurrent
    subst hid
    have hread:Reads u current:=⟨current,hcurrent,.inl rfl⟩
    refine wp_mono (shared_claimRead hu hread fun w hw _=>ih hw) ?_
    rintro won w ⟨hw,hlaterw,hwon⟩
    exact ⟨hw,hlater.trans hlaterw,hwon⟩

lemma shared_extendAttempts (s e id left) (hv:Sound v) :
  wp (shared timely calm) (extendAttempts s e id left) (fun _ u=>Sound u ∧ Later v u) v := by
 induction left generalizing v with
 | zero => exact ⟨hv,.refl v⟩
 | succ left ih =>
  have hagain:∀ u,Sound u → Later v u → wp (shared timely calm)
    (extendAttempts s e id left) (fun _ w=>Sound w ∧ Later v w) u := by
   intro u hu hlater
   apply wp_mono (ih hu)
   rintro _ w ⟨hw,hlaterw⟩
   exact ⟨hw,hlater.trans hlaterw⟩
  refine shared_read hv ?_ ?_
  · intro err u hu hlater
    refine shared_spared hu rfl fun closed u₁ hu₁ hlater₁=>?_
    cases closed with
    | true => exact ⟨hu₁,hlater.trans hlater₁⟩
    | false => exact hagain u₁ hu₁ (hlater.trans hlater₁)
  · intro current u hu hlater _ hcurrent
    dsimp only
    split
    · exact ⟨hu,hlater⟩
    rename_i hworking
    have hworking:=not_not.mp hworking
    refine shared_spared hu rfl fun from_ u₁ hu₁ hlater₁=>?_
    refine shared_spared hu₁ rfl fun updated u₂ hu₂ hlater₂=>?_
    have hread:Reads u current:=⟨current,hcurrent,.inl rfl⟩
    have hlater':=hlater.trans (hlater₁.trans hlater₂)
    refine shared_update hu₂ current ?_ ?_ ?_
    · refine ⟨hread.later (hlater₁.trans hlater₂),hworking,rfl,rfl,
       fun _=>by rintro ⟨⟩,?_,?_⟩
      · intro f target hcaller
        cases hcaller
      · intro hcancelled
        exact absurd (hworking.symm.trans hcancelled) (by decide)
    · intro err w hw hlaterw
      by_cases hconflict : err.is .taskConflict=true
      · simp only [hconflict,if_true]
        exact hagain w hw (hlater'.trans hlaterw)
      · simp only [hconflict]
        exact ⟨hw,hlater'.trans hlaterw⟩
    · intro w hw hlaterw _
      exact ⟨hw,hlater'.trans hlaterw⟩

lemma asks_closeRenewal {e} : Asks Steady (taskOp (.closeRenewal e)) :=
 asks_ask rfl fun _=>asks_ret
lemma asks_giveUp {e} : Asks Steady (giveUp e) := asks_perform rfl fun _=>asks_closeRenewal

lemma shared_renewTicks (s e id) (ticks unreachable) (hv:Sound v) :
  wp (shared timely calm) (renewTicks s e id ticks unreachable) (fun _ _=>True) v := by
 induction ticks generalizing v unreachable with
 | zero => trivial
 | succ ticks ih =>
  refine shared_spared hv rfl fun done u hu _=>?_
  cases done with
  | true => exact wp_mono (shared_of_steady asks_closeRenewal hu) fun _ _ _=>trivial
  | false =>
   apply wp_seq (shared_extendAttempts s e id 3 hu)
   rintro outcome w ⟨hw,-⟩
   have hstopped:wp (shared timely calm) (giveUp e) (fun _ _=>True) w:=
    wp_mono (shared_of_steady asks_giveUp hw) fun _ _ _=>trivial
   cases outcome with
   | renewed => exact ih 0 hw
   | terminal => exact hstopped
   | unreachable =>
    dsimp only
    split
    · exact hstopped
    · exact ih (unreachable+1) hw

lemma shared_renewLease {s ticks} (hv:Sound v) :
  wp (shared timely calm) (renewLease s ticks) (fun _ _=>True) v :=
 shared_spared hv rfl fun started _ hu _=>shared_renewTicks s started.1 started.2 ticks 0 hu

lemma asks_onConflict {s record} : Asks Steady (onConflict s record) := by
 unfold onConflict
 split
 · exact asks_ask rfl fun _=>asks_ret
 · exact asks_ret

lemma shared_onConflict {s record} (hv:Sound v) :
  wp (shared timely calm) (onConflict s record) (fun _ u=>Sound u) v :=
 wp_mono (shared_of_steady asks_onConflict hv) fun _ _ h=>h.1

/-- A run that ended in a cancellation: its handler reported it by itself, or the task is decided
already. -/
def Ended (calm : Prop) (v : TaskState) (e : Nat) (id : TaskID) (runErr : Option TaskErr) : Prop :=
 ∀ err, runErr = some err → err.is .canceled = true → calm →
  (v.targets e = some id ∧ e ∈ v.alone) ∨
   ∃ record, v.tasks id = some record ∧ record.status.terminal = true

lemma Ended.later {s id} (h:Ended calm v e id runErr) (hlater:Later v s) :
  Ended calm s e id runErr := by
 intro err herr hcanceled hcalm
 rcases h err herr hcanceled hcalm with ⟨htarget,halone⟩ | ⟨record,hrecord,hterminal⟩
 · exact .inl ⟨hlater.targets htarget,hlater.alone halone⟩
 · exact .inr ⟨record,hlater.kept hrecord hterminal,hterminal⟩

lemma Ended.reported (h:Ended calm v e current.id runErr)
  (hcurrent:v.tasks current.id=some current) (hworking:current.status = .working) :
  ∀ err,runErr=some err → err.is .canceled=true → calm →
   v.targets e=some current.id ∧ e ∈ v.alone := by
 intro err herr hcanceled hcalm
 rcases h err herr hcanceled hcalm with h | ⟨record,hrecord,hterminal⟩
 · exact h
 · rw [hcurrent] at hrecord
   cases hrecord
   rw [hworking] at hterminal
   exact absurd hterminal (by decide)

lemma follows_finished {now:Time} {result:Option CallToolResult} {message:String}
  (hended:Ended calm v e current.id runErr) (hcurrent:v.tasks current.id=some current)
  (hworking:current.status = .working) (hlater:Later v u) :
  Follows timely calm u (.finish e) current (finished current now result runErr message) where
 reads := Reads.later ⟨current,hcurrent,.inl rfl⟩ hlater
 working := hworking
 id := finished_id ..
 version := finished_version ..
 leased h := absurd (finished_terminal current now result runErr message) (by rw [h]; decide)
 clear _ _ h := by cases h
 cancels hcancelled hcalm := by
  obtain ⟨err,herr,hcanceled⟩:=finished_cancelled hcancelled
  obtain ⟨htarget,halone⟩:=hended.reported hcurrent hworking err herr hcanceled hcalm
  exact .inr ⟨e,_,rfl,hlater.targets htarget,hlater.alone halone⟩

lemma shared_finish {s result message left} (hv:Sound v)
  (hended:Ended calm v e record.id runErr) :
  wp (shared timely calm) (finishAttempts s e record result runErr message left)
   (fun _ u=>Sound u) v := by
 induction left generalizing v with
 | zero => exact shared_onConflict hv
 | succ left ih =>
  refine shared_read hv (fun err u hu _=>hu) ?_
  intro current u hu hlater hid hcurrent
  dsimp only
  split
  · exact hu
  rename_i hterminal
  have hworking:current.status = .working:=by
   by_contra hne
   exact hterminal (current.status.ne_working_iff.mp hne)
  have hended:=hid ▸ hended.later hlater
  refine shared_spared hu rfl fun now u₁ hu₁ hlater₁=>?_
  refine shared_update hu₁ current
   (follows_finished hended hcurrent hworking hlater₁) ?_ ?_
  · intro err w hw hlaterw
    by_cases hconflict : err.is .taskConflict=true
    · simp only [hconflict,if_true]
      exact ih hw (hid ▸ (hended.later hlater₁).later hlaterw)
    · simp only [hconflict]
      exact shared_onConflict hw
  · intro w hw _ _
    exact hw

lemma asks_stopRenewal {e} : Asks Steady (stopRenewal e) :=
 asks_perform rfl fun _=>asks_ask rfl fun _=>asks_ret

lemma shared_restoreFailed {err} {s} (hv:Sound v) (herr:calm → err.is .canceled=false) :
  wp (shared timely calm) (restoreFailed s e current err) (fun _ u=>Sound u) v := by
 apply wp_seq (shared_of_steady asks_stopRenewal hv)
 rintro _ u ⟨hu,-⟩
 apply shared_finish hu
 intro err' herr' hcanceled hcalm
 cases herr'
 rw [herr hcalm] at hcanceled
 cases hcanceled

lemma ended_run {r} (htarget:m.targets e=some current.id)
  (hcalm:calm → Calm m (.run e current) r) : Ended calm (m.ended e r) e current.id r.err := by
 intro err herr hcanceled hc
 have hby:TaskState.canceledBy r=true:=by
  unfold TaskState.canceledBy
  rw [herr]
  exact hcanceled
 cases hcancelled : m.cancelled e with
 | true =>
  right
  obtain ⟨stored,hstored,hterminal⟩:=hcalm hc hby hcancelled
  exact ⟨stored,(quiet_ended m e r).tasks ▸ hstored,hterminal⟩
 | false =>
  left
  refine ⟨(quiet_ended m e r).targets htarget,?_⟩
  unfold TaskState.ended
  rw [hby,hcancelled]
  exact List.mem_cons_self

lemma shared_runHandler {s} (hv:Sound v) (hholds:e ∈ v.holders current.id)
  (htarget:v.targets e=some current.id) :
  wp (shared timely calm) (runHandler s e current) (fun _ u=>Sound u) v := by
 refine shared_ask hv fun m r u hm hlater hstep _ hcalm=>?_
 obtain rfl : u=m.ended e r := hstep
 refine ⟨keeps_of_quiet hm (quiet_ended m e r) ?_,fun hu _=>?_⟩
 · intro f record ho
   cases ho
   exact hlater.holders hholds
 · have hended:=ended_run (r := r) (hlater.targets htarget) hcalm
   apply wp_seq (shared_of_steady asks_stopRenewal hu)
   rintro _ w ⟨hw,hlaterw⟩
   exact shared_finish hw (hended.later hlaterw)

lemma shared_executeClaimed {s} (hv:Sound v) (hholds:e ∈ v.holders record.id)
  (htarget:v.targets e=some record.id) :
  wp (shared timely calm) (executeClaimed s e record) (fun _ u=>Sound u) v := by
 refine shared_spared hv rfl fun _ u hu hlater=>?_
 refine shared_read hu ?_ ?_
 · intro err w hw _
   apply wp_seq (shared_of_steady asks_stopRenewal hw)
   rintro _ x ⟨hx,-⟩
   exact shared_onConflict hx
 · intro current w hw hlaterw hid _
   have hlater':=hlater.trans hlaterw
   dsimp only
   split
   · exact wp_mono (shared_of_steady asks_stopRenewal hw) fun _ _ h=>h.1
   refine shared_ask hw fun m r x hm hlaterm hstep _ hcalm=>?_
   refine ⟨keeps_of_spared hm rfl hstep,fun hx hlaterx=>?_⟩
   cases r with
   | ready =>
    refine shared_runHandler hx ?_ ?_
    · rw [hid]
      exact (hlater'.trans hlaterx).holders hholds
    · rw [hid]
      exact (hlater'.trans hlaterx).targets htarget
   | missing => exact shared_restoreFailed hx fun _=>rfl
   | failed err => exact shared_restoreFailed hx hcalm

lemma shared_executeBody {s} (hv:Sound v) (htarget:v.targets e=some record.id) :
  wp (shared timely calm) (executeBody s e record) (fun _ u=>Sound u) v := by
 apply wp_seq (shared_claimAttempts hv)
 rintro won u ⟨hu,hlater,hwon⟩
 cases won with
 | error err => exact shared_onConflict hu
 | ok won =>
  cases won with
  | false => exact hu
  | true => exact shared_executeClaimed hu (hwon rfl) (hlater.targets htarget)

lemma shared_execute {s record} (hv:Sound v) :
  wp (shared timely calm) (execute s record) (fun _ _=>True) v := by
 refine shared_ask hv fun m e u hm _ hstep _ _=>⟨keeps_of_spared hm rfl hstep,?_⟩
 intro hu _
 obtain ⟨-,rfl⟩:=hstep
 apply wp_seq (shared_executeBody hu (Function.update_self ..))
 intro _ w hw
 have hasks:Asks (Spares [.write,.run]) (taskOp (.cancelRun e) >>= fun _ =>
   taskOp (.deleteCancel s.process record.id)) :=
  asks_perform rfl fun _=>asks_ask rfl fun _=>asks_ret
 exact wp_mono (shared_of_asks hasks hw) fun _ _ _=>trivial

lemma asks_create {s entryID arguments} : Asks Steady (create s entryID arguments) := by
 refine asks_perform rfl fun identity=>?_
 cases identity with
 | error err => exact asks_ret
 | ok identity =>
  refine asks_perform rfl fun id=>?_
  cases id with
  | error err => exact asks_ret
  | ok id =>
   refine asks_perform rfl fun now=>?_
   refine asks_perform rfl fun denied=>?_
   cases denied with
   | some err => exact asks_ret
   | none =>
    refine asks_perform rfl fun created=>?_
    cases created <;> exact asks_ret

lemma asks_expired {record} : Asks Steady (expired record) := by
 unfold expired
 split
 · exact asks_ret
 · exact asks_perform rfl fun _=>asks_ret

lemma asks_relaunched {s records} : Asks Steady (relaunched s records) := by
 induction records with
 | nil => exact asks_ret
 | cons record records ih =>
  exact asks_bind asks_expired fun _=>asks_bind ih fun _=>asks_ret

lemma asks_recoverWorking {s} : Asks Steady (recoverWorking s) := by
 refine asks_perform rfl fun listed=>?_
 cases listed with
 | error err => exact asks_ret
 | ok records => exact asks_bind asks_relaunched fun _=>asks_ret

lemma shared_loadAuthorized {id} (hv:Sound v) :
  wp (shared timely calm) (loadAuthorized id)
   (fun loaded u=>Sound u ∧ ∀ record,loaded = .ok record →
    record.id=id ∧ Reads u record) v := by
 refine shared_read hv ?_ ?_
 · intro err u hu _
   dsimp only
   split
   · exact ⟨hu,fun _ h=>by cases h⟩
   · exact ⟨hu,fun _ h=>by cases h⟩
 · intro record u hu _ hid hrecord
   have hread:Reads u record:=⟨record,hrecord,.inl rfl⟩
   apply wp_seq (shared_of_steady asks_expired hu)
   rintro past w ⟨hw,hlaterw⟩
   cases past with
   | true => exact ⟨hw,fun _ h=>by cases h⟩
   | false =>
    refine shared_spared hw rfl fun denied x hx hlaterx=>?_
    cases denied with
    | some err => exact ⟨hx,fun _ h=>by cases h⟩
    | none =>
     refine ⟨hx,fun _ h=>?_⟩
     cases h
     exact ⟨hid,hread.later (hlaterw.trans hlaterx)⟩

lemma asks_propagateCancel {s record} : Asks Steady (propagateCancel s record) := by
 refine asks_perform rfl fun _=>?_
 split
 · refine asks_perform rfl fun failed=>?_
   cases failed <;> exact asks_ret
 · exact asks_ret

lemma shared_cancelAttempts {s id left} (hv:Sound v) :
  wp (shared timely calm) (cancelAttempts s id left) (fun _ _=>True) v := by
 induction left generalizing v with
 | zero => trivial
 | succ left ih =>
  apply wp_seq (shared_loadAuthorized hv)
  rintro loaded u ⟨hu,hloaded⟩
  cases loaded with
  | error err => trivial
  | ok record =>
   obtain ⟨-,hread⟩:=hloaded record rfl
   dsimp only
   split
   · trivial
   rename_i hterminal
   have hworking:record.status = .working:=by
    by_contra hne
    exact hterminal (record.status.ne_working_iff.mp hne)
   refine shared_spared hu rfl fun now w hw hlaterw=>?_
   refine shared_update hw record ?_ ?_ ?_
   · refine ⟨hread.later hlaterw,hworking,rfl,rfl,?_,?_,?_⟩
     · intro h
       cases h
     · intro _ _ h
       cases h
     · intro _ _
       exact .inl ⟨_,rfl,rfl⟩
   · intro err x hx _
     dsimp only
     split
     · exact ih hx
     · trivial
   · intro x hx _ _
     exact wp_mono (shared_of_steady asks_propagateCancel hx) fun _ _ _=>trivial

lemma shared_goroutine (g:Goroutine) (hv:Sound v) :
  wp (shared timely calm) g.program (fun _ _=>True) v := by
 cases g with
 | create s entryID arguments =>
  apply wp_seq (shared_of_steady asks_create hv)
  rintro created u ⟨hu,-⟩
  cases created with
  | error err => trivial
  | ok record => exact shared_execute hu
 | recovery s index =>
  apply wp_seq (shared_of_steady asks_recoverWorking hv)
  rintro launched u ⟨hu,-⟩
  cases launched with
  | error err => trivial
  | ok records =>
   dsimp only
   split
   · exact shared_execute hu
   · trivial
 | renewal s ticks => exact shared_renewLease hv
 | cancel s negotiated id =>
  have hcancel:wp (shared timely calm) (cancel s negotiated id) (fun _ _=>True) v:=by
   unfold cancel
   split
   · exact shared_cancelAttempts hv
   · trivial
  exact wp_seq hcancel fun _ _ _=>trivial

end Lebro.TaskGoroutines
