import Lebro.TaskLifecycles

set_option autoImplicit false

namespace Lebro.TaskOutcomes

open EffectProgram EffectPool EffectRuns RuntimeTypes TaskService TaskStore TaskGoroutines
open TaskLifecycles List

variable {current:TaskRecord} {es:List (Event TaskSig)} {o:TaskOp} {i:ℕ} {e:Nat}

def Reached : (o : TaskOp) → o.Reply → Prop
 | .getTask (.finish _) _, .error _ => False
 | _, _ => True

def handlerFailure : String := "task execution failed"

/-- Among the events of a goroutine, the outcome of a run is stored, or its record is found
terminal, or the conflict hook is called where there is one. -/
def Settled (s : Service) (es : List (Event TaskSig)) (e : Nat) (current : TaskRecord)
  (r : RunReply) : Prop :=
 (∃ read now, ⟨.getTask (.finish e) current.id, .ok read⟩ ∈ es ∧
  ⟨.updateTask (.finish e) (finished read now r.result r.err handlerFailure), .ok ()⟩ ∈ es) ∨
 (∃ read, ⟨.getTask (.finish e) current.id, .ok read⟩ ∈ es ∧ read.status.terminal = true) ∨
 (s.config.hasOnConflict = true → ⟨.onConflict current, ()⟩ ∈ es)

lemma Settled.mono {s fs r} (h:Settled s es e current r) (hsub:es ⊆ fs) :
  Settled s fs e current r := by
 rcases h with ⟨read,now,hread,hwrite⟩ | ⟨read,hread,hterminal⟩ | hcalled
 · exact .inl ⟨read,now,hsub hread,hsub hwrite⟩
 · exact .inr (.inl ⟨read,hsub hread,hterminal⟩)
 · exact .inr (.inr fun hhook=>hsub (hcalled hhook))

section

variable {α β:Type} {s:Service}

lemma trace_op {k:o.Reply → TaskProg α} {a} (h:Trace (taskOp o >>= k) es (.ret a)) :
  ∃ r fs,es = ⟨o,r⟩ :: fs ∧ Trace (k r) fs (.ret a) := by
 have h':Trace (.ask (S:=TaskSig) o k) es (.ret a) := h
 cases h' with
 | next tail => exact ⟨_,_,rfl,tail⟩

lemma onConflict_called {record} (h:Trace (onConflict s record) es (.ret ()))
  (hhook:s.config.hasOnConflict=true) : ⟨.onConflict record,()⟩ ∈ es := by
 unfold onConflict at h
 rw [if_pos hhook] at h
 cases h with
 | next tail => exact mem_cons_self

lemma finish_settles {r} {left}
  (h:Trace (finishAttempts s e current r.result r.err handlerFailure left) es (.ret ()))
  (hreached:∀ ev ∈ es,Reached ev.1 ev.2) : Settled s es e current r := by
 induction left generalizing es with
 | zero => exact .inr (.inr (onConflict_called h))
 | succ left ih =>
  obtain ⟨read,fs,rfl,hread⟩:=trace_op h
  cases read with
  | error err => exact (hreached _ mem_cons_self).elim
  | ok read =>
   dsimp only at hread
   split at hread
   · rename_i hterminal
     exact .inr (.inl ⟨read,mem_cons_self,hterminal⟩)
   · obtain ⟨now,gs,rfl,hnow⟩:=trace_op hread
     obtain ⟨saved,hs,rfl,hsaved⟩:=trace_op hnow
     cases saved with
     | ok _ => exact .inl ⟨read,now,by simp,by simp⟩
     | error err =>
      dsimp only at hsaved
      split at hsaved
      · refine (ih hsaved fun ev hev=>hreached ev (by simp [hev])).mono ?_
        intro ev hev
        simp [hev]
      · refine .inr (.inr fun hhook=>?_)
        simp [onConflict_called hsaved hhook]

def Accounts (s : Service) (p : TaskProg α) : Prop :=
 ∀ es a, Trace p es (.ret a) → (∀ ev ∈ es, Reached ev.1 ev.2) → ∀ e current r,
  ⟨.run e current, r⟩ ∈ es → Settled s es e current r

lemma accounts_of_asks {p:TaskProg α} {fs} (hp:Asks (Spares fs) p) (hfs:Touched.run ∈ fs) :
  Accounts s p :=
 fun _ _ h _ _ _ _ hrun=>absurd hfs (of_decide_eq_true (hp.of_trace h _ hrun))

lemma accounts_steady {p:TaskProg α} (hp:Asks Steady p) : Accounts s p :=
 accounts_of_asks hp (by decide)

/-- What runs inside an execution, but for its handler. -/
abbrev Inside : TaskOp → Prop := Spares [.run, .table]

lemma accounts_inside {p:TaskProg α} (hp:Asks Inside p) : Accounts s p :=
 accounts_of_asks hp (by decide)

lemma accounts_bind {p:TaskProg α} {f:α → TaskProg β} (hp:Accounts s p)
  (hf:∀ a,Accounts s (f a)) : Accounts s (p >>= f) := by
 intro es b h hreached e current r hrun
 obtain ⟨fs,gs,a,rfl,hfirst,hsecond⟩:=h.of_bind
 rcases mem_append.mp hrun with hrun | hrun
 · refine (hp fs a hfirst (fun ev hev=>hreached ev ?_) e current r hrun).mono ?_
   · exact mem_append_left gs hev
   · exact subset_append_left fs gs
 · refine (hf a gs b hsecond (fun ev hev=>hreached ev ?_) e current r hrun).mono ?_
   · exact mem_append_right fs hev
   · exact subset_append_right fs gs

lemma asks_claimRead {retry} (hretry:Asks Inside retry) :
  Asks Inside (claimRead s e current retry) := by
 unfold claimRead
 split
 · exact asks_ret
 refine asks_bind ?_ fun held=>?_
 · unfold leaseHeld
   split
   · exact asks_ret
   · exact asks_perform rfl fun _=>asks_ret
 · cases held with
   | true => exact asks_ret
   | false =>
    refine asks_perform rfl fun _=>asks_perform rfl fun _=>?_
    refine asks_perform rfl fun saved=>?_
    cases saved with
    | ok _ => exact asks_ret
    | error err => exact asks_ite hretry asks_ret

lemma asks_claimAttempts {e id left} : Asks Inside (claimAttempts s e id left) := by
 induction left with
 | zero => exact asks_ret
 | succ left ih =>
  refine asks_perform rfl fun current=>?_
  cases current with
  | ok current => exact asks_claimRead ih
  | error err =>
   refine asks_ite asks_ret (asks_perform rfl fun done=>?_)
   cases done with
   | true => exact asks_ret
   | false => exact ih

lemma asks_extendAttempts {e id left} : Asks Inside (extendAttempts s e id left) := by
 induction left with
 | zero => exact asks_ret
 | succ left ih =>
  refine asks_perform rfl fun current=>?_
  cases current with
  | error err =>
   refine asks_perform rfl fun closed=>?_
   cases closed with
   | true => exact asks_ret
   | false => exact ih
  | ok current =>
   apply asks_ite asks_ret
   refine asks_perform rfl fun _=>asks_perform rfl fun _=>?_
   refine asks_perform rfl fun saved=>?_
   cases saved with
   | ok _ => exact asks_ret
   | error err => exact asks_ite ih asks_ret

lemma asks_renewTicks {e id} {ticks unreachable} :
  Asks Inside (renewTicks s e id ticks unreachable) := by
 have hgiveUp:Asks Inside (giveUp e):=asks_sparing asks_giveUp (by decide)
 induction ticks generalizing unreachable with
 | zero => exact asks_ret
 | succ ticks ih =>
  refine asks_perform rfl fun done=>?_
  cases done with
  | true => exact asks_sparing asks_closeRenewal (by decide)
  | false =>
   refine asks_bind asks_extendAttempts fun outcome=>?_
   cases outcome with
   | renewed => exact ih
   | terminal => exact hgiveUp
   | unreachable => exact asks_ite hgiveUp ih

lemma asks_cancelAttempts {id left} : Asks Inside (cancelAttempts s id left) := by
 have hload:Asks Inside (loadAuthorized id):=by
  refine asks_perform rfl fun record=>?_
  cases record with
  | error err => exact asks_ite asks_ret asks_ret
  | ok record =>
   refine asks_bind (asks_sparing asks_expired (by decide)) fun past=>?_
   cases past with
   | true => exact asks_ret
   | false =>
    refine asks_perform rfl fun denied=>?_
    cases denied <;> exact asks_ret
 induction left with
 | zero => exact asks_ret
 | succ left ih =>
  refine asks_bind hload fun loaded=>?_
  cases loaded with
  | error err => exact asks_ret
  | ok record =>
   apply asks_ite asks_ret
   refine asks_perform rfl fun now=>asks_perform rfl fun saved=>?_
   cases saved with
   | ok _ => exact asks_sparing asks_propagateCancel (by decide)
   | error err => exact asks_ite ih asks_ret

lemma asks_finish {e record result runErr message left} :
  Asks Inside (finishAttempts s e record result runErr message left) := by
 have hconflicted:Asks Inside (onConflict s record):=
  asks_sparing asks_onConflict (by decide)
 induction left with
 | zero => exact hconflicted
 | succ left ih =>
  refine asks_perform rfl fun current=>?_
  cases current with
  | error err => exact asks_ret
  | ok current =>
   apply asks_ite asks_ret
   refine asks_perform rfl fun now=>asks_perform rfl fun saved=>?_
   cases saved with
   | ok _ => exact asks_ret
   | error err => exact asks_ite ih hconflicted

lemma accounts_runHandler {e current} : Accounts s (runHandler s e current) := by
 intro es _ h hreached f record r hrun
 obtain ⟨ended,fs,rfl,htail⟩:=trace_op h
 obtain ⟨gs,hs,_,rfl,hstop,hfinish⟩:=htail.of_bind
 have hsilent:∀ ev ∈ gs++hs,Inside ev.1:=by
  intro ev hev
  rcases mem_append.mp hev with hev | hev
  · exact Spares.mono (by decide) (asks_stopRenewal.of_trace hstop ev hev)
  · exact asks_finish.of_trace hfinish ev hev
 rcases mem_cons.mp hrun with heq | hrun
 · cases heq
   refine (finish_settles hfinish fun ev hev=>hreached ev ?_).mono ?_
   · simp [hev]
   · intro ev hev
     simp [hev]
 · exact absurd (hsilent _ hrun) Bool.false_ne_true

lemma accounts_executeClaimed {e record} : Accounts s (executeClaimed s e record) := by
 have hop:∀ o : TaskOp,Spares [.run] o → Accounts s (taskOp o):=fun o ho =>
  accounts_of_asks (asks_ask ho fun _=>asks_ret) (by decide)
 have hfailed:∀ current err,Accounts s (restoreFailed s e current err):=fun current err =>
  accounts_bind (accounts_steady asks_stopRenewal) fun _ =>
   accounts_inside asks_finish
 refine accounts_bind (hop _ rfl) fun _=>accounts_bind (hop _ rfl) fun current=>?_
 cases current with
 | error err =>
  exact accounts_bind (accounts_steady asks_stopRenewal) fun _ =>
   accounts_steady asks_onConflict
 | ok current =>
  by_cases hworking : current.status = .working
  · simp only [hworking,ne_eq,not_true,if_false]
    refine accounts_bind (hop _ rfl) fun restored=>?_
    cases restored with
    | ready => exact accounts_runHandler
    | missing => exact hfailed current _
    | failed err => exact hfailed current err
  · simp only [hworking,ne_eq,not_false_eq_true,if_true]
    exact accounts_steady asks_stopRenewal

lemma accounts_execute {record} : Accounts s (execute s record) := by
 have hop:∀ o : TaskOp,Spares [.run] o → Accounts s (taskOp o):=fun o ho =>
  accounts_of_asks (asks_ask ho fun _=>asks_ret) (by decide)
 refine accounts_bind (hop _ rfl) fun e=>accounts_bind ?_ fun _ =>
  accounts_bind (hop _ rfl) fun _=>hop _ rfl
 refine accounts_bind (accounts_inside asks_claimAttempts) fun won=>?_
 cases won with
 | error err => exact accounts_steady asks_onConflict
 | ok won =>
  cases won with
  | false => exact accounts_steady asks_ret
  | true => exact accounts_executeClaimed

end

def service : Goroutine → Service
 | .create s _ _ => s
 | .recovery s _ => s
 | .renewal s _ => s
 | .cancel s _ _ => s

lemma accounts_goroutine {g} : Accounts (service g) g.program := by
 cases g with
 | create s entryID arguments =>
  refine accounts_bind (accounts_steady asks_create) fun created=>?_
  cases created with
  | error err => exact accounts_steady asks_ret
  | ok record => exact accounts_execute
 | recovery s index =>
  refine accounts_bind (accounts_steady asks_recoverWorking) fun launched=>?_
  cases launched with
  | error err => exact accounts_steady asks_ret
  | ok records =>
   dsimp only
   split
   · exact accounts_execute
   · exact accounts_steady asks_ret
 | renewal s ticks =>
  exact accounts_inside (asks_perform rfl fun started=>asks_renewTicks)
 | cancel s negotiated id =>
  refine accounts_inside (asks_bind ?_ fun _=>asks_ret)
  unfold cancel
  split
  · exact asks_cancelAttempts
  · exact asks_ret

def Carries (record : TaskRecord) (r : RunReply) : Prop :=
 match r.err with
 | none => record.status = .completed ∧ record.result = r.result
 | some err =>
  if err.is .canceled then record.status = .cancelled
  else record.status = .failed ∧ record.failure = failurePayload handlerFailure

lemma carries_finished (read now r version) :
  Carries { finished read now r.result r.err handlerFailure with version := version } r := by
 unfold Carries
 cases herr : r.err with
 | none => exact ⟨rfl,rfl⟩
 | some err =>
  by_cases hcanceled : err.is .canceled=true
  · simp [finished,hcanceled]
  · simp [finished,hcanceled]

/-- For every handler that has returned and whose goroutine is done, the outcome is stored, or the
record was found terminal, or the conflict hook was called where there is one. -/
def NoOutcomeLost (W : Monitor TaskSig TaskState) (s : TaskState) (gs : List Goroutine) : Prop :=
 ∀ es u qs (i : ℕ) g e current (r : RunReply), PoolRun W s (programs gs) es u qs →
  gs[i]? = some g → qs[i]? = some (.ret ()) → (i, ⟨.run e current, r⟩) ∈ es →
  (∃ record, u.tasks current.id = some record ∧ Carries record r) ∨
  (∃ read, (i, ⟨.getTask (.finish e) current.id, .ok read⟩) ∈ es ∧ read.status.terminal = true) ∨
  ((service g).config.hasOnConflict = true → (i, ⟨.onConflict current, ()⟩) ∈ es)

def reachedWorld : Monitor TaskSig TaskState := guarded taskWorld fun _ o r _ => Reached o r

section

variable {s u:TaskState} {ps qs:List (TaskProg Unit)} {es:List (PoolEvent TaskSig)}

lemma PoolRun.at_event {W r} (h:PoolRun W s ps es u qs) (he:(i,⟨o,r⟩) ∈ es) :
  ∃ before after m w rs rs',PoolRun W s ps before m rs ∧ W.step m o r w ∧
   PoolRun W w rs' after u qs ∧ PoolRun W s ps (before ++ [(i,⟨o,r⟩)]) w rs' := by
 obtain ⟨before,after,rfl⟩:=append_of_mem he
 obtain ⟨m,rs,hbefore,hrest⟩:=h.split
 cases hrest with
 | next hi hstep tail =>
  exact ⟨before,after,m,_,rs,_,hbefore,hstep,tail,
   hbefore.trans (.next hi hstep (.refl _ _))⟩

lemma read_filed (hs:Seated False False s ps) (h:PoolRun taskWorld s ps es u qs)
  {caller id read} (he:(i,⟨.getTask caller id,.ok read⟩) ∈ es) : read.id=id := by
 obtain ⟨before,after,m,w,rs,rs',hbefore,hstep,-,-⟩:=PoolRun.at_event h he
 have hm:=(hs.run (hbefore.mono fun _ _ _ _=>careful_of_step)).2.2.1
 exact hm.filed hstep.1

lemma write_stored (hs:Seated False False s ps) (h:PoolRun taskWorld s ps es u qs)
  {caller record} (he:(i,⟨.updateTask caller record,.ok ()⟩) ∈ es)
  (hterminal:record.status.terminal=true) :
  u.tasks record.id=some { record with version := record.version+1 } := by
 obtain ⟨before,after,m,w,rs,rs',-,hstep,hafter,hthere⟩:=PoolRun.at_event h he
 have hseated:=(hs.run (hthere.mono fun _ _ _ _=>careful_of_step)).2.2
 have hlater:=(hseated.run (hafter.mono fun _ _ _ _=>careful_of_step)).2.1
 rcases hstep with ⟨-,rfl⟩ | ⟨⟨err,herr⟩,-⟩
 · refine hlater.kept ?_ hterminal
   rw [tasks_won]
   exact (m.tasks_put_self { record with version := record.version+1 })
 · cases herr

end

theorem outcomes_stored_or_reported (records : List TaskRecord) (gs : List Goroutine) :
  NoOutcomeLost reachedWorld (.fresh records) gs := by
 intro es u qs i g e current r hrun hg hret he
 have hsteps:∀ m o r w, reachedWorld.step m o r w → taskWorld.step m o r w :=
  fun _ _ _ _ hstep=>hstep.1
 have hplain:=hrun.mono hsteps
 have hseated:Seated False False (.fresh records) (programs gs) := seated_fresh records gs
 have hprogram:(programs gs)[i]? = some g.program := by
  unfold programs
  rw [List.getElem?_map,hg]
  rfl
 obtain ⟨q,hq,htrace⟩:=hrun.trace hprogram
 obtain rfl : q = .ret () := Option.some.inj (hq.symm.trans hret)
 have hreached:∀ ev ∈ threadEvents i es, Reached ev.1 ev.2 := by
  intro ev hev
  obtain ⟨_,_,_,_,_,_,-,hstep,-,-⟩ :=
   PoolRun.at_event (o := ev.1) (r := ev.2) hrun (mem_threadEvents.mp hev)
  exact hstep.2
 have hsettled:=accounts_goroutine _ _ htrace hreached e current r (mem_threadEvents.mpr he)
 rcases hsettled with ⟨read,now,hread,hwrite⟩ | ⟨read,hread,hterminal⟩ | hcalled
 · left
   have hid:=read_filed hseated hplain (mem_threadEvents.mp hread)
   have hstored:=write_stored hseated hplain (mem_threadEvents.mp hwrite) (finished_terminal ..)
   refine ⟨_,?_,carries_finished read now r
    ((finished read now r.result r.err handlerFailure).version + 1)⟩
   rw [← hid,← finished_id read now r.result r.err handlerFailure]
   exact hstored
 · exact .inr (.inl ⟨read,mem_threadEvents.mp hread,hterminal⟩)
 · exact .inr (.inr fun hhook=>mem_threadEvents.mp (hcalled hhook))

def outageAtEnd : Scene where
 clock _ := 0
 down _ caller := caller == .finish 0
 renews _ := 0
 ends _ := .returned (some ⟨.json (.str "done"), false⟩) none

def recovery : List Goroutine := [.recovery (server 0) 0, .renewal (server 0) 1]

def toTheEnd : List ℕ :=
 List.replicate 9 0 ++ [1] ++ List.replicate 2 0 ++ List.replicate 2 1 ++ List.replicate 4 0

def leasedOrphan : TaskRecord :=
 { orphan with leaseUntil := some (30 * 1000 * nanosPerMilli), version := 2 }

def storeReached : (o : TaskOp) → TaskState → o.Reply → Bool
 | .getTask (.finish _) _, _, .error _ => false
 | _, _, _ => true

def storedRun : List (PoolEvent TaskSig) × TaskState × List (TaskProg Unit) :=
 schedule (passing storeReached (answerTask { outageAtEnd with down := fun _ _ => false }))
  (toTheEnd ++ List.replicate 4 0) (.fresh [orphan]) (programs recovery)

theorem outcome_stored : PoolRun reachedWorld (.fresh [orphan]) (programs recovery) storedRun.1
   storedRun.2.1 storedRun.2.2 ∧
  storedRun.2.2[0]? = some (.ret ()) ∧
  (0, (⟨.run 0 leasedOrphan, outageAtEnd.ends 0⟩ : Event TaskSig)) ∈ storedRun.1 ∧
  ((∃ record, storedRun.2.1.tasks "task" = some record ∧ Carries record (outageAtEnd.ends 0)) ∨
   (∃ read, (0, (⟨.getTask (.finish 0) "task", .ok read⟩ : Event TaskSig)) ∈ storedRun.1 ∧
    read.status.terminal = true) ∨
   ((server 0).config.hasOnConflict = true →
    (0, (⟨.onConflict leasedOrphan, ()⟩ : Event TaskSig)) ∈ storedRun.1)) := by
 have hreached (o : TaskOp) (m : TaskState) (r : o.Reply) (h : storeReached o m r = true) :
   Reached o r := by
  unfold Reached
  split
  · cases h
  · trivial
 have hrun:PoolRun reachedWorld (.fresh [orphan]) (programs recovery) storedRun.1
   storedRun.2.1 storedRun.2.2 :=
  passing_run (answerTask_step _) (fun o m r _=>hreached o m r) ..
 have hran:(0,(⟨.run 0 leasedOrphan,outageAtEnd.ends 0⟩ : Event TaskSig)) ∈ storedRun.1 :=
  mem_of_getElem? (i := 10) rfl
 refine ⟨hrun,rfl,hran,?_⟩
 exact outcomes_stored_or_reported [orphan] recovery _ _ _ 0 _ 0 leasedOrphan _ hrun rfl rfl hran

def finalRun : List (PoolEvent TaskSig) × TaskState × List (TaskProg Unit) :=
 scheduled outageAtEnd toTheEnd (.fresh [orphan]) (programs recovery)

def settling : PoolEvent TaskSig → Bool
 | (_, ⟨.getTask (.finish _) _, .ok _⟩) => true
 | (_, ⟨.onConflict _, _⟩) => true
 | _ => false

lemma finalRun_settles_nothing {ev} (h:ev ∈ finalRun.1) : settling ev=false := by
 have hall:finalRun.1.all (fun ev=>!settling ev)=true:=rfl
 simpa using all_eq_true.mp hall ev h

theorem outcome_lost_silently : ¬ NoOutcomeLost taskWorld (.fresh [orphan]) recovery ∧
  ∃ es u qs record, PoolRun taskWorld (.fresh [orphan]) (programs recovery) es u qs ∧
   qs[0]? = some (.ret ()) ∧ u.tasks "task" = some record ∧ record.status = .working := by
 have hrun:PoolRun taskWorld (.fresh [orphan]) (programs recovery) finalRun.1 finalRun.2.1
   finalRun.2.2 := scheduled_run ..
 refine ⟨fun h=>?_,finalRun.1,finalRun.2.1,finalRun.2.2,_,hrun,rfl,rfl,rfl⟩
 have hended:(0,(⟨.run 0 leasedOrphan,outageAtEnd.ends 0⟩ : Event TaskSig)) ∈ finalRun.1 :=
  mem_of_getElem? (i := 10) rfl
 rcases h _ _ _ 0 _ 0 _ _ hrun rfl rfl hended with
  ⟨record,hrecord,hcarries⟩ | ⟨read,hread,-⟩ | hcalled
 · cases hrecord
   exact absurd hcarries.1 (by decide)
 · have hno:true = false := finalRun_settles_nothing hread
   cases hno
 · have hno:true = false := finalRun_settles_nothing (hcalled rfl)
   cases hno

end Lebro.TaskOutcomes
