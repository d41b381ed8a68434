import Lebro.ScheduleEdits

set_option autoImplicit false

namespace Lebro.ScheduleOverlaps

open EffectProgram EffectRuns EffectPool RuntimeTypes RuntimeRecords MemoryStore StoreRecords
open StoreTables SchedulerTicks ScheduleFires ScheduleEdits List

variable {s u:SchedulerState} {o:SchedulerOp} {r:o.Reply} {tr:List (PoolEvent SchedulerSig)}
 {i:ℕ} {now:Time} {id:ScheduleID}

lemma collectMissed_bounds {s id} {now:Time} {compiled} {latest:Time} {missed}
  (h:latest ≤ now) :
  latest ≤ (collectMissed s id now compiled latest missed).1 ∧
   (collectMissed s id now compiled latest missed).1 ≤ now := by
 fun_induction collectMissed s id now compiled latest missed with
 | case1 latest missed _ => exact ⟨le_refl latest,h⟩
 | case2 latest missed next hnext hdue ih =>
  have hlater:=compiled.later latest next hnext
  obtain ⟨hle,hnow⟩:=ih hdue
  exact ⟨le_trans (le_of_lt hlater) hle,hnow⟩
 | case3 latest missed _ _ _ => exact ⟨le_refl latest,h⟩

lemma dueOccurrence_bounds {s} {t r} {compiled} (hnext:r.nextFireAt=some t) (hdue:t ≤ now) :
  t ≤ (dueOccurrence s now r compiled).1 ∧ (dueOccurrence s now r compiled).1 ≤ now := by
 unfold dueOccurrence
 rw [hnext,Option.getD_some]
 cases compiled with
 | error e => exact ⟨le_refl t,hdue⟩
 | ok compiled => exact collectMissed_bounds hdue

lemma due_of_matches {f v} (hf:f.dueBy=some now) (h:scheduleMatchesFilter v f=true) :
  ∃ t,v.nextFireAt=some t ∧ t ≤ now := by
 unfold scheduleMatchesFilter at h
 rw [hf,Option.all_some] at h
 obtain ⟨-,hdue⟩:=Bool.and_eq_true_iff.mp h
 obtain ⟨-,hany⟩:=Bool.and_eq_true_iff.mp hdue
 cases hnext : v.nextFireAt with
 | none =>
  rw [hnext] at hany
  cases hany
 | some t =>
  rw [hnext] at hany
  exact ⟨t,rfl,of_decide_eq_true hany⟩

def RowKept (id : ScheduleID) (s : SchedulerState) : (o : SchedulerOp) → o.Reply →
  SchedulerState → Prop
 | .runtime _, _, u => u.store.schedules.lookup id = s.store.schedules.lookup id
 | _, _, _ => True

def tickWorld (id : ScheduleID) : Monitor SchedulerSig SchedulerState :=
 guarded storeWorld (RowKept id)

def ledgerAt (i : ℕ) (tr : List (PoolEvent SchedulerSig)) : Ledger :=
 (threadEvents i tr).foldl (fun l e => l.after e.1 e.2) {}

/-- The tick starts the workflow of the schedule: it asks for the ID of a run. -/
def Started (id : ScheduleID) (tr : List (PoolEvent SchedulerSig)) (i : ℕ) : Prop :=
 ∃ x runID y, tr = x ++ (i, ⟨.runtime .newRunID, runID⟩) :: y ∧ (ledgerAt i x).starting = some id

def Commits (id : ScheduleID) (e : PoolEvent SchedulerSig) : Prop :=
 ∃ v exec missed, e.2 = ⟨.transaction (saveFire v exec missed), .ok ()⟩ ∧ v.id = id

def Current (id : ScheduleID) (tr : List (PoolEvent SchedulerSig)) (i : ℕ) : Prop :=
 ∀ before after, tr = before ++ after → (∃ v ∈ (ledgerAt i before).listed, v.id = id) →
  ∀ e ∈ after, ¬ Commits id e

/-- A tick claims the schedule, and records its fire, only while what it listed is current, and
the record of a fire is not lost. -/
def Orderly (id : ScheduleID) (tr : List (PoolEvent SchedulerSig)) : PoolEvent SchedulerSig → Prop
 | (i, ⟨.claimInflight other, true⟩) => other = id → Current id tr i
 | (i, ⟨.transaction body, r⟩) => ∀ v exec missed, body = saveFire v exec missed → v.id = id →
   r = .ok () ∧ Current id tr i
 | _ => True

/-- The next fire of the schedule is the same, or later, or there is none any more. -/
def Forward (id : ScheduleID) (s : SchedulerState) (o : SchedulerOp) (_ : o.Reply)
  (u : SchedulerState) : Prop :=
 u.store.schedules.lookup id = s.store.schedules.lookup id ∨
  ∃ v w t, s.store.schedules.lookup id = some v ∧ v.nextFireAt = some t ∧
   u.store.schedules.lookup id = some w ∧ ∀ next, w.nextFireAt = some next → t < next

lemma ledgerAt_next (k i:ℕ) (tr o r) :
  ledgerAt k (tr ++ [(i,⟨o,r⟩)]) =
   if k=i then (ledgerAt i tr).after o r else ledgerAt k tr := by
 unfold ledgerAt
 rw [threadEvents_append]
 by_cases hk : k=i
 · subst hk
   rw [if_pos rfl,threadEvents_cons_self,threadEvents_nil,foldl_append]
   rfl
 · rw [if_neg hk,threadEvents_cons_ne (Ne.symm hk),threadEvents_nil,append_nil]

lemma started_next {k} (h:Started id (tr ++ [(i,⟨o,r⟩)]) k) : Started id tr k ∨
  k=i ∧ (ledgerAt i tr).starting=some id ∧
   ∃ runID,(⟨o,r⟩ : Event SchedulerSig)=⟨.runtime .newRunID,runID⟩ := by
 obtain ⟨x,runID,y,heq,hstarting⟩:=h
 rcases eq_nil_or_concat y with rfl | ⟨y,e,rfl⟩
 · obtain ⟨rfl,he⟩:=append_inj' heq rfl
   cases he
   exact .inr ⟨rfl,hstarting,runID,rfl⟩
 · rw [concat_eq_append,← cons_append,← append_assoc] at heq
   exact .inl ⟨x,runID,y,(append_inj' heq rfl).1,hstarting⟩

lemma Current.before {e} (h:Current id (tr ++ [e]) i) : Current id tr i := by
 intro before after htr hlisted f hf
 refine h before (after ++ [e]) ?_ hlisted f (mem_append_left _ hf)
 rw [htr,append_assoc]

section

variable {id:ScheduleID} {nows:List Time}

structure Inv (id : ScheduleID) (nows : List Time) (tr : List (PoolEvent SchedulerSig))
  (s : SchedulerState) : Prop where
 filed : Filed s.store
 skip : ∀ v, s.store.schedules.lookup id = some v →
  ConcurrencyPolicy.normalized v.concurrency = .skip
 listed : ∀ i, ∀ v ∈ (ledgerAt i tr).listed, v.id = id →
  ConcurrencyPolicy.normalized v.concurrency = .skip ∧
   ∀ now, nows[i]? = some now → ∃ t, v.nextFireAt = some t ∧ t ≤ now
 fresh : ∀ i, Current id tr i → ∀ v ∈ (ledgerAt i tr).listed, v.id = id →
  s.store.schedules.lookup id = some v
 free : s.inflight id = false → ∀ i, (ledgerAt i tr).held ≠ some id
 one : ∀ i j, (ledgerAt i tr).held = some id → (ledgerAt j tr).held = some id → i = j
 pending : ∀ i, (ledgerAt i tr).starting = some id →
  (ledgerAt i tr).held = some id ∧ (ledgerAt i tr).saved = false
 starts : ∀ i now, nows[i]? = some now → Started id tr i →
  (ledgerAt i tr).held = some id ∧ (ledgerAt i tr).saved = false ∨
   ∀ v t, s.store.schedules.lookup id = some v → v.nextFireAt = some t → now < t
 ahead : ∀ i, (ledgerAt i tr).starting = some id → ∀ v ∈ (ledgerAt i tr).listed, v.id = id →
  ∀ t, v.nextFireAt = some t → ∀ j now, nows[j]? = some now → Started id tr j → now < t

/-- Two ticks that are about to start the schedule, or run it, are one. -/
lemma Inv.alone {k} (h:Inv id nows tr s) (hk:(ledgerAt k tr).starting=some id)
  (hi:(ledgerAt i tr).starting=some id) : k=i :=
 h.one k i (h.pending k hk).1 (h.pending i hi).1

/-- A tick that claims the schedule lists an occurrence after those that were started. -/
lemma Inv.claimed {v t j now} (h:Inv id nows tr s) (hflight:s.inflight id=false)
  (hcurrent:Current id tr i) (hv:v ∈ (ledgerAt i tr).listed) (hid:v.id=id)
  (ht:v.nextFireAt=some t) (hnow:nows[j]? = some now) (hstarted:Started id tr j) : now < t := by
 rcases h.starts j now hnow hstarted with ⟨hheld,-⟩ | hlater
 · exact absurd hheld (h.free hflight j)
 · exact hlater v t (h.fresh i hcurrent v hv hid) ht

lemma Inv.next (h:Inv id nows tr s) (hfiled:Filed u.store)
  (hrow:u.store.schedules.lookup id=s.store.schedules.lookup id)
  (hlisted:∀ v ∈ ((ledgerAt i tr).after o r).listed,v ∈ (ledgerAt i tr).listed ∨
   (s.store.schedules.lookup v.id=some v ∧ ∀ now,nows[i]? = some now →
   ∃ t,v.nextFireAt=some t ∧ t ≤ now))
  (hfree:u.inflight id=false → s.inflight id=false ∨ (ledgerAt i tr).held=some id)
  (hheld:((ledgerAt i tr).after o r).held=some id → u.inflight id=true ∧
   ((ledgerAt i tr).held=some id ∨ s.inflight id=false))
  (hkept:(ledgerAt i tr).held=some id → (ledgerAt i tr).saved=false →
   ((ledgerAt i tr).after o r).held=some id ∧ ((ledgerAt i tr).after o r).saved=false)
  (hstarting:((ledgerAt i tr).after o r).starting=some id →
   ((ledgerAt i tr).after o r).listed=(ledgerAt i tr).listed ∧
   ((ledgerAt i tr).starting=some id ∨ s.inflight id=false ∧ Current id tr i ∧
    ((ledgerAt i tr).after o r).held=some id ∧ ((ledgerAt i tr).after o r).saved=false)) :
  Inv id nows (tr ++ [(i,⟨o,r⟩)]) u := by
 have hself:ledgerAt i (tr ++ [(i,⟨o,r⟩)])=(ledgerAt i tr).after o r:=by
  rw [ledgerAt_next,if_pos rfl]
 have hother:∀ k,k ≠ i → ledgerAt k (tr ++ [(i,⟨o,r⟩)])=ledgerAt k tr:=by
  intro k hk
  rw [ledgerAt_next,if_neg hk]
 have hrowOf:∀ v ∈ (ledgerAt i (tr ++ [(i,⟨o,r⟩)])).listed,v.id=id →
   v ∈ (ledgerAt i tr).listed ∨ (s.store.schedules.lookup id=some v ∧
    ∀ now,nows[i]? = some now → ∃ t,v.nextFireAt=some t ∧ t ≤ now) := by
  intro v hv hid
  rw [hself] at hv
  rcases hlisted v hv with hold | ⟨hstored,hdue⟩
  · exact .inl hold
  · rw [hid] at hstored
    exact .inr ⟨hstored,hdue⟩
 -- A start leaves its tick nothing to start, so no other start is pending.
 have holdStart:∀ j k,(ledgerAt k (tr ++ [(i,⟨o,r⟩)])).starting=some id →
   Started id (tr ++ [(i,⟨o,r⟩)]) j → Started id tr j := by
  intro j k hk hj
  rcases started_next hj with hold | ⟨rfl,hpending,runID,⟨⟩⟩
  · exact hold
  by_cases hkj : k=j
  · subst hkj
    rw [hself] at hk
    cases hk
  · rw [hother k hkj] at hk
    exact absurd (h.alone hk hpending) hkj
 refine ⟨hfiled,?_,?_,?_,?_,?_,?_,?_,?_⟩
 · intro v hv
   rw [hrow] at hv
   exact h.skip v hv
 · intro k v hv hid
   by_cases hk : k=i
   · subst hk
     rcases hrowOf v hv hid with hold | ⟨hstored,hdue⟩
     · exact h.listed k v hold hid
     · exact ⟨h.skip v hstored,hdue⟩
   · rw [hother k hk] at hv
     exact h.listed k v hv hid
 · intro k hcurrent v hv hid
   rw [hrow]
   by_cases hk : k=i
   · subst hk
     rcases hrowOf v hv hid with hold | ⟨hstored,-⟩
     · exact h.fresh k hcurrent.before v hold hid
     · exact hstored
   · rw [hother k hk] at hv
     exact h.fresh k hcurrent.before v hv hid
 · intro hflight k hk
   by_cases hki : k=i
   · subst hki
     rw [hself] at hk
     rw [(hheld hk).1] at hflight
     cases hflight
   · rw [hother k hki] at hk
     rcases hfree hflight with hbefore | howner
     · exact h.free hbefore k hk
     · exact hki (h.one k i hk howner)
 · intro j k hj hk
   by_cases hji : j=i
   · by_cases hki : k=i
     · rw [hji,hki]
     · subst hji
       rw [hself] at hj
       rw [hother k hki] at hk
       rcases (hheld hj).2 with howner | hbefore
       · exact h.one j k howner hk
       · exact absurd hk (h.free hbefore k)
   · rw [hother j hji] at hj
     by_cases hki : k=i
     · subst hki
       rw [hself] at hk
       rcases (hheld hk).2 with howner | hbefore
       · exact h.one j k hj howner
       · exact absurd hj (h.free hbefore j)
     · rw [hother k hki] at hk
       exact h.one j k hj hk
 · intro k hk
   by_cases hki : k=i
   · subst hki
     rw [hself] at hk ⊢
     rcases (hstarting hk).2 with hold | ⟨-,-,hclaimed⟩
     · exact hkept (h.pending k hold).1 (h.pending k hold).2
     · exact hclaimed
   · rw [hother k hki] at hk ⊢
     exact h.pending k hk
 · intro k now hnow hstarted
   rw [hrow]
   by_cases hki : k=i
   · subst hki
     rw [hself]
     rcases started_next hstarted with hold | ⟨-,hpending,-⟩
     · rcases h.starts k now hnow hold with ⟨howner,hunsaved⟩ | hlater
       · exact .inl (hkept howner hunsaved)
       · exact .inr hlater
     · exact .inl (hkept (h.pending k hpending).1 (h.pending k hpending).2)
   · rw [hother k hki]
     rcases started_next hstarted with hold | ⟨hk,-⟩
     · exact h.starts k now hnow hold
     · exact absurd hk hki
 · intro k hk v hv hid t ht j now hnow hstarted
   have hold:=holdStart j k hk hstarted
   by_cases hki : k=i
   · subst hki
     rw [hself] at hk hv
     obtain ⟨hsame,hclaim⟩:=hstarting hk
     rw [hsame] at hv
     rcases hclaim with hpending | ⟨hflight,hcurrent,-⟩
     · exact h.ahead k hpending v hv hid t ht j now hnow hold
     · exact h.claimed hflight hcurrent hv hid ht hnow hold
   · rw [hother k hki] at hk hv
     exact h.ahead k hk v hv hid t ht j now hnow hold

lemma Inv.commit {r v exec missed} (h:Inv id nows tr s) (hnow:nows[i]? = some now)
  (hr:r ∈ (ledgerAt i tr).listed) (hfired:Fired now r v) (hid:v.id=id)
  (hcurrent:Current id tr i) (hfiled:Filed u.store) (hinflight:u.inflight=s.inflight)
  (hsaved:u.store.schedules=s.store.schedules.insert v.id v) :
  Inv id nows (tr ++ [(i,⟨.transaction (saveFire v exec missed),.ok ()⟩)]) u ∧
   ∃ t,s.store.schedules.lookup id=some r ∧ r.nextFireAt=some t ∧
    u.store.schedules.lookup id=some v ∧ ∀ next,v.nextFireAt=some next → t < next := by
 have hrid:r.id=id:=hfired.id.symm.trans hid
 have hstored:=h.fresh i hcurrent r hr hrid
 obtain ⟨hskip,hdue⟩:=h.listed i r hr hrid
 obtain ⟨t,ht,htnow⟩:=hdue now hnow
 have hrow:u.store.schedules.lookup id=some v:=by rw [hsaved,hid,AList.lookup_insert]
 have hledger:∀ k,(ledgerAt k (tr ++ [(i,⟨.transaction (saveFire v exec missed),
   .ok ()⟩)])).listed=(ledgerAt k tr).listed ∧
   (ledgerAt k (tr ++ [(i,⟨.transaction (saveFire v exec missed),.ok ()⟩)])).held =
    (ledgerAt k tr).held := by
  intro k
  rw [ledgerAt_next]
  split
  · next hk =>
     subst hk
     exact ⟨rfl,rfl⟩
  · exact ⟨rfl,rfl⟩
 have hothers:∀ k,(ledgerAt k (tr ++ [(i,⟨.transaction (saveFire v exec missed),
   .ok ()⟩)])).starting=some id → k ≠ i ∧ (ledgerAt k tr).starting=some id := by
  intro k hk
  rw [ledgerAt_next] at hk
  split at hk
  · cases hk
  · next hki => exact ⟨hki,hk⟩
 have hold:∀ k,Started id (tr ++ [(i,⟨.transaction (saveFire v exec missed),.ok ()⟩)]) k →
   Started id tr k := by
  intro k hk
  rcases started_next hk with hold | ⟨-,-,runID,⟨⟩⟩
  exact hold
 refine ⟨⟨hfiled,?_,?_,?_,?_,?_,?_,?_,?_⟩,t,hstored,ht,hrow,?_⟩
 · intro w hw
   rw [hrow] at hw
   cases hw
   have hpolicy:=congrArg ScheduleRecord.concurrency hfired.settings
   rw [show v.concurrency=r.concurrency from hpolicy]
   exact hskip
 · intro k w hw
   rw [(hledger k).1] at hw
   exact h.listed k w hw
 · intro k hafter w hw hwid
   rw [(hledger k).1] at hw
   refine absurd ?_ (hafter tr _ rfl ⟨w,hw,hwid⟩ _ (mem_singleton_self _))
   exact ⟨v,exec,missed,rfl,hid⟩
 · intro hflight k
   rw [(hledger k).2]
   rw [hinflight] at hflight
   exact h.free hflight k
 · intro j k
   rw [(hledger j).2,(hledger k).2]
   exact h.one j k
 · intro k hk
   obtain ⟨hki,hk⟩:=hothers k hk
   rw [ledgerAt_next,if_neg hki]
   exact h.pending k hk
 · intro k at' hat hstarted
   by_cases hki : k=i
   · subst hki
     refine .inr ?_
     intro w next hw hnext
     rw [hrow] at hw
     cases hw
     rw [hnow] at hat
     cases hat
     exact hfired.later next hnext
   · rw [ledgerAt_next,if_neg hki]
     rcases h.starts k at' hat (hold k hstarted) with hown | hlater
     · exact .inl hown
     · refine .inr ?_
       intro w next hw hnext
       rw [hrow] at hw
       cases hw
       exact lt_of_lt_of_le (hlater r t hstored ht) (le_trans htnow
        (le_of_lt (hfired.later next hnext)))
 · intro k hk w hw hwid next hnext j at' hat hstarted
   rw [(hledger k).1] at hw
   exact h.ahead k (hothers k hk).2 w hw hwid next hnext j at' hat (hold j hstarted)
 · intro next hnext
   exact lt_of_le_of_lt htnow (hfired.later next hnext)

lemma not_unclaimed (h:Inv id nows tr s) : ¬ Unclaimed (ledgerAt i tr) id := by
 rintro ⟨r,hr,hid,hpolicy⟩
 exact hpolicy (h.listed i r hr hid).1

lemma Inv.busy (h:Inv id nows tr s) (hheld:(ledgerAt i tr).held=some id) :
  s.inflight id=true := by
 cases hflight : s.inflight id with
 | true => rfl
 | false => exact absurd hheld (h.free hflight i)

lemma put_ne {V:Type} (f:ScheduleID → V) {k x} (v:V) (h:x ≠ k) : put f k v x=f x := if_neg h
lemma put_self {V : Type} (f : ScheduleID → V) (k) (v : V) : put f k v k=v := if_pos rfl

lemma inv_step (h:Inv id nows tr s) (hnow:nows[i]? = some now)
  (hdemand:ledgerDemand now (ledgerAt i tr) o) (horderly:Orderly id tr (i,⟨o,r⟩))
  (hstep:(tickWorld id).step s o r u) :
  Inv id nows (tr ++ [(i,⟨o,r⟩)]) u ∧ Forward id s o r u := by
 obtain ⟨hstore,halone⟩:=hstep
 have hfiled:=storeWorld_filed hstore h.filed
 obtain ⟨hstep,hbacked⟩:=hstore
 cases o with
 | runtime o =>
  obtain ⟨hinflight,-⟩:=hstep
  refine ⟨h.next hfiled halone (fun v hv=>.inl hv) ?_ ?_ (fun hh hs=>⟨hh,hs⟩) ?_,
   .inl halone⟩
  · intro hflight
    rw [hinflight] at hflight
    exact .inl hflight
  · intro hheld
    rw [hinflight]
    exact ⟨h.busy hheld,.inl hheld⟩
  · intro hstarting
    refine ⟨rfl,.inl ?_⟩
    change (if startsRun o then none else _)=some id at hstarting
    split at hstarting
    · cases hstarting
    · exact hstarting
 | listSchedules f q =>
  obtain rfl : u=s := hstep
  refine ⟨?_,.inl rfl⟩
  cases r with
  | error e =>
   exact h.next hfiled rfl (fun v hv=>.inl hv) .inl (fun hh=>⟨h.busy hh,.inl hh⟩)
    (fun hh hs=>⟨hh,hs⟩) fun hstarting=>⟨rfl,.inl hstarting⟩
  | ok page =>
   refine h.next hfiled rfl ?_ .inl (fun hh=>⟨h.busy hh,.inl hh⟩)
    (fun hh hs=>⟨hh,hs⟩) nofun
   intro v hv
   rcases mem_append.mp hv with hv | hv
   · exact .inl hv
   · obtain ⟨hrow,hmatches⟩:=mem_listSchedules h.filed (hbacked page rfl) hv
     refine .inr ⟨hrow,?_⟩
     intro now' hnow'
     rw [hnow] at hnow'
     cases hnow'
     exact due_of_matches hdemand hmatches
 | claimInflight other =>
  obtain ⟨hreply,rfl⟩:=hstep
  refine ⟨?_,.inl rfl⟩
  have hfree:put s.inflight other true id=false →
    s.inflight id=false ∨ (ledgerAt i tr).held=some id := by
   intro hflight
   by_cases hid : id=other
   · subst hid
     rw [put_self] at hflight
     cases hflight
   · exact .inl ((put_ne s.inflight true hid).symm.trans hflight)
  cases r with
  | false =>
   refine h.next hfiled rfl (fun v hv=>.inl hv) hfree ?_ (fun hh hs=>⟨hh,hs⟩)
    fun hstarting=>⟨rfl,.inl hstarting⟩
   intro hheld
   refine ⟨?_,.inl hheld⟩
   by_cases hid : id=other
   · subst hid
     exact put_self _ _ _
   · exact (put_ne s.inflight true hid).trans (h.busy hheld)
  | true =>
   have hnone:(ledgerAt i tr).held=none:=hdemand.1
   have hfirst:s.inflight other=false:=by
    cases hflight : s.inflight other with
    | false => rfl
    | true =>
     rw [hflight] at hreply
     cases hreply
   refine h.next hfiled rfl (fun v hv=>.inl hv) hfree ?_ ?_ ?_
   · intro hheld
     obtain rfl : other=id := Option.some.inj hheld
     exact ⟨put_self _ _ _,.inr hfirst⟩
   · intro hheld
     rw [hnone] at hheld
     cases hheld
   · intro hstarting
     obtain rfl : other=id := Option.some.inj hstarting
     exact ⟨rfl,.inr ⟨hfirst,horderly rfl,rfl,rfl⟩⟩
 | markInflight other =>
  obtain rfl : u=_ := hstep
  have hne:id ≠ other:=by
   rintro rfl
   exact not_unclaimed h hdemand
  refine ⟨h.next hfiled rfl (fun v hv=>.inl hv) ?_ ?_ (fun hh hs=>⟨hh,hs⟩) ?_,.inl rfl⟩
  · intro hflight
    exact .inl ((put_ne s.inflight true hne).symm.trans hflight)
  · intro hheld
    exact ⟨(put_ne s.inflight true hne).trans (h.busy hheld),.inl hheld⟩
  · intro hstarting
    exact absurd (Option.some.inj hstarting).symm hne
 | clearInflight other =>
  obtain rfl : u=_ := hstep
  have howned:id=other → (ledgerAt i tr).held=some id ∧ (ledgerAt i tr).saved=true:=by
   rintro rfl
   rcases hdemand with hown | hunclaimed
   · exact hown
   · exact absurd hunclaimed (not_unclaimed h)
  have hafter:((ledgerAt i tr).after (.clearInflight other) r).held =
    if (ledgerAt i tr).held=some other then none else (ledgerAt i tr).held := rfl
  refine ⟨h.next hfiled rfl (fun v hv=>.inl hv) ?_ ?_ ?_ nofun,.inl rfl⟩
  · intro hflight
    by_cases hid : id=other
    · exact .inr (howned hid).1
    · exact .inl ((put_ne s.inflight false hid).symm.trans hflight)
  · intro hheld
    rw [hafter] at hheld
    split at hheld
    · cases hheld
    · next hother =>
       have hid:id ≠ other:=by
        rintro rfl
        exact hother hheld
       exact ⟨(put_ne s.inflight false hid).trans (h.busy hheld),.inl hheld⟩
  · intro hheld hunsaved
    have hid:id ≠ other:=by
     intro hid
     rw [(howned hid).2] at hunsaved
     cases hunsaved
    refine ⟨?_,hunsaved⟩
    rw [hafter,hheld,if_neg fun heq=>hid (Option.some.inj heq)]
 | transaction body =>
  obtain ⟨listed,hlisted,v,exec,missed,rfl,hfired,-,-,hheld⟩:=hdemand
  by_cases hid : v.id=id
  · obtain ⟨rfl,hcurrent⟩:=horderly v exec missed rfl hid
    obtain ⟨hok,rfl⟩:=hstep
    obtain ⟨hinv,t,hbefore,ht,hafter,hlater⟩ :=
     h.commit hnow hlisted hfired hid hcurrent hfiled rfl (saveFire_schedules hok)
    exact ⟨hinv,.inr ⟨listed,v,t,hbefore,ht,hafter,hlater⟩⟩
  · have hrow:u.store.schedules.lookup id=s.store.schedules.lookup id:=by
     cases r with
     | error e => rw [show u=s from hstep]
     | ok _ =>
      obtain ⟨hok,rfl⟩:=hstep
      exact (congrArg (AList.lookup id) (saveFire_schedules hok)).trans
       (AList.lookup_insert_ne (Ne.symm hid))
    have hinflight:u.inflight=s.inflight:=by
     cases r with
     | error e => rw [show u=s from hstep]
     | ok _ => rw [hstep.2]
    refine ⟨h.next hfiled hrow (fun w hw=>.inl hw) ?_ ?_ ?_ nofun,.inl hrow⟩
    · intro hflight
      rw [hinflight] at hflight
      exact .inl hflight
    · intro hh
      rw [hinflight]
      exact ⟨h.busy hh,.inl hh⟩
    · intro hh _
      exact absurd (hheld id hh) hid

lemma inv_nil (hs:Filed s.store) (hskip:∀ v,s.store.schedules.lookup id=some v →
   ConcurrencyPolicy.normalized v.concurrency = .skip)
  : Inv id nows [] s where
 filed := hs
 skip := hskip
 listed := fun _ _ hv=>(not_mem_nil hv).elim
 fresh := fun _ _ _ hv=>(not_mem_nil hv).elim
 free := fun _ _ hheld=>absurd hheld (Option.some_ne_none id).symm
 one := fun _ _ hheld=>absurd hheld (Option.some_ne_none id).symm
 pending := fun _ hstarting=>absurd hstarting (Option.some_ne_none id).symm
 starts := fun _ _ _ ⟨_,_,_,htr,_⟩=>
  absurd htr.symm (append_ne_nil_of_right_ne_nil _ (cons_ne_nil _ _))
 ahead := fun _ hstarting=>absurd hstarting (Option.some_ne_none id).symm

lemma demand_of_run {a b s before after qs}
  (h:PoolRun (tickWorld id) a (nows.map (tick s)) (before++(i,⟨o,r⟩) :: after) b qs) :
  ∃ now,nows[i]? = some now ∧ ledgerDemand now (ledgerAt i before) o := by
 have hlt:=h.thread_lt (mem_append_right before mem_cons_self)
 rw [length_map] at hlt
 have hnow:nows[i]? = some nows[i]:=List.getElem?_eq_getElem hlt
 exact ⟨_,hnow,h.demand_at (by rw [List.getElem?_map,hnow,Option.map_some]) (wp_tick s)⟩

lemma inv_run {s a b es qs} (ha:Filed a.store)
  (hskip:∀ v,a.store.schedules.lookup id=some v → ConcurrencyPolicy.normalized v.concurrency =
   .skip) (h:PoolRun (tickWorld id) a (nows.map (tick s)) es b qs)
  (horderly:PoolRun.Meets (tickWorld id) a (nows.map (tick s)) es fun tr _ e=>Orderly id tr e) :
  Inv id nows es b ∧
   PoolRun (guarded (tickWorld id) (Forward id)) a (nows.map (tick s)) es b qs := by
 refine h.invariant_of_meets (fun tr v rs=>Inv id nows tr v ∧
  PoolRun (guarded (tickWorld id) (Forward id)) a (nows.map (tick s)) tr v rs) horderly
  ⟨inv_nil ha hskip,.refl _ _⟩ ?_
 intro tr v rs i o k r x hrun hI hC hi hx
 obtain ⟨hinv,hforward⟩:=hI
 obtain ⟨now,hnow,hdemand⟩:=demand_of_run (hrun.trans (.next hi hx (.refl x _)))
 obtain ⟨hinv',hstep⟩:=inv_step hinv hnow hdemand hC hx
 exact ⟨hinv',hforward.trans (.next hi ⟨hx,hstep⟩ (.refl x _))⟩

end

def skipJob : ScheduleRecord := { job with concurrency := .skip }

def skipDue : SchedulerState where
 inflight _ := false
 store := { StoreState.empty with
  schedules := (AList.insert "job" skipJob ∅ : Table String ScheduleRecord) }

def answerTicks : (o : SchedulerOp) → SchedulerState → Option (o.Reply × SchedulerState)
 | .runtime o, s => (reportReply o).map fun r => (r, s)
 | o, s => answerStore o s

lemma answerTicks_step (h:answerTicks o s=some (r,u)) : (tickWorld id).step s o r u := by
 cases o with
 | runtime o =>
  obtain ⟨r,hr,hru⟩:=Option.map_eq_some_iff.mp h
  cases hru
  refine ⟨⟨⟨rfl,rfl,fun _ hid=>hid⟩,?_⟩,rfl⟩
  cases o with
  | repo o => cases hr
  | _ => exact fun hs=>hs
 | _ => exact ⟨answerStore_step h,trivial⟩

lemma skipDue_filed : Filed skipDue.store :=
 filed_insert (t := (∅ : Table String ScheduleRecord)) (v := skipJob) fun _ _ h=>by cases h

section

-- Runs on fixed inputs are computed, through the search for missed occurrences.
attribute [local semireducible] collectMissed

def AllOrderly (id : ScheduleID) : List (PoolEvent SchedulerSig) →
  List (PoolEvent SchedulerSig) → Prop
 | _, [] => True
 | tr, e :: es => Orderly id tr e ∧ AllOrderly id (tr ++ [e]) es

lemma AllOrderly.at {es before after e} (h:AllOrderly id tr es)
  (hes:es=before++e :: after) :
  Orderly id (tr++before) e := by
 induction before generalizing tr es with
 | nil =>
  subst hes
  rw [append_nil]
  exact h.1
 | cons f before ih =>
  subst hes
  have hrest:=ih h.2 rfl
  rwa [append_assoc] at hrest

def quiet : SchedulerOp → Bool
 | .transaction _ => false
 | _ => true

lemma current_of_quiet (pre post) (hpre:threadEvents i pre=[])
  (hpost:post.all (fun e=>quiet e.2.1)=true) : Current id (pre++post) i := by
 intro before after htr hlisted e he hcommits
 obtain ⟨v,hv,-⟩:=hlisted
 obtain ⟨w,exec,missed,hevent,-⟩:=hcommits
 have hquiet:e ∉ post:=by
  intro hmem
  have hquiet:=all_eq_true.mp hpost e hmem
  rw [hevent] at hquiet
  cases hquiet
 rcases append_eq_append_iff.mp htr with ⟨rest,hbefore,hafter⟩ | ⟨rest,hbefore,hafter⟩
 · rw [hafter] at hquiet
   exact hquiet (mem_append_right _ he)
 · rw [hbefore,threadEvents_append] at hpre
   have hnone:threadEvents i before=[]:=(append_eq_nil_iff.mp hpre).1
   unfold ledgerAt at hv
   rw [hnone] at hv
   cases hv

def nextOf (s : SchedulerState) (id : ScheduleID) : Option (Option Time) :=
 (s.store.schedules.lookup id).map ScheduleRecord.nextFireAt

end

end Lebro.ScheduleOverlaps
