import Lebro.EffectRuns
import Mathlib.Algebra.BigOperators.Group.Finset.Piecewise
import Mathlib.Algebra.Order.BigOperators.Group.Finset

set_option autoImplicit false

/-! Several programs run interleaved over one monitored state. -/
namespace Lebro.EffectPool

open EffectProgram EffectRuns List

variable {S:Sig} {α σ:Type}

abbrev PoolEvent (S : Sig) := ℕ × Event S

/-- Interleaved executions: each step schedules one program that waits for a reply. -/
inductive PoolRun (W : Monitor S σ) :
  σ → List (Prog S α) → List (PoolEvent S) → σ → List (Prog S α) → Prop where
 | refl (s : σ) (ps : List (Prog S α)) : PoolRun W s ps [] s ps
 | next {s u v : σ} {ps qs : List (Prog S α)} {i : ℕ} {o : S.Op}
   {k : S.Reply o → Prog S α} {r : S.Reply o} {es : List (PoolEvent S)}
   (hi : ps[i]? = some (.ask o k)) (h : W.step s o r u)
   (tail : PoolRun W u (ps.set i (k r)) es v qs) :
   PoolRun W s ps ((i, ⟨o, r⟩) :: es) v qs

def threadEvents (i : ℕ) (es : List (PoolEvent S)) : List (Event S) :=
 es.filterMap fun e => if e.1 = i then some e.2 else none

@[simp] lemma threadEvents_nil (i) : threadEvents i ([] : List (PoolEvent S))=[] := rfl
@[simp] lemma threadEvents_cons_self (i : ℕ) (e : Event S) (es) :
  threadEvents i ((i,e) :: es)=e :: threadEvents i es := by
 simp [threadEvents]

variable {i:ℕ}

lemma threadEvents_cons_ne {j} (h:j ≠ i) (e:Event S) (es) :
  threadEvents i ((j,e) :: es)=threadEvents i es := by
 simp [threadEvents,h]
lemma threadEvents_append (i : ℕ) (es fs : List (PoolEvent S)) :
  threadEvents i (es++fs)=threadEvents i es++threadEvents i fs := by
 simp [threadEvents]

variable {W:Monitor S σ} {s u v:σ} {ps qs rs:List (Prog S α)} {es fs:List (PoolEvent S)}

lemma mem_threadEvents {e} : e ∈ threadEvents i es ↔ (i,e) ∈ es := by
 simp only [threadEvents,mem_filterMap,Option.ite_none_right_eq_some,Option.some.injEq,
  Prod.exists]
 constructor
 · rintro ⟨j,f,hf,rfl,rfl⟩
   exact hf
 · intro h
   exact ⟨i,e,h,rfl,rfl⟩

variable {p q:Prog S α}

namespace PoolRun

lemma length_eq (h:PoolRun W s ps es u qs) : qs.length=ps.length := by
 induction h with
 | refl _ _ => rfl
 | next _ _ _ ih => simpa using ih

lemma trans (h:PoolRun W s ps es u qs) (h':PoolRun W u qs fs v rs) :
  PoolRun W s ps (es++fs) v rs := by
 induction h with
 | refl _ _ => exact h'
 | next hi hs _ ih => exact .next hi hs (ih h')

lemma mono {V} (hWV:∀ s o r u,W.step s o r u → V.step s o r u) (h:PoolRun W s ps es u qs) :
  PoolRun V s ps es u qs := by
 induction h with
 | refl s ps => exact .refl s ps
 | next hi hs _ ih => exact .next hi (hWV _ _ _ _ hs) ih

lemma follows (h:PoolRun W s ps es u qs) : W.Follows s (es.map Prod.snd) u := by
 induction h with
 | refl _ _ => exact .nil _
 | next _ hs _ ih => exact .cons hs ih

lemma trace (h:PoolRun W s ps es u qs) (hp:ps[i]? = some p) :
  ∃ q,qs[i]? = some q ∧ Trace p (threadEvents i es) q := by
 induction h generalizing p with
 | refl _ _ => exact ⟨p,hp,.refl p⟩
 | @next _ _ _ ps _ j o k r es hj _ _ ih =>
  by_cases hij : j=i
  · subst hij
    have hlt:j < ps.length:=(List.getElem?_eq_some_iff.mp hj).1
    obtain ⟨q,hq,ht⟩:=ih (p := k r) (by simp [hlt])
    obtain rfl : Prog.ask o k=p := by simpa [hj] using hp
    exact ⟨q,hq,by simpa using Trace.next ht⟩
  · obtain ⟨q,hq,ht⟩:=ih (p := p) (by simpa [hij] using hp)
    exact ⟨q,hq,by simpa [threadEvents_cons_ne hij] using ht⟩

lemma split (h:PoolRun W s ps (es++fs) v rs) :
  ∃ u qs,PoolRun W s ps es u qs ∧ PoolRun W u qs fs v rs := by
 induction es generalizing s ps with
 | nil => exact ⟨s,ps,.refl s ps,h⟩
 | cons e es ih =>
  cases h with
  | next hi hs tail =>
   obtain ⟨u,qs,hu,hv⟩:=ih tail
   exact ⟨u,qs,.next hi hs hu,hv⟩

lemma thread_lt (h:PoolRun W s ps es u qs) {e} (he:e ∈ es) : e.1 < ps.length := by
 induction h with
 | refl _ _ => simp at he
 | next hi _ _ ih =>
  rcases mem_cons.mp he with rfl | he
  · exact (List.getElem?_eq_some_iff.mp hi).1
  · simpa using ih he

/-- An invariant of the state, the programs and the events so far holds after every run. -/
lemma invariant (I:List (PoolEvent S) → σ → List (Prog S α) → Prop)
  (h:PoolRun W s ps es u qs) (h0:I [] s ps)
  (hstep:∀ tr s ps i o (k:S.Reply o → Prog S α) r u,I tr s ps → ps[i]? = some (.ask o k) →
   W.step s o r u → I (tr ++ [(i,⟨o,r⟩)]) u (ps.set i (k r))) :
  I es u qs := by
 suffices ∀ tr,I tr s ps → I (tr++es) u qs from this [] h0
 clear h0
 induction h with
 | refl _ _ => intro tr htr; simpa using htr
 | next hi hs _ ih =>
  intro tr htr
  simpa using ih _ (hstep _ _ _ _ _ _ _ _ htr hi hs)

lemma asks {P} (h:PoolRun W s ps es u qs) (hps:∀ p ∈ ps,Asks P p) : ∀ q ∈ qs,Asks P q := by
 induction h with
 | refl _ _ => exact hps
 | @next s u v ps qs i o k r es hi _ _ ih =>
  have hask:Asks P (.ask o k):=hps _ (mem_of_getElem? hi)
  apply ih
  intro q hq
  rcases mem_or_eq_of_mem_set hq with hq | rfl
  · exact hps q hq
  · exact hask.2 r () trivial

lemma always {P} (h:PoolRun W s ps es u qs) (hi:ps[i]? = some p) (hp:Always P p)
  (hq:qs[i]? = some q) : P q := by
 obtain ⟨q',hq',htrace⟩:=h.trace hi
 rw [hq] at hq'
 cases hq'
 exact hp.of_trace htrace

lemma keeps {P:S.Op → Prop} {A:σ → Prop} (hW:∀ s o r u,P o → A s → W.step s o r u → A u)
  (h:PoolRun W s ps es u qs) (hps:∀ p ∈ ps,Asks P p) (hs:A s) : A u := by
 induction h with
 | refl _ _ => exact hs
 | @next s u v ps qs i o k r es hi hstep tail ih =>
  have hask:Asks P (.ask o k):=hps _ (mem_of_getElem? hi)
  have hone:PoolRun W s ps [(i,⟨o,r⟩)] u (ps.set i (k r)):=.next hi hstep (.refl u _)
  exact ih (hone.asks hps) (hW s o r u hask.1 hs hstep)

lemma residual {γ:Type} {demand:γ → S.Op → Prop} {update g} (h:PoolRun W s ps es u qs)
  (hps:∀ p ∈ ps,wp (Monitor.ghost demand update) p (fun _ _=>True) g) (hq:qs[i]? = some q) :
  wp (Monitor.ghost demand update) q (fun _ _=>True)
   ((threadEvents i es).foldl (fun g e=>update g e.1 e.2) g) := by
 have hi:i < ps.length:=by
  rw [← h.length_eq]
  exact (List.getElem?_eq_some_iff.mp hq).1
 obtain ⟨q',hq',htrace⟩:=h.trace (List.getElem?_eq_getElem hi)
 obtain rfl : q'=q := Option.some.inj (hq'.symm.trans hq)
 exact htrace.wp (Monitor.ghost_follows demand update g _) (hps _ (getElem_mem hi))

lemma demand_at {γ:Type} {demand:γ → S.Op → Prop} {update g Q before after} {e:Event S}
  (h:PoolRun W s ps (before++(i,e) :: after) u qs) (hp:ps[i]? = some p)
  (hwp:wp (Monitor.ghost demand update) p Q g) :
  demand ((threadEvents i before).foldl (fun g e=>update g e.1 e.2) g) e.1 := by
 obtain ⟨q,-,htrace⟩:=h.trace hp
 have hes:threadEvents i (before++(i,e) :: after) =
   threadEvents i before++e :: threadEvents i after := by
  rw [threadEvents_append,threadEvents_cons_self]
 exact htrace.demand_at hwp hes

/-- Every step of the run meets a condition on the events before it and the programs. -/
def Meets (W : Monitor S σ) (s : σ) (ps : List (Prog S α)) (es : List (PoolEvent S))
  (C : List (PoolEvent S) → List (Prog S α) → PoolEvent S → Prop) : Prop :=
 ∀ tr e rest u qs, es = tr ++ e :: rest → PoolRun W s ps tr u qs → C tr qs e

variable {C:List (PoolEvent S) → List (Prog S α) → PoolEvent S → Prop}

lemma Meets.before (h:Meets W s ps (es++fs) C) : Meets W s ps es C := by
 intro tr e rest u qs heq hrun
 refine h tr e (rest++fs) u qs ?_ hrun
 rw [heq,append_assoc,cons_append]

lemma invariant_of_meets (I:List (PoolEvent S) → σ → List (Prog S α) → Prop)
  (h:PoolRun W s ps es u qs) (hC:Meets W s ps es C) (h0:I [] s ps)
  (hstep:∀ tr v rs i o (k:S.Reply o → Prog S α) r x,PoolRun W s ps tr v rs → I tr v rs →
   C tr rs (i,⟨o,r⟩) → rs[i]? = some (.ask o k) → W.step v o r x →
    I (tr ++ [(i,⟨o,r⟩)]) x (rs.set i (k r))) :
  I es u qs := by
 have hall:=h.invariant (fun tr v rs=>PoolRun W s ps tr v rs ∧ (Meets W s ps tr C → I tr v rs))
  ⟨.refl s ps,fun _=>h0⟩ ?_
 · exact hall.2 hC
 · intro tr v rs i o k r x hI hi hx
   obtain ⟨hrun,hI⟩:=hI
   refine ⟨hrun.trans (.next hi hx (.refl x _)),?_⟩
   intro hmeets
   exact hstep tr v rs i o k r x hrun (hI hmeets.before) (hmeets tr _ [] v rs rfl hrun) hi hx

end PoolRun

def under (W : Monitor S σ) (R : σ → σ → Prop) : Monitor S σ where
 demand := W.demand
 step s o r u := ∃ m, R s m ∧ W.step m o r u

variable {R:σ → σ → Prop}

lemma under_follows (hrefl:∀ s,R s s) (htrans:∀ s m u,R s m → R m u → R s u) {es} (h:R s u)
  (hes:(under W R).Follows u es v) : ∃ x,(under W R).Follows s es x ∧ R x v := by
 cases hes with
 | nil => exact ⟨s,.nil s,h⟩
 | cons hstep tail =>
  obtain ⟨m,hm,hstep⟩:=hstep
  exact ⟨v,.cons ⟨m,htrans _ _ _ h hm,hstep⟩ tail,hrefl v⟩

lemma PoolRun.rely (hrefl:∀ s,R s s) (htrans:∀ s m u,R s m → R m u → R s u) {P}
  (hR:∀ s o r u,P o → W.step s o r u → R s u) (h:PoolRun W s ps es u qs)
  (hps:∀ j p,j ≠ i → ps[j]? = some p → Asks P p) :
  ∃ v,(under W R).Follows s (threadEvents i es) v ∧ R v u := by
 induction h with
 | refl s _ => exact ⟨s,.nil s,hrefl s⟩
 | @next s u v ps qs j o k r es hj hstep tail ih =>
  by_cases hij : j=i
  · subst hij
    have hothers:∀ l p,l ≠ j → (ps.set j (k r))[l]? = some p → Asks P p:=by
     intro l p hl hp
     rw [List.getElem?_set_ne (Ne.symm hl)] at hp
     exact hps l p hl hp
    obtain ⟨x,hx,hxv⟩:=ih hothers
    rw [threadEvents_cons_self]
    exact ⟨x,.cons ⟨s,hrefl s,hstep⟩ hx,hxv⟩
  · have hask:Asks P (.ask o k):=hps j _ hij hj
    have hothers:∀ l p,l ≠ i → (ps.set j (k r))[l]? = some p → Asks P p:=by
     intro l p hl hp
     by_cases hjl : j=l
     · subst hjl
       rw [List.getElem?_set_self (List.getElem?_eq_some_iff.mp hj).1] at hp
       cases hp
       exact hask.2 r () trivial
     · rw [List.getElem?_set_ne hjl] at hp
       exact hps l p hl hp
    obtain ⟨x,hx,hxv⟩:=ih hothers
    obtain ⟨y,hy,hyx⟩:=under_follows hrefl htrans (hR s o r u hask.1 hstep) hx
    rw [threadEvents_cons_ne hij]
    exact ⟨y,hy,htrans _ _ _ hyx hxv⟩

lemma countP_eq_sum_threads (p:Event S → Bool) (n es) (h:∀ e ∈ es,e.1 < n) :
  es.countP (fun e=>p e.2) = ∑ i ∈ Finset.range n, (threadEvents i es).countP p := by
 induction es with
 | nil => simp
 | cons e es ih =>
  obtain ⟨j,e⟩:=e
  have hj:j < n:=h (j,e) mem_cons_self
  have hih:=ih fun f hf=>h f (mem_cons_of_mem _ hf)
  have hcount:∀ i,(threadEvents i ((j,e) :: es)).countP p =
    (threadEvents i es).countP p+if i=j then (if p e then 1 else 0) else 0 := by
   intro i
   by_cases hij : i=j
   · subst hij; simp [countP_cons]
   · simp [threadEvents_cons_ne (Ne.symm hij),hij]
  simp [hcount,countP_cons,hih,Finset.sum_add_distrib,Finset.sum_ite_eq',hj]

def guarded (W : Monitor S σ) (G : σ → (o : S.Op) → S.Reply o → σ → Prop) : Monitor S σ where
 demand := W.demand
 step s o r u := W.step s o r u ∧ G s o r u

/-- A program among others: before each of its steps the state may change as `R` allows, and its
own steps keep to `G`. -/
def relying (W : Monitor S σ) (R : σ → σ → Prop) (G : σ → (o : S.Op) → S.Reply o → σ → Prop) :
  Monitor S σ where
 demand s o := ∀ m r u, R s m → W.step m o r u → G m o r u
 step s o r u := ∃ m, R s m ∧ W.step m o r u

lemma PoolRun.guarantees {G:σ → (o:S.Op) → S.Reply o → σ → Prop} (hrefl:∀ s,R s s)
  (htrans:∀ s m u,R s m → R m u → R s u) (hG:∀ s o r u,W.step s o r u → G s o r u → R s u)
  {Q:ℕ → α → σ → Prop} (h:PoolRun W s ps es u qs)
  (hps:∀ i p,ps[i]? = some p → ∃ v,R v s ∧ wp (relying W R G) p (Q i) v) :
  PoolRun (guarded W G) s ps es u qs ∧ R s u ∧
   ∀ i q,qs[i]? = some q → ∃ v,R v u ∧ wp (relying W R G) q (Q i) v := by
 induction h with
 | refl s ps => exact ⟨.refl s ps,hrefl s,hps⟩
 | @next s m u ps qs i o k r es hi hstep _ ih =>
  obtain ⟨v,hv,hdemand,hcont⟩:=hps i _ hi
  have hown:G s o r m:=hdemand s r m hv hstep
  have hnext:∀ j p,(ps.set i (k r))[j]? = some p →
    ∃ v,R v m ∧ wp (relying W R G) p (Q j) v := by
   intro j p hp
   by_cases hij : i=j
   · subst hij
     rw [List.getElem?_set_self (List.getElem?_eq_some_iff.mp hi).1] at hp
     cases hp
     exact ⟨m,hrefl m,hcont r m ⟨s,hv,hstep⟩⟩
   · rw [List.getElem?_set_ne hij] at hp
     obtain ⟨v,hv,hwp⟩:=hps j p hp
     exact ⟨v,htrans _ _ _ hv (hG s o r m hstep hown),hwp⟩
  obtain ⟨hrun,hR,hrest⟩:=ih hnext
  exact ⟨.next hi ⟨hstep,hown⟩ hrun,htrans _ _ _ (hG s o r m hstep hown) hR,hrest⟩

lemma PoolRun.solo {es} (h:Trace p es q) (hes:W.Follows s es u) (hi:ps[i]? = some p) :
  PoolRun W s ps (es.map (i,·)) u (ps.set i q) := by
 induction h generalizing s ps with
 | refl p =>
  cases hes
  obtain ⟨hlt,rfl⟩:=List.getElem?_eq_some_iff.mp hi
  rw [set_getElem_self hlt]
  exact .refl _ ps
 | next _ ih =>
  cases hes with
  | cons hstep tail =>
   have hlt:=(List.getElem?_eq_some_iff.mp hi).1
   have hrest:=ih tail (List.getElem?_set_self hlt)
   rw [set_set] at hrest
   exact .next hi hstep hrest

variable {P:(o:S.Op) → S.Reply o → Prop}

/-- A run whose events all have a property is a run under the monitor that asks for it. -/
lemma PoolRun.of_forall_mem (h:PoolRun W s ps es u qs) (hes:∀ e ∈ es,P e.2.1 e.2.2) :
  PoolRun (guarded W fun _ o r _=>P o r) s ps es u qs := by
 induction h with
 | refl s ps => exact .refl s ps
 | next hi hstep _ ih =>
  obtain ⟨he,hes⟩:=forall_mem_cons.mp hes
  exact .next hi ⟨hstep,he⟩ (ih hes)

def tokens (P : (o : S.Op) → S.Reply o → Prop) (earn : Event S → Bool) (spend : S.Op → Bool) :
  Monitor S ℕ where
 demand n o := spend o = true → 0 < n
 step n o r m := P o r ∧ m = n + (earn ⟨o, r⟩).toNat - (spend o).toNat

lemma countP_spend_le {earn spend es n Q} (h:Trace p es q) (hes:∀ e ∈ es,P e.1 e.2)
  (hp:wp (tokens P earn spend) p Q n) : es.countP (fun e=>spend e.1) ≤ n+es.countP earn := by
 induction h generalizing n with
 | refl _ => exact Nat.zero_le _
 | @next o k r es q tail ih =>
  obtain ⟨he,hes⟩:=forall_mem_cons.mp hes
  have hrest:=ih hes (hp.2 r _ ⟨he,rfl⟩)
  have hpaid:spend o=true → 0 < n:=hp.1
  rw [countP_cons,countP_cons]
  cases hs : spend o with
  | false =>
   rw [hs,Bool.toNat_false,Nat.sub_zero] at hrest
   cases hr : earn ⟨o,r⟩ <;> simp only [hr,Bool.toNat_true,Bool.toNat_false] at hrest <;>
    simp only [if_true,Bool.false_eq_true,if_false] <;> omega
  | true =>
   have hn:=hpaid hs
   rw [hs,Bool.toNat_true] at hrest
   cases hr : earn ⟨o,r⟩ <;> simp only [hr,Bool.toNat_true,Bool.toNat_false] at hrest <;>
    simp only [if_true,Bool.false_eq_true,if_false] <;> omega

lemma PoolRun.countP_spend_le {earn spend} (hP:∀ s o r u,W.step s o r u → P o r)
  (h:PoolRun W s ps es u qs) (hps:∀ p ∈ ps,wp (tokens P earn spend) p (fun _ _=>True) 0) :
  es.countP (fun e=>spend e.2.1) ≤ es.countP fun e=>earn e.2 := by
 have hlt:∀ e ∈ es,e.1 < ps.length:=fun e he=>h.thread_lt he
 have hall:∀ e ∈ es.map Prod.snd,P e.1 e.2:=h.follows.forall_mem hP
 rw [countP_eq_sum_threads (fun e=>spend e.1) ps.length es hlt,
  countP_eq_sum_threads earn ps.length es hlt]
 apply Finset.sum_le_sum
 intro i hi
 obtain ⟨q,-,htrace⟩:=h.trace (List.getElem?_eq_getElem (Finset.mem_range.mp hi))
 have hthread:∀ e ∈ threadEvents i es,P e.1 e.2:=fun e he =>
  hall e (mem_map_of_mem (mem_threadEvents.mp he))
 simpa using EffectPool.countP_spend_le htrace hthread (hps _ (getElem_mem _))

/-- The run that a list of thread numbers schedules. The handler answers for a thread, or leaves it
blocked; blocked and finished threads are passed over. -/
def schedule (h : ℕ → (o : S.Op) → σ → Option (S.Reply o × σ)) :
  List ℕ → σ → List (Prog S α) → List (PoolEvent S) × σ × List (Prog S α)
 | [], s, ps => ([], s, ps)
 | i :: is, s, ps =>
  match ps[i]? with
  | some (.ask o k) =>
   match h i o s with
   | some (r, u) =>
    let rest := schedule h is u (ps.set i (k r))
    ((i, ⟨o, r⟩) :: rest.1, rest.2)
   | none => schedule h is s ps
  | _ => schedule h is s ps

variable {h:ℕ → (o:S.Op) → σ → Option (S.Reply o × σ)}

lemma schedule_run (hW:∀ i o s r u,h i o s=some (r,u) → W.step s o r u) (is:List ℕ)
  (s:σ) (ps:List (Prog S α)) :
  PoolRun W s ps (schedule h is s ps).1 (schedule h is s ps).2.1 (schedule h is s ps).2.2 := by
 induction is generalizing s ps with
 | nil => exact .refl s ps
 | cons i is ih =>
  cases hi : ps[i]? with
  | none => simpa only [schedule,hi] using ih s ps
  | some p =>
   cases p with
   | ret a => simpa only [schedule,hi] using ih s ps
   | ask o k =>
    cases ho : h i o s with
    | none => simpa only [schedule,hi,ho] using ih s ps
    | some ru =>
     simpa only [schedule,hi,ho] using
      PoolRun.next hi (hW i o s ru.1 ru.2 ho) (ih ru.2 (ps.set i (k ru.1)))

lemma PoolRun.of_schedule {is:List ℕ} {s u:σ} {ps qs:List (Prog S α)} {es}
  (hW:∀ i o s r u,h i o s=some (r,u) → W.step s o r u)
  (hrun:schedule h is s ps=(es,u,qs)) : PoolRun W s ps es u qs := by
 simpa only [hrun] using schedule_run hW is s ps

/-- The answers that pass a test; a thread whose answer fails it is left blocked. -/
def passing (test : (o : S.Op) → σ → S.Reply o → Bool)
  (h : ℕ → (o : S.Op) → σ → Option (S.Reply o × σ)) (i : ℕ) (o : S.Op) (s : σ) :
  Option (S.Reply o × σ) :=
 (h i o s).filter fun a => test o s a.1

lemma passing_run {test:(o:S.Op) → σ → S.Reply o → Bool}
  {G:σ → (o:S.Op) → S.Reply o → σ → Prop}
  (hW:∀ i o s r u,h i o s=some (r,u) → W.step s o r u)
  (hG:∀ o s r u,test o s r=true → G s o r u) (is:List ℕ) (s:σ) (ps:List (Prog S α)) :
  PoolRun (guarded W G) s ps (schedule (passing test h) is s ps).1
   (schedule (passing test h) is s ps).2.1 (schedule (passing test h) is s ps).2.2 := by
 refine schedule_run (fun i o s r u ha=>?_) is s ps
 obtain ⟨hanswer,htest⟩:=Option.filter_eq_some_iff.mp ha
 exact ⟨hW i o s r u hanswer,hG o s r u htest⟩

lemma schedule_forall (hP:∀ i o s r u,h i o s=some (r,u) → P o r) (is:List ℕ) (s:σ)
  (ps:List (Prog S α)) : ∀ e ∈ (schedule h is s ps).1,P e.2.1 e.2.2 := by
 induction is generalizing s ps with
 | nil => exact fun _ h=>by cases h
 | cons i is ih =>
  unfold schedule
  split
  · split
    · rename_i r u hr
      exact forall_mem_cons.mpr ⟨hP _ _ _ _ _ hr,ih u _⟩
    · exact ih s ps
  · exact ih s ps

end Lebro.EffectPool
