import Lebro.EffectPool
import Lebro.OptimisticTransactions
import Lebro.StoreTables

set_option autoImplicit false

namespace Lebro.StoreTransactions

open EffectProgram EffectPool EffectRuns RuntimeTypes RuntimeRecords MemoryStore StoreRecords
open StoreTables OptimisticTransactions

def counts : StoreOp → Bool
 | .createThread _ | .updateThread _ | .appendMessages _ => true
 | .updateMessages vs => !vs.isEmpty
 | .deleteMessages _ ids => !ids.isEmpty
 | .saveWorkflowRun _ | .saveWorkflowSnapshot _ | .saveSchedule _ | .deleteSchedule _ => true
 | .saveScheduleExecution _ | .upsertWorkingMemoryFact _ _ => true
 | .deleteWorkingMemoryFact _ _ _ | .clearWorkingMemory _ => true
 | .appendRunEvents vs => !vs.isEmpty
 | .saveModelAttempts vs => !vs.isEmpty
 | .saveToolExecutions vs => !vs.isEmpty
 | _ => false

/-- The calls that mark a transaction dirty when they succeed: an empty append does not. -/
def dirties : StoreOp → Bool
 | .appendMessages vs => !vs.isEmpty
 | o => counts o

variable {x:Except Err StoreState}

lemma saved_of_ok {s} (h:∀ u,x = .ok u → u=s) : (saved s x).2=s := by
 cases x with
 | error e => rfl
 | ok u => exact h u rfl

lemma saved_of_error {s} (h:(saved s x).1.isOk=false) : (saved s x).2=s := by
 cases x with
 | error e => rfl
 | ok u => cases h

lemma saveRecords_nil {R:Type} {ctx:StoreContext} {validate:R → Option Err} {runID id t u}
  (h:saveRecords ctx validate runID id [] t = .ok u) : u=t := by
 cases alive_eq_ok h
 rfl

lemma perform_of_not_dirties {ctx o s} (h:dirties o=false) : (perform ctx o s).2=s := by
 cases o with
 | appendMessages vs =>
  obtain rfl : vs=[] := by simpa [dirties] using h
  apply saved_of_ok
  intro u hu
  have hu:=alive_eq_ok hu
  simp only [checkAppend,List.filter_nil,List.append_nil,Except.ok.injEq] at hu
  exact hu.symm
 | updateMessages vs =>
  obtain rfl : vs=[] := by simpa [dirties,counts] using h
  apply saved_of_ok
  intro u hu
  cases alive_eq_ok hu
  rfl
 | deleteMessages id ids =>
  obtain rfl : ids=[] := by simpa [dirties,counts] using h
  apply saved_of_ok
  intro u hu
  have hu:=alive_eq_ok hu
  split at hu
  · cases hu
  · cases hu
    rfl
 | appendRunEvents vs | saveModelAttempts vs | saveToolExecutions vs =>
  obtain rfl : vs=[] := by simpa [dirties,counts] using h
  apply saved_of_ok
  intro u hu
  obtain ⟨t,ht,rfl⟩:=map_eq_ok hu
  rw [saveRecords_nil ht]
 | getThread | listMessages | getWorkflowRun | listWorkflowRuns | listWorkflowSnapshots => rfl
 | getSchedule | listSchedules | listScheduleExecutions | getWorkingMemoryFact => rfl
 | listWorkingMemoryFacts | listRunEvents | listModelAttempts | listToolExecutions => rfl
 | _ => cases h

lemma perform_of_error {ctx o s} (h:(perform ctx o s).1.isOk=false) :
  (perform ctx o s).2=s := by
 cases o with
 | upsertWorkingMemoryFact v expected =>
  dsimp only [perform] at h ⊢
  cases hx : upsertWorkingMemoryFact ctx s v expected with
  | error e => rfl
  | ok p =>
   rw [hx] at h
   cases h
 | getThread | listMessages | getWorkflowRun | listWorkflowRuns | listWorkflowSnapshots => rfl
 | getSchedule | listSchedules | listScheduleExecutions | getWorkingMemoryFact => rfl
 | listWorkingMemoryFacts | listRunEvents | listModelAttempts | listToolExecutions => rfl
 | _ => exact saved_of_error h

lemma dirties_of_not_counts {o} (h:counts o=false) : dirties o=false := by
 cases o with
 | appendMessages vs => cases h
 | _ => exact h

def memoryStore : Store StoreSig StoreState where
 apply call s := perform call.1 call.2 s
 bumps call r := r.isOk && counts call.2
 marks call r := r.isOk && dirties call.2
 eq_of_not_bumps := by
  intro call s h
  rcases Bool.and_eq_false_iff.mp h with h | h
  · exact perform_of_error h
  · exact perform_of_not_dirties (dirties_of_not_counts h)
 eq_of_not_marks := by
  intro call s h
  rcases Bool.and_eq_false_iff.mp h with h | h
  · exact perform_of_error h
  · exact perform_of_not_dirties h

inductive ClientOp where
 | store (o : TxOp StoreSig)
 | ctxErr

@[reducible] def ClientOp.Reply : ClientOp → Type
  | .store o => o.Reply
  | .ctxErr => Option Err

abbrev ClientSig : Sig := ⟨ClientOp, ClientOp.Reply⟩

abbrev Client := Prog ClientSig (Option Err)

/-- `Transaction`: the callback is given the number of the transaction, and its error is kept. -/
def transactionCall (fn : ℕ → Client) : Client := do
 let err : Option Err ← Prog.perform (S := ClientSig) .ctxErr
 match err with
 | some e => .ret (some e)
 | none => do
  let t : ℕ ← Prog.perform (S := ClientSig) (.store .begin)
  let failure ← fn t
  match failure with
  | some e => .ret (some e)
  | none => do
   let err : Option Err ← Prog.perform (S := ClientSig) .ctxErr
   match err with
   | some e => .ret (some e)
   | none => do
    let ok : Bool ← Prog.perform (S := ClientSig) (.store (.commit t))
    .ret (if ok then none else some errConflict)

def clientWorld : Monitor ClientSig (Shared StoreState) where
 demand _ _ := True
 step s o r u :=
  match o, r with
  | .store o, r => txStep memoryStore s o r u
  | .ctxErr, _ => u = s

def storeEvents (es : List (PoolEvent ClientSig)) : List (Event (TxSig StoreSig)) :=
 es.filterMap fun
  | (_, ⟨.store o, r⟩) => some ⟨o, r⟩
  | (_, ⟨.ctxErr, _⟩) => none

lemma follows_storeEvents {α:Type} {s u:Shared StoreState} {ps qs:List (Prog ClientSig α)}
  {es} (h:PoolRun clientWorld s ps es u qs) :
  (txWorld memoryStore).Follows s (storeEvents es) u := by
 induction h with
 | refl s _ => exact .nil s
 | @next s u v ps qs i o k r es _ hstep _ ih =>
  cases o with
  | store o => exact .cons hstep ih
  | ctxErr =>
   obtain rfl : u=s := hstep
   exact ih

/-- What a callback does: calls in its own transaction, and reads of the store outside. -/
def CallbackOp (t : ℕ) : ClientOp → Prop
 | .ctxErr => True
 | .store (.within t' _) => t' = t
 | .store (.direct call) => counts call.2 = false
 | _ => False

def commits : (o : ClientOp) → o.Reply → Bool
 | .store (.commit _), ok => ok
 | _, _ => false

def TransactionOp : ClientOp → Prop
 | .store (.direct call) => counts call.2 = false
 | _ => True

lemma transactionOp_of_callbackOp {t o} (h:CallbackOp t o) : TransactionOp o := by
 cases o with
 | ctxErr => trivial
 | store o =>
  cases o with
  | direct call => exact h
  | _ => trivial

variable {fn:ℕ → Client}

lemma asks_transactionCall (hfn:∀ t,Asks (CallbackOp t) (fn t)) :
  Asks TransactionOp (transactionCall fn) := by
 apply asks_perform trivial
 intro err
 cases err with
 | some e => exact asks_ret
 | none =>
  apply asks_perform trivial
  intro t
  refine asks_bind ((hfn t).mono fun _=>transactionOp_of_callbackOp) ?_
  intro failure
  cases failure with
  | some e => exact asks_ret
  | none =>
   apply asks_perform trivial
   intro err
   cases err with
   | some e => exact asks_ret
   | none => exact asks_perform trivial fun ok=>asks_ret

def committing : Monitor ClientSig Bool :=
 Monitor.ghost (fun _ _ => True) fun committed o r => committed || commits o r

lemma wp_transactionCall (hfn:∀ t,Asks (CallbackOp t) (fn t)) :
  wp committing (transactionCall fn) (fun res committed=>committed=true → res=none)
   false := by
 have hcallback:∀ t,wp committing (fn t) (fun _ committed=>committed=false) false:=by
  intro t
  refine (hfn t).wp (fun committed=>committed=false) ?_ rfl
  intro committed o ho hc
  refine ⟨trivial,?_⟩
  rintro r _ rfl
  rw [hc]
  cases o with
  | ctxErr => rfl
  | store o =>
   cases o with
   | commit t => exact ho.elim
   | _ => rfl
 unfold transactionCall
 rw [wp_perform]
 refine ⟨trivial,?_⟩
 rintro err _ rfl
 cases err with
 | some e => exact nofun
 | none =>
  rw [wp_perform]
  refine ⟨trivial,?_⟩
  rintro t _ rfl
  apply wp_seq (hcallback t)
  rintro failure _ rfl
  cases failure with
  | some e => exact nofun
  | none =>
   rw [wp_perform]
   refine ⟨trivial,?_⟩
   rintro err _ rfl
   cases err with
   | some e => exact nofun
   | none =>
    rw [wp_perform]
    refine ⟨trivial,?_⟩
    intro ok committed hcommitted hc
    have hok:ok=true:=hcommitted.symm.trans hc
    exact if_pos hok

variable {es:List (Event ClientSig)}

lemma not_commits_of_foldl {committed}
  (h:es.foldl (fun c e=>c || commits e.1 e.2) committed=false) :
  committed=false ∧ ∀ e ∈ es,commits e.1 e.2=false := by
 induction es generalizing committed with
 | nil => exact ⟨h,fun e he=>by cases he⟩
 | cons e es ih =>
  obtain ⟨hhead,htail⟩:=ih h
  obtain ⟨hc,he⟩:=Bool.or_eq_false_iff.mp hhead
  refine ⟨hc,?_⟩
  intro f hf
  rcases List.mem_cons.mp hf with rfl | hf
  · exact he
  · exact htail f hf

lemma failed_transaction_keeps (hfn:∀ t,Asks (CallbackOp t) (fn t)) {e}
  (h:Trace (transactionCall fn) es (.ret (some e))) {ev} (hev:ev ∈ es) {a b}
  (hstep:clientWorld.step a ev.1 ev.2 b) : b.live=a.live ∧ b.version=a.version := by
 have hend:=h.wp (Monitor.ghost_follows _ _ false es) (wp_transactionCall hfn)
 have hfold:es.foldl (fun c e=>c || commits e.1 e.2) false=false:=by
  by_contra hne
  cases hend (Bool.not_eq_false _ ▸ hne)
 have hnot:=(not_commits_of_foldl hfold).2 ev hev
 have hop:=(asks_transactionCall hfn).of_trace h ev hev
 obtain ⟨o,r⟩:=ev
 cases o with
 | ctxErr =>
  obtain rfl : b=a := hstep
  exact ⟨rfl,rfl⟩
 | store o =>
  cases o with
  | direct call =>
   obtain ⟨_,rfl⟩:=hstep
   have hbumps:memoryStore.bumps call r=false:=Bool.and_eq_false_iff.mpr (.inr hop)
   have hlive:(memoryStore.apply call a.live).2=a.live:=
    perform_of_not_dirties (dirties_of_not_counts hop)
   rw [hlive,hbumps]
   exact ⟨rfl,rfl⟩
  | commit t =>
   have hstep:txStep memoryStore a (.commit t) r b:=hstep
   exact live_of_not_writes hstep hnot
  | begin =>
   have hstep:txStep memoryStore a .begin r b:=hstep
   exact live_of_not_writes hstep rfl
  | within t call =>
   have hstep:txStep memoryStore a (.within t call) r b:=hstep
   exact live_of_not_writes hstep rfl

/-- Direct calls and committed transactions of any clients can be put in an order that explains what
they return, and a transaction that fails changes nothing. -/
theorem transactions_serializable {α : Type} {s u : Shared StoreState}
  {ps qs : List (Prog ClientSig α)} {es : List (PoolEvent ClientSig)}
  (hs : ∀ t, s.opened t = none) (h : PoolRun clientWorld s ps es u qs) :
  (∃ units : List (List (Event StoreSig)), units.Perm (completed (storeEvents es)) ∧
   (Monitor.handles memoryStore.apply).Follows s.live units.flatten u.live) ∧
  ∀ fn : ℕ → Client, (∀ t, Asks (CallbackOp t) (fn t)) →
   ∀ fs e, Trace (transactionCall fn) fs (.ret (some e)) →
    ∀ ev ∈ fs, ∀ a b, clientWorld.step a ev.1 ev.2 b → b.live = a.live ∧ b.version = a.version := by
 refine ⟨exists_serial hs (follows_storeEvents h),?_⟩
 intro fn hfn fs e htrace ev hev a b hstep
 exact failed_transaction_keeps hfn htrace hev hstep

def emptyStore : Shared StoreState := ⟨.empty, 0, fun _ => none, 0⟩

def answerClient : (o : ClientOp) → Shared StoreState → Option (o.Reply × Shared StoreState)
 | .store o, s => txAnswer memoryStore o s
 | .ctxErr, s => some (none, s)

lemma answerClient_step {o r s u} (h:answerClient o s=some (r,u)) :
  clientWorld.step s o r u := by
 cases o with
 | store o => exact txStep_of_answer h
 | ctxErr =>
  cases h
  rfl

def register (id : ThreadID) : Client :=
 transactionCall fun t => do
  let created : Except Err Unit ←
   Prog.perform (S := ClientSig) (.store (.within t ({}, .createThread { id })))
  match created with
  | .error e => .ret (some e)
  | .ok () => .ret none

/-- Both begin before either commits; the first one to commit wins. -/
theorem concurrent_registers_serialize : ∃ es u qs,
  PoolRun clientWorld emptyStore [register "a", register "b"] es u qs ∧
  (u.live.threads "a").isSome = true ∧ (u.live.threads "b").isSome = false ∧
  ∃ units : List (List (Event StoreSig)), units.Perm (completed (storeEvents es)) ∧
   (Monitor.handles memoryStore.apply).Follows emptyStore.live units.flatten u.live := by
 have hcalls:∃ es u qs,
   schedule (fun _=>answerClient) [0,0,1,1,1,0,0,0,1,1] emptyStore
    [register "a",register "b"] = (es,u,qs) ∧
   (u.live.threads "a").isSome = true ∧ (u.live.threads "b").isSome = false :=
  ⟨_,_,_,rfl,rfl,rfl⟩
 obtain ⟨es,u,qs,hschedule,ha,hb⟩:=hcalls
 have hrun:=PoolRun.of_schedule (fun _ _ _ _ _ h=>answerClient_step h) hschedule
 exact ⟨es,u,qs,hrun,ha,hb,(transactions_serializable (fun _=>rfl) hrun).1⟩

section

variable {K R I:Type} {live:K → Prop} {owner:R → K} {key:R → I} {t:K → List R}

/-- Rows are filed under an owner that exists, and those of one owner have different keys. -/
def Owned (live : K → Prop) (owner : R → K) (key : R → I) (t : K → List R) : Prop :=
 ∀ k, ((t k).map key).Nodup ∧ ∀ v ∈ t k, owner v = k ∧ live k

lemma Owned.nil : Owned live owner key fun _=>[] :=
 fun _=>⟨.nil,fun _ h=>(List.not_mem_nil h).elim⟩

lemma Owned.mono {live'} (h:Owned live owner key t) (hlive:∀ k,live k → live' k) :
  Owned live' owner key t :=
 fun k=>⟨(h k).1,fun v hv=>((h k).2 v hv).imp_right (hlive k)⟩

variable [DecidableEq K]

lemma Owned.store {k rows} (h:Owned live owner key t) (hkeys:(rows.map key).Nodup)
  (hrows:∀ v ∈ rows,owner v=k ∧ live k) : Owned live owner key (put t k rows) := by
 intro j
 unfold StoreTables.put
 split
 · subst j
   exact ⟨hkeys,hrows⟩
 · exact h j

lemma Owned.add {v rows} (h:Owned live owner key t) (hrows:rows.Perm (v :: t (owner v)))
  (hnew:∀ w ∈ t (owner v),key w ≠ key v) (hlive:live (owner v)) :
  Owned live owner key (put t (owner v) rows) := by
 refine h.store ?_ fun w hw=>?_
 · rw [(hrows.map key).nodup_iff]
   exact List.nodup_cons.mpr ⟨by simpa using hnew,(h _).1⟩
 · rcases List.mem_cons.mp (hrows.subset hw) with rfl | hw
   · exact ⟨rfl,hlive⟩
   · exact (h _).2 w hw

end

abbrev OwnedMessages (s : StoreState) : (ThreadID → List MessageRecord) → Prop :=
 Owned (s.threads · ≠ none) MessageRecord.threadID MessageRecord.id

structure Consistent (s : StoreState) : Prop where
 messages : OwnedMessages s s.messages
 snapshots : Owned (s.runs.lookup · ≠ none) WorkflowSnapshotRecord.runID
  WorkflowSnapshotRecord.sequence s.snapshots
 executions : Owned (s.schedules.lookup · ≠ none) ScheduleExecutionRecord.scheduleID
  ScheduleExecutionRecord.id s.executions

section

variable {s:StoreState} {t:ThreadID → List MessageRecord}

lemma owned_append {seen vs} (h:checkAppend s seen vs=none) (ht:OwnedMessages s t)
  (hseen:∀ id,∀ w ∈ t id,w ∈ s.messages id ∨ (id,w.id) ∈ seen) :
  OwnedMessages s fun id=>t id++vs.filter fun v=>v.threadID=id := by
 induction vs generalizing seen t with
 | nil => simpa using ht
 | cons v vs ih =>
  unfold checkAppend at h
  repeat' split at h
  all_goals try cases h
  rename_i _ hthread _ _ hnew
  have hcons:(fun id=>t id++(v :: vs).filter fun w=>w.threadID=id) =
    fun id=>put t v.threadID (t v.threadID ++ [v]) id++vs.filter fun w=>w.threadID=id := by
   funext id
   by_cases hid : v.threadID=id
   · simp [put,hid]
   · simp [put,hid,Ne.symm hid]
  rw [hcons]
  refine ih h (ht.add (List.perm_append_singleton _ _) ?_ (by simpa using hthread)) ?_
  · intro w hw heq
    rcases hseen _ w hw with hw | hw
    · exact hnew (.inl (List.any_eq_true.mpr ⟨w,hw,decide_eq_true heq⟩))
    · exact hnew (.inr (heq ▸ hw))
  · intro id w hw
    unfold put at hw
    split at hw
    · subst id
      rcases List.mem_append.mp hw with hw | hw
      · exact (hseen _ w hw).imp_right (List.mem_cons_of_mem _)
      · cases List.mem_singleton.mp hw
        exact .inr List.mem_cons_self
    · exact (hseen id w hw).imp_right (List.mem_cons_of_mem _)

lemma replaceMessage_ids (v ws) :
  (replaceMessage v ws).map MessageRecord.id=ws.map MessageRecord.id := by
 induction ws with
 | nil => rfl
 | cons w ws ih =>
  unfold replaceMessage
  split
  · simp [*]
  · simp [ih]

lemma forall_replaceMessage {P:MessageRecord → Prop} {v ws}
  (h:∀ w ∈ ws,P w ∧ P { v with createdAt := w.createdAt }) : ∀ w ∈ replaceMessage v ws,P w := by
 induction ws with
 | nil => exact nofun
 | cons w ws ih =>
  obtain ⟨hw,hws⟩:=List.forall_mem_cons.mp h
  unfold replaceMessage
  split
  · exact List.forall_mem_cons.mpr ⟨hw.2,fun x hx=>(hws x hx).1⟩
  · exact List.forall_mem_cons.mpr ⟨hw.1,ih hws⟩

lemma owned_update (ht:OwnedMessages s t) (vs:List MessageRecord) : OwnedMessages s
  (vs.foldl (fun f v=>put f v.threadID (replaceMessage v (f v.threadID))) t) := by
 induction vs generalizing t with
 | nil => exact ht
 | cons v vs ih =>
  refine ih (ht.store ?_ (forall_replaceMessage fun w hw=>?_))
  · rw [replaceMessage_ids]
    exact (ht _).1
  · have hw:=(ht _).2 w hw
    exact ⟨hw,rfl,hw.2⟩

lemma put_ne_none {K V:Type} [DecidableEq K] {f:K → Option V} {k x} {v:V} (h:f x ≠ none) :
  put f k (some v) x ≠ none := by
 unfold put
 split
 · nofun
 · exact h

lemma insert_ne_none {V:Type} {t:Table String V} {k x} {v:V} (h:t.lookup x ≠ none) :
  (t.insert k v).lookup x ≠ none :=
 (congrFun (lookup_insert_eq t k v) x).symm ▸ put_ne_none (f := (t.lookup ·)) h

lemma saved_keeps {P:StoreState → Prop} {x} (hs:P s) (h:∀ u,x = .ok u → P u) :
  P (saved s x).2 := by
 cases x with
 | error e => exact hs
 | ok u => exact h u rfl

lemma alive_keeps {P:StoreState → Prop} {ctx x} (hs:P s) (h:∀ u,x = .ok u → P u) :
  P (saved s (alive ctx x)).2 :=
 saved_keeps hs fun u hu=>h u (alive_eq_ok hu)

lemma Consistent.perform (hs:Consistent s) (ctx o) : Consistent (perform ctx o s).2 := by
 by_cases hread : dirties o=false
 · rwa [perform_of_not_dirties hread]
 have ⟨hmessages,hsnapshots,hexecutions⟩:=hs
 cases o with
 | createThread v | updateThread v =>
  refine alive_keeps hs fun u h=>?_
  repeat' split at h
  all_goals cases h
  exact ⟨hmessages.mono fun _=>put_ne_none,hsnapshots,hexecutions⟩
 | appendMessages vs =>
  refine alive_keeps hs fun u h=>?_
  split at h <;> cases h
  exact ⟨owned_append (s := s) ‹_› hmessages fun _ _=>.inl,hsnapshots,hexecutions⟩
 | updateMessages vs =>
  refine alive_keeps hs fun u h=>?_
  split at h <;> cases h
  exact ⟨owned_update hmessages vs,hsnapshots,hexecutions⟩
 | deleteMessages id ids =>
  refine alive_keeps hs fun u h=>?_
  repeat' split at h
  all_goals cases h
  · exact hs
  refine ⟨hmessages.store ?_ fun v hv=>?_,hsnapshots,hexecutions⟩
  · exact (List.filter_sublist.map _).nodup (hmessages id).1
  · exact (hmessages id).2 v (List.mem_of_mem_filter hv)
 | saveWorkflowRun v =>
  refine alive_keeps hs fun u h=>?_
  obtain ⟨m,-,rfl⟩:=map_eq_ok h
  exact ⟨hmessages,hsnapshots.mono fun _=>insert_ne_none,hexecutions⟩
 | saveSchedule v =>
  refine alive_keeps hs fun u h=>?_
  obtain ⟨m,-,rfl⟩:=map_eq_ok h
  exact ⟨hmessages,hsnapshots,hexecutions.mono fun _=>insert_ne_none⟩
 | saveWorkflowSnapshot v =>
  refine alive_keeps hs fun u h=>?_
  obtain ⟨m,hm,rfl⟩:=map_eq_ok h
  unfold MemoryStore.saveWorkflowSnapshot at hm
  repeat' split at hm
  all_goals cases hm
  rename_i hrun _ hsequence
  refine ⟨hmessages,hsnapshots.add (insertSnapshot_perm v _) ?_ ?_,hexecutions⟩
  · simpa [StoreState.view] using hsequence
  · simpa [StoreState.view] using hrun
 | deleteSchedule id =>
  refine alive_keeps hs fun u h=>?_
  split at h <;> cases h
  refine ⟨hmessages,hsnapshots,fun k=>?_⟩
  by_cases hk : k=id
  · simp [put,hk]
  · simpa [put,hk] using hexecutions k
 | saveScheduleExecution v =>
  refine alive_keeps hs fun u h=>?_
  repeat' split at h
  all_goals cases h
  rename_i _ hschedule hnew
  refine ⟨hmessages,hsnapshots,hexecutions.add (List.perm_append_singleton _ _) ?_ ?_⟩
  · simpa using hnew
  · simpa using hschedule
 | upsertWorkingMemoryFact v expected =>
  dsimp only [StoreTables.perform]
  cases hx : upsertWorkingMemoryFact ctx s v expected with
  | error e => exact hs
  | ok p =>
   have hx:=alive_eq_ok hx
   repeat' split at hx
   all_goals cases hx
   exact ⟨hmessages,hsnapshots,hexecutions⟩
 | deleteWorkingMemoryFact =>
  refine saved_keeps hs fun u h=>?_
  unfold deleteWorkingMemoryFact at h
  repeat' split at h
  all_goals cases h
  exact ⟨hmessages,hsnapshots,hexecutions⟩
 | clearWorkingMemory =>
  refine saved_keeps hs fun u h=>?_
  unfold clearWorkingMemory at h
  split at h <;> cases h
  exact ⟨hmessages,hsnapshots,hexecutions⟩
 | appendRunEvents | saveModelAttempts | saveToolExecutions =>
  refine saved_keeps hs fun u h=>?_
  obtain ⟨t,-,rfl⟩:=map_eq_ok h
  exact ⟨hmessages,hsnapshots,hexecutions⟩
 | _ => exact (hread rfl).elim

end

/-- The property holds after any calls of any number of clients. -/
def Throughout (P : StoreState → Prop) : Prop :=
 ∀ (α : Type) (ps qs : List (Prog ClientSig α)) es u,
  PoolRun clientWorld emptyStore ps es u qs → P u.live

/-- Whatever calls and transactions are interleaved, no message, snapshot or execution is left
without its thread, run or schedule, and none is stored twice. -/
theorem store_references_hold : Throughout Consistent := by
 intro α ps qs es u h
 obtain ⟨units,-,hserial⟩:=exists_serial (fun _=>rfl) (follows_storeEvents h)
 refine hserial.invariant (fun _=>Consistent) ?_ ?_
 · exact ⟨.nil,.nil,.nil⟩
 · intro tr s call r u hs hstep
   obtain rfl : u = _ := congrArg Prod.snd hstep
   exact hs.perform call.1 call.2

end Lebro.StoreTransactions
