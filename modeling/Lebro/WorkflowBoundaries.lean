import Lebro.WorkflowUserCode
import Lebro.WorkflowRuns
import Lebro.LatestEntry

set_option autoImplicit false

namespace Lebro.WorkflowBoundaries

open EffectProgram RuntimeTypes RuntimeRecords RuntimeEffects MemoryStore LatestEntry
open WorkflowPersistence WorkflowRuns

variable {runID:RunID} {snapshot:WorkflowSnapshotRecord} {m:MemoryState}
 {env:WorkflowSnapshotEnvelope} {record:WorkflowRunRecord} {wakeup:ScheduleRecord}

def stored (m : MemoryState) (snapshot : WorkflowSnapshotRecord) (record : WorkflowRunRecord) :
  MemoryState :=
 { m with
   runs := fun id => if id = record.id then some record else m.runs id
   snapshots := fun id =>
    if id = snapshot.runID then insertSnapshot snapshot (m.snapshots snapshot.runID)
    else m.snapshots id }

lemma stored_runs (h:record.id=runID) :
  (stored m snapshot record).runs runID=some record := if_pos h.symm

lemma stored_snapshots (h:snapshot.runID=runID) :
  (stored m snapshot record).snapshots runID=insertSnapshot snapshot (m.snapshots runID) := by
 cases h
 exact if_pos rfl

def boundary (m : MemoryState) (snapshot : WorkflowSnapshotRecord) (record : WorkflowRunRecord) :
  Except Err MemoryState :=
 match saveWorkflowSnapshot m snapshot with
 | .error e => .error e
 | .ok u => saveWorkflowRun u record

inductive Saves (snapshot : WorkflowSnapshotRecord) (record : WorkflowRunRecord) :
  RepoProg (Except Err Unit) → Prop where
 | boundary : Saves snapshot record (saveBoundary snapshot record)
 | sleep (wakeup : ScheduleRecord) : Saves snapshot record (saveSleep snapshot record wakeup)

structure Committed (snapshot : WorkflowSnapshotRecord) (record : WorkflowRunRecord)
  (m u : MemoryState) : Prop where
 runs : u.runs = (stored m snapshot record).runs
 snapshots : u.snapshots = (stored m snapshot record).snapshots
 fresh : ∀ v ∈ m.snapshots snapshot.runID, v.id ≠ snapshot.id ∧ v.sequence ≠ snapshot.sequence

lemma boundary_committed {u} (h:boundary m snapshot record = .ok u) :
  Committed snapshot record m u := by
 unfold boundary at h
 cases hsnapshot : saveWorkflowSnapshot m snapshot with
 | error e =>
  rw [hsnapshot] at h
  cases h
 | ok v =>
  rw [hsnapshot] at h
  obtain ⟨hfresh,rfl⟩:=saveWorkflowSnapshot_ok hsnapshot
  obtain rfl := saveWorkflowRun_eq_ok h
  exact ⟨rfl,rfl,hfresh⟩

lemma transaction_saveBoundary (m snapshot record) :
  transaction (saveBoundary snapshot record) m=written m (boundary m snapshot record) := by
 unfold transaction saveBoundary boundary repoOp
 rw [Prog.perform_bind,Prog.run_ask]
 dsimp only [applyRepo]
 cases saveWorkflowSnapshot m snapshot with
 | error e => rfl
 | ok v =>
  dsimp only [written,Prog.perform,Prog.run,applyRepo]
  cases saveWorkflowRun v record with
  | error e => rfl
  | ok u => rfl

def sleepBoundary (m : MemoryState) (snapshot : WorkflowSnapshotRecord)
  (record : WorkflowRunRecord) (wakeup : ScheduleRecord) : Except Err MemoryState :=
 match boundary m snapshot record with
 | .error e => .error e
 | .ok u => saveSchedule u wakeup

lemma transaction_saveSleep (m snapshot record wakeup) :
  transaction (saveSleep snapshot record wakeup) m =
   written m (sleepBoundary m snapshot record wakeup) := by
 unfold transaction saveSleep saveBoundary sleepBoundary boundary repoOp
 rw [Prog.run_bind,Prog.perform_bind,Prog.run_ask]
 dsimp only [applyRepo]
 cases saveWorkflowSnapshot m snapshot with
 | error e => rfl
 | ok v =>
  dsimp only [written,Prog.perform,Prog.run,applyRepo]
  cases saveWorkflowRun v record with
  | error e => rfl
  | ok u =>
   dsimp only [written,Prog.run,applyRepo]
   cases saveSchedule u wakeup with
   | error e => rfl
   | ok x => rfl

lemma saveSchedule_keeps {u} (h:saveSchedule m wakeup = .ok u) :
  u.runs=m.runs ∧ u.snapshots=m.snapshots := by
 rw [saveSchedule_eq_ok h]
 exact ⟨rfl,rfl⟩

lemma Saves.transaction {body} (h:Saves snapshot record body) (m) :
  (∃ e,MemoryStore.transaction body m=(.error e,m)) ∨
   ∃ u,MemoryStore.transaction body m=(.ok (),u) ∧ Committed snapshot record m u := by
 cases h with
 | boundary =>
  rw [transaction_saveBoundary]
  cases hb : WorkflowBoundaries.boundary m snapshot record with
  | error e => exact .inl ⟨e,rfl⟩
  | ok u => exact .inr ⟨u,rfl,boundary_committed hb⟩
 | sleep wakeup =>
  rw [transaction_saveSleep]
  unfold sleepBoundary
  cases hb : WorkflowBoundaries.boundary m snapshot record with
  | error e => exact .inl ⟨e,rfl⟩
  | ok u =>
   dsimp only
   cases hw : saveSchedule u wakeup with
   | error e => exact .inl ⟨e,rfl⟩
   | ok v =>
    have hu:=boundary_committed hb
    obtain ⟨hruns,hsnapshots⟩:=saveSchedule_keeps hw
    exact .inr ⟨v,rfl,hruns.trans hu.runs,hsnapshots.trans hu.snapshots,hu.fresh⟩

section

variable {runID:RunID} {position p q:Nat} {v:WorkflowSnapshotRecord}
 {env:WorkflowSnapshotEnvelope}

def isSuspend (v : WorkflowSnapshotRecord) : Bool :=
 match v.state with
 | .workflow env => env.suspend.isSome
 | _ => false

def SuspendsUpTo (runID : RunID) (position : Nat) (m : MemoryState) : Prop :=
 ∀ v ∈ m.snapshots runID, isSuspend v = true →
  v.sequence ≤ workflowTerminalSnapshotSequence position

lemma terminalSequence_le (h:p ≤ q) :
  workflowTerminalSnapshotSequence p ≤ workflowTerminalSnapshotSequence q :=
 Nat.add_le_add_right (Nat.mul_le_mul_right _ h) _
lemma SuspendsUpTo.mono {m} (h : SuspendsUpTo runID p m) (hpq : p ≤ q) : SuspendsUpTo runID q m :=
 fun v hv hs=>Nat.le_trans (h v hv hs) (terminalSequence_le hpq)

lemma mem_insertSnapshot {x records} (h:x ∈ insertSnapshot v records) : x=v ∨ x ∈ records :=
 List.mem_cons.mp ((insertSnapshot_perm v records).mem_iff.mp h)

def suspendOf (v : WorkflowSnapshotRecord) : Option WorkflowSnapshotEnvelope :=
 match v.state with
 | .workflow env => if env.suspend.isNone then none else some env
 | _ => none

lemma suspendOf_isSome (v) : (suspendOf v).isSome=isSuspend v := by
 unfold suspendOf isSuspend
 split
 · cases WorkflowSnapshotEnvelope.suspend _ <;> rfl
 · rfl

lemma suspendOf_eq_some (h:suspendOf v=some env) : v.state = .workflow env := by
 unfold suspendOf at h
 split at h
 · split at h
   · cases h
   · cases h
     assumption
 · cases h

lemma laterSuspend_eq : laterSuspend=later suspendOf WorkflowSnapshotRecord.sequence := by
 funext best v
 unfold laterSuspend later suspendOf
 cases v.state with
 | workflow env =>
  dsimp only
  split
  · rfl
  · cases best <;> rfl
 | toolApproval state => rfl
 | other state => rfl

lemma foldl_laterSuspend_insert {n found records} (hstate:v.state = .workflow env)
  (hsuspend:env.suspend.isSome=true)
  (h:∀ x ∈ records,isSuspend x=true → x.sequence < v.sequence)
  (hfound:(insertSnapshot v records).foldl laterSuspend none=some (n,found)) :
  found=env := by
 rw [laterSuspend_eq] at hfound
 obtain ⟨hpicked,_,hle⟩:=foldl_later_eq_some hfound
 have hv:v.sequence ≤ n := by
  apply hle v ((insertSnapshot_perm v records).mem_iff.mpr List.mem_cons_self)
  rw [suspendOf_isSome,isSuspend,hstate]
  exact hsuspend
 rcases hpicked with hnone | ⟨x,hx,hpick,rfl⟩
 · cases hnone
 · rcases mem_insertSnapshot hx with rfl | hx
   · have hfound:=suspendOf_eq_some hpick
     rw [hstate] at hfound
     cases hfound
     rfl
   · have hlt:=h x hx (by rw [← suspendOf_isSome,hpick]; rfl)
     omega

end

end Lebro.WorkflowBoundaries
