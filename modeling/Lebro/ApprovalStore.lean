import Lebro.AgentApprovals
import Lebro.LatestEntry
import Lebro.EffectRuns

set_option autoImplicit false

namespace Lebro.ApprovalStore

open EffectProgram RuntimeTypes RuntimeRecords RuntimeEffects MemoryStore LatestEntry AgentEffects
open AgentTools AgentLoop AgentApprovals

variable {v:WorkflowSnapshotRecord} {u m:MemoryState}

def agentStep (faulty : Prop) (s : RuntimeState) : (o : AgentOp) → o.Reply → RuntimeState → Prop
 | .runtime o, r, u => runtimeStep faulty s o r u
 | _, _, u => u = s

def agentWorld (faulty : Prop) : Monitor AgentSig RuntimeState where
 demand _ _ := True
 step s o r u := agentStep faulty s o r u

def pickApproval (a : Agent) (v : WorkflowSnapshotRecord) : Option ToolApprovalSnapshot :=
 match v.state with
 | .workflow _ | .other _ => none
 | .toolApproval state =>
  if unmarshals state = false ∨ state.agentID ≠ a.id ∨ state.request.id = "" then none
  else some state

lemma laterApproval_eq (a) :
  laterApproval a=later (pickApproval a) WorkflowSnapshotRecord.sequence := by
 funext best v
 unfold laterApproval later pickApproval
 cases v.state with
 | workflow env => rfl
 | other state => rfl
 | toolApproval state =>
  dsimp only
  split
  · rfl
  · cases best <;> rfl

def repoStore : Monitor RepoSig MemoryState := .handles applyRepo

lemma wp_repoOp {β:Type} {o:RepoOp} {g:o.Reply → RepoProg β} {Q}
  (h:wp repoStore (g (applyRepo o m).1) Q (applyRepo o m).2) :
  wp repoStore (repoOp o >>= g) Q m := by
 refine ⟨trivial,?_⟩
 rintro r u hr
 obtain ⟨rfl,rfl⟩:=Prod.mk.inj hr
 exact h

lemma transaction_ok {body:RepoProg (Except Err Unit)} {Q:MemoryState → Prop}
  (h:transaction body m=(.ok (),u))
  (hbody:wp repoStore body (fun r u=>r = .ok () → Q u) m) : Q u := by
 have hrun:=wp_run hbody
 unfold transaction at h
 split at h
 · rename_i v hv
   cases h
   rw [hv] at hrun
   exact hrun rfl
 · cases h

lemma le_foldl_sequence (vs:List WorkflowSnapshotRecord) (latest) :
  latest ≤ vs.foldl (fun latest v=>max latest v.sequence) latest ∧
   ∀ v ∈ vs,v.sequence ≤ vs.foldl (fun latest v=>max latest v.sequence) latest := by
 induction vs generalizing latest with
 | nil => exact ⟨Nat.le_refl _,fun _ h=>by cases h⟩
 | cons v vs ih =>
  obtain ⟨hlatest,hvs⟩:=ih (max latest v.sequence)
  rw [List.foldl_cons]
  exact ⟨Nat.le_trans (Nat.le_max_left _ _) hlatest,
   List.forall_mem_cons.mpr ⟨Nat.le_trans (Nat.le_max_right _ _) hlatest,hvs⟩⟩

lemma wp_latestSequence (runID n cursor latest m) :
  wp repoStore (latestSequence runID n cursor latest) (fun r u=>u=m ∧ ∀ k,r = .ok k →
   latest ≤ k ∧ ∀ v ∈ (m.snapshots runID).drop (cursor.getD 0),v.sequence ≤ k) m := by
 induction n generalizing cursor latest with
 | zero => exact ⟨rfl,nofun⟩
 | succ n ih =>
  unfold latestSequence
  apply wp_repoOp
  have hlist:applyRepo (.listWorkflowSnapshots runID ⟨cursor,1000⟩) m =
    (listWorkflowSnapshots m runID ⟨cursor,1000⟩,m) := rfl
  rw [hlist,listWorkflowSnapshots]
  by_cases hrun : (m.runs runID).isNone=true
  · rw [if_pos hrun]
    exact ⟨rfl,nofun⟩
  · rw [if_neg hrun]
    dsimp only [paginate]
    rw [if_neg (show ¬ (1000 : Nat)=0 by decide)]
    generalize hrest : (m.snapshots runID).drop (cursor.getD 0)=rest
    by_cases hlong : 1000 < rest.length
    · rw [if_pos hlong]
      have hdrop:(m.snapshots runID).drop ((some (cursor.getD 0+1000)).getD 0) =
        rest.drop 1000 := by
       rw [Option.getD_some,← hrest,List.drop_drop]
      apply wp_mono (ih (some (cursor.getD 0+1000)) _)
      rintro r u ⟨rfl,hk⟩
      refine ⟨rfl,?_⟩
      intro k hr
      obtain ⟨htaken,hdropped⟩:=hk k hr
      obtain ⟨hlatest,hpage⟩:=le_foldl_sequence (rest.take 1000) latest
      rw [hdrop] at hdropped
      refine ⟨Nat.le_trans hlatest htaken,?_⟩
      intro v hv
      rw [← List.take_append_drop 1000 rest] at hv
      rcases List.mem_append.mp hv with hv | hv
      · exact Nat.le_trans (hpage v hv) htaken
      · exact hdropped v hv
    · rw [if_neg hlong,List.take_of_length_le (by omega)]
      refine ⟨rfl,?_⟩
      rintro k ⟨⟩
      exact le_foldl_sequence rest latest

def approvalRecord (state : ToolApprovalSnapshot) (sequence : Nat) (now : Time) :
  WorkflowSnapshotRecord where
 id := toolApprovalSnapshotID state.request.runID state.request.step state.callIndex state.revision
 runID := state.request.runID
 sequence := sequence
 schemaVersion := 1
 state := .toolApproval state
 createdAt := now

structure Inserted (m u : MemoryState) (v : WorkflowSnapshotRecord) : Prop where
 store : u = { m with snapshots := fun id =>
  if id = v.runID then insertSnapshot v (m.snapshots v.runID) else m.snapshots id }
 fresh : ∀ w ∈ m.snapshots v.runID, w.id ≠ v.id
 last : ∀ w ∈ m.snapshots v.runID, w.sequence < v.sequence

lemma wp_saveApprovalSnapshot {a state now m} :
  wp repoStore (saveApprovalSnapshot a state now) (fun r u =>
   r = .ok () → ∃ sequence,Inserted m u (approvalRecord state sequence now)) m := by
 apply wp_seq (wp_latestSequence _ a.pages none 0 m)
 rintro latest m' ⟨rfl,hlatest⟩
 cases latest with
 | error e => exact nofun
 | ok latest =>
  obtain ⟨-,hall⟩:=hlatest latest rfl
  refine ⟨trivial,?_⟩
  rintro r u hr hok
  subst hok
  have hsave:(.ok (),u) =
    written m' (saveWorkflowSnapshot m' (approvalRecord state (latest+1) now)) := hr
  cases hsaved : saveWorkflowSnapshot m' (approvalRecord state (latest+1) now) with
  | error e =>
   rw [hsaved] at hsave
   cases hsave
  | ok v =>
   rw [hsaved] at hsave
   cases hsave
   obtain ⟨hnew,hu⟩:=saveWorkflowSnapshot_ok hsaved
   refine ⟨latest+1,hu,fun w hw=>(hnew w hw).1,?_⟩
   intro w hw
   exact Nat.lt_succ_of_le (hall w hw)

lemma insertSnapshot_eq_append {ws} (h:∀ w ∈ ws,w.sequence < v.sequence) :
  insertSnapshot v ws=ws ++ [v] := by
 induction ws with
 | nil => rfl
 | cons w ws ih =>
  obtain ⟨hw,hws⟩:=List.forall_mem_cons.mp h
  rw [insertSnapshot,if_pos hw,ih hws,List.cons_append]

lemma Inserted.snapshots (h:Inserted m u v) :
  u.snapshots v.runID=m.snapshots v.runID ++ [v] := by
 rw [h.store]
 exact (if_pos rfl).trans (insertSnapshot_eq_append h.last)

lemma Inserted.runs (h:Inserted m u v) : u.runs=m.runs := by rw [h.store]

structure Appends (m u : MemoryState) (v : WorkflowSnapshotRecord) : Prop where
 snapshots : u.snapshots v.runID = m.snapshots v.runID ++ [v]
 fresh : ∀ w ∈ m.snapshots v.runID, w.id ≠ v.id
 last : ∀ w ∈ m.snapshots v.runID, w.sequence < v.sequence

lemma Inserted.appends {m'} (h:Inserted m' u v)
  (hm:m'.snapshots v.runID=m.snapshots v.runID) :
  Appends m u v :=
 ⟨hm ▸ h.snapshots,hm ▸ h.fresh,hm ▸ h.last⟩

structure SuspendWrites (a : Agent) (state : ToolApprovalSnapshot) (now : Time)
  (m u : MemoryState) : Prop where
 found : ∀ run, m.runs state.request.runID = some run → run.status = .running
 run : u.runs state.request.runID = some (suspendedRunRecord a state now)
 snapshot : ∃ sequence, Appends m u (approvalRecord state sequence now)

lemma wp_saveSuspended {a state now m}
  (hfound:∀ run,m.runs state.request.runID=some run → run.status = .running) :
  wp repoStore (saveSuspended a state now)
   (fun r u=>r = .ok () → SuspendWrites a state now m u) m := by
 apply wp_repoOp
 have hsave:applyRepo (.saveWorkflowRun (suspendedRunRecord a state now)) m =
   written m (saveWorkflowRun m (suspendedRunRecord a state now)) := rfl
 rw [hsave]
 cases hsaved : saveWorkflowRun m (suspendedRunRecord a state now) with
 | error e => exact nofun
 | ok m' =>
  obtain rfl := saveWorkflowRun_eq_ok hsaved
  apply wp_mono wp_saveApprovalSnapshot
  intro r u hu hr
  obtain ⟨sequence,hinserted⟩:=hu hr
  refine ⟨hfound,?_,sequence,hinserted.appends rfl⟩
  rw [hinserted.runs]
  exact if_pos rfl

lemma suspendRun_ok {a state now} (h:transaction (suspendRun a state now) m=(.ok (),u)) :
  SuspendWrites a state now m u := by
 apply transaction_ok h
 apply wp_repoOp
 have hget:applyRepo (.getWorkflowRun state.request.runID) m =
   (getWorkflowRun m state.request.runID,m) := rfl
 rw [hget,getWorkflowRun]
 cases hrun : m.runs state.request.runID with
 | none =>
  dsimp only
  split
  · exact wp_saveSuspended fun run h=>by rw [hrun] at h; cases h
  · exact nofun
 | some run =>
  dsimp only
  split
  · exact nofun
  rename_i hnot
  apply wp_saveSuspended
  intro run' hrun'
  rw [hrun] at hrun'
  cases hrun'
  exact not_not.mp fun hstatus=>hnot (.inr hstatus)

structure TransitionWrites (state : ToolApprovalSnapshot) (decision : ToolApprovalDecision)
  (status : RunStatus) (next : ToolApprovalState) (failure : Option WorkflowFailureData)
  (now : Time) (m u : MemoryState) : Prop where
 run : ∃ run, m.runs state.request.runID = some run ∧ run.status = .suspended ∧
  (run.id = state.request.runID →
   u.runs state.request.runID = some (decidedRun run status failure now))
 snapshot : ∃ encoded sequence, encodeApproval (decided state decision next) = .ok encoded ∧
  Appends m u (approvalRecord encoded sequence now)

lemma wp_saveTransition {a run state status failure now m} :
  wp repoStore (saveTransition a run state status failure now) (fun r u=>r = .ok () →
   u.runs run.id=some (decidedRun run status failure now) ∧
    ∃ sequence,Appends m u (approvalRecord state sequence now)) m := by
 apply wp_seq wp_saveApprovalSnapshot
 intro saved m' hsaved
 cases saved with
 | error e => exact nofun
 | ok _ =>
  obtain ⟨sequence,hinserted⟩:=hsaved rfl
  refine ⟨trivial,?_⟩
  rintro r u hr rfl
  have hwritten:(.ok (),u) =
    written m' (saveWorkflowRun m' (decidedRun run status failure now)) := hr
  cases hsave : saveWorkflowRun m' (decidedRun run status failure now) with
  | error e =>
   rw [hsave] at hwritten
   cases hwritten
  | ok v =>
   rw [hsave] at hwritten
   cases hwritten
   obtain rfl := saveWorkflowRun_eq_ok hsave
   have happends:=hinserted.appends (m := m) rfl
   exact ⟨if_pos rfl,sequence,happends.snapshots,happends.fresh,happends.last⟩

lemma transitionRun_ok {a state requestID decision status next failure now}
  (h:transaction (transitionRun a state requestID decision status next failure now) m=(.ok (),
   u)) : TransitionWrites state decision status next failure now m u := by
 apply transaction_ok h
 apply wp_repoOp
 have hget:applyRepo (.getWorkflowRun state.request.runID) m =
   (getWorkflowRun m state.request.runID,m) := rfl
 rw [hget,getWorkflowRun]
 cases hrun : m.runs state.request.runID with
 | none => exact nofun
 | some run =>
  dsimp only
  split
  · exact nofun
  rename_i hnot
  have hstatus:run.status = .suspended:=not_not.mp fun h=>hnot (.inl h)
  split
  · exact nofun
  rename_i encoded hencoded
  apply wp_mono wp_saveTransition
  intro r u hu hr
  obtain ⟨hsaved,sequence,happends⟩:=hu hr
  refine ⟨⟨run,hrun,hstatus,?_⟩,encoded,sequence,hencoded,happends⟩
  intro hid
  rw [← hid]
  exact hsaved

end Lebro.ApprovalStore
