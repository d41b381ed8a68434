import Lebro.RuntimeEffects

set_option autoImplicit false

/-! Each store call and each transaction is one step; the run IDs claimed by the executors are part
of the state. -/
namespace Lebro.MemoryStore

open EffectProgram RuntimeTypes RuntimeRecords RuntimeEffects

structure MemoryState where
 runs : RunID → Option WorkflowRunRecord
 snapshots : RunID → List WorkflowSnapshotRecord
 schedules : String → Option ScheduleRecord

def errNotFound : Err := .sentinel "lebro: record not found" .notFound

def errConflict : Err := .sentinel "lebro: storage conflict" .conflict

def errSnapshotExists : Err := .new "lebro: workflow snapshot already exists"

def errNotJSON : Err := .new "must be valid JSON"

def joinStorable (joins : List FanOutJoinResult) : Bool :=
 joins.all fun j => j.branches.all fun b => b.output.storable

def saveWorkflowRun (s : MemoryState) (v : WorkflowRunRecord) : Except Err MemoryState :=
 if v.id = "" ∨ v.workflowID = "" then
  .error (.new "lebro: workflow run and workflow IDs are required")
 else if ¬ v.input.storable then .error (errNotJSON.wrap "lebro: workflow run input: ")
 else if ¬ v.output.storable then .error (errNotJSON.wrap "lebro: workflow run output: ")
 else if ¬ v.stepOutputs.all RawMessage.storable then
  .error (errNotJSON.wrap "lebro: workflow run step output: ")
 else if ¬ joinStorable v.fanOut then .error (errNotJSON.wrap "lebro: workflow run: ")
 else .ok { s with runs := fun id => if id = v.id then some v else s.runs id }

lemma saveWorkflowRun_eq_ok {s u v} (h : saveWorkflowRun s v = .ok u) :
  u = { s with runs := fun id => if id=v.id then some v else s.runs id } := by
 unfold saveWorkflowRun at h
 split at h
 · cases h
 split at h
 · cases h
 split at h
 · cases h
 split at h
 · cases h
 split at h
 · cases h
 · cases h
   rfl

def getWorkflowRun (s : MemoryState) (id : RunID) : Except Err WorkflowRunRecord :=
 match s.runs id with
 | some v => .ok v
 | none => .error errNotFound

/-- The sorted insertion of `saveWorkflowSnapshot`. -/
def insertSnapshot (v : WorkflowSnapshotRecord) :
  List WorkflowSnapshotRecord → List WorkflowSnapshotRecord
 | [] => [v]
 | w :: ws => if w.sequence < v.sequence then w :: insertSnapshot v ws else v :: w :: ws

lemma insertSnapshot_perm (v records) : (insertSnapshot v records).Perm (v :: records) := by
 induction records with
 | nil => exact .refl _
 | cons w ws ih =>
  rw [insertSnapshot]
  split
  · exact (ih.cons w).trans (.swap v w ws)
  · exact .refl _

def SnapshotState.storable : SnapshotState → Bool
 | .other state => state.storable
 | _ => true

def saveWorkflowSnapshot (s : MemoryState) (v : WorkflowSnapshotRecord) : Except Err MemoryState :=
 if v.id = "" ∨ v.runID = "" then .error (.new "lebro: workflow snapshot and run IDs are required")
 else if ¬ SnapshotState.storable v.state then
  .error (errNotJSON.wrap "lebro: workflow snapshot state: ")
 else if (s.runs v.runID).isNone then .error errNotFound
 else if (s.snapshots v.runID).any (fun w => w.id = v.id) then .error errSnapshotExists
 else if (s.snapshots v.runID).any (fun w => w.sequence = v.sequence) then .error errSnapshotExists
 else .ok { s with
  snapshots := fun id =>
   if id = v.runID then insertSnapshot v (s.snapshots v.runID) else s.snapshots id }

lemma saveWorkflowSnapshot_ok {m u v} (h : saveWorkflowSnapshot m v = .ok u) :
  (∀ w ∈ m.snapshots v.runID, w.id ≠ v.id ∧ w.sequence ≠ v.sequence) ∧
   u = { m with snapshots := fun id =>
    if id=v.runID then insertSnapshot v (m.snapshots v.runID) else m.snapshots id } := by
 unfold saveWorkflowSnapshot at h
 split at h
 · cases h
 split at h
 · cases h
 split at h
 · cases h
 split at h
 · cases h
 split at h
 · cases h
 cases h
 rename_i hid hsequence
 simp only [List.any_eq_true,decide_eq_true_eq,not_exists,not_and] at hid hsequence
 exact ⟨fun w hw => ⟨hid w hw,hsequence w hw⟩,rfl⟩

/-- `paginate` with cursors as offsets. -/
def paginate (records : List WorkflowSnapshotRecord) (page : PageRequest) : SnapshotPage :=
 let start := page.cursor.getD 0
 let limit := if page.limit = 0 then 100 else page.limit
 let rest := records.drop start
 { records := rest.take limit
   nextCursor := if limit < rest.length then some (start + limit) else none }

def listWorkflowSnapshots (s : MemoryState) (id : RunID) (page : PageRequest) :
  Except Err SnapshotPage :=
 if (s.runs id).isNone then .error errNotFound else .ok (paginate (s.snapshots id) page)

def saveSchedule (s : MemoryState) (v : ScheduleRecord) : Except Err MemoryState :=
 if v.id = "" ∨ v.workflowID = "" then .error (.new "lebro: schedule and workflow IDs are required")
 else if v.spec = "" then .error (.new "lebro: schedule spec is required")
 else if ¬ v.input.storable then .error (errNotJSON.wrap "lebro: schedule input: ")
 else if ¬ v.metadata.storable then .error (errNotJSON.wrap "lebro: schedule metadata: ")
 else .ok { s with schedules := fun id => if id = v.id then some v else s.schedules id }

lemma saveSchedule_eq_ok {s u v} (h : saveSchedule s v = .ok u) :
  u = { s with schedules := fun id => if id=v.id then some v else s.schedules id } := by
 unfold saveSchedule at h
 split at h
 · cases h
 split at h
 · cases h
 split at h
 · cases h
 split at h
 · cases h
 · cases h
   rfl

def written (s : MemoryState) : Except Err MemoryState → Except Err Unit × MemoryState
 | .ok u => (.ok (), u)
 | .error e => (.error e, s)

def applyRepo : (o : RepoOp) → MemoryState → o.Reply × MemoryState
 | .getWorkflowRun id, s => (getWorkflowRun s id, s)
 | .saveWorkflowRun v, s => written s (saveWorkflowRun s v)
 | .saveWorkflowSnapshot v, s => written s (saveWorkflowSnapshot s v)
 | .listWorkflowSnapshots id page, s => (listWorkflowSnapshots s id page, s)
 | .saveSchedule v, s => written s (saveSchedule s v)

def transaction (body : RepoProg (Except Err Unit)) (s : MemoryState) :
  Except Err Unit × MemoryState :=
 match body.run (S := RepoSig) applyRepo s with
 | (.ok (), u) => (.ok (), u)
 | (.error e, _) => (.error e, s)

structure RuntimeState where
 store : MemoryState
 claims : Nat → RunID → Bool

/-- A store call that fails on the way reports an error, never a missing record. -/
def failedReply : (o : RepoOp) → o.Reply → Prop
 | .getWorkflowRun _, r => ∃ e : Err, r = .error e ∧ e.is .notFound = false
 | .saveWorkflowRun _, r => ∃ e : Err, r = .error e
 | .saveWorkflowSnapshot _, r => ∃ e : Err, r = .error e
 | .listWorkflowSnapshots _ _, r => ∃ e : Err, r = .error e
 | .saveSchedule _, r => ∃ e : Err, r = .error e

/-- What the surroundings may answer, and the state after. When `faulty`, store calls may also fail
without effect. All replies of user code, clocks and contexts are possible. -/
def runtimeStep (faulty : Prop) (s : RuntimeState) : (o : RuntimeOp) → o.Reply → RuntimeState → Prop
 | .repo o, r, u =>
  (r, u.store) = applyRepo o s.store ∧ u.claims = s.claims ∨
   faulty ∧ failedReply o r ∧ u = s
 | .transaction body, r, u =>
  (r, u.store) = transaction body s.store ∧ u.claims = s.claims ∨
   faulty ∧ (∃ e : Err, r = .error e) ∧ u = s
 | .claim x id, r, u =>
  r = !s.claims x id ∧ u.store = s.store ∧
   u.claims = fun y j => if y = x ∧ j = id then true else s.claims y j
 | .release x id, _, u =>
  u.store = s.store ∧ u.claims = fun y j => if y = x ∧ j = id then false else s.claims y j
 | _, _, u => u = s

def runtimeWorld (faulty : Prop) : Monitor RuntimeSig RuntimeState where
 demand _ _ := True
 step s o r u := runtimeStep faulty s o r u

lemma runtimeStep_saved {faulty : Prop} {s u v}
  (h : runtimeStep faulty s (.repo (.saveWorkflowRun v)) (.ok ()) u) :
  u.store.runs v.id=some v := by
 rcases h with ⟨hstore,_⟩ | ⟨_,⟨e,he⟩,_⟩
 · rw [applyRepo] at hstore
   cases hsave : saveWorkflowRun s.store v with
   | error e =>
    rw [hsave] at hstore
    cases congrArg Prod.fst hstore
   | ok m =>
    rw [hsave] at hstore
    have hm : u.store=m := congrArg Prod.snd hstore
    rw [hm,saveWorkflowRun_eq_ok hsave]
    exact if_pos rfl
 · cases he

/-- One way for the surroundings to answer: the store works, and `user` answers for the rest. -/
def answerWith (user : (o : RuntimeOp) → Option o.Reply) :
  (o : RuntimeOp) → RuntimeState → Option (o.Reply × RuntimeState)
 | .repo o, s => some ((applyRepo o s.store).1, { s with store := (applyRepo o s.store).2 })
 | .transaction body, s =>
  some ((transaction body s.store).1, { s with store := (transaction body s.store).2 })
 | .claim x id, s =>
  some (!s.claims x id,
   { s with claims := fun y j => if y = x ∧ j = id then true else s.claims y j })
 | .release x id, s =>
  some ((), { s with claims := fun y j => if y = x ∧ j = id then false else s.claims y j })
 | o, s => (user o).map fun r => (r, s)

lemma answerWith_step {faulty : Prop} {user o s u r} (h : answerWith user o s=some (r,u)) :
  runtimeStep faulty s o r u := by
 cases o
 case repo o =>
  cases h
  exact .inl ⟨rfl,rfl⟩
 case transaction body =>
  cases h
  exact .inl ⟨rfl,rfl⟩
 case claim x id =>
  cases h
  exact ⟨rfl,rfl,rfl⟩
 case release x id =>
  cases h
  exact ⟨rfl,rfl⟩
 all_goals
  obtain ⟨_,_,heq⟩ := Option.map_eq_some_iff.mp h
  exact (congrArg Prod.snd heq).symm

def MemoryState.empty : MemoryState := ⟨fun _ => none, fun _ => [], fun _ => none⟩

def RuntimeState.empty : RuntimeState := ⟨.empty, fun _ _ => false⟩

end Lebro.MemoryStore
