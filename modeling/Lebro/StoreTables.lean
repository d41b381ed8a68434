import Lebro.StoreRecords
import Mathlib.Data.List.AList
import Mathlib.Data.List.Sort

set_option autoImplicit false

/-! Maps that are only looked up are functions; those that are listed are finite maps. -/
namespace Lebro.StoreTables

open EffectProgram RuntimeTypes RuntimeRecords RuntimeEffects MemoryStore StoreRecords

abbrev Table (K V : Type) := AList fun _ : K => V

structure StoreState where
 threads : ThreadID → Option ThreadRecord
 messages : ThreadID → List MessageRecord
 runs : Table RunID WorkflowRunRecord
 snapshots : RunID → List WorkflowSnapshotRecord
 schedules : Table ScheduleID ScheduleRecord
 executions : ScheduleID → List ScheduleExecutionRecord
 workingMemory : Table String WorkingMemoryFact
 events : Table RunID (List RunEventRecord)
 attempts : Table RunID (List ModelAttemptRecord)
 toolExecs : Table RunID (List ToolExecutionRecord)

def StoreState.empty : StoreState :=
 ⟨fun _ => none, fun _ => [], ∅, fun _ => [], ∅, fun _ => [], ∅, ∅, ∅, ∅⟩

structure Identity where
 subject : String
 tenant : String
deriving DecidableEq

structure StoreContext where
 err : Option Err := none
 identity : Option Identity := none
 scope : Option RuntimeScope := none

def errInvalidPage : Err := .new "lebro: invalid page request"

def alive {α : Type} (ctx : StoreContext) (body : Except Err α) : Except Err α :=
 match ctx.err with
 | some e => .error e
 | none => body

lemma alive_eq_ok {α:Type} {ctx:StoreContext} {body:Except Err α} {a}
  (h:alive ctx body = .ok a) : body = .ok a := by
 unfold alive at h
 split at h
 · cases h
 · exact h

lemma map_eq_ok {α β:Type} {x:Except Err α} {f:α → β} {b} (h:x.map f = .ok b) :
  ∃ a,x = .ok a ∧ f a=b := by
 cases x with
 | error e => cases h
 | ok a =>
  cases h
  exact ⟨a,rfl,rfl⟩

def put {K V : Type} [DecidableEq K] (f : K → V) (k : K) (v : V) : K → V :=
 fun x => if x = k then v else f x

def paginate {α : Type} (records : List α) (q : PageQuery) : Except Err (Page α) :=
 match q.cursor with
 | some none => .error errInvalidPage
 | cursor =>
  let start := (cursor.bind id).getD 0
  if q.limit < 0 then .error errInvalidPage
  else
   let limit := if q.limit = 0 then 100 else q.limit.toNat
   let rest := records.drop start
   .ok ⟨rest.take limit, if limit < rest.length then some (start + limit) else none⟩

section

variable (ctx:StoreContext) (s:StoreState)

def createThread (v : ThreadRecord) : Except Err StoreState :=
 alive ctx <|
  if v.id = "" then .error (.new "lebro: thread ID is required")
  else if ¬ v.metadata.storable then .error (errNotJSON.wrap "lebro: thread metadata: ")
  else if (s.threads v.id).isSome then
   .error (.new ("lebro: thread " ++ quote v.id ++ " already exists"))
  else .ok { s with threads := put s.threads v.id (some v) }

def getThread (id : ThreadID) : Except Err ThreadRecord :=
 alive ctx <|
  match s.threads id with
  | some v => .ok v
  | none => .error errNotFound

def updateThread (v : ThreadRecord) : Except Err StoreState :=
 alive ctx <|
  if (s.threads v.id).isNone then .error errNotFound
  else if ¬ v.metadata.storable then .error (errNotJSON.wrap "lebro: thread metadata: ")
  else .ok { s with threads := put s.threads v.id (some v) }

def checkMessage (v : MessageRecord) : Option Err :=
 v.message.validate.or
  (if ¬ v.metadata.storable then some (errNotJSON.wrap "lebro: message metadata: ") else none)

/-- The first loop of `appendMessages`, with the messages of the batch that it has seen. -/
def checkAppend : List (ThreadID × String) → List MessageRecord → Option Err
 | _, [] => none
 | seen, v :: vs =>
  if v.id = "" ∨ v.threadID = "" then some (.new "lebro: message and thread IDs are required")
  else if (s.threads v.threadID).isNone then some errNotFound
  else
   match checkMessage v with
   | some e => some e
   | none =>
    if (s.messages v.threadID).any (fun w => w.id = v.id) ∨ (v.threadID, v.id) ∈ seen then
     some (.new ("lebro: message " ++ quote v.id ++ " already exists"))
    else checkAppend ((v.threadID, v.id) :: seen) vs

def appendMessages (vs : List MessageRecord) : Except Err StoreState :=
 alive ctx <|
  match checkAppend s [] vs with
  | some e => .error e
  | none => .ok { s with
    messages := fun id => s.messages id ++ vs.filter fun v => v.threadID = id }

/-- The first loop of `updateMessages`. -/
def checkUpdate : List (ThreadID × String) → List MessageRecord → Option Err
 | _, [] => none
 | seen, v :: vs =>
  if v.id = "" ∨ v.threadID = "" then some (.new "lebro: message and thread IDs are required")
  else
   match checkMessage v with
   | some e => some e
   | none =>
    if (v.threadID, v.id) ∈ seen then some (.new ("lebro: duplicate message " ++ quote v.id))
    else if (s.messages v.threadID).all (fun w => w.id ≠ v.id) then some errNotFound
    else checkUpdate ((v.threadID, v.id) :: seen) vs

/-- The first stored message with the ID is replaced and keeps its creation time. -/
def replaceMessage (v : MessageRecord) : List MessageRecord → List MessageRecord
 | [] => []
 | w :: ws => if w.id = v.id then { v with createdAt := w.createdAt } :: ws
   else w :: replaceMessage v ws

def updateMessages (vs : List MessageRecord) : Except Err StoreState :=
 alive ctx <|
  match checkUpdate s [] vs with
  | some e => .error e
  | none => .ok { s with
    messages := vs.foldl
     (fun f v => put f v.threadID (replaceMessage v (f v.threadID))) s.messages }

def deleteMessages (id : ThreadID) (ids : List String) : Except Err StoreState :=
 alive ctx <|
  if (s.threads id).isNone then .error errNotFound
  else if ids.isEmpty then .ok s
  else if "" ∈ ids then .error (.new "lebro: message ID is required")
  else .ok { s with
   messages := put s.messages id ((s.messages id).filter fun w => w.id ∉ ids) }

def listMessages (id : ThreadID) (q : PageQuery) : Except Err (Page MessageRecord) :=
 alive ctx <| if (s.threads id).isNone then .error errNotFound else paginate (s.messages id) q

end

def StoreState.view (s : StoreState) : MemoryState where
 runs id := s.runs.lookup id
 snapshots := s.snapshots
 schedules id := s.schedules.lookup id

section

variable (ctx:StoreContext) (s:StoreState)

def saveWorkflowRun (v : WorkflowRunRecord) : Except Err StoreState :=
 alive ctx ((MemoryStore.saveWorkflowRun s.view v).map fun _ =>
  { s with runs := s.runs.insert v.id v })

def getWorkflowRun (id : RunID) : Except Err WorkflowRunRecord :=
 alive ctx (MemoryStore.getWorkflowRun s.view id)

def timeOrder {K V : Type} [LE K] (time : V → Time) (a b : (_ : K) × V) : Prop :=
 time a.2 < time b.2 ∨ time a.2 = time b.2 ∧ a.1 ≤ b.1

instance {V : Type} (time : V → Time) : DecidableRel (timeOrder (K := String) time) :=
 fun a b => inferInstanceAs (Decidable (time a.2 < time b.2 ∨ time a.2 = time b.2 ∧ a.1 ≤ b.1))

def listed {V : Type} (t : Table String V) (time : V → Time) : List V :=
 (t.entries.insertionSort (timeOrder time)).map Sigma.snd

def listWorkflowRuns (f : WorkflowRunFilter) (q : PageQuery) :
  Except Err (Page WorkflowRunRecord) :=
 alive ctx (paginate ((listed s.runs WorkflowRunRecord.startedAt).filter f.keeps) q)

def saveWorkflowSnapshot (v : WorkflowSnapshotRecord) : Except Err StoreState :=
 alive ctx ((MemoryStore.saveWorkflowSnapshot s.view v).map fun m =>
  { s with snapshots := m.snapshots })

def listWorkflowSnapshots (id : RunID) (q : PageQuery) : Except Err (Page WorkflowSnapshotRecord) :=
 alive ctx <| if (s.runs.lookup id).isNone then .error errNotFound else paginate (s.snapshots id) q

def saveSchedule (v : ScheduleRecord) : Except Err StoreState :=
 alive ctx ((MemoryStore.saveSchedule s.view v).map fun _ =>
  { s with schedules := s.schedules.insert v.id v })

def getSchedule (id : ScheduleID) : Except Err ScheduleRecord :=
 alive ctx <|
  match s.schedules.lookup id with
  | some v => .ok v
  | none => .error errNotFound

def listSchedules (f : ScheduleFilter) (q : PageQuery) : Except Err (Page ScheduleRecord) :=
 alive ctx (paginate ((listed s.schedules ScheduleRecord.createdAt).filter
  fun v => scheduleMatchesFilter v f) q)

def deleteSchedule (id : ScheduleID) : Except Err StoreState :=
 alive ctx <|
  if (s.schedules.lookup id).isNone then .error errNotFound
  else .ok { s with schedules := s.schedules.erase id, executions := put s.executions id [] }

def saveScheduleExecution (v : ScheduleExecutionRecord) : Except Err StoreState :=
 alive ctx <|
  if v.id = "" ∨ v.scheduleID = "" then
   .error (.new "lebro: schedule execution and schedule IDs are required")
  else if (s.schedules.lookup v.scheduleID).isNone then .error errNotFound
  else if (s.executions v.scheduleID).any fun w => w.id = v.id then
   .error (.new "lebro: schedule execution already exists")
  else .ok { s with
   executions := put s.executions v.scheduleID (s.executions v.scheduleID ++ [v]) }

def listScheduleExecutions (id : ScheduleID) (q : PageQuery) :
  Except Err (Page ScheduleExecutionRecord) :=
 alive ctx <|
  if (s.schedules.lookup id).isNone then .error errNotFound else paginate (s.executions id) q

end

section

variable (ctx:StoreContext) (s:StoreState)

variable (scope:RuntimeScope)

def workingMemoryMapKey (key : String) : String :=
 scope.ns ++ "\x00" ++ scope.ownerID ++ "\x00" ++ key

def errWorkingMemoryDenied (identity : Identity) (scope : RuntimeScope) : Err :=
 .sentinel ("lebro: policy denied storage.write on working_memory " ++ quote scope.ownerID ++
  " for subject " ++ quote (if identity.subject = "" then "anonymous" else identity.subject) ++
  ": working memory scope does not match caller identity") .policyDenied

def validateWorkingMemoryScope : Option Err :=
 if scope.ns = "" ∨ scope.ownerID = "" then
  some (.new "lebro: working memory namespace and owner ID are required")
 else
  match ctx.identity with
  | some identity =>
   if identity.tenant ≠ scope.ns ∨ identity.subject ≠ scope.ownerID then
    some (errWorkingMemoryDenied identity scope)
   else none
  | none => none

def validateWorkingMemoryFact (v : WorkingMemoryFact) : Option Err :=
 if v.id = "" ∨ v.key = "" then some (.new "lebro: working memory fact ID and key are required")
 else (validateWorkingMemoryScope ctx v.scope).or
  (if ¬ v.value.storable then some (errNotJSON.wrap "lebro: working memory fact value: ")
  else none)

/-- The version that a write leaves: the stored one must be the expected one, and a new fact is
expected at zero. -/
def nextFact (v : WorkingMemoryFact) (expected : Int) :
  Option WorkingMemoryFact → Except Err WorkingMemoryFact
 | some old =>
  if expected = 0 ∨ old.version ≠ expected then .error errConflict
  else .ok { v with version := old.version + 1, createdAt := old.createdAt }
 | none => if expected ≠ 0 then .error errConflict else .ok { v with version := 1 }

def upsertWorkingMemoryFact (v : WorkingMemoryFact) (expected : Int) :
  Except Err (WorkingMemoryFact × StoreState) :=
 alive ctx <|
  match validateWorkingMemoryFact ctx v with
  | some e => .error e
  | none =>
   match nextFact v expected (s.workingMemory.lookup (workingMemoryMapKey v.scope v.key)) with
   | .error e => .error e
   | .ok w => .ok (w, { s with
     workingMemory := s.workingMemory.insert (workingMemoryMapKey v.scope v.key) w })

def getWorkingMemoryFact (key : String) : Except Err WorkingMemoryFact :=
 alive ctx <|
  match validateWorkingMemoryScope ctx scope with
  | some e => .error e
  | none =>
   match s.workingMemory.lookup (workingMemoryMapKey scope key) with
   | some v => .ok v
   | none => .error errNotFound

def scopeFacts : List WorkingMemoryFact :=
 ((s.workingMemory.entries.map Sigma.snd).filter fun v => v.scope = scope).insertionSort
   fun v w => v.key ≤ w.key

variable (q:PageQuery)

def listWorkingMemoryFacts : Except Err (Page WorkingMemoryFact) :=
 alive ctx <|
  match validateWorkingMemoryScope ctx scope with
  | some e => .error e
  | none => paginate (scopeFacts s scope) q

def deleteWorkingMemoryFact (key : String) (expected : Int) : Except Err StoreState :=
 match getWorkingMemoryFact ctx s scope key with
 | .error e => .error e
 | .ok v =>
  if expected = 0 ∨ v.version ≠ expected then .error errConflict
  else .ok { s with
   workingMemory := s.workingMemory.erase (workingMemoryMapKey scope key) }

def otherFacts (t : Table String WorkingMemoryFact) : Table String WorkingMemoryFact where
 entries := t.entries.filter fun e => e.2.scope ≠ scope
 nodupKeys := (List.filter_sublist.map Sigma.fst).nodup t.nodupKeys

def clearWorkingMemory : Except Err StoreState :=
 match validateWorkingMemoryScope ctx scope with
 | some e => .error e
 | none => .ok { s with workingMemory := otherFacts scope s.workingMemory }

end

section

variable {R:Type} (ctx:StoreContext) (s:StoreState)

def addRecords (runID : R → RunID) (id : R → String) (vs : List R) (t : Table RunID (List R)) :
  Table RunID (List R) :=
 vs.foldl (fun t v =>
  let old := (t.lookup (runID v)).getD []
  if old.any fun w => id w = id v then t else t.insert (runID v) (old ++ [v])) t

def saveRecords (validate : R → Option Err) (runID : R → RunID) (id : R → String) (vs : List R)
  (t : Table RunID (List R)) : Except Err (Table RunID (List R)) :=
 alive ctx <|
  match vs.findSome? validate with
  | some e => .error e
  | none => .ok (addRecords runID id vs t)

def recordsByRun (runFilter : RunID) (keep : R → Bool) (arrange : List R → List R)
  (t : Table RunID (List R)) : List R :=
 ((t.entries.insertionSort fun a b => a.1 ≤ b.1).filter fun e =>
   matchesText runFilter e.1).flatMap fun e => arrange (e.2.filter keep)

def appendRunEvents (vs : List RunEventRecord) : Except Err StoreState :=
 (saveRecords ctx validateRunEventRecord RunEventRecord.runID RunEventRecord.id vs s.events).map
  fun t => { s with events := t }

def eventOrder (v w : RunEventRecord) : Prop :=
 v.sequence < w.sequence ∨ v.sequence = w.sequence ∧
  (v.executionID < w.executionID ∨ v.executionID = w.executionID ∧ v.id ≤ w.id)

instance : DecidableRel eventOrder := fun v w =>
 inferInstanceAs (Decidable (v.sequence < w.sequence ∨ v.sequence = w.sequence ∧
  (v.executionID < w.executionID ∨ v.executionID = w.executionID ∧ v.id ≤ w.id)))

def listRunEvents (f : RunEventFilter) (q : PageQuery) : Except Err (Page RunEventRecord) :=
 alive ctx (paginate (recordsByRun f.runID (fun v => runEventMatchesFilter v f)
  (fun vs => vs.insertionSort eventOrder) s.events) q)

def saveModelAttempts (vs : List ModelAttemptRecord) : Except Err StoreState :=
 (saveRecords ctx validateModelAttemptRecord ModelAttemptRecord.runID ModelAttemptRecord.id vs
  s.attempts).map fun t => { s with attempts := t }

def listModelAttempts (f : ModelAttemptFilter) (q : PageQuery) :
  Except Err (Page ModelAttemptRecord) :=
 if ¬ validCostSource f.costSource then .error (.new "lebro: invalid model attempt cost source")
 else alive ctx (paginate (recordsByRun f.runID f.keeps id s.attempts) q)

def saveToolExecutions (vs : List ToolExecutionRecord) : Except Err StoreState :=
 (saveRecords ctx validateToolExecutionRecord ToolExecutionRecord.runID ToolExecutionRecord.id vs
  s.toolExecs).map fun t => { s with toolExecs := t }

def listToolExecutions (f : ToolExecutionFilter) (q : PageQuery) :
  Except Err (Page ToolExecutionRecord) :=
 alive ctx (paginate (recordsByRun f.runID f.keeps id s.toolExecs) q)

end

inductive StoreOp where
 | createThread (v : ThreadRecord)
 | getThread (id : ThreadID)
 | updateThread (v : ThreadRecord)
 | appendMessages (vs : List MessageRecord)
 | updateMessages (vs : List MessageRecord)
 | deleteMessages (id : ThreadID) (ids : List String)
 | listMessages (id : ThreadID) (q : PageQuery)
 | saveWorkflowRun (v : WorkflowRunRecord)
 | getWorkflowRun (id : RunID)
 | listWorkflowRuns (f : WorkflowRunFilter) (q : PageQuery)
 | saveWorkflowSnapshot (v : WorkflowSnapshotRecord)
 | listWorkflowSnapshots (id : RunID) (q : PageQuery)
 | saveSchedule (v : ScheduleRecord)
 | getSchedule (id : ScheduleID)
 | listSchedules (f : ScheduleFilter) (q : PageQuery)
 | deleteSchedule (id : ScheduleID)
 | saveScheduleExecution (v : ScheduleExecutionRecord)
 | listScheduleExecutions (id : ScheduleID) (q : PageQuery)
 | upsertWorkingMemoryFact (v : WorkingMemoryFact) (expected : Int)
 | getWorkingMemoryFact (scope : RuntimeScope) (key : String)
 | listWorkingMemoryFacts (scope : RuntimeScope) (q : PageQuery)
 | deleteWorkingMemoryFact (scope : RuntimeScope) (key : String) (expected : Int)
 | clearWorkingMemory (scope : RuntimeScope)
 | appendRunEvents (vs : List RunEventRecord)
 | listRunEvents (f : RunEventFilter) (q : PageQuery)
 | saveModelAttempts (vs : List ModelAttemptRecord)
 | listModelAttempts (f : ModelAttemptFilter) (q : PageQuery)
 | saveToolExecutions (vs : List ToolExecutionRecord)
 | listToolExecutions (f : ToolExecutionFilter) (q : PageQuery)

@[reducible] def StoreOp.Value : StoreOp → Type
  | .getThread _ => ThreadRecord
  | .listMessages _ _ => Page MessageRecord
  | .getWorkflowRun _ => WorkflowRunRecord
  | .listWorkflowRuns _ _ => Page WorkflowRunRecord
  | .listWorkflowSnapshots _ _ => Page WorkflowSnapshotRecord
  | .getSchedule _ => ScheduleRecord
  | .listSchedules _ _ => Page ScheduleRecord
  | .listScheduleExecutions _ _ => Page ScheduleExecutionRecord
  | .upsertWorkingMemoryFact _ _ => WorkingMemoryFact
  | .getWorkingMemoryFact _ _ => WorkingMemoryFact
  | .listWorkingMemoryFacts _ _ => Page WorkingMemoryFact
  | .listRunEvents _ _ => Page RunEventRecord
  | .listModelAttempts _ _ => Page ModelAttemptRecord
  | .listToolExecutions _ _ => Page ToolExecutionRecord
  | _ => Unit

abbrev StoreSig : Sig := ⟨StoreContext × StoreOp, fun call => Except Err call.2.Value⟩

def saved (s : StoreState) : Except Err StoreState → Except Err Unit × StoreState
 | .ok u => (.ok (), u)
 | .error e => (.error e, s)

def fetched {α : Type} (s : StoreState) : Except Err (α × StoreState) → Except Err α × StoreState
 | .ok (a, u) => (.ok a, u)
 | .error e => (.error e, s)

def perform (ctx : StoreContext) : (o : StoreOp) → StoreState → Except Err o.Value × StoreState
 | .createThread v, s => saved s (createThread ctx s v)
 | .getThread id, s => (getThread ctx s id, s)
 | .updateThread v, s => saved s (updateThread ctx s v)
 | .appendMessages vs, s => saved s (appendMessages ctx s vs)
 | .updateMessages vs, s => saved s (updateMessages ctx s vs)
 | .deleteMessages id ids, s => saved s (deleteMessages ctx s id ids)
 | .listMessages id q, s => (listMessages ctx s id q, s)
 | .saveWorkflowRun v, s => saved s (saveWorkflowRun ctx s v)
 | .getWorkflowRun id, s => (getWorkflowRun ctx s id, s)
 | .listWorkflowRuns f q, s => (listWorkflowRuns ctx s f q, s)
 | .saveWorkflowSnapshot v, s => saved s (saveWorkflowSnapshot ctx s v)
 | .listWorkflowSnapshots id q, s => (listWorkflowSnapshots ctx s id q, s)
 | .saveSchedule v, s => saved s (saveSchedule ctx s v)
 | .getSchedule id, s => (getSchedule ctx s id, s)
 | .listSchedules f q, s => (listSchedules ctx s f q, s)
 | .deleteSchedule id, s => saved s (deleteSchedule ctx s id)
 | .saveScheduleExecution v, s => saved s (saveScheduleExecution ctx s v)
 | .listScheduleExecutions id q, s => (listScheduleExecutions ctx s id q, s)
 | .upsertWorkingMemoryFact v expected, s => fetched s (upsertWorkingMemoryFact ctx s v expected)
 | .getWorkingMemoryFact scope key, s => (getWorkingMemoryFact ctx s scope key, s)
 | .listWorkingMemoryFacts scope q, s => (listWorkingMemoryFacts ctx s scope q, s)
 | .deleteWorkingMemoryFact scope key expected, s =>
  saved s (deleteWorkingMemoryFact ctx s scope key expected)
 | .clearWorkingMemory scope, s => saved s (clearWorkingMemory ctx s scope)
 | .appendRunEvents vs, s => saved s (appendRunEvents ctx s vs)
 | .listRunEvents f q, s => (listRunEvents ctx s f q, s)
 | .saveModelAttempts vs, s => saved s (saveModelAttempts ctx s vs)
 | .listModelAttempts f q, s => (listModelAttempts ctx s f q, s)
 | .saveToolExecutions vs, s => saved s (saveToolExecutions ctx s vs)
 | .listToolExecutions f q, s => (listToolExecutions ctx s f q, s)

def storeCall : RepoOp → StoreOp
 | .getWorkflowRun id => .getWorkflowRun id
 | .saveWorkflowRun v => .saveWorkflowRun v
 | .saveWorkflowSnapshot v => .saveWorkflowSnapshot v
 | .listWorkflowSnapshots id page => .listWorkflowSnapshots id ⟨page.cursor.map some, page.limit⟩
 | .saveSchedule v => .saveSchedule v

def repoReply : (o : RepoOp) → Except Err (storeCall o).Value → o.Reply
 | .getWorkflowRun _, r => r
 | .saveWorkflowRun _, r => r
 | .saveWorkflowSnapshot _, r => r
 | .listWorkflowSnapshots _ _, r => r.map fun page => ⟨page.records, page.nextCursor⟩
 | .saveSchedule _, r => r

lemma paginate_offset {α:Type} (records:List α) (page:PageRequest) :
  paginate records ⟨page.cursor.map some,page.limit⟩ =
   .ok ⟨(records.drop (page.cursor.getD 0)).take (if page.limit=0 then 100 else page.limit),
    if (if page.limit=0 then 100 else page.limit) < (records.drop (page.cursor.getD 0)).length
    then some (page.cursor.getD 0+if page.limit=0 then 100 else page.limit) else none⟩ := by
 have hlimit:¬ ((page.limit : Int) < 0) := by omega
 obtain ⟨cursor,limit⟩:=page
 unfold paginate
 cases cursor with
 | none =>
  dsimp only [Option.map_none,Option.bind_none,Option.getD_none]
  rw [if_neg hlimit]
  cases limit with
  | zero => rfl
  | succ n => rfl
 | some n =>
  dsimp only [Option.map_some,Option.bind_some,id,Option.getD_some]
  rw [if_neg hlimit]
  cases limit with
  | zero => rfl
  | succ n => rfl

lemma written_view {s x f} (h:∀ m,x = .ok m → m=(f m).view) :
  written s.view x=((saved s (x.map f)).1,(saved s (x.map f)).2.view) := by
 cases x with
 | error e => rfl
 | ok m => exact congrArg (Prod.mk (Except.ok ())) (h m rfl)

lemma lookup_insert_eq {V:Type} (t:Table String V) (k) (v:V) :
  (fun id=>(t.insert k v).lookup id)=fun id=>if id=k then some v else t.lookup id := by
 funext id
 by_cases hid : id=k
 · subst hid
   simp
 · simp [hid]

/-- The store of the workflows is a view of the whole store: a call answers the same over both, and
leaves what the view shows. -/
lemma applyRepo_view (o s) : applyRepo o s.view =
   (repoReply o (perform {} (storeCall o) s).1,(perform {} (storeCall o) s).2.view) := by
 cases o with
 | getWorkflowRun id => rfl
 | saveWorkflowRun v =>
  apply written_view
  intro m hm
  rw [saveWorkflowRun_eq_ok hm]
  unfold StoreState.view
  rw [lookup_insert_eq]
 | saveWorkflowSnapshot v =>
  apply written_view
  intro m hm
  rw [(saveWorkflowSnapshot_ok hm).2]
  rfl
 | listWorkflowSnapshots id page =>
  dsimp only [applyRepo,storeCall,perform,repoReply,listWorkflowSnapshots,alive,
   MemoryStore.listWorkflowSnapshots,StoreState.view]
  split
  · rfl
  · rw [paginate_offset]
    rfl
 | saveSchedule v =>
  apply written_view
  intro m hm
  rw [saveSchedule_eq_ok hm]
  unfold StoreState.view
  rw [lookup_insert_eq]

end Lebro.StoreTables
