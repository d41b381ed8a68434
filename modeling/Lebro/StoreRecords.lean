import Lebro.MemoryStore

set_option autoImplicit false

/-! A zero time is `none`, and so is a status or type that the runtime does not know. -/
namespace Lebro.StoreRecords

open RuntimeTypes RuntimeRecords MemoryStore

abbrev ScheduleID := String

structure ThreadRecord where
 id : ThreadID
 scope : RuntimeScope := {}
 metadata : RawMessage := .empty
 createdAt : Time := 0
 updatedAt : Time := 0

structure MessageRecord where
 id : String
 threadID : ThreadID
 message : Message
 metadata : RawMessage := .empty
 createdAt : Time := 0

inductive ScheduleExecStatus where
 | succeeded
 | failed
 | skipped
 | missed
deriving DecidableEq

structure ScheduleExecutionRecord where
 id : String
 scheduleID : ScheduleID
 runID : RunID := ""
 scope : RuntimeScope := {}
 status : ScheduleExecStatus
 scheduledFor : Time := 0
 startedAt : Time := 0
 finishedAt : Option Time := none
 error : String := ""

/-- A fact; its version, an int64, counts the writes and does not come near the bound at which
adding one wraps. -/
structure WorkingMemoryFact where
 id : String
 scope : RuntimeScope
 key : String
 value : RawMessage := .empty
 version : Int := 0
 createdAt : Time := 0
 updatedAt : Time := 0

/-- A run event; `invalid` is what the checks of its plugin, usage, accounting and metadata
report. -/
structure RunEventRecord where
 id : String
 runID : RunID
 threadID : ThreadID := ""
 scope : RuntimeScope := {}
 executionID : String := ""
 sequence : Int
 type : Option RunEventType
 timestamp : Option Time
 toolID : ToolID := ""
 provider : String := ""
 payload : RawMessage := .empty
 invalid : Option Err := none

inductive ModelAttemptStatus where
 | success
 | fallback
 | failed
 | cancelled
deriving DecidableEq

inductive CostSource where
 | unset
 | unavailable
 | providerReported
 | developerSupplied
 | estimated
 | other (text : String)
deriving DecidableEq

/-- A model attempt; `invalid` is what the checks of its usage, accounting, finish reason, produced
messages and metadata report. -/
structure ModelAttemptRecord where
 id : String
 runID : RunID
 threadID : ThreadID := ""
 scope : RuntimeScope := {}
 executionID : String := ""
 index : Int
 provider : String := ""
 model : String := ""
 status : Option ModelAttemptStatus
 startedAt : Option Time
 finishedAt : Option Time
 costSources : List CostSource := []
 invalid : Option Err := none

/-- A tool execution; `invalid` is what the check of its metadata reports. -/
structure ToolExecutionRecord where
 id : String
 runID : RunID
 threadID : ThreadID := ""
 scope : RuntimeScope := {}
 executionID : String := ""
 toolCallID : String
 toolID : ToolID
 state : Option ToolExecutionState
 startedAt : Option Time
 finishedAt : Option Time := none
 invalid : Option Err := none

def validateObservabilityIdentity (record id : String) (runID : RunID) : Option Err :=
 if id = "" then some (.new ("lebro: " ++ record ++ " ID is required"))
 else if runID = "" then some (.new ("lebro: " ++ record ++ " run ID is required"))
 else none

/-- Whether the first time lies before the second one; zero times are compared with nothing. -/
def timeBefore : Option Time → Option Time → Bool
 | some a, some b => decide (a < b)
 | _, _ => false

def validateRunEventRecord (v : RunEventRecord) : Option Err :=
 (validateObservabilityIdentity "run event" v.id v.runID).or
  (if v.sequence ≤ 0 then
   some (.new ("lebro: run event " ++ quote v.id ++ " sequence must be positive"))
  else if v.type.isNone then some (.new ("lebro: run event " ++ quote v.id ++ " type is required"))
  else if v.timestamp.isNone then some (.new "lebro: run event timestamp is required")
  else if ¬ v.payload.storable then
   some (errNotJSON.wrap ("lebro: run event " ++ quote v.id ++ " payload: "))
  else v.invalid)

def validateModelAttemptRecord (v : ModelAttemptRecord) : Option Err :=
 (validateObservabilityIdentity "model attempt" v.id v.runID).or
  (if v.index ≤ 0 then
   some (.new ("lebro: model attempt " ++ quote v.id ++ " index must be positive"))
  else if v.status.isNone then
   some (.new ("lebro: model attempt " ++ quote v.id ++ " has invalid status"))
  else if v.startedAt.isNone ∨ v.finishedAt.isNone then
   some (.new "lebro: model attempt timestamps are required")
  else if timeBefore v.finishedAt v.startedAt then
   some (.new ("lebro: model attempt " ++ quote v.id ++ " finishes before it starts"))
  else v.invalid)

def validateToolExecutionRecord (v : ToolExecutionRecord) : Option Err :=
 (validateObservabilityIdentity "tool execution" v.id v.runID).or
  (if v.toolCallID = "" then
   some (.new ("lebro: tool execution " ++ quote v.id ++ " requires a tool call ID"))
  else if v.toolID = "" then
   some (.new ("lebro: tool execution " ++ quote v.id ++ " requires a tool ID"))
  else if v.state.isNone then
   some (.new ("lebro: tool execution " ++ quote v.id ++ " has invalid state"))
  else if v.startedAt.isNone then some (.new "lebro: tool execution start timestamp is required")
  else if timeBefore v.finishedAt v.startedAt then
   some (.new ("lebro: tool execution " ++ quote v.id ++ " finishes before it starts"))
  else v.invalid)

/-- A cursor is empty, an offset, or not readable as one. -/
structure PageQuery where
 cursor : Option (Option Nat) := none
 limit : Int := 0

structure Page (α : Type) where
 records : List α
 nextCursor : Option Nat := none

def matchesText (filter value : String) : Bool := filter = "" || value = filter

def matchesScope (filter scope : RuntimeScope) : Bool :=
 matchesText filter.ns scope.ns && matchesText filter.ownerID scope.ownerID

structure WorkflowRunFilter where
 workflowID : WorkflowID := ""
 status : RunStatus := .unset
 scope : RuntimeScope := {}

def WorkflowRunFilter.keeps (f : WorkflowRunFilter) (v : WorkflowRunRecord) : Bool :=
 matchesText f.workflowID v.workflowID && (f.status = .unset || v.status = f.status) &&
  matchesScope f.scope v.scope

structure ScheduleFilter where
 workflowID : WorkflowID := ""
 dueBy : Option Time := none
 scope : RuntimeScope := {}

def scheduleDue (dueBy : Time) (v : ScheduleRecord) : Bool :=
 !v.paused && v.nextFireAt.any fun next => next ≤ dueBy

def scheduleMatchesFilter (v : ScheduleRecord) (f : ScheduleFilter) : Bool :=
 matchesText f.workflowID v.workflowID && matchesScope f.scope v.scope &&
  f.dueBy.all fun dueBy => scheduleDue dueBy v

structure RunEventFilter where
 runID : RunID := ""
 threadID : ThreadID := ""
 scope : RuntimeScope := {}
 executionID : String := ""
 type : Option RunEventType := none
 start : Option Time := none
 stop : Option Time := none
 provider : String := ""
 toolID : ToolID := ""

def withinEventRange (t start stop : Option Time) : Bool :=
 !timeBefore t start && (stop.isNone || timeBefore t stop)

def runEventMatchesFilter (v : RunEventRecord) (f : RunEventFilter) : Bool :=
 matchesText f.threadID v.threadID && matchesScope f.scope v.scope &&
  matchesText f.executionID v.executionID && (f.type.isNone || v.type = f.type) &&
  matchesText f.provider v.provider && matchesText f.toolID v.toolID &&
  withinEventRange v.timestamp f.start f.stop

structure ModelAttemptFilter where
 runID : RunID := ""
 threadID : ThreadID := ""
 scope : RuntimeScope := {}
 executionID : String := ""
 provider : String := ""
 model : String := ""
 status : Option ModelAttemptStatus := none
 start : Option Time := none
 stop : Option Time := none
 costSource : CostSource := .unset

def validCostSource : CostSource → Bool
 | .other _ => false
 | _ => true

def ModelAttemptFilter.keeps (f : ModelAttemptFilter) (v : ModelAttemptRecord) : Bool :=
 matchesText f.threadID v.threadID && matchesScope f.scope v.scope &&
  matchesText f.executionID v.executionID && matchesText f.provider v.provider &&
  matchesText f.model v.model && (f.status.isNone || v.status = f.status) &&
  withinEventRange v.startedAt f.start f.stop &&
  (f.costSource = .unset || v.costSources.contains f.costSource)

structure ToolExecutionFilter where
 runID : RunID := ""
 threadID : ThreadID := ""
 scope : RuntimeScope := {}
 executionID : String := ""
 toolID : ToolID := ""
 state : Option ToolExecutionState := none

def ToolExecutionFilter.keeps (f : ToolExecutionFilter) (v : ToolExecutionRecord) : Bool :=
 matchesText f.threadID v.threadID && matchesScope f.scope v.scope &&
  matchesText f.executionID v.executionID && matchesText f.toolID v.toolID &&
  (f.state.isNone || v.state = f.state)

end Lebro.StoreRecords
