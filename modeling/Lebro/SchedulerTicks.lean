import Lebro.StoreTables
import Lebro.WorkflowRuns

set_option autoImplicit false

/-! A fire returns what it adds to the result of the tick; a fire that returns an error has added
nothing. -/
namespace Lebro.SchedulerTicks

open EffectProgram RuntimeTypes RuntimeRecords RuntimeEffects MemoryStore StoreRecords StoreTables
open WorkflowSteps WorkflowExecution WorkflowRuns

/-- A compiled cron expression, of which only the search for the next fire is used. -/
structure CronSchedule where
 next : Time → Option Time
 later : ∀ t u, next t = some u → t < u

structure Scheduler where
 resolveWorkflow : WorkflowID → Option LinearWorkflow
 parseCronSpec : String → Except Err CronSchedule
 maxCatchUp : Int
 /-- A bound on the pages of one listing. -/
 pages : Nat

structure TickResult where
 fired : Nat := 0
 skipped : Nat := 0
 missed : Nat := 0
 executions : List ScheduleExecutionRecord := []

def TickResult.add (r t : TickResult) : TickResult where
 fired := r.fired + t.fired
 skipped := r.skipped + t.skipped
 missed := r.missed + t.missed
 executions := r.executions ++ t.executions

inductive HistoryOp where
 | saveScheduleExecution (v : ScheduleExecutionRecord)
 | saveSchedule (v : ScheduleRecord)

abbrev HistorySig : Sig := ⟨HistoryOp, fun _ => Except Err Unit⟩

/-- What a scheduler asks for beside the effects of the workflows that it runs. -/
inductive SchedulerOp where
 | runtime (o : RuntimeOp)
 | listSchedules (f : ScheduleFilter) (q : PageQuery)
 | claimInflight (id : ScheduleID)
 | markInflight (id : ScheduleID)
 | clearInflight (id : ScheduleID)
 | transaction (body : Prog HistorySig (Except Err Unit))

@[reducible] def SchedulerOp.Reply : SchedulerOp → Type
  | .runtime o => o.Reply
  | .listSchedules _ _ => Except Err (Page ScheduleRecord)
  | .claimInflight _ => Bool
  | .markInflight _ => Unit
  | .clearInflight _ => Unit
  | .transaction _ => Except Err Unit

abbrev SchedulerSig : Sig := ⟨SchedulerOp, SchedulerOp.Reply⟩

abbrev SchedulerProg := Prog SchedulerSig

def schedulerOp (o : SchedulerOp) : SchedulerProg o.Reply := Prog.perform (S := SchedulerSig) o

def liftRuntime {α : Type} (p : RuntimeProg α) : SchedulerProg α :=
 p.lift (T := SchedulerSig) SchedulerOp.runtime fun _ r => r

def ScheduleExecStatus.text : ScheduleExecStatus → String
 | .succeeded => "succeeded"
 | .failed => "failed"
 | .skipped => "skipped"
 | .missed => "missed"

def ConcurrencyPolicy.normalized : ConcurrencyPolicy → ConcurrencyPolicy
 | .unset => .allow
 | policy => policy

def newExecution (scheduleID : ScheduleID) (runID : RunID) (status : ScheduleExecStatus)
  (scheduledFor startedAt : Time) (finishedAt : Option Time) (errMsg : String) :
  ScheduleExecutionRecord where
 id := scheduleID ++ "-" ++ toString scheduledFor ++ "-" ++ ScheduleExecStatus.text status
 scheduleID := scheduleID
 runID := runID
 status := status
 scheduledFor := scheduledFor
 startedAt := startedAt
 finishedAt := finishedAt
 error := errMsg

/-- The latest due occurrence, with the missed ones before it after those already collected. -/
def collectMissed (s : Scheduler) (id : ScheduleID) (now : Time) (compiled : CronSchedule)
  (latest : Time) (missed : List ScheduleExecutionRecord) : Time × List ScheduleExecutionRecord :=
 match _hnext : compiled.next latest with
 | none => (latest, missed)
 | some next =>
  if _hdue : next ≤ now then
   collectMissed s id now compiled next <|
    if 0 ≤ s.maxCatchUp ∧ missed.length < s.maxCatchUp then
     missed ++ [newExecution id "" .missed latest now (some now) ""]
    else missed
  else (latest, missed)
termination_by (now - latest).toNat
decreasing_by
 have hlater : Int.lt latest next := compiled.later latest next _hnext
 have hnow : Int.le next now := _hdue
 exact (Int.toNat_lt_toNat (Int.sub_pos_of_lt (Int.lt_of_lt_of_le hlater hnow))).mpr
  (Int.sub_lt_sub_left hlater now)

def saveExecutions : List ScheduleExecutionRecord → Prog HistorySig (Except Err Unit)
 | [] => .ret (.ok ())
 | v :: vs => do
  let saved ← Prog.perform (S := HistorySig) (.saveScheduleExecution v)
  match saved with
  | .error e => .ret (.error e)
  | .ok () => saveExecutions vs

variable (s : Scheduler) (now : Time) (schedule : ScheduleRecord)

def saveFire (exec : ScheduleExecutionRecord) (missed : List ScheduleExecutionRecord) :
  Prog HistorySig (Except Err Unit) := do
 let saved ← saveExecutions (missed ++ [exec])
 match saved with
 | .error e => .ret (.error e)
 | .ok () => Prog.perform (S := HistorySig) (.saveSchedule schedule)

def persist (schedule : ScheduleRecord) (exec : ScheduleExecutionRecord)
  (missed : List ScheduleExecutionRecord) : SchedulerProg (Except Err TickResult) := do
 let exec := { exec with scope := schedule.scope }
 let missed := missed.map fun m => { m with scope := schedule.scope }
 let saved ← schedulerOp (.transaction (saveFire schedule exec missed))
 match saved with
 | .error e => .ret (.error
   (e.wrap ("lebro: scheduler: persist schedule " ++ quote schedule.id ++ ": ")))
 | .ok () => .ret (.ok { missed := missed.length, executions := missed ++ [exec] })

def counted (count : TickResult) (out : Except Err TickResult) : Except Err TickResult :=
 out.map count.add

variable (compiled : Except Err CronSchedule)

def nextFire (now : Time) : Option Time :=
 match compiled with
 | .ok compiled => compiled.next now
 | .error _ => none

def advance (now : Time) (exec : ScheduleExecutionRecord) (missed : List ScheduleExecutionRecord) :
  SchedulerProg (Except Err TickResult) :=
 persist { schedule with
  lastFireAt := some exec.scheduledFor
  nextFireAt := nextFire compiled now
  updatedAt := now } exec missed

def advanceCleared (now : Time) (exec : ScheduleExecutionRecord) :
  SchedulerProg (Except Err TickResult) := do
 let out ← persist { schedule with
  lastFireAt := some exec.scheduledFor
  nextFireAt := none
  updatedAt := now } exec []
 .ret (counted { fired := 1 } out)

/-- A string map as `json.Unmarshal` reads it: null stands for the zero value, and the last of
several fields with one key wins. -/
def stringFields : List (String × Json) → Option StringMap
 | [] => some []
 | (key, value) :: fields =>
  match value, stringFields fields with
  | .str text, some rest => some (if rest.any fun f => f.1 = key then rest else (key, text) :: rest)
  | .null, some rest => some (if rest.any fun f => f.1 = key then rest else (key, "") :: rest)
  | _, _ => none

def scheduleMetadata : RawMessage → StringMap
 | .json (.obj fields) => (stringFields fields).getD []
 | _ => []

def RunError.toErr : RunError → Err
 | .workflow err => err.toErr
 | .plain err => err

def runWorkflow (workflow : LinearWorkflow) : SchedulerProg RunOutcome :=
 liftRuntime (run workflow
  { input := schedule.input, scope := schedule.scope,
    metadata := scheduleMetadata schedule.metadata })

def runMarked (workflow : LinearWorkflow) (claimed : Bool) : SchedulerProg RunOutcome :=
 if claimed then runWorkflow schedule workflow
 else do
  schedulerOp (.markInflight schedule.id)
  let out ← runWorkflow schedule workflow
  schedulerOp (.clearInflight schedule.id)
  .ret out

def clockNow : SchedulerProg Time := schedulerOp (.runtime .now)

/-- `fireSchedule` once the concurrency policy lets the occurrence run. -/
def fireOccurrence (scheduledFor : Time) (missed : List ScheduleExecutionRecord) (claimed : Bool) :
  SchedulerProg (Except Err TickResult) :=
 match compiled with
 | .error e =>
  advanceCleared schedule now (newExecution schedule.id "" .failed scheduledFor now (some now)
   ("invalid schedule spec " ++ quote schedule.spec ++ ": " ++ e.message))
 | .ok _ =>
  match s.resolveWorkflow schedule.workflowID with
  | none => do
   let out ← advance schedule compiled now (newExecution schedule.id "" .failed scheduledFor
    now (some now) ("no workflow registered for " ++ quote schedule.workflowID)) missed
   .ret (counted { fired := 1 } out)
  | some workflow => do
   let ran ← runMarked schedule workflow claimed
   let finished ← clockNow
   let err := ran.error.map RunError.toErr
   let status := if err.isSome then .failed else .succeeded
   let out ← advance schedule compiled now (newExecution schedule.id ran.result.id status
    scheduledFor now (some finished) ((err.map Err.message).getD "")) missed
   .ret (counted { fired := 1 } out)

def fireClaimed (scheduledFor : Time) (missed : List ScheduleExecutionRecord) :
  SchedulerProg (Except Err TickResult) := do
 let claimed ← schedulerOp (.claimInflight schedule.id)
 match claimed with
 | false => do
  let out ← advance schedule compiled now
   (newExecution schedule.id "" .skipped scheduledFor now (some now) "") missed
  .ret (counted { skipped := 1 } out)
 | true => do
  let out ← fireOccurrence s now schedule compiled scheduledFor missed true
  schedulerOp (.clearInflight schedule.id)
  .ret out

def dueOccurrence : Time × List ScheduleExecutionRecord :=
 let firstDue := schedule.nextFireAt.getD now
 match compiled with
 | .ok compiled => collectMissed s schedule.id now compiled firstDue []
 | .error _ => (firstDue, [])

def wakeupRunTerminal (runID : RunID) : SchedulerProg (Except Err Bool) := do
 let found ← schedulerOp (.runtime (.repo (.getWorkflowRun runID)))
 .ret (found.map fun run => run.status.terminal)

/-- The status that is recorded for a resumed run, or the error that leaves the wake-up due. -/
def wakeupStatus (runID : RunID) (out : RunOutcome) :
  SchedulerProg (Except Err (ScheduleExecStatus × String)) :=
 match out.error.map RunError.toErr with
 | some e =>
  if e.is .canceled ∨ e.is .deadlineExceeded then .ret (.error e)
  else if e.is .wakeupStale then .ret (.ok (.succeeded, ""))
  else do
   let terminal ← wakeupRunTerminal runID
   match terminal with
   | .error stateErr => .ret (.error (stateErr.wrap
     ("lebro: scheduler: inspect wakeup run " ++ quote runID ++ " after resume error: ")))
   | .ok false => .ret (.error e)
   | .ok true => .ret (.ok (.failed, e.message))
 | none =>
  if out.result.status.terminal ∨ out.result.status = .suspended then .ret (.ok (.succeeded, ""))
  else .ret (.error (.new ("lebro: scheduler: wakeup run " ++ quote runID ++
   " returned non-terminal status " ++ quote out.result.status.text)))

def settleWakeup (status : ScheduleExecStatus) (message : String) :
  SchedulerProg (Except Err TickResult) := do
 let scheduledFor := schedule.nextFireAt.getD now
 let finished ← clockNow
 let out ← persist { schedule with
  lastFireAt := some scheduledFor
  nextFireAt := none
  paused := true
  updatedAt := now }
  (newExecution schedule.id schedule.wakeRunID status scheduledFor now (some finished) message) []
 .ret (counted { fired := 1 } out)

def fireWakeup : SchedulerProg (Except Err TickResult) :=
 match s.resolveWorkflow schedule.workflowID with
 | none => settleWakeup now schedule .failed
   ("no workflow registered for " ++ quote schedule.workflowID)
 | some workflow => do
  let out ← liftRuntime (resumeWake workflow schedule.wakeRunID schedule.wakeToken)
  let status ← wakeupStatus schedule.wakeRunID out
  match status with
  | .error e => .ret (.error e)
  | .ok (status, message) => settleWakeup now schedule status message

def fireSchedule : SchedulerProg (Except Err TickResult) :=
 if schedule.wakeRunID ≠ "" then fireWakeup s now schedule
 else
  let compiled := s.parseCronSpec schedule.spec
  let due := dueOccurrence s now schedule compiled
  if ConcurrencyPolicy.normalized schedule.concurrency = .skip then
   fireClaimed s now schedule compiled due.1 due.2
  else fireOccurrence s now schedule compiled due.1 due.2 false

def loadPage (loaded : PageQuery × List ScheduleRecord) :
  SchedulerProg ((PageQuery × List ScheduleRecord) ⊕ Except Err (List ScheduleRecord)) := do
 let page ← schedulerOp (.listSchedules { dueBy := some now } loaded.1)
 match page with
 | .error e => .ret (.inr (.error (e.wrap "lebro: scheduler: load due schedules: ")))
 | .ok page =>
  let schedules := loaded.2 ++ page.records
  match page.nextCursor with
  | none => .ret (.inr (.ok schedules))
  | some cursor => .ret (.inl ({ loaded.1 with cursor := some (some cursor) }, schedules))

def loadDue : SchedulerProg (Except Err (List ScheduleRecord)) :=
 Prog.iterate (loadPage now) ((schedulerOp (.runtime .hang)) >>= fun (e : Empty) => e.elim)
  s.pages (⟨none, 0⟩, [])

def tickErr : SchedulerProg (Option Err) := schedulerOp (.runtime (.step .ctxErr))

def fireDue (s : Scheduler) (now : Time) :
  List ScheduleRecord → TickResult → SchedulerProg (TickResult × Option Err)
 | [], result => .ret (result, none)
 | schedule :: due, result => do
  let err ← tickErr
  match err with
  | some e => .ret (result, some e)
  | none => do
   let fired ← fireSchedule s now schedule
   match fired with
   | .error e => .ret (result, some e)
   | .ok added => fireDue s now due (result.add added)

def tick : SchedulerProg (TickResult × Option Err) := do
 let err ← tickErr
 match err with
 | some e => .ret ({}, some e)
 | none => do
  let loaded ← loadDue s now
  match loaded with
  | .error e => .ret ({}, some e)
  | .ok due => fireDue s now due {}

structure SchedulerState where
 inflight : ScheduleID → Bool
 store : StoreState

def applyHistory : (o : HistoryOp) → StoreState → Except Err Unit × StoreState
 | .saveScheduleExecution v, s => saved s (saveScheduleExecution {} s v)
 | .saveSchedule v, s => saved s (StoreTables.saveSchedule {} s v)

/-- What the operations of workflows leave alone: they write no executions and delete no
schedules. -/
def Undisturbed (s u : StoreState) : Prop :=
 u.executions = s.executions ∧
  ∀ id, (s.schedules.lookup id).isSome = true → (u.schedules.lookup id).isSome = true

/-- Claims follow the map of the scheduler. A transaction commits as a whole, or fails and leaves
the store as it was; listings and the effects of workflows may have any reply. -/
def schedulerStep (s : SchedulerState) : (o : SchedulerOp) → o.Reply → SchedulerState → Prop
 | .runtime _, _, u => u.inflight = s.inflight ∧ Undisturbed s.store u.store
 | .listSchedules _ _, _, u => u = s
 | .claimInflight id, claimed, u =>
  claimed = !s.inflight id ∧ u = { s with inflight := put s.inflight id true }
 | .markInflight id, _, u => u = { s with inflight := put s.inflight id true }
 | .clearInflight id, _, u => u = { s with inflight := put s.inflight id false }
 | .transaction _, .error _, u => u = s
 | .transaction body, .ok _, u =>
  (body.run applyHistory s.store).1 = .ok () ∧
   u = { s with store := (body.run applyHistory s.store).2 }

def schedulerWorld : Monitor SchedulerSig SchedulerState where
 demand _ _ := True
 step := schedulerStep

end Lebro.SchedulerTicks
