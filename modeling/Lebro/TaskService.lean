import Lebro.EffectPool
import Lebro.RuntimeTypes

set_option autoImplicit false

/-! Each call of `execute` and each lease renewer is a program of its own; processes share the task
store only. -/
namespace Lebro.TaskService

open EffectProgram RuntimeTypes

abbrev TaskID := String

/-- The targets that the service looks for with `errors.Is`. -/
inductive TaskFault where
 | canceled
 | taskConflict
 | taskNotFound
deriving DecidableEq

/-- An error chain; JSON-RPC errors carry a code. -/
structure TaskErr where
 message : String
 matching : List TaskFault
 code : Option Int

namespace TaskErr

def new (message : String) : TaskErr := ⟨message, [], none⟩

def rpc (code : Int) (message : String) : TaskErr := ⟨message, [], some code⟩

def wrap (text : String) (e : TaskErr) : TaskErr := { e with message := text ++ e.message }

def is (e : TaskErr) (target : TaskFault) : Bool := e.matching.contains target

end TaskErr

def errTaskConflict : TaskErr := ⟨"lebro/mcp: task conflict", [.taskConflict], none⟩

def errTaskExecutionPanicked : TaskErr := .new "lebro/mcp: task execution panicked"

def errTaskContextRestoreFailed : TaskErr := .new "lebro/mcp: task context hook returned no context"

def missingTasksCapability : TaskErr := .rpc (-32021) "Missing required client capability"

def invalidTaskID (message : String) : TaskErr :=
 .rpc (-32602) ("Failed to retrieve task: " ++ message)

inductive TaskStatus where
 | working
 | completed
 | cancelled
 | failed
deriving DecidableEq

def TaskStatus.terminal : TaskStatus → Bool
 | .working => false
 | _ => true

lemma TaskStatus.ne_working_iff (status : TaskStatus) :
  status ≠ .working ↔ status.terminal=true := by
 cases status <;> decide

structure CallToolResult where
 content : RawMessage
 isError : Bool

structure TaskRecord where
 id : TaskID
 entryID : String
 arguments : RawMessage
 identity : RawMessage
 status : TaskStatus
 statusMessage : String
 result : Option CallToolResult
 failure : RawMessage
 createdAt : Time
 lastUpdatedAt : Time
 ttlMs : Option Int
 pollIntervalMs : Int
 leaseUntil : Option Time
 version : Int

structure TaskConfig where
 ttl : Duration
 pollInterval : Duration
 lease : Duration
 hasCancel : Bool
 hasOnConflict : Bool
 exposed : String → Bool

structure Service where
 process : Nat
 config : TaskConfig

def nanosPerMilli : Int := 1000000

def Service.lease (s : Service) : Duration :=
 if 0 < s.config.lease then s.config.lease else 30 * 1000 * nanosPerMilli

def Service.pollMs (s : Service) : Int :=
 if 0 < s.config.pollInterval then s.config.pollInterval / nanosPerMilli else 1000

inductive Caller where
 | claim (execution : Nat) (id : TaskID)
 | renewal (execution : Nat)
 | finish (execution : Nat)
 | request
deriving DecidableEq

/-- The end of the application's `Context` hook. -/
inductive ContextReply where
 | ready
 | missing
 | failed (err : TaskErr)

inductive RunReply where
 | returned (result : Option CallToolResult) (err : Option TaskErr)
 | panicked

def RunReply.result : RunReply → Option CallToolResult
 | .returned result _ => result
 | .panicked => none

def RunReply.err : RunReply → Option TaskErr
 | .returned _ err => err
 | .panicked => some errTaskExecutionPanicked

inductive TaskOp where
 | createTask (record : TaskRecord)
 | getTask (caller : Caller) (id : TaskID)
 | updateTask (caller : Caller) (record : TaskRecord)
 | listWorkingTasks
 | now (caller : Caller)
 | identity
 | newID
 | authorize (record : TaskRecord)
 | cancelHook (record : TaskRecord)
 | onConflict (record : TaskRecord)
 | withCancel (process : Nat) (id : TaskID)
 | deleteCancel (process : Nat) (id : TaskID)
 | cancelLocal (process : Nat) (id : TaskID)
 | cancelRun (execution : Nat)
 | backoff (execution : Nat)
 | window
 | startRenewal (execution : Nat)
 | awaitRenewal
 | tick (execution : Nat)
 | closeRenewal (execution : Nat)
 | joinRenewal (execution : Nat)
 | restoreContext (execution : Nat) (record : TaskRecord)
 | run (execution : Nat) (record : TaskRecord)

@[reducible] def TaskOp.Reply : TaskOp → Type
  | .createTask _ => Except TaskErr Unit
  | .getTask _ _ => Except TaskErr TaskRecord
  | .updateTask _ _ => Except TaskErr Unit
  | .listWorkingTasks => Except TaskErr (List TaskRecord)
  | .now _ => Time
  | .identity => Except TaskErr RawMessage
  | .newID => Except TaskErr TaskID
  | .authorize _ => Option TaskErr
  | .cancelHook _ => Option TaskErr
  | .withCancel _ _ => Nat
  | .backoff _ => Bool
  | .window => Bool
  | .awaitRenewal => Nat × TaskID
  | .tick _ => Bool
  | .restoreContext _ _ => ContextReply
  | .run _ _ => RunReply
  | _ => Unit

abbrev TaskSig : Sig := ⟨TaskOp, TaskOp.Reply⟩

variable (s : Service) (record : TaskRecord)

abbrev TaskProg := Prog TaskSig

def taskOp (o : TaskOp) : TaskProg o.Reply := Prog.perform (S := TaskSig) o

def onConflict : TaskProg Unit :=
 if s.config.hasOnConflict then taskOp (.onConflict record) else pure ()

def leaseHeld (caller : Caller) (record : TaskRecord) : TaskProg Bool :=
 match record.leaseUntil with
 | none => pure false
 | some until_ => do
  let now ← taskOp (.now caller)
  pure (decide (now < until_))

def leased (current : TaskRecord) (until_ updated : Time) : TaskRecord :=
 { current with leaseUntil := some until_, lastUpdatedAt := updated }

def claimError (id : TaskID) (err : TaskErr) : TaskErr :=
 err.wrap ("lebro/mcp: claim task " ++ id ++ ": ")

variable (e : Nat)

def claimRead (current : TaskRecord) (retry : TaskProg (Except TaskErr Bool)) :
  TaskProg (Except TaskErr Bool) := do
 if current.status ≠ .working then pure (.ok false)
 else
  let held ← leaseHeld (.claim e current.id) current
  if held then pure (.ok false)
  else
   let from_ ← taskOp (.now (.claim e current.id))
   let updated ← taskOp (.now (.claim e current.id))
   let saved ← taskOp
    (.updateTask (.claim e current.id) (leased current (from_ + s.lease) updated))
   match saved with
   | .ok _ => pure (.ok true)
   | .error err => if err.is .taskConflict then retry else pure (.error (claimError current.id err))

def claimAttempts (s : Service) (e : Nat) (id : TaskID) : Nat → TaskProg (Except TaskErr Bool)
 | 0 => pure (.ok false)
 | left + 1 => do
  let current ← taskOp (.getTask (.claim e id) id)
  match current with
  | .error err =>
   if left = 0 then pure (.error (claimError id err))
   else
    let done ← taskOp (.backoff e)
    if done then pure (.ok false) else claimAttempts s e id left
  | .ok current => claimRead s e current (claimAttempts s e id left)

def claim (id : TaskID) : TaskProg (Except TaskErr Bool) := claimAttempts s e id 3

inductive TaskLeaseOutcome where
 | renewed
 | terminal
 | unreachable

def extendAttempts (s : Service) (e : Nat) (id : TaskID) : Nat → TaskProg TaskLeaseOutcome
 | 0 => pure .unreachable
 | left + 1 => do
  let current ← taskOp (.getTask (.renewal e) id)
  match current with
  | .error _ =>
   let closed ← taskOp .window
   if closed then pure .unreachable else extendAttempts s e id left
  | .ok current =>
   if current.status ≠ .working then pure .terminal
   else
    let from_ ← taskOp (.now (.renewal e))
    let updated ← taskOp (.now (.renewal e))
    let saved ← taskOp
     (.updateTask (.renewal e) (leased current (from_ + s.lease) updated))
    match saved with
    | .ok _ => pure .renewed
    | .error err => if err.is .taskConflict then extendAttempts s e id left else pure .unreachable

def extendLease (id : TaskID) : TaskProg TaskLeaseOutcome := extendAttempts s e id 3

def giveUp : TaskProg Unit := do
 taskOp (.cancelRun e)
 taskOp (.closeRenewal e)

/-- The renewer's loop for as many ticks as the first number says; it starts no further one. -/
def renewTicks (s : Service) (e : Nat) (id : TaskID) : Nat → Nat → TaskProg Unit
 | 0, _ => pure ()
 | ticks + 1, unreachable => do
  let done ← taskOp (.tick e)
  if done then taskOp (.closeRenewal e)
  else
   let outcome ← extendLease s e id
   match outcome with
   | .renewed => renewTicks s e id ticks 0
   | .terminal => giveUp e
   | .unreachable =>
    if 2 ≤ unreachable + 1 then giveUp e
    else renewTicks s e id ticks (unreachable + 1)

/-- The goroutine of `renewLease`, for the renewal that it is started for. -/
def renewLease (ticks : Nat) : TaskProg Unit := do
 let started ← taskOp .awaitRenewal
 renewTicks s started.1 started.2 ticks 0

def stopRenewal : TaskProg Unit := do
 taskOp (.cancelRun e)
 taskOp (.joinRenewal e)

def failurePayload (message : String) : RawMessage :=
 .json (.obj [("code", .num "-32603"), ("message", .str message)])

/-- The record that `finish` writes over the one it read. -/
def finished (current : TaskRecord) (now : Time) (result : Option CallToolResult)
  (runErr : Option TaskErr) (failureMessage : String) : TaskRecord :=
 let ended := { current with lastUpdatedAt := now, leaseUntil := none }
 match runErr with
 | some err =>
  if err.is .canceled then { ended with status := .cancelled, statusMessage := "cancelled" }
  else
   { ended with
     status := .failed
     statusMessage := failureMessage
     failure := failurePayload failureMessage }
 | none => { ended with status := .completed, result := result }

@[simp] lemma finished_id (current) (now : Time) (result runErr message) :
  (finished current now result runErr message).id=current.id := by
 unfold finished
 split
 · split <;> rfl
 · rfl

@[simp] lemma finished_version (current) (now : Time) (result runErr message) :
  (finished current now result runErr message).version=current.version := by
 unfold finished
 split
 · split <;> rfl
 · rfl

lemma finished_terminal (current) (now : Time) (result runErr message) :
  (finished current now result runErr message).status.terminal=true := by
 unfold finished
 split
 · split <;> rfl
 · rfl

lemma finished_cancelled {current now result runErr message}
  (h : (finished current now result runErr message).status = .cancelled) :
  ∃ err,runErr=some err ∧ err.is .canceled=true := by
 unfold finished at h
 split at h
 · rename_i err
   split at h
   · rename_i hcanceled
     exact ⟨err,rfl,hcanceled⟩
   · cases h
 · cases h

def finishAttempts (s : Service) (e : Nat) (record : TaskRecord) (result : Option CallToolResult)
  (runErr : Option TaskErr) (failureMessage : String) : Nat → TaskProg Unit
 | 0 => onConflict s record
 | left + 1 => do
  let current ← taskOp (.getTask (.finish e) record.id)
  match current with
  | .error _ => pure ()
  | .ok current =>
   if current.status.terminal then pure ()
   else
    let now ← taskOp (.now (.finish e))
    let saved ← taskOp
     (.updateTask (.finish e) (finished current now result runErr failureMessage))
    match saved with
    | .ok _ => pure ()
    | .error err =>
     if err.is .taskConflict then finishAttempts s e record result runErr failureMessage left
     else onConflict s record

def finish (record : TaskRecord) (result : Option CallToolResult) (runErr : Option TaskErr)
  (failureMessage : String) : TaskProg Unit :=
 finishAttempts s e record result runErr failureMessage 3

def restoreFailed (current : TaskRecord) (err : TaskErr) : TaskProg Unit := do
 stopRenewal e
 finish s e current none (some err) "restore task execution context failed"

def runHandler (current : TaskRecord) : TaskProg Unit := do
 let ended ← taskOp (.run e current)
 stopRenewal e
 finish s e current ended.result ended.err "task execution failed"

/-- `execute` once it has won the claim. -/
def executeClaimed (record : TaskRecord) : TaskProg Unit := do
 taskOp (.startRenewal e)
 let current ← taskOp (.getTask (.claim e record.id) record.id)
 match current with
 | .error _ =>
  stopRenewal e
  onConflict s record
 | .ok current =>
  if current.status ≠ .working then stopRenewal e
  else
   let restored ← taskOp (.restoreContext e current)
   match restored with
   | .ready => runHandler s e current
   | .missing => restoreFailed s e current errTaskContextRestoreFailed
   | .failed err => restoreFailed s e current err

def executeBody (record : TaskRecord) : TaskProg Unit := do
 let won ← claim s e record.id
 match won with
 | .error _ => onConflict s record
 | .ok false => pure ()
 | .ok true => executeClaimed s e record

def execute : TaskProg Unit := do
 let e ← taskOp (.withCancel s.process record.id)
 executeBody s e record
 taskOp (.cancelRun e)
 taskOp (.deleteCancel s.process record.id)

def newRecord (id : TaskID) (entryID : String) (arguments identity : RawMessage) (now : Time) :
  TaskRecord where
 id := id
 entryID := entryID
 arguments := arguments
 identity := identity
 status := .working
 statusMessage := ""
 result := none
 failure := .empty
 createdAt := now
 lastUpdatedAt := now
 ttlMs := if 0 < s.config.ttl then some (s.config.ttl / nanosPerMilli) else none
 pollIntervalMs := s.pollMs
 leaseUntil := none
 version := 1

def create (s : Service) (entryID : String) (arguments : RawMessage) :
  TaskProg (Except TaskErr TaskRecord) := do
 let identity ← taskOp .identity
 match identity with
 | .error err => pure (.error err)
 | .ok identity =>
  let id ← taskOp .newID
  match id with
  | .error err => pure (.error err)
  | .ok id =>
   let now ← taskOp (.now .request)
   let record := newRecord s id entryID arguments identity now
   let denied ← taskOp (.authorize record)
   match denied with
   | some err => pure (.error err)
   | none =>
    let created ← taskOp (.createTask record)
    match created with
    | .error err => pure (.error (err.wrap "lebro/mcp: create task: "))
    | .ok _ => pure (.ok record)

def expired : TaskProg Bool :=
 match record.ttlMs with
 | none => pure false
 | some ttl => do
  let now ← taskOp (.now .request)
  pure (decide (record.createdAt + ttl * nanosPerMilli < now))

def relaunched (s : Service) : List TaskRecord → TaskProg (List TaskRecord)
 | [] => pure []
 | record :: records => do
  let past ← expired record
  let rest ← relaunched s records
  pure (if past || !s.config.exposed record.entryID then rest else record :: rest)

def recoverWorking : TaskProg (Except TaskErr (List TaskRecord)) := do
 let listed ← taskOp .listWorkingTasks
 match listed with
 | .error err => pure (.error (err.wrap "lebro/mcp: list working tasks: "))
 | .ok records =>
  let launched ← relaunched s records
  pure (.ok launched)

def loadAuthorized (id : TaskID) : TaskProg (Except TaskErr TaskRecord) := do
 let record ← taskOp (.getTask .request id)
 match record with
 | .error err =>
  if err.is .taskNotFound then pure (.error (invalidTaskID "Task not found"))
  else pure (.error
   (.rpc (-32603) "Failed to retrieve task: the task store is unavailable"))
 | .ok record =>
  let past ← expired record
  if past then pure (.error (invalidTaskID "Task has expired"))
  else
   let denied ← taskOp (.authorize record)
   match denied with
   | some err => pure (.error err)
   | none => pure (.ok record)

def cancelledRecord (now : Time) : TaskRecord :=
 { record with
   status := .cancelled
   statusMessage := "cancelled"
   lastUpdatedAt := now
   leaseUntil := none }

/-- What `cancel` does once the cancellation is stored. -/
def propagateCancel : TaskProg (Except TaskErr Unit) := do
 taskOp (.cancelLocal s.process record.id)
 if s.config.hasCancel then
  let failed ← taskOp (.cancelHook record)
  match failed with
  | some err => pure (.error err)
  | none => pure (.ok ())
 else pure (.ok ())

def cancelAttempts (s : Service) (id : TaskID) : Nat → TaskProg (Except TaskErr Unit)
 | 0 => pure (.error errTaskConflict)
 | left + 1 => do
  let loaded ← loadAuthorized id
  match loaded with
  | .error err => pure (.error err)
  | .ok record =>
   if record.status.terminal then pure (.ok ())
   else
    let now ← taskOp (.now .request)
    let saved ← taskOp (.updateTask .request (cancelledRecord record now))
    match saved with
    | .ok _ => propagateCancel s (cancelledRecord record now)
    | .error err =>
     if err.is .taskConflict then cancelAttempts s id left
     else pure (.error
      (.rpc (-32603) "Failed to cancel task: the task store is unavailable"))

def cancel (negotiated : Bool) (id : TaskID) : TaskProg (Except TaskErr Unit) :=
 if negotiated then cancelAttempts s id 3 else pure (.error missingTasksCapability)

/-- A `tools/call` request for an async entry, and the execution that it starts. -/
def createAndExecute (entryID : String) (arguments : RawMessage) : TaskProg Unit := do
 let created ← create s entryID arguments
 match created with
 | .ok record => execute s record
 | .error _ => pure ()

def recoverAndExecute (index : Nat) : TaskProg Unit := do
 let launched ← recoverWorking s
 match launched with
 | .ok records =>
  match records[index]? with
  | some record => execute s record
  | none => pure ()
 | .error _ => pure ()

def cancelRequest (negotiated : Bool) (id : TaskID) : TaskProg Unit := do
 let _ ← cancel s negotiated id
 pure ()

inductive Goroutine where
 | create (s : Service) (entryID : String) (arguments : RawMessage)
 | recovery (s : Service) (index : Nat)
 | renewal (s : Service) (ticks : Nat)
 | cancel (s : Service) (negotiated : Bool) (id : TaskID)

def Goroutine.program : Goroutine → TaskProg Unit
 | .create s entryID arguments => createAndExecute s entryID arguments
 | .recovery s index => recoverAndExecute s index
 | .renewal s ticks => renewLease s ticks
 | .cancel s negotiated id => cancelRequest s negotiated id

end Lebro.TaskService
