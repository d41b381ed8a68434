import Lebro.AgentTools

set_option autoImplicit false

namespace Lebro.Subagents

open EffectProgram RuntimeTypes RuntimeRecords JsonCodec AgentEffects AgentTools

inductive ContextEnd where
 | canceled
 | deadlineExceeded
deriving DecidableEq

def ContextEnd.toErr : ContextEnd → Err
 | .canceled => errCanceled
 | .deadlineExceeded => errDeadlineExceeded

inductive SubagentErrorKind where
 | invalidInput
 | runFailed
 | cancelled
deriving DecidableEq

def SubagentErrorKind.text : SubagentErrorKind → String
 | .invalidInput => "subagent_invalid_input"
 | .runFailed => "subagent_run_failed"
 | .cancelled => "subagent_cancelled"

def SubagentErrorKind.target : SubagentErrorKind → Sentinel
 | .invalidInput => .subagentInvalidInput
 | .runFailed => .subagentRunFailed
 | .cancelled => .subagentCancelled

structure SubagentError where
 kind : SubagentErrorKind
 id : ToolID
 runID : RunID := ""
 err : Err

/-- The error value of a failed delegation matches the target of its kind and all its cause does. -/
def SubagentError.toErr (e : SubagentError) : Err where
 message := "lebro: subagent " ++ quote e.id ++ " " ++ e.kind.text ++ ": " ++ e.err.message
 matching := e.kind.target :: e.err.matching
 suspend := e.err.suspend

inductive DelegationError where
 | context (e : ContextEnd)
 | subagent (e : SubagentError)

def DelegationError.toErr : DelegationError → Err
 | .context e => e.toErr
 | .subagent e => e.toErr

structure ChildRun where
 input : RunInput
 deadline : Duration
 maxSteps : Option Nat
 idNamespace : String

structure ChildOutcome where
 result : RunResult
 err : Option Err

inductive DelegationOp where
 | ctxErr
 | route (task : String) (candidates : List ToolID)
 | runTarget (specialist : ToolID) (run : ChildRun)

@[reducible] def DelegationOp.Reply : DelegationOp → Type
  | .ctxErr => Option ContextEnd
  | .route _ _ => Except Err ToolID
  | .runTarget _ _ => ChildOutcome

def DelegationSig : Sig := ⟨DelegationOp, DelegationOp.Reply⟩

abbrev DelegationProg := Prog DelegationSig

def delegationOp (o : DelegationOp) : DelegationProg o.Reply := Prog.perform (S := DelegationSig) o

/-- A delegation target; `agentSteps` is the own bound of a target that is an agent. -/
structure Subagent where
 id : ToolID
 agentID : AgentID := ""
 agentSteps : Option Nat := none
 maxSteps : Nat := 0
 deadline : Duration := 0
 shareThread : Bool := false
 shareMetadata : Bool := false

/-- What the context of a tool carries of the run that calls it. -/
structure WorkflowInvocation where
 runID : RunID := ""
 step : Nat := 0
 stepID : StepID := ""
 threadID : ThreadID := ""
 metadata : StringMap := []

def decodeSubagentInput : RawMessage → Option (String × String)
 | .json (.obj fields) => do
  let task ← ((namedField "task" fields).map decodeString).getD (some "")
  let context ← ((namedField "context" fields).map decodeString).getD (some "")
  some (task, context)
 | .json .null => some ("", "")
 | _ => none

def delegationPrompt (task context : String) : String :=
 if context = "" then task else task ++ "\n\n" ++ context

def delegatedIDNamespace (id : ToolID) (parentRun : RunID) : String :=
 if parentRun = "" then id else parentRun ++ "/" ++ id

def Subagent.childRun (s : Subagent) (parent : WorkflowInvocation) (task context : String) :
  ChildRun where
 input := {
  messages := [{ role := .user, content := delegationPrompt task context }]
  threadID := if s.shareThread then parent.threadID else ""
  metadata := if s.shareMetadata then parent.metadata else [] }
 deadline := s.deadline
 maxSteps := s.agentSteps.map fun own => if s.maxSteps = 0 then own else s.maxSteps
 idNamespace := delegatedIDNamespace s.id parent.runID

def lastAssistant (messages : List Message) : Option Message :=
 messages.reverse.find? fun m => m.role = .assistant

def delegationOutput (result : RunResult) : String :=
 match lastAssistant result.messages with
 | none => ""
 | some m => if m.structuredOutput.isEmpty then m.content else rawText m.structuredOutput

def Subagent.encodeResult (s : Subagent) (result : RunResult) : RawMessage :=
 .json (.obj [("agent_id", .str s.agentID), ("run_id", .str result.id),
  ("status", .str result.status.text), ("output", .str (delegationOutput result))])

def Subagent.failed (s : Subagent) (kind : SubagentErrorKind) (runID : RunID) (e : Err) :
  DelegationError :=
 .subagent ⟨kind, s.id, runID, e⟩

def cancelsDelegation (e : Err) : Bool :=
 e.is .agentCancelled || e.is .canceled || e.is .deadlineExceeded

def errStatus (status : RunStatus) : Err :=
 .sentinel ("lebro: subagent run finished with status " ++ quote status.text ++
  ": lebro: subagent run failed") .subagentRunFailed

def Subagent.report (s : Subagent) (out : ChildOutcome) :
  DelegationProg (Except DelegationError RawMessage) :=
 match out.err with
 | some e => do
  let ended ← delegationOp .ctxErr
  match ended with
  | some parentErr => .ret (.error (.context parentErr))
  | none =>
   if cancelsDelegation e then .ret (.error (s.failed .cancelled out.result.id e))
   else .ret (.error (s.failed .runFailed out.result.id e))
 | none =>
  if out.result.status ≠ .succeeded then
   .ret (.error (s.failed .runFailed out.result.id (errStatus out.result.status)))
  else .ret (.ok (s.encodeResult out.result))

def Subagent.execute (s : Subagent) (parent : WorkflowInvocation) (input : RawMessage) :
  DelegationProg (Except DelegationError RawMessage) := do
 let ended ← delegationOp .ctxErr
 match ended with
 | some e => .ret (.error (.context e))
 | none =>
  match decodeSubagentInput input with
  | none => .ret (.error (s.failed .invalidInput "" (.new "lebro: decode subagent input")))
  | some (task, context) =>
   if task = "" then
    .ret (.error (s.failed .invalidInput ""
     (.new "lebro: subagent task must not be empty")))
   else do
    let out ← delegationOp (.runTarget s.id (s.childRun parent task context))
    s.report out

structure RoutedSubagent where
 id : ToolID
 specialists : List Subagent
 fallback : List ToolID
 distinct : (specialists.map Subagent.id).Nodup
 known : ∀ id ∈ fallback, id ∈ specialists.map Subagent.id
 once : fallback.Nodup

def RoutedSubagent.specialist (r : RoutedSubagent) (id : ToolID) : Option Subagent :=
 r.specialists.find? fun s => s.id = id

def RoutedSubagent.candidates (r : RoutedSubagent) : List ToolID :=
 (r.specialists.map Subagent.id).mergeSort fun a b => decide (a ≤ b)

inductive RouteErrorKind where
 | selection
 | exhausted
deriving DecidableEq

inductive RoutedError where
 | context (e : ContextEnd)
 | invalid (e : SubagentError)
 | route (kind : RouteErrorKind) (selected : ToolID) (attempted : List ToolID) (err : Option Err)

def routeFallbackable (e : Err) : Bool :=
 !e.is .canceled && !e.is .deadlineExceeded && !e.is .subagentCancelled &&
  !e.is .approvalRejected && !e.is .approvalExpired && !e.is .approvalInvalidDecision &&
  (e.is .subagentRunFailed || e.is .subagentInvalidInput)

structure RouteState where
 attempts : List ToolID := []
 childRunIDs : List RunID := []
 lastErr : Option Err := none

def appendRunID (ids : List RunID) (id : RunID) : List RunID :=
 if id ∈ ids then ids else ids ++ [id]

def appendSubagentRunID (ids : List RunID) : DelegationError → List RunID
 | .context _ => ids
 | .subagent e => if e.runID = "" then ids else appendRunID ids e.runID

def encodeRouteOutput (output : RawMessage) (selected : ToolID) (candidates : List ToolID)
  (st : RouteState) : Except Err RawMessage :=
 let text (name : String) (fields : List (String × Json)) : Option String :=
  ((namedField name fields).map decodeString).getD (some "")
 match output with
 | .json (.obj fields) =>
  match text "agent_id" fields, text "run_id" fields, text "status" fields,
    text "output" fields with
  | some agentID, some runID, some status, some output => .ok (.json (.obj [
    ("agent_id", .str agentID), ("run_id", .str runID), ("status", .str status),
    ("output", .str output), ("route", .obj [
     ("selected", .str selected), ("candidates", .arr (candidates.map Json.str)),
     ("attempted", .arr (st.attempts.map Json.str)),
     ("child_run_ids", .arr ((appendRunID st.childRunIDs runID).map Json.str))])]))
  | _, _, _, _ => .error (.new "lebro: decode routed subagent result")
 | _ => .error (.new "lebro: decode routed subagent result")

inductive Attempt where
 | skipped
 | succeeded (output : RawMessage)
 | failed (e : Err)

section

variable (r : RoutedSubagent) (parent : WorkflowInvocation) (input : RawMessage)
 (selected : ToolID)

def afterSpecialist (st : RouteState) : Except DelegationError RawMessage → Attempt × RouteState
 | .error e => (.failed e.toErr, { st with
   childRunIDs := appendSubagentRunID st.childRunIDs e
   lastErr := some e.toErr })
 | .ok output =>
  match encodeRouteOutput output selected r.candidates st with
  | .ok encoded => (.succeeded encoded, st)
  | .error e => (.failed e, st)

def attemptSpecialist (st : RouteState) (id : ToolID) : DelegationProg (Attempt × RouteState) :=
 if id ∈ st.attempts then .ret (.skipped, st)
 else
  let st := { st with attempts := st.attempts ++ [id] }
  match r.specialist id with
  | none =>
   let e : Err := .new "lebro: subagent is nil"
   .ret (.failed e, { st with lastErr := some e })
  | some s => do
   let reply ← s.execute parent input
   .ret (afterSpecialist r selected st reply)

/-- The specialists to try, until one succeeds or fails in a way that is not routed on. -/
def trySpecialists : List ToolID → RouteState → DelegationProg (Except RoutedError RawMessage)
 | [], st => .ret (.error (.route .exhausted selected st.attempts st.lastErr))
 | id :: ids, st => do
  let attempt ← attemptSpecialist r parent input selected st id
  match attempt with
  | (.succeeded output, _) => .ret (.ok output)
  | (.skipped, st) => trySpecialists ids st
  | (.failed e, st) =>
   if routeFallbackable e then trySpecialists ids st
   else .ret (.error (.route .exhausted selected st.attempts (some e)))

end

def RoutedSubagent.execute (r : RoutedSubagent) (parent : WorkflowInvocation)
  (input : RawMessage) : DelegationProg (Except RoutedError RawMessage) := do
 let invalid (problem : String) : RoutedError := .invalid
  ⟨.invalidInput, r.id, "", .new ("lebro: decode routed subagent input: " ++ problem)⟩
 let ended ← delegationOp .ctxErr
 match ended with
 | some e => .ret (.error (.context e))
 | none =>
  match decodeSubagentInput input with
  | none => .ret (.error (invalid "invalid JSON"))
  | some (task, _) =>
   if task = "" then .ret (.error (invalid "task is required"))
   else do
    let decision ← delegationOp (.route task r.candidates)
    match decision with
    | .error e => .ret (.error (.route .selection "" [] (some e)))
    | .ok selected =>
     if selected ∉ r.specialists.map Subagent.id then
      .ret (.error (.route .selection selected [] (some (.new
       ("lebro: selected specialist " ++ quote selected ++ " is not configured")))))
     else trySpecialists r parent input selected (selected :: r.fallback) {}

end Lebro.Subagents
