import Lebro.Subagents
import Lebro.WorkflowRuns

set_option autoImplicit false

namespace Lebro.NetworkRuns

open EffectProgram RuntimeTypes RuntimeRecords RuntimeEffects AgentTools Subagents

structure NetworkRouteRecord where
 hop : Nat
 candidates : List ToolID
 selected : ToolID
 childRunID : RunID
 status : RunStatus
 failure : String := ""
deriving DecidableEq

def omitEmpty (name value : String) : List (String × Json) :=
 if value = "" then [] else [(name, .str value)]

def encodeRoute (r : NetworkRouteRecord) : RawMessage :=
 .json (.obj (("hop", .num (toString r.hop)) :: ("candidates", .arr (r.candidates.map Json.str)) ::
  omitEmpty "selected" r.selected ++ omitEmpty "child_run_id" r.childRunID ++
   ("status", .str r.status.text) :: omitEmpty "failure" r.failure))

inductive NetworkErrorKind where
 | invalidInput
 | selection
 | cycle
 | hopLimit
 | specialistFailed
 | persistFailed
 | unauthorized
deriving DecidableEq

def NetworkErrorKind.text : NetworkErrorKind → String
 | .invalidInput => "network_invalid_input"
 | .selection => "network_route_selection_failed"
 | .cycle => "network_cycle_detected"
 | .hopLimit => "network_hop_limit_exhausted"
 | .specialistFailed => "network_specialist_failed"
 | .persistFailed => "network_persist_failed"
 | .unauthorized => "network_unauthorized"

structure NetworkError where
 kind : NetworkErrorKind
 hop : Nat := 0
 routes : List NetworkRouteRecord := []
 err : Err

def NetworkError.toErr (e : NetworkError) : Err :=
 e.err.wrap ("lebro: network " ++ e.kind.text ++ " at hop " ++ toString e.hop ++ ": ")

structure NetworkOutcome where
 result : RunResult := {}
 error : Option NetworkError := none

structure RoutingRequest where
 task : String := ""
 candidates : List ToolID := []
 hops : Nat := 0
 previousOutput : String := ""

structure RoutingDecision where
 specialistID : ToolID := ""
 complete : Bool := false

/-- The context of a write: that of the run, or one without its end that is given some seconds. -/
inductive SaveContext where
 | running
 | detached
deriving DecidableEq

/-- What a write comes to, and whether its context was live. Stores accept writes made under a
live context. -/
structure SaveReply where
 live : Bool
 err : Option Err
 accepted : live = true → err = none

inductive NetworkOp where
 | claim (id : RunID)
 | release (id : RunID)
 | ctxErr
 | getWorkflowRun (id : RunID)
 | newRunID
 | emit (event : RunEvent)
 | authorize
 | route (request : RoutingRequest)
 | runSpecialist (id : ToolID) (input : RunInput)
 | now
 | saveWorkflowRun (ctx : SaveContext) (record : WorkflowRunRecord)

@[reducible] def NetworkOp.Reply : NetworkOp → Type
  | .claim _ => Bool
  | .release _ => Unit
  | .ctxErr => Option ContextEnd
  | .getWorkflowRun _ => Except Err WorkflowRunRecord
  | .newRunID => RunID
  | .emit _ => Unit
  | .authorize => Option Err
  | .route _ => Except Err RoutingDecision
  | .runSpecialist _ _ => ChildOutcome
  | .now => Time
  | .saveWorkflowRun _ _ => SaveReply

def NetworkSig : Sig := ⟨NetworkOp, NetworkOp.Reply⟩

abbrev NetworkProg := Prog NetworkSig

def networkOp (o : NetworkOp) : NetworkProg o.Reply := Prog.perform (S := NetworkSig) o

/-- A network; `encodeInput` is the stored form of the messages and metadata of an input. -/
structure Network where
 id : WorkflowID
 specialists : List ToolID
 maxHops : Nat
 policy : Bool := false
 store : Bool := true
 encodeInput : RunInput → RawMessage
 distinct : specialists.Nodup

def errNoTask : Err := .new "lebro: network requires a non-empty user message"

def firstInvalid : Nat → List Message → Option Err
 | _, [] => none
 | i, m :: ms =>
  match m.validate with
  | some e => some (e.wrap ("lebro: network input message " ++ toString i ++ ": "))
  | none => firstInvalid (i + 1) ms

def partText : ContentPart → Option String
 | .text text => if text = "" then none else some text
 | _ => none

def lastTask : List Message → Except Err String
 | [] => .error errNoTask
 | m :: ms =>
  if m.role ≠ .user then lastTask ms
  else if m.content ≠ "" then .ok m.content
  else if m.contentParts.isEmpty then lastTask ms
  else
   let texts := m.contentParts.filterMap partText
   if texts.isEmpty then .error errNoTask else .ok ("\n".intercalate texts)

def networkTask (messages : List Message) : Except Err String :=
 match firstInvalid 0 messages with
 | some e => .error e
 | none => lastTask messages.reverse

def networkOutput (result : RunResult) : String :=
 ((lastAssistant result.messages).map Message.content).getD ""

def structuredOutput (result : RunResult) : RawMessage :=
 ((lastAssistant result.messages).map Message.structuredOutput).getD .empty

def validNetworkOutput (result : RunResult) : Bool :=
 networkOutput result ≠ "" || !(structuredOutput result).isEmpty

def networkHandoffPrompt (task : String) (result : RunResult) : String :=
 let output := networkOutput result
 task ++ "\n\nPrevious specialist output:\n" ++
  if output = "" then rawText (structuredOutput result) else output

def runOutput (result : RunResult) : RawMessage :=
 if (structuredOutput result).isEmpty then
  if networkOutput result = "" then .empty
  else .json (.obj [("output", .str (networkOutput result))])
 else structuredOutput result

section

variable (n : Network) (runID : RunID) (input : RunInput) (routes : List NetworkRouteRecord)

def failureData (e : NetworkError) : WorkflowFailureData :=
 ⟨.stepFailed, e.hop, "", e.toErr.message⟩

def runRecord (result : RunResult) (failure : Option NetworkError) (now : Time) :
  WorkflowRunRecord where
 id := runID
 workflowID := n.id
 threadID := input.threadID
 scope := input.scope
 status := result.status
 input := n.encodeInput input
 output := runOutput result
 stepOutputs := routes.map encodeRoute
 currentStep := routes.length
 metadata := input.metadata
 startedAt := now
 updatedAt := now
 finishedAt := if result.status.terminal then some now else none
 failure := failure.map failureData

def save (ctx : SaveContext) (result : RunResult) (failure : Option NetworkError) :
  NetworkProg (Option Err) :=
 if n.store then do
  let now ← networkOp .now
  let reply ← networkOp
   (.saveWorkflowRun ctx (runRecord n runID input routes result failure now))
  .ret reply.err
 else .ret none

def persistError (hop : Nat) (cause : Err) : NetworkError :=
 ⟨.persistFailed, hop, routes, cause.wrap "lebro: persist network route record: "⟩

def terminal (hop : Nat) (type : RunEventType) (status : RunStatus) (err : Option NetworkError) :
  NetworkProg Unit :=
 networkOp (.emit { type := type, runID := runID, step := hop, stepID := "", status := status,
                    err := err.map NetworkError.toErr })

/-- The network result of the last specialist; the record is written under the context of the
run. -/
def succeed (last : RunResult) : NetworkProg NetworkOutcome := do
 let result := { last with id := runID, status := .succeeded, metadata := input.metadata }
 let saved ← save n runID input routes .running result none
 match saved with
 | some e => do
  let failure := persistError routes routes.length e
  terminal runID routes.length .failed .failed (some failure)
  .ret ⟨{ id := runID, status := .failed, metadata := input.metadata }, some failure⟩
 | none => do
  terminal runID routes.length .succeeded .succeeded none
  .ret ⟨result, none⟩

def networkPersistenceContext : NetworkProg SaveContext := do
 let ended ← networkOp .ctxErr
 .ret (if ended.isSome then .detached else .running)

def failureStatus (cause : Err) : RunStatus :=
 if cause.is .canceled ∨ cause.is .deadlineExceeded then .cancelled else .failed

def failureEvent : RunStatus → RunEventType
 | .cancelled => .cancelled
 | _ => .failed

def persisted (hop : Nat) (failure : NetworkError) : Option Err → NetworkError
 | none => failure
 | some e => persistError routes hop { failure.toErr with
   message := failure.toErr.message ++ ": persist network route record: " ++ e.message }

def fail (hop : Nat) (kind : NetworkErrorKind) (cause : Err) : NetworkProg NetworkOutcome := do
 let failure : NetworkError := ⟨kind, hop, routes, cause⟩
 let status := failureStatus cause
 let result : RunResult := { id := runID, status := status, metadata := input.metadata }
 let ctx ← networkPersistenceContext
 let saved ← save n runID input routes ctx result (some failure)
 terminal runID hop (failureEvent status) status (some (persisted routes hop failure saved))
 .ret ⟨result, some (persisted routes hop failure saved)⟩

end

structure HopState where
 routes : List NetworkRouteRecord := []
 visited : List ToolID := []
 current : RunInput
 last : RunResult := {}

def candidates (n : Network) (visited : List ToolID) : List ToolID :=
 (n.specialists.mergeSort fun a b => decide (a ≤ b)).filter (· ∉ visited)

def childFailure (child : ChildOutcome) : String :=
 match child.err with
 | some e => e.message
 | none =>
  if validNetworkOutput child.result then
   "specialist finished with status " ++ quote child.result.status.text
  else "lebro: specialist produced no handoff output"

def childSucceeds (child : ChildOutcome) : Bool :=
 child.err.isNone && child.result.status = .succeeded && validNetworkOutput child.result

def routeRecord (hop : Nat) (ids : List ToolID) (selected : ToolID) (child : ChildOutcome) :
  NetworkRouteRecord where
 hop := hop
 candidates := ids
 selected := selected
 childRunID := child.result.id
 status := child.result.status
 failure := if childSucceeds child then "" else childFailure child

def handoff (input : RunInput) (task : String) (child : RunResult) : RunInput where
 messages := [{ role := .user, content := networkHandoffPrompt task child }]
 threadID := input.threadID
 metadata := input.metadata
 scope := input.scope

section

variable (n : Network) (runID : RunID) (input : RunInput) (task : String)

def runSelected (hop : Nat) (st : HopState) (selected : ToolID) :
  NetworkProg (HopState ⊕ NetworkOutcome) := do
 let ids := candidates n st.visited
 let child ← networkOp (.runSpecialist selected st.current)
 let routes := st.routes ++ [routeRecord hop ids selected child]
 if childSucceeds child then
  .ret (.inl { routes := routes, visited := selected :: st.visited,
               current := handoff input task child.result, last := child.result })
 else do
  let out ← fail n runID input routes hop .specialistFailed
   (child.err.getD (.new (childFailure child)))
  .ret (.inr out)

def followDecision (hop : Nat) (st : HopState) (decision : RoutingDecision) :
  NetworkProg (HopState ⊕ NetworkOutcome) :=
 let failed (kind : NetworkErrorKind) (message : String) :
   NetworkProg (HopState ⊕ NetworkOutcome) := do
  let out ← fail n runID input st.routes hop kind (.new message)
  .ret (.inr out)
 if decision.complete then
  if hop = 1 then failed .selection "lebro: network router completed before a specialist ran"
  else do
   let out ← succeed n runID input st.routes st.last
   .ret (.inr out)
 else if decision.specialistID ∉ n.specialists then
  failed .selection
   ("lebro: selected specialist " ++ quote decision.specialistID ++ " is not configured")
 else if decision.specialistID ∈ st.visited then
  failed .cycle ("lebro: specialist " ++ quote decision.specialistID ++ " already visited")
 else runSelected n runID input task hop st decision.specialistID

def routeEvent (hop : Nat) (selected : ToolID) : RunEvent :=
 { type := .routeSelected, runID := runID, step := hop, stepID := "", toolID := selected }

def runHop (hop : Nat) (st : HopState) : NetworkProg (HopState ⊕ NetworkOutcome) := do
 let ended ← networkOp .ctxErr
 match ended with
 | some e => do
  let out ← fail n runID input st.routes hop .specialistFailed e.toErr
  .ret (.inr out)
 | none => do
  let decided ← networkOp (.route {
   task := task
   candidates := candidates n st.visited
   hops := hop - 1
   previousOutput := networkOutput st.last })
  match decided with
  | .error e => do
   let out ← fail n runID input st.routes hop .selection e
   .ret (.inr out)
  | .ok decision => do
   networkOp (.emit (routeEvent runID hop decision.specialistID))
   followDecision n runID input task hop st decision

def runHops : Nat → Nat → HopState → NetworkProg NetworkOutcome
 | 0, _, st => fail n runID input st.routes n.maxHops .hopLimit
   (.new ("lebro: network reached max hops " ++ toString n.maxHops))
 | left + 1, hop, st => do
  let ran ← runHop n runID input task hop st
  match ran with
  | .inr out => .ret out
  | .inl st => runHops left (hop + 1) st

end

def authorizeNetwork (n : Network) : NetworkProg (Option Err) :=
 if n.policy then networkOp .authorize else .ret none

def firstHop (input : RunInput) : HopState where
 current := { input with runID := "", outputSchema := none }

def startNetwork (n : Network) (runID : RunID) (input : RunInput) : NetworkProg NetworkOutcome := do
 networkOp (.emit { type := .started, runID := runID, step := 0, stepID := "" })
 match networkTask input.messages with
 | .error e => fail n runID input [] 0 .invalidInput e
 | .ok task => do
  let denied ← authorizeNetwork n
  match denied with
  | some e => fail n runID input [] 0 .unauthorized e
  | none => runHops n runID input task n.maxHops 1 (firstHop input)

def rejected (kind : NetworkErrorKind) (e : Err) : NetworkOutcome := ⟨{}, some ⟨kind, 0, [], e⟩⟩

def checkSuppliedID (n : Network) (runID : RunID) : NetworkProg (Option NetworkOutcome) := do
 let ended ← networkOp .ctxErr
 match ended with
 | some e => .ret (some (rejected .invalidInput e.toErr))
 | none =>
  if n.store then do
   let found ← networkOp (.getWorkflowRun runID)
   match found with
   | .ok _ => .ret (some (rejected .persistFailed WorkflowRuns.errRunIDAlreadyExists))
   | .error e =>
    if e.is .notFound then .ret none
    else do
     let ended ← networkOp .ctxErr
     match ended with
     | some ctxErr => .ret (some (rejected .invalidInput ctxErr.toErr))
     | none => .ret (some (rejected .persistFailed
       (e.wrap "lebro: check supplied network run ID: ")))
  else .ret none

def runSupplied (n : Network) (input : RunInput) : NetworkProg NetworkOutcome := do
 let claimed ← networkOp (.claim input.runID)
 if claimed then do
  let refused ← checkSuppliedID n input.runID
  match refused with
  | some out => do
   networkOp (.release input.runID)
   .ret out
  | none => do
   let out ← startNetwork n input.runID input
   networkOp (.release input.runID)
   .ret out
 else .ret (rejected .persistFailed WorkflowRuns.errRunIDAlreadyExists)

def Network.run (n : Network) (input : RunInput) : NetworkProg NetworkOutcome :=
 match WorkflowRuns.validateSuppliedRunID input.runID with
 | some e => .ret (rejected .invalidInput e)
 | none =>
  if input.runID = "" then do
   let runID ← networkOp .newRunID
   startNetwork n runID input
  else runSupplied n input

end Lebro.NetworkRuns
