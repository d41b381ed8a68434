import Lebro.AgentEffects
import Mathlib.Data.List.Nodup

set_option autoImplicit false

/-! The log of a call says which providers were called, what they replied, and what the context said
afterwards. -/
namespace Lebro.ModelRouting

open EffectProgram RuntimeTypes RuntimeRecords AgentEffects

abbrev ProviderID := String

inductive ModelErrorKind where
 | invalidRequest
 | authentication
 | permissionDenied
 | notFound
 | rateLimited
 | timeout
 | unavailable
 | transport
 | malformedResponse
 | unknown
 | other (text : String)
deriving DecidableEq

structure ModelError where
 kind : ModelErrorKind
 provider : String := ""
 message : String := ""
deriving DecidableEq

/-- The kinds that `modelErrorPolicyFor` marks as retryable. -/
def ModelError.retryable (e : ModelError) : Bool :=
 match e.kind with
 | .rateLimited | .timeout | .unavailable | .transport => true
 | _ => false

/-- An error of a call, with the model error that `errors.As` finds in its chain. -/
structure RouteError where
 err : Err
 model : Option ModelError := none

def toModelError (e : RouteError) : ModelError :=
 e.model.getD { kind := .unknown, message := e.err.message }

structure ProviderCapabilities where
 supportsTools : Bool := false
 supportsStructuredOutput : Bool := false
 supportsStreaming : Bool := false
deriving DecidableEq

def ProviderCapabilities.satisfies (caps req : ProviderCapabilities) : Bool :=
 if req.supportsTools && !caps.supportsTools then false
 else if req.supportsStructuredOutput && !caps.supportsStructuredOutput then false
 else if req.supportsStreaming && !caps.supportsStreaming then false
 else true

/-- A registered adapter; `streams` says whether it implements `StreamingModel`. -/
structure ProviderEntry where
 id : ProviderID
 streams : Bool := false
 capabilities : ProviderCapabilities := {}
deriving DecidableEq

/-- The entries in registration order, one for each ID. -/
structure ProviderRegistry where
 entries : List ProviderEntry
 distinct : (entries.map ProviderEntry.id).Nodup
 named : ∀ entry ∈ entries, entry.id ≠ ""

namespace ProviderRegistry

def empty : ProviderRegistry := ⟨[], List.nodup_nil, nofun⟩

variable (r : ProviderRegistry)

def register (entry : ProviderEntry) : Except Err ProviderRegistry :=
 if hname : entry.id = "" then .error (.new "lebro: provider entry requires an ID")
 else if hnew : entry.id ∈ r.entries.map ProviderEntry.id then
  .error (.new ("lebro: provider already registered: " ++ quote entry.id))
 else .ok {
  entries := r.entries ++ [entry]
  distinct := by
   rw [List.map_append, List.map_singleton]
   exact r.distinct.append (List.nodup_singleton _) (by simpa using hnew)
  named := by
   intro e he
   rcases List.mem_append.mp he with he | he
   · exact r.named e he
   · exact List.mem_singleton.mp he ▸ hname }

variable (id : ProviderID)

def errProviderNotFound : RouteError := ⟨.new ("lebro: provider not found: " ++ quote id), none⟩

def get : Except RouteError ProviderEntry :=
 match r.entries.find? fun entry => entry.id = id with
 | some entry => .ok entry
 | none => .error (errProviderNotFound id)

def ids : List ProviderID := r.entries.map ProviderEntry.id

def registered : Bool := (r.get id).isOk

/-- Whether an entry of a chain can be called: it is registered and has the capabilities. -/
def capable (reqs : ProviderCapabilities) (id : ProviderID) : Bool :=
 match r.get id with
 | .ok entry => entry.capabilities.satisfies reqs
 | .error _ => false

lemma get_id {r : ProviderRegistry} {id} {entry : ProviderEntry} (h : r.get id = .ok entry) :
  entry.id=id := by
 unfold get at h
 split at h
 · rename_i found hfound
   cases h
   simpa using List.find?_some hfound
 · cases h

lemma get_error {r : ProviderRegistry} {id e} (h : r.get id = .error e) :
  e=errProviderNotFound id := by
 unfold get at h
 split at h
 · cases h
 · cases h
   rfl

end ProviderRegistry

structure ModelUsage where
 inputTokens : Int := 0
 outputTokens : Int := 0
 reasoningTokens : Int := 0
 totalTokens : Int := 0
 cacheReadTokens : Int := 0
 cacheWriteTokens : Int := 0
 cacheWrite1hTokens : Int := 0
deriving DecidableEq

structure MeteredResponse extends ModelResponse where
 usage : ModelUsage := {}

structure MeteredDelta extends StreamDelta where
 usage : ModelUsage := {}

structure StreamReader where
 deltas : List MeteredDelta
 failure : Option Err := none

def payloadDeltas (m : Message) : List MeteredDelta :=
 if ¬ m.structuredOutput.isEmpty then [{ structuredOutput := m.structuredOutput }]
 else if m.content ≠ "" then [{ text := m.content }]
 else []

def terminalMetered (r : MeteredResponse) : MeteredDelta where
 finishReason := if r.finishReason = .unset then .unspecified else r.finishReason
 accounted := decide (r.usage ≠ {})
 invalid := r.invalid
 usage := r.usage

def responseToStreamReader (r : MeteredResponse) : StreamReader where
 deltas := r.message.toolCalls.map (fun call => { toolCall := some call }) ++
  payloadDeltas r.message ++ [terminalMetered r]

inductive ModelAttemptStatus where
 | success
 | fallback
 | failed
deriving DecidableEq

structure ModelAttempt where
 provider : ProviderID
 model : String
 status : ModelAttemptStatus
 error : Option ModelError := none
deriving DecidableEq

inductive RouterOp where
 | generate (provider : ProviderID) (request : ModelRequest)
 | stream (provider : ProviderID) (request : ModelRequest)
 | ctxErr
 | modelAttemptStarted (provider : ProviderID) (model : String)
 | modelAttemptFinished (attempt : ModelAttempt)

@[reducible] def RouterOp.Reply : RouterOp → Type
  | .generate _ _ => Except RouteError MeteredResponse
  | .stream _ _ => Except RouteError StreamReader
  | .ctxErr => Option Err
  | .modelAttemptStarted _ _ => Unit
  | .modelAttemptFinished _ => Unit

def RouterSig : Sig := ⟨RouterOp, RouterOp.Reply⟩

abbrev RouterProg := Prog RouterSig

def routerOp (o : RouterOp) : RouterProg o.Reply := Prog.perform (S := RouterSig) o

structure FallbackPolicy where
 chain : List ProviderID
 retryable : Option (ModelError → Bool) := none

def checkChain : List ProviderID → List ProviderID → Option Err
 | _, [] => none
 | seen, id :: ids =>
  if id = "" then some (.new "lebro: fallback chain entry must not be empty")
  else if id ∈ seen then
   some (.new ("lebro: fallback chain contains duplicate provider " ++ quote id))
  else checkChain (id :: seen) ids

def FallbackPolicy.validate (f : FallbackPolicy) : Option Err :=
 if f.chain = [] then some (.new "lebro: fallback chain must not be empty")
 else checkChain [] f.chain

def FallbackPolicy.isRetryable (f : FallbackPolicy) (e : ModelError) : Bool :=
 match f.retryable with
 | none => e.retryable
 | some retryable => retryable e

/-- Whether a policy goes on after an error: only model errors are retried. -/
def FallbackPolicy.retries (f : FallbackPolicy) (e : RouteError) : Bool := e.model.any f.isRetryable

structure RouteResult (ρ : Type) where
 response : Option ρ := none
 attempts : List ModelAttempt := []
 error : Option RouteError := none

def attemptOf (retries : RouteError → Bool) (model : String) (provider : ProviderID) :
  Option RouteError → ModelAttempt
 | none => ⟨provider, model, .success, none⟩
 | some e => ⟨provider, model, if retries e then .fallback else .failed, some (toModelError e)⟩

section

variable {ρ : Type} (call : ProviderEntry → ModelRequest → RouterProg (Except RouteError ρ))

/-- One call with its report to the observer: the walk goes on after an error that is retried. -/
def attemptProvider (retries : RouteError → Bool) (entry : ProviderEntry) (req : ModelRequest)
  (attempts : List ModelAttempt) :
  RouterProg ((List ModelAttempt × RouteError) ⊕ RouteResult ρ) := do
 routerOp (.modelAttemptStarted entry.id req.model)
 let reply ← call entry req
 match reply with
 | .ok response => do
  let attempt := attemptOf retries req.model entry.id none
  routerOp (.modelAttemptFinished attempt)
  .ret (.inr ⟨some response, attempts ++ [attempt], none⟩)
 | .error e => do
  let attempt := attemptOf retries req.model entry.id (some e)
  routerOp (.modelAttemptFinished attempt)
  if retries e then .ret (.inl (attempts ++ [attempt], e))
  else .ret (.inr ⟨none, attempts ++ [attempt], some e⟩)

def errChainExhausted : RouteError :=
 ⟨.new "lebro: fallback chain exhausted with no eligible providers", none⟩

/-- Whether the walk looks at an entry: it is not the one to skip, and eligible. -/
def considered (skip : ProviderID) (eligible : List ProviderID) (id : ProviderID) : Bool :=
 id ≠ skip && (eligible.isEmpty || eligible.contains id)

def walkChain (f : FallbackPolicy) (req : ModelRequest) (skip : ProviderID)
  (registry : ProviderRegistry) (reqs : ProviderCapabilities) (eligible : List ProviderID) :
  List ProviderID → Option RouteError → List ModelAttempt → RouterProg (RouteResult ρ)
 | [], lastErr, attempts => .ret ⟨none, attempts, some (lastErr.getD errChainExhausted)⟩
 | id :: ids, lastErr, attempts =>
  if considered skip eligible id then do
   let ended ← routerOp .ctxErr
   match ended with
   | some e => .ret ⟨none, attempts, some ⟨e, none⟩⟩
   | none =>
    match registry.get id with
    | .error e => walkChain f req skip registry reqs eligible ids (some e) attempts
    | .ok entry =>
     if entry.capabilities.satisfies reqs then do
      let tried ← attemptProvider call f.retries entry req attempts
      match tried with
      | .inr out => .ret out
      | .inl (attempts, e) => walkChain f req skip registry reqs eligible ids (some e) attempts
     else walkChain f req skip registry reqs eligible ids lastErr attempts
  else walkChain f req skip registry reqs eligible ids lastErr attempts

end

def callGenerate (entry : ProviderEntry) (req : ModelRequest) :
  RouterProg (Except RouteError MeteredResponse) :=
 routerOp (.generate entry.id req)

def callStream (entry : ProviderEntry) (req : ModelRequest) :
  RouterProg (Except RouteError StreamReader) :=
 if entry.streams then routerOp (.stream entry.id req)
 else do
  let reply ← routerOp (.generate entry.id req)
  .ret (reply.map responseToStreamReader)

def FallbackPolicy.generateWithAttempts (f : FallbackPolicy) (req : ModelRequest)
  (skip : ProviderID) (registry : ProviderRegistry) (reqs : ProviderCapabilities)
  (eligible : List ProviderID) (priorAttempts : List ModelAttempt) :
  RouterProg (RouteResult MeteredResponse) :=
 walkChain callGenerate f req skip registry reqs eligible f.chain none priorAttempts

def FallbackPolicy.streamWithAttempts (f : FallbackPolicy) (req : ModelRequest) (skip : ProviderID)
  (registry : ProviderRegistry) (reqs : ProviderCapabilities) (eligible : List ProviderID)
  (priorAttempts : List ModelAttempt) : RouterProg (RouteResult StreamReader) :=
 walkChain callStream f req skip registry reqs eligible f.chain none priorAttempts

structure RoutingPolicy where
 primary : ProviderID := ""
 eligible : List ProviderID := []
 predicate : Option (ModelRequest → ProviderID) := none

/-- A router as `NewModelRouter` accepts it. -/
structure ModelRouter where
 registry : ProviderRegistry
 policy : RoutingPolicy := {}
 fallback : Option FallbackPolicy := none
 stocked : registry.entries ≠ []
 validated : ∀ f, fallback = some f → f.validate = none

def newModelRouter (registry : ProviderRegistry) (policy : RoutingPolicy)
  (fallback : Option FallbackPolicy) : Except Err ModelRouter :=
 if hstocked : registry.entries = [] then .error (.new "lebro: model router registry is empty")
 else
  match fallback with
  | none => .ok ⟨registry, policy, none, hstocked, nofun⟩
  | some f =>
   match hvalid : f.validate with
   | some e => .error (e.wrap "lebro: model router fallback: ")
   | none => .ok ⟨registry, policy, some f, hstocked, by rintro _ ⟨⟩; exact hvalid⟩

def requestRequirements (req : ModelRequest) : ProviderCapabilities where
 supportsTools := !req.tools.isEmpty
 supportsStructuredOutput := req.outputSchema.isSome

def ModelRouter.eligible (r : ModelRouter) : List ProviderID :=
 if r.policy.eligible.isEmpty then r.registry.ids else r.policy.eligible

def routingError (text : String) : RouteError := ⟨.new text, none⟩

def ModelRouter.resolvePredicted (r : ModelRouter) (reqs : ProviderCapabilities)
  (id : ProviderID) : Except RouteError ProviderEntry :=
 if id ∉ r.eligible then
  .error (routingError ("lebro: predicate returned provider " ++ quote id ++
   " not in eligible set"))
 else
  match r.registry.get id with
  | .error e => .error e
  | .ok entry =>
   if entry.capabilities.satisfies reqs then .ok entry
   else .error (routingError ("lebro: provider " ++ quote id ++
    " lacks required capabilities"))

def ModelRouter.resolveEligible (r : ModelRouter) (reqs : ProviderCapabilities) :
  List ProviderID → Except RouteError ProviderEntry
 | [] => .error (routingError "lebro: no eligible provider satisfies request requirements")
 | id :: ids =>
  match r.registry.get id with
  | .error _ => r.resolveEligible reqs ids
  | .ok entry => if entry.capabilities.satisfies reqs then .ok entry else r.resolveEligible reqs ids

def ModelRouter.resolvePrimary (r : ModelRouter) (reqs : ProviderCapabilities) :
  Except RouteError ProviderEntry :=
 if r.policy.primary ≠ "" ∧ r.policy.primary ∈ r.eligible then
  match r.registry.get r.policy.primary with
  | .error e => .error e
  | .ok entry =>
   if entry.capabilities.satisfies reqs then .ok entry
   else r.resolveEligible reqs r.eligible
 else r.resolveEligible reqs r.eligible

def ModelRouter.resolveTargetWithEntry (r : ModelRouter) (req : ModelRequest) :
  Except RouteError ProviderEntry :=
 match r.policy.predicate with
 | none => r.resolvePrimary (requestRequirements req)
 | some predicate =>
  if predicate req ≠ "" then r.resolvePredicted (requestRequirements req) (predicate req)
  else r.resolvePrimary (requestRequirements req)

def ModelRouter.retries (r : ModelRouter) (e : RouteError) : Bool :=
 r.fallback.any fun f => f.retries e

def ModelRouter.route {ρ : Type}
  (call : ProviderEntry → ModelRequest → RouterProg (Except RouteError ρ)) (r : ModelRouter)
  (req : ModelRequest) : RouterProg (RouteResult ρ) :=
 match r.resolveTargetWithEntry req with
 | .error e => .ret ⟨none, [], some e⟩
 | .ok entry => do
  let tried ← attemptProvider call r.retries entry req []
  match tried, r.fallback with
  | .inr out, _ => .ret out
  | .inl (attempts, e), none => .ret ⟨none, attempts, some e⟩
  | .inl (attempts, _), some f =>
   walkChain call f req entry.id r.registry (requestRequirements req) r.policy.eligible
    f.chain none attempts

def ModelRouter.generateWithAttempts (r : ModelRouter) (req : ModelRequest) :
  RouterProg (RouteResult MeteredResponse) :=
 r.route callGenerate req

def ModelRouter.streamWithAttempts (r : ModelRouter) (req : ModelRequest) :
  RouterProg (RouteResult StreamReader) :=
 r.route callStream req

end Lebro.ModelRouting
