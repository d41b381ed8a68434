import Lebro.AgentLoop
import Lebro.EffectRuns

set_option autoImplicit false

namespace Lebro.AgentOperations

open EffectProgram EffectRuns RuntimeTypes RuntimeRecords RuntimeEffects StoreRecords AgentEffects
open AgentTools AgentLoop

def Plain : AgentOp → Prop
 | .runtime (.step .ctxErr) | .runtime (.step (.emit _)) => True
 | .runtime .now | .runtime .newRunID | .runtime (.authorize _ _) => True
 | .runtime _ => False
 | .transcript _ | .compact _ _ _ _ | .generate _ _ | .stream _ _ | .tool _ => False
 | .emitterSequence | .resumeEmitter _ => False
 | _ => True

/-- What `runStep` and `streamStep` share: a step up to the request that it sends. -/
def openStep (a : Agent) (f : RunFrame) (step : Nat) (transcript : List Message)
  (send : StepID → ModelRequest → AgentProg (List Message ⊕ AgentOutcome)) :
  AgentProg (List Message ⊕ AgentOutcome) := do
 let ended ← runCtxErr
 match ended with
 | some e => do
  let out ← endCancelled f step "" transcript e
  .ret (.inr out)
 | none => do
  let stepID ← agentOp .newStepID
  emitEvent (modelEvent .modelStarted f step stepID none)
  let prepared ← prepareRequest a f step stepID transcript
  match prepared with
  | .inr out => .ret (.inr out)
  | .inl request => send stepID request

section

variable {P:AgentOp → Prop} (hplain:∀ o, Plain o → P o)

include hplain

variable {a:Agent} {f:RunFrame} {step:Nat} {stepID:StepID} {transcript:List Message}

lemma asks_emitEvent {event} : Asks P (emitEvent event) := asks_op (hplain _ trivial)
lemma asks_runCtxErr : Asks P runCtxErr := asks_op (hplain _ trivial)
lemma asks_clockNow : Asks P clockNow := asks_op (hplain _ trivial)
lemma asks_crash {α : Type} : Asks P (crash : AgentProg α) :=
 asks_ask (hplain _ trivial) fun r=>Empty.elim r

lemma asks_memoryProcess {phase value} : Asks P (memoryProcess phase value) := by
 cases phase with
 | modelRequest | modelResponse | streamDelta => exact asks_ret
 | input =>
  refine asks_perform (hplain _ trivial) ?_
  intro recalled
  cases recalled with
  | error e => exact asks_ret
  | ok content =>
   dsimp only
   split <;> exact asks_ret
 | output =>
  dsimp only [memoryProcess]
  split
  · exact asks_ret
  refine asks_perform (hplain _ trivial) ?_
  intro extracted
  cases extracted <;> exact asks_ret

lemma asks_processOne {p phase value} : Asks P (processOne p phase value) := by
 unfold processOne
 split
 · exact asks_memoryProcess hplain
 split
 · exact asks_perform (hplain _ trivial) fun _=>asks_ret
 · exact asks_ret

lemma asks_process {runID step stepID phase ps value} :
  Asks P (process runID step stepID phase ps value) := by
 induction ps generalizing value with
 | nil => exact asks_ret
 | cons p ps ih =>
  refine asks_bind (asks_processOne hplain) ?_
  intro reply
  cases reply with
  | none => exact ih
  | some reply =>
   cases reply with
   | error e => exact asks_perform (hplain _ trivial) fun _=>asks_ret
   | decided decision next =>
    refine asks_perform (hplain _ trivial) ?_
    intro _
    cases decision with
    | other text | block => exact asks_ret
    | transform => exact ih
    | unset | allow => exact ih

lemma asks_resolveRunConfig {input} : Asks P (resolveRunConfig a input) := by
 have hinstructions:Asks P (resolveInstructions a input):=by
  unfold resolveInstructions
  split
  · refine asks_perform (hplain _ trivial) ?_
    intro resolved
    cases resolved with
    | error e => exact asks_ret
    | ok instructions => split <;> exact asks_ret
  · exact asks_ret
 have hmodel:Asks P (resolveModel a input):=by
  unfold resolveModel
  split
  · refine asks_perform (hplain _ trivial) ?_
    intro resolved
    cases resolved with
    | error e => exact asks_ret
    | ok selection =>
     dsimp only
     split <;> exact asks_ret
  · exact asks_ret
 refine asks_bind hinstructions ?_
 intro instructions
 cases instructions with
 | error e => exact asks_ret
 | ok instructions =>
  refine asks_bind hmodel ?_
  intro selection
  cases selection <;> exact asks_ret

lemma asks_failSetup {runID messages metadata failure} :
  Asks P (failSetup runID messages metadata failure) :=
 asks_perform (hplain _ trivial) fun _=>asks_ret

lemma asks_assembleRun {runID executionID input config compactor prior} :
  Asks P (assembleRun a runID executionID input config compactor prior) := by
 have hfail:∀ (input : RunInput) (failure : AgentFailure),
   Asks P (failInput runID input failure) :=
  fun input failure=>asks_failSetup hplain
 unfold assembleRun
 dsimp only
 split
 · exact hfail _ _
 split
 · exact hfail _ _
 split
 · exact hfail _ _
 · exact asks_ret

lemma asks_loadPriorMessages {threadID} : Asks P (loadPriorMessages a threadID) := by
 unfold loadPriorMessages
 split
 · exact asks_ret
 split
 · exact asks_ret
 split
 · exact asks_ret
 refine asks_perform (hplain _ trivial) ?_
 intro page
 cases page with
 | error e =>
  dsimp only
  split <;> exact asks_ret
 | ok records => exact asks_ret

lemma asks_resolveRun {runID executionID input} :
  Asks P (resolveRun a runID executionID input) := by
 have hfail:∀ failure : AgentFailure,Asks P (failInput runID input failure):=
  fun failure=>asks_failSetup hplain
 apply asks_bind (asks_resolveRunConfig hplain)
 intro config
 cases config with
 | error e => exact hfail _
 | ok config =>
  dsimp only
  split
  · exact hfail _
  apply asks_bind (asks_loadPriorMessages hplain)
  intro prior
  cases prior with
  | error e => exact hfail _
  | ok prior => exact asks_assembleRun hplain

lemma asks_emitStarted {runID input} : Asks P (emitStarted runID input) := by
 unfold emitStarted
 split
 · exact asks_ret
 · exact asks_emitEvent hplain

lemma asks_authorizeRun : Asks P (authorizeRun a) := by
 unfold authorizeRun
 split
 · exact asks_op (hplain _ trivial)
 · exact asks_ret

lemma asks_startRun {runID input} : Asks P (startRun a runID input) := by
 apply asks_bind (asks_emitStarted hplain)
 intro _
 apply asks_bind (asks_authorizeRun hplain)
 intro denial
 cases denial with
 | some e => exact asks_failSetup hplain
 | none =>
  dsimp only
  split
  · exact asks_resolveRun hplain
  apply asks_bind (asks_process hplain)
  intro processed
  cases processed with
  | error e =>
   dsimp only
   split
   · exact asks_perform (hplain _ trivial) fun _=>asks_ret
   · exact asks_failSetup hplain
  | ok processed => exact asks_resolveRun hplain

lemma asks_flushDiagnostics {runID} : Asks P (flushDiagnostics a runID) := by
 unfold flushDiagnostics
 split
 · exact asks_op (hplain _ trivial)
 · exact asks_ret

lemma asks_finishJournal {runID journaled} : Asks P (finishJournal a runID journaled) := by
 cases journaled with
 | true => exact asks_bind (asks_flushDiagnostics hplain) fun _=>asks_flushDiagnostics hplain
 | false => exact asks_ret

lemma asks_newRunID {supplied} : Asks P (newRunID supplied) := by
 unfold newRunID
 split
 · exact asks_ret
 · exact asks_op (hplain _ trivial)

lemma asks_setupRun {input} : Asks P (setupRun a input) := by
 unfold setupRun
 split
 · exact asks_ret
 refine asks_perform (hplain _ trivial) ?_
 intro ended
 cases ended with
 | some e =>
  refine asks_bind (asks_newRunID hplain) ?_
  intro runID
  refine asks_perform (hplain _ trivial) ?_
  intro _
  exact asks_bind (asks_flushDiagnostics hplain) fun _=>asks_ret
 | none =>
  refine asks_bind (asks_newRunID hplain) ?_
  intro runID
  split
  · exact asks_bind (asks_failSetup hplain) fun _=>asks_ret
  · exact asks_bind (asks_startRun hplain) fun _=>asks_ret

lemma asks_endCancelled {cause} : Asks P (endCancelled f step stepID transcript cause) :=
 asks_perform (hplain _ trivial) fun _=>asks_ret
lemma asks_endFailedWith {reported e} :
  Asks P (endFailedWith f step stepID transcript reported e) :=
 asks_perform (hplain _ trivial) fun _=>asks_ret
lemma asks_endFailed {e} : Asks P (endFailed f step stepID transcript e) :=
 asks_endFailedWith hplain

lemma asks_endProcessor {e} : Asks P (endProcessor f step stepID transcript e) := by
 unfold endProcessor
 split
 · exact asks_endCancelled hplain
 · exact asks_endFailed hplain

lemma asks_endModel {e} : Asks P (endModel f step stepID transcript e) := by
 refine asks_perform (hplain _ trivial) ?_
 intro ended
 split
 · exact asks_perform (hplain _ trivial) fun _=>asks_endCancelled hplain
 · exact asks_perform (hplain _ trivial) fun _=>asks_endFailedWith hplain

lemma asks_endStream {e} : Asks P (endStream f step stepID transcript e) := by
 refine asks_perform (hplain _ trivial) ?_
 intro ended
 split
 · exact asks_perform (hplain _ trivial) fun _=>asks_endCancelled hplain
 · exact asks_perform (hplain _ trivial) fun _=>asks_endFailed hplain

lemma asks_unlessCancelled {id} {next} (hnext:Asks P next) :
  Asks P (unlessCancelled id next) := by
 refine asks_perform (hplain _ trivial) ?_
 intro ended
 cases ended with
 | some e => exact asks_ret
 | none => exact hnext

lemma asks_handlerResult {tool id reply} : Asks P (handlerResult tool id reply) := by
 cases reply with
 | panic value => exact asks_ret
 | error e =>
  dsimp only [handlerResult]
  split <;> exact asks_ret
 | output value =>
  apply asks_unlessCancelled hplain
  split <;> exact asks_ret

lemma asks_executeTool {invocation} (htool:P (.tool invocation)) {tool} :
  Asks P (executeTool tool invocation) := by
 refine asks_unlessCancelled hplain (asks_unlessCancelled hplain ?_)
 split
 · exact asks_ret
 apply asks_perform htool
 intro reply
 exact asks_unlessCancelled hplain (asks_handlerResult hplain)

lemma asks_authorizeTool {id} : Asks P (authorizeTool a id) := by
 unfold authorizeTool
 split
 · exact asks_op (hplain _ trivial)
 · exact asks_ret

lemma asks_executeToolCall {runID step stepID threadID call metadata} (htool:∀
  invocation : ToolInvocation,invocation.runID=runID → invocation.step=step → invocation.callID
  = call.id → P (.tool invocation)) :
  Asks P (executeToolCall a runID step stepID threadID call metadata) := by
 unfold executeToolCall
 split
 · exact asks_ret
 split
 · exact asks_ret
 apply asks_bind (asks_authorizeTool hplain)
 intro denial
 cases denial with
 | some e => exact asks_ret
 | none =>
  dsimp only
  split
  · exact asks_ret
  · exact asks_executeTool hplain (htool _ rfl rfl rfl)

lemma asks_evaluateToolApproval {invocation} : Asks P (evaluateToolApproval a invocation) := by
 unfold evaluateToolApproval
 split
 · refine asks_perform (hplain _ trivial) ?_
   intro reply
   cases reply <;> exact asks_ret
 · exact asks_ret

lemma asks_persistToolApproval {state}
  (hsuspend:∀ state now,P (.runtime (.transaction (suspendRun a state now)))) :
  Asks P (persistToolApproval a state) := by
 unfold persistToolApproval
 split
 · exact asks_ret
 split
 · exact asks_ret
 split
 · exact asks_ret
 · exact asks_perform (hplain _ trivial) fun now=>asks_op (hsuspend _ now)

lemma asks_suspendAgentToolApproval {calls callIndex call resolution}
  (hsuspend:∀ state now,P (.runtime (.transaction (suspendRun a state now))))
  (hsequence:P .emitterSequence) :
  Asks P (suspendAgentToolApproval a f step stepID transcript calls callIndex call
   resolution) := by
 refine asks_perform (hplain _ trivial) ?_
 intro now
 refine asks_perform hsequence ?_
 intro sequence
 refine asks_bind (asks_persistToolApproval hplain hsuspend) ?_
 intro persisted
 cases persisted with
 | error e => exact asks_ret
 | ok _ => exact asks_perform (hplain _ trivial) fun _=>asks_ret

lemma asks_runTool {call}
  (htool:∀ invocation : ToolInvocation,invocation.runID=f.runID → invocation.step=step →
   invocation.callID=call.id → P (.tool invocation)) :
  Asks P (runTool a f step stepID transcript call) := by
 refine asks_perform (hplain _ trivial) ?_
 intro _
 refine asks_bind (asks_executeToolCall hplain htool) ?_
 intro result
 refine asks_perform (hplain _ trivial) ?_
 intro _
 split
 · exact asks_ret
 · exact asks_bind (asks_endCancelled hplain) fun _=>asks_ret
 · exact asks_bind (asks_endFailed hplain) fun _=>asks_ret

lemma asks_runToolCalls {calls callIndex rest transcript}
  (htool:∀ invocation,P (.tool invocation))
  (hsuspend:∀ state now,P (.runtime (.transaction (suspendRun a state now))))
  (hsequence:P .emitterSequence) :
  Asks P (runToolCalls a f step stepID calls callIndex rest transcript) := by
 induction rest generalizing callIndex transcript with
 | nil => exact asks_ret
 | cons call rest ih =>
  have hfail:∀ e : AgentError,Asks P (endFailed f step stepID transcript e >>=
    fun out=>.ret (Sum.inr out : List Message ⊕ AgentOutcome)) :=
   fun e=>asks_bind (asks_endFailed hplain) fun _=>asks_ret
  have hresolve:Asks P (resolveTool a f step stepID calls callIndex transcript call):=by
   refine asks_bind (asks_evaluateToolApproval hplain) ?_
   intro resolution
   cases resolution with
   | error e => exact hfail _
   | ok resolution =>
    dsimp only
    split
    · exact hfail _
    · refine asks_bind (asks_suspendAgentToolApproval hplain hsuspend hsequence) ?_
      intro suspended
      cases suspended with
      | error e => exact hfail _
      | ok request => exact asks_ret
    · exact asks_runTool hplain
       fun invocation _ _ _=>htool invocation
  have hcall:Asks P (runToolCall a f step stepID calls callIndex transcript call):=by
   refine asks_perform (hplain _ trivial) ?_
   intro ended
   cases ended with
   | some e => exact asks_bind (asks_endCancelled hplain) fun _=>asks_ret
   | none => exact asks_perform (hplain _ trivial) fun _=>hresolve
  refine asks_bind hcall ?_
  intro ran
  cases ran with
  | inr out => exact asks_ret
  | inl transcript => exact ih

omit hplain in
lemma asks_recordAttempts {body} (hbody:P (.transcript body)) {n last} :
  Asks P (recordAttempts body n last) := by
 induction n generalizing last with
 | zero => exact asks_ret
 | succ n ih =>
  apply asks_perform hbody
  intro recorded
  cases recorded with
  | ok _ => exact asks_ret
  | error e =>
   dsimp only
   split
   · exact ih
   · exact asks_ret

lemma asks_persistRunRecords (hrecord:∀ body,P (.transcript body)) :
  Asks P (persistRunRecords a f transcript) := by
 unfold persistRunRecords
 split
 · exact asks_ret
 split
 · exact asks_ret
 refine asks_perform (hplain _ trivial) ?_
 intro created
 refine asks_perform (hplain _ trivial) ?_
 intro now
 exact asks_recordAttempts (hrecord _)

lemma asks_finishRun {response} (hrecord:∀ body,P (.transcript body)) :
  Asks P (finishRun a f step stepID transcript response) := by
 unfold finishRun
 split
 · exact asks_endFailed hplain
 apply asks_bind (asks_process hplain)
 intro processed
 cases processed with
 | error e => exact asks_endProcessor hplain
 | ok result =>
  apply asks_bind (asks_persistRunRecords hplain hrecord)
  intro persisted
  cases persisted with
  | error e => exact asks_endFailed hplain
  | ok _ => exact asks_perform (hplain _ trivial) fun _=>asks_ret

lemma asks_handleResponse {response} (htool:∀ invocation,P (.tool invocation))
  (hsuspend:∀ state now,P (.runtime (.transaction (suspendRun a state now))))
  (hsequence:P .emitterSequence) (hrecord:∀ body,P (.transcript body)) :
  Asks P (handleResponse a f step stepID transcript response) := by
 refine asks_bind (asks_process hplain) ?_
 intro processed
 cases processed with
 | error e => exact asks_bind (asks_endProcessor hplain) fun _=>asks_ret
 | ok response =>
  dsimp only
  split
  · refine asks_perform (hplain _ trivial) ?_
    intro _
    exact asks_bind (asks_endFailedWith hplain) fun _=>asks_ret
  · refine asks_perform (hplain _ trivial) ?_
    intro _
    split
    · exact asks_runToolCalls hplain htool hsuspend hsequence
    · exact asks_bind (asks_finishRun hplain hrecord)
       fun _=>asks_ret

lemma asks_compact {request}
  (hcompact:∀ c target prior request,f.compactor=some c → c.enabled=true → c.summarizer =
   some target → P (.compact target f.input.threadID prior request)) :
  Asks P (compact f step stepID request) := by
 unfold compact
 split
 · exact asks_ret
 rename_i c hc
 split
 · exact asks_ret
 split
 · rename_i target henabled htarget
   exact asks_op (hcompact c target _ request hc henabled htarget)
 · exact asks_crash hplain
 · exact asks_perform (hplain _ trivial) fun _=>asks_ret

lemma asks_prepareRequest
  (hcompact:∀ c target prior request,f.compactor=some c → c.enabled=true →
   c.summarizer=some target → P (.compact target f.input.threadID prior request)) :
  Asks P (prepareRequest a f step stepID transcript) := by
 apply asks_bind (asks_process hplain)
 intro processed
 cases processed with
 | error e => exact asks_bind (asks_endProcessor hplain) fun _=>asks_ret
 | ok request =>
  apply asks_bind (asks_compact hplain hcompact)
  intro compacted
  cases compacted with
  | error e => exact asks_bind (asks_endFailed hplain) fun _=>asks_ret
  | ok request => exact asks_ret

lemma asks_deliver {delta} : Asks P (deliver f step stepID delta) :=
 asks_perform (hplain _ trivial) fun _=>asks_op (hplain _ trivial)

lemma asks_deliverCalls {calls} : Asks P (deliverCalls a f step stepID calls) := by
 induction calls with
 | nil => exact asks_ret
 | cons call calls ih =>
  apply asks_bind (asks_process hplain)
  intro processed
  cases processed with
  | error e => exact asks_ret
  | ok delta =>
   dsimp only
   split
   · exact asks_ret
   apply asks_bind (asks_deliver hplain)
   intro sent
   split
   · exact asks_ret
   · exact asks_crash hplain
   · apply asks_bind ih
     intro rest
     cases rest <;> exact asks_ret

lemma asks_deliverResponse {r} : Asks P (deliverResponse a f step stepID r) := by
 apply asks_bind (asks_deliverCalls hplain)
 intro delivered
 cases delivered with
 | error e => exact asks_ret
 | ok calls =>
  apply asks_bind (asks_process hplain)
  intro processed
  cases processed with
  | error e => exact asks_ret
  | ok terminal =>
   dsimp only
   split
   · exact asks_ret
   apply asks_bind (asks_deliver hplain)
   intro sent
   cases sent <;> exact asks_ret

lemma asks_receiveDeltas {failure ds g} : Asks P (receiveDeltas a f step stepID failure ds g) := by
 induction ds generalizing g with
 | nil =>
  refine asks_perform (hplain _ trivial) ?_
  intro ended
  cases ended with
  | some e => exact asks_ret
  | none =>
   cases failure with
   | some e => exact asks_ret
   | none =>
    refine asks_perform (hplain _ trivial) ?_
    intro ended
    split <;> exact asks_ret
 | cons d ds ih =>
  refine asks_perform (hplain _ trivial) ?_
  intro ended
  cases ended with
  | some e => exact asks_ret
  | none =>
   have hreceive:Asks P (receiveDelta a f step stepID g d):=by
    refine asks_bind (asks_process hplain) ?_
    intro processed
    cases processed with
    | error e => exact asks_ret
    | ok d =>
     refine asks_bind (asks_deliver hplain) ?_
     intro sent
     split <;> exact asks_ret
   dsimp only
   split
   · exact asks_ret
   refine asks_bind hreceive ?_
   intro received
   cases received with
   | error e => exact asks_ret
   | ok g => exact ih

lemma asks_consumeStream {request}
  (hgenerate:f.config.streamingModel=none → ∀ target,target ∈ (a.router.map .router <|>
   a.model.map .model) → P (.generate target request))
  (hstream:∀ m ∈ f.config.streamingModel,P (.stream (streamTarget a m) request)) :
  Asks P (consumeStream a f step stepID request) := by
 unfold consumeStream
 split
 · next hnone =>
    have hfallback:Asks P (fallbackModel a request):=by
     unfold fallbackModel
     split
     · next r hr => exact asks_op (hgenerate hnone (.router r) (by simp [hr]))
     · next m hr hm => exact asks_op (hgenerate hnone (.model m) (by simp [hr,hm]))
     · exact asks_crash hplain
    apply asks_bind hfallback
    intro response
    cases response with
    | error e => exact asks_ret
    | ok r => exact asks_deliverResponse hplain
 · next m hm =>
    apply asks_perform (hstream m hm)
    intro opened
    cases opened with
    | error e => exact asks_ret
    | ok stream => exact asks_receiveDeltas hplain

lemma asks_runLoop {body} (hbody:∀ step transcript,Asks P (body step transcript)) {n step}
  {transcript} : Asks P (runLoop a f body n step transcript) := by
 induction n generalizing step transcript with
 | zero => exact asks_endFailed hplain
 | succ n ih =>
  apply asks_bind (hbody step transcript)
  intro ran
  cases ran with
  | inr out => exact asks_ret
  | inl transcript => exact ih

end

structure Plainly (a : Agent) (given : RunInput) (f : RunFrame) : Prop where
 input : f.input =
  { given with messages := f.priorMessages.map MessageRecord.message ++ given.messages }
 runID : given.runID ≠ "" → f.runID = given.runID
 instructions : a.instructionsResolver = false → f.config.instructions = a.instructions

def Unfinished (out : AgentOutcome) : Prop :=
 out.result.status ≠ .succeeded ∧ out.result.status ≠ .suspended

def Started (P : RunFrame → Prop) : Except AgentOutcome RunFrame → Prop
 | .ok f => P f
 | .error out => Unfinished out

def SetUp (a : Agent) (input : RunInput) (r : Except AgentOutcome RunFrame × Bool) : Prop :=
 Started (fun f => r.2 = true ∧ Plainly a input f) r.1

section

variable {a:Agent} {runID:RunID} {P:RunFrame → Prop}

lemma returns_failSetup {messages metadata failure} :
  Returns (failSetup runID messages metadata failure) (Started P) :=
 returns_then fun _=>⟨nofun,nofun⟩

lemma returns_resolveRun_runID {executionID input} :
  Returns (resolveRun a runID executionID input) (Started fun f=>f.runID=runID) := by
 apply returns_then
 intro config
 cases config with
 | error e => exact returns_failSetup
 | ok config =>
  dsimp only
  split
  · exact returns_failSetup
  apply returns_then
  intro prior
  cases prior with
  | error e => exact returns_failSetup
  | ok prior =>
   unfold assembleRun
   dsimp only
   split
   · exact returns_failSetup
   split
   · exact returns_failSetup
   split
   · exact returns_failSetup
   · exact rfl

lemma returns_startRun_runID {input} :
  Returns (startRun a runID input) (Started fun f=>f.runID=runID) := by
 apply returns_then
 intro _
 apply returns_then
 intro denial
 cases denial with
 | some e => exact returns_failSetup
 | none =>
  dsimp only
  split
  · exact returns_resolveRun_runID
  apply returns_then
  intro processed
  cases processed with
  | error e =>
   dsimp only
   split
   · exact returns_then fun _=>⟨nofun,nofun⟩
   · exact returns_failSetup
  | ok processed => exact returns_resolveRun_runID

lemma returns_resolveRunConfig {input} :
  Returns (resolveRunConfig a input) (fun r=>∀ c,r = .ok c →
   a.instructionsResolver=false → c.instructions=a.instructions) := by
 by_cases hresolver : a.instructionsResolver=true
 · have hany:∀ r : Except AgentError RunConfig,∀ c,r = .ok c →
     a.instructionsResolver=false → c.instructions=a.instructions := by
    intro _ _ _ hnone
    rw [hresolver] at hnone
    cases hnone
   exact wp_mono (wp_trivial (fun _ _=>trivial)) fun r _ _=>hany r
 · unfold resolveRunConfig resolveInstructions
   rw [if_neg hresolver,Prog.ret_bind]
   apply returns_then
   intro selection
   cases selection with
   | error e => exact fun _ h=>by cases h
   | ok selection =>
    rintro c ⟨⟩ _
    rfl

variable {input:RunInput}

lemma returns_assembleRun {executionID config compactor prior}
  (hconfig:a.instructionsResolver=false → config.instructions=a.instructions)
  (hrunID:input.runID ≠ "" → runID=input.runID) :
  Returns (assembleRun a runID executionID input config compactor prior)
   (Started (Plainly a input)) := by
 unfold assembleRun
 dsimp only
 split
 · exact returns_failSetup
 split
 · exact returns_failSetup
 split
 · exact returns_failSetup
 · exact ⟨rfl,hrunID,hconfig⟩

lemma returns_resolveRun {executionID} (hrunID:input.runID ≠ "" → runID=input.runID) :
  Returns (resolveRun a runID executionID input) (Started (Plainly a input)) := by
 apply returns_bind returns_resolveRunConfig
 intro config hconfig
 cases config with
 | error e => exact returns_failSetup
 | ok config =>
  dsimp only
  split
  · exact returns_failSetup
  apply returns_then
  intro prior
  cases prior with
  | error e => exact returns_failSetup
  | ok prior => exact returns_assembleRun (hconfig config rfl) hrunID

lemma returns_startRun (hskip:a.processors=[] ∨ input.resumeSkipInputPhase=true)
  (hrunID:input.runID ≠ "" → runID=input.runID) :
  Returns (startRun a runID input) (Started (Plainly a input)) := by
 apply returns_then
 intro _
 apply returns_then
 intro denial
 cases denial with
 | some e => exact returns_failSetup
 | none =>
  dsimp only
  split
  · exact returns_resolveRun hrunID
  rename_i hno
  rw [hskip.resolve_right hno]
  exact returns_resolveRun hrunID

lemma returns_newRunID {supplied} :
  Returns (newRunID supplied) (fun runID=>supplied ≠ "" → runID=supplied) := by
 unfold newRunID
 split
 · exact fun _=>rfl
 · rename_i hempty
   exact wp_mono (wp_trivial (fun _ _=>trivial)) fun _ _ _ h=>absurd h hempty

lemma returns_setupRun (hskip:a.processors=[] ∨ input.resumeSkipInputPhase=true) :
  Returns (setupRun a input) (SetUp a input) := by
 unfold setupRun
 split
 · exact ⟨nofun,nofun⟩
 apply returns_then
 intro ended
 cases ended with
 | some e => exact returns_then fun _=>returns_then fun _=>returns_then fun _=>⟨nofun,nofun⟩
 | none =>
  apply returns_bind returns_newRunID
  intro runID hrunID
  split
  · refine returns_bind (returns_failSetup (P := fun _=>False)) ?_
    intro r hr
    cases r with
    | ok f => exact hr.elim
    | error out => exact hr
  · apply returns_bind (returns_startRun hskip hrunID)
    intro r hr
    cases r with
    | ok f => exact ⟨rfl,hr⟩
    | error out => exact hr

end

end Lebro.AgentOperations
