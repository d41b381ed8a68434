import Lebro.AgentModels
import Lebro.CanonicalJson
import Lebro.EffectAnswers

set_option autoImplicit false

namespace Lebro.AgentStreams

open EffectProgram EffectRuns EffectAnswers RuntimeTypes RuntimeRecords RuntimeEffects AgentEffects
open AgentLoop AgentOperations AgentModels CanonicalJson

abbrev Answers (σ : Type) := (o : AgentOp) → σ → Option (o.Reply × σ)

def gathered : List StreamDelta → Received → Option Received
 | [], g => some g
 | d :: ds, g =>
  match d.validate, g.add d with
  | none, (g, none) => gathered ds g
  | _, _ => none

def partialOf : Except Err ModelStream → Option Message
 | .error _ => none
 | .ok stream =>
  match gathered stream.deltas {} with
  | none => none
  | some g =>
   if hasPartialStreamResponse g.response.1.message then some g.response.1.message else none

/-- A stream delivers a response that it adds up to, or ends with the error. A response has no
extension or usage then that its check would refuse. -/
def StreamsAs : Except Err ModelResponse → Except Err ModelStream → Prop
 | .ok r, .ok stream => stream.failure = none ∧ r.invalid = none ∧ r.extension.storable = true ∧
   ∃ g, gathered stream.deltas {} = some g ∧
    g.response = (⟨r.message, r.finishReason, .empty, none⟩, none)
 | .error e, .ok stream => stream.failure = some e ∧
   ∃ g, gathered stream.deltas {} = some g ∧ g.response.2 = none
 | .error e, .error e' => e' = e
 | .ok _, .error _ => False

structure Complete (r : ModelResponse) : Prop where
 valid : ModelResponse.validate r = none
 calls : newModelToolCalls r.message.toolCalls = .ok r.message.toolCalls

variable {σ:Type}

/-- The streaming form of each model call delivers what the plain call does, and nobody acts on
events, deltas or looks at the context. -/
structure Mirrored (h : Answers σ) (a : Agent) (f : RunFrame) : Prop where
 emit : ∀ event s, h (.runtime (.step (.emit event))) s = some ((), s)
 send : ∀ delta s, h (.sendDelta delta) s = some (true, s)
 ctx : ∀ s, ∃ ended, h (.runtime (.step .ctxErr)) s = some (ended, s)
 alive : ∀ target request s r u, h (.generate target request) s = some (.ok r, u) →
  h (.runtime (.step .ctxErr)) u = some (none, u)
 streams : ∀ streaming target request s reply u, f.config.streamingModel = some streaming →
  selected f.config = some target → h (.generate target request) s = some (reply, u) →
  ∃ stream, h (.stream (streamTarget a streaming) request) s = some (stream, u) ∧
   StreamsAs reply stream
 generates : f.config.streamingModel = none → ∃ own, streamed a f.config = some own ∧
  ∀ target request s reply u, selected f.config = some target →
   h (.generate target request) s = some (reply, u) →
   h (.generate own request) s = some (reply, u) ∧ ∀ r, reply = .ok r → Complete r

structure Delivers (h : Answers σ) : Prop where
 emit : ∀ event s, h (.runtime (.step (.emit event))) s = some ((), s)
 send : ∀ delta s, h (.sendDelta delta) s = some (true, s)

lemma Mirrored.delivers {h:Answers σ} {a f} (hm:Mirrored h a f) : Delivers h := ⟨hm.emit,hm.send⟩

def errorClass : AgentFailure → AgentErrorKind ⊕ ToolApprovalErrorKind ⊕ Err
 | .agent e => .inl e.kind
 | .approval e => .inr (.inl e.kind)
 | .plain e => .inr (.inr e)

structure SameOutcome (x y : AgentOutcome) : Prop where
 status : x.result.status = y.result.status
 messages : x.result.messages = y.result.messages
 error : x.error.map errorClass = y.error.map errorClass

lemma SameOutcome.refl (x) : SameOutcome x x := ⟨rfl,rfl,rfl⟩

def ErrorAgrees (e : Err) : Prop :=
 if e.is .canceled ∨ e.is .deadlineExceeded then ¬ isModelTimeout e
 else ¬ e.is .processorCancelled ∧ ¬ e.is .processorError

def partialMessage (h : Answers σ) (a : Agent) (f : RunFrame) (s : σ) (request : ModelRequest) :
  Option Message :=
 match f.config.streamingModel with
 | none => none
 | some streaming =>
  match h (.stream (streamTarget a streaming) request) s with
  | none => none
  | some (stream, _) => partialOf stream

/-- A model call that fails on a live context does so with an error that both loops report alike
and, when it streams, before it has delivered anything. -/
def FailureAgrees (h : Answers σ) (a : Agent) (f : RunFrame) (s : σ) : AgentOp → Prop
 | .generate target request => ∀ e u, h (.generate target request) s = some (.error e, u) →
   (∃ ended, h (.runtime (.step .ctxErr)) u = some (some ended, u)) ∨
    ErrorAgrees e ∧ partialMessage h a f s request = none
 | _ => True

lemma failureAgrees_of_quiet (h:Answers σ) {a f s} {o} (ho:modelCalled o=none) :
  FailureAgrees h a f s o := by
 cases o with
 | generate => cases ho
 | _ => trivial

def Mirrors (h : Answers σ) (a : Agent) (f : RunFrame) {α : Type} (Q : Prop → α → α → Prop)
  (p q : AgentProg α) (s : σ) : Prop :=
 ∀ r u, p.answer h s = some (r, u) → ∃ r', q.answer h s = some (r', u) ∧
  Q (∀ x ∈ asked h p s, FailureAgrees h a f x.1 x.2) r r'

def StepMirror (agree : Prop) (r r' : List Message ⊕ AgentOutcome) : Prop :=
 match r, r' with
 | .inl transcript, .inl transcript' => transcript' = transcript ∧ agree
 | .inr out, .inr out' => SameOutcome out out' ↔ agree
 | _, _ => False

def OutcomeMirror (agree : Prop) (out out' : AgentOutcome) : Prop := SameOutcome out out' ↔ agree

section

variable {h:Answers σ} {a:Agent} {f:RunFrame} {α β:Type} {p:AgentProg α} {s u:σ}
 {target:ModelTarget} {request:ModelRequest} {reply:Except Err ModelResponse}
 {r:ModelResponse}

lemma quiet_agrees (hp:Asks (fun o=>modelCalled o=none) p) (s) :
  ∀ x ∈ asked h p s,FailureAgrees h a f x.1 x.2 :=
 fun x hx=>failureAgrees_of_quiet h (asked_of_asks hp s x hx)

lemma mirrors_refl {Q} (hQ:∀ r,Q True r r) (hp:Asks (fun o=>modelCalled o=none) p) (s) :
  Mirrors h a f Q p p s := by
 intro r u hr
 have hagree:(∀ x ∈ asked h p s,FailureAgrees h a f x.1 x.2)=True:=
  eq_true (quiet_agrees hp s)
 exact ⟨r,hr,hagree ▸ hQ r⟩

lemma mirrors_seq {Q:Prop → β → β → Prop} {g k} (hp:Asks (fun o=>modelCalled o=none) p)
  (hgk:∀ x u,p.answer h s=some (x,u) → Mirrors h a f Q (g x) (k x) u) :
  Mirrors h a f Q (p >>= g) (p >>= k) s := by
 intro r v hr
 obtain ⟨x,u,hx,hg⟩:=answer_bind_some hr
 obtain ⟨r',hk,hQ⟩:=hgk x u hx r v hg
 refine ⟨r',(answer_bind hx).trans hk,?_⟩
 rw [forall_asked_bind hx,and_iff_right (quiet_agrees hp s)]
 exact hQ

lemma quiet_of_plain (o) (ho:Plain o) : modelCalled o=none := by
 cases o with
 | generate | stream => exact ho.elim
 | _ => rfl

variable (hd:Delivers h) (hm:Mirrored h a f) (hno:a.processors = []) {step:Nat}
 {stepID:StepID}

include hd

lemma answer_deliver {delta s} : (deliver f step stepID delta).answer h s=some (true,s) := by
 have hemit:(deliver f step stepID delta).answer h s =
   (agentOp (.sendDelta delta)).answer h s := answer_ask (hd.emit _ s)
 exact hemit.trans (answer_ask (hd.send delta s))

include hno

lemma answer_receiveDelta {g g' d} (hg:g.add d=(g',none)) {s} :
  (receiveDelta a f step stepID g d).answer h s=some (.ok g',s) := by
 unfold receiveDelta
 rw [hno]
 apply (answer_bind (answer_deliver hd)).trans
 rw [hg]
 rfl

lemma answer_receiveDeltas (halive:h (.runtime (.step .ctxErr)) u=some (none,u)) (failure)
  {ds g g'} (hg:gathered ds g=some g') :
  (receiveDeltas a f step stepID failure ds g).answer h u =
   (endOfStream g' failure).answer h u := by
 induction ds generalizing g with
 | nil =>
  cases hg
  exact answer_perform (S := AgentSig) halive
 | cons d ds ih =>
  rw [gathered] at hg
  split at hg
  · rename_i hvalid hadd
    apply (answer_perform (S := AgentSig) halive).trans
    rw [hvalid]
    exact (answer_bind (answer_receiveDelta hd hno hadd)).trans (ih hg)
  · cases hg

omit hd

include hm

omit hm hno in
lemma Complete.check (hr:Complete r) : checkToolCalls 0 [] r.message.toolCalls=none := by
 have hcalls:=hr.calls
 rw [newModelToolCalls] at hcalls
 split at hcalls
 · cases hcalls
 · assumption

omit hm hno in
lemma validate_toolCall {call} (hcall:ModelToolCall.validate call=none) :
  ({ toolCall := some call } : StreamDelta).validate=none := by
 simp [StreamDelta.validate,StreamDelta.isEmpty,hcall,RawMessage.storable,
  ModelReasoning.validate]

lemma answer_deliverCalls {calls} (hcalls:∀ call ∈ calls,ModelToolCall.validate call=none)
  {s} :
  (deliverCalls a f step stepID calls).answer h s=some (.ok calls,s) := by
 induction calls with
 | nil => rfl
 | cons call calls ih =>
  obtain ⟨hcall,hcalls⟩:=List.forall_mem_cons.mp hcalls
  unfold deliverCalls
  rw [hno]
  apply (answer_bind (p := Prog.ret _) rfl).trans
  dsimp only
  rw [validate_toolCall hcall]
  apply (answer_bind (answer_deliver hm.delivers)).trans
  exact (answer_bind (ih hcalls)).trans rfl

omit hm hno in
lemma storable_of_validate {m:Message} (hvalid:m.validate=none) :
  m.structuredOutput.storable=true ∧ m.reasoning.validate=none := by
 unfold Message.validate at hvalid
 grind [Option.isSome_iff_ne_none]

omit hm hno in
lemma finishReason_of_validate (hvalid:ModelResponse.validate r=none) :
  r.message.validate=none ∧ validFinishReason r.finishReason=true ∧ r.invalid=none := by
 unfold ModelResponse.validate at hvalid
 grind [Option.isSome_iff_ne_none]

omit hm hno in
lemma Complete.terminal (hr:Complete r) :
  completeTerminal (terminalDelta r)=terminalDelta r ∧ (terminalDelta r).validate=none := by
 obtain ⟨hmessage,hreason,hinvalid⟩:=finishReason_of_validate hr.valid
 obtain ⟨hstorable,hreasoning⟩:=storable_of_validate hmessage
 have hset:r.finishReason ≠ .unset:=by
  rintro hunset
  rw [hunset] at hreason
  cases hreason
 constructor
 · simp [completeTerminal,terminalDelta,hset]
 · simp [StreamDelta.validate,StreamDelta.isEmpty,terminalDelta,hset,hstorable,hreasoning,
    hreason,hinvalid]

lemma answer_deliverResponse (hr:Complete r) {s} :
  (deliverResponse a f step stepID r).answer h s=some (.ok r,s) := by
 have hcalls:=(checkToolCalls_none.mp hr.check).1
 obtain ⟨hterminal,hvalid⟩:=hr.terminal
 unfold deliverResponse
 apply (answer_bind (answer_deliverCalls hm hno hcalls)).trans
 rw [hno]
 apply (answer_bind (p := Prog.ret _) rfl).trans
 dsimp only
 rw [hterminal,hvalid]
 apply (answer_bind (answer_deliver hm.delivers)).trans
 simp only [rebuildResponse,hr.calls]
 rfl

omit hm hno in
lemma answer_generateModel
  (hcall:(generateModel f.config request).answer h s=some (reply,u)) :
  ∃ target,selected f.config=some target ∧
   h (.generate target request) s=some (reply,u) ∧
   asked h (generateModel f.config request) s=[(s,.generate target request)] := by
 have hone:∀ target,(agentOp (.generate target request)).answer h s=some (reply,u) →
   h (.generate target request) s=some (reply,u) ∧
    asked h (agentOp (.generate target request)) s=[(s,.generate target request)] := by
  intro target htarget
  obtain ⟨r,v,hr,hret⟩:=answer_ask_some htarget
  cases hret
  exact ⟨hr,asked_ask hr⟩
 unfold generateModel at hcall ⊢
 split at hcall
 · rename_i hr
   exact ⟨_,by simp [selected,hr],hone _ hcall⟩
 · rename_i m hr hmodel
   exact ⟨.model m,by simp [selected,hr,hmodel],hone _ hcall⟩
 · obtain ⟨r,-⟩:=answer_ask_some hcall
   exact r.elim

def CallMirror (h : Answers σ) (a : Agent) (f : RunFrame) (request : ModelRequest) (s u : σ) :
  Except Err ModelResponse → Except StreamFailure ModelResponse → Prop
 | .ok r, .ok r' => r'.message = r.message ∧ r'.finishReason = r.finishReason ∧
   ModelResponse.validate r' = ModelResponse.validate r
 | .error e, .error failure =>
  (∃ ended, h (.runtime (.step .ctxErr)) u = some (some ended, u)) ∧ failure.partialMessage = none ∨
   h (.runtime (.step .ctxErr)) u = some (none, u) ∧ failure.err = e ∧
    failure.partialMessage = partialMessage h a f s request
 | _, _ => False

omit hno in
lemma callMirror_error {e} (hpartly:partialMessage h a f s request=none) :
  CallMirror h a f request s u (.error e) (.error ⟨e,none⟩) := by
 obtain ⟨ended,hended⟩:=hm.ctx u
 cases ended with
 | some e' => exact .inl ⟨⟨e',hended⟩,rfl⟩
 | none => exact .inr ⟨hended,rfl,hpartly.symm⟩

def receiveStream (a : Agent) (f : RunFrame) (step : Nat) (stepID : StepID) :
  Except Err ModelStream → AgentProg (Except StreamFailure ModelResponse)
 | .error e => .ret (.error ⟨e, none⟩)
 | .ok stream => receiveDeltas a f step stepID stream.failure stream.deltas {}

def receiveReply (a : Agent) (f : RunFrame) (step : Nat) (stepID : StepID) :
  Except Err ModelResponse → AgentProg (Except StreamFailure ModelResponse)
 | .error e => .ret (.error ⟨e, none⟩)
 | .ok r => deliverResponse a f step stepID r

lemma answer_stream {streaming} (hstreaming:f.config.streamingModel=some streaming)
  (htarget:selected f.config=some target)
  (hreply:h (.generate target request) s=some (reply,u)) :
  ∃ result,(consumeStream a f step stepID request).answer h s=some (result,u) ∧
   CallMirror h a f request s u reply result := by
 obtain ⟨stream,hstream,has⟩:=hm.streams streaming target request s reply u hstreaming
  htarget hreply
 have hpartly:partialMessage h a f s request=partialOf stream:=by
  simp [partialMessage,hstreaming,hstream]
 have hopen:(consumeStream a f step stepID request).answer h s =
   (receiveStream a f step stepID stream).answer h u := by
  unfold consumeStream
  rw [hstreaming]
  apply (answer_perform (S := AgentSig) hstream).trans
  cases stream <;> rfl
 rw [hopen]
 cases reply with
 | ok r =>
  cases stream with
  | error e => exact has.elim
  | ok stream =>
   obtain ⟨hfailure,hinvalid,hextension,g,hg,hresponse⟩:=has
   have halive:=hm.alive _ _ _ _ _ hreply
   refine ⟨.ok ⟨r.message,r.finishReason,.empty,none⟩,?_,rfl,rfl,?_⟩
   · rw [receiveStream,answer_receiveDeltas hm.delivers hno halive _ hg,hfailure]
     apply (answer_perform (S := AgentSig) halive).trans
     rw [hresponse]
     rfl
   · have hempty:RawMessage.empty.storable=true:=rfl
     simp only [ModelResponse.validate,hinvalid,hextension,hempty]
 | error e =>
  cases stream with
  | error e' =>
   cases has
   exact ⟨_,rfl,callMirror_error hm hpartly⟩
  | ok stream =>
   obtain ⟨hfailure,g,hg,hresponse⟩:=has
   obtain ⟨ended,hended⟩:=hm.ctx u
   cases ended with
   | some e' =>
    refine ⟨.error (Received.fail {} e'),?_,.inl ⟨⟨e',hended⟩,rfl⟩⟩
    rw [receiveStream]
    cases stream.deltas <;> exact (answer_perform (S := AgentSig) hended).trans rfl
   | none =>
    refine ⟨.error (g.fail e),?_,.inr ⟨hended,?_,?_⟩⟩
    · rw [receiveStream,answer_receiveDeltas hm.delivers hno hended _ hg,hfailure]
      rfl
    · simp [Received.fail,failWith,hresponse]
    · rw [hpartly]
      simp [Received.fail,failWith,partialOf,hg]

lemma answer_consumeStream (htarget:selected f.config=some target)
  (hreply:h (.generate target request) s=some (reply,u)) :
  ∃ result,(consumeStream a f step stepID request).answer h s=some (result,u) ∧
   CallMirror h a f request s u reply result := by
 cases hstreaming : f.config.streamingModel with
 | some streaming => exact answer_stream hm hno hstreaming htarget hreply
 | none =>
  obtain ⟨own,hown,hsame⟩:=hm.generates hstreaming
  obtain ⟨hgenerate,hcomplete⟩:=hsame target request s reply u htarget hreply
  have hfallback:(fallbackModel a request).answer h s=some (reply,u):=by
   have hcall:fallbackModel a request=agentOp (.generate own request):=by
    unfold streamed at hown
    rw [hstreaming] at hown
    unfold fallbackModel
    cases hr : a.router with
    | some r =>
     rw [hr] at hown
     cases hown
     rfl
    | none =>
     rw [hr] at hown
     cases hmodel : a.model with
     | none => simp [hmodel] at hown
     | some m =>
      simp only [hmodel,Option.map_some,Option.some.injEq] at hown
      rw [← hown]
   rw [hcall]
   exact answer_ask hgenerate
  have hcall:(consumeStream a f step stepID request).answer h s =
    (receiveReply a f step stepID reply).answer h u := by
   unfold consumeStream
   rw [hstreaming]
   apply (answer_bind hfallback).trans
   cases reply <;> rfl
  rw [hcall]
  cases reply with
  | error e =>
   have hpartly:partialMessage h a f s request=none:=by simp [partialMessage,hstreaming]
   exact ⟨_,rfl,callMirror_error hm hpartly⟩
  | ok r =>
   exact ⟨.ok r,answer_deliverResponse hm hno (hcomplete r rfl),rfl,rfl,rfl⟩

omit hm hno

def cancelledOutcome (f : RunFrame) (step : Nat) (transcript : List Message) (cause : Err) :
  AgentOutcome :=
 ⟨{ id := f.runID, status := .cancelled, messages := transcript, metadata := f.metadata },
  some (.agent (cancelledError step cause))⟩

def failedOutcome (f : RunFrame) (transcript : List Message) (e : AgentError) : AgentOutcome :=
 ⟨{ id := f.runID, status := .failed, messages := transcript, metadata := f.metadata },
  some (.agent e)⟩

def modelOutcome (f : RunFrame) (step : Nat) (transcript : List Message) (ended : Option Err)
  (e : Err) : AgentOutcome :=
 if ended.isSome ∨ ¬ isModelTimeout e ∧ (e.is .canceled ∨ e.is .deadlineExceeded) then
  cancelledOutcome f step transcript (preferContextError e ended)
 else failedOutcome f transcript (modelAgentError step e)

def streamOutcome (f : RunFrame) (step : Nat) (transcript : List Message) (ended : Option Err)
  (e : Err) : AgentOutcome :=
 if processorCancelled e ∨ ended.isSome then
  cancelledOutcome f step transcript (preferContextError e ended)
 else failedOutcome f transcript
  (if e.is .processorError then processorAgentError step e else modelAgentError step e)

include hm in
lemma answer_emit {event} {k:Unit → AgentProg α} :
  (emitEvent event >>= k).answer h u=(k ()).answer h u :=
 answer_perform (S := AgentSig) (hm.emit event u)

include hm in
lemma answer_endModel (transcript e) {ended}
  (hended:h (.runtime (.step .ctxErr)) u=some (ended,u)) :
  (endModel f step stepID transcript e).answer h u =
   some (modelOutcome f step transcript ended e,u) := by
 apply (answer_perform (S := AgentSig) hended).trans
 unfold modelOutcome
 split
 · exact (answer_emit hm).trans (answer_emit hm)
 · exact (answer_emit hm).trans (answer_emit hm)

include hm in
lemma answer_endStream (transcript e) {ended}
  (hended:h (.runtime (.step .ctxErr)) u=some (ended,u)) :
  (endStream f step stepID transcript e).answer h u =
   some (streamOutcome f step transcript ended e,u) := by
 apply (answer_perform (S := AgentSig) hended).trans
 unfold streamOutcome
 split
 · exact (answer_emit hm).trans (answer_emit hm)
 · exact (answer_emit hm).trans (answer_emit hm)

lemma sameOutcome_of_ended {transcript} {e e' cause} :
  SameOutcome (modelOutcome f step transcript (some cause) e)
   (streamOutcome f step transcript (some cause) e') := by
 simp only [modelOutcome,streamOutcome,Option.isSome_some,true_or,or_true,if_true]
 exact ⟨rfl,rfl,rfl⟩

lemma sameReport_iff {transcript transcript'} {e} :
  (modelOutcome f step transcript none e).result.status =
    (streamOutcome f step transcript' none e).result.status ∧
   (modelOutcome f step transcript none e).error.map errorClass =
    (streamOutcome f step transcript' none e).error.map errorClass ↔ ErrorAgrees e := by
 have hsplit:=fun target=>Bool.eq_false_or_eq_true (e.is target)
 rcases hsplit .canceled with hc | hc <;> rcases hsplit .deadlineExceeded with hd | hd <;>
  rcases hsplit .modelTimeout with ht | ht <;>
  rcases hsplit .processorCancelled with hp | hp <;>
  rcases hsplit .processorError with he | he <;>
  simp [modelOutcome,streamOutcome,ErrorAgrees,processorCancelled,isModelTimeout,
   modelAgentError,processorAgentError,cancelledOutcome,failedOutcome,errorClass,
   cancelledError,hc,hd,ht,hp,he]

lemma modelOutcome_messages (transcript ended e) :
  (modelOutcome f step transcript ended e).result.messages=transcript := by
 unfold modelOutcome
 split <;> rfl

lemma streamOutcome_messages (transcript ended e) :
  (streamOutcome f step transcript ended e).result.messages=transcript := by
 unfold streamOutcome
 split <;> rfl

lemma sameOutcome_iff (transcript e delivered) :
  SameOutcome (modelOutcome f step transcript none e)
    (streamOutcome f step (transcript++delivered.toList) none e) ↔
   ErrorAgrees e ∧ delivered=none := by
 constructor
 · intro hsame
   have hmessages:=hsame.messages
   rw [modelOutcome_messages,streamOutcome_messages,List.self_eq_append_right] at hmessages
   exact ⟨(sameReport_iff).mp ⟨hsame.status,hsame.error⟩,
    Option.toList_eq_nil_iff.mp hmessages⟩
 · rintro ⟨hagrees,rfl⟩
   obtain ⟨hstatus,herror⟩:=(sameReport_iff).mpr hagrees
   refine ⟨hstatus,?_,herror⟩
   rw [modelOutcome_messages,streamOutcome_messages,Option.toList_none,List.append_nil]

lemma failureAgrees_iff {e} (hgenerate:h (.generate target request) s=some (.error e,u)) :
  FailureAgrees h a f s (.generate target request) ↔
   (∃ ended,h (.runtime (.step .ctxErr)) u=some (some ended,u)) ∨
    ErrorAgrees e ∧ partialMessage h a f s request=none := by
 constructor
 · intro hagrees
   exact hagrees e u hgenerate
 · intro hagrees e' u' he
   rw [hgenerate] at he
   cases he
   exact hagrees

lemma stepMirror_refl (r) : StepMirror True r r := by
 cases r with
 | inl transcript => exact ⟨rfl,trivial⟩
 | inr out => exact iff_true_intro (SameOutcome.refl out)

lemma handleResponse_congr (hno:a.processors=[]) {transcript} {r'}
  (hmessage:r'.message=r.message) (hreason:r'.finishReason=r.finishReason)
  (hvalid:ModelResponse.validate r'=ModelResponse.validate r) :
  handleResponse a f step stepID transcript r'=handleResponse a f step stepID transcript r := by
 have hfinish:∀ t,finishRun a f step stepID t r'=finishRun a f step stepID t r:=by
  intro t
  simp only [finishRun,validateStructuredOutput,hmessage]
 have hinvalid:∀ e,invalidResponse f step r' e=invalidResponse f step r e:=by
  intro e
  simp only [invalidResponse,hreason]
 unfold handleResponse
 rw [hno]
 simp only [process,Prog.ret_bind,hmessage,hreason,hvalid,hfinish,hinvalid]

lemma quiet_handleResponse {transcript r} :
  Asks (fun o=>modelCalled o=none) (handleResponse a f step stepID transcript r) :=
 asks_handleResponse quiet_of_plain (fun _=>rfl)
  (fun _ _=>rfl) rfl (fun _=>rfl)

include hm hno in
lemma mirrors_call {transcript request s} :
  Mirrors h a f StepMirror
   (do
    let response ← generateModel f.config request
    match response with
    | .error e => do
     let out ← endModel f step stepID transcript e
     .ret (.inr out)
    | .ok response => handleResponse a f step stepID transcript response)
   (do
    let response ← consumeStream a f step stepID request
    match response with
    | .error failure => do
     let out ← endStream f step stepID (transcript++failure.partialMessage.toList)
      failure.err
     .ret (.inr out)
    | .ok response => handleResponse a f step stepID transcript response) s := by
 intro ran v hran
 obtain ⟨reply,u,hcall,hrest⟩:=answer_bind_some hran
 obtain ⟨target,htarget,hgenerate,hasked⟩:=answer_generateModel hcall
 obtain ⟨result,hresult,hmirror⟩:=answer_consumeStream hm hno htarget hgenerate
 rw [answer_bind hresult,asked_bind hcall,hasked]
 cases reply with
 | ok r =>
  cases result with
  | error failure => exact hmirror.elim
  | ok r' =>
   obtain ⟨hmessage,hreason,hvalid⟩:=hmirror
   have hagree:∀ x ∈ [(s,AgentOp.generate target request)] ++
     asked h (handleResponse a f step stepID transcript r) u,
     FailureAgrees h a f x.1 x.2 := by
    refine List.forall_mem_cons.mpr ⟨?_,quiet_agrees (quiet_handleResponse) u⟩
    intro e w he
    rw [hgenerate] at he
    cases he
   refine ⟨ran,?_,eq_true hagree ▸ stepMirror_refl ran⟩
   dsimp only
   rw [handleResponse_congr hno hmessage hreason hvalid]
   exact hrest
 | error e =>
  cases result with
  | ok r' => exact hmirror.elim
  | error failure =>
   obtain ⟨ended,hended⟩:=hm.ctx u
   have hout:(endModel f step stepID transcript e).answer h u=_:=
    answer_endModel hm transcript e hended
   have hout':(endStream f step stepID (transcript++failure.partialMessage.toList)
     failure.err).answer h u=_ := answer_endStream hm _ _ hended
   have hran:(ran,v)=(Sum.inr (modelOutcome f step transcript ended e),u):=by
    have hrest':=(answer_bind (f := fun out=>.ret (Sum.inr out)) hout).symm.trans hrest
    exact (Option.some.inj hrest').symm
   cases hran
   refine ⟨_,(answer_bind hout').trans rfl,?_⟩
   have hquiet:Asks (fun o=>modelCalled o=none) (endModel f step stepID transcript e >>=
     fun out=>.ret (Sum.inr out : List Message ⊕ AgentOutcome)) :=
    asks_bind (asks_endModel quiet_of_plain) fun _=>asks_ret
   show SameOutcome _ _ ↔ _
   rw [List.singleton_append,List.forall_mem_cons,failureAgrees_iff hgenerate,
    and_iff_left (quiet_agrees hquiet v)]
   cases ended with
   | some cause =>
    rcases hmirror with ⟨-,hnone⟩ | ⟨hlive,-⟩
    · rw [hnone,Option.toList_none,List.append_nil]
      exact iff_of_true (sameOutcome_of_ended)
       (.inl ⟨cause,hended⟩)
    · rw [hended] at hlive
      cases hlive
   | none =>
    rcases hmirror with ⟨⟨cause,hcause⟩,-⟩ | ⟨-,herr,hpartly⟩
    · rw [hended] at hcause
      cases hcause
    · have hdead:¬ ∃ cause,h (.runtime (.step .ctxErr)) v=some (some cause,v):=by
       rintro ⟨cause,hcause⟩
       rw [hended] at hcause
       cases hcause
      rw [herr,hpartly,sameOutcome_iff,or_iff_right hdead]

include hm hno in
lemma mirrors_step (transcript s) :
  Mirrors h a f StepMirror (runStep a f step transcript) (streamStep a f step transcript) s := by
 refine mirrors_seq (asks_runCtxErr quiet_of_plain) ?_
 intro ended s _
 cases ended with
 | some e =>
  refine mirrors_refl stepMirror_refl ?_ s
  exact asks_bind (asks_endCancelled quiet_of_plain) fun _=>asks_ret
 | none =>
  refine mirrors_seq (asks_op (S := AgentSig) (quiet_of_plain _ trivial)) ?_
  intro stepID s _
  refine mirrors_seq (asks_emitEvent quiet_of_plain) ?_
  intro _ s _
  refine mirrors_seq (asks_prepareRequest quiet_of_plain
   fun _ _ _ _ _ _ _=>rfl) ?_
  intro prepared s _
  cases prepared with
  | inr out => exact mirrors_refl stepMirror_refl asks_ret s
  | inl request => exact mirrors_call hm hno

lemma mirrors_next {p q:AgentProg (List Message ⊕ AgentOutcome)}
  {g k:List Message → AgentProg AgentOutcome} (hpq:Mirrors h a f StepMirror p q s)
  (hgk:∀ transcript u,Mirrors h a f OutcomeMirror (g transcript) (k transcript) u) :
  Mirrors h a f OutcomeMirror
   (do
    let ran ← p
    match ran with
    | .inr out => .ret out
    | .inl transcript => g transcript)
   (do
    let ran ← q
    match ran with
    | .inr out => .ret out
    | .inl transcript => k transcript) s := by
 intro out v hout
 obtain ⟨ran,u,hran,hrest⟩:=answer_bind_some hout
 obtain ⟨ran',hran',hmirror⟩:=hpq ran u hran
 rw [answer_bind hran',forall_asked_bind hran]
 cases ran with
 | inl longer =>
  cases ran' with
  | inr _ => exact hmirror.elim
  | inl longer' =>
   obtain ⟨rfl,hagree⟩:=hmirror
   obtain ⟨out',hout',hsame⟩:=hgk longer' u out v hrest
   exact ⟨out',hout',hsame.trans (and_iff_right hagree).symm⟩
 | inr ended =>
  cases ran' with
  | inl _ => exact hmirror.elim
  | inr ended' =>
   cases hrest
   exact ⟨ended',rfl,hmirror.trans (and_iff_left (quiet_agrees asks_ret _)).symm⟩

include hm hno in
lemma mirrors_loop (n transcript s) :
  Mirrors h a f OutcomeMirror (runLoop a f (runStep a f) n step transcript)
   (runLoop a f (streamStep a f) n step transcript) s := by
 induction n generalizing step transcript s with
 | zero =>
  exact mirrors_refl (fun out=>iff_true_intro (SameOutcome.refl out))
   (asks_endFailed quiet_of_plain) s
 | succ n ih => exact mirrors_next (mirrors_step hm hno transcript s) ih

end

section

variable {h:Answers σ} {a:Agent} {f:RunFrame}

lemma quiet_finishJournal {runID} {journaled:Bool} {out:AgentOutcome} :
  Asks (fun o=>modelCalled o=none)
   (finishJournal a runID journaled >>= fun _=>Prog.ret out) :=
 asks_bind (asks_finishJournal quiet_of_plain) fun _=>asks_ret

lemma mirrored_tails (hm:Mirrored h a f) (hno:a.processors=[])
  (hstart:f.input.resumeStartStep=0) {s u:σ} {out:AgentOutcome}
  (hout:(do
   let out ← loopFrom a f (runStep a f) (max 1 f.input.resumeStartStep)
   finishJournal a f.runID true
   Prog.ret out).answer h s=some (out,u)) :
  ∃ out' u',(do
    let out ← loopFrom a f (streamStep a f) 1
    flushDiagnostics a f.runID
    Prog.ret out).answer h s=some (out',u') ∧
   (SameOutcome out out' ↔ ∀ x ∈ asked h (do
    let out ← loopFrom a f (runStep a f) (max 1 f.input.resumeStartStep)
    finishJournal a f.runID true
    Prog.ret out) s,FailureAgrees h a f x.1 x.2) := by
 have hfirst:max 1 f.input.resumeStartStep=1:=by rw [hstart]; rfl
 rw [hfirst] at hout ⊢
 obtain ⟨ended,v,hloop,hjournal⟩:=answer_bind_some hout
 obtain ⟨ended',hloop',hsame⟩:=mirrors_loop hm hno (a.maxSteps+1 - 1) f.transcript s ended
  v hloop
 obtain ⟨_,w,hflushes,hret⟩:=answer_bind_some hjournal
 obtain ⟨_,w',hflush,-⟩:=answer_bind_some hflushes
 cases hret
 refine ⟨ended',w',(answer_bind hloop').trans ((answer_bind hflush).trans rfl),?_⟩
 rw [forall_asked_bind hloop,and_iff_left (quiet_agrees quiet_finishJournal v)]
 exact hsame

end

def streamingFrame : RunFrame := questionFrame ⟨"", some ⟨"own", true⟩, none, ""⟩

lemma answering_mirrored : Mirrored (answering chosen doneReply) streamingAgent streamingFrame where
 emit _ _ := rfl
 send _ _ := rfl
 ctx _ := ⟨none,rfl⟩
 alive _ _ _ _ _ _ := rfl
 streams := by
  rintro streaming target request s reply u _ _ ⟨⟩
  exact ⟨_,rfl,rfl,rfl,rfl,_,rfl,rfl⟩
 generates := nofun

def failing (e : Err) (stream : Except Err ModelStream) : Answers Unit
 | .generate _ _, _ => some (.error e, ())
 | .stream _ _, _ => some (stream, ())
 | o, s => answering chosen doneReply o s

def errTimeout : Err where
 message := "lebro: model timeout: context deadline exceeded"
 matching := [.modelTimeout, .deadlineExceeded]
 suspend := none

def errProvider : Err := .new "provider unavailable"

lemma failing_mirrored {e:Err} {stream:Except Err ModelStream}
  (hstream:StreamsAs (.error e) stream) :
  Mirrored (failing e stream) streamingAgent streamingFrame where
 emit _ _ := rfl
 send _ _ := rfl
 ctx _ := ⟨none,rfl⟩
 alive _ _ _ _ _ _ := rfl
 streams := by
  rintro streaming target request s reply u _ _ ⟨⟩
  exact ⟨_,rfl,hstream⟩
 generates := nofun

end Lebro.AgentStreams
