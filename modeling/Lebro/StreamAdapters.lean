import Lebro.AgentStreams
import Lebro.ModelRouting

set_option autoImplicit false

namespace Lebro.StreamAdapters

open EffectAnswers RuntimeTypes RuntimeRecords AgentEffects AgentLoop AgentStreams AgentModels
open CanonicalJson ModelRouting List

def adaptedDeltas (r : MeteredResponse) : List StreamDelta :=
 (responseToStreamReader r).deltas.map MeteredDelta.toStreamDelta

def receivedUsage (deltas : List MeteredDelta) : ModelUsage :=
 deltas.foldl (fun usage d => if d.usage ≠ {} then d.usage else usage) {}

lemma gathered_cons {d g u} (ds) (hvalid:d.validate=none) (hadd:g.add d=(u,none)) :
  gathered (d :: ds) g=gathered ds u := by
 rw [gathered,hvalid,hadd]

lemma gathered_append {ds g u} (es) (h:gathered ds g=some u) :
  gathered (ds++es) g=gathered es u := by
 induction ds generalizing g with
 | nil =>
  cases h
  rfl
 | cons d ds ih =>
  rw [gathered] at h
  split at h
  · rename_i hvalid hadd
    exact (gathered_cons _ hvalid hadd).trans (ih h)
  · cases h

lemma add_plain {g:Received} {d:StreamDelta} (hg:g.reasoning = {}) (hparts:d.parts=[])
  (hreasoning:d.reasoning = {}) (herr:d.err=none) :
  g.add d=({
   content := g.content++d.text
   toolCalls := g.toolCalls++d.toolCall.toList
   structuredOutput := if d.structuredOutput.isEmpty then g.structuredOutput else d.structuredOutput
   finishReason := if d.finishReason = .unset then g.finishReason else d.finishReason },
   none) := by
 have hcontent:appendStreamDeltaContent g.content g.reasoning d =
   ((g.content++d.text,{}),none) := by
  rw [appendStreamDeltaContent,hparts,hreasoning,hg]
  rfl
 rw [Received.add,hcontent,herr]

lemma gathered_calls {calls} (hcalls:∀ call ∈ calls,ModelToolCall.validate call=none) {g}
  (hg:g.reasoning = {}) :
  gathered (calls.map fun call=>{ toolCall := some call }) g =
   some { g with toolCalls := g.toolCalls++calls } := by
 induction calls generalizing g with
 | nil =>
  rw [append_nil]
  rfl
 | cons call calls ih =>
  obtain ⟨hcall,hcalls⟩:=forall_mem_cons.mp hcalls
  rw [map_cons,gathered_cons _ (validate_toolCall hcall) (add_plain hg rfl rfl rfl),ih hcalls rfl]
  simp [hg,RawMessage.isEmpty]

def payload (m : Message) : Received where
 content := if m.structuredOutput.isEmpty then m.content else ""
 toolCalls := m.toolCalls
 structuredOutput := m.structuredOutput

lemma gathered_payload {m} (hstorable:m.structuredOutput.storable=true) :
  gathered ((payloadDeltas m).map MeteredDelta.toStreamDelta) { toolCalls := m.toolCalls } =
   some (payload m) := by
 unfold payloadDeltas payload
 split
 · rename_i hpresent
   have hvalid:({ structuredOutput:=m.structuredOutput } : StreamDelta).validate=none := by
    simp [StreamDelta.validate,StreamDelta.isEmpty,ModelReasoning.validate,
     show RawMessage.empty.storable=true from rfl,hstorable,hpresent]
   apply (gathered_cons [] hvalid (add_plain rfl rfl rfl rfl)).trans
   simp [gathered,hpresent]
 · rename_i habsent
   have hempty:m.structuredOutput = .empty:=by
    cases hm : m.structuredOutput with
    | empty => rfl
    | _ => simp [hm,RawMessage.isEmpty] at habsent
   split
   · rename_i hcontent
     have hvalid:({ text:=m.content } : StreamDelta).validate=none := by
      simp [StreamDelta.validate,StreamDelta.isEmpty,ModelReasoning.validate,
       RawMessage.storable,hcontent]
     apply (gathered_cons [] hvalid (add_plain rfl rfl rfl rfl)).trans
     simp [gathered,hempty,RawMessage.isEmpty]
   · rename_i hcontent
     simp [gathered,hempty,RawMessage.isEmpty,not_not.mp hcontent]

def adapted (r : MeteredResponse) : Received :=
 { payload r.message with finishReason := r.finishReason }

lemma gathered_adapted {r} (hvalid:ModelResponse.validate r.toModelResponse=none)
  (hcalls:Encoded r.message.toolCalls) : gathered (adaptedDeltas r) {} = some (adapted r) := by
 obtain ⟨hmessage,hreason,hinvalid⟩:=finishReason_of_validate hvalid
 have hset:r.finishReason ≠ .unset:=by
  intro hunset
  rw [hunset] at hreason
  cases hreason
 have hterminal:(terminalMetered r).validate=none:=by
  simp [StreamDelta.validate,StreamDelta.isEmpty,terminalMetered,hset,hreason,hinvalid,
   ModelReasoning.validate,RawMessage.storable]
 rw [adaptedDeltas,responseToStreamReader,map_append,map_append,map_map,append_assoc]
 refine (gathered_append _ (gathered_calls (fun call hcall=>(hcalls call hcall).1) rfl)).trans ?_
 apply (gathered_append _ (gathered_payload (storable_of_validate hmessage).1)).trans
 apply (gathered_cons [] hterminal (add_plain rfl rfl rfl rfl)).trans
 simp [gathered,adapted,payload,terminalMetered,hset,RawMessage.isEmpty]

lemma receivedUsage_adapted (r) : receivedUsage (responseToStreamReader r).deltas=r.usage := by
 have hquiet:∀ (ds : List MeteredDelta),(∀ d ∈ ds,d.usage = {}) →
   receivedUsage (ds ++ [terminalMetered r])=r.usage := by
  intro ds hds
  have hfold:∀ u,ds.foldl (fun usage d=>if d.usage ≠ {} then d.usage else usage) u=u:=by
   intro u
   induction ds with
   | nil => rfl
   | cons d ds ih =>
    obtain ⟨hd,hds⟩:=forall_mem_cons.mp hds
    rw [foldl_cons,if_neg (not_not.mpr hd)]
    exact ih hds
  rw [receivedUsage,foldl_append,hfold]
  simp only [foldl_cons,foldl_nil,terminalMetered]
  split
  · rfl
  · rename_i hzero
    exact (not_not.mp hzero).symm
 apply hquiet _
 intro d hd
 rcases mem_append.mp hd with hd | hd
 · obtain ⟨call,_,rfl⟩:=mem_map.mp hd
   rfl
 · unfold payloadDeltas at hd
   split at hd
   · rw [mem_singleton.mp hd]
   split at hd
   · rw [mem_singleton.mp hd]
   · cases hd

def Rebuilt {σ : Type} (h : Answers σ) (a : Agent) (f : RunFrame) (step : Nat) (stepID : StepID)
  (r : MeteredResponse) (s : σ) : Prop :=
 ∃ r' : ModelResponse,
  (receiveDeltas a f step stepID (responseToStreamReader r).failure (adaptedDeltas r) {}).answer h
   s = some (.ok r', s) ∧
  r'.message = r.message ∧ r'.finishReason = r.finishReason ∧
  receivedUsage (responseToStreamReader r).deltas = r.usage

section

variable {σ:Type} {h:Answers σ} {a:Agent} {f:RunFrame} {step:Nat} {stepID:StepID}

lemma answer_adapted (hd:Delivers h) (hno:a.processors=[]) {s:σ}
  (halive:h (.runtime (.step .ctxErr)) s=some (none,s)) {r:MeteredResponse}
  (hvalid:ModelResponse.validate r.toModelResponse=none)
  (hcalls:Encoded r.message.toolCalls) :
  (receiveDeltas a f step stepID (responseToStreamReader r).failure (adaptedDeltas r) {}).answer h
   s=match (adapted r).response with
    | (r,some e) => some (.error (failWith r.message e),s)
    | (r,none) => some (.ok r,s) := by
 have hgathered:=gathered_adapted hvalid hcalls
 rw [answer_receiveDeltas hd hno halive _ hgathered]
 refine (answer_perform (S := AgentSig) halive).trans ?_
 rcases (adapted r).response with ⟨r',_ | e⟩ <;> rfl

lemma response_of_nodup {r} (hreason:r.finishReason ≠ .unset)
  (hcalls:Encoded r.message.toolCalls)
  (hnodup:(r.message.toolCalls.map ModelToolCall.id).Nodup) :
  (adapted r).response=(⟨{ (payload r.message).message with
   toolCalls := r.message.toolCalls },r.finishReason,.empty,none⟩,none) := by
 have hmade:newModelToolCalls (adapted r).toolCalls = .ok r.message.toolCalls:=
  newModelToolCalls_of_encoded hcalls hnodup
 have hfinish:(if (adapted r).finishReason = .unset then .unspecified
   else (adapted r).finishReason)=r.finishReason := if_neg hreason
 rw [Received.response,hmade,hfinish]
 rfl

lemma response_of_duplicate {r} (hduplicate:¬ (r.message.toolCalls.map ModelToolCall.id).Nodup) :
  ∃ e,(adapted r).response.2=some e := by
 cases hmade : newModelToolCalls (adapted r).toolCalls with
 | ok calls =>
  unfold newModelToolCalls at hmade
  split at hmade
  · cases hmade
  · rename_i hcheck
    exact absurd (checkToolCalls_none.mp hcheck).2.1 hduplicate
 | error e => exact ⟨malformedResponse e,by rw [Received.response,hmade]⟩

lemma isZero_iff (reasoning:ModelReasoning) : reasoning.isZero=true ↔ reasoning = {} := by
 obtain ⟨text,details⟩:=reasoning
 cases details <;> simp [ModelReasoning.isZero,RawMessage.isEmpty]

lemma assistant_of_validate {r} (hvalid:ModelResponse.validate r=none) :
  r.message.role = .assistant ∧ r.message.contentParts=[] ∧ r.message.toolCallID = "" := by
 have hmessage:=(finishReason_of_validate hvalid).1
 have hrole:r.message.role = .assistant:=by
  unfold ModelResponse.validate at hvalid
  grind
 unfold Message.validate at hmessage
 rw [hrole] at hmessage
 refine ⟨hrole,?_,?_⟩ <;> grind

lemma payload_message_eq {m} (hrole:m.role = .assistant) (hparts:m.contentParts=[])
  (hid:m.toolCallID = "") :
  { (payload m).message with toolCalls := m.toolCalls } = m ↔
    m.reasoning.isZero=true ∧ (m.content = "" ∨ m.structuredOutput.isEmpty=true) := by
 obtain ⟨role,content,reasoning,parts,toolCallID,calls,structured⟩:=m
 cases hrole
 cases hparts
 cases hid
 rw [isZero_iff]
 simp only [payload,Received.message,Message.mk.injEq,true_and,and_true]
 constructor
 · rintro ⟨hcontent,hreasoning⟩
   refine ⟨hreasoning.symm,?_⟩
   split at hcontent
   · rename_i hempty
     exact .inr hempty
   · exact .inl hcontent.symm
 · rintro ⟨hreasoning,hcontent⟩
   refine ⟨?_,hreasoning.symm⟩
   split
   · rfl
   · rename_i hpresent
     exact (hcontent.resolve_right hpresent).symm

/-- A valid response comes back exactly when it has no reasoning, not both content and structured
output, and no two tool calls with one ID. -/
theorem adapted_response_rebuilt_iff (hd : Delivers h) (hno : a.processors = []) (s : σ)
  (halive : h (.runtime (.step .ctxErr)) s = some (none, s)) (r : MeteredResponse)
  (hvalid : ModelResponse.validate r.toModelResponse = none)
  (hcalls : Encoded r.message.toolCalls) :
  Rebuilt h a f step stepID r s ↔
   r.message.reasoning.isZero = true ∧
    (r.message.content = "" ∨ r.message.structuredOutput.isEmpty = true) ∧
    (r.message.toolCalls.map ModelToolCall.id).Nodup := by
 obtain ⟨_,hreason,_⟩:=finishReason_of_validate hvalid
 obtain ⟨hrole,hparts,hid⟩:=assistant_of_validate hvalid
 have hset:r.finishReason ≠ .unset := by
  intro hunset
  rw [hunset] at hreason
  cases hreason
 rw [← and_assoc,← payload_message_eq hrole hparts hid,Rebuilt,
  answer_adapted hd hno halive hvalid hcalls]
 by_cases hnodup : (r.message.toolCalls.map ModelToolCall.id).Nodup
 · rw [response_of_nodup hset hcalls hnodup]
   constructor
   · rintro ⟨r',hr',hmessage,_,_⟩
     cases hr'
     exact ⟨hmessage,hnodup⟩
   · rintro ⟨hmessage,_⟩
     exact ⟨_,rfl,hmessage,rfl,receivedUsage_adapted r⟩
 · obtain ⟨e,he⟩:=response_of_duplicate hnodup
   rw [show (adapted r).response = ((adapted r).response.1,some e) from Prod.ext rfl he]
   constructor
   · rintro ⟨r',hr',_⟩
     cases hr'
   · rintro ⟨_,hnodup'⟩
     exact absurd hnodup' hnodup

end

def plainResponse : MeteredResponse where
 message := { role := .assistant, content := "done" }
 finishReason := .stop
 usage := { outputTokens := 2 }

def reasonedResponse : MeteredResponse where
 message := { role := .assistant, content := "done", reasoning := ⟨"because", .empty⟩ }
 finishReason := .stop

def structuredResponse : MeteredResponse where
 message := { role := .assistant, content := "done", structuredOutput := .json (.bool true) }
 finishReason := .stop

lemma answering_delivers : Delivers (answering chosen doneReply) := ⟨fun _ _=>rfl,fun _ _=>rfl⟩

theorem plain_response_rebuilt :
  Rebuilt (answering chosen doneReply) streamingAgent streamingFrame 1 "s" plainResponse () :=
 (adapted_response_rebuilt_iff answering_delivers rfl () rfl plainResponse rfl nofun).mpr
  ⟨rfl,.inr rfl,nodup_nil⟩

/-- Both responses are valid; one comes back without its reasoning, the other without its text. -/
theorem reasoning_and_text_lost : (ModelResponse.validate reasonedResponse.toModelResponse = none ∧
   (receiveDeltas streamingAgent streamingFrame 1 "s" none (adaptedDeltas reasonedResponse)
    {}).answer (answering chosen doneReply) () =
     some (.ok ⟨{ role := .assistant, content := "done" }, .stop, .empty, none⟩, ())) ∧
  ModelResponse.validate structuredResponse.toModelResponse = none ∧
   (receiveDeltas streamingAgent streamingFrame 1 "s" none (adaptedDeltas structuredResponse)
    {}).answer (answering chosen doneReply) () =
     some (.ok ⟨{ role := .assistant, structuredOutput := .json (.bool true) }, .stop, .empty,
      none⟩, ()) :=
 ⟨⟨rfl,rfl⟩,rfl,rfl⟩

end Lebro.StreamAdapters
