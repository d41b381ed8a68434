import Lebro.ModelRouting

set_option autoImplicit false

namespace Lebro.HttpStreams

open RuntimeTypes RuntimeRecords AgentEffects ModelRouting List

inductive ErrorCode where
 | invalidRequest
 | invalidInput
 | notFound
 | invalidOutput
 | toolFailure
 | stepFailure
 | providerFailure
 | timeout
 | stepLimitExhausted
 | cancelled
 | methodNotAllowed
 | internal
deriving DecidableEq

def publicMessage : ErrorCode → String
 | .invalidRequest => "the request body is malformed or missing required fields"
 | .invalidInput => "the request failed schema validation"
 | .notFound => "the requested resource does not exist"
 | .invalidOutput => "the run produced output that failed schema validation"
 | .toolFailure => "a tool failed during the run"
 | .stepFailure => "a workflow step failed during the run"
 | .providerFailure => "the model provider failed"
 | .timeout => "the model provider timed out"
 | .stepLimitExhausted => "the run reached its step limit without completing"
 | .cancelled => "the run was cancelled"
 | .methodNotAllowed => "the method is not allowed for this route"
 | .internal => "the server failed to complete the request"

structure ErrorBody where
 code : ErrorCode
 message : String

def errorBody (code : ErrorCode) : ErrorBody := ⟨code, publicMessage code⟩

/-- The targets that `classify` looks for with `errors.Is`. -/
inductive RunFault where
 | agentTimeout
 | canceled
 | deadlineExceeded
 | agentCancelled
 | workflowCancelled
 | agentUnknownTool
 | toolNotFound
 | notFound
 | agentInvalidToolArguments
 | workflowInvalidStepInput
 | workflowInvalidBranchInput
 | workflowInvalidFanOutInput
 | agentInvalidToolOutput
 | agentInvalidStructuredOutput
 | workflowInvalidStepOutput
 | agentStepLimitExhausted
 | agentToolFailure
 | agentProviderFailure
 | workflowStepFailure
 | workflowStepPanicked
 | workflowNoBranchMatched
 | workflowBranchConditionFailed
 | workflowFanOutBranchFailed
 | workflowFanOutInputMapperFailed
deriving DecidableEq

/-- A run's error, by the targets that it matches. -/
abbrev RunFailure := List RunFault

/-- The groups of targets in the order in which `classify` tries them. -/
def classes : List (List RunFault × ErrorCode) :=
 [([.agentTimeout], .timeout),
   ([.canceled, .deadlineExceeded, .agentCancelled, .workflowCancelled], .cancelled),
   ([.agentUnknownTool, .toolNotFound, .notFound], .notFound),
   ([.agentInvalidToolArguments, .workflowInvalidStepInput, .workflowInvalidBranchInput,
     .workflowInvalidFanOutInput], .invalidInput),
   ([.agentInvalidToolOutput, .agentInvalidStructuredOutput, .workflowInvalidStepOutput],
     .invalidOutput),
   ([.agentStepLimitExhausted], .stepLimitExhausted),
   ([.agentToolFailure], .toolFailure),
   ([.agentProviderFailure], .providerFailure),
   ([.workflowStepFailure, .workflowStepPanicked, .workflowNoBranchMatched,
     .workflowBranchConditionFailed, .workflowFanOutBranchFailed,
     .workflowFanOutInputMapperFailed], .stepFailure)]

def classify (failure : RunFailure) : ErrorCode :=
 match classes.find? fun group => group.1.any failure.contains with
 | some group => group.2
 | none => .internal

inductive EventName where
 | modelDelta
 | runSucceeded
 | runFailed
 | runCancelled
deriving DecidableEq

def EventName.text : EventName → String
 | .modelDelta => "model_delta"
 | .runSucceeded => "run_succeeded"
 | .runFailed => "run_failed"
 | .runCancelled => "run_cancelled"

structure Usage where
 inputTokens : Int
 outputTokens : Int
 reasoningTokens : Int
 totalTokens : Int

def usageFromModel (usage : ModelUsage) : Usage where
 inputTokens := usage.inputTokens
 outputTokens := usage.outputTokens
 reasoningTokens := usage.reasoningTokens
 totalTokens := usage.totalTokens

structure WirePart where
 kind : StreamContentPartKind
 text : String

structure ToolCallEvent where
 id : String
 toolID : ToolID
 arguments : RawMessage

structure StreamEvent where
 type : EventName
 runID : RunID := ""
 parts : List WirePart := []
 text : String := ""
 reasoning : String := ""
 toolCall : Option ToolCallEvent := none
 structuredOutput : RawMessage := .empty
 finishReason : FinishReason := .unset
 status : String := ""
 usage : Option Usage := none
 error : Option ErrorBody := none

structure RunResponse where
 runID : RunID := ""
 status : String := ""
 content : String := ""
 reasoning : String := ""
 structuredOutput : RawMessage := .empty

abbrev Redactor := MeteredDelta → MeteredDelta

def clearPart (text reasoningText reasoningDetails : Bool) (part : StreamContentPart) :
  Option StreamContentPart :=
 match part.kind with
 | .text => if text then none else some part
 | .reasoning =>
  let part := if reasoningText then { part with text := "" } else part
  let part := if reasoningDetails then { part with reasoningDetails := .empty } else part
  if part.text = "" ∧ part.reasoningDetails.isEmpty then none else some part
 | .other _ => some part

def redactStreamDelta (redactor : Redactor) (delta : MeteredDelta) : MeteredDelta :=
 let redacted := redactor delta
 if delta.parts.isEmpty ∨ redacted.parts.isEmpty then redacted
 else
  let text := delta.text ≠ "" ∧ redacted.text = ""
  let reasoningText := delta.reasoning.text ≠ "" ∧ redacted.reasoning.text = ""
  let reasoningDetails := !delta.reasoning.details.isEmpty && redacted.reasoning.details.isEmpty
  if ¬ text ∧ ¬ reasoningText ∧ ¬ reasoningDetails then redacted
  else { redacted with
   parts := redacted.parts.filterMap (clearPart text reasoningText reasoningDetails) }

def defaultRedactor : Redactor := fun delta =>
 { delta with
   reasoning := {}
   parts := delta.parts.filter fun part => part.kind = .text
   toolCall := delta.toolCall.map fun call => { call with arguments := .empty } }

def passthroughRedactor : Redactor := id

def redactedReasoningText (redactor : Redactor) (reasoning : String) : String :=
 if reasoning = "" then "" else (redactor { reasoning := { text := reasoning } }).reasoning.text

def lastAssistant (messages : List Message) : Option Message :=
 messages.reverse.find? fun message => message.role = .assistant

def runResponseFromResult (result : RunResult) (redactor : Redactor) : RunResponse :=
 match lastAssistant result.messages with
 | none => { runID := result.id, status := result.status.text }
 | some message =>
  { runID := result.id
    status := result.status.text
    content := message.content
    reasoning := redactedReasoningText redactor message.reasoning.text
    structuredOutput := message.structuredOutput }

def streamEventFromDelta (delta : MeteredDelta) : StreamEvent where
 type := .modelDelta
 text := delta.text
 reasoning := delta.reasoning.text
 finishReason := delta.finishReason
 parts := (delta.parts.filter fun part => part.text ≠ "").map fun part => ⟨part.kind, part.text⟩
 structuredOutput := delta.structuredOutput
 toolCall := delta.toolCall.map fun call => ⟨call.id, call.toolID, call.arguments⟩
 usage := if delta.usage ≠ {} then some (usageFromModel delta.usage) else none

def hasStreamableContent (delta : MeteredDelta) : Bool :=
 delta.parts.any (fun part => part.text ≠ "") || delta.text ≠ "" || delta.reasoning.text ≠ "" ||
  delta.toolCall.isSome || !delta.structuredOutput.isEmpty || delta.finishReason ≠ .unset ||
  delta.usage ≠ {}

structure Frame where
 name : EventName
 event : StreamEvent

structure Wire where
 frames : List Frame
 room : Option Nat

def writeFrame (w : Wire) (frame : Frame) : Wire × Bool :=
 match w.room with
 | none => ({ w with frames := w.frames ++ [frame] }, true)
 | some (room + 1) => (⟨w.frames ++ [frame], some room⟩, true)
 | some 0 => (w, false)

def StreamEvent.marshals (event : StreamEvent) : Bool :=
 event.structuredOutput.storable && event.toolCall.all fun call => call.arguments.storable

def internalFailure : Frame :=
 ⟨.runFailed, { type := .runFailed, error := some (errorBody .internal) }⟩

def writeEvent (w : Wire) (name : EventName) (event : StreamEvent) : Wire × Bool :=
 if event.marshals then writeFrame w ⟨name, event⟩ else ((writeFrame w internalFailure).1, false)

def accumulateUsage (total usage : ModelUsage) : ModelUsage :=
 { total with
   inputTokens := total.inputTokens + usage.inputTokens
   outputTokens := total.outputTokens + usage.outputTokens
   reasoningTokens := total.reasoningTokens + usage.reasoningTokens
   totalTokens := total.totalTokens + usage.totalTokens }

def writeDeltas (redactor : Redactor) : List MeteredDelta → ModelUsage → Wire →
  Wire × Option ModelUsage
 | [], total, w => (w, some total)
 | delta :: deltas, total, w =>
  let redacted := redactStreamDelta redactor delta
  if hasStreamableContent redacted then
   match writeEvent w .modelDelta (streamEventFromDelta redacted) with
   | (w, true) => writeDeltas redactor deltas (accumulateUsage total delta.usage) w
   | (w, false) => (w, none)
  else writeDeltas redactor deltas (accumulateUsage total delta.usage) w

/-- What `RunStream` delivers: the deltas, and the result and error of `Wait`. -/
structure AgentRun where
 deltas : List MeteredDelta
 result : RunResult
 failure : Option RunFailure

def terminalName (run : AgentRun) : EventName :=
 match run.failure with
 | some failure => if classify failure = .cancelled then .runCancelled else .runFailed
 | none =>
  match run.result.status with
  | .cancelled => .runCancelled
  | .failed => .runFailed
  | _ => .runSucceeded

def terminalError (run : AgentRun) : Option ErrorBody :=
 match run.failure with
 | some failure => some (errorBody (classify failure))
 | none => if run.result.status = .failed then some (errorBody .internal) else none

def terminalResponse (redactor : Redactor) (run : AgentRun) : RunResponse :=
 match run.failure with
 | some _ => {}
 | none => runResponseFromResult run.result redactor

def terminalEvent (redactor : Redactor) (run : AgentRun) (total : ModelUsage) : StreamEvent where
 type := terminalName run
 runID := run.result.id
 status := run.result.status.text
 usage := if total ≠ {} then some (usageFromModel total) else none
 error := terminalError run
 text := (terminalResponse redactor run).content
 reasoning := (terminalResponse redactor run).reasoning
 structuredOutput := (terminalResponse redactor run).structuredOutput

def writeTerminalEvent (redactor : Redactor) (run : AgentRun) (total : ModelUsage) (w : Wire) :
  Wire :=
 (writeEvent w (terminalName run) (terminalEvent redactor run total)).1

def handleAgentStream (redactor : Redactor) (run : AgentRun) (room : Option Nat) : List Frame :=
 match writeDeltas redactor run.deltas {} ⟨[], room⟩ with
 | (w, some total) => (writeTerminalEvent redactor run total w).frames
 | (w, none) => w.frames

structure EventContent where
 parts : List WirePart := []
 text : String := ""
 reasoning : String := ""
 structuredOutput : RawMessage := .empty
 arguments : Option RawMessage := none

def content (event : StreamEvent) : EventContent where
 parts := event.parts
 text := event.text
 reasoning := event.reasoning
 structuredOutput := event.structuredOutput
 arguments := event.toolCall.map ToolCallEvent.arguments

/-- A delta that the redactor returned while the run was served: for a delta of the run, or for the
reasoning of the terminal event. -/
inductive Returned (redactor : Redactor) (run : AgentRun) : MeteredDelta → Prop where
 | delta (delta : MeteredDelta) (h : delta ∈ run.deltas) : Returned redactor run (redactor delta)
 | reasoning (message : Message) (h : lastAssistant run.result.messages = some message) :
   Returned redactor run (redactor { reasoning := { text := message.reasoning.text } })

structure Covered (P : MeteredDelta → Prop) (c : EventContent) : Prop where
 parts : ∀ part ∈ c.parts, ∃ delta, P delta ∧
  ∃ source ∈ delta.parts, source.kind = part.kind ∧ source.text = part.text
 text : c.text ≠ "" → ∃ delta, P delta ∧ delta.text = c.text
 reasoning : c.reasoning ≠ "" → ∃ delta, P delta ∧ delta.reasoning.text = c.reasoning
 structuredOutput : c.structuredOutput ≠ .empty →
  ∃ delta, P delta ∧ delta.structuredOutput = c.structuredOutput
 arguments : ∀ arguments, c.arguments = some arguments →
  ∃ delta, P delta ∧ ∃ call, delta.toolCall = some call ∧ call.arguments = arguments

/-- Wherever the connection breaks, every frame of the stream is covered by deltas that the
redactor returned. -/
def Covers (redactor : Redactor) (run : AgentRun) : Prop :=
 ∀ room, ∀ frame ∈ handleAgentStream redactor run room,
  Covered (Returned redactor run) (content frame.event)

def SameContent (redactor : Redactor) (run run' : AgentRun) : Prop :=
 ∀ room, (handleAgentStream redactor run room).map (fun frame => content frame.event) =
  (handleAgentStream redactor run' room).map fun frame => content frame.event

/-- Coverage of both runs, and the same content where the redactor makes their deltas equal. -/
def Redacted (redactor : Redactor) (run run' : AgentRun) : Prop :=
 Covers redactor run ∧ Covers redactor run' ∧
  (run.deltas.map redactor = run'.deltas.map redactor → SameContent redactor run run')

def removes (text reasoning : Bool) : StreamContentPartKind → Bool
 | .text => text
 | .reasoning => reasoning
 | .other _ => false

/-- Where the redactor clears the text or the reasoning of a delta, the parts of that kind go too. -/
def clears (redactor : Redactor) (delta : MeteredDelta) (kind : StreamContentPartKind) : Bool :=
 !delta.parts.isEmpty && removes (delta.text ≠ "" ∧ (redactor delta).text = "")
  (delta.reasoning.text ≠ "" ∧ (redactor delta).reasoning.text = "") kind

/-- The redacted delta with the parts that have a text and are not cleared. -/
def kept (redactor : Redactor) (delta : MeteredDelta) : MeteredDelta :=
 { redactor delta with
   parts := (redactor delta).parts.filter fun part =>
    part.text ≠ "" ∧ clears redactor delta part.kind = false }

def keptEvents (redactor : Redactor) (run : AgentRun) : List StreamEvent :=
 ((run.deltas.map (kept redactor)).filter hasStreamableContent).map streamEventFromDelta

/-- The contents of the deltas up to the first event with malformed JSON, which ends a stream. -/
def shown (redactor : Redactor) (run : AgentRun) : List EventContent :=
 ((keptEvents redactor run).takeWhile StreamEvent.marshals).map content

def lastTurn (run : AgentRun) : Option Message :=
 match run.failure with
 | some _ => none
 | none => lastAssistant run.result.messages

def turnContent (redactor : Redactor) (message : Message) : EventContent where
 text := message.content
 reasoning := redactedReasoningText redactor message.reasoning.text
 structuredOutput := message.structuredOutput

/-- The content of the event that ends the stream: the last turn, unless an error or malformed JSON
ended it. -/
def closing (redactor : Redactor) (run : AgentRun) : EventContent :=
 ((lastTurn run).filter fun message => (keptEvents redactor run).all StreamEvent.marshals &&
  message.structuredOutput.storable).elim {} (turnContent redactor)

/-- The end of the stream has no text or structured output but what a delta of the redactor has. -/
def Vouched (redactor : Redactor) (run : AgentRun) : Prop :=
 ((closing redactor run).text ≠ "" →
  ∃ delta, Returned redactor run delta ∧ delta.text = (closing redactor run).text) ∧
 ((closing redactor run).structuredOutput ≠ .empty → ∃ delta, Returned redactor run delta ∧
  delta.structuredOutput = (closing redactor run).structuredOutput)

section

variable {redactor : Redactor} {run : AgentRun}

def wirePart (part : StreamContentPart) : Option WirePart :=
 if part.text ≠ "" then some ⟨part.kind, part.text⟩ else none

lemma wireParts_eq (parts:List StreamContentPart) :
  ((parts.filter fun part=>part.text ≠ "").map fun part=>(⟨part.kind,part.text⟩ : WirePart)) =
   parts.filterMap wirePart := by
 induction parts with
 | nil => rfl
 | cons part parts ih => by_cases h : part.text="" <;> simp_all [wirePart]

lemma wirePart_clear {part:StreamContentPart} {text reasoning details:Bool} :
  (clearPart text reasoning details part).bind wirePart =
   if removes text reasoning part.kind=false then wirePart part else none := by
 obtain ⟨kind,partText,partDetails⟩:=part
 cases kind with
 | text => cases text <;> simp [clearPart,removes]
 | reasoning =>
  cases reasoning <;> cases details <;> by_cases h : partText="" <;>
   by_cases hd : partDetails.isEmpty <;> simp [clearPart,wirePart,removes,h,hd]
 | other s => simp [clearPart,removes]

lemma filterMap_kept (redactor delta) : (kept redactor delta).parts.filterMap wirePart =
  (redactor delta).parts.filterMap fun part =>
   if clears redactor delta part.kind=false then wirePart part else none := by
 unfold kept
 induction (redactor delta).parts with
 | nil => rfl
 | cons part parts ih =>
  by_cases htext : part.text="" <;> cases hclears : clears redactor delta part.kind <;>
   simp_all [wirePart]

lemma redactStreamDelta_parts (redactor delta) :
  (redactStreamDelta redactor delta).parts.filterMap wirePart =
   (kept redactor delta).parts.filterMap wirePart := by
 rw [filterMap_kept]
 unfold redactStreamDelta
 dsimp only
 split
 · rename_i hempty
   rcases hempty with hempty | hempty
   · simp [clears,hempty]
   · simp [List.isEmpty_iff.mp hempty]
 · rename_i hparts
   have hfull:delta.parts.isEmpty=false:=by simpa using fun h=>hparts (.inl h)
   split
   · rename_i hnone
     have hnot (kind) : clears redactor delta kind=false := by
      cases kind <;> simp_all [clears,removes]
     simp [hnot]
   · dsimp only
     rw [filterMap_filterMap]
     apply filterMap_congr
     intro part _
     rw [wirePart_clear]
     simp [clears,hfull]

/-- What `redactStreamDelta` sends is the kept delta. -/
lemma redacted_event (redactor delta) :
  streamEventFromDelta (redactStreamDelta redactor delta) =
   streamEventFromDelta (kept redactor delta) ∧
  hasStreamableContent (redactStreamDelta redactor delta) =
   hasStreamableContent (kept redactor delta) := by
 obtain ⟨parts,hsame⟩ : ∃ parts,redactStreamDelta redactor delta =
   { redactor delta with parts } := by
  unfold redactStreamDelta
  dsimp only
  split
  · exact ⟨_,rfl⟩
  · split
    · exact ⟨_,rfl⟩
    · exact ⟨_,rfl⟩
 have hparts:=redactStreamDelta_parts redactor delta
 have hany (parts : List StreamContentPart) :
   parts.any (fun part=>part.text ≠ "")=!(parts.filterMap wirePart).isEmpty := by
  induction parts with
  | nil => rfl
  | cons part parts ih => by_cases h : part.text="" <;> simp_all [wirePart]
 rw [hsame] at hparts ⊢
 simp only [streamEventFromDelta,hasStreamableContent,wireParts_eq,hany,hparts,kept]
 exact ⟨rfl,rfl⟩

def cut (room : Option Nat) (frames : List Frame) : List Frame :=
 match room with
 | none => frames
 | some room => frames.take room

def totalUsage (run : AgentRun) : ModelUsage :=
 run.deltas.foldl (fun total delta => accumulateUsage total delta.usage) {}

def served (terminal : ModelUsage → Wire → Wire) : Wire × Option ModelUsage → List Frame
 | (w, some total) => (terminal total w).frames
 | (w, none) => w.frames

/-- The frames on a connection that does not break. -/
def frames (last : Frame) (events : List StreamEvent) : List Frame :=
 (events.takeWhile StreamEvent.marshals).map (⟨.modelDelta, ·⟩) ++
  [if events.all StreamEvent.marshals then last else internalFailure]

lemma frames_cons {last event events} (h:event.marshals=true) :
  frames last (event :: events)=⟨.modelDelta,event⟩ :: frames last events := by
 simp [frames,h]

lemma frames_malformed {last event events} (h:event.marshals=false) :
  frames last (event :: events)=[internalFailure] := by
 simp [frames,h]

lemma writeFrame_frames (sent room) (frame:Frame) :
  (writeFrame ⟨sent,room⟩ frame).1.frames=sent++cut room [frame] := by
 rcases room with _ | _ | room <;> simp [writeFrame,cut]

lemma served_writeDeltas {deltas last} (terminal total sent room)
  (hlast:∀ w,terminal (deltas.foldl
   (fun total delta=>accumulateUsage total delta.usage) total) w=(writeFrame w last).1) :
  served terminal (writeDeltas redactor deltas total ⟨sent,room⟩)=sent++cut room (frames last
   (((deltas.map (kept redactor)).filter hasStreamableContent).map streamEventFromDelta)) := by
 induction deltas generalizing total sent room with
 | nil => exact (congrArg Wire.frames (hlast _)).trans (writeFrame_frames sent room last)
 | cons delta deltas ih =>
  have hrest:=fun sent room=>ih _ sent room hlast
  unfold writeDeltas
  dsimp only
  rw [(redacted_event redactor delta).1,(redacted_event redactor delta).2]
  cases hcontent : hasStreamableContent (kept redactor delta) with
  | false =>
   rw [if_neg Bool.false_ne_true,hrest]
   simp [hcontent]
  | true =>
   rw [if_pos rfl,map_cons,filter_cons_of_pos hcontent,map_cons,writeEvent]
   cases hmarshals : (streamEventFromDelta (kept redactor delta)).marshals with
   | false =>
    rw [if_neg Bool.false_ne_true,frames_malformed hmarshals]
    exact writeFrame_frames sent room internalFailure
   | true =>
    rw [if_pos rfl,frames_cons hmarshals]
    -- the frame goes out unless the connection has no room left
    rcases room with _ | _ | room
    · dsimp only [writeFrame]
      rw [hrest]
      simp [cut]
    · simp [writeFrame,served,cut]
    · dsimp only [writeFrame]
      rw [hrest]
      simp [cut]

def terminalFrame (redactor : Redactor) (run : AgentRun) : Frame :=
 if (terminalEvent redactor run (totalUsage run)).marshals then
  ⟨terminalName run, terminalEvent redactor run (totalUsage run)⟩
 else internalFailure

lemma handleAgentStream_eq (redactor run room) : handleAgentStream redactor run room =
  cut room (frames (terminalFrame redactor run) (keptEvents redactor run)) := by
 refine served_writeDeltas (writeTerminalEvent redactor run) {} [] room fun w=>?_
 change (writeEvent w (terminalName run) (terminalEvent redactor run (totalUsage run))).1=_
 unfold writeEvent terminalFrame
 split <;> rfl

lemma content_terminal (redactor run) : content (terminalFrame redactor run).event =
  ((lastTurn run).filter fun message=>message.structuredOutput.storable).elim {}
   (turnContent redactor) := by
 unfold terminalFrame StreamEvent.marshals terminalEvent lastTurn terminalResponse
 cases run.failure with
 | some failure => rfl
 | none =>
  unfold runResponseFromResult
  cases lastAssistant run.result.messages with
  | none => rfl
  | some message => cases h : message.structuredOutput.storable <;> simp [h,Option.filter_some] <;> rfl

lemma content_last (redactor run) :
  content (if (keptEvents redactor run).all StreamEvent.marshals then
   terminalFrame redactor run else internalFailure).event=closing redactor run := by
 unfold closing
 cases hall : (keptEvents redactor run).all StreamEvent.marshals with
 | true =>
  rw [if_pos rfl,content_terminal]
  simp only [Bool.true_and]
 | false =>
  simp only [Bool.false_and,Bool.false_eq_true,if_false]
  cases lastTurn run <;> rfl

end

section

variable {redactor : Redactor} {run run' : AgentRun}

lemma covered_delta {delta} (h:delta ∈ run.deltas) :
  Covered (Returned redactor run) (content (streamEventFromDelta (kept redactor delta))) := by
 have hreturned:Returned redactor run (redactor delta):=.delta delta h
 refine ⟨?_,fun _=>⟨_,hreturned,rfl⟩,fun _=>⟨_,hreturned,rfl⟩,
  fun _=>⟨_,hreturned,rfl⟩,?_⟩
 · intro part hpart
   obtain ⟨source,hsource,rfl⟩:=mem_map.mp hpart
   exact ⟨_,hreturned,source,(mem_filter.mp (mem_filter.mp hsource).1).1,rfl,rfl⟩
 · intro arguments harguments
   obtain ⟨call,hcall,rfl⟩:=Option.map_eq_some_iff.mp harguments
   obtain ⟨source,hsource,rfl⟩:=Option.map_eq_some_iff.mp hcall
   exact ⟨_,hreturned,source,hsource,rfl⟩

lemma covered_empty {P:MeteredDelta → Prop} : Covered P {} where
 parts _ h := by cases h
 text h := (h rfl).elim
 reasoning h := (h rfl).elim
 structuredOutput h := (h rfl).elim
 arguments _ h := by cases h

lemma lastAssistant_of_lastTurn {message} (h:lastTurn run=some message) :
  lastAssistant run.result.messages=some message := by
 unfold lastTurn at h
 split at h
 · cases h
 · exact h

lemma covered_closing_iff :
  Covered (Returned redactor run) (closing redactor run) ↔ Vouched redactor run := by
 refine ⟨fun h=>⟨h.text,h.structuredOutput⟩,?_⟩
 unfold Vouched closing
 cases hmessage : lastTurn run with
 | none => exact fun _=>covered_empty
 | some message =>
  rw [Option.filter_some]
  split
  · rintro ⟨htext,houtput⟩
    refine ⟨nofun,htext,fun hreasoning=>?_,houtput,nofun⟩
    refine ⟨_,.reasoning message (lastAssistant_of_lastTurn hmessage),?_⟩
    dsimp only [Option.elim_some,turnContent,redactedReasoningText] at hreasoning ⊢
    split at hreasoning
    · exact (hreasoning rfl).elim
    · rename_i hne
      rw [if_neg hne]
  · exact fun _=>covered_empty

lemma mem_cut {room frames frame} (h:frame ∈ cut room frames) : frame ∈ frames := by
 cases room with
 | none => exact h
 | some room => exact mem_of_mem_take h

lemma covers_iff : Covers redactor run ↔ Vouched redactor run := by
 rw [← covered_closing_iff,← content_last]
 constructor
 · intro hcovers
   apply hcovers none _
   rw [handleAgentStream_eq]
   exact mem_append_right _ (mem_singleton_self _)
 · intro hcovered room frame hframe
   rw [handleAgentStream_eq] at hframe
   rcases mem_append.mp (mem_cut hframe) with hframe | hframe
   · obtain ⟨event,hevent,rfl⟩:=mem_map.mp hframe
     obtain ⟨redacted,hredacted,rfl⟩:=mem_map.mp (( takeWhile_prefix _).subset hevent)
     obtain ⟨delta,hdelta,rfl⟩:=mem_map.mp (mem_filter.mp hredacted).1
     exact covered_delta hdelta
   · obtain rfl := mem_singleton.mp hframe
     exact hcovered

lemma contents_eq (redactor run) : (frames (terminalFrame redactor run)
  (keptEvents redactor run)).map (fun frame=>content frame.event) =
   shown redactor run ++ [closing redactor run] := by
 rw [frames,map_append,map_map,map_singleton,content_last]
 rfl

lemma sameContent_iff : SameContent redactor run run' ↔
  shown redactor run=shown redactor run' ∧ closing redactor run=closing redactor run' := by
 have hcut (run : AgentRun) (room) : (handleAgentStream redactor run room).map
   (fun frame=>content frame.event) = room.elim (shown redactor run ++ [closing redactor run])
    (shown redactor run ++ [closing redactor run]).take := by
  rw [handleAgentStream_eq,← contents_eq]
  cases room with
  | none => rfl
  | some room => exact map_take
 simp only [SameContent,hcut]
 constructor
 · intro hsame
   obtain ⟨hshown,hclosing⟩:=append_inj' (hsame none) rfl
   exact ⟨hshown,(List.cons.inj hclosing).1⟩
 · rintro ⟨hshown,hclosing⟩ room
   rw [hshown,hclosing]

variable {w : Wire}

def Deltas (frames : List Frame) : Prop := ∀ frame ∈ frames, frame.name = .modelDelta

/-- A stream is deltas and one event that ends it, unless the connection broke before that. -/
def Closes (room : Option Nat) (frames : List Frame) : Prop :=
 ∃ deltas, Deltas deltas ∧ (frames = deltas ∧ room.isSome ∨
  ∃ last, last.name ≠ .modelDelta ∧ frames = deltas ++ [last])

lemma Deltas.append {frames event} (h : Deltas frames) : Deltas (frames++[⟨.modelDelta,event⟩]) :=
 forall_mem_append.mpr ⟨h,forall_mem_singleton.mpr rfl⟩

variable (h : Deltas w.frames)

include h

lemma writeFrame_closes {frame : Frame} (hname : frame.name ≠ .modelDelta) :
  Closes w.room (writeFrame w frame).1.frames := by
 obtain ⟨frames,room⟩ := w
 refine ⟨frames,h,?_⟩
 rcases room with _ | _ | room
 · exact .inr ⟨frame,hname,rfl⟩
 · exact .inl ⟨rfl,rfl⟩
 · exact .inr ⟨frame,hname,rfl⟩

lemma writeEvent_closes {name event} (hname : name ≠ .modelDelta) :
  Closes w.room (writeEvent w name event).1.frames := by
 unfold writeEvent
 split
 · exact writeFrame_closes h hname
 · exact writeFrame_closes h nofun

lemma served_closes {deltas total} : Closes w.room
  (served (writeTerminalEvent redactor run) (writeDeltas redactor deltas total w)) := by
 induction deltas generalizing total w with
 | nil =>
  refine writeEvent_closes h ?_
  unfold terminalName
  repeat' split
  all_goals nofun
 | cons delta deltas ih =>
  unfold writeDeltas
  dsimp only
  split
  · by_cases hm : (streamEventFromDelta (redactStreamDelta redactor delta)).marshals=true
    · rw [writeEvent,if_pos hm]
      obtain ⟨frames,room⟩ := w
      rcases room with _ | _ | room
      · exact ih (w := ⟨_,none⟩) h.append
      · exact ⟨frames,h,.inl ⟨rfl,rfl⟩⟩
      · exact ih (w := ⟨_,some room⟩) h.append
    · rw [writeEvent,if_neg hm]
      exact writeFrame_closes h nofun
  · exact ih h

end

def failing (text : String) : AgentRun where
 deltas := [{ text := text }]
 result := { id := "run", status := .failed }
 failure := some [.agentProviderFailure]

def suppress : Redactor := fun _ => {}

def answering (answer : String) : AgentRun where
 deltas := [{ text := answer }, { finishReason := .stop }]
 result := {
  id := "run", status := .succeeded, messages := [{ role := .assistant, content := answer }] }
 failure := none

/-- A redactor that does not know of the parts. -/
def legacy : Redactor := fun delta => { delta with text := "" }

def parted (text : String) : AgentRun :=
 { failing text with deltas := [{ text := text, parts := [{ kind := .text, text := "note" }] }] }

/-- Whatever the redactor does to a run and wherever the connection breaks, nothing follows the one
event that ends a stream, and an unbroken stream has it. -/
theorem stream_closed_once (redactor : Redactor) (run : AgentRun) (room : Option Nat) :
  Closes room (handleAgentStream redactor run room) :=
 served_closes (w := ⟨[],room⟩) (forall_mem_nil _)

end Lebro.HttpStreams
