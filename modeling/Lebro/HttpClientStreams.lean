import Lebro.HttpStreams

set_option autoImplicit false

namespace Lebro.HttpClientStreams

open RuntimeTypes RuntimeRecords AgentEffects ModelRouting HttpStreams

inductive ClientErr where
 | api (code : ErrorCode) (message : String)
 | malformedResponse
 | streamIncomplete

def isTerminalEvent : EventName → Bool
 | .modelDelta => false
 | _ => true

def apiErrorFromBody (body : ErrorBody) : ClientErr :=
 .api body.code (if body.message = "" then publicMessage body.code else body.message)

def terminalOutcome (event : StreamEvent) : RunResponse × Option ClientErr :=
 ({ runID := event.runID
    status := event.status
    content := event.text
    structuredOutput := event.structuredOutput },
  event.error.map apiErrorFromBody)

/-- What `Wait` returns after the frames of a connection that was then closed. -/
def wait (readable : StreamEvent → Bool) : List Frame → RunResponse × Option ClientErr
 | [] => ({}, some .streamIncomplete)
 | frame :: frames =>
  if ¬ readable frame.event then ({}, some .malformedResponse)
  else if isTerminalEvent frame.name then terminalOutcome frame.event
  else wait readable frames

/-- What `Wait` returns for a run that is served over a connection that delivers all bytes. -/
def remoteOutcome (readable : StreamEvent → Bool) (redactor : Redactor) (run : AgentRun) :
  RunResponse × Option ClientErr :=
 wait readable (handleAgentStream redactor run none)

/-- No error means success, and the response is the one that the other route gives. -/
def TrueOutcome (readable : StreamEvent → Bool) (redactor : Redactor) (run : AgentRun) : Prop :=
 ((remoteOutcome readable redactor run).2 = none → run.result.status = .succeeded) ∧
   (run.failure = none →
    (remoteOutcome readable redactor run).1 = runResponseFromResult run.result redactor)

def Passes (readable : StreamEvent → Bool) (event : StreamEvent) : Prop :=
 event.marshals = true ∧ readable event = true

/-- Every event can be written, and read by the client. -/
structure Deliverable (readable : StreamEvent → Bool) (redactor : Redactor) (run : AgentRun) :
  Prop where
 deltas : ∀ delta ∈ run.deltas, hasStreamableContent (redactStreamDelta redactor delta) = true →
  Passes readable (streamEventFromDelta (redactStreamDelta redactor delta))
 terminal : Passes readable (terminalEvent redactor run (totalUsage run))

section

variable {readable : StreamEvent → Bool} {redactor : Redactor} {run : AgentRun}

lemma isTerminalEvent_terminalName (run) : isTerminalEvent (terminalName run)=true := by
 unfold terminalName
 split
 · split <;> rfl
 · split <;> rfl

lemma wait_failure (readable) : ∃ err,wait readable [internalFailure]=({},some err) := by
 unfold wait
 split
 · exact ⟨_,rfl⟩
 · exact ⟨_,rfl⟩

lemma wait_frames {last events} (h:∀ event ∈ events,Passes readable event) :
  wait readable (frames last events)=wait readable [last] := by
 induction events with
 | nil => rfl
 | cons event events ih =>
  obtain ⟨⟨hwritten,hread⟩,hrest⟩:=List.forall_mem_cons.mp h
  rw [frames_cons hwritten,wait,hread]
  exact ih hrest

lemma wait_frames_failed {last events} (h:¬ ∀ event ∈ events,Passes readable event) :
  ∃ err,wait readable (frames last events)=({},some err) := by
 induction events with
 | nil => exact absurd (List.forall_mem_nil _) h
 | cons event events ih =>
  cases hwritten : event.marshals with
  | false =>
   rw [frames_malformed hwritten]
   exact wait_failure readable
  | true =>
   rw [frames_cons hwritten,wait]
   cases hread : readable event with
   | false => exact ⟨_,rfl⟩
   | true => exact ih fun hrest=>h (List.forall_mem_cons.mpr ⟨⟨hwritten,hread⟩,hrest⟩)

lemma deliverable_iff : Deliverable readable redactor run ↔
  (∀ event ∈ keptEvents redactor run,Passes readable event) ∧
   Passes readable (terminalEvent redactor run (totalUsage run)) := by
 have hdeltas:(∀ event ∈ keptEvents redactor run,Passes readable event) ↔ ∀ delta ∈ run.deltas,
   hasStreamableContent (redactStreamDelta redactor delta)=true →
    Passes readable (streamEventFromDelta (redactStreamDelta redactor delta)) := by
  simp only [keptEvents,List.forall_mem_map,List.mem_filter,and_imp,redacted_event]
 rw [hdeltas]
 exact ⟨fun h=>⟨h.deltas,h.terminal⟩,fun h=>⟨h.1,h.2⟩⟩

lemma remoteOutcome_delivered (h:Deliverable readable redactor run) :
  remoteOutcome readable redactor run =
   terminalOutcome (terminalEvent redactor run (totalUsage run)) := by
 obtain ⟨hevents,hwritten,hread⟩:=deliverable_iff.mp h
 rw [remoteOutcome,handleAgentStream_eq]
 refine (wait_frames hevents).trans ?_
 rw [terminalFrame,if_pos hwritten,wait,hread,isTerminalEvent_terminalName]
 rfl

lemma remoteOutcome_undelivered (h:¬ Deliverable readable redactor run) :
  ∃ err,remoteOutcome readable redactor run=({},some err) := by
 rw [deliverable_iff] at h
 rw [remoteOutcome,handleAgentStream_eq]
 change ∃ err,wait readable (frames _ _)=({},some err)
 by_cases hevents : ∀ event ∈ keptEvents redactor run,Passes readable event
 · rw [wait_frames hevents,terminalFrame]
   split
   · rename_i hwritten
     have hread:readable (terminalEvent redactor run (totalUsage run))=false:=by
      by_contra hread
      exact h ⟨hevents,hwritten,Bool.not_eq_false _ ▸ hread⟩
     rw [wait,hread]
     exact ⟨_,rfl⟩
   · exact wait_failure readable
 · exact wait_frames_failed hevents

end

lemma terminalOutcome_response {redactor run total} (h : run.failure=none) :
  (terminalOutcome (terminalEvent redactor run total)).1 =
   { runResponseFromResult run.result redactor with reasoning := "" } := by
 have hresponse : terminalResponse redactor run=runResponseFromResult run.result redactor := by
  unfold terminalResponse
  rw [h]
 have hid : (runResponseFromResult run.result redactor).runID=run.result.id := by
  unfold runResponseFromResult
  split <;> rfl
 have hstatus : (runResponseFromResult run.result redactor).status=run.result.status.text := by
  unfold runResponseFromResult
  split <;> rfl
 simp only [terminalOutcome,terminalEvent,hresponse,hid,hstatus]

lemma terminalOutcome_err (redactor run total) :
  (terminalOutcome (terminalEvent redactor run total)).2=none ↔
   run.failure=none ∧ run.result.status ≠ .failed := by
 simp only [terminalOutcome,terminalEvent,Option.map_eq_none_iff,terminalError]
 cases run.failure with
 | some failure => simp
 | none => simp

/-- The client reports the true outcome of a run without an error exactly if every event reaches it,
the run succeeded or failed, and the redactor leaves no reasoning of the last turn. An event that
does not reach it ends the stream with an error and an empty response. -/
theorem remote_outcome_true_iff (readable : StreamEvent → Bool) (redactor : Redactor)
  (run : AgentRun) : TrueOutcome readable redactor run ↔ (run.failure = none →
   (Deliverable readable redactor run →
    (run.result.status = .succeeded ∨ run.result.status = .failed) ∧
     (runResponseFromResult run.result redactor).reasoning = "") ∧
   (¬ Deliverable readable redactor run → runResponseFromResult run.result redactor = {})) := by
 unfold TrueOutcome
 by_cases h : Deliverable readable redactor run
 · rw [remoteOutcome_delivered h,terminalOutcome_err]
   constructor
   · rintro ⟨htrue,hsame⟩ hfailure
     refine ⟨fun _=>⟨?_,?_⟩,fun hnot=>absurd h hnot⟩
     · by_cases hfailed : run.result.status = .failed
       · exact .inr hfailed
       · exact .inl (htrue ⟨hfailure,hfailed⟩)
     · rw [← hsame hfailure,terminalOutcome_response hfailure]
   · intro hrun
     refine ⟨?_,?_⟩
     · rintro ⟨hfailure,hfailed⟩
       exact ((hrun hfailure).1 h).1.resolve_right hfailed
     · intro hfailure
       rw [terminalOutcome_response hfailure,← ((hrun hfailure).1 h).2]
 · obtain ⟨err,herr⟩:=remoteOutcome_undelivered h
   rw [herr]
   constructor
   · rintro ⟨-,hsame⟩ hfailure
     exact ⟨fun hyes=>absurd hyes h,fun _=>(hsame hfailure).symm⟩
   · intro hrun
     exact ⟨nofun,fun hfailure=>((hrun hfailure).2 h).symm⟩

def ending (status : RunStatus) (message : Message) : AgentRun where
 deltas := []
 result := { id := "run", status := status, messages := [message] }
 failure := none

theorem plain_success_true : Deliverable (fun _ => true) defaultRedactor
  (ending .succeeded { role := .assistant, content := "done" }) ∧
   TrueOutcome (fun _ => true) defaultRedactor
    (ending .succeeded { role := .assistant, content := "done" }) := by
 have hdelivered:Deliverable (fun _=>true) defaultRedactor
   (ending .succeeded { role := .assistant, content := "done" }) :=
  ⟨(fun _ hdelta=>by cases hdelta),rfl,rfl⟩
 refine ⟨hdelivered,(remote_outcome_true_iff _ _ _).mpr fun _=>?_⟩
 exact ⟨fun _=>⟨.inl rfl,by decide⟩,fun h=>absurd hdelivered h⟩

/-- A run that waits for an approval is reported without an error, and a client never sees the
reasoning that the policy lets through. -/
theorem suspended_run_reported_as_success : ((remoteOutcome (fun _ => true) defaultRedactor
  (ending .suspended { role := .assistant })).2 = none ∧
   ¬ TrueOutcome (fun _ => true) defaultRedactor (ending .suspended { role := .assistant })) ∧
  ¬ TrueOutcome (fun _ => true) passthroughRedactor (ending .succeeded
   { role := .assistant, content := "done", reasoning := { text := "why" } }) := by
 refine ⟨⟨rfl,fun h=>?_⟩,fun h=>?_⟩
 · exact absurd (h.1 rfl) (by decide)
 · have hreasoning:=congrArg RunResponse.reasoning (h.2 rfl)
   exact absurd hreasoning (by decide)

end Lebro.HttpClientStreams
