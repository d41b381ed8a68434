import Lebro.ApprovalOperations

set_option autoImplicit false

namespace Lebro.ToolFailures

open EffectProgram EffectRuns RuntimeTypes RuntimeRecords RuntimeEffects AgentEffects AgentTools
open AgentLoop AgentApprovals AgentOperations ApprovalOperations List

variable {e:Err} {out:AgentOutcome} {es:List (Event AgentSig)}

def Alive : (o : AgentOp) → o.Reply → Prop
 | .runtime (.step .ctxErr), ended => ended = none
 | _, _ => True

def handlerError : (o : AgentOp) → o.Reply → List Err
 | .tool _, .error e => [e]
 | _, _ => []

def handlerErrors (es : List (Event AgentSig)) : List Err :=
 es.flatMap fun e => handlerError e.1 e.2

def handling : Monitor AgentSig (List Err) where
 demand _ _ := True
 step errs o r errs' := Alive o r ∧ errs' = errs ++ handlerError o r

lemma handling_follows (halive:∀ e ∈ es,Alive e.1 e.2) (errs) :
  handling.Follows errs es (errs++handlerErrors es) := by
 induction es generalizing errs with
 | nil =>
  rw [handlerErrors,flatMap_nil,append_nil]
  exact .nil errs
 | cons e es ih =>
  obtain ⟨he,hes⟩:=forall_mem_cons.mp halive
  rw [handlerErrors,flatMap_cons,← append_assoc]
  exact .cons ⟨he,rfl⟩ (ih hes _)

lemma mem_handlerErrors {invocation} (h:(⟨.tool invocation,.error e⟩ : Event AgentSig) ∈ es) :
  e ∈ handlerErrors es :=
 mem_flatMap.mpr ⟨_,h,mem_singleton_self e⟩

/-- At most one handler returns an error, and then the program returns what is said of it. -/
def Contained {α : Type} (E : Err → α → Prop) (p : AgentProg α) : Prop :=
 ∀ errs, wp handling p (fun x errs' => errs' = errs ∨ ∃ e, errs' = errs ++ [e] ∧ E e x) errs

def Toolless (o : AgentOp) : Prop := ∀ invocation, o ≠ .tool invocation

lemma toolless_of_plain (o) (ho:Plain o) : Toolless o := by
 rintro invocation rfl
 exact ho
lemma toolless_runtime (o) : Toolless (.runtime o) := nofun
lemma toolless_sequence : Toolless .emitterSequence := nofun
lemma toolless_resume (sequence) : Toolless (.resumeEmitter sequence) := nofun

section

variable {α β:Type} {E:Err → α → Prop} {F:Err → β → Prop} {p:AgentProg α}
 {g:α → AgentProg β}

lemma wp_toolless (hp:Asks Toolless p) {errs} :
  wp handling p (fun _ errs'=>errs'=errs) errs := by
 refine hp.wp (fun errs'=>errs'=errs) ?_ rfl
 rintro errs o ho rfl
 refine ⟨trivial,?_⟩
 rintro r errs' ⟨_,rfl⟩
 cases o with
 | tool invocation => exact absurd rfl (ho invocation)
 | _ => exact append_nil _

lemma contained_asks (hp:Asks Toolless p) : Contained E p := fun _ =>
 wp_mono (wp_toolless hp) fun _ _ h=>.inl h
lemma contained_ret {x} : Contained E (.ret x) := contained_asks asks_ret

lemma contained_then (hp:Asks Toolless p) (hg:∀ x,Contained F (g x)) :
  Contained F (p >>= g) := by
 intro errs
 apply wp_seq (wp_toolless hp)
 rintro x _ rfl
 exact hg x _

lemma contained_bind (hp:Contained E p) (hg:∀ x,Contained F (g x))
  (herror:∀ e x,E e x → Asks Toolless (g x) ∧ Returns (g x) (F e)) :
  Contained F (p >>= g) := by
 intro errs
 apply wp_seq (hp errs)
 rintro x errs' (rfl | ⟨e,rfl,he⟩)
 · exact hg x errs'
 · obtain ⟨hasks,hreturns⟩:=herror e x he
   apply wp_mono (hreturns.wp_and (wp_toolless hasks))
   rintro y _ ⟨hy,rfl⟩
   exact .inr ⟨e,rfl,hy⟩

end

def Cancels (e : Err) : Prop := e.is .canceled = true ∨ e.is .deadlineExceeded = true

instance (e : Err) : Decidable (Cancels e) := inferInstanceAs (Decidable (_ ∨ _))

def Reports (e : Err) (result : ToolExecutionResult) : Prop :=
 result.state = (if Cancels e then .cancelled else .handlerError) ∧
  ∃ text, result.err = some (e.wrap text)

lemma contained_unlessCancelled {E} {id} {next} (h:Contained E next) :
  Contained E (unlessCancelled id next) := by
 apply contained_then (asks_runCtxErr toolless_of_plain)
 intro ended
 cases ended with
 | some e => exact contained_ret
 | none => exact h

lemma reports_handlerResult {tool id e} :
  ∃ result,handlerResult tool id (.error e) = .ret result ∧ Reports e result := by
 by_cases he : Cancels e
 · exact ⟨_,if_pos he,(if_pos he).symm,_,rfl⟩
 · exact ⟨_,if_neg he,(if_neg he).symm,_,rfl⟩

lemma contained_executeTool {tool invocation} :
  Contained Reports (executeTool tool invocation) := by
 refine contained_unlessCancelled (contained_unlessCancelled ?_)
 split
 · exact contained_ret
 intro errs
 refine ⟨trivial,?_⟩
 rintro reply _ ⟨_,rfl⟩
 -- The look after the handler finds the context alive, so that its error is what counts.
 refine ⟨trivial,?_⟩
 rintro ended _ ⟨rfl,rfl⟩
 rw [show handlerError (.runtime (.step .ctxErr)) none=[] from rfl,append_nil]
 cases reply with
 | error e =>
  obtain ⟨result,hresult,hreports⟩:=reports_handlerResult
  change wp handling (handlerResult tool invocation.toolID (.error e)) _ _
  rw [hresult]
  exact .inr ⟨e,rfl,hreports⟩
 | panic value => exact .inl (append_nil _)
 | output value =>
  rw [show handlerError (.tool invocation) (.output value)=[] from rfl,append_nil]
  exact contained_asks (p := handlerResult tool _ (.output value))
   (asks_handlerResult toolless_of_plain) _

lemma contained_executeToolCall (a runID step stepID threadID call metadata) :
  Contained Reports (executeToolCall a runID step stepID threadID call metadata) := by
 unfold executeToolCall
 split
 · exact contained_ret
 split
 · exact contained_ret
 apply contained_then (asks_authorizeTool toolless_of_plain)
 intro denial
 cases denial with
 | some e => exact contained_ret
 | none =>
  dsimp only
  split
  · exact contained_ret
  · exact contained_executeTool

def Ends (e : Err) (out : AgentOutcome) : Prop :=
 ∃ step text, if Cancels e then
   out.result.status = .cancelled ∧ out.error = some (.agent (cancelledError step (e.wrap text)))
  else out.result.status = .failed ∧ out.error = some (.agent ⟨.toolFailure, step, e.wrap text⟩)

def Halts (e : Err) (ran : List Message ⊕ AgentOutcome) : Prop := ∃ out, ran = .inr out ∧ Ends e out

lemma Reports.cases {result} (h:Reports e result) (step) :
  ∃ text,(Cancels e ∧ result.state = .cancelled ∧ result.err=some (e.wrap text)) ∨
   (¬ Cancels e ∧ result.state = .handlerError ∧
    toolExecutionAgentError step result = ⟨.toolFailure,step,e.wrap text⟩) := by
 obtain ⟨hstate,text,herr⟩:=h
 refine ⟨text,?_⟩
 by_cases he : Cancels e
 · exact .inl ⟨he,hstate.trans (if_pos he),herr⟩
 · rw [if_neg he] at hstate
   exact .inr ⟨he,hstate,by simp [toolExecutionAgentError,hstate,herr]⟩

lemma ends_of_cancels (step text) (he:Cancels e) (hstatus:out.result.status = .cancelled)
  (herror:out.error=some (.agent (cancelledError step (e.wrap text)))) : Ends e out :=
 ⟨step,text,by rw [if_pos he]; exact ⟨hstatus,herror⟩⟩
lemma ends_of_not_cancels (step text) (he : ¬ Cancels e) (hstatus : out.result.status = .failed)
  (herror : out.error=some (.agent ⟨.toolFailure,step,e.wrap text⟩)) : Ends e out :=
 ⟨step,text,by rw [if_neg he]; exact ⟨hstatus,herror⟩⟩

def settle (finished : ToolExecutionResult → AgentProg Unit)
  (transcript : ToolExecutionResult → List Message)
  (cancelled failed : ToolExecutionResult → AgentProg AgentOutcome)
  (result : ToolExecutionResult) : AgentProg (List Message ⊕ AgentOutcome) := do
 finished result
 match result.state with
 | .succeeded => .ret (.inl (transcript result))
 | .cancelled => do
  let out ← cancelled result
  .ret (.inr out)
 | _ => do
  let out ← failed result
  .ret (.inr out)

section

variable {execute:AgentProg ToolExecutionResult} {finished:ToolExecutionResult → AgentProg Unit}
 {transcript:ToolExecutionResult → List Message}
 {cancelled failed:ToolExecutionResult → AgentProg AgentOutcome}

lemma asks_settle (hfinished:∀ result,Asks Toolless (finished result))
  (hcancelled:∀ result,Asks Toolless (cancelled result))
  (hfailed:∀ result,Asks Toolless (failed result)) (result) :
  Asks Toolless (settle finished transcript cancelled failed result) := by
 apply asks_bind (hfinished result)
 intro _
 split
 · exact asks_ret
 · exact asks_bind (hcancelled result) fun _=>asks_ret
 · exact asks_bind (hfailed result) fun _=>asks_ret

lemma contained_settle (step) (hexecute:Contained Reports execute)
  (hfinished:∀ result,Asks Toolless (finished result))
  (hcancelled:∀ result,Asks Toolless (cancelled result))
  (hfailed:∀ result,Asks Toolless (failed result))
  (hcancels:∀ (e:Err) (text:String) (result:ToolExecutionResult),Cancels e →
   result.err=some (e.wrap text) → Returns (cancelled result) (Ends e))
  (hfails:∀ (e:Err) (text:String) (result:ToolExecutionResult),¬ Cancels e →
   toolExecutionAgentError step result = ⟨.toolFailure,step,e.wrap text⟩ →
   Returns (failed result) (Ends e)) :
  Contained Halts (execute >>= settle finished transcript cancelled failed) := by
 have hasks (result : ToolExecutionResult) :
   Asks Toolless (settle finished transcript cancelled failed result) :=
  asks_settle hfinished hcancelled hfailed result
 apply contained_bind hexecute (fun result=>contained_asks (hasks result))
 intro e result hreports
 refine ⟨hasks result,returns_then fun _=>?_⟩
 obtain ⟨text,⟨he,hstate,herr⟩ | ⟨he,hstate,herror⟩⟩:=hreports.cases step
 · rw [hstate]
   exact returns_bind (hcancels e text result he herr) fun out hout=>⟨out,rfl,hout⟩
 · rw [hstate]
   exact returns_bind (hfails e text result he herror) fun out hout=>⟨out,rfl,hout⟩

end

section

variable (a:Agent) (f:RunFrame) (step:Nat) (stepID:StepID) (transcript:List Message)

lemma contained_runTool (call) : Contained Halts (runTool a f step stepID transcript call) := by
 refine contained_then (asks_emitEvent toolless_of_plain) fun _ =>
  contained_settle step (contained_executeToolCall a _ _ _ _ call _)
   (fun result=>asks_emitEvent toolless_of_plain)
   (fun result=>asks_endCancelled toolless_of_plain)
   (fun result=>asks_endFailed toolless_of_plain) ?_ ?_
 · intro e text result he herr
   refine returns_then fun _=>ends_of_cancels step text he rfl ?_
   rw [herr]
   rfl
 · intro e text result he herror
   refine returns_then fun _=>ends_of_not_cancels step text he rfl ?_
   rw [herror]

lemma contained_inr {p} (hp:Asks Toolless p) :
  Contained Halts (p >>= fun out=>.ret (Sum.inr out : List Message ⊕ AgentOutcome)) :=
 contained_asks (asks_bind hp fun _=>asks_ret)

lemma contained_runToolCall (calls callIndex transcript call) :
  Contained Halts (runToolCall a f step stepID calls callIndex transcript call) := by
 have hplain:=toolless_of_plain
 apply contained_then (asks_runCtxErr hplain)
 intro ended
 cases ended with
 | some e => exact contained_inr (asks_endCancelled hplain)
 | none =>
  refine contained_then (asks_emitEvent hplain) fun _ =>
   contained_then (asks_evaluateToolApproval hplain) ?_
  intro resolution
  cases resolution with
  | error e => exact contained_inr (asks_endFailed hplain)
  | ok resolution =>
   dsimp only
   split
   · exact contained_inr (asks_endFailed hplain)
   · refine contained_then (asks_suspendAgentToolApproval hplain (fun _ _=>toolless_runtime _) toolless_sequence) ?_
     intro suspended
     cases suspended with
     | error e => exact contained_inr (asks_endFailed hplain)
     | ok request => exact contained_ret
   · exact contained_runTool a f step stepID transcript call

omit a f in
lemma contained_next {β:Type} {F p g} (r:AgentOutcome → β) (hp:Contained Halts p)
  (hinl:∀ ms,Contained F (g (.inl ms))) (hinr:∀ out,g (.inr out) = .ret (r out))
  (hr:∀ e out,Ends e out → F e (r out)) : Contained F (p >>= g) := by
 refine contained_bind hp ?_ ?_
 · intro ran
   cases ran with
   | inl ms => exact hinl ms
   | inr out =>
    rw [hinr]
    exact contained_ret
 · rintro e _ ⟨out,rfl,hout⟩
   rw [hinr]
   exact ⟨asks_ret,hr e out hout⟩

omit a f in
lemma halts_inr (e out) (h:Ends e out) : Halts e (.inr out) := ⟨out,rfl,h⟩

lemma contained_runToolCalls (calls callIndex rest transcript) :
  Contained Halts (runToolCalls a f step stepID calls callIndex rest transcript) := by
 induction rest generalizing callIndex transcript with
 | nil => exact contained_ret
 | cons call rest ih =>
  exact contained_next .inr
   (contained_runToolCall a f step stepID calls callIndex transcript call)
   (fun transcript=>ih (callIndex+1) transcript) (fun _=>rfl) halts_inr

lemma contained_handleResponse (response) :
  Contained Halts (handleResponse a f step stepID transcript response) := by
 have hplain:=toolless_of_plain
 apply contained_then (asks_process hplain)
 intro processed
 cases processed with
 | error e => exact contained_inr (asks_endProcessor hplain)
 | ok response =>
  dsimp only
  split
  · exact contained_then (asks_emitEvent hplain) fun _ =>
     contained_inr (asks_endFailedWith hplain)
  · apply contained_then (asks_emitEvent hplain)
    intro _
    split
    · exact contained_runToolCalls a f step stepID _ 0 _ _
    · exact contained_inr (asks_finishRun hplain fun _=>nofun)

lemma asks_generate {c request} : Asks Toolless (generateModel c request) := by
 unfold generateModel
 split
 · exact asks_op nofun
 · exact asks_op nofun
 · exact asks_crash toolless_of_plain

lemma asks_consume {request} : Asks Toolless (consumeStream a f step stepID request) :=
 asks_consumeStream toolless_of_plain (fun _ _ _=>nofun) fun _ _=>nofun
lemma asks_prepare : Asks Toolless (prepareRequest a f step stepID transcript) :=
 asks_prepareRequest toolless_of_plain fun _ _ _ _ _ _ _=>nofun

lemma contained_openStep {send} (hsend:∀ stepID request,Contained Halts (send stepID request)) :
  Contained Halts (openStep a f step transcript send) := by
 have hplain:=toolless_of_plain
 apply contained_then (asks_runCtxErr hplain)
 intro ended
 cases ended with
 | some e => exact contained_inr (asks_endCancelled hplain)
 | none =>
  refine contained_then (asks_op (hplain _ trivial)) fun stepID =>
   contained_then (asks_emitEvent hplain) fun _ =>
    contained_then (asks_prepare a f step stepID transcript) ?_
  intro prepared
  cases prepared with
  | inr out => exact contained_ret
  | inl request => exact hsend stepID request

lemma contained_runStep : Contained Halts (runStep a f step transcript) := by
 apply contained_openStep a f step transcript
 intro stepID request
 apply contained_then asks_generate
 intro response
 cases response with
 | error e => exact contained_inr (asks_endModel toolless_of_plain)
 | ok response => exact contained_handleResponse a f step stepID transcript response

lemma contained_streamStep : Contained Halts (streamStep a f step transcript) := by
 apply contained_openStep a f step transcript
 intro stepID request
 apply contained_then (asks_consume a f step stepID)
 intro response
 cases response with
 | error failure => exact contained_inr (asks_endStream toolless_of_plain)
 | ok response => exact contained_handleResponse a f step stepID transcript response

lemma contained_runLoop {body} (hbody:∀ step transcript,Contained Halts (body step transcript))
  (n step) (transcript) : Contained Ends (runLoop a f body n step transcript) := by
 induction n generalizing step transcript with
 | zero => exact contained_asks (asks_endFailed toolless_of_plain)
 | succ n ih =>
  exact contained_next id (hbody step transcript) (fun transcript=>ih (step+1) transcript)
   (fun _=>rfl) fun _ _=>id

lemma contained_run (input) : Contained Ends (run a input) := by
 have hplain:=toolless_of_plain
 have hfinish (runID : RunID) (journaled : Bool) :
   Asks Toolless (finishJournal a runID journaled) := asks_finishJournal hplain
 apply contained_then (asks_setupRun hplain)
 rintro ⟨setup,journaled⟩
 cases setup with
 | error out => exact contained_asks (asks_bind (hfinish _ _) fun _=>asks_ret)
 | ok f =>
  refine contained_bind (contained_runLoop a f (contained_runStep a f) _ _ _)
   (fun out=>contained_asks (asks_bind (hfinish _ _) fun _=>asks_ret)) ?_
  intro e out hout
  exact ⟨asks_bind (hfinish _ _) fun _=>asks_ret,returns_then fun _=>hout⟩

lemma contained_runStream (input) : Contained Ends (runStream a input) := by
 have hplain:=toolless_of_plain
 apply contained_then (asks_setupRun hplain)
 rintro ⟨setup,journaled⟩
 cases setup with
 | error out => exact contained_ret
 | ok f =>
  have hflush (out : AgentOutcome) :
    Asks Toolless (flushDiagnostics a f.runID >>= fun _=>.ret out) :=
   asks_bind (asks_flushDiagnostics hplain) fun _=>asks_ret
  refine contained_bind (contained_runLoop a f (contained_streamStep a f) _ _ _)
   (fun out=>contained_asks (hflush out)) ?_
  intro e out hout
  exact ⟨hflush out,returns_then fun _=>hout⟩

end

section

variable (a:Agent) (state:ToolApprovalSnapshot)

lemma contained_resumeTool (transcript call) :
  Contained Halts (resumeTool a state transcript call) := by
 have hasks:=asks_endApprovalResume toolless_of_plain toolless_runtime a state
 refine contained_then (asks_emitEvent toolless_of_plain) fun _ =>
  contained_settle state.request.step (contained_executeToolCall a _ _ _ _ call _)
   (fun result=>asks_emitEvent toolless_of_plain) (fun result=>hasks _ _ _)
   (fun result=>hasks _ _ _) ?_ ?_
 · intro e text result he herr
   refine returns_then fun _=>returns_then fun _=>returns_then fun _ =>
    ends_of_cancels state.request.step text he rfl ?_
   rw [herr]
   rfl
 · intro e text result he herror
   refine returns_then fun _=>returns_then fun _=>returns_then fun _ =>
    ends_of_not_cancels state.request.step text he rfl ?_
   rw [herror]

lemma contained_resumeNext (i transcript call) :
  Contained Halts (resumeNext a state i transcript call) := by
 have hplain:=toolless_of_plain
 have hend:=asks_endApprovalResume hplain toolless_runtime a state
 apply contained_then (asks_runCtxErr hplain)
 intro ended
 cases ended with
 | some e => exact contained_inr (hend _ _ _)
 | none =>
  refine contained_then (asks_emitEvent hplain) fun _ =>
   contained_then (asks_evaluateToolApproval hplain) ?_
  intro resolution
  cases resolution with
  | error e => exact contained_inr (hend _ _ _)
  | ok resolution =>
   dsimp only
   split
   · exact contained_inr (hend _ _ _)
   · exact contained_inr (asks_suspendAgain hplain toolless_runtime toolless_sequence)
   · exact contained_resumeTool a state transcript call

lemma contained_resumeCalls (i calls transcript) :
  Contained Halts (resumeCalls a state i calls transcript) := by
 induction calls generalizing i transcript with
 | nil => exact contained_ret
 | cons call calls ih =>
  exact contained_next .inr (contained_resumeNext a state i transcript call)
   (fun transcript=>ih (i+1) transcript) (fun _=>rfl) halts_inr

lemma contained_continueRun (transcript) : Contained Ends (continueRun a state transcript) := by
 have hpersist (out : AgentOutcome) :
   Asks Toolless (persistApprovalRunTerminal a state out >>= fun _=>.ret out) :=
  asks_bind (asks_persistApprovalRunTerminal toolless_runtime) fun _=>asks_ret
 refine contained_then (asks_flushDiagnostics toolless_of_plain) fun _=>?_
 refine contained_then (asks_op toolless_sequence) fun _=>?_
 refine contained_then (asks_op (toolless_resume _)) fun _ =>
  contained_bind (contained_run _ _) ?_ ?_
 · intro out
   split
   · exact contained_ret
   · exact contained_asks (hpersist out)
 · intro e out hout
   split
   · exact ⟨asks_ret,hout⟩
   · exact ⟨hpersist out,returns_then fun _=>hout⟩

lemma contained_resumeApprovedTool : Contained Ends (resumeApprovedTool a state) := by
 have hbatch (call : ModelToolCall) : Contained Halts (resumeBatch a state call) :=
  contained_next .inr (contained_resumeTool a state _ call) (contained_resumeCalls a state _ _)
   (fun _=>rfl) halts_inr
 unfold resumeApprovedTool
 split
 · exact contained_ret
 rename_i call _
 refine contained_then (asks_op (toolless_resume _)) fun _=>?_
 exact contained_then (asks_emitEvent toolless_of_plain) fun _ =>
  contained_next id (hbatch call) (contained_continueRun a state) (fun _=>rfl) fun _ _=>id

lemma contained_applyDecision (decision decidedAt) :
  Contained Ends (applyDecision a state decision decidedAt) := by
 apply contained_then (asks_clockNow toolless_of_plain)
 intro now
 split
 · exact contained_asks (asks_rejectToolApproval toolless_of_plain toolless_runtime toolless_resume)
 split
 · exact contained_asks (asks_rejectToolApproval toolless_of_plain toolless_runtime toolless_resume)
 apply contained_then (asks_transitionAttempts toolless_runtime)
 intro committed
 cases committed with
 | error e => exact contained_ret
 | ok _ => exact contained_resumeApprovedTool a state

end

lemma contained_resumeToolApproval (number:String → Option String) (a decision) :
  Contained Ends (resumeToolApproval number a decision) := by
 unfold resumeToolApproval
 split
 · exact contained_ret
 split
 · exact contained_ret
 apply contained_then (asks_loadToolApproval toolless_runtime)
 intro loaded
 cases loaded with
 | error e => exact contained_ret
 | ok loaded =>
  obtain ⟨run,state⟩:=loaded
  dsimp only
  split
  · exact contained_ret
  split
  · exact contained_ret
  split
  · exact contained_ret
  split
  · exact contained_ret
  · exact contained_applyDecision a state decision _

lemma ends_of_handler_error {p} (hp:Contained Ends p) (h:Trace p es (.ret out))
  (halive:∀ e ∈ es,Alive e.1 e.2) {invocation}
  (he:(⟨.tool invocation,.error e⟩ : Event AgentSig) ∈ es) : Ends e out := by
 have hmem:=mem_handlerErrors he
 rcases h.wp (handling_follows halive []) (hp []) with hnone | ⟨e',hone,hends⟩
 · rw [nil_append] at hnone
   rw [hnone] at hmem
   exact absurd hmem not_mem_nil
 · rw [nil_append,nil_append] at hone
   rw [hone] at hmem
   rwa [mem_singleton.mp hmem]

end Lebro.ToolFailures
