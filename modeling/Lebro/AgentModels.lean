import Lebro.AgentOperations

set_option autoImplicit false

namespace Lebro.AgentModels

open EffectProgram EffectRuns RuntimeTypes RuntimeRecords AgentEffects AgentLoop AgentOperations

def modelCalled : AgentOp → Option ModelTarget
 | .generate target _ | .stream target _ => some target
 | _ => none

def summarizerCalled : AgentOp → Option ModelTarget
 | .compact target _ _ _ => some target
 | _ => none

/-- A router goes before a model, as in `generateModel`. -/
def selected (c : RunConfig) : Option ModelTarget :=
 match c.router with
 | some r => some (.router r)
 | none => c.model.map .model

def streamed (a : Agent) (c : RunConfig) : Option ModelTarget :=
 match c.streamingModel with
 | some streaming => some (streamTarget a streaming)
 | none =>
  match a.router with
  | some r => some (.router r)
  | none => a.model.map .model

def StreamsSelected (a : Agent) (c : RunConfig) : Prop :=
 match a.router with
 | some r => c.router = some r
 | none => c.router.isSome ∨ (c.model.any fun m => m.streams) ∨ c.model = a.model

variable {m:ModelTarget}

lemma streamsSelected_iff {a c} (h:streamed a c=some m) :
  selected c=some m ↔ StreamsSelected a c := by
 obtain ⟨instructions,model,router,modelName⟩:=c
 unfold StreamsSelected
 cases hr : a.router with
 | some r =>
  have hm:m = .router r:=by
   cases router <;> cases model <;>
    simp only [streamed,RunConfig.streamingModel,streamTarget,hr] at h <;> grind
  subst hm
  cases router <;> simp [selected]
 | none =>
  cases router with
  | some r => simp_all [streamed,RunConfig.streamingModel,streamTarget,selected]
  | none =>
   cases model with
   | none => cases hm : a.model <;> simp_all [streamed,RunConfig.streamingModel,selected]
   | some model =>
    obtain ⟨id,streams⟩:=model
    cases streams with
    | true => simp_all [streamed,RunConfig.streamingModel,streamTarget,selected]
    | false =>
     cases hm : a.model with
     | none => simp_all [streamed,RunConfig.streamingModel]
     | some other =>
      simp only [streamed,RunConfig.streamingModel,hr,hm] at h
      cases h
      simp [selected]

/-- What the loop of a run asks for: calls of one model, and compactions with the summarizer of
the run. -/
def CallsOnly (f : RunFrame) (target : Option ModelTarget) (o : AgentOp) : Prop :=
 (∀ m, modelCalled o = some m → target = some m) ∧
  ∀ m, summarizerCalled o = some m → (f.compactor.bind fun c => c.summarizer) = some m

section

variable (a:Agent) (f:RunFrame)

lemma callsOnly_of_plain (target o) (ho:Plain o) : CallsOnly f target o := by
 constructor
 · intro m hm
   cases o with
   | generate | stream => exact ho.elim
   | _ => cases hm
 · intro m hm
   cases o with
   | compact => exact ho.elim
   | _ => cases hm

lemma callsOnly_compact {target c m prior request} (hc:f.compactor=some c)
  (hm:c.summarizer=some m) :
  CallsOnly f target (.compact m f.input.threadID prior request) := by
 refine ⟨nofun,?_⟩
 rintro _ ⟨⟩
 rw [hc]
 exact hm

lemma callsOnly_generate {target} (hm:target=some m) {request} :
  CallsOnly f target (.generate m request) :=
 ⟨fun _ h=>Option.some.inj h ▸ hm,nofun⟩
lemma callsOnly_stream {target} (hm : target=some m) {request} :
  CallsOnly f target (.stream m request) :=
 ⟨fun _ h=>Option.some.inj h ▸ hm,nofun⟩

lemma asks_prepareRequest_callsOnly (target) (step:Nat) (stepID transcript) :
  Asks (CallsOnly f target) (prepareRequest a f step stepID transcript) :=
 asks_prepareRequest (callsOnly_of_plain f target)
  fun _ _ _ _ hc _ hm=>callsOnly_compact f hc hm

lemma asks_handleResponse_callsOnly {target} {step:Nat} {stepID transcript response} :
  Asks (CallsOnly f target) (handleResponse a f step stepID transcript response) :=
 asks_handleResponse (callsOnly_of_plain f target)
  (fun _=>⟨nofun,nofun⟩) (fun _ _=>⟨nofun,nofun⟩) ⟨nofun,nofun⟩ (fun _=>⟨nofun,nofun⟩)

lemma asks_openStep {target} (step:Nat) (transcript) {send}
  (hsend:∀ stepID request,Asks (CallsOnly f target) (send stepID request)) :
  Asks (CallsOnly f target) (openStep a f step transcript send) := by
 have hplain:=callsOnly_of_plain f target
 refine asks_perform (hplain _ trivial) ?_
 intro ended
 cases ended with
 | some e => exact asks_bind (asks_endCancelled hplain) fun _=>asks_ret
 | none =>
  refine asks_perform (hplain _ trivial) ?_
  intro stepID
  refine asks_perform (hplain _ trivial) ?_
  intro _
  refine asks_bind (asks_prepareRequest_callsOnly a f _ step stepID transcript) ?_
  intro prepared
  cases prepared with
  | inr out => exact asks_ret
  | inl request => exact hsend stepID request

lemma asks_generateModel {request} :
  Asks (CallsOnly f (selected f.config)) (generateModel f.config request) := by
 unfold generateModel
 split
 · rename_i r _ hr
   exact asks_op (callsOnly_generate f (by simp [selected,hr]))
 · rename_i m hr hm
   exact asks_op (callsOnly_generate f (by simp [selected,hr,hm]))
 · exact asks_crash (callsOnly_of_plain f _)

lemma asks_runStep (step:Nat) (transcript) :
  Asks (CallsOnly f (selected f.config)) (runStep a f step transcript) := by
 apply asks_openStep a f step transcript
 intro stepID request
 apply asks_bind (asks_generateModel f)
 intro response
 cases response with
 | error e => exact asks_bind (asks_endModel (callsOnly_of_plain f _)) fun _=>asks_ret
 | ok response => exact asks_handleResponse_callsOnly a f

lemma asks_consumeStream_callsOnly {step:Nat} {stepID request} :
  Asks (CallsOnly f (streamed a f.config)) (consumeStream a f step stepID request) := by
 refine asks_consumeStream (callsOnly_of_plain f _) ?_ ?_
 · intro hnone target htarget
   refine callsOnly_generate f ?_
   rw [streamed,hnone]
   cases hr : a.router <;> simpa [hr] using htarget
 · intro m hm
   exact callsOnly_stream f (by simp [streamed,Option.mem_def.mp hm])

lemma asks_streamStep (step:Nat) (transcript) :
  Asks (CallsOnly f (streamed a f.config)) (streamStep a f step transcript) := by
 apply asks_openStep a f step transcript
 intro stepID request
 apply asks_bind (asks_consumeStream_callsOnly a f)
 intro response
 cases response with
 | error failure =>
  exact asks_bind (asks_endStream (callsOnly_of_plain f _)) fun _=>asks_ret
 | ok response => exact asks_handleResponse_callsOnly a f

end

def freshInput (input : RunInput) : RunInput :=
 { input with resumeStartStep := 0, resumeSkipInputPhase := false }

variable {input:RunInput} {es:List (Event AgentSig)}

lemma setup_calls_nothing {a q} (h:Trace (setupRun a input) es q) :
  ∀ e ∈ es,modelCalled e.1=none ∧ summarizerCalled e.1=none := by
 refine (asks_setupRun (P := fun o=>modelCalled o=none ∧ summarizerCalled o=none)
  ?_).of_trace h
 intro o ho
 cases o with
 | compact | generate | stream => exact ho.elim
 | _ => exact ⟨rfl,rfl⟩

variable {q:AgentProg AgentOutcome}

lemma run_calls {a f journaled gs} (hsetup:Trace (setupRun a input) es (.ret (.ok f,journaled)))
  (hrun:Trace (run a input) (es++gs) q) : ∀ e ∈ gs,CallsOnly f (selected f.config) e.1 := by
 have hplain:=callsOnly_of_plain f (selected f.config)
 refine Asks.of_trace ?_ (hsetup.after hrun)
 apply asks_bind (asks_runLoop hplain (asks_runStep a f))
 intro out
 exact asks_bind (asks_finishJournal hplain) fun _=>asks_ret

lemma stream_calls {a f journaled gs}
  (hsetup:Trace (setupRun a (freshInput input)) es (.ret (.ok f,journaled)))
  (hrun:Trace (runStream a input) (es++gs) q) :
  ∀ e ∈ gs,CallsOnly f (streamed a f.config) e.1 := by
 have hplain:=callsOnly_of_plain f (streamed a f.config)
 refine Asks.of_trace ?_ (hsetup.after hrun)
 apply asks_bind (asks_runLoop hplain (asks_streamStep a f))
 intro out
 exact asks_bind (asks_flushDiagnostics hplain) fun _=>asks_ret

lemma all_reach_iff {α β:Type} {es:List α} {called:α → Option β} {target} {C:Prop}
  (h:∀ e ∈ es,∀ m,called e=some m → (target=some m ↔ C)) :
  (∀ e ∈ es,∀ m,called e=some m → target=some m) ↔ C ∨ ∀ e ∈ es,called e=none := by
 constructor
 · intro hall
   by_cases hnone : ∀ e ∈ es,called e=none
   · exact .inr hnone
   · obtain ⟨e,he,hcalled⟩:=by simpa using hnone
     obtain ⟨m,hm⟩:=Option.ne_none_iff_exists'.mp hcalled
     exact .inl ((h e he m hm).mp (hall e he m hm))
 · rintro (hC | hnone) e he m hm
   · exact (h e he m hm).mpr hC
   · rw [hnone e he] at hm
     cases hm

/-- `Run` calls what was selected; the streaming loop and compaction do so exactly when their
configuration lets them. -/
theorem calls_reach_selected (a : Agent) (input : RunInput) (f : RunFrame) (journaled : Bool)
  (es gs : List (Event AgentSig)) (q : AgentProg AgentOutcome) :
  (Trace (setupRun a input) es (.ret (.ok f, journaled)) → Trace (run a input) (es ++ gs) q →
   ∀ e ∈ es ++ gs, ∀ m, modelCalled e.1 = some m → selected f.config = some m) ∧
  (Trace (setupRun a (freshInput input)) es (.ret (.ok f, journaled)) →
   Trace (runStream a input) (es ++ gs) q →
   ((∀ e ∈ es ++ gs, ∀ m, modelCalled e.1 = some m → selected f.config = some m) ↔
     StreamsSelected a f.config ∨ ∀ e ∈ es ++ gs, modelCalled e.1 = none) ∧
   ((∀ e ∈ es ++ gs, ∀ m, summarizerCalled e.1 = some m → selected f.config = some m) ↔
     (f.compactor.bind fun c => c.summarizer) = selected f.config ∨
      ∀ e ∈ es ++ gs, summarizerCalled e.1 = none)) := by
 constructor
 · intro hsetup hrun e he m hm
   rcases List.mem_append.mp he with he | he
   · rw [(setup_calls_nothing hsetup e he).1] at hm
     cases hm
   · exact (run_calls hsetup hrun e he).1 m hm
 · intro hsetup hrun
   have hstream:=stream_calls hsetup hrun
   constructor
   · apply all_reach_iff
     intro e he m hm
     rcases List.mem_append.mp he with he | he
     · rw [(setup_calls_nothing hsetup e he).1] at hm
       cases hm
     · exact streamsSelected_iff ((hstream e he).1 m hm)
   · apply all_reach_iff
     intro e he m hm
     rcases List.mem_append.mp he with he | he
     · rw [(setup_calls_nothing hsetup e he).2] at hm
       cases hm
     · rw [(hstream e he).2 m hm]
       exact eq_comm

def answering (choice : ModelSelection) (reply : ModelResponse) :
  (o : AgentOp) → Unit → Option (o.Reply × Unit)
 | .runtime (.step .ctxErr), _ => some ((none : Option Err), ())
 | .runtime (.step (.emit _)), _ => some ((), ())
 | .runtime .newRunID, _ => some ("run-1", ())
 | .newStepID, _ => some ("step-1", ())
 | .resolveModel _, _ => some (.ok choice, ())
 | .generate _ _, _ => some (.ok reply, ())
 | .stream _ _, _ => some (.ok ⟨[{ text := "done", finishReason := .stop }], none⟩, ())
 | .sendDelta _, _ => some (true, ())
 | _, _ => none

def doneReply : ModelResponse := ⟨{ role := .assistant, content := "done" }, .stop, .empty, none⟩

def questionInput : RunInput := { messages := [{ role := .user, content := "question" }] }

def ownModel : ModelRef := ⟨"own", false⟩

def chosenModel : ModelRef := ⟨"chosen", false⟩

def chosen : ModelSelection := ⟨some chosenModel, none, "chosen"⟩

def answers {α : Type} (p : AgentProg α) : List (Event AgentSig) :=
 p.answered (answering chosen doneReply) ()

lemma trace_answers {α:Type} {p:AgentProg α} {b}
  (h:p.answer (answering chosen doneReply) ()=some (b,())) : Trace p (answers p) (.ret b) :=
 (Monitor.follows_answered (M := Monitor.replies fun _ _=>True) (fun _ _ _ _ _=>trivial) h).1

def questionFrame (config : RunConfig) : RunFrame where
 runID := "run-1"
 executionID := ""
 input := questionInput
 config := config
 compactor := none
 priorMessages := []
 toolDefinitions := []
 outputSchema := none
 compiledOutput := none

def doneOutcome : AgentOutcome where
 result := {
  id := "run-1"
  status := .succeeded
  messages := [{ role := .user, content := "question" }, doneReply.message] }

def streamingAgent : Agent where
 id := "agent"
 model := some ⟨"own", true⟩
 maxSteps := 1
 configured := rfl

theorem streaming_agent_reaches_selected :
  ((answers (run streamingAgent questionInput)).filterMap (fun e => modelCalled e.1) =
    [.model ⟨"own", true⟩] ∧
   ∀ e ∈ answers (run streamingAgent questionInput), ∀ m, modelCalled e.1 = some m →
    some (.model ⟨"own", true⟩) = some m) ∧
  (answers (runStream streamingAgent questionInput)).filterMap (fun e => modelCalled e.1) =
    [.model ⟨"own", true⟩] ∧
   ∀ e ∈ answers (runStream streamingAgent questionInput), ∀ m, modelCalled e.1 = some m →
    some (.model ⟨"own", true⟩) = some m := by
 let setup:=answers (setupRun streamingAgent questionInput)
 have hsetup:Trace (setupRun streamingAgent questionInput) setup
   (.ret (.ok (questionFrame ⟨"",some ⟨"own",true⟩,none,""⟩),true)) := trace_answers rfl
 have hrun:Trace (run streamingAgent questionInput) (answers (run streamingAgent questionInput))
   (.ret doneOutcome) := trace_answers rfl
 have hstream:Trace (runStream streamingAgent questionInput)
   (answers (runStream streamingAgent questionInput)) (.ret doneOutcome) := trace_answers rfl
 refine ⟨⟨rfl,?_⟩,rfl,?_⟩
 · exact (calls_reach_selected streamingAgent questionInput _ true setup
    ((answers (run streamingAgent questionInput)).drop setup.length) _).1 hsetup hrun
 · exact ((calls_reach_selected streamingAgent questionInput _ true setup
    ((answers (runStream streamingAgent questionInput)).drop setup.length) _).2
     hsetup hstream).1.mpr (.inl (.inr (.inl rfl)))

def resolvingAgent : Agent where
 id := "agent"
 model := some ownModel
 modelResolver := true
 maxSteps := 1
 configured := rfl

/-- The resolver selects one model and the streaming loop calls the other. -/
theorem stream_calls_other_model : Trace (setupRun resolvingAgent (freshInput questionInput))
   (answers (setupRun resolvingAgent questionInput))
   (.ret (.ok (questionFrame ⟨"", some chosenModel, none, "chosen"⟩), true)) ∧
  Trace (runStream resolvingAgent questionInput)
   (answers (runStream resolvingAgent questionInput)) (.ret doneOutcome) ∧
  selected ⟨"", some chosenModel, none, "chosen"⟩ = some (.model chosenModel) ∧
  (answers (runStream resolvingAgent questionInput)).filterMap (fun e => modelCalled e.1) =
   [.model ownModel] :=
 ⟨trace_answers rfl,trace_answers rfl,rfl,rfl⟩

section

def Uncalled (o : AgentOp) : Prop := modelCalled o = none

def count (k : ℕ) (o : AgentOp) (_ : o.Reply) : ℕ := if modelCalled o = none then k else k + 1

/-- The program calls models at most `n` times. -/
def Calls {α : Type} (n : ℕ) (p : AgentProg α) : Prop :=
 ∀ limit k, k + n ≤ limit →
  wp (Monitor.ghost (fun k o => Uncalled o ∨ k < limit) count) p (fun _ u => u ≤ k + n) k

variable {α β:Type} {p:AgentProg α} {g:α → AgentProg β} {n l:ℕ}

lemma calls_of_asks (hp:Asks Uncalled p) : Calls n p := by
 intro limit k hk
 refine hp.wp (· ≤ k+n) ?_ (Nat.le_add_right k n)
 intro u o ho hu
 refine ⟨.inl ho,?_⟩
 rintro r _ rfl
 exact (if_pos ho).trans_le hu

lemma Calls.bind {m} (hp:Calls m p) (hg:∀ x,Calls n (g x)) (hl:m+n=l) :
  Calls l (p >>= g) := by
 intro limit k hk
 apply wp_seq (hp limit k (by omega))
 intro x u hu
 exact wp_mono (hg x limit u (by omega)) fun _ v hv=>by omega

lemma Calls.after (hp:Asks Uncalled p) (hg:∀ x,Calls n (g x)) : Calls n (p >>= g) :=
 (calls_of_asks hp).bind hg (Nat.zero_add n)

lemma Calls.before (hp:Calls n p) (hg:∀ x,Asks Uncalled (g x)) : Calls n (p >>= g) :=
 hp.bind (fun x=>calls_of_asks (hg x)) (Nat.add_zero n)

lemma calls_op (o) : Calls 1 (agentOp o) := by
 refine fun limit k hk=>⟨.inr hk,?_⟩
 rintro r _ rfl
 show count k o r ≤ k+1
 unfold count
 split <;> omega

lemma uncalled_of_plain (o) (ho:Plain o) : Uncalled o := by
 cases o with
 | generate | stream => exact ho.elim
 | _ => rfl

variable {a:Agent} {f:RunFrame} {step:ℕ} {transcript:List Message}

lemma calls_openStep {send} (hsend:∀ stepID request,Calls 1 (send stepID request)) :
  Calls 1 (openStep a f step transcript send) := by
 refine .after (asks_runCtxErr uncalled_of_plain) ?_
 rintro (_ | e)
 · refine .after (asks_op rfl) fun stepID=>.after (asks_emitEvent uncalled_of_plain) fun _=>?_
   refine .after (asks_prepareRequest uncalled_of_plain fun _ _ _ _ _ _ _=>rfl) ?_
   rintro (request | out)
   · exact hsend stepID request
   · exact calls_of_asks asks_ret
 · exact calls_of_asks (asks_bind (asks_endCancelled uncalled_of_plain) fun _=>asks_ret)

lemma asks_handleResponse_uncalled {stepID response} :
  Asks Uncalled (handleResponse a f step stepID transcript response) :=
 asks_handleResponse uncalled_of_plain (fun _=>rfl) (fun _ _=>rfl) rfl fun _=>rfl

lemma calls_runStep : Calls 1 (runStep a f step transcript) := by
 refine calls_openStep fun stepID request=>.before ?_ ?_
 · unfold generateModel
   split
   · exact calls_op _
   · exact calls_op _
   · exact calls_of_asks (asks_crash uncalled_of_plain)
 rintro (e | response)
 · exact asks_bind (asks_endModel uncalled_of_plain) fun _=>asks_ret
 · exact asks_handleResponse_uncalled

lemma calls_consumeStream {stepID request} : Calls 1 (consumeStream a f step stepID request) := by
 unfold consumeStream
 split
 · refine .before ?_ ?_
   · unfold fallbackModel
     split
     · exact calls_op _
     · exact calls_op _
     · exact calls_of_asks (asks_crash uncalled_of_plain)
   rintro (e | response)
   · exact asks_ret
   · exact asks_deliverResponse uncalled_of_plain
 · refine (calls_op _).before ?_
   rintro (e | stream)
   · exact asks_ret
   · exact asks_receiveDeltas uncalled_of_plain

lemma calls_streamStep : Calls 1 (streamStep a f step transcript) := by
 refine calls_openStep fun stepID request=>calls_consumeStream.before ?_
 rintro (e | response)
 · exact asks_bind (asks_endStream uncalled_of_plain) fun _=>asks_ret
 · exact asks_handleResponse_uncalled

lemma calls_runLoop {body} (hbody:∀ step transcript,Calls 1 (body step transcript))
  (hn:n ≤ l) : Calls l (runLoop a f body n step transcript) := by
 induction n generalizing l step transcript with
 | zero => exact calls_of_asks (asks_endFailed uncalled_of_plain)
 | succ n ih =>
  refine (hbody step transcript).bind ?_ (Nat.add_sub_cancel' (Nat.le_of_add_left_le hn))
  rintro (transcript | out)
  · exact ih (by omega)
  · exact calls_of_asks asks_ret

end

/-- No run and no stream calls models more often than its agent may take steps. -/
theorem model_calls_bounded (a : Agent) (input : RunInput) :
  Heeds (fun k o => Uncalled o ∨ k < a.maxSteps) count 0 (run a input) ∧
  Heeds (fun k o => Uncalled o ∨ k < a.maxSteps) count 0 (runStream a input) := by
 have hloop (f : RunFrame) {body first} (hbody : ∀ step transcript, Calls 1 (body step transcript))
   (hfirst : 1 ≤ first) : Calls a.maxSteps (loopFrom a f body first) :=
  calls_runLoop hbody (by omega)
 refine ⟨heeds_of_wp (Calls.after (asks_setupRun uncalled_of_plain) ?_ _ 0 (Nat.le_of_eq (Nat.zero_add _))),
  heeds_of_wp (Calls.after (asks_setupRun uncalled_of_plain) ?_ _ 0 (Nat.le_of_eq (Nat.zero_add _)))⟩
 · rintro ⟨out | f,journaled⟩
   · exact calls_of_asks (asks_bind (asks_finishJournal uncalled_of_plain) fun _=>asks_ret)
   · exact (hloop f (fun _ _=>calls_runStep) (Nat.le_max_left _ _)).before fun _ =>
      asks_bind (asks_finishJournal uncalled_of_plain) fun _=>asks_ret
 · rintro ⟨out | f,journaled⟩
   · exact calls_of_asks asks_ret
   · exact (hloop f (fun _ _=>calls_streamStep) (Nat.le_refl 1)).before fun _ =>
      asks_bind (asks_flushDiagnostics uncalled_of_plain) fun _=>asks_ret

end Lebro.AgentModels
