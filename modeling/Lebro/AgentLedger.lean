import Lebro.AgentOperations

set_option autoImplicit false

namespace Lebro.AgentLedger

open EffectProgram EffectRuns RuntimeTypes RuntimeRecords RuntimeEffects StoreRecords AgentEffects
open AgentTools AgentLoop AgentOperations

variable {phase:ProcessorPhase} {w:PhaseValue phase} {ps:List Processor} {β:Type}
 {v x:PhaseValue phase}

/-- The messages that models and tools produced, the recordings and the transactions on runs that
were committed, and whether the last transaction is the last write to the runs. -/
structure Ledger where
 produced : List Message := []
 commits : List (Prog TranscriptSig (Except Err Unit)) := []
 transactions : List (RepoProg (Except Err Unit)) := []
 settled : Bool := true

variable {l:Ledger} {Q:β → Ledger → Prop}

def reads : RepoOp → Bool
 | .getWorkflowRun _ | .listWorkflowSnapshots _ _ => true
 | .saveWorkflowRun _ | .saveWorkflowSnapshot _ | .saveSchedule _ => false

def toolOutput (invocation : ToolInvocation) (output : RawMessage) : Message :=
 toolResultMessage invocation.callID
  { toolID := invocation.toolID, state := .succeeded, output := output }

def Ledger.update (l : Ledger) : (o : AgentOp) → o.Reply → Ledger
 | .generate _ _, .ok r => { l with produced := l.produced ++ [r.message] }
 | .tool invocation, .output v => { l with produced := l.produced ++ [toolOutput invocation v] }
 | .transcript body, .ok () => { l with commits := l.commits ++ [body] }
 | .runtime (.transaction body), .ok () =>
  { l with transactions := l.transactions ++ [body], settled := true }
 | .runtime (.repo o), _ => { l with settled := l.settled && reads o }
 | _, _ => l

def ledgerFrom (l : Ledger) (es : List (Event AgentSig)) : Ledger :=
 es.foldl (fun l e => l.update e.1 e.2) l

def ledger (es : List (Event AgentSig)) : Ledger := ledgerFrom {} es

def Same : (phase : ProcessorPhase) → PhaseValue phase → PhaseValue phase → Prop
 | .input, v, w =>
  w.messages = v.messages ∧ w.memoryRecalled = v.memoryRecalled ∧ w.threadID = v.threadID
 | .modelResponse, v, w => w.message = v.message
 | .output, v, w => w.messages = v.messages ∧ w.status = v.status
 | .modelRequest, _, _ | .streamDelta, _, _ => True

def LeavesMessages : (o : AgentOp) → o.Reply → Prop
 | .process phase _ v, .decided .transform w => Same phase v w
 | _, _ => True

def recording : Monitor AgentSig Ledger where
 demand _ _ := True
 step l o r u := LeavesMessages o r ∧ u = l.update o r

lemma recording_follows {es} {l} (h:∀ e ∈ es,LeavesMessages e.1 e.2) :
  recording.Follows l es (ledgerFrom l es) := by
 induction es generalizing l with
 | nil => exact .nil l
 | cons e es ih =>
  obtain ⟨he,hes⟩:=List.forall_mem_cons.mp h
  exact .cons ⟨he,rfl⟩ (ih hes)

lemma update_of_plain {l:Ledger} {o r} (ho:Plain o) : l.update o r=l := by
 cases o with
 | generate | tool | transcript => exact ho.elim
 | runtime o =>
  cases o with
  | transaction | repo => exact ho.elim
  | _ => rfl
 | _ => rfl

lemma wp_op {o g} (h:∀ r,LeavesMessages o r → wp recording (g r) Q (l.update o r)) :
  wp recording (agentOp o >>= g) Q l :=
 ⟨trivial,fun r _ hr=>hr.2 ▸ h r hr.1⟩
lemma wp_plainOp {o g} (h : ∀ r,LeavesMessages o r → wp recording (g r) Q l)
  (ho : Plain o := by trivial) : wp recording (agentOp o >>= g) Q l :=
 wp_op fun r hr=>(update_of_plain ho).symm ▸ h r hr

lemma wp_plain {α:Type} {p:AgentProg α} (hp:Asks Plain p) {l} :
  wp recording p (fun _ u=>u=l) l :=
 hp.wp (fun u=>u=l)
  (fun s o ho hs=>⟨trivial,fun r u hu=>by rw [hu.2,update_of_plain ho,hs]⟩) rfl

lemma Same.refl (phase v) : Same phase v v := by
 cases phase with
 | input => exact ⟨rfl,rfl,rfl⟩
 | modelResponse => exact rfl
 | output => exact ⟨rfl,rfl⟩
 | modelRequest => trivial
 | streamDelta => trivial

lemma Same.trans (h:Same phase v w) (h':Same phase w x) : Same phase v x := by
 cases phase with
 | input => exact ⟨h'.1.trans h.1,h'.2.1.trans h.2.1,h'.2.2.trans h.2.2⟩
 | modelResponse => exact Eq.trans h' h
 | output => exact ⟨h'.1.trans h.1,h'.2.trans h.2⟩
 | modelRequest => trivial
 | streamDelta => trivial

lemma same_transformed (h:Same phase v w) : Same phase v (transformed phase v w) := by
 cases phase <;> exact h

def Recalled : (phase : ProcessorPhase) → PhaseValue phase → PhaseValue phase → Prop
 | .input, v, w => w.threadID = v.threadID ∧ w.memoryRecalled = true ∧
   ∃ recalled, w.messages = recalled :: v.messages
 | .modelRequest, _, _ | .modelResponse, _, _ | .streamDelta, _, _ | .output, _, _ => False

lemma Recalled.same_left (h:Same phase v w) (h':Recalled phase w x) : Recalled phase v x := by
 cases phase with
 | input =>
  obtain ⟨hthread,hflag,recalled,hmessages⟩:=h'
  exact ⟨hthread.trans h.2.2,hflag,recalled,hmessages.trans (by rw [h.1])⟩
 | _ => exact h'.elim

lemma Recalled.same_right (h:Recalled phase v w) (h':Same phase w x) : Recalled phase v x := by
 cases phase with
 | input =>
  obtain ⟨hthread,hflag,recalled,hmessages⟩:=h
  exact ⟨h'.2.2.trans hthread,h'.2.1.trans hflag,recalled,h'.1.trans hmessages⟩
 | _ => exact h.elim

def transformOf {α : Type} : Option (ProcessorReply α) → Option α
 | some (.decided .transform w) => some w
 | _ => none

lemma wp_memoryProcess {phase v l} :
  wp recording (memoryProcess phase v) (fun r u=>u=l ∧
   ∀ w,transformOf r=some w → Recalled phase v (transformed phase v w)) l := by
 cases phase with
 | modelRequest | modelResponse | streamDelta =>
  dsimp only [memoryProcess]
  exact ⟨rfl,fun _ h=>by cases h⟩
 | input =>
  refine wp_plainOp ?_
  intro recalled _
  cases recalled with
  | error e => exact ⟨rfl,nofun⟩
  | ok content =>
   dsimp only
   split
   · exact ⟨rfl,nofun⟩
   refine ⟨rfl,?_⟩
   rintro w ⟨⟩
   exact ⟨rfl,rfl,_,rfl⟩
 | output =>
  dsimp only [memoryProcess]
  split
  · exact ⟨rfl,nofun⟩
  refine wp_plainOp ?_
  intro extracted _
  cases extracted <;> exact ⟨rfl,fun _ h=>by cases h⟩

lemma wp_processOne {p phase v l} :
  wp recording (processOne p phase v) (fun r u=>u=l ∧
   ∀ w,transformOf r=some w →
    if p.memory then Recalled phase v (transformed phase v w)
    else Same phase v (transformed phase v w)) l := by
 unfold processOne
 split
 · exact wp_memoryProcess
 split
 · refine wp_plainOp ?_
   intro reply hleaves
   refine ⟨rfl,?_⟩
   intro w hw
   cases reply with
   | error e => cases hw
   | decided decision next =>
    cases decision with
    | transform =>
     cases hw
     exact same_transformed hleaves
    | _ => cases hw
 · exact ⟨rfl,nofun⟩

section

variable {runID:RunID} {step:Nat} {stepID:StepID} {phase:ProcessorPhase}

lemma wp_process_cons {p:Processor} {v:PhaseValue phase} {Q:PhaseValue phase → Prop}
  (hrest:wp recording (process runID step stepID phase ps v) (fun r u=>u=l ∧
   ∀ w,r = .ok w → Q w) l)
  (htransform:∀ w,(if p.memory then Recalled phase v w else Same phase v w) →
   wp recording (process runID step stepID phase ps w) (fun r u=>u=l ∧ ∀ x,r = .ok x →
   Q x) l) :
  wp recording (process runID step stepID phase (p :: ps) v)
   (fun r u=>u=l ∧ ∀ w,r = .ok w → Q w) l := by
 refine wp_seq wp_processOne ?_
 rintro reply u ⟨rfl,hreply⟩
 cases reply with
 | none => exact hrest
 | some reply =>
  cases reply with
  | error e =>
   refine wp_plainOp ?_
   intro _ _
   exact ⟨rfl,nofun⟩
  | decided decision next =>
   refine wp_plainOp ?_
   intro _ _
   cases decision with
   | other text | block => exact ⟨rfl,nofun⟩
   | transform => exact htransform _ (hreply next rfl)
   | unset | allow => exact hrest

lemma wp_process_same (hps:∀ p ∈ ps,p.memory=false) {v l} :
  wp recording (process runID step stepID phase ps v)
   (fun r u=>u=l ∧ ∀ w,r = .ok w → Same phase v w) l := by
 induction ps generalizing v with
 | nil => exact ⟨rfl,fun w h=>Except.ok.inj h ▸ Same.refl phase v⟩
 | cons p ps ih =>
  obtain ⟨hp,hps⟩:=List.forall_mem_cons.mp hps
  apply wp_process_cons (ih hps)
  intro w hw
  rw [hp] at hw
  apply wp_mono (ih hps)
  rintro r u ⟨hu,hr⟩
  exact ⟨hu,fun x hx=>hw.trans (hr x hx)⟩

def OneMemory (ps : List Processor) : Prop := (ps.filter fun p => p.memory).length ≤ 1

lemma wp_process (hps:OneMemory ps) {v l} :
  wp recording (process runID step stepID phase ps v)
   (fun r u=>u=l ∧ ∀ w,r = .ok w → Same phase v w ∨ Recalled phase v w) l := by
 induction ps generalizing v with
 | nil => exact ⟨rfl,fun w h=>Except.ok.inj h ▸ .inl (Same.refl phase v)⟩
 | cons p ps ih =>
  cases hp : p.memory with
  | true =>
   have hrest:∀ q ∈ ps,q.memory=false:=by simpa [OneMemory,hp] using hps
   have hone:OneMemory ps:=by
    have hnone:ps.filter (fun q=>q.memory)=[]:=
     List.filter_eq_nil_iff.mpr fun q hq=>by simp [hrest q hq]
    simp [OneMemory,hnone]
   apply wp_process_cons (ih hone)
   intro w hw
   rw [hp] at hw
   apply wp_mono (wp_process_same hrest)
   rintro r u ⟨hu,hr⟩
   exact ⟨hu,fun x hx=>.inr (hw.same_right (hr x hx))⟩
  | false =>
   have hone:OneMemory ps:=by simpa [OneMemory,hp] using hps
   apply wp_process_cons (ih hone)
   intro w hw
   rw [hp] at hw
   apply wp_mono (ih hone)
   rintro r u ⟨hu,hr⟩
   exact ⟨hu,fun x hx=>(hr x hx).imp hw.trans fun h=>h.same_left hw⟩

end

lemma wp_plainThen {α:Type} {p:AgentProg α} {g}
  (hp:∀ P : AgentOp → Prop,(∀ o,Plain o → P o) → Asks P p) (hg:∀ x,wp recording (g x) Q l) :
  wp recording (p >>= g) Q l :=
 wp_seq (wp_plain (hp Plain fun _ h=>h)) fun x _ hu=>hu ▸ hg x

lemma wp_unlessCancelled {id} {next Q} (hcancel:∀ e,Q (failedToolExecution id .cancelled e) l)
  (hnext:wp recording next Q l) : wp recording (unlessCancelled id next) Q l := by
 refine wp_plainOp ?_
 intro ended _
 cases ended with
 | some e => exact hcancel e
 | none => exact hnext

structure Kept (l u : Ledger) : Prop where
 commits : u.commits = l.commits
 transactions : u.transactions = l.transactions
 settled : u.settled = l.settled

lemma Kept.refl (l) : Kept l l := ⟨rfl,rfl,rfl⟩
lemma Kept.trans {u v} (h : Kept l u) (h' : Kept u v) : Kept l v :=
 ⟨h'.commits.trans h.commits,h'.transactions.trans h.transactions,h'.settled.trans h.settled⟩

structure ToolPost (l : Ledger) (callID : String) (result : ToolExecutionResult) (u : Ledger) :
  Prop where
 kept : Kept l u
 produced : result.state = .succeeded → u.produced = l.produced ++ [toolResultMessage callID result]

lemma toolPost_failed {u callID id state e} (hu:Kept l u) (hstate:state ≠ .succeeded) :
  ToolPost l callID (failedToolExecution id state e) u :=
 ⟨hu,fun h=>absurd h hstate⟩

lemma wp_handlerResult {tool invocation reply l} :
  wp recording (handlerResult tool invocation.toolID reply)
   (ToolPost l invocation.callID) (l.update (.tool invocation) reply) := by
 cases reply with
 | panic value => exact toolPost_failed ⟨rfl,rfl,rfl⟩ nofun
 | error e =>
  dsimp only [handlerResult]
  split <;> exact toolPost_failed ⟨rfl,rfl,rfl⟩ nofun
 | output value =>
  refine wp_unlessCancelled (fun e=>toolPost_failed ⟨rfl,rfl,rfl⟩ nofun) ?_
  split
  · exact toolPost_failed ⟨rfl,rfl,rfl⟩ nofun
  · exact ⟨⟨rfl,rfl,rfl⟩,fun _=>rfl⟩

lemma wp_executeTool {tool invocation l} :
  wp recording (executeTool tool invocation) (ToolPost l invocation.callID) l := by
 have hcancel:∀ e,ToolPost l invocation.callID
   (failedToolExecution invocation.toolID .cancelled e) l :=
  fun e=>toolPost_failed ⟨rfl,rfl,rfl⟩ nofun
 refine wp_unlessCancelled hcancel (wp_unlessCancelled hcancel ?_)
 split
 · exact toolPost_failed ⟨rfl,rfl,rfl⟩ nofun
 apply wp_op
 intro reply _
 refine wp_unlessCancelled (fun e=>toolPost_failed ?_ nofun)
  wp_handlerResult
 cases reply <;> exact ⟨rfl,rfl,rfl⟩

lemma wp_executeToolCall {a runID step stepID threadID call metadata l} :
  wp recording (executeToolCall a runID step stepID threadID call metadata)
   (ToolPost l call.id) l := by
 unfold executeToolCall
 split
 · exact toolPost_failed ⟨rfl,rfl,rfl⟩ nofun
 split
 · exact toolPost_failed ⟨rfl,rfl,rfl⟩ nofun
 apply wp_plainThen (fun _ hplain=>asks_authorizeTool hplain)
 intro denial
 cases denial with
 | some e => exact toolPost_failed ⟨rfl,rfl,rfl⟩ nofun
 | none =>
  dsimp only
  split
  · exact toolPost_failed ⟨rfl,rfl,rfl⟩ nofun
  · exact wp_executeTool

structure Running (f : RunFrame) (transcript : List Message) (l : Ledger) : Prop where
 kept : Kept {} l
 transcript : transcript = f.transcript ++ l.produced

structure Finished (a : Agent) (f : RunFrame) (l : Ledger) : Prop where
 produced : l.produced ≠ []
 commits : a.store.isSome → f.input.threadID ≠ "" → ∃ created now,
  l.commits = [recordRun f.input.threadID f.runID (newMessageRecords a f.input.threadID f.runID
   (f.transcript ++ l.produced) f.loadedCount f.input.memoryRecalled created) now]

structure Stored (f : RunFrame) (first : Nat) (messages : List Message)
  (state : ToolApprovalSnapshot) : Prop where
 runID : state.request.runID = f.runID
 step : first ≤ state.request.step
 transcript : state.transcript = messages
 instructions : state.instructions = snapshotInstructions messages
 threadID : state.threadID = f.input.threadID
 loadedCount : state.loadedCount = f.loadedCount

structure Waiting (a : Agent) (f : RunFrame) (first : Nat) (l : Ledger) : Prop where
 produced : l.produced ≠ []
 commits : l.commits = []
 settled : l.settled = true
 transactions : ∃ state now, l.transactions = [suspendRun a state now] ∧
  Stored f first (f.transcript ++ l.produced) state

structure Ended (a : Agent) (f : RunFrame) (first : Nat) (out : AgentOutcome) (l : Ledger) :
  Prop where
 finished : out.result.status = .succeeded → Finished a f l
 waiting : out.result.status = .suspended → Waiting a f first l

def StepPost (a : Agent) (f : RunFrame) (first : Nat) (r : List Message ⊕ AgentOutcome)
  (l : Ledger) : Prop :=
 match r with
 | .inl transcript => Running f transcript l ∧ l.produced ≠ []
 | .inr out => Ended a f first out l

section

variable {a:Agent} {f:RunFrame} {first:Nat} (hone:OneMemory a.processors)
variable {step:Nat} {stepID:StepID} {transcript:List Message}

lemma wp_endCancelled {cause l} :
  wp recording (endCancelled f step stepID transcript cause) (Ended a f first) l := by
 refine wp_plainOp ?_
 intro _ _
 exact ⟨nofun,nofun⟩

lemma wp_endFailedWith {reported e l} :
  wp recording (endFailedWith f step stepID transcript reported e) (Ended a f first) l := by
 refine wp_plainOp ?_
 intro _ _
 exact ⟨nofun,nofun⟩

lemma wp_endFailed {e l} :
  wp recording (endFailed f step stepID transcript e) (Ended a f first) l :=
 wp_endFailedWith

lemma wp_endProcessor {e l} :
  wp recording (endProcessor f step stepID transcript e) (Ended a f first) l := by
 unfold endProcessor
 split
 · exact wp_endCancelled
 · exact wp_endFailed

lemma wp_endModel {e l} :
  wp recording (endModel f step stepID transcript e) (Ended a f first) l := by
 refine wp_plainOp ?_
 intro ended _
 split
 · refine wp_plainOp ?_
   intro _ _
   exact wp_endCancelled
 · refine wp_plainOp ?_
   intro _ _
   exact wp_endFailedWith

lemma wp_inr {p} (hp:wp recording p (Ended a f first) l) :
  wp recording (p >>= fun out=>.ret (Sum.inr out : List Message ⊕ AgentOutcome))
   (StepPost a f first) l :=
 wp_seq hp fun _ _ h=>h

lemma wp_runTool {call l} (hl:Running f transcript l) :
  wp recording (runTool a f step stepID transcript call) (StepPost a f first) l := by
 refine wp_plainOp ?_
 intro _ _
 refine wp_seq wp_executeToolCall ?_
 intro result u hu
 refine wp_plainOp ?_
 intro _ _
 split
 · rename_i hstate
   have hproduced:=hu.produced hstate
   refine ⟨⟨hl.kept.trans hu.kept,?_⟩,?_⟩
   · rw [hproduced,hl.transcript,List.append_assoc]
   · rw [hproduced]
     exact List.append_ne_nil_of_right_ne_nil _ (List.cons_ne_nil _ _)
 · exact wp_inr wp_endCancelled
 · exact wp_inr wp_endFailed

lemma wp_persistToolApproval {state l} :
  wp recording (persistToolApproval a state) (fun r u =>
   r = .ok () → ∃ encoded now,encodeApproval { state with state := .pending } = .ok encoded ∧
    u = { l with
     transactions := l.transactions ++ [suspendRun a encoded now], settled := true }) l := by
 unfold persistToolApproval
 split
 · exact nofun
 split
 · exact nofun
 split
 · exact nofun
 rename_i encoded hencoded
 refine wp_plainOp ?_
 intro now _
 refine ⟨trivial,?_⟩
 rintro r u ⟨-,rfl⟩ hr
 subst hr
 exact ⟨encoded,now,hencoded,rfl⟩

lemma wp_suspend {calls callIndex call resolution l} (hfirst:first ≤ step) :
  wp recording (suspendAgentToolApproval a f step stepID transcript calls callIndex call
   resolution) (fun r u=>r.isOk → ∃ state now,
    u = { l with transactions := l.transactions ++ [suspendRun a state now], settled := true } ∧
     Stored f first transcript state) l := by
 refine wp_plainOp ?_
 intro now _
 refine wp_op ?_
 intro sequence _
 refine wp_seq wp_persistToolApproval ?_
 intro persisted u hu
 cases persisted with
 | error e => exact nofun
 | ok _ =>
  obtain ⟨encoded,now,hencoded,rfl⟩:=hu rfl
  refine wp_plainOp ?_
  intro _ _ _
  refine ⟨encoded,now,rfl,?_⟩
  rw [encodeApproval_eq_ok hencoded]
  exact ⟨rfl,hfirst,rfl,rfl,rfl,rfl⟩

lemma wp_resolveTool {calls callIndex transcript call l} (hfirst:first ≤ step)
  (hl:Running f transcript l) (hproduced:l.produced ≠ []) :
  wp recording (resolveTool a f step stepID calls callIndex transcript call)
   (StepPost a f first) l := by
 apply wp_plainThen (fun _ hplain=>asks_evaluateToolApproval hplain)
 intro resolution
 cases resolution with
 | error e => exact wp_inr wp_endFailed
 | ok resolution =>
  dsimp only
  split
  · exact wp_inr wp_endFailed
  · refine wp_seq (wp_suspend
     hfirst) ?_
    intro suspended u hu
    cases suspended with
    | error e => exact wp_inr wp_endFailed
    | ok request =>
     obtain ⟨state,now,rfl,hstored⟩:=hu rfl
     refine ⟨nofun,fun _=>⟨hproduced,hl.kept.commits,rfl,state,now,?_,?_⟩⟩
     · rw [hl.kept.transactions,List.nil_append]
     · rw [← hl.transcript]
       exact hstored
  · exact wp_runTool hl

lemma wp_runToolCalls {calls callIndex rest transcript l} (hfirst:first ≤ step)
  (hl:Running f transcript l) (hproduced:l.produced ≠ []) :
  wp recording (runToolCalls a f step stepID calls callIndex rest transcript)
   (StepPost a f first) l := by
 induction rest generalizing callIndex transcript l with
 | nil => exact ⟨hl,hproduced⟩
 | cons call rest ih =>
  have hcall:wp recording (runToolCall a f step stepID calls callIndex transcript call)
    (StepPost a f first) l := by
   refine wp_plainOp ?_
   intro ended _
   cases ended with
   | some e => exact wp_inr wp_endCancelled
   | none =>
    refine wp_plainOp ?_
    intro _ _
    exact wp_resolveTool hfirst hl hproduced
  refine wp_seq hcall ?_
  intro ran u hu
  cases ran with
  | inr out => exact hu
  | inl transcript => exact ih hu.1 hu.2

lemma wp_recordAttempts {body n last} (hlast:n=0 → last ≠ .ok ()) {l} :
  wp recording (recordAttempts body n last) (fun r u =>
   r = .ok () → u = { l with commits := l.commits ++ [body] }) l := by
 induction n generalizing last with
 | zero => exact fun h=>absurd h (hlast rfl)
 | succ n ih =>
  apply wp_op
  intro recorded _
  cases recorded with
  | ok _ => exact fun _=>rfl
  | error e =>
   dsimp only
   split
   · exact ih (fun _=>nofun)
   · exact nofun

lemma wp_persistRunRecords {l} :
  wp recording (persistRunRecords a f transcript) (fun r u=>r = .ok () →
   u.produced=l.produced ∧ (a.store.isSome → ∃ created now,
    u.commits=l.commits ++ [recordRun f.input.threadID f.runID (newMessageRecords a
     f.input.threadID f.runID transcript f.loadedCount f.input.memoryRecalled created)
     now])) l := by
 unfold persistRunRecords
 split
 · rename_i hstore
   exact fun _=>⟨rfl,fun h=>by simp [hstore] at h⟩
 · split
   · exact nofun
   · refine wp_plainOp ?_
     intro created _
     refine wp_plainOp ?_
     intro now _
     refine wp_mono (wp_recordAttempts (n := 3) nofun) ?_
     intro r u hu hr
     rw [hu hr]
     exact ⟨rfl,fun _=>⟨created,now,rfl⟩⟩

include hone

lemma wp_finishRun {response l} (hl:Running f transcript l) (hproduced:l.produced ≠ []) :
  wp recording (finishRun a f step stepID transcript response) (Ended a f first) l := by
 unfold finishRun
 split
 · exact wp_endFailed
 refine wp_seq (wp_process hone) ?_
 rintro processed u ⟨rfl,hprocessed⟩
 cases processed with
 | error e => exact wp_endProcessor
 | ok result =>
  have hsame:=(hprocessed result rfl).resolve_right fun h=>h
  have hmessages:result.messages=transcript:=hsame.1
  refine wp_seq wp_persistRunRecords ?_
  intro persisted v hv
  cases persisted with
  | error e => exact wp_endFailed
  | ok _ =>
   refine wp_plainOp ?_
   intro _ _
   obtain ⟨hkept,hcommits⟩:=hv rfl
   refine ⟨fun _=>⟨hkept ▸ hproduced,fun hstore _=>?_⟩,fun hsuspended=>?_⟩
   · obtain ⟨created,now,hcommit⟩:=hcommits hstore
     rw [hmessages,hl.transcript,hl.kept.commits,List.nil_append] at hcommit
     exact ⟨created,now,by rw [hcommit,hkept]⟩
   · cases hsame.2.symm.trans hsuspended

lemma wp_handleResponse {response l} (hfirst:first ≤ step)
  (hl:Running f (transcript ++ [response.message]) l) (hproduced:l.produced ≠ []) :
  wp recording (handleResponse a f step stepID transcript response) (StepPost a f first) l := by
 refine wp_seq (wp_process hone) ?_
 rintro processed u ⟨rfl,hprocessed⟩
 cases processed with
 | error e => exact wp_inr wp_endProcessor
 | ok processed =>
  have hmessage:processed.message=response.message:=by
   rcases hprocessed processed rfl with h | h
   · exact h
   · exact h.elim
  rw [← hmessage] at hl
  dsimp only
  split
  · refine wp_plainOp ?_
    intro _ _
    exact wp_inr wp_endFailedWith
  · refine wp_plainOp ?_
    intro _ _
    split
    · exact wp_runToolCalls hfirst hl hproduced
    · exact wp_inr (wp_finishRun hone hl hproduced)

structure CallPost (l : Ledger) (r : Except Err ModelResponse) (u : Ledger) : Prop where
 kept : Kept l u
 produced : ∀ response, r = .ok response → u.produced = l.produced ++ [response.message]

omit hone in
lemma wp_generateModel {c request l} : wp recording (generateModel c request) (CallPost l) l := by
 have hgenerate:∀ target,wp recording (agentOp (.generate target request)) (CallPost l) l:=by
  intro target
  refine ⟨trivial,?_⟩
  rintro r _ ⟨-,rfl⟩
  cases r with
  | error e => exact ⟨Kept.refl l,fun _ h=>by cases h⟩
  | ok response => exact ⟨⟨rfl,rfl,rfl⟩,fun _ h=>by cases h; rfl⟩
 unfold generateModel
 split
 · exact hgenerate _
 · exact hgenerate _
 · exact ⟨trivial,fun r=>Empty.elim r⟩

omit hone in
lemma wp_compact {request l} :
  wp recording (compact f step stepID request) (fun _ u=>u=l) l := by
 have hasks:Asks (fun o=>∀ (l : Ledger) r,l.update o r=l) (compact f step stepID request):=
  asks_compact (fun o ho l r=>update_of_plain ho)
   fun _ _ _ _ _ _ _ _ _=>rfl
 refine hasks.wp (fun u=>u=l) ?_ rfl
 rintro s o ho rfl
 exact ⟨trivial,fun r u hu=>hu.2.trans (ho _ r)⟩

lemma wp_prepareRequest {l} :
  wp recording (prepareRequest a f step stepID transcript) (fun r u =>
   match r with
   | .inl _ => u=l
   | .inr out => Ended a f first out u) l := by
 apply wp_seq (wp_process hone)
 rintro processed u ⟨rfl,-⟩
 cases processed with
 | error e => exact wp_seq wp_endProcessor fun _ _ h=>h
 | ok request =>
  apply wp_seq wp_compact
  rintro compacted v rfl
  cases compacted with
  | error e => exact wp_seq wp_endFailed fun _ _ h=>h
  | ok request => exact rfl

lemma wp_runStep {l} (hfirst:first ≤ step) (hl:Running f transcript l) :
  wp recording (runStep a f step transcript) (StepPost a f first) l := by
 refine wp_plainOp ?_
 intro ended _
 cases ended with
 | some e => exact wp_inr wp_endCancelled
 | none =>
  refine wp_plainOp ?_
  intro stepID _
  refine wp_plainOp ?_
  intro _ _
  apply wp_seq (wp_prepareRequest hone)
  intro prepared u hu
  cases prepared with
  | inr out => exact hu
  | inl request =>
   cases hu
   refine wp_seq wp_generateModel ?_
   intro response v hv
   cases response with
   | error e => exact wp_inr wp_endModel
   | ok response =>
    have hproduced:=hv.produced response rfl
    refine wp_handleResponse hone hfirst ?_ ?_
    · refine ⟨hl.kept.trans hv.kept,?_⟩
      rw [hproduced,hl.transcript,List.append_assoc]
    · rw [hproduced]
      exact List.append_ne_nil_of_right_ne_nil _ (List.cons_ne_nil _ _)

lemma wp_runLoop {n step} {transcript l} (hfirst:first ≤ step) (hl:Running f transcript l) :
  wp recording (runLoop a f (runStep a f) n step transcript) (Ended a f first) l := by
 induction n generalizing step transcript l with
 | zero => exact wp_endFailed
 | succ n ih =>
  apply wp_seq (wp_runStep hone hfirst hl)
  intro ran u hu
  cases ran with
  | inr out => exact hu
  | inl transcript => exact ih (Nat.le_succ_of_le hfirst) hu.1

end

/-- What the setup makes of the input: the loaded messages, at most one recalled message, and the
messages of the caller. -/
structure Assembled (input : RunInput) (f : RunFrame) : Prop where
 threadID : f.input.threadID = input.threadID
 messages : ∃ remembered : List Message,
  f.input.messages = f.priorMessages.map MessageRecord.message ++ (remembered ++ input.messages) ∧
   (remembered = [] ∧ f.input.memoryRecalled = input.memoryRecalled ∨
    remembered.length = 1 ∧ f.input.memoryRecalled = true)

def SetupPost (input : RunInput) (l : Ledger) (r : Except AgentOutcome RunFrame) (u : Ledger) :
  Prop :=
 u = l ∧ ∀ f, r = .ok f → Assembled input f

section

variable {a:Agent} {runID:RunID}

lemma wp_failSetup {input messages metadata failure l} :
  wp recording (failSetup runID messages metadata failure) (SetupPost input l) l := by
 refine wp_plainOp ?_
 intro _ _
 exact ⟨rfl,fun _ h=>by cases h⟩

lemma wp_assembleRun {input processed}
  (hprocessed:Same .input input processed ∨ Recalled .input input processed) {executionID}
  {config compactor prior l} :
  wp recording (assembleRun a runID executionID processed config compactor prior)
   (SetupPost input l) l := by
 unfold assembleRun
 dsimp only
 split
 · exact wp_failSetup
 split
 · exact wp_failSetup
 split
 · exact wp_failSetup
 refine ⟨rfl,?_⟩
 rintro f ⟨⟩
 rcases hprocessed with ⟨hmessages,hrecalled,hthread⟩ | ⟨hthread,hrecalled,m,hmessages⟩
 · exact ⟨hthread,[],by rw [hmessages]; rfl,.inl ⟨rfl,hrecalled⟩⟩
 · exact ⟨hthread,[m],by rw [hmessages]; rfl,.inr ⟨rfl,hrecalled⟩⟩

lemma wp_resolveRun {input processed}
  (hprocessed:Same .input input processed ∨ Recalled .input input processed) {executionID l} :
  wp recording (resolveRun a runID executionID processed) (SetupPost input l) l := by
 apply wp_plainThen (fun _ hplain=>asks_resolveRunConfig hplain)
 intro config
 cases config with
 | error e => exact wp_failSetup
 | ok config =>
  dsimp only
  split
  · exact wp_failSetup
  apply wp_plainThen (fun _ hplain=>asks_loadPriorMessages hplain)
  intro prior
  cases prior with
  | error e => exact wp_failSetup
  | ok prior => exact wp_assembleRun hprocessed

lemma wp_startRun (hone:OneMemory a.processors) {input l} :
  wp recording (startRun a runID input) (SetupPost input l) l := by
 refine wp_plainThen (fun _ hplain=>asks_emitStarted hplain) ?_
 intro _
 refine wp_plainThen (fun _ hplain=>asks_authorizeRun hplain) ?_
 intro denial
 cases denial with
 | some e => exact wp_failSetup
 | none =>
  dsimp only
  split
  · exact wp_resolveRun (.inl (Same.refl .input input))
  refine wp_seq (wp_process hone) ?_
  rintro processed u ⟨rfl,hprocessed⟩
  cases processed with
  | error e =>
   dsimp only
   split
   · refine wp_plainOp ?_
     intro _ _
     exact ⟨rfl,fun _ h=>by cases h⟩
   · exact wp_failSetup
  | ok processed => exact wp_resolveRun (hprocessed processed rfl)

lemma wp_setupRun (hone:OneMemory a.processors) {input l} :
  wp recording (setupRun a input) (fun r=>SetupPost input l r.1) l := by
 unfold setupRun
 split
 · exact ⟨rfl,fun _ h=>by cases h⟩
 refine wp_plainOp ?_
 intro ended _
 cases ended with
 | some e =>
  refine wp_plainThen (fun _ hplain=>asks_newRunID hplain) ?_
  intro runID
  refine wp_plainOp ?_
  intro _ _
  refine wp_plainThen (fun _ hplain=>asks_flushDiagnostics hplain) ?_
  intro _
  exact ⟨rfl,fun _ h=>by cases h⟩
 | none =>
  refine wp_plainThen (fun _ hplain=>asks_newRunID hplain) ?_
  intro runID
  split
  · exact wp_seq wp_failSetup fun _ _ h=>h
  · exact wp_seq (wp_startRun hone) fun _ _ h=>h

end

end Lebro.AgentLedger
