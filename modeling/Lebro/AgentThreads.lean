import Lebro.AgentLedger
import Lebro.AgentModels
import Lebro.StoreTables

set_option autoImplicit false

namespace Lebro.AgentThreads

open EffectProgram EffectRuns RuntimeTypes RuntimeRecords StoreRecords AgentEffects AgentLoop
open AgentOperations AgentModels AgentLedger List

def suffixRecord (threadID : ThreadID) (runID : RunID) (recalled : Bool) (now : Time)
  (entry : Message × Nat) : Option MessageRecord :=
 if recalled ∧ entry.2 = 0 then none
 else some {
  id := runID ++ "-msg-" ++ toString (entry.2 + 1)
  threadID := threadID
  message := entry.1
  createdAt := now }

lemma suffix_messages (threadID runID recalled now) (ms:List Message) (k)
  (hk:recalled=false ∨ 0 < k) :
  ((ms.zipIdx k).filterMap (suffixRecord threadID runID recalled now)).map
    MessageRecord.message=ms := by
 induction ms generalizing k with
 | nil => rfl
 | cons m ms ih =>
  have hfirst:¬ (recalled=true ∧ k=0):=by
   rintro ⟨rfl,rfl⟩
   simp at hk
  rw [zipIdx_cons,filterMap_cons]
  simp only [suffixRecord,if_neg hfirst,map_cons]
  exact congrArg (m :: ·) (ih (k+1) (.inr (Nat.succ_pos k)))

def staticOffset (a : Agent) : Nat := if a.instructions ≠ "" then 1 else 0

lemma newMessageRecords_messages (a threadID runID transcript loaded recalled now) :
  (newMessageRecords a threadID runID transcript loaded recalled now).map MessageRecord.message =
   transcript.drop (staticOffset a+loaded+if recalled then 1 else 0) := by
 show ((((transcript.drop (staticOffset a+loaded)).zipIdx 0).filterMap
  (suffixRecord threadID runID recalled now)).map MessageRecord.message)=_
 generalize hrest : transcript.drop (staticOffset a+loaded)=rest
 have hdrop:transcript.drop (staticOffset a+loaded+if recalled then 1 else 0) =
   rest.drop (if recalled then 1 else 0) := by
  rw [← hrest,drop_drop]
 rw [hdrop]
 cases recalled with
 | false => exact suffix_messages threadID runID false now rest 0 (.inl rfl)
 | true =>
  cases rest with
  | nil => rfl
  | cons m ms => exact suffix_messages threadID runID true now ms 1 (.inr Nat.zero_lt_one)

lemma newMessageRecords_threadID (a threadID runID transcript loaded recalled now) :
  ∀ v ∈ newMessageRecords a threadID runID transcript loaded recalled now,
   v.threadID=threadID := by
 intro v hv
 obtain ⟨entry,_,hentry⟩:=mem_filterMap.mp hv
 dsimp only at hentry
 split at hentry
 · cases hentry
 · cases hentry
   rfl

/-- The transaction of a finished run over the tables of the memory store. The diagnostics are in
other tables. -/
def transcriptWorld (ctx : StoreTables.StoreContext) :
  Monitor TranscriptSig StoreTables.StoreState where
 demand _ _ := True
 step s o r u :=
  match o, r with
  | .getThread id, r => r = StoreTables.getThread ctx s id ∧ u = s
  | .contextScope, r => r = ctx.scope.getD {} ∧ u = s
  | .createThread v, r => writes s (StoreTables.createThread ctx s v) r u
  | .appendMessages vs, r => writes s (StoreTables.appendMessages ctx s vs) r u
  | .writeObservability _, _ => u.messages = s.messages ∧ u.threads = s.threads
where
 writes (s : StoreTables.StoreState) (out : Except Err StoreTables.StoreState)
   (r : Except Err Unit) (u : StoreTables.StoreState) : Prop :=
  match out with
  | .error e => r = .error e ∧ u = s
  | .ok v => r = .ok () ∧ u = v

def appended (s : StoreTables.StoreState) (threadID : ThreadID) (records : List MessageRecord) :
  ThreadID → List MessageRecord :=
 StoreTables.put s.messages threadID (s.messages threadID ++ records)

section

variable {ctx:StoreTables.StoreContext} {s u:StoreTables.StoreState} {threadID:ThreadID}
 {runID:RunID} {records:List MessageRecord} {now:Time}

lemma appendMessages_messages (hrecords:∀ v ∈ records,v.threadID=threadID)
  (h:StoreTables.appendMessages ctx s records = .ok u) :
  u.messages=appended s threadID records := by
 have h:=StoreTables.alive_eq_ok h
 split at h
 · cases h
 cases h
 funext id
 by_cases hid : id=threadID
 · subst hid
   simp only [appended,StoreTables.put,if_true]
   rw [filter_eq_self.mpr fun v hv=>by simpa using hrecords v hv]
 · simp only [appended,StoreTables.put,if_neg hid]
   rw [filter_eq_nil_iff.mpr fun v hv=>by simpa [hrecords v hv] using Ne.symm hid,append_nil]

lemma createThread_messages {v} (h:StoreTables.createThread ctx s v = .ok u) :
  u.messages=s.messages := by
 have h:=StoreTables.alive_eq_ok h
 split at h
 · cases h
 split at h
 · cases h
 split at h
 · cases h
 · cases h
   rfl

lemma writes_ok {out} (h:transcriptWorld.writes s out (.ok ()) u) : out = .ok u := by
 cases out with
 | error e => exact nomatch h.1
 | ok v => exact congrArg Except.ok h.2.symm

lemma appended_nil : appended s threadID []=s.messages := by
 funext id
 by_cases hid : id=threadID <;> simp [appended,StoreTables.put,hid]

lemma wp_appendNew (hrecords:∀ v ∈ records,v.threadID=threadID) :
  wp (transcriptWorld ctx) (appendNew records)
   (fun r u=>r = .ok () → u.messages=appended s threadID records) s := by
 unfold appendNew
 split
 · rename_i hempty
   intro _
   rw [isEmpty_iff.mp hempty,appended_nil]
 · refine ⟨trivial,fun r u hstep hr=>?_⟩
   subst hr
   exact appendMessages_messages hrecords (writes_ok hstep)

lemma wp_appendRecords (hrecords:∀ v ∈ records,v.threadID=threadID) :
  wp (transcriptWorld ctx) (appendRecords records runID)
   (fun r u=>r = .ok () → u.messages=appended s threadID records) s := by
 unfold appendRecords
 apply wp_seq (wp_appendNew hrecords)
 intro r v hv
 cases r with
 | error e => exact fun h=>nomatch h
 | ok _ => exact ⟨trivial,fun r u hstep _=>hstep.1.trans (hv rfl)⟩

lemma wp_recordRun (hthread:threadID ≠ "") (hrecords:∀ v ∈ records,v.threadID=threadID) :
  wp (transcriptWorld ctx) (recordRun threadID runID records now)
   (fun r u=>r = .ok () → u.messages=appended s threadID records) s := by
 unfold recordRun
 rw [if_neg hthread]
 refine (wp_perform (S := TranscriptSig) _ _ _ _).mpr ⟨trivial,fun thread v hget=>?_⟩
 obtain ⟨-,rfl⟩:=hget
 cases thread with
 | ok _ => exact wp_appendRecords hrecords
 | error e =>
  dsimp only
  split
  · refine (wp_perform (S := TranscriptSig) _ _ _ _).mpr ⟨trivial,fun scope v hscope=>?_⟩
    obtain ⟨-,rfl⟩:=hscope
    refine (wp_perform (S := TranscriptSig) _ _ _ _).mpr ⟨trivial,fun created w hcreate=>?_⟩
    cases created with
    | error e => exact fun h=>nomatch h
    | ok _ =>
     have hsame:w.messages=v.messages:=createThread_messages (writes_ok hcreate)
     have happended:wp (transcriptWorld ctx) (appendRecords records runID)
       (fun r u=>r = .ok () → u.messages=appended w threadID records) w :=
      wp_appendRecords hrecords
     simpa only [appended,hsame] using happended
  · exact fun h=>nomatch h

end

lemma drop_append_eq_iff {α:Type} {front rest:List α} {k} (hrest:rest ≠ []) :
  (front++rest).drop k=rest ↔ k=front.length := by
 constructor
 · intro h
   have hlength:=congrArg List.length h
   have hpos:=length_pos_iff.mpr hrest
   rw [length_drop,length_append] at hlength
   omega
 · rintro rfl
   exact drop_left

def instructionMessages (f : RunFrame) : List Message :=
 if f.config.instructions ≠ "" then [systemMessage f.config.instructions] else []

lemma transcript_eq (f) : f.transcript=instructionMessages f++f.input.messages := by
 unfold RunFrame.transcript instructionMessages
 split <;> rfl

lemma staticOffset_eq_iff (a f) :
  staticOffset a=(instructionMessages f).length ↔
   (a.instructions = "" ↔ f.config.instructions = "") := by
 unfold staticOffset instructionMessages
 by_cases ha : a.instructions = "" <;> by_cases hf : f.config.instructions = "" <;>
  simp [ha,hf]

lemma records_exact_iff {a input f threadID runID produced now} (hf:Assembled input f)
  (hfresh:input.memoryRecalled=false) (hproduced:produced ≠ []) :
  (newMessageRecords a threadID runID (f.transcript++produced) f.loadedCount
    f.input.memoryRecalled now).map MessageRecord.message=input.messages++produced ↔
   (a.instructions = "" ↔ f.config.instructions = "") := by
 obtain ⟨remembered,hmessages,hrecall⟩:=hf.messages
 have hcount:(if f.input.memoryRecalled then 1 else 0)=remembered.length:=by
  rcases hrecall with ⟨hnil,hflag⟩ | ⟨hone,hflag⟩
  · rw [hflag,hfresh,hnil]
    rfl
  · rw [hflag,hone]
    rfl
 have hsplit:f.transcript++produced =
   (instructionMessages f++(f.priorMessages.map MessageRecord.message++remembered)) ++
    (input.messages++produced) := by
  rw [transcript_eq,hmessages]
  simp only [append_assoc]
 have hrest:input.messages++produced ≠ []:=append_ne_nil_of_right_ne_nil _ hproduced
 rw [newMessageRecords_messages,hsplit,drop_append_eq_iff hrest,hcount,
  ← staticOffset_eq_iff]
 simp only [length_append,length_map,RunFrame.loadedCount]
 omega

section

variable {a:Agent} {input:RunInput} {f:RunFrame} {journaled:Bool}
 {es gs:List (Event AgentSig)} {out:AgentOutcome}

lemma ledger_append (es gs) : ledger (es++gs)=ledgerFrom (ledger es) gs := foldl_append

lemma setup_assembled (hone:OneMemory a.processors) (hleaves:∀ e ∈ es,LeavesMessages e.1 e.2)
  (hsetup:Trace (setupRun a input) es (.ret (.ok f,journaled))) :
  ledger es = {} ∧ Assembled input f := by
 obtain ⟨hledger,hframe⟩:=hsetup.wp (recording_follows hleaves) (wp_setupRun hone)
 exact ⟨hledger,hframe f rfl⟩

lemma wp_finishJournal (a runID journaled l) :
  wp recording (finishJournal a runID journaled) (fun _ u=>u=l) l :=
 wp_plain (asks_finishJournal fun _ h=>h)

lemma run_finished (hone:OneMemory a.processors)
  (hleaves:∀ e ∈ es++gs,LeavesMessages e.1 e.2)
  (hsetup:Trace (setupRun a input) es (.ret (.ok f,journaled)))
  (hrun:Trace (run a input) (es++gs) (.ret out)) (hout:out.result.status = .succeeded) :
  Assembled input f ∧ Finished a f (ledger (es++gs)) := by
 have hparts:=forall_mem_append.mp hleaves
 obtain ⟨hledger,hframe⟩:=setup_assembled hone hparts.1 hsetup
 have hrest:=hsetup.after hrun
 have hstart:Running f f.transcript {}:=⟨Kept.refl _,(append_nil _).symm⟩
 have hloop:wp recording (loopFrom a f (runStep a f) (max 1 f.input.resumeStartStep))
   (Ended a f 0) {} := wp_runLoop hone (Nat.zero_le _) hstart
 have hfinish:∀ out l,Ended a f 0 out l → wp recording
   (finishJournal a f.runID journaled >>= fun _=>.ret out) (Ended a f 0) l := by
  intro out l hl
  exact wp_seq (wp_finishJournal a f.runID journaled l) fun _ u hu=>hu ▸ hl
 have hended:=hrest.wp (recording_follows hparts.2) (wp_seq hloop hfinish)
 rw [ledger_append,hledger]
 exact ⟨hframe,hended.finished hout⟩

end

/-- The appended records are the messages of the caller and those of models and tools exactly when
the agent has static instructions as often as the run has resolved ones. -/
theorem thread_records_exact_iff (a : Agent) (input : RunInput) (f : RunFrame) (journaled : Bool)
  (es gs : List (Event AgentSig)) (out : AgentOutcome) (hone : OneMemory a.processors)
  (hstore : a.store.isSome) (hthread : input.threadID ≠ "")
  (hfresh : input.memoryRecalled = false) (hleaves : ∀ e ∈ es ++ gs, LeavesMessages e.1 e.2)
  (hsetup : Trace (setupRun a input) es (.ret (.ok f, journaled)))
  (hrun : Trace (run a input) (es ++ gs) (.ret out)) (hout : out.result.status = .succeeded) :
  ∃ records now, (ledger (es ++ gs)).commits = [recordRun input.threadID f.runID records now] ∧
   (∀ ctx s u, Runs (transcriptWorld ctx) (recordRun input.threadID f.runID records now) s
    (.ok ()) u → u.messages = appended s input.threadID records) ∧
   (records.map MessageRecord.message = input.messages ++ (ledger (es ++ gs)).produced ↔
    (a.instructions = "" ↔ f.config.instructions = "")) := by
 obtain ⟨hframe,hfinished⟩:=run_finished hone hleaves hsetup hrun hout
 have hid:=hframe.threadID
 obtain ⟨created,now,hcommits⟩:=hfinished.commits hstore (by rwa [hid])
 rw [hid] at hcommits
 refine ⟨_,now,hcommits,?_,?_⟩
 · intro ctx s u hruns
   exact hruns.wp (wp_recordRun hthread (newMessageRecords_threadID a _ _ _ _ _ _)) rfl
 · exact records_exact_iff hframe hfresh hfinished.produced

def threadAgent (instructions : String) (resolver : Bool) : Agent where
 id := "agent"
 instructions := instructions
 instructionsResolver := resolver
 model := some ownModel
 store := some {}
 maxSteps := 1
 configured := rfl

def threadInput : RunInput := { questionInput with threadID := "thread" }

def threading (instructions : String) : (o : AgentOp) → Unit → Option (o.Reply × Unit)
 | .resolveInstructions _, _ => some (.ok instructions, ())
 | .listMessages _, _ => some (.ok [], ())
 | .transcript _, _ => some (.ok (), ())
 | .flushDiagnostics _, _ => some ((), ())
 | .runtime .now, _ => some ((0 : Time), ())
 | o, s => answering chosen doneReply o s

def threaded (instructions : String) {α : Type} (p : AgentProg α) : List (Event AgentSig) :=
 p.answered (threading instructions) ()

lemma threading_leaves {instructions o} {s u} {r} (h:threading instructions o s=some (r,u)) :
  LeavesMessages o r := by
 cases o with
 | process phase name v => cases h
 | _ => trivial

lemma trace_threaded {instructions} {α:Type} {p:AgentProg α} {b}
  (h:p.answer (threading instructions) ()=some (b,())) :
  Trace p (threaded instructions p) (.ret b) ∧
   ∀ e ∈ threaded instructions p,LeavesMessages e.1 e.2 := by
 obtain ⟨htrace,hfollows⟩:=Monitor.follows_answered (M := Monitor.replies LeavesMessages)
  (fun o s r u=>threading_leaves) h
 exact ⟨htrace,hfollows.forall_mem fun _ _ _ _ h=>h⟩

def threadFrame (instructions : String) : RunFrame :=
 { questionFrame ⟨instructions, some ownModel, none, ""⟩ with input := threadInput }

def threadOutcome (messages : List Message) : AgentOutcome where
 result := { id := "run-1", status := .succeeded, messages := messages }

theorem static_instructions_recorded :
  ∃ records now, (ledger (threaded "" (run (threadAgent "be brief" false) threadInput))).commits =
    [recordRun "thread" "run-1" records now] ∧
   records.map MessageRecord.message =
    [{ role := .user, content := "question" }, doneReply.message] := by
 let setup:=threaded "" (setupRun (threadAgent "be brief" false) threadInput)
 let events:=threaded "" (run (threadAgent "be brief" false) threadInput)
 have hsetup:Trace (setupRun (threadAgent "be brief" false) threadInput) setup
   (.ret (.ok (threadFrame "be brief"),true)) := (trace_threaded rfl).1
 have hrun:Trace (run (threadAgent "be brief" false) threadInput) events
   (.ret (threadOutcome [systemMessage "be brief",{ role := .user, content := "question" },
    doneReply.message])) ∧ ∀ e ∈ events, LeavesMessages e.1 e.2 := trace_threaded rfl
 obtain ⟨records,now,hcommits,-,hexact⟩:=thread_records_exact_iff
  (threadAgent "be brief" false) threadInput (threadFrame "be brief") true setup
  (events.drop setup.length) _ (Nat.zero_le 1) rfl nofun rfl hrun.2 hsetup hrun.1 rfl
 exact ⟨records,now,hcommits,hexact.mpr (by simp [threadAgent,threadFrame,questionFrame])⟩

/-- Resolved instructions are recorded, and without them the first message is not. -/
theorem resolved_instructions_miscounted : (∃ records, Trace (run (threadAgent "" true) threadInput)
  (threaded "be brief" (run (threadAgent "" true) threadInput))
  (.ret (threadOutcome [systemMessage "be brief", { role := .user, content := "question" },
   doneReply.message])) ∧
   (ledger (threaded "be brief" (run (threadAgent "" true) threadInput))).commits =
    [recordRun "thread" "run-1" records 0] ∧
   records.map MessageRecord.message =
    [systemMessage "be brief", { role := .user, content := "question" }, doneReply.message]) ∧
  ∃ records, Trace (run (threadAgent "be brief" true) threadInput)
    (threaded "" (run (threadAgent "be brief" true) threadInput))
    (.ret (threadOutcome [{ role := .user, content := "question" }, doneReply.message])) ∧
   (ledger (threaded "" (run (threadAgent "be brief" true) threadInput))).commits =
    [recordRun "thread" "run-1" records 0] ∧
   records.map MessageRecord.message = [doneReply.message] :=
 ⟨⟨_,(trace_threaded rfl).1,rfl,rfl⟩,_,(trace_threaded rfl).1,rfl,rfl⟩

end Lebro.AgentThreads
