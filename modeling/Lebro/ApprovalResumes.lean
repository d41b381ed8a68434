import Lebro.ApprovalTurns

set_option autoImplicit false

namespace Lebro.ApprovalResumes

open EffectProgram EffectRuns EffectPool EffectTurns RuntimeTypes RuntimeRecords RuntimeEffects
open MemoryStore AgentEffects AgentTools AgentLoop AgentApprovals AgentOperations ApprovalStore
open ApprovalTurns

variable {s u:RuntimeState} {next:ToolApprovalState} {call:ModelToolCall} {i:Nat}

section

variable {faulty:Prop} {given:(o:AgentOp) → o.Reply → Prop} {id:AgentID} {rid:RunID}
 {start:List WorkflowSnapshotRecord} {β:Type} {a:Agent}
 {st:ToolApprovalSnapshot} {requestID:String}

lemma read_step {o r} (hread:(applyRepo o s.store).2=s.store)
  (h:agentStep faulty s (.runtime (.repo o)) r u) :
  u.store=s.store ∧ (r=(applyRepo o s.store).1 ∨ failedReply o r) := by
 rcases h with ⟨hr,-⟩ | ⟨-,hr,rfl⟩
 · exact ⟨(congrArg Prod.snd hr).trans hread,.inl (congrArg Prod.fst hr)⟩
 · exact ⟨rfl,.inr hr⟩

lemma turn_read_idle {o:RepoOp} {g:o.Reply → AgentProg β} {Q v}
  (hread:∀ m,(applyRepo o m).2=m)
  (h:∀ m u,Between id rid start (.idle requestID) v m → Same rid m u →
   phased faulty given id rid start (g (applyRepo o m.store).1) Q (.idle requestID) u)
  (hfail:∀ r u,snapshotsOf rid v <+: snapshotsOf rid u → failedReply o r →
   phased faulty given id rid start (g r) Q (.idle requestID) u) :
  phased faulty given id rid start
   (agentOp (.runtime (.repo o)) >>= g) Q (.idle requestID) v := by
 rintro m r u hm ⟨hstep,-⟩
 obtain ⟨hstore,hr⟩:=read_step (hread _) hstep
 have hsame:Same rid m u:=same_of_store hstore
 refine ⟨.idle requestID,.silent trivial rfl hsame,?_⟩
 rcases hr with rfl | hr
 · exact h m u hm hsame
 · exact hfail r u (hsame.2 ▸ hm.2.1) hr

def Seen (rid : RunID) (start : List WorkflowSnapshotRecord) (u : RuntimeState)
  (vs : List WorkflowSnapshotRecord) : Prop :=
 start <+: vs ∧ vs <+: snapshotsOf rid u

def Waits (rid : RunID) (requestID : String) (v : RuntimeState) (t : Phase) (u : RuntimeState) :
  Prop :=
 t = .idle requestID ∧ snapshotsOf rid v <+: snapshotsOf rid u

lemma turn_scanApprovals (n:Nat) (cursor best v)
  (hcursor:cursor.getD 0 ≤ (snapshotsOf rid v).length)
  (hbest:best=((snapshotsOf rid v).take (cursor.getD 0)).foldl (laterApproval a) none) :
  phased faulty given id rid start (scanApprovals a rid n cursor best)
   (fun r t u=>Waits rid requestID v t u ∧ ∀ found,r = .ok found →
    ∃ vs,Seen rid start u vs ∧ found=vs.foldl (laterApproval a) none) (.idle requestID) v :=
  by
 induction n generalizing cursor best v with
 | zero => exact fun _ r=>r.elim
 | succ n ih =>
  unfold scanApprovals
  refine turn_read_idle (o := .listWorkflowSnapshots rid ⟨cursor,1000⟩) (fun _=>rfl) ?_ ?_
  · rintro m u ⟨hstart,hgrown,-⟩ ⟨-,hsame⟩
    have hwaits:Waits rid requestID v (.idle requestID) u:=⟨rfl,hsame ▸ hgrown⟩
    have hlist:(applyRepo (.listWorkflowSnapshots rid ⟨cursor,1000⟩) m.store).1 =
      listWorkflowSnapshots m.store rid ⟨cursor,1000⟩ := rfl
    have hlength:=hgrown.length_le
    have htake:(snapshotsOf rid v).take (cursor.getD 0) =
      (snapshotsOf rid m).take (cursor.getD 0) := by
     obtain ⟨more,hmore⟩:=hgrown
     rw [← hmore,List.take_append_of_le_length hcursor]
    rw [hlist,listWorkflowSnapshots]
    by_cases hrun : (m.store.runs rid).isNone=true
    · rw [if_pos hrun]
      exact ⟨hwaits,fun _ h=>by cases h⟩
    · rw [if_neg hrun]
      dsimp only [paginate]
      rw [if_neg (show ¬ (1000 : Nat)=0 by decide)]
      -- what has been scanned together with this page is again the beginning of the list
      have hpage:((m.store.snapshots rid).drop (cursor.getD 0) |>.take 1000).foldl
        (laterApproval a) best =
         ((snapshotsOf rid m).take (cursor.getD 0+1000)).foldl (laterApproval a) none := by
       rw [hbest,htake,← List.foldl_append,List.take_add]
       rfl
      by_cases hlong : 1000 < ((m.store.snapshots rid).drop (cursor.getD 0)).length
      · rw [if_pos hlong]
        have hbound:cursor.getD 0+1000 ≤ (snapshotsOf rid m).length:=by
         rw [List.length_drop] at hlong
         unfold snapshotsOf
         omega
        refine turn_mono (ih (some (cursor.getD 0+1000)) _ u ?_ ?_) ?_
        · rw [hsame]
          exact hbound
        · rw [hsame]
          exact hpage
        · rintro r t w ⟨⟨rfl,hmore⟩,hfound⟩
          exact ⟨⟨rfl,hwaits.2.trans hmore⟩,hfound⟩
      · rw [if_neg hlong]
        refine ⟨hwaits,?_⟩
        rintro found ⟨⟩
        refine ⟨snapshotsOf rid m,⟨hstart.trans hgrown,?_⟩,?_⟩
        · rw [hsame]
        · apply hpage.trans
          rw [List.length_drop] at hlong
          rw [List.take_of_length_le]
          unfold snapshotsOf
          omega
  · rintro r u hgrown ⟨e,rfl⟩
    exact ⟨⟨rfl,hgrown⟩,fun _ h=>by cases h⟩

lemma turn_loadToolApproval (ha:a.id=id) (v) :
  phased faulty given id rid start (loadToolApproval a rid)
   (fun r t u=>Waits rid requestID v t u ∧ ∀ run st,r = .ok (run,st) →
    ∃ vs,Seen rid start u vs ∧ Found id vs st) (.idle requestID) v := by
 unfold loadToolApproval
 split
 · exact ⟨⟨rfl,List.prefix_rfl⟩,fun _ _ h=>by cases h⟩
 refine turn_read_idle (o := .getWorkflowRun rid) (fun _=>rfl) ?_ ?_
 · rintro m u ⟨-,hgrown,-⟩ ⟨-,hsame⟩
   have hwaits:Waits rid requestID v (.idle requestID) u:=⟨rfl,hsame ▸ hgrown⟩
   have hget:(applyRepo (.getWorkflowRun rid) m.store).1=getWorkflowRun m.store rid:=rfl
   rw [hget]
   cases getWorkflowRun m.store rid with
   | error e => exact ⟨hwaits,fun _ _ h=>by cases h⟩
   | ok run =>
    dsimp only
    split
    · exact ⟨hwaits,fun _ _ h=>by cases h⟩
    apply turn_seq (turn_scanApprovals a.pages none none u (Nat.zero_le _) rfl)
    rintro r t w ⟨⟨rfl,hmore⟩,hfound⟩
    have hwaits':Waits rid requestID v (.idle requestID) w:=⟨rfl,hwaits.2.trans hmore⟩
    cases r with
    | error e => exact ⟨hwaits',fun _ _ h=>by cases h⟩
    | ok found =>
     obtain ⟨vs,hseen,hfold⟩:=hfound found rfl
     cases found with
     | none => exact ⟨hwaits',fun _ _ h=>by cases h⟩
     | some best =>
      refine ⟨hwaits',?_⟩
      rintro run' st ⟨⟩
      exact ⟨vs,hseen,ha ▸ found_of_scan hfold.symm⟩
 · rintro r u hgrown ⟨e,rfl,-⟩
   exact ⟨⟨rfl,hgrown⟩,fun _ _ h=>by cases h⟩

lemma claims_of_writes {decision status failure now} (hsound:Sound id rid start s)
  (hst:Loaded id rid start s st) (hstatus:status ≠ .suspended) (hnext:next ≠ .pending)
  (h:TransitionWrites st decision status next failure now s.store u.store) :
  Claims rid s u st next := by
 have hrid:=hst.runID hsound
 obtain ⟨run,hfound,hsuspended,hsaved⟩:=h.run
 obtain ⟨encoded,sequence,hencoded,happends⟩:=h.snapshot
 rw [hrid] at hfound hsaved
 have hrun:=hsaved (hsound.keyed run hfound)
 have hkeyed:∀ run',u.store.runs rid=some run' → run'=decidedRun run status failure now:=
 by
  intro run' hrun'
  rw [hrun] at hrun'
  exact (Option.some.inj hrun').symm
 have heq:=encodeApproval_eq_ok hencoded
 refine ⟨hnext,⟨run,hfound,hsuspended⟩,?_,?_,approvalRecord encoded sequence now,encoded,
  happends,?_,?_,rfl,?_,?_,?_,?_,?_⟩
 · rintro ⟨run',hrun',hstatus'⟩
   rw [hkeyed run' hrun'] at hstatus'
   exact hstatus hstatus'
 · intro run' hrun'
   rw [hkeyed run' hrun']
   exact hsound.keyed run hfound
 · rw [heq]
   exact hrid
 · rw [heq]
   rfl
 · rw [heq]
   rfl
 · rw [heq]
   rfl
 · rw [heq]
   rfl
 · rw [heq]
   exact hrid
 · rw [heq]
   rfl

def Committed (requestID : String) (st : ToolApprovalSnapshot) (next : ToolApprovalState)
  (r : Except Err Unit) (t : Phase) : Prop :=
 r = .ok () ∧ t = .claimed st next ∨ (∃ e, r = .error e) ∧ t = .idle requestID

lemma turn_transitionAttempts (ha:a.id=id) (hrequest:st.request.id=requestID) (decision)
  {status} (hstatus:status ≠ .suspended) (hnext:next ≠ .pending) (failure) (n:Nat) {used}
  (hused:used.request.id=requestID) (v) (hst:Loaded id rid start v st)
  (hloaded:Loaded id rid start v used) :
  phased faulty given id rid start
   (transitionAttempts a rid requestID decision status next failure n used)
   (fun r t _=>Committed requestID st next r t) (.idle requestID) v := by
 induction n generalizing used v with
 | zero => exact .inr ⟨⟨_,rfl⟩,rfl⟩
 | succ n ih =>
  rintro m now u ⟨-,hgrown,-⟩ ⟨hstep,-⟩
  obtain rfl : u=m := hstep
  refine ⟨.idle requestID,.silent trivial rfl (Same.refl rid u),?_⟩
  rintro m r w ⟨-,hgrown',hsound⟩ ⟨hstep,-⟩
  have hst':=hst.later (hgrown.trans hgrown')
  have hused':=hloaded.later (hgrown.trans hgrown')
  rcases transaction_step hstep with ⟨rfl,hok⟩ | ⟨e,rfl,hstore⟩
  · refine ⟨.claimed st next,.claim hst' hrequest hused' hused ?_,.inl ⟨rfl,rfl⟩⟩
    exact claims_of_writes hsound hused' hstatus hnext (transitionRun_ok hok)
  · have hsame:Same rid m w:=same_of_store hstore
    refine ⟨.idle requestID,.silent trivial rfl hsame,?_⟩
    have hst'':Loaded id rid start w st:=hst'.later (by rw [hsame.2])
    dsimp only [Prog.bind]
    split
    · exact .inr ⟨⟨e,rfl⟩,rfl⟩
    apply turn_seq (turn_loadToolApproval ha w)
    rintro loaded t x ⟨⟨rfl,hmore⟩,hfound⟩
    cases loaded with
    | error _ => exact .inr ⟨⟨e,rfl⟩,rfl⟩
    | ok loaded =>
     obtain ⟨run,latest⟩:=loaded
     obtain ⟨vs,hseen,hlatest⟩:=hfound run latest rfl
     dsimp only
     split
     · exact .inr ⟨⟨_,rfl⟩,rfl⟩
     rename_i hfits
     simp only [not_or,not_not] at hfits
     exact ih hfits.2.2 x (hst''.later hmore) ⟨vs,hseen.1,hseen.2,hlatest,hfits.2.1⟩

variable {base:Option ToolApprovalSnapshot} {armed:Bool}

lemma save_step {v r} (h:agentStep faulty s (.runtime (.repo (.saveWorkflowRun v))) r u) :
  u.store.snapshots=s.store.snapshots ∧
   (u.store.runs v.id=some v ∨ u.store.runs v.id=s.store.runs v.id) := by
 rcases h with ⟨hr,-⟩ | ⟨-,-,rfl⟩
 · have hsave:(r,u.store)=written s.store (saveWorkflowRun s.store v):=hr
   cases hsaved : saveWorkflowRun s.store v with
   | error e =>
    rw [hsaved] at hsave
    have hstore:u.store=s.store:=congrArg Prod.snd hsave
    rw [hstore]
    exact ⟨rfl,.inr rfl⟩
   | ok m =>
    rw [hsaved] at hsave
    have hstore:u.store=m:=congrArg Prod.snd hsave
    rw [hstore,saveWorkflowRun_eq_ok hsaved]
    exact ⟨rfl,.inl (if_pos rfl)⟩
 · exact ⟨rfl,.inr rfl⟩

lemma stays_persistApprovalRunTerminal (hrid:st.request.runID=rid) {out}
  (hstatus:out.result.status ≠ .suspended) :
  Stays faulty given id rid start (.owned base armed)
   (persistApprovalRunTerminal a st out) := by
 intro v
 unfold persistApprovalRunTerminal
 split
 · exact rfl
 apply turn_own (o := .runtime .now) trivial
 rintro now u m r w - ⟨hstep,-⟩
 obtain ⟨hsnapshots,hruns⟩:=save_step hstep
 refine ⟨.owned base armed,.record hstatus hrid hsnapshots ?_,rfl⟩
 rw [← hrid]
 exact hruns

lemma stays_endApprovalResume (hrid:st.request.runID=rid) {out}
  (hstatus:out.result.status ≠ .suspended) {type:RunEventType} {reported:Err} :
  Stays faulty given id rid start (.owned base armed)
   (endApprovalResume a st type reported out) := by
 intro v
 apply turn_own (o := .runtime (.step (.emit _))) trivial
 intro _ u
 apply turn_stays (stays_quiet (asks_quiet_flush a _))
 intro _ u
 apply turn_stays (stays_persistApprovalRunTerminal hrid hstatus)
 exact fun _ _=>rfl

lemma turn_executeToolCall {runID} {step:Nat} {stepID threadID call metadata v} :
  phased faulty given id rid start
   (executeToolCall a runID step stepID threadID call metadata)
   (fun r t _=>∃ armed,t = .owned (some st) armed ∧ (r.state = .succeeded → armed=false))
   (.owned (some st) true) v := by
 have hfailed:∀ (state : ToolExecutionState) (e : Err),state ≠ .succeeded →
   ∃ armed,Phase.owned (some st) true = .owned (some st) armed ∧
    ((failedToolExecution call.toolID state e).state = .succeeded → armed=false) :=
  fun _ _ hstate=>⟨true,rfl,fun h=>(hstate h).elim⟩
 unfold executeToolCall
 split
 · exact hfailed _ _ (by decide)
 rename_i registry _
 split
 · exact hfailed _ _ (by decide)
 apply turn_stays (stays_own (asks_authorizeTool own_of_plain))
 intro denial u
 cases denial with
 | some e => exact hfailed _ _ (by decide)
 | none =>
  dsimp only
  split
  · exact hfailed _ _ (by decide)
  apply turn_own (o := .runtime (.step .ctxErr)) trivial
  intro ended u
  cases ended with
  | some e => exact hfailed _ _ (by decide)
  | none =>
   apply turn_own (o := .runtime (.step .ctxErr)) trivial
   intro ended u
   cases ended with
   | some e => exact hfailed _ _ (by decide)
   | none =>
    dsimp only
    split
    · exact hfailed _ _ (by decide)
    rintro m reply u - ⟨hstep,-⟩
    obtain rfl : u=m := hstep
    refine ⟨_,.approved (Same.refl rid u),?_⟩
    refine turn_mono (stays_own (asks_unlessCancelled own_of_plain
     (asks_handlerResult own_of_plain)) u) ?_
    rintro r t w rfl
    exact ⟨false,rfl,fun _=>rfl⟩

def Went (st : ToolApprovalSnapshot) (r : List Message ⊕ AgentOutcome) (t : Phase) : Prop :=
 ∀ transcript, r = .inl transcript → t = .owned (some st) false

lemma turn_went {p t} (hp:Stays faulty given id rid start t p) {v} :
  phased faulty given id rid start
   (p >>= fun out=>.ret (Sum.inr out : List Message ⊕ AgentOutcome))
   (fun r t _=>Went st r t) t v :=
 turn_seq (hp v) fun _ _ _ _ _ h=>by cases h

lemma turn_toolEnd (hrid:st.request.runID=rid) {call result transcript}
  (harmed:result.state = .succeeded → armed=false) {v} :
  phased faulty given id rid start
   (do
    emitEvent (toolEvent .toolFinished st.request.runID st.request.step st.request.stepID
     call result.err)
    let transcript := transcript ++ [toolResultMessage call.id result]
    match result.state with
    | .succeeded => .ret (.inl transcript)
    | .cancelled => do
     let out ← cancelApprovalResume a st transcript (result.err.getD (.new ""))
     .ret (.inr out)
    | _ => do
     let out ← finishApprovalResume a st transcript
      (.agent (toolExecutionAgentError st.request.step result))
     .ret (.inr out))
   (fun r t _=>Went st r t) (.owned (some st) armed) v := by
 apply turn_own (o := .runtime (.step (.emit _))) trivial
 intro _ u
 split
 · rename_i hsucceeded
   rw [harmed hsucceeded]
   exact fun _ _=>rfl
 · exact turn_went (stays_endApprovalResume hrid (by rintro ⟨⟩))
 · exact turn_went (stays_endApprovalResume hrid (by rintro ⟨⟩))

lemma turn_approvedTool (hrid:st.request.runID=rid) {transcript call v} :
  phased faulty given id rid start
   (resumeTool a st transcript call) (fun r t _=>Went st r t) (.owned (some st) true) v := by
 apply turn_own (o := .runtime (.step (.emit _))) trivial
 intro _ u
 apply turn_seq turn_executeToolCall
 rintro result t w ⟨armed,rfl,harmed⟩
 exact turn_toolEnd hrid harmed

lemma others_of_index (hi:st.callIndex < i) (hcall:st.calls[i]? = some call) {invocation}
  (hinvocation:invocation.callID=call.id) : Others (some st) invocation := by
 rintro b ⟨⟩ hunrepeated ⟨-,-,hgated⟩
 apply hunrepeated i hi
 rw [callIDs,List.getElem?_map,hcall,← hgated,hinvocation]
 rfl

lemma turn_laterTool (hrid:st.request.runID=rid) (hi:st.callIndex < i)
  (hcall:st.calls[i]? = some call) {transcript v} :
  phased faulty given id rid start
   (resumeTool a st transcript call) (fun r t _=>Went st r t) (.owned (some st) false) v := by
 apply turn_own (o := .runtime (.step (.emit _))) trivial
 intro _ u
 have htools:Asks (OwnTool (Others (some st))) (executeToolCall a st.request.runID
   st.request.step st.request.stepID st.threadID call st.metadata) :=
  asks_executeToolCall (ownTool_of_plain _)
   fun _ _ _ hinvocation=>others_of_index hi hcall hinvocation
 apply turn_stays (stays_tools htools)
 intro result w
 exact turn_toolEnd hrid (fun _=>rfl)

lemma nextApproval_next (hi:st.callIndex < i) (hcall:st.calls[i]? = some call) {request}
  (hrequest:request.runID=rid ∧ request.step=st.request.step ∧ request.stepID =
  st.request.stepID ∧ request.toolCallID=call.id ∧ request.id=toolApprovalRequestID rid
  st.request.step st.request.stepID call.id) {transcript} {sequence:Nat} :
  Next rid (some st) (nextApproval st request i transcript sequence) := by
 obtain ⟨hrunID,hstep,hstepID,hcallID,hid⟩:=hrequest
 have hbatch:SameBatch st (nextApproval st request i transcript sequence):=
  ⟨hstep,hstepID,rfl,hi⟩
 refine ⟨hrunID,?_,?_,?_,.inr ⟨st,rfl,hbatch⟩⟩
 · dsimp only [nextApproval]
   rw [hid,hstep,hstepID,hcallID]
 · dsimp only [nextApproval,callIDs]
   rw [List.getElem?_map,hcall,hcallID]
   rfl
 · rintro b ⟨⟩
   exact .inr hbatch

lemma turn_suspendAgain (hrid:st.request.runID=rid)
  (hi:st.callIndex < i) (hcall:st.calls[i]? = some call) {transcript resolution v} :
  phased faulty given id rid start
   (suspendAgain a st i transcript call resolution) (fun _ _ _=>True)
   (.owned (some st) false) v := by
 apply turn_own (o := .runtime .now) trivial
 intro now u
 apply turn_read
 intro sequence u
 refine turn_seq (turn_persistToolApproval a (nextApproval_next hi hcall ?_) rfl u) ?_
 · refine ⟨hrid,rfl,rfl,rfl,?_⟩
   rw [← hrid]
 · rintro persisted t w (⟨rfl,next,rfl⟩ | ⟨⟨e,rfl⟩,rfl⟩)
   · apply turn_perform
     rintro m r x - ⟨hstep,-⟩
     obtain rfl : x=m := hstep
     refine ⟨.finished,.report rfl (Same.refl rid x),?_⟩
     exact turn_stays (stays_quiet (asks_quiet_flush a _)) fun _ _=>trivial
   · trivial

lemma turn_resumeNext (hrid:st.request.runID=rid)
  (hi:st.callIndex < i) (hcall:st.calls[i]? = some call) (transcript v) :
  phased faulty given id rid start
   (resumeNext a st i transcript call) (fun r t _=>Went st r t) (.owned (some st) false) v :=
  by
 apply turn_own (o := .runtime (.step .ctxErr)) trivial
 intro ended u
 cases ended with
 | some e => exact turn_went (stays_endApprovalResume hrid (by rintro ⟨⟩))
 | none =>
  apply turn_own (o := .runtime (.step (.emit _))) trivial
  intro _ u
  apply turn_stays (stays_own (asks_evaluateToolApproval own_of_plain))
  intro resolution u
  cases resolution with
  | error e => exact turn_went (stays_endApprovalResume hrid (by rintro ⟨⟩))
  | ok resolution =>
   dsimp only
   split
   · exact turn_went (stays_endApprovalResume hrid (by rintro ⟨⟩))
   · apply turn_seq (turn_suspendAgain hrid hi hcall)
     exact fun _ _ _ _ _ h=>by cases h
   · exact turn_laterTool hrid hi hcall

lemma turn_resumeCalls (hrid:st.request.runID=rid) (i:Nat) (rest)
  (hi:st.callIndex < i) (hrest:st.calls.drop i=rest) (transcript v) :
  phased faulty given id rid start
   (resumeCalls a st i rest transcript) (fun r t _=>Went st r t) (.owned (some st) false)
   v := by
 induction rest generalizing i transcript v with
 | nil => exact fun _ _=>rfl
 | cons call rest ih =>
  have hcall:st.calls[i]? = some call:=by
   rw [← List.head?_drop,hrest]
   rfl
  have htail:st.calls.drop (i+1)=rest:=by
   rw [← List.tail_drop,hrest]
   rfl
  apply turn_seq (turn_resumeNext hrid hi hcall transcript v)
  intro ran t u ht
  cases ran with
  | inr out => exact fun _ h=>by cases h
  | inl transcript =>
   obtain rfl := ht transcript rfl
   exact ih (i+1) (Nat.lt_succ_of_lt hi) htail transcript u

lemma turn_continueRun (hempty:rid ≠ "")
  (hrid:st.request.runID=rid) {transcript v} :
  phased faulty given id rid start
   (continueRun a st transcript) (fun _ _ _=>True) (.owned (some st) false) v := by
 apply turn_stays (stays_quiet (asks_quiet_flush a _))
 intro _ u
 apply turn_read
 intro sequence u
 apply turn_perform
 rintro m r w - ⟨hstep,-⟩
 obtain rfl : w=m := hstep
 refine ⟨.owned (some st) false,.goOn (Same.refl rid w),?_⟩
 have hrun:phased faulty given id rid start
   (run (continuationAgent a st) (resumeInput st transcript))
   (fun out t _=>Ended (some st) out t) (.owned (some st) false) w :=
  turn_continuedRun (a := continuationAgent a st) hempty hrid rfl (Nat.lt_succ_self _) w
 apply turn_seq hrun
 intro out t x ht
 split
 · trivial
 rename_i hstatus
 rcases ht with rfl | ⟨-,hsuspended⟩
 · exact turn_stays (stays_persistApprovalRunTerminal hrid hstatus) fun _ _=>trivial
 · exact (hstatus hsuspended).elim

lemma turn_resumeApprovedTool
  (hempty:rid ≠ "") (hrid:st.request.runID=rid) {v} :
  phased faulty given id rid start
   (resumeApprovedTool a st) (fun _ _ _=>True) (.claimed st .executing) v := by
 unfold resumeApprovedTool
 split
 · trivial
 rename_i call _
 apply turn_perform
 rintro m r u - ⟨hstep,-⟩
 obtain rfl : u=m := hstep
 refine ⟨.owned (some st) true,.resume (Same.refl rid u),?_⟩
 apply turn_own (o := .runtime (.step (.emit _))) trivial
 intro _ w
 have hbatch:phased faulty given id rid start
   (resumeBatch a st call) (fun r t _=>Went st r t) (.owned (some st) true) w := by
  apply turn_seq (turn_approvedTool hrid)
  intro ran t x ht
  cases ran with
  | inr out => exact fun _ h=>by cases h
  | inl transcript =>
   obtain rfl := ht transcript rfl
   exact turn_resumeCalls hrid _ _ (Nat.lt_succ_self _) rfl transcript x
 apply turn_seq hbatch
 intro ran t x ht
 cases ran with
 | inr out => trivial
 | inl transcript =>
  obtain rfl := ht transcript rfl
  exact turn_continueRun hempty hrid

lemma turn_rejectToolApproval (ha:a.id=id) {decision} (hrid:st.request.runID=rid) {kind}
  (hpending:next ≠ .pending) (hnext:next ≠ .executing) {v} (hst:Loaded id rid start v st) :
  phased faulty given id rid start
   (rejectToolApproval a st decision kind next) (fun _ _ _=>True) (.idle st.request.id) v := by
 unfold rejectToolApproval transitionToolApproval
 rw [hrid]
 refine turn_seq (turn_transitionAttempts ha rfl decision (by rintro ⟨⟩) hpending _ 2 rfl v hst
  hst) ?_
 rintro committed t u (⟨rfl,rfl⟩ | ⟨⟨e,rfl⟩,rfl⟩)
 · apply turn_perform
   rintro m r w - ⟨hstep,-⟩
   obtain rfl : w=m := hstep
   refine ⟨.rejected,?_,?_⟩
   · have hresumed:resumed st next = .rejected:=if_neg hnext
     rw [← hresumed]
     exact .resume (Same.refl rid w)
   · apply turn_perform
     rintro m r x - ⟨hstep,-⟩
     obtain rfl : x=m := hstep
     refine ⟨.rejected,.reject trivial (Same.refl rid x),?_⟩
     exact turn_stays (stays_quiet (asks_quiet_flush a _)) fun _ _=>trivial
 · trivial

lemma turn_approveTool (ha:a.id=id) (hempty:rid ≠ "")
  {decision} (hrid:st.request.runID=rid) {v}
  (hst:Loaded id rid start v st) :
  phased faulty given id rid start
   (approveTool a st decision) (fun _ _ _=>True) (.idle st.request.id) v := by
 unfold approveTool transitionToolApproval
 rw [hrid]
 refine turn_seq (turn_transitionAttempts ha rfl decision (by rintro ⟨⟩) (by rintro ⟨⟩) _ 2 rfl v
  hst hst) ?_
 rintro committed t u (⟨rfl,rfl⟩ | ⟨⟨e,rfl⟩,rfl⟩)
 · exact turn_resumeApprovedTool hempty hrid
 · trivial

lemma turn_resumeToolApproval (number:String → Option String) (ha:a.id=id)
  (decision) (hrunID:decision.runID=rid) (v) :
  phased faulty given id rid start
   (resumeToolApproval number a decision) (fun _ _ _=>True) (.idle decision.requestID) v := by
 unfold resumeToolApproval
 split
 · trivial
 split
 · trivial
 rename_i decidedAt _ hnamed
 rw [hrunID] at hnamed
 rw [hrunID]
 apply turn_seq (turn_loadToolApproval ha v)
 rintro loaded t u ⟨⟨rfl,-⟩,hfound⟩
 cases loaded with
 | error e => trivial
 | ok loaded =>
  obtain ⟨run,st⟩:=loaded
  obtain ⟨vs,hseen,hst⟩:=hfound run st rfl
  dsimp only
  split
  · trivial
  rename_i hrequest
  rw [not_not] at hrequest
  split
  · trivial
  split
  · trivial
  rename_i hpending
  split
  · trivial
  apply turn_perform
  rintro m now u ⟨-,hgrown,hsound⟩ ⟨hstep,-⟩
  obtain rfl : u=m := hstep
  refine ⟨.idle decision.requestID,.silent trivial rfl (Same.refl rid u),?_⟩
  have hloaded:Loaded id rid start u st:=
   ⟨vs,hseen.1,hseen.2.trans hgrown,hst,not_not.mp fun h=>hpending (.inr h)⟩
  have hrid:=hloaded.runID hsound
  rw [← hrequest]
  split
  · exact turn_rejectToolApproval ha hrid (by rintro ⟨⟩) (by rintro ⟨⟩)
     hloaded
  · split
    · exact turn_rejectToolApproval ha hrid (by rintro ⟨⟩)
       (by rintro ⟨⟩) hloaded
    · exact turn_approveTool ha (fun h=>hnamed (.inl h))
       hrid hloaded

end

end Lebro.ApprovalResumes
