import Lebro.ApprovalResumes

set_option autoImplicit false

namespace Lebro.ApprovalClaims

open EffectProgram EffectPool EffectTurns RuntimeTypes RuntimeRecords RuntimeEffects MemoryStore
open AgentEffects AgentTools AgentApprovals ApprovalStore ApprovalTurns ApprovalResumes List

variable {s u s₀:RuntimeState} {st st' used:ToolApprovalSnapshot}
 {es:List (PoolEvent AgentSig)} {o:AgentOp} {next:ToolApprovalState} {r:o.Reply}
 {calls:List ModelToolCall} {i n:Nat} {ph:Nat → Phase} {t:Phase}

structure Held (id : AgentID) (rid : RunID) (st : ToolApprovalSnapshot) (s : RuntimeState) :
  Prop where
 keyed : ∀ run, s.store.runs rid = some run → run.id = rid
 sequences : ((snapshotsOf rid s).map WorkflowSnapshotRecord.sequence).Nodup
 found : Found id (snapshotsOf rid s) st
 runID : st.request.runID = rid
 requestID : st.request.id =
  toolApprovalRequestID rid st.request.step st.request.stepID st.request.toolCallID
 call : (callIDs st)[st.callIndex]? = some st.request.toolCallID
 answers : Answers st.transcript (callIDs st)

/-- A stored request that is read back names its call by an ID of its own. -/
lemma Held.unrepeated {id rid} (h:Held id rid st s) : Unrepeated st := by
 obtain ⟨v,-,⟨-,-,-,hdecodes⟩,-⟩:=h.found
 intro i hi hrepeated
 have hlt:=(List.getElem?_eq_some_iff.mp h.call).1
 exact Nat.ne_of_lt hi ((List.getElem?_inj hlt (h.answers.distinct hdecodes)).mp
  (h.call.trans hrepeated.symm))

variable {vs:List WorkflowSnapshotRecord}

lemma Found.unique {id} (hvs:(vs.map WorkflowSnapshotRecord.sequence).Nodup) (h:Found id vs st)
  (h':Found id vs st') : st'=st := by
 obtain ⟨v,hv,hholds,hlast⟩:=h
 obtain ⟨w,hw,hholds',hlast'⟩:=h'
 have hsequence:v.sequence=w.sequence:=
  Nat.le_antisymm (hlast' v hv st hholds) (hlast w hw st' hholds')
 obtain rfl := inj_on_of_nodup_map hvs hv hw hsequence
 have hstate:=hholds.1.symm.trans hholds'.1
 cases hstate
 rfl

instance instDecidableGated (st : ToolApprovalSnapshot) (invocation : ToolInvocation) :
  Decidable (Gated st invocation) :=
 inferInstanceAs (Decidable (_ ∧ _ ∧ _))

def invokes (st : ToolApprovalSnapshot) : AgentOp → Bool
 | .tool invocation => decide (Gated st invocation)
 | _ => false

def invocations (st : ToolApprovalSnapshot) (es : List (PoolEvent AgentSig)) : Nat :=
 es.countP fun e => invokes st e.2.1

lemma invocations_append (st es) (i:Nat) (o r) :
  invocations st (es ++ [(i,⟨o,r⟩)])=invocations st es+if invokes st o then 1 else 0 := by
 rw [invocations,countP_append,countP_singleton]
 rfl

lemma invokes_silent (h:Silent o) : invokes st o=false := by
 cases o with
 | tool => exact h.elim
 | _ => rfl

lemma invokes_emits (h:Emits o) : invokes st o=false := by
 cases o with
 | tool => exact h.elim
 | _ => rfl

def Rejected (rid : RunID) (st : ToolApprovalSnapshot) (s m : RuntimeState) : Prop :=
 ∃ v ∈ snapshotsOf rid m, v ∉ snapshotsOf rid s ∧ ∃ st', v.state = .toolApproval st' ∧
  st'.request.id = st.request.id ∧ (st'.state = .denied ∨ st'.state = .expired)

variable {v:WorkflowSnapshotRecord}

section

variable {id:AgentID} {rid:RunID} {st:ToolApprovalSnapshot}
 {start:List WorkflowSnapshotRecord}

def Names (id : AgentID) (rid : RunID) (v : WorkflowSnapshotRecord) (st : ToolApprovalSnapshot) :
  Prop :=
 Holds id v st ∧ st.request.runID = rid

structure Won (id : AgentID) (rid : RunID) (st : ToolApprovalSnapshot)
  (start : List WorkflowSnapshotRecord) (next : ToolApprovalState) (s : RuntimeState) : Prop where
 snapshots : ∃ v more, snapshotsOf rid s = start ++ v :: more ∧ v.id = decidedID st ∧
  (∃ st', Names id rid v st' ∧ st'.state = next ∧ st'.state ≠ .pending) ∧
  (∀ w ∈ more, ∃ st', w.state = .toolApproval st' ∧ st'.request.runID = rid ∧
   st'.request.id ≠ st.request.id) ∧
  ∀ w ∈ v :: more, ∀ x ∈ start, x.sequence < w.sequence

lemma Won.same (h:Won id rid st start next s) (hu:snapshotsOf rid u=snapshotsOf rid s) :
  Won id rid st start next u :=
 ⟨by rw [hu]; exact h.snapshots⟩

lemma Won.found (h:Won id rid st start next s) (hstart:start <+: vs)
  (hvs:vs <+: snapshotsOf rid s) (hfound:Found id vs used) :
  vs=start ∨ used.request.runID=rid ∧
   (used.state ≠ .pending ∨ used.request.id ≠ st.request.id) := by
 obtain ⟨v,more,hsnapshots,-,⟨st',hv,-,hdecided⟩,hmore,hlater⟩:=h.snapshots
 obtain ⟨tail,rfl⟩:=hstart
 rw [hsnapshots,prefix_append_right_inj] at hvs
 cases tail with
 | nil => exact .inl (append_nil _)
 | cons w tail =>
  obtain ⟨rfl,htail⟩:=cons_prefix_cons.mp hvs
  obtain ⟨x,hx,hholds,hlast⟩:=hfound
  have hbound:=hlast w (by simp) st' hv.1
  refine .inr ?_
  rcases mem_append.mp hx with hx | hx
  · have hlt:=hlater w (by simp) x hx
    omega
  · rcases mem_cons.mp hx with rfl | hx
    · obtain rfl : st'=used := by
       have hstate:=hv.1.1.symm.trans hholds.1
       cases hstate
       rfl
      exact ⟨hv.2,.inl hdecided⟩
    · obtain ⟨st'',hstate,hrunID,hother⟩:=hmore x (htail.subset hx)
      obtain rfl : st''=used := by
       have hstate:=hstate.symm.trans hholds.1
       cases hstate
       rfl
      exact ⟨hrunID,.inr hother⟩

lemma next_requestID_ne
  (hrequestID:st.request.id=toolApprovalRequestID rid st.request.step st.request.stepID
   st.request.toolCallID) (hunrepeated:Unrepeated st) (h:Next rid (some st) st') :
  st'.request.id ≠ st.request.id := by
 rw [h.requestID,hrequestID]
 intro hid
 obtain ⟨hstep,hcall⟩:=toolApprovalRequestID_inj hid
 rcases h.after st rfl with hlt | hbatch
 · omega
 · apply hunrepeated _ hbatch.later
   rw [← hbatch.calls,h.call,hcall hbatch.stepID]

lemma Won.add (h:Won id rid st start next s) (happends:Appends s.store u.store v)
  (hrid:v.runID=rid) (hstate:v.state = .toolApproval st') (hrunID:st'.request.runID=rid)
  (hother:st'.request.id ≠ st.request.id) :
  Won id rid st start next u := by
 obtain ⟨w,more,hsnapshots,hid,hdecided,hmore,hlater⟩:=h.snapshots
 have hlast:∀ x ∈ start++w :: more,x.sequence < v.sequence:=by
  rw [← hsnapshots,← hrid]
  exact happends.last
 refine ⟨w,more ++ [v],?_,hid,hdecided,?_,?_⟩
 · rw [snapshotsOf_appends happends hrid,hsnapshots,append_assoc]
   rfl
 · intro x hx
   rcases mem_append.mp hx with hx | hx
   · exact hmore x hx
   · obtain rfl := mem_singleton.mp hx
     exact ⟨st',hstate,hrunID,hother⟩
 · intro x hx y hy
   rw [← cons_append] at hx
   rcases mem_append.mp hx with hx | hx
   · exact hlater x hx y hy
   · obtain rfl := mem_singleton.mp hx
     exact hlast y (mem_append_left _ hy)

def Played (st : ToolApprovalSnapshot) (next : ToolApprovalState) (n : Nat) : Phase → Prop
 | .idle _ => False
 | .claimed st' next' => st' = st ∧ next' = next ∧ n = 0
 | .owned base armed => base = some st ∧ next = .executing ∧ n ≤ if armed then 0 else 1
 | .pinned base _ => base = some st ∧ next = .executing ∧ n ≤ 1
 | .rejected => n = 0
 | .suspending _ | .finished => n ≤ 1

inductive Standing (id : AgentID) (rid : RunID) (st : ToolApprovalSnapshot)
  (start : List WorkflowSnapshotRecord) (es : List (PoolEvent AgentSig)) (ph : Nat → Phase)
  (s : RuntimeState) : Prop where
 | pending (hidle : ∀ i, ph i = .idle st.request.id) (hsnapshots : snapshotsOf rid s = start)
   (hnone : invocations st es = 0)
 | taken (i : Nat) (next : ToolApprovalState) (hidle : ∀ j, j ≠ i → ph j = .idle st.request.id)
   (hwon : Won id rid st start next s) (hplayed : Played st next (invocations st es) (ph i))

structure Contest (id : AgentID) (rid : RunID) (st : ToolApprovalSnapshot)
  (start : List WorkflowSnapshotRecord) (es : List (PoolEvent AgentSig)) (ph : Nat → Phase)
  (s : RuntimeState) : Prop where
 keyed : ∀ run, s.store.runs rid = some run → run.id = rid
 standing : Standing id rid st start es ph s

lemma Moves.keyed {t'} (h:Moves id rid start t s o r u t')
  (hkeyed:∀ run,s.store.runs rid=some run → run.id=rid) :
  ∀ run,u.store.runs rid=some run → run.id=rid := by
 have hsame:Same rid s u → ∀ run,u.store.runs rid=some run → run.id=rid:=by
  intro hsame run hrun
  rw [hsame.1] at hrun
  exact hkeyed run hrun
 cases h with
 | claim _ _ _ _ hclaims => exact hclaims.keyed
 | suspend hsuspends _ => exact hsuspends.keyed
 | record _ hid _ hrun =>
  intro run hsome
  rcases hrun with hrun | hrun
  · rw [hrun] at hsome
    cases hsome
    exact hid
  · rw [hrun] at hsome
    exact hkeyed run hsome
 | silent _ _ h | emit _ h | tool h _ | unpin _ h | report _ h | reject _ h => exact hsame h
 | resume h | approved h | read h | goOn h => exact hsame h

lemma played_resumed (hn:n=0) : Played st next n (resumed st next) := by
 unfold resumed
 by_cases hnext : next = .executing
 · rw [if_pos hnext]
   exact ⟨rfl,hnext,hn.le⟩
 · rw [if_neg hnext]
   exact hn

lemma winner_moves
  (hrequestID:st.request.id=toolApprovalRequestID rid st.request.step st.request.stepID
   st.request.toolCallID) (hunrepeated:Unrepeated st) {t'} (hwon:Won id rid st start next s)
  (hplayed:Played st next n t) (h:Moves id rid start t s o r u t') :
  Won id rid st start next u ∧ Played st next (n+if invokes st o then 1 else 0) t' := by
 cases h with
 | silent ho _ hsame =>
  rw [invokes_silent ho]
  exact ⟨hwon.same hsame.2,hplayed⟩
 | claim => exact hplayed.elim
 | resume hsame =>
  obtain ⟨rfl,rfl,hn⟩:=hplayed
  exact ⟨hwon.same hsame.2,played_resumed hn⟩
 | emit ho hsame =>
  rw [invokes_emits ho]
  exact ⟨hwon.same hsame.2,hplayed⟩
 | approved hsame =>
  obtain ⟨hbase,hnext,hn⟩:=hplayed
  refine ⟨hwon.same hsame.2,hbase,hnext,?_⟩
  have hzero:n=0:=Nat.le_zero.mp hn
  rw [hzero]
  split <;> decide
 | tool hsame hother =>
  obtain ⟨rfl,hnext,hn⟩:=hplayed
  refine ⟨hwon.same hsame.2,rfl,hnext,?_⟩
  rw [invokes,decide_eq_false (hother st rfl hunrepeated)]
  exact hn
 | record _ _ hstore _ =>
  refine ⟨hwon.same ?_,hplayed⟩
  unfold snapshotsOf
  rw [hstore]
 | read hsame | goOn hsame =>
  obtain ⟨hbase,hnext,hn⟩:=hplayed
  exact ⟨hwon.same hsame.2,hbase,hnext,hn⟩
 | unpin ho hsame =>
  obtain ⟨hbase,hnext,hn⟩:=hplayed
  rw [invokes_emits ho]
  exact ⟨hwon.same hsame.2,hbase,hnext,hn⟩
 | suspend hsuspends _ =>
  obtain ⟨rfl,hnext,hn⟩:=hplayed
  obtain ⟨v,happends,hrid,hstate⟩:=hsuspends.snapshot
  refine ⟨hwon.add happends hrid hstate hsuspends.next.runID ?_,hn⟩
  exact next_requestID_ne hrequestID hunrepeated hsuspends.next
 | report _ hsame => exact ⟨hwon.same hsame.2,hplayed⟩
 | reject ho hsame =>
  rw [invokes_emits ho]
  exact ⟨hwon.same hsame.2,hplayed⟩

lemma claim_takes (hsequences:(start.map WorkflowSnapshotRecord.sequence).Nodup)
  (hfound:Found id start st) (hsnapshots:snapshotsOf rid s=start)
  (hused:Loaded id rid start s used) : used=st := by
 obtain ⟨vs,hstart,hvs,hused,-⟩:=hused
 rw [hsnapshots] at hvs
 obtain rfl := hstart.eq_of_length (Nat.le_antisymm hstart.length_le hvs.length_le)
 exact Found.unique hsequences hfound hused

lemma won_of_claims (hfound:Found id start st) (hsnapshots:snapshotsOf rid s=start)
  (h:Claims rid s u st next) : Won id rid st start next u := by
 obtain ⟨v,st',happends,hrid,hid,hstate,hagent,hrequest,htranscript,hrunID,hnext⟩:=h.snapshot
 have hholds:Holds id v st':=by
  obtain ⟨w,-,⟨-,hid,hempty,hdecodes⟩,-⟩:=hfound
  refine ⟨hstate,hagent.trans hid,hrequest ▸ hempty,?_⟩
  rw [unmarshals,htranscript]
  exact hdecodes
 refine ⟨v,[],?_,hid,⟨st',⟨hholds,hrunID⟩,hnext,?_⟩,?_,?_⟩
 · rw [snapshotsOf_appends happends hrid,hsnapshots]
 · rw [hnext]
   exact h.decides
 · exact fun _ h=>by cases h
 · intro w hw x hx
   obtain rfl := mem_singleton.mp hw
   rw [← hsnapshots,← hrid] at hx
   exact happends.last x hx

lemma claim_refused (hsequences:(start.map WorkflowSnapshotRecord.sequence).Nodup)
  (hfound:Found id start st) {next'} (hwon:Won id rid st start next s)
  (hused:Loaded id rid start s used) (hrequest:used.request.id=st.request.id)
  (h:Claims rid s u used next') : False := by
 obtain ⟨vs,hstart,hvs,hfound',hpending⟩:=hused
 rcases hwon.found hstart hvs hfound' with rfl | ⟨-,hdecided | hother⟩
 · obtain rfl := Found.unique hsequences hfound hfound'
   obtain ⟨v,more,hsnapshots,hid,-⟩:=hwon.snapshots
   obtain ⟨w,-,happends,hrid,hid',-⟩:=h.snapshot
   refine happends.fresh v ?_ (hid.trans hid'.symm)
   rw [hrid]
   change v ∈ snapshotsOf rid s
   rw [hsnapshots]
   exact mem_append_right _ mem_cons_self
 · exact hdecided hpending
 · exact hother hrequest

lemma Contest.sound (hheld:Held id rid st s₀)
  (h:Contest id rid st (snapshotsOf rid s₀) es ph s) : Sound id rid (snapshotsOf rid s₀) s := by
 refine ⟨h.keyed,?_⟩
 intro vs hstart hvs st' hfound
 have hfirst:vs=snapshotsOf rid s₀ → st'.request.runID=rid:=by
  rintro rfl
  obtain rfl := Found.unique hheld.sequences hheld.found hfound
  exact hheld.runID
 cases h.standing with
 | pending _ hsnapshots _ =>
  rw [hsnapshots] at hvs
  exact hfirst (hvs.eq_of_length (Nat.le_antisymm hvs.length_le hstart.length_le))
 | taken i next _ hwon _ =>
  rcases hwon.found hstart hvs hfound with hvs | ⟨hrunID,-⟩
  · exact hfirst hvs
  · exact hrunID

lemma Contest.starts (h:Contest id rid st (snapshotsOf rid s₀) es ph s) :
  snapshotsOf rid s₀ <+: snapshotsOf rid s := by
 cases h.standing with
 | pending _ hsnapshots _ => rw [hsnapshots]
 | taken i next _ hwon _ =>
  obtain ⟨v,more,hsnapshots,-⟩:=hwon.snapshots
  rw [hsnapshots]
  exact prefix_append _ _

lemma Contest.step (hheld:Held id rid st s₀)
  (h:Contest id rid st (snapshotsOf rid s₀) es ph s)
  (hmoves:Moves id rid (snapshotsOf rid s₀) (ph i) s o r u t) :
  Contest id rid st (snapshotsOf rid s₀) (es ++ [(i,⟨o,r⟩)]) (Function.update ph i t) u := by
 refine ⟨Moves.keyed hmoves h.keyed,?_⟩
 cases h.standing with
 | pending hidle hsnapshots hnone =>
  rw [hidle i] at hmoves
  cases hmoves with
  | silent ho _ hsame =>
   refine .pending ?_ (hsame.2.trans hsnapshots) ?_
   · rw [Function.update_eq_self_iff.mpr (hidle i).symm]
     exact hidle
   · rw [invocations_append,hnone,invokes_silent ho]
     rfl
  | claim hst _ hloaded _ hclaims =>
   obtain rfl := claim_takes hheld.sequences hheld.found hsnapshots hst
   obtain rfl := claim_takes hheld.sequences hheld.found hsnapshots hloaded
   refine .taken i _ ?_ (won_of_claims hheld.found hsnapshots hclaims) ?_
   · intro j hj
     rw [Function.update_of_ne hj]
     exact hidle j
   · rw [Function.update_self,invocations_append,hnone]
     exact ⟨rfl,rfl,rfl⟩
 | taken k next hidle hwon hplayed =>
  by_cases hik : i=k
  · subst hik
    obtain ⟨hwon',hplayed'⟩:=winner_moves hheld.requestID hheld.unrepeated hwon hplayed hmoves
    refine .taken i next ?_ hwon' ?_
    · intro j hj
      rw [Function.update_of_ne hj]
      exact hidle j hj
    · rw [Function.update_self,invocations_append]
      exact hplayed'
  · rw [hidle i hik] at hmoves
    cases hmoves with
    | silent ho _ hsame =>
     refine .taken k next ?_ (hwon.same hsame.2) ?_
     · rw [Function.update_eq_self_iff.mpr (hidle i hik).symm]
       exact hidle
     · rw [Function.update_of_ne (Ne.symm hik),invocations_append,invokes_silent ho]
       exact hplayed
    | claim _ _ hloaded hused hclaims =>
     exact (claim_refused hheld.sequences hheld.found hwon hloaded hused hclaims).elim

lemma contest_together (faulty:Prop) (given:(o:AgentOp) → o.Reply → Prop)
  (hheld:Held id rid st s₀) :
  Together (approvalWorld faulty given) (approvalTurns id rid (snapshotsOf rid s₀))
   (Contest id rid st (snapshotsOf rid s₀)) where
 keeps h _ hmoves := h.step hheld hmoves
 knows := by
  intro es ph s i o r u t j v h _ hmoves hj hbetween
  have hnext:=h.step hheld hmoves
  cases hphase : ph j with
  | idle requestID =>
   have hbetween':Between id rid (snapshotsOf rid s₀) (ph j) v s:=hbetween
   rw [hphase] at hbetween'
   exact ⟨hbetween'.1,hbetween'.2.1.trans hmoves.grows,hnext.sound hheld⟩
  | _ => trivial
 begins := by
  intro es ph s i h
  cases hphase : ph i with
  | idle requestID => exact ⟨h.starts,prefix_rfl,h.sound hheld⟩
  | _ => trivial

end

/-- The gated handler is called at most once, and not once a denial or an expiry is committed. -/
structure RunsOnce (faulty : Prop) (rid : RunID) (st : ToolApprovalSnapshot) (s : RuntimeState)
  (ps : List (AgentProg AgentOutcome)) : Prop where
 once : ∀ es u qs, PoolRun (agentWorld faulty) s ps es u qs → invocations st es ≤ 1
 unrejected : ∀ before m rs i o r after u qs, PoolRun (agentWorld faulty) s ps before m rs →
  PoolRun (agentWorld faulty) m rs ((i, ⟨o, r⟩) :: after) u qs → invokes st o = true →
  ¬ Rejected rid st s m

section

variable {id:AgentID} {rid:RunID} {st:ToolApprovalSnapshot} {s:RuntimeState}
 {calls:List (Agent × ToolApprovalDecision)}

def Decide (id : AgentID) (rid : RunID) (st : ToolApprovalSnapshot)
  (calls : List (Agent × ToolApprovalDecision)) : Prop :=
 ∀ c ∈ calls, c.1.id = id ∧ c.2.runID = rid ∧ c.2.requestID = st.request.id

def deciding (number : String → Option String) (calls : List (Agent × ToolApprovalDecision)) :
  List (AgentProg AgentOutcome) :=
 calls.map fun c => resumeToolApproval number c.1 c.2

lemma contest_begins (hheld:Held id rid st s) :
  Contest id rid st (snapshotsOf rid s) [] (fun _=>.idle st.request.id) s :=
 ⟨hheld.keyed,.pending (fun _=>rfl) rfl rfl⟩

lemma deciding_seated (faulty:Prop) (number:String → Option String) (hheld:Held id rid st s)
  (hcalls:Decide id rid st calls) :
  Seated (approvalWorld faulty fun _ _=>True)
   (approvalTurns id rid (snapshotsOf rid s)) (fun _=>.idle st.request.id) s
   (deciding number calls) := by
 intro i p hp
 obtain ⟨c,hc,rfl⟩:=mem_map.mp (mem_of_getElem? hp)
 obtain ⟨ha,hrunID,hrequest⟩:=hcalls c hc
 have hbegins:=contest_begins hheld
 refine ⟨s,⟨hbegins.starts,prefix_rfl,hbegins.sound hheld⟩,?_⟩
 rw [← hrequest]
 exact turn_resumeToolApproval number ha c.2 hrunID s

lemma Played.le_one (h:Played st next n t) : n ≤ 1 := by
 cases t with
 | idle => exact h.elim
 | claimed => exact h.2.2.le.trans (by decide)
 | owned base armed =>
  cases armed with
  | true => exact h.2.2.trans (by decide)
  | false => exact h.2.2
 | pinned => exact h.2.2
 | rejected => exact (show n=0 from h).le.trans (by decide)
 | suspending => exact h
 | finished => exact h

lemma Contest.invocations_le {start} (h:Contest id rid st start es ph s) :
  invocations st es ≤ 1 := by
 cases h.standing with
 | pending _ _ hnone => exact hnone.le.trans (by decide)
 | taken i next _ _ hplayed => exact hplayed.le_one

lemma Contest.executing (h:Contest id rid st (snapshotsOf rid s₀) es ph s)
  (hmoves:Moves id rid (snapshotsOf rid s₀) (ph i) s o r u t)
  (hinvokes:invokes st o=true) : Won id rid st (snapshotsOf rid s₀) .executing s := by
 have hidle:ph i ≠ .idle st.request.id:=by
  intro hi
  rw [hi] at hmoves
  have hnone:invokes st o=false:=by
   cases hmoves with
   | silent ho _ _ => exact invokes_silent ho
   | claim => rfl
  rw [hnone] at hinvokes
  cases hinvokes
 cases h.standing with
 | pending hall _ _ => exact (hidle (hall i)).elim
 | taken k next hall hwon hplayed =>
  obtain rfl : i=k := not_not.mp fun hik=>hidle (hall i hik)
  cases o with
  | tool invocation =>
   generalize ph i=phase at hmoves hplayed
   cases hmoves with
   | silent ho _ _ | emit ho _ | unpin ho _ | reject ho _ => exact ho.elim
   | approved _ | tool _ _ => exact hplayed.2.1 ▸ hwon
  | _ => cases hinvokes

lemma Won.not_rejected {m} (h:Won id rid st (snapshotsOf rid s₀) .executing m) :
  ¬ Rejected rid st s₀ m := by
 rintro ⟨v,hv,hnew,st',hstate,hrequest,hrejected⟩
 obtain ⟨w,more,hsnapshots,-,⟨st'',hnames,hnext,-⟩,hmore,-⟩:=h.snapshots
 rw [hsnapshots] at hv
 rcases mem_append.mp hv with hv | hv
 · exact hnew hv
 · rcases mem_cons.mp hv with rfl | hv
   · have hsame:=hnames.1.1.symm.trans hstate
     cases hsame
     rw [hnext] at hrejected
     rcases hrejected with h | h <;> cases h
   · obtain ⟨other,hother,-,hne⟩:=hmore v hv
     have hsame:=hother.symm.trans hstate
     cases hsame
     exact hne hrequest

/-- However many calls decide on a request, the gated handler runs at most once, and not after a
rejection. -/
theorem approved_tool_runs_once (faulty : Prop) (number : String → Option String) (id : AgentID)
  (rid : RunID) (st : ToolApprovalSnapshot) (s : RuntimeState)
  (calls : List (Agent × ToolApprovalDecision)) (hheld : Held id rid st s)
  (hcalls : Decide id rid st calls) :
  RunsOnce faulty rid st s (deciding number calls) := by
 have hworld:∀ {s u ps qs es}, PoolRun (agentWorld faulty) s ps es u qs →
   PoolRun (approvalWorld faulty fun _ _=>True) s ps es u qs (α := AgentOutcome) :=
  fun h=>h.of_forall_mem fun _ _=>trivial
 have hseated:=deciding_seated faulty number hheld hcalls
 have htogether:=contest_together faulty (fun _ _=>True) hheld
 refine ⟨?_,?_⟩
 · intro es u qs hrun
   obtain ⟨ph,hcontest,-⟩:=Seated.run htogether (hworld hrun) hseated (contest_begins hheld)
   exact hcontest.invocations_le
 · intro before m rs i o r after u qs hbefore hafter hinvokes
   obtain ⟨ph,v,t,hcontest,-,hmoves⟩:=Seated.at_step htogether (hworld hbefore)
    (hworld hafter) hseated (contest_begins hheld)
   exact (hcontest.executing hmoves hinvokes).not_rejected

end

def clerk : Agent where
 id := "clerk"
 tools := ["pay"]
 model := some ⟨"model", false⟩
 registry := some fun _ => some ⟨fun _ => none, fun _ => none⟩
 maxSteps := 2
 store := some {}
 toolApprovalPolicy := true
 pages := 2
 configured := rfl

def payment (callID amount : String) : ModelToolCall := ⟨callID, "pay", .json (.num amount)⟩

def payments (calls : List ModelToolCall) : ModelResponse where
 message := { role := .assistant, toolCalls := calls }
 finishReason := .toolCalls

def answerRuntime : (o : RuntimeOp) → Option o.Reply
 | .step .ctxErr => some (none : Option Err)
 | .step (.emit _) => some ()
 | .now => some (7 : Time)
 | .newRunID => some "run"
 | _ => none

def answerStore (conflict : Bool) : (o : RuntimeOp) → RuntimeState → Option (o.Reply × RuntimeState)
 | .transaction body, s =>
  if conflict && (s.store.runs "run").map WorkflowRunRecord.status = some .running then
   some (.error errConflict, s)
  else answerWith answerRuntime (.transaction body) s
 | o, s => answerWith answerRuntime o s

lemma answerStore_step {conflict o r} (h:answerStore conflict o s=some (r,u)) :
  runtimeStep True s o r u := by
 unfold answerStore at h
 split at h
 · split at h
   · cases h
     exact .inr ⟨trivial,⟨_,rfl⟩,rfl⟩
   · exact answerWith_step h
 · exact answerWith_step h

def answerClerk (calls : List ModelToolCall) (sequence : Nat → Nat) (conflicts : Nat → Bool)
  (i : Nat) : (o : AgentOp) → RuntimeState → Option (o.Reply × RuntimeState)
 | .runtime o, s => answerStore (conflicts i) o s
 | .newStepID, s => some ("step", s)
 | .generate _ _, s => some (.ok (payments calls), s)
 | .evaluateToolApproval _, s => some (.ok { outcome := .require }, s)
 | .tool _, s => some (.output (.json .null), s)
 | .flushDiagnostics _, s => some ((), s)
 | .emitterSequence, s => some (sequence i, s)
 | .resumeEmitter _, s => some ((), s)
 | _, _ => none

lemma answerClerk_step {sequence conflicts}
  (h:answerClerk calls sequence conflicts i o s=some (r,u)) :
  (agentWorld True).step s o r u := by
 unfold answerClerk at h
 split at h
 · exact answerStore_step h
 all_goals first
  | cases h; rfl
  | cases h

def clerkInput : RunInput := { messages := [{ role := .user, content := "pay" }] }

def waiting (calls : List ModelToolCall) : RuntimeState :=
 match (AgentLoop.run clerk clerkInput).answer (answerClerk calls (fun _ => 4) (fun _ => false) 0)
  .empty with
 | some (_, s) => s
 | none => .empty

def approval (requestID : String) : ToolApprovalDecision where
 runID := "run"
 requestID := requestID
 approved := true
 decidedAt := some 7

def payRace (calls : List ModelToolCall) (conflicts : Nat → Bool) (is : List Nat)
  (ps : List (AgentProg AgentOutcome)) :
  List (PoolEvent AgentSig) × RuntimeState × List (AgentProg AgentOutcome) :=
 schedule (answerClerk calls (fun _ => 9) conflicts) is (waiting calls) ps

lemma payRace_run (calls) (conflicts:Nat → Bool) (is ps) :
  PoolRun (agentWorld True) (waiting calls) ps (payRace calls conflicts is ps).1
   (payRace calls conflicts is ps).2.1 (payRace calls conflicts is ps).2.2 :=
 schedule_run (W := agentWorld True) (fun _ _ _ _ _ h=>answerClerk_step h) is _ ps

def handlers (es : List (PoolEvent AgentSig)) : List ToolInvocation :=
 es.filterMap fun e => match e.2.1 with
  | .tool invocation => some invocation
  | _ => none

def bothApprove (requestID : String) : List (Agent × ToolApprovalDecision) :=
 [(clerk, approval requestID), (clerk, approval requestID)]

structure AsksFor (calls : List ModelToolCall) (callID amount : String)
  (st : ToolApprovalSnapshot) : Prop where
 held : Held "clerk" "run" st (waiting calls)
 pending : st.state = .pending
 requestID : st.request.id = "run:1:step:" ++ callID
 step : st.request.step = 1
 toolCallID : st.request.toolCallID = callID
 arguments : st.request.arguments = .json (.num amount)
 calls : callIDs st = calls.map ModelToolCall.id
 callIndex : st.callIndex = 0

lemma waiting_held {run} (hrun:(waiting calls).store.runs "run" = some run) (hid:run.id = "run")
  (hsnapshots:snapshotsOf "run" (waiting calls)=[v]) (hv:Holds "clerk" v st)
  (hrunID:st.request.runID = "run")
  (hrequestID:st.request.id=toolApprovalRequestID "run" st.request.step st.request.stepID
   st.request.toolCallID) (hcall:(callIDs st)[st.callIndex]? = some st.request.toolCallID)
  (hanswers:Answers st.transcript (callIDs st)) : Held "clerk" "run" st (waiting calls) := by
 refine ⟨?_,?_,⟨v,?_,hv,?_⟩,hrunID,hrequestID,hcall,hanswers⟩
 · intro run' hrun'
   rw [hrun] at hrun'
   cases hrun'
   exact hid
 · rw [hsnapshots]
   exact nodup_singleton _
 · rw [hsnapshots]
   exact mem_singleton_self v
 · intro w hw st' _
   rw [hsnapshots] at hw
   rw [mem_singleton.mp hw]

def differentPayments : List ModelToolCall := [payment "one" "1", payment "two" "2"]

def Stored (calls : List ModelToolCall) (callID amount : String) : Prop :=
 ∃ v run st, (waiting calls).store.runs "run" = some run ∧ run.id = "run" ∧
  snapshotsOf "run" (waiting calls) = [v] ∧ v.state = .toolApproval st ∧
  st.agentID = "clerk" ∧ st.request.id ≠ "" ∧ unmarshals st = true ∧ st.request.runID = "run" ∧
  st.request.id = toolApprovalRequestID "run" st.request.step st.request.stepID
   st.request.toolCallID ∧ (callIDs st)[st.callIndex]? = some st.request.toolCallID ∧
  Answers st.transcript (callIDs st) ∧
  st.state = .pending ∧ st.request.id = "run:1:step:" ++ callID ∧ st.request.step = 1 ∧
  st.request.toolCallID = callID ∧ st.request.arguments = .json (.num amount) ∧
  callIDs st = calls.map ModelToolCall.id ∧ st.callIndex = 0

lemma Stored.asks {callID amount} (h:Stored calls callID amount) :
  ∃ st,AsksFor calls callID amount st := by
 obtain ⟨v,run,st,hrun,hid,hsnapshots,hstate,hagent,hempty,hdecodes,hrunID,hrest⟩:=h
 obtain ⟨hrequestID,hcall,hanswers,hpending,hid',hstep,hcallID,harguments,hcalls,hindex⟩:=hrest
 exact ⟨st,waiting_held hrun hid hsnapshots ⟨hstate,hagent,hempty,hdecodes⟩ hrunID hrequestID hcall
  hanswers,hpending,hid',hstep,hcallID,harguments,hcalls,hindex⟩

lemma different_stored : Stored differentPayments "one" "1" :=
 ⟨_,_,_,rfl,rfl,rfl,rfl,rfl,by decide,rfl,rfl,rfl,rfl,⟨_,.tail _ (.head _),rfl⟩,rfl,rfl,rfl,rfl,
  rfl,rfl,rfl⟩

lemma bothApprove_decide {callID amount} (h:AsksFor calls callID amount st) :
  Decide "clerk" "run" st (bothApprove ("run:1:step:" ++ callID)) := by
 intro c hc
 rcases mem_pair.mp hc with rfl | rfl <;> exact ⟨rfl,rfl,h.requestID.symm⟩

/-- Both calls load the request and decide; the first pays and asks for the next payment. -/
def overtaking : List Nat :=
 List.replicate 4 0 ++ List.replicate 4 1 ++ [0, 1] ++ List.replicate 30 0 ++ List.replicate 12 1

def paidBy (calls : List ModelToolCall) (callID : String) : List (PoolEvent AgentSig) :=
 (payRace calls (fun i => i == 1) overtaking
  (deciding some (bothApprove ("run:1:step:" ++ callID)))).1

theorem different_payment_made_once : ∃ st, AsksFor differentPayments "one" "1" st ∧
  invocations st (paidBy differentPayments "one") ≤ 1 ∧
  (handlers (paidBy differentPayments "one")).length = 1 := by
 obtain ⟨st,hst⟩:=different_stored.asks
 have honce:=approved_tool_runs_once True some "clerk" "run" st (waiting differentPayments)
  (bothApprove ("run:1:step:" ++ "one")) hst.held (bothApprove_decide hst)
 exact ⟨st,hst,honce.once _ _ _ (payRace_run _ _ _ _),rfl⟩

end Lebro.ApprovalClaims
