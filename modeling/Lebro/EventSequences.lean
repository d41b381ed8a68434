import Lebro.ApprovalClaims

set_option autoImplicit false

namespace Lebro.EventSequences

open EffectProgram EffectPool EffectTurns RuntimeTypes RuntimeRecords RuntimeEffects MemoryStore
open AgentEffects AgentTools AgentLoop AgentApprovals ApprovalStore ApprovalTurns ApprovalResumes
open ApprovalClaims List Function

variable {s:RuntimeState} {st:ToolApprovalSnapshot} {es:List (PoolEvent AgentSig)}
 {o:AgentOp} {r:o.Reply} {isOpen:Bool} {hs:List ToolApprovalSnapshot}
 {calls:List ModelToolCall} {conflicts:Nat → Bool} {i:Nat} {sequence:Nat → Nat}
 {e:PoolEvent AgentSig} {vs:List WorkflowSnapshotRecord}

/-- The emitters of the calls, and the numbers of all events in the order of their emission. -/
structure Emitters where
 sequence : Nat → Nat
 log : List Nat

variable {c c':Emitters}

def Emitters.new : Emitters := ⟨fun _ => 0, []⟩

def Emitters.emit (c : Emitters) (i n : Nat) : Emitters where
 sequence := update c.sequence i (c.sequence i + n)
 log := c.log ++ List.range' (c.sequence i + 1) n

def Emitters.resume (c : Emitters) (i n : Nat) : Emitters :=
 { c with sequence := update c.sequence i n }

/-- What a step of a call does to the emitters. The calls of models emit the events of their
attempts, and compaction those of its own. -/
def Emitters.Counts (c : Emitters) (i : Nat) : (o : AgentOp) → o.Reply → Emitters → Prop
 | .runtime (.step (.emit _)), _, c' => c' = c.emit i 1
 | .generate _ _, _, c' | .stream _ _, _, c' | .compact _ _ _ _, _, c' => ∃ n, c' = c.emit i n
 | .emitterSequence, r, c' => r = c.sequence i ∧ c' = c
 | .resumeEmitter n, _, c' => c' = c.resume i n
 | _, _, c' => c' = c

def Emitters.Counted : Emitters → List (PoolEvent AgentSig) → Emitters → Prop
 | c, [], c' => c' = c
 | c, e :: es, c' => ∃ m, c.Counts e.1 e.2.1 e.2.2 m ∧ m.Counted es c'

lemma Emitters.counted_append :
  c.Counted (es ++ [e]) c' ↔ ∃ m,c.Counted es m ∧ m.Counts e.1 e.2.1 e.2.2 c' := by
 induction es generalizing c with
 | nil =>
  constructor
  · rintro ⟨m,hm,rfl⟩
    exact ⟨c,rfl,hm⟩
  · rintro ⟨m,rfl,hm⟩
    exact ⟨c',hm,rfl⟩
 | cons e' es ih =>
  constructor
  · rintro ⟨m,hm,hrest⟩
    obtain ⟨n,hn,he⟩:=ih.mp hrest
    exact ⟨n,⟨m,hm,hn⟩,he⟩
  · rintro ⟨n,⟨m,hm,hn⟩,he⟩
    exact ⟨m,hm,ih.mpr ⟨n,hn,he⟩⟩

lemma Emitters.counts_emits (ho:Emits o) (h:c.Counts i o r c') : ∃ n,c'=c.emit i n := by
 cases o with
 | runtime o =>
  cases o with
  | step o =>
   cases o with
   | emit event => exact ⟨1,h⟩
   | _ => exact ho.elim
  | _ => exact ho.elim
 | generate | stream | compact => exact h
 | _ => exact ho.elim

lemma Emitters.counts_silent (ho:Silent o) (h:c.Counts i o r c') : c'=c := by
 cases o with
 | runtime o =>
  cases o with
  | step o =>
   cases o with
   | emit event => exact ho.elim
   | _ => exact h
  | _ => exact h
 | generate | stream | compact | tool | emitterSequence | resumeEmitter => exact ho.elim
 | _ => exact h

def UpTo (n : Nat) (log : List Nat) : Prop := ∀ k ∈ log, k ≤ n

lemma UpTo.mono {n m log} (h:UpTo n log) (hle:n ≤ m) : UpTo m log :=
 fun k hk=>(h k hk).trans hle

lemma Emitters.emit_upTo (n:Nat) (hlog:c.log.Pairwise (· < ·))
  (hupTo:UpTo (c.sequence i) c.log) :
  (c.emit i n).log.Pairwise (· < ·) ∧ UpTo ((c.emit i n).sequence i) (c.emit i n).log := by
 have hnew:(c.emit i n).sequence i=c.sequence i+n:=update_self ..
 constructor
 · refine pairwise_append.mpr ⟨hlog,pairwise_lt_range',?_⟩
   intro k hk m hm
   have hle:=hupTo k hk
   have hge:=(mem_range'_1.mp hm).1
   omega
 · rw [hnew]
   intro k hk
   rcases mem_append.mp hk with hk | hk
   · exact (hupTo k hk).trans (Nat.le_add_right _ _)
   · have hlt:=(mem_range'_1.mp hk).2
     omega

variable {base:Option ToolApprovalSnapshot}

section

variable {id:AgentID} {rid:RunID}

structure Made (rid : RunID) (st : ToolApprovalSnapshot) : Prop where
 runID : st.request.runID = rid
 requestID : st.request.id =
  toolApprovalRequestID rid st.request.step st.request.stepID st.request.toolCallID
 call : (callIDs st)[st.callIndex]? = some st.request.toolCallID
 distinct : unmarshals st = true → (callIDs st).Nodup

def After (b st : ToolApprovalSnapshot) : Prop := b.request.step < st.request.step ∨ SameBatch b st

lemma After.trans {a b c} (hab:After a b) (hbc:After b c) : After a c := by
 rcases hab with hab | hab <;> rcases hbc with hbc | hbc
 · exact .inl (hab.trans hbc)
 · exact .inl (hbc.step ▸ hab)
 · exact .inl (hab.step ▸ hbc)
 · exact .inr ⟨hbc.step.trans hab.step,hbc.stepID.trans hab.stepID,hbc.calls.trans hab.calls,
    hab.later.trans hbc.later⟩

lemma After.requestID_ne {b} (hb:Made rid b) (hst:Made rid st) (hdecodes:unmarshals b=true)
  (h:After b st) :
  b.request.id ≠ st.request.id := by
 rw [hb.requestID,hst.requestID]
 intro hid
 obtain ⟨hstep,hcall⟩:=toolApprovalRequestID_inj hid
 rcases h with h | h
 · omega
 · have hindex:=h.later
   have hb':=hb.call
   rw [hcall h.stepID.symm,← hst.call,h.calls] at hb'
   have hlt:=(List.getElem?_eq_some_iff.mp hb.call).1
   exact absurd ((List.getElem?_inj hlt (hb.distinct hdecodes)).mp hb') (Nat.ne_of_lt hindex)

lemma made_of_next (hbase:∀ b,base=some b → Made rid b ∧ unmarshals b=true)
  (h:Next rid base st) : Made rid st := by
 refine ⟨h.runID,h.requestID,h.call,?_⟩
 rcases h.fresh with hfresh | ⟨b,hb,hbatch⟩
 · exact hfresh.distinct
 · rw [hbatch.calls]
   exact fun _=>(hbase b hb).1.distinct (hbase b hb).2

/-- The requests of a run, the newest first, each decided before the next is made; the flag says
whether the newest is still open. -/
inductive Chain (id : AgentID) (rid : RunID) :
  List WorkflowSnapshotRecord → List ToolApprovalSnapshot → Bool → Prop where
 | nil : Chain id rid [] [] false
 | ask {vs : List WorkflowSnapshotRecord} {hs : List ToolApprovalSnapshot}
   {v : WorkflowSnapshotRecord} {st : ToolApprovalSnapshot} (h : Chain id rid vs hs false)
   (hstate : v.state = .toolApproval st) (hmade : Made rid st)
   (hafter : ∀ b ∈ hs, After b st ∧ b.request.id ≠ st.request.id) :
   Chain id rid (vs ++ [v]) (st :: hs) true
 | decide {vs : List WorkflowSnapshotRecord} {hs : List ToolApprovalSnapshot}
   {v : WorkflowSnapshotRecord} {st st' : ToolApprovalSnapshot}
   (h : Chain id rid vs (st :: hs) true) (hdecodes : unmarshals st = true)
   (hstate : v.state = .toolApproval st') (hrunID : st'.request.runID = rid)
   (hdecided : st'.state ≠ .pending) (hid : v.id = decidedID st) :
   Chain id rid (vs ++ [v]) (st :: hs) false

section

variable (h:Chain id rid vs hs isOpen)

include h

lemma Chain.found {ws} (hws:ws <+: vs) (hfound:Found id ws st) :
  st.request.runID=rid ∧ (st.state = .pending → st ∈ hs) := by
 obtain ⟨x,hx,hholds,hlast⟩:=hfound
 -- the snapshot itself is one of the chain
 have hmem:=hws.subset hx
 clear hws hlast hx
 induction h with
 | nil => cases hmem
 | ask h hv hmade hafter ih =>
  rcases mem_append.mp hmem with hmem | hmem
  · exact ⟨(ih hmem).1,fun hp=>mem_cons_of_mem _ ((ih hmem).2 hp)⟩
  · obtain rfl := mem_singleton.mp hmem
    have hstate:=hv.symm.trans hholds.1
    cases hstate
    exact ⟨hmade.runID,fun _=>mem_cons_self⟩
 | decide h _ hv hrunID hdecided _ ih =>
  rcases mem_append.mp hmem with hmem | hmem
  · exact ih hmem
  · obtain rfl := mem_singleton.mp hmem
    have hstate:=hv.symm.trans hholds.1
    cases hstate
    exact ⟨hrunID,fun hp=>(hdecided hp).elim⟩

lemma Chain.made : ∀ st ∈ hs,Made rid st := by
 induction h with
 | nil => exact fun _ h=>by cases h
 | ask h hv hmade hafter ih =>
  intro st hst
  rcases mem_cons.mp hst with rfl | hst
  · exact hmade
  · exact ih st hst
 | decide _ _ _ _ _ _ ih => exact ih

lemma Chain.ordered : hs.Pairwise fun st b=>After b st := by
 induction h with
 | nil => exact .nil
 | ask _ _ _ hafter ih => exact .cons (fun b hb=>(hafter b hb).1) ih
 | decide _ _ _ _ _ _ ih => exact ih

/-- Whatever was decided had been read back. -/
lemma Chain.decodes : ∀ b ∈ (if isOpen then hs.tail else hs),unmarshals b=true := by
 induction h with
 | nil => exact fun _ h=>by cases h
 | ask _ _ _ _ ih => exact ih
 | decide _ hdecodes _ _ _ _ ih => exact forall_mem_cons.mpr ⟨hdecodes,ih⟩

lemma Chain.unique {st'} (hst:st ∈ hs) (hst':st' ∈ hs) (hid:st.request.id=st'.request.id) :
  st=st' := by
 induction h with
 | nil => cases hst
 | ask h hv hmade hafter ih =>
  rcases mem_cons.mp hst with rfl | hold
  · rcases mem_cons.mp hst' with rfl | hold'
    · rfl
    · exact absurd hid.symm (hafter st' hold').2
  · rcases mem_cons.mp hst' with rfl | hold'
    · exact absurd hid (hafter st hold).2
    · exact ih hold hold'
 | decide _ _ _ _ _ _ ih => exact ih hst hst'

lemma Chain.decided (hst:st ∈ hs) :
  (isOpen=true ∧ hs.head? = some st) ∨ ∃ v ∈ vs,v.id=decidedID st := by
 induction h with
 | nil => cases hst
 | ask h hv hmade hafter ih =>
  rcases mem_cons.mp hst with rfl | hst
  · exact .inl ⟨rfl,rfl⟩
  · rcases ih hst with ⟨hclosed,-⟩ | ⟨v,hv,hid⟩
    · cases hclosed
    · exact .inr ⟨v,mem_append_left _ hv,hid⟩
 | decide _ _ _ _ _ hid ih =>
  rcases ih hst with ⟨-,hhead⟩ | ⟨v,hv,hid'⟩
  · cases hhead
    exact .inr ⟨_,mem_append_right _ (mem_singleton_self _),hid⟩
  · exact .inr ⟨v,mem_append_left _ hv,hid'⟩

end

end

def lastCommit (es : List (PoolEvent AgentSig)) : Option Nat :=
 es.foldl (fun last e => if commits e.2.1 e.2.2 then some e.1 else last) none

lemma lastCommit_append (es) (i:Nat) (o r) :
  lastCommit (es ++ [(i,⟨o,r⟩)])=if commits o r then some i else lastCommit es := by
 rw [lastCommit,foldl_append]
 rfl

def reports : AgentOp → Bool
 | .runtime (.step (.emit event)) => event.type = .suspended
 | _ => false

def Ordered (es : List (PoolEvent AgentSig)) : Prop :=
 ∀ before e after, es = before ++ e :: after → reports e.2.1 = true → lastCommit before = some e.1

lemma Ordered.before (h:Ordered (es ++ [e])) : Ordered es := by
 intro before e' after heq
 apply h before e' (after ++ [e])
 rw [heq,append_assoc]
 rfl

lemma Ordered.last (h:Ordered (es ++ [e])) (he:reports e.2.1=true) :
  lastCommit es=some e.1 :=
 h es e [] rfl he

def Resting : Phase → Prop
 | .idle _ | .suspending _ | .finished => True
 | _ => False

def Owns (hs : List ToolApprovalSnapshot) : Phase → Prop
 | .claimed st _ => hs.head? = some st
 | .owned base _ | .pinned base _ => hs.head? = base
 | .rejected => True
 | _ => False

def Reached (n : Nat) (log : List Nat) : Phase → Prop
 | .claimed st _ => UpTo st.eventSequence log
 | .pinned _ sequence => sequence = n ∧ UpTo n log
 | _ => UpTo n log

inductive Line (id : AgentID) (rid : RunID) (es : List (PoolEvent AgentSig)) (ph : Nat → Phase)
  (s : RuntimeState) : Prop where
 | owned (i : Nat) (hs : List ToolApprovalSnapshot)
   (hchain : Chain id rid (snapshotsOf rid s) hs false)
   (hlast : ∀ j, lastCommit es = some j → j = i) (hrest : ∀ j, j ≠ i → Resting (ph j))
   (howns : Owns hs (ph i))
   (hlog : ∀ c, Emitters.new.Counted es c → Ordered es →
    c.log.Pairwise (· < ·) ∧ Reached (c.sequence i) c.log (ph i))
 | waiting (st : ToolApprovalSnapshot) (hs : List ToolApprovalSnapshot)
   (hchain : Chain id rid (snapshotsOf rid s) (st :: hs) true) (hrest : ∀ j, Resting (ph j))
   (hlog : ∀ c, Emitters.new.Counted es c → Ordered es →
    c.log.Pairwise (· < ·) ∧ UpTo st.eventSequence c.log ∧
    ∀ j st', ph j = .suspending st' → lastCommit es = some j →
     c.sequence j + 1 = st.eventSequence ∧ UpTo (c.sequence j) c.log)

structure Lined (id : AgentID) (rid : RunID) (es : List (PoolEvent AgentSig)) (ph : Nat → Phase)
  (s : RuntimeState) : Prop where
 keyed : ∀ run, s.store.runs rid = some run → run.id = rid
 line : Line id rid es ph s

section

variable {id:AgentID} {rid:RunID} {es:List (PoolEvent AgentSig)} {ph:Nat → Phase}
 {s u:RuntimeState} {i:Nat} {o:AgentOp} {r:o.Reply} {t:Phase}

lemma Line.chain (h:Line id rid es ph s) :
  ∃ hs isOpen,Chain id rid (snapshotsOf rid s) hs isOpen := by
 cases h with
 | owned i hs hchain => exact ⟨hs,false,hchain⟩
 | waiting st hs hchain => exact ⟨_,true,hchain⟩

lemma Lined.sound (h:Lined id rid es ph s) : Sound id rid [] s := by
 obtain ⟨hs,isOpen,hchain⟩:=h.line.chain
 exact ⟨h.keyed,fun vs _ hvs st hfound=>(hchain.found hvs hfound).1⟩

lemma counted_unchanged (hcounts:∀ {c c':Emitters},c.Counts i o r c' → c'=c)
  (h:Emitters.new.Counted (es ++ [(i,⟨o,r⟩)]) c') : Emitters.new.Counted es c' := by
 obtain ⟨c,hc,hstep⟩:=Emitters.counted_append.mp h
 rw [hcounts hstep]
 exact hc

lemma claim_open (hchain:Chain id rid (snapshotsOf rid s) hs isOpen) {used requestID next}
  (hst:Loaded id rid [] s st) (hrequest:st.request.id=requestID)
  (hloaded:Loaded id rid [] s used) (hused:used.request.id=requestID)
  (hclaims:Claims rid s u used next) : isOpen=true ∧ hs.head? = some st ∧ used=st := by
 obtain ⟨vs,-,hvs,hfound,hpending⟩:=hst
 obtain ⟨ws,-,hws,hfound',hpending'⟩:=hloaded
 have hmem:=(hchain.found hvs hfound).2 hpending
 have hmem':=(hchain.found hws hfound').2 hpending'
 obtain rfl := hchain.unique hmem hmem' (hrequest.trans hused.symm)
 rcases hchain.decided hmem with ⟨hopen,hhead⟩ | ⟨v,hv,hid⟩
 · exact ⟨hopen,hhead,rfl⟩
 · obtain ⟨w,-,happends,hrid,hid',-⟩:=hclaims.snapshot
   exact (happends.fresh v (by rw [hrid]; exact hv) (hid.trans hid'.symm)).elim

lemma chain_claims (hchain:Chain id rid (snapshotsOf rid s) (st :: hs) true)
  (hst:Loaded id rid [] s st) {next} (hclaims:Claims rid s u st next) :
  Chain id rid (snapshotsOf rid u) (st :: hs) false := by
 obtain ⟨v,st',happends,hrid,hid,hstate,-,-,-,hrunID,hnext⟩:=hclaims.snapshot
 obtain ⟨vs,-,hvs,⟨w,-,⟨-,-,-,hdecodes⟩,-⟩,-⟩:=hst
 rw [snapshotsOf_appends happends hrid]
 refine .decide hchain hdecodes hstate hrunID ?_ hid
 rw [hnext]
 exact hclaims.decides

lemma chain_suspends (hchain:Chain id rid (snapshotsOf rid s) hs false)
  (hbase:hs.head? = base) (h:Suspends rid base s u st) :
  Chain id rid (snapshotsOf rid u) (st :: hs) true := by
 obtain ⟨v,happends,hrid,hstate⟩:=h.snapshot
 have hknown:∀ b ∈ hs,Made rid b ∧ unmarshals b=true:=
  fun b hb=>⟨hchain.made b hb,hchain.decodes b hb⟩
 have hmade:Made rid st:=by
  refine made_of_next ?_ h.next
  intro b hb
  exact hknown b (mem_of_mem_head? (by rw [hbase,hb]; rfl))
 rw [snapshotsOf_appends happends hrid]
 refine .ask hchain hstate hmade ?_
 intro b hb
 have hafter:After b st:=by
  cases hs with
  | nil => cases hb
  | cons newest hs =>
   have hnewest:After newest st:=h.next.after newest hbase.symm
   rcases mem_cons.mp hb with rfl | hb
   · exact hnewest
   · exact ((pairwise_cons.mp hchain.ordered).1 b hb).trans hnewest
 exact ⟨hafter,hafter.requestID_ne (hknown b hb).1 hmade (hknown b hb).2⟩

lemma emits_not_commits {o} (ho:Emits o) {r} : commits o r=false := by
 cases o with
 | runtime o =>
  cases o with
  | transaction => exact ho.elim
  | _ => rfl
 | _ => rfl

lemma owned_again (hchain:Chain id rid (snapshotsOf rid u) hs false)
  (hcommits:commits o r=false) (hlast:∀ j,lastCommit es=some j → j=i)
  (hrest:∀ j,j ≠ i → Resting (ph j))
  (hlog:∀ c,Emitters.new.Counted es c → Ordered es → c.log.Pairwise (· < ·) ∧
   Reached (c.sequence i) c.log (ph i))
  (howns:Owns hs t)
  (hcounts:∀ c c' : Emitters,c.Counts i o r c' → c.log.Pairwise (· < ·) →
   Reached (c.sequence i) c.log (ph i) → c'.log.Pairwise (· < ·) ∧
   Reached (c'.sequence i) c'.log t) :
  Line id rid (es ++ [(i,⟨o,r⟩)]) (update ph i t) u := by
 refine .owned i hs hchain ?_ ?_ ?_ ?_
 · intro j hj
   rw [lastCommit_append,hcommits] at hj
   exact hlast j hj
 · intro j hj
   rw [update_of_ne hj]
   exact hrest j hj
 · rw [update_self]
   exact howns
 · intro c' hc' hordered
   obtain ⟨c,hc,hstep⟩:=Emitters.counted_append.mp hc'
   obtain ⟨hsorted,hreached⟩:=hlog c hc hordered.before
   rw [update_self]
   exact hcounts c c' hstep hsorted hreached

lemma owner_moves (hchain:Chain id rid (snapshotsOf rid s) hs false)
  (hlast:∀ j,lastCommit es=some j → j=i) (hrest:∀ j,j ≠ i → Resting (ph j))
  (hlog:∀ c,Emitters.new.Counted es c → Ordered es → c.log.Pairwise (· < ·) ∧
   Reached (c.sequence i) c.log (ph i))
  (howns:Owns hs (ph i)) (h:Moves id rid [] (ph i) s o r u t) :
  Line id rid (es ++ [(i,⟨o,r⟩)]) (update ph i t) u := by
 generalize hphase : ph i=phase at h howns
 have hsame:Same rid s u → Chain id rid (snapshotsOf rid u) hs false:=
  fun hsame=>by rw [hsame.2]; exact hchain
 cases h with
 | silent ho hopen h =>
  refine owned_again (hsame h) hopen hlast hrest hlog howns ?_
  intro c c' hstep hsorted hreached
  rw [Emitters.counts_silent ho hstep,← hphase]
  exact ⟨hsorted,hreached⟩
 | claim => exact howns.elim
 | @resume _ _ st next h =>
  refine owned_again (hsame h) rfl hlast hrest hlog ?_ ?_
  · unfold resumed
    split
    · exact howns
    · trivial
  · rintro c c' rfl hsorted hreached
    rw [hphase] at hreached
    refine ⟨hsorted,?_⟩
    have hsequence:(c.resume i st.eventSequence).sequence i=st.eventSequence:=update_self ..
    rw [hsequence]
    unfold resumed
    split <;> exact hreached
 | emit ho h =>
  refine owned_again (hsame h) (emits_not_commits ho) hlast hrest hlog
   howns ?_
  intro c c' hstep hsorted hreached
  obtain ⟨n,rfl⟩:=Emitters.counts_emits ho hstep
  rw [hphase] at hreached
  exact Emitters.emit_upTo n hsorted hreached
 | approved h | tool h _ =>
  refine owned_again (hsame h) rfl hlast hrest hlog howns ?_
  rintro c c' rfl hsorted hreached
  rw [hphase] at hreached
  exact ⟨hsorted,hreached⟩
 | record _ _ hstore _ =>
  refine owned_again ?_ rfl hlast hrest hlog howns ?_
  · unfold snapshotsOf at hchain ⊢
    rw [hstore]
    exact hchain
  · rintro c c' rfl hsorted hreached
    rw [hphase] at hreached
    exact ⟨hsorted,hreached⟩
 | read h =>
  refine owned_again (hsame h) rfl hlast hrest hlog howns ?_
  rintro c c' ⟨rfl,rfl⟩ hsorted hreached
  rw [hphase] at hreached
  exact ⟨hsorted,rfl,hreached⟩
 | @goOn _ _ _ sequence h =>
  refine owned_again (hsame h) rfl hlast hrest hlog howns ?_
  rintro c c' rfl hsorted hreached
  rw [hphase] at hreached
  obtain ⟨rfl,hupTo⟩:=hreached
  refine ⟨hsorted,?_⟩
  have hsequence:(c.resume i (c.sequence i)).sequence i=c.sequence i:=update_self ..
  rw [hsequence]
  exact hupTo
 | unpin ho h =>
  refine owned_again (hsame h) (emits_not_commits ho) hlast hrest hlog
   howns ?_
  intro c c' hstep hsorted hreached
  obtain ⟨n,rfl⟩:=Emitters.counts_emits ho hstep
  rw [hphase] at hreached
  exact Emitters.emit_upTo n hsorted hreached.2
 | @suspend base _ _ sequence body st hsuspends hsequence =>
  refine .waiting st hs (chain_suspends hchain howns hsuspends) ?_ ?_
  · exact (forall_update_iff ph fun _ t=>Resting t).mpr ⟨trivial,hrest⟩
  · intro c' hc' hordered
    obtain ⟨c,hc,rfl⟩:=Emitters.counted_append.mp hc'
    obtain ⟨hsorted,hreached⟩:=hlog c' hc hordered.before
    rw [hphase] at hreached
    obtain ⟨rfl,hupTo⟩:=hreached
    refine ⟨hsorted,hupTo.mono (by omega),?_⟩
    intro j st' _ hj
    rw [lastCommit_append] at hj
    obtain rfl : i=j := Option.some.inj hj
    exact ⟨hsequence.symm,hupTo⟩
 | report => exact howns.elim
 | reject ho h =>
  refine owned_again (hsame h) (emits_not_commits ho) hlast hrest hlog
   trivial ?_
  intro c c' hstep hsorted hreached
  obtain ⟨n,rfl⟩:=Emitters.counts_emits ho hstep
  rw [hphase] at hreached
  exact Emitters.emit_upTo n hsorted hreached

lemma rest_moves {k} (hchain:Chain id rid (snapshotsOf rid s) hs false)
  (hlast:∀ j,lastCommit es=some j → j=k) (hrest:∀ j,j ≠ k → Resting (ph j))
  (hlog:∀ c,Emitters.new.Counted es c → Ordered es → c.log.Pairwise (· < ·) ∧
   Reached (c.sequence k) c.log (ph k)) (howns:Owns hs (ph k)) (hik:i ≠ k)
  (h:Moves id rid [] (ph i) s o r u t) :
  Line id rid (es ++ [(i,⟨o,r⟩)]) (update ph i t) u := by
 have hresting:=hrest i hik
 generalize hphase : ph i=phase at h hresting
 have hrest' (ht : Resting t) : ∀ j,j ≠ k → Resting (update ph i t j) :=
  (forall_update_iff ph fun j t=>j ≠ k → Resting t).mpr ⟨fun _=>ht,fun j _=>hrest j⟩
 have hkept:update ph i t k=ph k:=update_of_ne (Ne.symm hik) t ph
 cases h with
 | silent ho hopen hsame =>
  refine .owned k hs (hsame.2 ▸ hchain) ?_ (hrest' hresting) (hkept ▸ howns) ?_
  · intro j hj
    rw [lastCommit_append,hopen] at hj
    exact hlast j hj
  · intro c hc hordered
    rw [hkept]
    exact hlog c (counted_unchanged (Emitters.counts_silent ho) hc) hordered.before
 | claim hst hrequest hloaded hused hclaims =>
  obtain ⟨hopen,-⟩:=claim_open hchain hst hrequest hloaded hused hclaims
  cases hopen
 | @report st _ _ event htype hsame =>
  refine .owned k hs (hsame.2 ▸ hchain) ?_ (hrest' trivial) (hkept ▸ howns) ?_
  · intro j hj
    rw [lastCommit_append] at hj
    exact hlast j hj
  · -- the run was taken before the report, which the order forbids
    intro c hc hordered
    have hreports:reports (.runtime (.step (.emit event)))=true:=decide_eq_true htype
    exact (hik (hlast i (hordered.last hreports))).elim
 | _ => exact hresting.elim

lemma waiting_moves (hchain:Chain id rid (snapshotsOf rid s) (st :: hs) true)
  (hrest:∀ j,Resting (ph j))
  (hlog:∀ c,Emitters.new.Counted es c → Ordered es → c.log.Pairwise (· < ·) ∧
   UpTo st.eventSequence c.log ∧ ∀ j st',ph j = .suspending st' → lastCommit es=some j →
   c.sequence j+1=st.eventSequence ∧ UpTo (c.sequence j) c.log)
  (h:Moves id rid [] (ph i) s o r u t) :
  Line id rid (es ++ [(i,⟨o,r⟩)]) (update ph i t) u := by
 have hresting:=hrest i
 generalize hphase : ph i=phase at h hresting
 have hothers:∀ j,j ≠ i → Resting (update ph i t j):=by
  intro j hj
  rw [update_of_ne hj]
  exact hrest j
 have hrest' (ht : Resting t) : ∀ j,Resting (update ph i t j) :=
  (forall_update_iff ph fun _ t=>Resting t).mpr ⟨ht,fun j _=>hrest j⟩
 cases h with
 | silent ho hopen hsame =>
  refine .waiting st hs (hsame.2 ▸ hchain) (hrest' hresting) ?_
  intro c hc hordered
  obtain ⟨hsorted,hupTo,hreport⟩ :=
   hlog c (counted_unchanged (Emitters.counts_silent ho) hc) hordered.before
  refine ⟨hsorted,hupTo,?_⟩
  rw [lastCommit_append,hopen,update_eq_self_iff.mpr hphase.symm]
  exact hreport
 | claim hst hrequest hloaded hused hclaims =>
  obtain ⟨-,hhead,rfl⟩:=claim_open hchain hst hrequest hloaded hused hclaims
  obtain rfl := Option.some.inj hhead
  refine .owned i _ (chain_claims hchain hst hclaims) ?_ hothers ?_ ?_
  · intro j hj
    rw [lastCommit_append] at hj
    exact (Option.some.inj hj).symm
  · rw [update_self]
    rfl
  · intro c hc hordered
    obtain ⟨c',hc',rfl⟩:=Emitters.counted_append.mp hc
    obtain ⟨hsorted,hupTo,-⟩:=hlog c hc' hordered.before
    rw [update_self]
    exact ⟨hsorted,hupTo⟩
 | @report st' _ _ event htype hsame =>
  refine .waiting st hs (hsame.2 ▸ hchain) (hrest' trivial) ?_
  intro c hc hordered
  obtain ⟨c',hc',rfl⟩:=Emitters.counted_append.mp hc
  obtain ⟨hsorted,-,hreport⟩:=hlog c' hc' hordered.before
  have hreports:reports (.runtime (.step (.emit event)))=true:=decide_eq_true htype
  obtain ⟨hsequence,hupTo⟩:=hreport i st' hphase (hordered.last hreports)
  obtain ⟨hsorted',hupTo'⟩:=Emitters.emit_upTo 1 hsorted hupTo
  have hnew:(c'.emit i 1).sequence i=st.eventSequence:=(update_self ..).trans hsequence
  refine ⟨hsorted',hnew ▸ hupTo',?_⟩
  intro j st'' hj hlast
  rw [lastCommit_append] at hlast
  obtain rfl : i=j := Option.some.inj ((hordered.last hreports).symm.trans hlast)
  rw [update_self] at hj
  cases hj
 | _ => exact hresting.elim

lemma Lined.step (h:Lined id rid es ph s) (hmoves:Moves id rid [] (ph i) s o r u t) :
  Lined id rid (es ++ [(i,⟨o,r⟩)]) (update ph i t) u := by
 refine ⟨Moves.keyed hmoves h.keyed,?_⟩
 cases h.line with
 | owned k hs hchain hlast hrest howns hlog =>
  by_cases hik : i=k
  · subst hik
    exact owner_moves hchain hlast hrest hlog howns hmoves
  · exact rest_moves hchain hlast hrest hlog howns hik hmoves
 | waiting st hs hchain hrest hlog => exact waiting_moves hchain hrest hlog hmoves

lemma lined_together {faulty:Prop} {given:(o:AgentOp) → o.Reply → Prop} :
  Together (approvalWorld faulty given) (approvalTurns id rid []) (Lined id rid) where
 keeps h _ hmoves := h.step hmoves
 knows := by
  intro es ph s i o r u t j v h _ hmoves hj hbetween
  cases hphase : ph j with
  | idle requestID =>
   have hbetween':Between id rid [] (ph j) v s:=hbetween
   rw [hphase] at hbetween'
   exact ⟨ nil_prefix,hbetween'.2.1.trans hmoves.grows,(h.step hmoves).sound⟩
  | _ => trivial
 begins := by
  intro es ph s i h
  cases hphase : ph i with
  | idle requestID => exact ⟨ nil_prefix,prefix_rfl,h.sound⟩
  | _ => trivial

end

inductive FirstCall (id : AgentID) (rid : RunID) : AgentProg AgentOutcome → Prop where
 | run (a : Agent) (input : RunInput) (ha : a.id = id)
   (hrunID : input.runID = "" ∨ input.runID = rid) : FirstCall id rid (AgentLoop.run a input)
 | stream (a : Agent) (input : RunInput) (ha : a.id = id)
   (hrunID : input.runID = "" ∨ input.runID = rid) : FirstCall id rid (runStream a input)

def Identifies (rid : RunID) : (o : AgentOp) → o.Reply → Prop
 | .runtime .newRunID, runID => runID = rid
 | _, _ => True

/-- The events of a run from its first call on, with the decisions on its requests, in any store
that has no snapshots of it. -/
structure Life (faulty : Prop) (number : String → Option String) (id : AgentID) (rid : RunID)
  (es : List (PoolEvent AgentSig)) (c : Emitters) : Prop where
 calls : ∃ first calls s u qs, FirstCall id rid first ∧
  (∀ call ∈ calls, call.1.id = id ∧ call.2.runID = rid) ∧
  (∀ run, s.store.runs rid = some run → run.id = rid) ∧ snapshotsOf rid s = [] ∧
  PoolRun (agentWorld faulty) s (first :: deciding number calls) es u qs
 identifies : ∀ e ∈ es, Identifies rid e.2.1 e.2.2
 counted : Emitters.new.Counted es c

section

variable {faulty:Prop} {number:String → Option String} {id:AgentID} {rid:RunID}
 {es:List (PoolEvent AgentSig)} {c:Emitters}

lemma given_names {input} (h:input.runID = "" ∨ input.runID=rid) :
  ApprovalTurns.Names (Identifies rid) rid input := by
 unfold ApprovalTurns.Names
 split
 · exact fun _ h=>h
 · rename_i hnamed
   exact h.resolve_left hnamed

def firstPhases (calls : List (Agent × ToolApprovalDecision)) : Nat → Phase
 | 0 => .owned none false
 | j + 1 => .idle ((calls[j]?.map fun call => call.2.requestID).getD "")

lemma life_seated {first calls} (hfirst:FirstCall id rid first)
  (hcalls:∀ call ∈ calls,call.1.id=id ∧ call.2.runID=rid) (hsound:Sound id rid [] s) :
  Seated (approvalWorld faulty (Identifies rid)) (approvalTurns id rid []) (firstPhases calls) s
   (first :: deciding number calls) := by
 intro i p hp
 cases i with
 | zero =>
  cases hp
  refine ⟨s,trivial,?_⟩
  cases hfirst with
  | run a input ha hrunID =>
   exact turn_mono (turn_newRun (given_names hrunID) s) fun _ _ _ _=>trivial
  | stream a input ha hrunID =>
   exact turn_mono (turn_newRunStream (given_names hrunID) s) fun _ _ _ _=>trivial
 | succ j =>
  have hj:(calls.map fun call=>resumeToolApproval number call.1 call.2)[j]? = some p:=hp
  rw [List.getElem?_map,Option.map_eq_some_iff] at hj
  obtain ⟨call,hcall,rfl⟩:=hj
  obtain ⟨ha,hrunID⟩:=hcalls call (mem_of_getElem? hcall)
  refine ⟨s,?_,?_⟩
  · exact ⟨ nil_prefix,prefix_rfl,hsound⟩
  · have hphase:firstPhases calls (j+1) = .idle call.2.requestID:=by
     rw [firstPhases,hcall]
     rfl
    rw [hphase]
    exact turn_resumeToolApproval number ha call.2 hrunID s

lemma lined_begins {calls} (hkeyed:∀ run,s.store.runs rid=some run → run.id=rid)
  (hnew:snapshotsOf rid s=[]) : Lined id rid [] (firstPhases calls) s := by
 refine ⟨hkeyed,.owned 0 [] (hnew ▸ .nil) (fun _ h=>by cases h) ?_ rfl ?_⟩
 · intro j hj
   cases j with
   | zero => exact (hj rfl).elim
   | succ j => trivial
 · rintro c rfl -
   exact ⟨.nil,fun _ h=>by cases h⟩

/-- The events of a run are emitted in the order of their numbers when every suspension is reported
before a decision on it is committed. -/
theorem event_sequences_increase (faulty : Prop) (number : String → Option String) (id : AgentID)
  (rid : RunID) (es : List (PoolEvent AgentSig)) (c : Emitters)
  (hlife : Life faulty number id rid es c) (hordered : Ordered es) :
  c.log.Pairwise (· < ·) := by
 obtain ⟨first,calls,s,u,qs,hfirst,hcalls,hkeyed,hnew,hrun⟩:=hlife.calls
 have hbegins:Lined id rid [] (firstPhases calls) s := lined_begins hkeyed hnew
 obtain ⟨ph,hlined,-⟩:=Seated.run lined_together (hrun.of_forall_mem hlife.identifies)
  (life_seated hfirst hcalls hbegins.sound) hbegins
 cases hlined.line with
 | owned i hs _ _ _ _ hlog | waiting st hs _ _ hlog => exact (hlog c hlife.counted hordered).1

end

def Emitters.count (c : Emitters) : PoolEvent AgentSig → Option Emitters
 | (i, ⟨.runtime (.step (.emit _)), _⟩) => some (c.emit i 1)
 | (i, ⟨.generate _ _, _⟩) | (i, ⟨.stream _ _, _⟩) | (i, ⟨.compact _ _ _ _, _⟩) => some (c.emit i 0)
 | (i, ⟨.emitterSequence, n⟩) => if n = c.sequence i then some c else none
 | (i, ⟨.resumeEmitter n, _⟩) => some (c.resume i n)
 | _ => some c

def Emitters.counting (c : Emitters) : List (PoolEvent AgentSig) → Option Emitters
 | [] => some c
 | e :: es => (c.count e).bind fun c => c.counting es

lemma Emitters.counts_of_count (h:c.count e=some c') : c.Counts e.1 e.2.1 e.2.2 c' := by
 unfold Emitters.count at h
 split at h
 · exact (Option.some.inj h).symm
 · exact ⟨0,(Option.some.inj h).symm⟩
 · exact ⟨0,(Option.some.inj h).symm⟩
 · exact ⟨0,(Option.some.inj h).symm⟩
 · split at h
   · rename_i htrue
     exact ⟨htrue,(Option.some.inj h).symm⟩
   · cases h
 · exact (Option.some.inj h).symm
 · rename_i hemit hgenerate hstream hcompact hread hresume
   obtain rfl := Option.some.inj h
   obtain ⟨i,o,r⟩:=e
   cases o with
   | runtime o =>
    cases o with
    | step o =>
     cases o with
     | emit event => exact (hemit i event r rfl).elim
     | _ => rfl
    | _ => rfl
   | generate target request => exact (hgenerate i target request r rfl).elim
   | stream target request => exact (hstream i target request r rfl).elim
   | compact target threadID prior request =>
    exact (hcompact i target threadID prior request r rfl).elim
   | emitterSequence => exact (hread i r rfl).elim
   | resumeEmitter n => exact (hresume i n r rfl).elim
   | _ => rfl

lemma Emitters.counted_of_counting (h:c.counting es=some c') : c.Counted es c' := by
 induction es generalizing c with
 | nil => exact (Option.some.inj h).symm
 | cons e es ih =>
  obtain ⟨m,hm,hrest⟩:=Option.bind_eq_some_iff.mp h
  exact ⟨m,counts_of_count hm,ih hrest⟩

def clerkLife (calls : List ModelToolCall) (sequence : Nat → Nat) (conflicts : Nat → Bool)
  (decisions : List (Agent × ToolApprovalDecision)) (is : List Nat) :
  List (PoolEvent AgentSig) × RuntimeState × List (AgentProg AgentOutcome) :=
 schedule (answerClerk calls sequence conflicts) is .empty
  (AgentLoop.run clerk clerkInput :: deciding some decisions)

lemma clerkLife_run {calls} {sequence:Nat → Nat} {conflicts:Nat → Bool} {decisions is} :
  PoolRun (agentWorld True) .empty (AgentLoop.run clerk clerkInput :: deciding some decisions)
   (clerkLife calls sequence conflicts decisions is).1
   (clerkLife calls sequence conflicts decisions is).2.1
   (clerkLife calls sequence conflicts decisions is).2.2 :=
 schedule_run (W := agentWorld True) (fun _ _ _ _ _ h=>answerClerk_step h) is _ _

lemma answerClerk_identifies {u} (h:answerClerk calls sequence conflicts i o s=some (r,u)) :
  Identifies "run" o r := by
 cases o with
 | runtime o =>
  cases o with
  | newRunID =>
   have hanswer:some (("run" : RunID),s)=some (r,u):=h
   cases hanswer
   rfl
  | _ => trivial
 | _ => trivial

variable {decisions:List (Agent × ToolApprovalDecision)}

lemma clerkLife_life {is:List Nat}
  (hdecisions:∀ d ∈ decisions,d.1.id = "clerk" ∧ d.2.runID = "run")
  (hc:Emitters.new.counting (clerkLife calls sequence conflicts decisions is).1=some c) :
  Life True some "clerk" "run" (clerkLife calls sequence conflicts decisions is).1 c where
 calls := ⟨_,decisions,.empty,_,_,.run clerk clerkInput rfl (.inl rfl),hdecisions,
  (fun _ h=>by cases h),rfl,clerkLife_run⟩
 identifies := by
  refine schedule_forall ?_ _ _ _
  exact fun _ _ _ _ _ h=>answerClerk_identifies h
 counted := Emitters.counted_of_counting hc

/-- The run commits its request; the decision is committed and reports that the run is resumed; then
the run reports that it is suspended. -/
def overtaken : List Nat := List.replicate 15 0 ++ List.replicate 7 1 ++ [0]

def inOrder : List Nat := List.replicate 20 0 ++ List.replicate 7 1

def oneApproval : List (Agent × ToolApprovalDecision) := [(clerk, approval "run:1:step:one")]

lemma oneApproval_clerk : ∀ d ∈ oneApproval,d.1.id = "clerk" ∧ d.2.runID = "run" := by
 intro d hd
 rw [mem_singleton.mp hd]
 exact ⟨rfl,rfl⟩

def secondRead (i : Nat) : Nat := if i = 0 then 4 else 9

def ordered (es : List (PoolEvent AgentSig)) : Bool :=
 (List.range es.length).all fun n => match es[n]? with
  | some e => !reports e.2.1 || lastCommit (es.take n) == some e.1
  | none => true

lemma ordered_of_check (h:ordered es=true) : Ordered es := by
 intro before e after heq hreports
 have hlength:before.length < es.length:=by
  rw [heq,length_append,length_cons]
  omega
 have hcheck:=all_eq_true.mp h before.length (mem_range.mpr hlength)
 have hget:es[before.length]? = some e:=by
  rw [heq,List.getElem?_append_right (Nat.le_refl _),Nat.sub_self]
  rfl
 have htake:es.take before.length=before:=by
  rw [heq]
  exact take_left ..
 rw [hget] at hcheck
 simpa [hreports,htake] using hcheck

/-- A decision that waits for the report is numbered after it. -/
theorem clerk_events_in_order : ∃ c,
  Life True some "clerk" "run" (clerkLife differentPayments secondRead (fun _ => false)
   oneApproval inOrder).1 c ∧ c.log.Pairwise (· < ·) ∧ c.log = [1, 2, 3, 4, 5, 6] := by
 have hcounted:∃ c, Emitters.new.counting (clerkLife differentPayments secondRead
   (fun _=>false) oneApproval inOrder).1 = some c ∧ c.log = [1,2,3,4,5,6] :=
  ⟨_,rfl,rfl⟩
 obtain ⟨c,hc,hlog⟩:=hcounted
 have hlife:=clerkLife_life oneApproval_clerk hc
 exact ⟨c,hlife,event_sequences_increase True some "clerk" "run" _ c hlife
  (ordered_of_check rfl),hlog⟩

/-- A decision that overtakes the report of the request takes a later number. -/
theorem clerk_events_out_of_order : ∃ c,
  Life True some "clerk" "run" (clerkLife differentPayments secondRead (fun _ => false)
   oneApproval overtaken).1 c ∧ c.log = [1, 2, 3, 4, 6, 5] ∧ ¬ c.log.Pairwise (· < ·) := by
 have hcounted:∃ c, Emitters.new.counting (clerkLife differentPayments secondRead
   (fun _=>false) oneApproval overtaken).1 = some c ∧ c.log = [1,2,3,4,6,5] :=
  ⟨_,rfl,rfl⟩
 obtain ⟨c,hc,hlog⟩:=hcounted
 refine ⟨c,clerkLife_life oneApproval_clerk hc,hlog,?_⟩
 rw [hlog]
 decide

end Lebro.EventSequences
