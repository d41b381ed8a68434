import Lebro.EffectPool
import Lebro.WorkflowBoundaries
import Lebro.WorkflowProgress

set_option autoImplicit false

namespace Lebro.WorkflowRaces

open EffectProgram EffectPool EffectRuns RuntimeTypes RuntimeRecords RuntimeEffects MemoryStore
open WorkflowSteps WorkflowExecution WorkflowRuns WorkflowUserCode WorkflowBoundaries
open WorkflowProgress WorkflowStages List

variable {es:List (PoolEvent RuntimeSig)} {o:RuntimeOp} {α:Type} {p:RuntimeProg α}
 {r:o.Reply} {u:RuntimeState} {qs:List (RuntimeProg RunOutcome)} {i:Nat}

inductive Continuation (runID : RunID) : RuntimeProg RunOutcome → Prop where
 | resume (w : LinearWorkflow) (input : WorkflowResumeInput) (h : input.runID = runID) :
   Continuation runID (resume w input)
 | wake (w : LinearWorkflow) (token : String) : Continuation runID (resumeWake w runID token)

def passes : (o : RuntimeOp) → o.Reply → Bool
 | .repo (.getWorkflowRun _), .ok run => run.status = .suspended
 | _, _ => false

inductive Phase where
 | reading
 | executing
 | closed
 deriving DecidableEq

variable {phase:Phase}

def Phase.next : Phase → (o : RuntimeOp) → o.Reply → Phase
 | .reading, o, r => if passes o r then .executing else .reading
 | .executing, .repo (.saveWorkflowRun _), _ => .closed
 | phase, _, _ => phase

def Quiet : RuntimeOp → Prop
 | .transaction _ => False
 | .repo (.saveWorkflowRun _) => False
 | _ => True

def Phase.demand (runID : RunID) : Phase → RuntimeOp → Prop
 | .reading, o => Quiet o ∧ ∀ id, o = .repo (.getWorkflowRun id) → id = runID
 | .executing, .transaction body => Boundary body
 | .executing, _ => True
 | .closed, o => Quiet o

def phases (runID : RunID) : Monitor RuntimeSig Phase :=
 Monitor.ghost (Phase.demand runID) Phase.next

section

variable {runID:RunID}

def InPhase (runID id : RunID) : Stage → Place → Phase → Prop
 | .idle, _, _ => False
 | .reading, _, phase => id = runID ∧ phase = .reading
 | .found record, _, phase =>
  id = runID ∧ phase = if record.status = .suspended then .executing else .reading
 | .written, _, _ => True
 | .unwritten, _, _ => True
 | .closed, _, _ => True
 | _, _, phase => phase = .executing

def Idle : RuntimeOp → Prop
 | .repo _ => False
 | .transaction _ => False
 | _ => True

lemma phase_idle (h:Idle o) (phase) :
  (phases runID).demand phase o ∧ ∀ r u,(phases runID).step phase o r u → u=phase := by
 cases o with
 | repo o | transaction body => exact h.elim
 | _ =>
  cases phase with
  | reading => exact ⟨⟨trivial,nofun⟩,fun r v hv=>hv⟩
  | executing | closed => exact ⟨trivial,fun r v hv=>hv⟩

lemma wp_idle {p:RuntimeProg α} (h:Asks Idle p) (phase) :
  wp (phases runID) p (fun _ u=>u=phase) phase := by
 refine h.wp (fun u : Phase => u=phase) ?_ rfl
 rintro u o ho rfl
 exact phase_idle ho u

lemma wp_event (e phase) : wp (phases runID) (emitRun e) (fun _ u=>u=phase) phase := by
 have hidle:Asks Idle (emitRun e):=⟨trivial,fun _ _ _=>trivial⟩
 exact wp_idle hidle phase

lemma idle_of_regionOp {position} (h:RegionOp position o) : Idle o := by
 cases o with
 | repo o | transaction body => exact h.elim
 | _ => trivial

lemma InPhase.emit {id k k' pl pl' e} (h:InPhase runID id k pl phase)
  (he:Emits id k pl e k' pl') : InPhase runID id k' pl' phase := by
 cases he with
 | iterationFinished hk =>
  rcases hk with rfl | rfl
  · exact h
  · exact h
 | @refused _ k _ hk =>
  cases k with
  | idle => exact h.elim
  | resting => exact h
  | failing => exact h
  | _ => exact hk.elim
 | started => exact h.elim
 | suspended | unsaved | succeeded => trivial
 | _ => exact h

lemma InPhase.write {w id k kf k' pl pl'} (h:InPhase runID id k pl phase)
  (ho:Writes w id k pl o kf k' pl') :
  (phases runID).demand phase o ∧ ∀ r u,(phases runID).step phase o r u →
   Settles (InPhase runID) id pl kf k' pl' o r u := by
 cases o with
 | transaction body =>
  have hb:=boundary_of_writes ho
  obtain rfl : phase = .executing := by
   cases ho with
   | _ => exact h
  refine ⟨hb,?_⟩
  rintro r u rfl
  cases ho with
  | _ =>
   cases r with
   | error e => rfl
   | ok _ => rfl
 | repo o =>
  cases ho with
  | start => exact h.elim
  | _ =>
   obtain rfl : phase = .executing := h
   refine ⟨trivial,?_⟩
   rintro r u rfl
   cases r with
   | error e => trivial
   | ok _ => trivial
 | _ => cases ho

lemma wp_inspects (h:Asks Inspects p) :
  wp (phases runID) p (fun _ u=>u = .executing) .executing := by
 refine h.wp (fun u : Phase => u = .executing) ?_ rfl
 rintro u o ho rfl
 cases o with
 | transaction body => exact ho.elim
 | repo o =>
  cases o with
  | getWorkflowRun id | listWorkflowSnapshots id page => exact ⟨trivial,fun r v hv=>hv⟩
  | _ => exact ho.elim
 | _ => exact ⟨trivial,fun r v hv=>hv⟩

lemma conduct_phases (w:LinearWorkflow) : CallConduct (phases runID) w (InPhase runID) where
 glance h ho := by
  refine wp_mono (wp_idle ?_ _) fun _ _ hu=>hu ▸ h
  cases ho with
  | _ => exact ⟨trivial,fun _ _ _=>trivial⟩
 region h hp := wp_mono (wp_idle (hp.asks.mono fun _=>idle_of_regionOp) _) fun _ _ hu=>hu ▸ h
 emit h he := wp_mono (wp_event _ _) fun _ _ hu=>hu ▸ h.emit he
 write h _ ho := h.write ho
 skip h _ ho := by
  cases ho with
  | terminal => trivial
  | success => trivial
  | _ => exact h
 pop h _ _ := h
 peek h := h.elim
 find h := by
  obtain ⟨rfl,rfl⟩:=h
  refine ⟨⟨trivial,fun _ h=>by cases h; rfl⟩,?_⟩
  rintro (e | record) u rfl
  · exact ⟨rfl,rfl⟩
  · refine ⟨rfl,?_⟩
    simp [Phase.next,passes]
 load h hstatus := by
  obtain ⟨rfl,rfl⟩:=h
  rw [if_pos hstatus]
  refine wp_mono (wp_inspects (asks_loadSuspendSnapshot w _)) ?_
  intro r u hu
  cases r with
  | error e => exact ⟨rfl,hu.trans (if_pos hstatus).symm⟩
  | ok env => exact hu
 resumed h _ _ := wp_mono (wp_event _ _) fun _ _ hu=>hu ▸ h

lemma wp_continuation {p} (h:Continuation runID p) :
  wp (phases runID) p (fun _ _=>True) .reading := by
 cases h with
 | resume w input h => exact wp_mono (wp_resume (conduct_phases w) {} ⟨h,rfl⟩) fun _ _ _=>trivial
 | wake w token =>
  exact wp_mono (wp_resumeWake (conduct_phases w) {} ⟨rfl,rfl⟩) fun _ _ _=>trivial

end

section

variable {faulty:Prop} {s u:RuntimeState} {runID:RunID}

def Settled (runID : RunID) (m : MemoryState) : Prop :=
 ∃ record, m.runs runID = some record ∧ record.status.terminal = true

lemma quiet_runs (h:runtimeStep faulty s o r u) (hq:Quiet o) : u.store.runs=s.store.runs := by
 cases o with
 | repo o =>
  rcases h with ⟨hstore,_⟩ | ⟨_,_,rfl⟩
  · have hu:u.store=(applyRepo o s.store).2:=congrArg Prod.snd hstore
    rw [hu]
    cases o with
    | saveWorkflowRun record => exact hq.elim
    | saveWorkflowSnapshot v =>
     dsimp only [applyRepo]
     cases hv : saveWorkflowSnapshot s.store v with
     | error e => rfl
     | ok m =>
      rw [(saveWorkflowSnapshot_ok hv).2]
      rfl
    | saveSchedule v =>
     dsimp only [applyRepo]
     cases hv : saveSchedule s.store v with
     | error e => rfl
     | ok m =>
      rw [saveSchedule_eq_ok hv]
      rfl
    | _ => rfl
  · rfl
 | transaction body => exact hq.elim
 | claim x id => exact congrArg MemoryState.runs h.2.1
 | release x id => exact congrArg MemoryState.runs h.1
 | _ => exact congrArg (fun v : RuntimeState => v.store.runs) h

lemma boundary_runs {body} (h:Boundary body) (m) :
  (transaction body m).2.runs=m.runs ∨
   ∃ record : WorkflowRunRecord,(record.status = .running ∨ record.status = .suspended) ∧
    (transaction body m).2.runs=fun id=>if id=record.id then some record else m.runs id := by
 have hsaves:∃ snapshot record,Saves snapshot record body ∧
   (record.status = .running ∨ record.status = .suspended) := by
  cases h with
  | step snapshot record hstatus htoken => exact ⟨snapshot,record,.boundary,hstatus⟩
  | sleep snapshot record wakeup hstatus position hid htoken =>
   exact ⟨snapshot,record,.sleep wakeup,hstatus⟩
 obtain ⟨snapshot,record,hsaves,hstatus⟩:=hsaves
 rcases hsaves.transaction m with ⟨e,he⟩ | ⟨u,hu,hcommitted⟩
 · exact .inl (by rw [he])
 · exact .inr ⟨record,hstatus,by rw [hu,hcommitted.runs]; rfl⟩

lemma settled_congr {m m'} (h:m'.runs=m.runs) : Settled runID m' ↔ Settled runID m := by
 unfold Settled
 rw [h]

lemma boundary_unsettled {body r} (hb:Boundary body)
  (h:runtimeStep faulty s (.transaction body) r u) (hs:¬ Settled runID s.store) :
  ¬ Settled runID u.store := by
 rcases h with ⟨hstore,_⟩ | ⟨_,_,rfl⟩
 · have hu:u.store=(transaction body s.store).2:=congrArg Prod.snd hstore
   rw [hu]
   rcases boundary_runs hb s.store with hruns | ⟨record,hstatus,hruns⟩
   · rwa [settled_congr hruns]
   · rintro ⟨found,hfound,hterminal⟩
     rw [hruns] at hfound
     dsimp only at hfound
     by_cases hid : runID=record.id
     · rw [if_pos hid] at hfound
       cases hfound
       rcases hstatus with hstatus | hstatus
       · simp [hstatus,RunStatus.terminal] at hterminal
       · simp [hstatus,RunStatus.terminal] at hterminal
     · rw [if_neg hid] at hfound
       exact hs ⟨found,hfound,hterminal⟩
 · exact hs

lemma unsettled_of_passes (hpasses:passes o r=true)
  (hread:∀ id,o = .repo (.getWorkflowRun id) → id=runID) (h:runtimeStep faulty s o r u) :
  ¬ Settled runID s.store := by
 cases o with
 | repo o =>
  cases o with
  | getWorkflowRun id =>
   obtain rfl := hread id rfl
   cases r with
   | error e => cases hpasses
   | ok run =>
    have hstatus:run.status = .suspended:=of_decide_eq_true hpasses
    rcases h with ⟨hstore,_⟩ | ⟨_,⟨e,he,_⟩,_⟩
    · have hfound:getWorkflowRun s.store id = .ok run:=(congrArg Prod.fst hstore).symm
      rintro ⟨record,hrecord,hterminal⟩
      unfold getWorkflowRun at hfound
      rw [hrecord] at hfound
      cases hfound
      simp [hstatus,RunStatus.terminal] at hterminal
    · cases he
  | _ => cases hpasses
 | _ => cases hpasses

end

def phaseOf (i : Nat) (es : List (PoolEvent RuntimeSig)) : Phase :=
 (threadEvents i es).foldl (fun phase e => phase.next e.1 e.2) .reading

lemma phaseOf_append_self (i:Nat) (es o r) :
  phaseOf i (es ++ [(i,⟨o,r⟩)])=(phaseOf i es).next o r := by
 unfold phaseOf
 rw [threadEvents_append,threadEvents_cons_self,foldl_append]
 rfl

lemma phaseOf_append_ne {j} (h:i ≠ j) (es e) : phaseOf j (es ++ [(i,e)])=phaseOf j es := by
 unfold phaseOf
 rw [threadEvents_append,threadEvents_cons_ne h,threadEvents_nil,append_nil]

def Passed (es : List (PoolEvent RuntimeSig)) (i : Nat) : Prop :=
 ∃ e ∈ es, e.1 = i ∧ passes e.2.1 e.2.2 = true

lemma next_eq_executing (h:phase.next o r = .executing) :
  (phase = .reading ∧ passes o r=true) ∨
   (phase = .executing ∧ ∀ record,o ≠ .repo (.saveWorkflowRun record)) := by
 cases phase with
 | reading =>
  refine .inl ⟨rfl,?_⟩
  by_contra hnot
  rw [Phase.next,if_neg hnot] at h
  cases h
 | executing =>
  refine .inr ⟨rfl,?_⟩
  rintro record rfl
  cases h
 | closed => cases h

lemma passed_of_executing (h:phaseOf i es = .executing) : Passed es i := by
 induction es using List.reverseRecOn with
 | nil => cases h
 | append_singleton es e ih =>
  obtain ⟨j,o,r⟩:=e
  by_cases hj : j=i
  · subst hj
    rw [phaseOf_append_self] at h
    rcases next_eq_executing h with ⟨_,hpasses⟩ | ⟨hphase,_⟩
    · exact ⟨_,mem_append_right _ (mem_singleton_self _),rfl,hpasses⟩
    · obtain ⟨e,he,hpassed⟩:=ih hphase
      exact ⟨e,mem_append_left _ he,hpassed⟩
  · rw [phaseOf_append_ne hj] at h
    obtain ⟨e,he,hpassed⟩:=ih h
    exact ⟨e,mem_append_left _ he,hpassed⟩

/-- A call goes on only when every other call that went on has returned. -/
def Exclusive (es : List (PoolEvent RuntimeSig)) (ps : List (RuntimeProg RunOutcome))
  (e : PoolEvent RuntimeSig) : Prop :=
 passes e.2.1 e.2.2 = true → ∀ j, j ≠ e.1 → Passed es j → ∃ out, ps[j]? = some (.ret out)

def Active (es : List (PoolEvent RuntimeSig)) (ps : List (RuntimeProg RunOutcome)) (i : Nat) :
  Prop :=
 phaseOf i es = .executing ∧ ∃ (o : RuntimeOp) (k : o.Reply → RuntimeProg RunOutcome),
  ps[i]? = some (.ask o k)

structure Orderly (runID : RunID) (es : List (PoolEvent RuntimeSig)) (m : MemoryState)
  (ps : List (RuntimeProg RunOutcome)) : Prop where
 one : ∀ i j, Active es ps i → Active es ps j → i = j
 unsettled : ∀ i, Active es ps i → ¬ Settled runID m

section

variable {faulty:Prop} {runID:RunID} {es:List (PoolEvent RuntimeSig)} {s u:RuntimeState}
 {ps:List (RuntimeProg RunOutcome)} {i:Nat} {o:RuntimeOp}
 {k:o.Reply → RuntimeProg RunOutcome} {r:o.Reply}

lemma active_other {j} (hj:j ≠ i) (h:Active (es ++ [(i,⟨o,r⟩)]) (ps.set i (k r)) j) :
  Active es ps j := by
 obtain ⟨hphase,o',k',hask⟩:=h
 rw [phaseOf_append_ne hj.symm] at hphase
 rw [List.getElem?_set_ne hj.symm] at hask
 exact ⟨hphase,o',k',hask⟩

lemma quiet_of_demand (hd:Phase.demand runID phase o) (h:phase ≠ .executing) : Quiet o := by
 cases phase with
 | reading => exact hd.1
 | executing => exact absurd rfl h
 | closed => exact hd

lemma orderly_active (h:Orderly runID es s.store ps) (hi:ps[i]? = some (.ask o k))
  (hphase:phaseOf i es = .executing) (hd:Phase.demand runID .executing o)
  (hstep:runtimeStep faulty s o r u) :
  Orderly runID (es ++ [(i,⟨o,r⟩)]) u.store (ps.set i (k r)) := by
 have hactive:Active es ps i:=⟨hphase,o,k,hi⟩
 have honly:∀ j,Active (es ++ [(i,⟨o,r⟩)]) (ps.set i (k r)) j → j=i:=by
  intro j hj
  by_contra hne
  exact hne (h.one j i (active_other hne hj) hactive)
 refine ⟨fun j j' hj hj'=>(honly j hj).trans (honly j' hj').symm,?_⟩
 intro j hj
 obtain rfl := honly j hj
 have hs:¬ Settled runID s.store:=h.unsettled j hactive
 have hnext:=hj.1
 rw [phaseOf_append_self,hphase] at hnext
 cases o with
 | transaction body => exact boundary_unsettled hd hstep hs
 | repo o =>
  cases o with
  | saveWorkflowRun record => cases hnext
  | _ => rwa [settled_congr (quiet_runs hstep trivial)]
 | _ => rwa [settled_congr (quiet_runs hstep trivial)]

lemma orderly_quiet (h:Orderly runID es s.store ps)
  (hphase:phaseOf i es ≠ .executing) (hd:Phase.demand runID (phaseOf i es) o)
  (hx:Exclusive es ps (i,⟨o,r⟩)) (hstep:runtimeStep faulty s o r u) :
  Orderly runID (es ++ [(i,⟨o,r⟩)]) u.store (ps.set i (k r)) := by
 have hruns:=quiet_runs hstep (quiet_of_demand hd hphase)
 by_cases hi : Active (es ++ [(i,⟨o,r⟩)]) (ps.set i (k r)) i
 · have hnext:=hi.1
   rw [phaseOf_append_self] at hnext
   rcases next_eq_executing hnext with ⟨hreading,hpasses⟩ | ⟨hexecuting,_⟩
   · have honly:∀ j,Active (es ++ [(i,⟨o,r⟩)]) (ps.set i (k r)) j → j=i:=by
      intro j hj
      by_contra hne
      obtain ⟨hother,o',k',hask⟩:=active_other hne hj
      obtain ⟨out,hout⟩:=hx hpasses j hne (passed_of_executing hother)
      cases hask.symm.trans hout
     refine ⟨fun j j' hj hj'=>(honly j hj).trans (honly j' hj').symm,?_⟩
     intro j _
     rw [settled_congr hruns]
     rw [hreading] at hd
     exact unsettled_of_passes hpasses hd.2 hstep
   · exact absurd hexecuting hphase
 · have hother:∀ j,Active (es ++ [(i,⟨o,r⟩)]) (ps.set i (k r)) j → Active es ps j:=by
    intro j hj
    refine active_other ?_ hj
    rintro rfl
    exact hi hj
   refine ⟨fun j j' hj hj'=>h.one j j' (hother j hj) (hother j' hj'),?_⟩
   intro j hj
   rw [settled_congr hruns]
   exact h.unsettled j (hother j hj)

end

section

variable {faulty:Prop} {runID:RunID} {s:RuntimeState} {ps:List (RuntimeProg RunOutcome)}

lemma demand_of_run (hps:∀ p ∈ ps,Continuation runID p) {k}
  (h:PoolRun (runtimeWorld faulty) s ps es u qs) (hi:qs[i]? = some (.ask o k)) :
  Phase.demand runID (phaseOf i es) o :=
 (h.residual (fun p hp=>wp_continuation (hps p hp)) hi).1

lemma orderly_of_run (hps:∀ p ∈ ps,Continuation runID p)
  (h:PoolRun (runtimeWorld faulty) s ps es u qs)
  (hx:PoolRun.Meets (runtimeWorld faulty) s ps es Exclusive) : Orderly runID es u.store qs := by
 refine h.invariant_of_meets (fun es u qs=>Orderly runID es u.store qs) hx ?_ ?_
 · have hnone:∀ i,¬ Active [] ps i:=fun i hi=>Phase.noConfusion hi.1
   exact ⟨fun i _ hi=>absurd hi (hnone i),fun i hi=>absurd hi (hnone i)⟩
 · intro es v qs i o k r x hrun horderly hexclusive hi hstep
   have hd:=demand_of_run hps hrun hi
   by_cases hphase : phaseOf i es = .executing
   · rw [hphase] at hd
     exact orderly_active horderly hi hphase hd hstep
   · exact orderly_quiet horderly hphase hd hexclusive hstep

/-- A settled run stays as it is for as long as no call goes on while another one has not
returned. -/
theorem settled_record_kept (hps : ∀ p ∈ ps, Continuation runID p)
  {es fs : List (PoolEvent RuntimeSig)} {u v : RuntimeState}
  {qs rs : List (RuntimeProg RunOutcome)} (h : PoolRun (runtimeWorld faulty) s ps es u qs)
  (h' : PoolRun (runtimeWorld faulty) u qs fs v rs)
  (hx : PoolRun.Meets (runtimeWorld faulty) s ps (es ++ fs) Exclusive)
  {record : WorkflowRunRecord} (hrecord : u.store.runs runID = some record)
  (hterminal : record.status.terminal = true) : v.store.runs runID = some record := by
 induction h' generalizing es with
 | refl u qs => exact hrecord
 | @next u x v qs rs i o k r fs hi hstep _ ih =>
  have hbefore:PoolRun.Meets (runtimeWorld faulty) s ps es Exclusive := by
   intro tr e rest u' qs' heq hrun
   exact hx tr e (rest ++ (i,⟨o,r⟩) :: fs) u' qs' (by rw [heq]; simp) hrun
  have horderly:=orderly_of_run hps h hbefore
  have hphase:phaseOf i es ≠ .executing := by
   intro hphase
   exact horderly.unsettled i ⟨hphase,o,k,hi⟩ ⟨record,hrecord,hterminal⟩
  have hquiet:=quiet_of_demand (demand_of_run hps h hi) hphase
  have hkept:x.store.runs runID = some record := by
   rw [quiet_runs hstep hquiet]
   exact hrecord
  refine ih (h.trans (.next hi hstep (.refl x _))) ?_ hkept
  rwa [append_assoc]

end

def answerReview : RuntimeProg RunOutcome :=
 resume reviewWorkflow { runID := "run", input := .json (.str "yes") }

def reviewRace (is : List Nat) (s : RuntimeState) (ps : List (RuntimeProg RunOutcome)) :
  List (PoolEvent RuntimeSig) × RuntimeState × List (RuntimeProg RunOutcome) :=
 schedule (fun _ => answerWith (UserCode.reply reviewUser)) is s ps

lemma reviewRace_run {is s ps} (h:reviewRace is s ps=(es,u,qs)) :
  PoolRun (runtimeWorld False) s ps es u qs :=
 .of_schedule (fun _ _ _ _ _ h=>answerWith_step h) h

lemma exclusive_of_count {W:Monitor RuntimeSig RuntimeState} {s ps}
  (h:es.countP (fun e=>passes e.2.1 e.2.2) ≤ 1) : PoolRun.Meets W s ps es Exclusive := by
 intro tr e rest u qs heq _ hpasses j _ hpassed
 obtain ⟨e',he',_,hpasses'⟩:=hpassed
 have htr:0 < tr.countP (fun e=>passes e.2.1 e.2.2):=countP_pos_iff.mpr ⟨e',he',hpasses'⟩
 have hrest:0 < (e :: rest).countP (fun e=>passes e.2.1 e.2.2):=
  countP_pos_iff.mpr ⟨e,mem_cons_self,hpasses⟩
 rw [heq,countP_append] at h
 omega

/-- The second of two calls that follow one another leaves the settled run alone. -/
theorem review_settled_kept : ∃ first s es u qs fs v rs record,
  (run reviewWorkflow { input := .json .null, runID := "run" }).answer
   (answerWith (UserCode.reply reviewUser)) .empty = some (first, s) ∧
  first.result.status = .suspended ∧
  PoolRun (runtimeWorld False) s [answerReview, answerReview] es u qs ∧
  u.store.runs "run" = some record ∧ record.status = .succeeded ∧
  PoolRun (runtimeWorld False) u qs fs v rs ∧ fs.length = 2 ∧
  v.store.runs "run" = some record := by
 have hcalls:∃ first s es u qs fs v rs record,
   (run reviewWorkflow { input := .json .null, runID := "run" }).answer
    (answerWith (UserCode.reply reviewUser)) .empty = some (first,s) ∧
   first.result.status = .suspended ∧
   reviewRace (List.replicate 20 0) s [answerReview,answerReview] = (es,u,qs) ∧
   u.store.runs "run" = some record ∧ record.status = .succeeded ∧
   reviewRace (List.replicate 20 1) u qs = (fs,v,rs) ∧ fs.length = 2 ∧
   (es ++ fs).countP (fun e=>passes e.2.1 e.2.2) = 1 :=
  ⟨_,_,_,_,_,_,_,_,_,rfl,rfl,rfl,rfl,rfl,rfl,rfl,rfl⟩
 obtain ⟨first,s,es,u,qs,fs,v,rs,record,hfirst,hstatus,hes,hrecord,hsucceeded,hfs,
  hlength,hcount⟩ := hcalls
 have hps:∀ p ∈ [answerReview,answerReview], Continuation "run" p := by
  intro p hp
  simp only [mem_cons,not_mem_nil,or_false,or_self] at hp
  subst hp
  exact .resume _ _ rfl
 have hterminal:record.status.terminal = true := by
  rw [hsucceeded]
  rfl
 exact ⟨first,s,es,u,qs,fs,v,rs,record,hfirst,hstatus,reviewRace_run hes,hrecord,
  hsucceeded,reviewRace_run hfs,hlength,
  settled_record_kept hps (reviewRace_run hes) (reviewRace_run hfs)
   (exclusive_of_count (le_of_eq hcount)) hrecord hterminal⟩

/-- Both calls read the run as suspended; the second one completes it, and then the first one fails
at its step boundary and records that. -/
theorem succeeded_review_overwritten : ∃ first s es u qs fs v rs,
  (run reviewWorkflow { input := .json .null, runID := "run" }).answer
   (answerWith (UserCode.reply reviewUser)) .empty = some (first, s) ∧
  first.result.status = .suspended ∧
  PoolRun (runtimeWorld False) s [answerReview, answerReview] es u qs ∧
  (u.store.runs "run").map WorkflowRunRecord.status = some .succeeded ∧
  PoolRun (runtimeWorld False) u qs fs v rs ∧
  (v.store.runs "run").map WorkflowRunRecord.status = some .failed := by
 exact ⟨_,_,_,_,_,_,_,_,rfl,rfl,
  reviewRace_run (show reviewRace ([0,0] ++ List.replicate 20 1) _ _ = (_,_,_) from rfl),rfl,
  reviewRace_run (show reviewRace (List.replicate 20 0) _ _ = (_,_,_) from rfl),rfl⟩

/-- A call that goes on with a run makes no transaction and saves no record before it has read that
the run is suspended, and none after it has saved how the run ended. -/
theorem continuations_heed_phases (w : LinearWorkflow) :
  (∀ input, Heeds (Phase.demand input.runID) Phase.next .reading (resume w input)) ∧
  ∀ runID token, Heeds (Phase.demand runID) Phase.next .reading (resumeWake w runID token) :=
 ⟨fun input=>heeds_of_wp (wp_continuation (.resume w input rfl)),
  fun _ token=>heeds_of_wp (wp_continuation (.wake w token))⟩

end Lebro.WorkflowRaces
