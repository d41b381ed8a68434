import Lebro.AgentModels

set_option autoImplicit false

namespace Lebro.RunJournal

open EffectProgram RuntimeTypes RuntimeRecords StoreRecords AgentEffects AgentLoop AgentModels List

/-- The events of a call in the order of their numbers, the positions that the journal has captured,
how many of these are committed, and the stored positions. -/
structure Journal where
 emitted : List RunEvent
 captured : List Nat
 persistedEvents : Nat
 stored : List Nat
 kept : ∀ i, i ∈ captured ↔ ∃ e, emitted[i]? = some e ∧ e.type ≠ .delta
 bounded : persistedEvents ≤ captured.length
 committed : ∀ i ∈ captured.take persistedEvents, i ∈ stored
 owned : ∀ i ∈ stored, i ∈ captured

variable {j:Journal}

namespace Journal

def empty : Journal where
 emitted := []
 captured := []
 persistedEvents := 0
 stored := []
 kept := by simp
 bounded := Nat.le_refl 0
 committed := by simp
 owned := by simp

def capture (j : Journal) (event : RunEvent) : List Nat :=
 if event.type = .delta then j.captured else j.captured ++ [j.emitted.length]

lemma captured_lt (j:Journal) {i} (h:i ∈ j.captured) : i < j.emitted.length := by
 obtain ⟨e,he,-⟩:=(j.kept i).mp h
 exact (List.getElem?_eq_some_iff.mp he).1

lemma mem_capture (j:Journal) (event i) :
  i ∈ j.capture event ↔ i ∈ j.captured ∨ event.type ≠ .delta ∧ i=j.emitted.length := by
 unfold capture
 split <;> rename_i h <;> simp [h]

lemma take_capture (j:Journal) (event) :
  (j.capture event).take j.persistedEvents=j.captured.take j.persistedEvents := by
 unfold capture
 split
 · rfl
 · exact take_append_of_le_length j.bounded

def onRunEvent (j : Journal) (event : RunEvent) : Journal where
 emitted := j.emitted ++ [event]
 captured := j.capture event
 persistedEvents := j.persistedEvents
 stored := j.stored
 kept := by
  intro i
  rw [mem_capture]
  by_cases hi : i < j.emitted.length
  · rw [List.getElem?_append_left hi, j.kept i]
    exact or_iff_left fun h => absurd h.2 (Nat.ne_of_lt hi)
  · have hold : i ∉ j.captured := fun h => hi (j.captured_lt h)
    rw [or_iff_right hold, List.getElem?_append_right (Nat.le_of_not_lt hi)]
    constructor
    · rintro ⟨htype, rfl⟩
      exact ⟨event, by simp, htype⟩
    · rintro ⟨e, he, htype⟩
      obtain ⟨hlt, rfl⟩ := List.getElem?_eq_some_iff.mp he
      simp only [length_singleton] at hlt
      exact ⟨by simpa using htype, by omega⟩
 bounded := by
  refine Nat.le_trans j.bounded ?_
  unfold capture
  split <;> simp
 committed := by
  rw [take_capture]
  exact j.committed
 owned := fun i hi => (j.mem_capture event i).mpr (.inl (j.owned i hi))

/-- `flushDiagnostics` writes what no transaction has committed. -/
def flush (j : Journal) : Journal :=
 { j with
   stored := j.stored ++ j.captured.drop j.persistedEvents
   committed := fun i hi => mem_append_left _ (j.committed i hi)
   owned := by
    intro i hi
    rcases mem_append.mp hi with hi | hi
    · exact j.owned i hi
    · exact mem_of_mem_drop hi }

/-- The transaction of the transcript writes a snapshot of the journal and marks it persisted. -/
def persist (j : Journal) : Journal :=
 { j with
   persistedEvents := j.captured.length
   stored := j.stored ++ j.captured
   bounded := Nat.le_refl _
   committed := fun i hi => mem_append_right _ (mem_of_mem_take hi)
   owned := by
    intro i hi
    rcases mem_append.mp hi with hi | hi
    · exact j.owned i hi
    · exact hi }

def Grows (j u : Journal) : Prop :=
 ∃ events : List RunEvent, (∀ e ∈ events, e.type ≠ .delta) ∧ u = events.foldl onRunEvent j

def Complete (j : Journal) : Prop := ∀ i < j.emitted.length, i ∈ j.stored

def Settled (j : Journal) : Prop := ∀ i ∈ j.captured, i ∈ j.stored

def Deltaless (j : Journal) : Prop := ∀ e ∈ j.emitted, e.type ≠ .delta

lemma settled_flush (j:Journal) : j.flush.Settled := by
 intro i hi
 have hi':i ∈ j.captured.take j.persistedEvents++j.captured.drop j.persistedEvents:=by
  rw [take_append_drop]
  exact hi
 rcases mem_append.mp hi' with hi | hi
 · exact mem_append_left _ (j.committed i hi)
 · exact mem_append_right _ hi

lemma Settled.complete_iff (h:j.Settled) : j.Complete ↔ j.Deltaless := by
 constructor
 · intro hall e he
   obtain ⟨i,hi⟩:=mem_iff_getElem?.mp he
   have hlt:=(List.getElem?_eq_some_iff.mp hi).1
   obtain ⟨e',he',htype⟩:=(j.kept i).mp (j.owned i (hall i hlt))
   rw [hi] at he'
   cases he'
   exact htype
 · intro hall i hi
   have hget:=List.getElem?_eq_getElem hi
   exact h i ((j.kept i).mpr ⟨_,hget,hall _ (getElem_mem hi)⟩)

lemma not_complete_onRunEvent (j:Journal) (event) : ¬ (j.onRunEvent event).Complete := by
 intro h
 have hlt:j.emitted.length < (j.onRunEvent event).emitted.length:=by simp [onRunEvent]
 exact Nat.lt_irrefl _ (j.captured_lt (j.owned _ (h _ hlt)))

end Journal

/-- What an operation of a run does to its journal when the writes of the store succeed. A model
call and a compaction emit events of their own, none of them a delta. -/
def journalStep (j : Journal) : (o : AgentOp) → o.Reply → Journal → Prop
 | .runtime (.step (.emit event)), _, u => u = j.onRunEvent event
 | .flushDiagnostics _, _, u => u = j.flush
 | .transcript _, .ok (), u => u = j.persist
 | .generate _ _, _, u | .stream _ _, _, u | .compact _ _ _ _, _, u => j.Grows u
 | _, _, u => u = j

def journaling : Monitor AgentSig Journal where
 demand _ _ := True
 step := journalStep

def Begun (es : List (Event AgentSig)) : Prop :=
 es.head? = some ⟨.runtime (.step .ctxErr), (none : Option Err)⟩

def NulExecutionID (input : RunInput) : Prop := input.executionID.toList.contains '\x00'

def SetupFails (a : Agent) (input : RunInput) (es : List (Event AgentSig)) : Prop :=
 ∃ fs gs out journaled, es = fs ++ gs ∧ Trace (setupRun a input) fs (.ret (.error out, journaled))

def Unwritten (r : Except AgentOutcome RunFrame) (j : Journal) : Prop :=
 ∀ out, r = .error out → ¬ j.Complete

variable {a:Agent}

lemma wp_any {α:Type} {p:AgentProg α} {j} : wp journaling p (fun _ _=>True) j :=
 wp_trivial (fun _ _=>trivial)

lemma wp_failSetup (runID messages metadata failure j) :
  wp journaling (failSetup runID messages metadata failure) Unwritten j := by
 refine ⟨trivial,?_⟩
 rintro - u rfl out -
 exact j.not_complete_onRunEvent _

lemma failSetup_fails {runID messages metadata failure} :
  Returns (failSetup runID messages metadata failure) (fun r=>∃ out,r = .error out) :=
 returns_then fun _=>⟨_,rfl⟩

lemma wp_cancelSetup {runID metadata e j} :
  wp journaling (cancelSetup runID metadata e) Unwritten j := by
 refine ⟨trivial,?_⟩
 rintro - u rfl out -
 exact j.not_complete_onRunEvent _

lemma wp_assembleRun (runID executionID input config compactor prior j) :
  wp journaling (assembleRun a runID executionID input config compactor prior) Unwritten j := by
 unfold assembleRun
 dsimp only
 split
 · exact wp_failSetup _ _ _ _ j
 split
 · exact wp_failSetup _ _ _ _ j
 split
 · exact wp_failSetup _ _ _ _ j
 · exact fun _ h=>by cases h

lemma wp_resolveRun (runID executionID input j) :
  wp journaling (resolveRun a runID executionID input) Unwritten j := by
 apply wp_seq wp_any
 intro config u _
 cases config with
 | error e => exact wp_failSetup _ _ _ _ u
 | ok config =>
  dsimp only
  split
  · exact wp_failSetup _ _ _ _ u
  apply wp_seq wp_any
  intro prior v _
  cases prior with
  | error e => exact wp_failSetup _ _ _ _ v
  | ok prior => exact wp_assembleRun _ _ _ _ _ _ v

lemma wp_startRun (runID input j) : wp journaling (startRun a runID input) Unwritten j := by
 apply wp_seq wp_any
 intro _ j₁ _
 apply wp_seq wp_any
 intro denial j₂ _
 cases denial with
 | some e => exact wp_failSetup _ _ _ _ j₂
 | none =>
  dsimp only
  split
  · exact wp_resolveRun _ _ _ j₂
  apply wp_seq wp_any
  intro processed j₃ _
  cases processed with
  | ok processed => exact wp_resolveRun _ _ _ j₃
  | error e =>
   dsimp only
   split
   · exact wp_cancelSetup
   · exact wp_failSetup _ _ _ _ j₃

lemma wp_flushDiagnostics (hstore:a.store.isSome) {runID j} :
  wp journaling (flushDiagnostics a runID) (fun _ u=>u.Settled) j := by
 unfold flushDiagnostics
 rw [if_pos hstore]
 refine ⟨trivial,?_⟩
 rintro - u rfl
 exact j.settled_flush

variable {input:RunInput}

lemma setup_journal (hstore:a.store.isSome) {fs r} (h:Trace (setupRun a input) fs (.ret r))
  (hj:journaling.Follows .empty fs j) :
  (¬ Begun fs ∧ (∃ out,r=(.error out,false)) ∧ j.Settled) ∨
   Begun fs ∧ Unwritten r.1 j ∧
    (NulExecutionID input ∧ (∃ out,r=(.error out,false)) ∨
     ¬ NulExecutionID input ∧ r.2=true) := by
 unfold setupRun at h
 split at h
 · cases h
   cases hj
   exact .inl ⟨by rintro ⟨⟩,⟨_,rfl⟩,fun i hi=>by cases hi⟩
 · cases h with
   | @next _ _ look _ _ tail =>
    cases hj with
    | cons hstep hrest =>
     cases look with
     | some e =>
      refine .inl ⟨by rintro ⟨⟩,?_⟩
      refine tail.wp hrest (Q := fun r u=>(∃ out,r=(.error out,false)) ∧ u.Settled) ?_
      refine wp_seq (R := fun look _=>look=some e) rfl ?_
      rintro _ s rfl
      apply wp_seq wp_any
      intro runID u _
      apply wp_seq wp_any
      intro _ v _
      apply wp_seq (wp_flushDiagnostics hstore)
      intro _ w hw
      exact ⟨⟨_,rfl⟩,hw⟩
     | none =>
      refine .inr ⟨rfl,?_⟩
      refine tail.wp hrest (Q := fun r u=>Unwritten r.1 u ∧
       (NulExecutionID input ∧ (∃ out,r=(.error out,false)) ∨
        ¬ NulExecutionID input ∧ r.2=true)) ?_
      refine wp_seq (R := fun look _=>look=none) rfl ?_
      rintro _ s rfl
      apply wp_seq wp_any
      intro runID u _
      by_cases hnul : input.executionID.toList.contains '\x00'
      · rw [if_pos hnul]
        apply wp_seq ((failSetup_fails).wp_and (wp_failSetup _ _ _ _ u))
        rintro _ v ⟨⟨out,rfl⟩,hv⟩
        exact ⟨hv,.inl ⟨hnul,out,rfl⟩⟩
      · rw [if_neg hnul]
        apply wp_seq (wp_startRun runID input u)
        intro frame v hv
        exact ⟨hv,.inr ⟨hnul,rfl⟩⟩

lemma wp_finishJournal (hstore:a.store.isSome) (runID j) :
  wp journaling (finishJournal a runID true) (fun _ u=>u.Settled) j :=
 wp_seq (wp_flushDiagnostics hstore) fun _ _ _=>wp_flushDiagnostics hstore

lemma begun_append {fs gs} (h:Begun fs) : Begun (fs++gs) := by
 cases fs with
 | nil => cases h
 | cons e fs => exact h

variable {es:List (Event AgentSig)}

lemma run_journal (hstore:a.store.isSome) {out} (h:Trace (run a input) es (.ret out))
  (hj:journaling.Follows .empty es j) :
  j.Complete ↔ j.Deltaless ∧ ¬ (Begun es ∧ NulExecutionID input) := by
 obtain ⟨fs,gs,⟨r,journaled⟩,rfl,hsetup,hrest⟩:=h.of_bind
 obtain ⟨j₁,hj₁,hj₂⟩:=hj.split
 rcases setup_journal hstore hsetup hj₁ with
  ⟨hbegun,⟨out',hr⟩,hsettled⟩ | ⟨hbegun,hunwritten,⟨hnul,out',hr⟩ | ⟨hnul,hr⟩⟩
 · cases hr
   have hend:Trace (Prog.ret out') gs (.ret out):=hrest
   cases hend
   cases hj₂
   rw [append_nil]
   exact hsettled.complete_iff.trans (and_iff_left fun hnot=>hbegun hnot.1).symm
 · cases hr
   have hend:Trace (Prog.ret out') gs (.ret out):=hrest
   cases hend
   cases hj₂
   exact iff_of_false (hunwritten _ rfl) fun hall=>hall.2 ⟨begun_append hbegun,hnul⟩
 · obtain rfl : journaled=true := hr
   have hsettled:j.Settled:=by
    refine hrest.wp hj₂ (Q := fun _ u=>u.Settled) ?_
    cases r with
    | error out => exact wp_seq (wp_finishJournal hstore _ j₁) fun _ u hu=>hu
    | ok f =>
     apply wp_seq wp_any
     intro out u _
     exact wp_seq (wp_finishJournal hstore _ u) fun _ v hv=>hv
   exact hsettled.complete_iff.trans (and_iff_left fun hnot=>hnul hnot.2).symm

lemma stream_journal (hstore:a.store.isSome) {out} (h:Trace (runStream a input) es (.ret out))
  (hj:journaling.Follows .empty es j) :
  j.Complete ↔ j.Deltaless ∧ ¬ (Begun es ∧ SetupFails a (freshInput input) es) := by
 obtain ⟨fs,gs,⟨r,journaled⟩,rfl,hsetup,hrest⟩:=h.of_bind
 obtain ⟨j₁,hj₁,hj₂⟩:=hj.split
 cases r with
 | error failed =>
  have hend:Trace (Prog.ret ⟨{},failed.error⟩) gs (.ret out):=hrest
  cases hend
  cases hj₂
  have hfails:SetupFails a (freshInput input) (fs ++ []):=⟨fs,[],_,_,rfl,hsetup⟩
  rw [append_nil] at hfails ⊢
  rcases setup_journal hstore hsetup hj₁ with ⟨hbegun,-,hsettled⟩ | ⟨hbegun,hunwritten,-⟩
  · exact hsettled.complete_iff.trans (and_iff_left fun hnot=>hbegun hnot.1).symm
  · exact iff_of_false (hunwritten _ rfl) fun hall=>hall.2 ⟨hbegun,hfails⟩
 | ok f =>
  have hsettled:j.Settled:=by
   refine hrest.wp hj₂ (Q := fun _ u=>u.Settled) ?_
   apply wp_seq wp_any
   intro out u _
   exact wp_seq (wp_flushDiagnostics hstore) fun _ v hv=>hv
  refine hsettled.complete_iff.trans (and_iff_left ?_).symm
  rintro ⟨-,fs',gs',out',journaled',heq,hfailed⟩
  obtain ⟨hr,-⟩:=hsetup.unique_split hfailed heq
  cases hr

/-- The journal is complete exactly when no stream delta was emitted, the execution ID is admissible
and a stream's setup did not fail once it had begun. -/
theorem journal_complete_iff (a : Agent) (hstore : a.store.isSome) (input : RunInput)
  (es : List (Event AgentSig)) (out : AgentOutcome) (j : Journal)
  (hj : journaling.Follows .empty es j) :
  (Trace (run a input) es (.ret out) →
   (j.Complete ↔ j.Deltaless ∧ ¬ (Begun es ∧ NulExecutionID input))) ∧
  (Trace (runStream a input) es (.ret out) →
   (j.Complete ↔ j.Deltaless ∧ ¬ (Begun es ∧ SetupFails a (freshInput input) es))) :=
 ⟨fun h=>run_journal hstore h hj,fun h=>stream_journal hstore h hj⟩

def guardedAgent : Agent where
 id := "agent"
 model := some ⟨"guarded", true⟩
 maxSteps := 1
 store := some {}
 policy := true
 configured := rfl

def guardedInput : RunInput :=
 { runID := "run-1", messages := [{ role := .user, content := "question" }] }

def denied : Err := .new "denied"

def startedEvent : RunEvent := { type := .started, runID := "run-1", step := 0, stepID := "" }

def deniedEvent : RunEvent :=
 terminalEvent .failed .failed "run-1" 0 "" (some (⟨.unauthorized, 0, denied⟩ : AgentError).toErr)

def deniedSetup : List (Event AgentSig) :=
 [⟨.runtime (.step .ctxErr), (none : Option Err)⟩,
  ⟨.runtime (.step (.emit startedEvent)), ()⟩,
  ⟨.runtime (.authorize .agentRun "agent"), some denied⟩,
  ⟨.runtime (.step (.emit deniedEvent)), ()⟩]

def deniedFlushed : List (Event AgentSig) :=
 deniedSetup ++ [⟨.flushDiagnostics "run-1", ()⟩, ⟨.flushDiagnostics "run-1", ()⟩]

def deniedOutcome : AgentOutcome :=
 ⟨{ id := "run-1", status := .failed, metadata := guardedInput.metadata },
  some (.agent ⟨.unauthorized, 0, denied⟩)⟩

def deniedJournal : Journal := (Journal.empty.onRunEvent startedEvent).onRunEvent deniedEvent

lemma denied_follows : journaling.Follows .empty deniedSetup deniedJournal :=
 .cons rfl (.cons rfl (.cons rfl (.cons rfl (.nil _))))

theorem denied_run_journaled : guardedAgent.store.isSome ∧
   Trace (run guardedAgent guardedInput) deniedFlushed (.ret deniedOutcome) ∧
   journaling.Follows .empty deniedFlushed deniedJournal.flush.flush ∧
   deniedJournal.flush.flush.Complete := by
 have hrun:Trace (run guardedAgent guardedInput) deniedFlushed (.ret deniedOutcome) :=
  .next (.next (.next (.next (.next (.next (.refl _))))))
 have hj:journaling.Follows .empty deniedFlushed deniedJournal.flush.flush :=
  denied_follows.append (.cons rfl (.cons rfl (.nil _)))
 refine ⟨rfl,hrun,hj,?_⟩
 refine ((journal_complete_iff guardedAgent rfl guardedInput _ _ _ hj).1 hrun).mpr ⟨?_,?_⟩
 · intro e he
   have hmem:e ∈ [startedEvent,deniedEvent] := he
   rcases mem_pair.mp hmem with rfl | rfl <;> decide
 · rintro ⟨-,hnul⟩
   have hcontains:"".toList.contains '\x00' = true := hnul
   exact absurd hcontains (by decide)

/-- The stream that the policy denies reports two events, and none of them is stored. -/
theorem denied_stream_unjournaled : guardedAgent.store.isSome ∧
   Trace (runStream guardedAgent guardedInput) deniedSetup
    (.ret ⟨{}, deniedOutcome.error⟩) ∧
   journaling.Follows .empty deniedSetup deniedJournal ∧
   deniedJournal.emitted = [startedEvent, deniedEvent] ∧ deniedJournal.stored = [] ∧
   ¬ deniedJournal.Complete := by
 refine ⟨rfl,?_,denied_follows,rfl,rfl,Journal.not_complete_onRunEvent _ _⟩
 exact .next (.next (.next (.next (.refl _))))

end Lebro.RunJournal
