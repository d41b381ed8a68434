import Lebro.StoreRecords
import Mathlib.Data.List.Induction
import Mathlib.Data.List.ModifyLast

set_option autoImplicit false

namespace Lebro.AttemptCosts

open RuntimeTypes RuntimeRecords StoreRecords

structure OpenModelAttempt where
 provider : String
 model : String
 start : Time

/-- The model attempts of a run's journal; their usage and accounting are left out. -/
structure AttemptJournal where
 runID : RunID
 threadID : ThreadID
 executionID : String
 scope : RuntimeScope
 attempts : List ModelAttemptRecord := []
 opened : List OpenModelAttempt := []
 sealedAttempts : Nat := 0

section

variable (j:AttemptJournal)

def recordID (kind : String) (n : Nat) : String :=
 if j.executionID = "" then j.runID ++ "-" ++ kind ++ "-" ++ toString n
 else j.runID ++ "-" ++ j.executionID ++ "-" ++ kind ++ "-" ++ toString n

variable (provider model:String) (status:ModelAttemptStatus)

def newRecord (start : Option Time) (finish : Time) : ModelAttemptRecord where
 id := recordID j "attempt" (j.attempts.length + 1)
 runID := j.runID
 threadID := j.threadID
 scope := j.scope
 executionID := j.executionID
 index := j.attempts.length + 1
 provider := provider
 model := model
 status := some status
 startedAt := start
 finishedAt := some finish

def addRecord (start finish : Time) : AttemptJournal :=
 { j with attempts := j.attempts ++ [newRecord j provider model status (some start) finish] }

def beginModelAttempt (now : Time) : AttemptJournal :=
 { j with opened := j.opened ++ [⟨provider, model, now⟩] }

def completeModelAttempt (now : Time) : AttemptJournal :=
 match j.opened with
 | [] => addRecord j provider model status now now
 | slot :: rest => { addRecord j provider model status slot.start now with opened := rest }

def relabel (ofCall : Bool) (r : ModelAttemptRecord) : ModelAttemptRecord :=
 if status ≠ .success ∧ ofCall ∧ r.status = some .success then { r with status := some status }
 else r

def closeOpen (now : Time) : AttemptJournal :=
 j.opened.foldl (fun k slot => addRecord k slot.provider slot.model status slot.start now) j

def finishModelCall (now : Time) : AttemptJournal :=
 let closed := closeOpen j status now
 { closed with
   attempts := closed.attempts.modifyLast
    (relabel status (j.sealedAttempts < closed.attempts.length))
   opened := []
   sealedAttempts := closed.attempts.length }

def costResolutionAttempt (now : Time) : ModelAttemptRecord :=
 match j.attempts.getLast?, j.opened with
 | some attempt, _ => attempt
 | none, slot :: _ => newRecord j slot.provider slot.model .success (some slot.start) now
 | none, [] => newRecord j "" "" .success none now

/-- The record that `resolveAccounting` passes on, for a call that returned attempts of the given
providers. -/
def resolverAttempt (now : Time) (providers : List String) (domain : String) : ModelAttemptRecord :=
 let attempt := costResolutionAttempt j now
 let provider := if attempt.provider = "" then providers.getLast?.getD "" else attempt.provider
 { attempt with
   model := if attempt.model = "" then model else attempt.model
   provider := if provider = "" then domain else provider }

end

/-- An attempt at a provider. Registered providers have a name, and so do direct ones. -/
structure Attempt where
 provider : String
 status : ModelAttemptStatus
 started : Time
 finished : Time
 named : provider ≠ ""

/-- A router completes each attempt before it begins the next one; that of a direct call is only
begun. -/
structure Call where
 direct : Bool
 earlier : List Attempt
 last : Attempt
 model : String
 domain : String
 resolvedAt : Time
 status : ModelAttemptStatus
 endedAt : Time
 alone : direct = true → earlier = []

section

variable (j:AttemptJournal) (c:Call)

def attempted (model : String) (j : AttemptJournal) (a : Attempt) : AttemptJournal :=
 completeModelAttempt (beginModelAttempt j a.provider model a.started) a.provider model a.status
  a.finished

def walked : AttemptJournal := c.earlier.foldl (attempted c.model) j

def observe : AttemptJournal :=
 if c.direct then beginModelAttempt (walked j c) c.last.provider c.model c.last.started
 else attempted c.model (walked j c) c.last

def shown : ModelAttemptRecord :=
 resolverAttempt (observe j c) c.model c.resolvedAt
  (if c.direct then [] else (c.earlier ++ [c.last]).map Attempt.provider) c.domain

def finished : AttemptJournal := finishModelCall (observe j c) c.status c.endedAt

def identity (r : ModelAttemptRecord) : String × Int × String × String :=
 (r.id, r.index, r.provider, r.model)

def charged : String × Int × String × String :=
 let n := (walked j c).attempts.length + 1
 (recordID (walked j c) "attempt" n, n, c.last.provider, c.model)

variable {j}

lemma attempted_eq {model a} (h:j.opened=[]) :
  attempted model j a=addRecord j a.provider model a.status a.started a.finished := by
 cases j
 cases h
 rfl

lemma opened_walked (h:j.opened=[]) : (walked j c).opened=[] := by
 unfold walked
 induction c.earlier generalizing j with
 | nil => exact h
 | cons a earlier ih => exact ih (by rw [attempted_eq h]; exact h)

lemma finished_attempts (h:j.opened=[]) :
  ∃ r,(finished j c).attempts=(walked j c).attempts ++ [r] ∧ identity r=charged j c := by
 have hclosed:∃ r,(closeOpen (observe j c) c.status c.endedAt).attempts =
   (walked j c).attempts ++ [r] ∧ identity r=charged j c := by
  unfold observe closeOpen
  cases c.direct with
  | true =>
   rw [if_pos rfl,beginModelAttempt,opened_walked c h]
   exact ⟨_,rfl,rfl⟩
  | false =>
   rw [if_neg Bool.false_ne_true,attempted_eq (opened_walked c h)]
   dsimp only [addRecord]
   rw [opened_walked c h]
   exact ⟨_,rfl,rfl⟩
 obtain ⟨r,hr,hid⟩:=hclosed
 dsimp only [finished,finishModelCall]
 rw [hr,List.modifyLast_concat]
 refine ⟨_,rfl,Eq.trans ?_ hid⟩
 unfold relabel
 split <;> rfl

lemma attempts_walked (h:j.opened=[]) : j.attempts <+: (walked j c).attempts := by
 unfold walked
 induction c.earlier generalizing j with
 | nil => exact List.prefix_rfl
 | cons a earlier ih =>
  rw [List.foldl_cons,attempted_eq h]
  exact (List.prefix_append _ _).trans (ih (j := addRecord j _ _ _ _ _) h)

lemma shown_charged (h:j.opened=[]) (hc:c.direct=false ∨ j.attempts=[]) :
  identity (shown j c)=charged j c := by
 unfold shown resolverAttempt costResolutionAttempt observe
 cases hd : c.direct with
 | true =>
  have hwalked:walked j c=j := by rw [walked,c.alone hd]; rfl
  have hnone:j.attempts=[] := hc.resolve_left (by simp [hd])
  simp [hwalked,beginModelAttempt,h,hnone,newRecord,recordID,identity,charged,c.last.named]
 | false =>
  rw [if_neg Bool.false_ne_true,attempted_eq (opened_walked c h)]
  simp [addRecord,newRecord,identity,charged,c.last.named]

end

section

variable (runID:RunID) (threadID:ThreadID) (executionID:String) (scope:RuntimeScope)

def journal (calls : List Call) : AttemptJournal :=
 calls.foldl finished { runID, threadID, executionID, scope }

lemma journal_concat (calls:List Call) (c:Call) :
  journal runID threadID executionID scope (calls ++ [c]) =
   finished (journal runID threadID executionID scope calls) c := List.foldl_concat ..

lemma opened_journal (calls:List Call) :
  (journal runID threadID executionID scope calls).opened=[] := by
 cases calls using List.reverseRecOn with
 | nil => rfl
 | append_singleton calls c => rw [journal_concat]; rfl

/-- The records of calls stay as they are whatever calls follow. -/
lemma journal_attempts_kept (calls later:List Call) :
  (journal runID threadID executionID scope calls).attempts <+:
   (journal runID threadID executionID scope (calls++later)).attempts := by
 induction later using List.reverseRecOn with
 | nil => simp
 | append_singleton later c ih =>
  have hopened:=opened_journal runID threadID executionID scope (calls++later)
  obtain ⟨r,hr,-⟩:=finished_attempts c hopened
  rw [← List.append_assoc,journal_concat,hr]
  exact ih.trans ((attempts_walked c hopened).trans (List.prefix_append _ _))

/-- A resolver sees the attempt that its call is charged to, unless the call is direct and not the
first one of its run. -/
theorem resolver_shown_charged_iff (before : List Call) (c : Call) :
  (∀ r ∈ (journal runID threadID executionID scope (before ++ [c])).attempts.getLast?,
   identity (shown (journal runID threadID executionID scope before) c) = identity r) ↔
  c.direct = false ∨ before = [] := by
 obtain ⟨w,hw,hid⟩:=finished_attempts c (opened_journal runID threadID executionID scope before)
 rw [journal_concat,hw,List.getLast?_concat]
 suffices identity (shown (journal runID threadID executionID scope before) c) = charged _ c ↔
   c.direct = false ∨ before = [] by simpa [hid] using this
 cases before using List.reverseRecOn with
 | nil => exact iff_of_true (shown_charged c rfl (.inr rfl)) (.inr rfl)
 | append_singleton calls d =>
  cases hc : c.direct with
  | false => exact iff_of_true (shown_charged c (opened_journal ..) (.inl hc)) (.inl rfl)
  | true =>
   refine iff_of_false ?_ (by simp)
   -- the attempt of the call before has the number of recorded attempts, not the next one
   obtain ⟨r,hr,hlast⟩ :=
    finished_attempts d (opened_journal runID threadID executionID scope calls)
   have hnumber:=congrArg (fun i=>i.2.1) hlast
   rw [journal_concat]
   intro hsame
   have hindex:=congrArg (fun i=>i.2.1) hsame
   simp [shown,resolverAttempt,costResolutionAttempt,observe,identity,charged,walked,hc,
    c.alone hc,beginModelAttempt,hr] at hindex hnumber
   omega

end

def directCall : Call :=
 ⟨true, [], ⟨"direct", .success, 0, 0, by decide⟩, "m", "", 0, .success, 0, fun _ => rfl⟩

/-- The cost of the second one of two direct calls is looked up for the attempt of the first. -/
theorem second_direct_call_misattributed :
  (shown (journal "run" "" "" {} [directCall]) directCall).id = "run-attempt-1" ∧
   (journal "run" "" "" {} [directCall, directCall]).attempts.getLast?.map (·.id) =
    some "run-attempt-2" := by
 decide

end Lebro.AttemptCosts
