import Mathlib.Algebra.GroupWithZero.Nat
import Mathlib.Data.List.Nodup
import Mathlib.Data.List.Perm.Basic

set_option autoImplicit false

/-! The workers of an experiment share nothing but the slots of the results, so that the evaluation
of a case is one step. The context is never cancelled. -/
namespace Lebro.ExperimentRuns

open List

inductive ScoreReply where
 | scored (passed : Bool)
 | error (message : String)
 | panicked (value : String)

structure Score where
 scorer : String
 caseID : String
 passed : Bool

structure ScorerFailure where
 scorer : String
 caseID : String
 message : String
 panicked : Bool

structure CaseResult where
 caseID : String := ""
 index : ℕ := 0
 failure : String := ""
 scores : List Score := []
 scorerFailures : List ScorerFailure := []

def targetSucceeded (r : CaseResult) : Bool := r.failure = ""

def safeScore (name caseID : String) : ScoreReply → Score ⊕ ScorerFailure
 | .scored passed => .inl ⟨name, caseID, passed⟩
 | .error message => .inr ⟨name, caseID, message, false⟩
 | .panicked value => .inr ⟨name, caseID, "scorer panicked: " ++ value, true⟩

def scoreAll (caseID : String) (reply : String → ScoreReply) : List String → CaseResult → CaseResult
 | [], result => result
 | name :: names, result =>
  match safeScore name caseID (reply name) with
  | .inl score => scoreAll caseID reply names { result with scores := result.scores ++ [score] }
  | .inr failure => scoreAll caseID reply names
    { result with scorerFailures := result.scorerFailures ++ [failure] }

/-- `err` is the text of the error that the target returned. -/
def evaluateCase (scorers : List String) (index : ℕ) (caseID : String) (err : Option String)
  (reply : String → ScoreReply) : CaseResult :=
 match err with
 | some message => { caseID, index, failure := message }
 | none => scoreAll caseID reply scorers { caseID, index }

structure ScorerAggregate where
 scorer : String
 scored : ℕ
 passed : ℕ
 failures : ℕ

def targetFailures (results : List CaseResult) : ℕ := results.countP fun r => !targetSucceeded r

def aggregate (results : List CaseResult) (name : String) : ScorerAggregate where
 scorer := name
 scored := (results.map fun r => r.scores.countP (·.scorer = name)).sum
 passed := (results.map fun r => r.scores.countP fun s => s.scorer = name && s.passed).sum
 failures := (results.map fun r => r.scorerFailures.countP (·.scorer = name)).sum

/-- `New` refuses scorers that share a name and runs at least one worker. -/
structure Experiment where
 cases : List String
 scorers : List String
 distinct : scorers.Nodup
 concurrency : ℕ
 positive : 0 < concurrency

/-- What became of the call of the target; `err` is the text of the error that it returned. -/
inductive TargetReply where
 | returned (err : Option String)
 | panicked

def TargetReply.failed : TargetReply → Bool
 | .returned err => err.isSome
 | .panicked => false

structure Pool where
 dispatched : ℕ := 0
 busy : List ℕ := []
 results : List CaseResult
 replies : List (ℕ × TargetReply) := []
 crashed : Bool := false

variable (e : Experiment)

/-- A worker takes the next index, or ends the case that it has in hand with what the target and the
scorers reply. Nothing recovers a panic of the target, so that it ends the process. -/
inductive Step : Pool → Pool → Prop where
 | dispatch {s : Pool} (hlive : s.crashed = false) (hnext : s.dispatched < e.cases.length)
   (hfree : s.busy.length < min e.concurrency e.cases.length) :
   Step s { s with dispatched := s.dispatched + 1, busy := s.dispatched :: s.busy }
 | finish {s : Pool} {i : ℕ} {caseID : String} (err : Option String) (reply : String → ScoreReply)
   (hlive : s.crashed = false) (hbusy : i ∈ s.busy) (hcase : e.cases[i]? = some caseID) :
   Step s { s with
    busy := s.busy.erase i
    results := s.results.set i (evaluateCase e.scorers i caseID err reply)
    replies := (i, .returned err) :: s.replies }
 | crash {s : Pool} {i : ℕ} (hlive : s.crashed = false) (hbusy : i ∈ s.busy) :
   Step s { s with
    busy := s.busy.erase i
    replies := (i, .panicked) :: s.replies
    crashed := true }

inductive Reaches : ℕ → Pool → Prop where
 | start : Reaches 0 { results := replicate e.cases.length {} }
 | next {n : ℕ} {s u : Pool} (h : Reaches n s) (hstep : Step e s u) : Reaches (n + 1) u

def Filled (s : Pool) (i : ℕ) (err : Option String) : Prop :=
 ∃ caseID reply, e.cases[i]? = some caseID ∧
  s.results[i]? = some (evaluateCase e.scorers i caseID err reply)

/-- `Run` returns; the target was invoked once for each case, its result is in the slot of the case,
and the counts add up. -/
structure Accounted (s : Pool) : Prop where
 returns : s.crashed = false
 length : s.results.length = e.cases.length
 once : (s.replies.map Prod.fst).Perm (range e.cases.length)
 filled : ∀ i err, (i, .returned err) ∈ s.replies → Filled e s i err
 failures : targetFailures s.results = s.replies.countP (·.2.failed)
 scored : ∀ name ∈ e.scorers,
  (aggregate s.results name).scored + (aggregate s.results name).failures =
   e.cases.length - targetFailures s.results

structure Inv (n : ℕ) (s : Pool) : Prop where
 steps : n = s.dispatched + s.replies.length
 bound : s.dispatched ≤ e.cases.length
 once : (s.busy ++ s.replies.map Prod.fst).Perm (range s.dispatched)
 length : s.results.length = e.cases.length
 filled : ∀ i err, (i, .returned err) ∈ s.replies → Filled e s i err
 crashed : s.crashed = true ↔ ∃ i, (i, .panicked) ∈ s.replies

variable {e} {n : ℕ} {s u : Pool}

lemma Inv.moved {i} (h:Inv e n s) (hbusy:i ∈ s.busy) :
  (s.busy.erase i++i :: s.replies.map Prod.fst).Perm (range s.dispatched) :=
 (perm_middle.trans ((perm_cons_erase hbusy).symm.append_right _)).trans h.once

lemma Inv.next (h:Inv e n s) (hstep:Step e s u) : Inv e (n+1) u := by
 cases hstep with
 | dispatch hlive hnext hfree =>
  refine ⟨?_,hnext,?_,h.length,h.filled,h.crashed⟩
  · rw [h.steps]
    dsimp only
    omega
  · dsimp only
    rw [range_succ]
    exact (h.once.cons _).trans (perm_append_singleton _ _).symm
 | @finish i caseID err reply hlive hbusy hcase =>
  have hi:i < s.results.length:=by
   rw [h.length]
   exact (List.getElem?_eq_some_iff.mp hcase).1
  refine ⟨?_,h.bound,h.moved hbusy,?_,?_,?_⟩
  · rw [h.steps]
    dsimp only [length_cons]
    omega
  · rw [← h.length]
    exact length_set
  · intro j err' hj
    rcases mem_cons.mp hj with heq | hj
    · cases heq
      exact ⟨caseID,reply,hcase,getElem?_set_self hi⟩
    · obtain ⟨caseID',reply',hcase',hslot⟩:=h.filled j err' hj
      have hne:i ≠ j:=by
       rintro rfl
       have hnodup:=((h.moved hbusy).nodup_iff.mpr nodup_range).of_append_right
       exact (nodup_cons.mp hnodup).1 (mem_map.mpr ⟨_,hj,rfl⟩)
      exact ⟨caseID',reply',hcase',(getElem?_set_ne hne).trans hslot⟩
  · simpa using h.crashed
 | @crash i hlive hbusy =>
  refine ⟨?_,h.bound,h.moved hbusy,h.length,?_,by simp⟩
  · rw [h.steps]
    dsimp only [length_cons]
    omega
  · intro j err hj
    rcases mem_cons.mp hj with heq | hj
    · cases heq
    · exact h.filled j err hj

lemma Reaches.inv (h:Reaches e n s) : Inv e n s := by
 induction h with
 | start => exact ⟨rfl,Nat.zero_le _,.refl _,length_replicate,by simp,by simp⟩
 | next _ hstep ih => exact ih.next hstep

lemma Inv.done (h:Inv e n s) (hlive:s.crashed=false) (hstuck:∀ u,¬ Step e s u) :
  s.busy=[] ∧ s.dispatched=e.cases.length := by
 have hidle:s.busy=[]:=by
  cases hbusy : s.busy with
  | nil => rfl
  | cons i rest => exact absurd (.crash (i := i) hlive (by simp [hbusy])) (hstuck _)
 refine ⟨hidle,Nat.le_antisymm h.bound (Nat.not_lt.mp ?_)⟩
 intro hnext
 refine hstuck _ (.dispatch hlive hnext ?_)
 rw [hidle,length_nil]
 exact Nat.lt_min.mpr ⟨e.positive,Nat.zero_lt_of_lt hnext⟩

lemma Inv.once_done (h:Inv e n s) (hlive:s.crashed=false) (hstuck:∀ u,¬ Step e s u) :
  (s.replies.map Prod.fst).Perm (range e.cases.length) := by
 obtain ⟨hidle,hall⟩:=h.done hlive hstuck
 have honce:=h.once
 rwa [hidle,nil_append,hall] at honce

def entries (name : String) (r : CaseResult) : ℕ :=
 r.scores.countP (·.scorer = name) + r.scorerFailures.countP (·.scorer = name)

lemma scoreAll_spec (caseID reply names result name) :
  (scoreAll caseID reply names result).failure=result.failure ∧
  entries name (scoreAll caseID reply names result)=entries name result+names.count name := by
 induction names generalizing result with
 | nil => exact ⟨rfl,rfl⟩
 | cons other names ih =>
  unfold scoreAll
  cases reply other with
  | scored passed | error message | panicked value =>
   obtain ⟨hfailure,hentries⟩ := ih _
   refine ⟨hfailure,hentries.trans ?_⟩
   simp only [entries,countP_append,countP_singleton,count_cons,decide_eq_true_eq,beq_iff_eq]
   omega

lemma evaluateCase_failed {i caseID err reply} :
  (!targetSucceeded (evaluateCase e.scorers i caseID err reply))=err.any (· ≠ "") := by
 cases err with
 | some message => by_cases hempty : message="" <;> simp [evaluateCase,targetSucceeded,hempty]
 | none =>
  have hfailure:=(scoreAll_spec caseID reply e.scorers { caseID, index := i } "").1
  simp [evaluateCase,targetSucceeded,hfailure]

lemma evaluateCase_entries {i caseID err reply} (herr:err ≠ some "") {name}
  (hname:name ∈ e.scorers) : entries name (evaluateCase e.scorers i caseID err reply) =
   (targetSucceeded (evaluateCase e.scorers i caseID err reply)).toNat := by
 cases err with
 | some message =>
  have hmessage:message ≠ "":=fun h=>herr (congrArg some h)
  simp [evaluateCase,targetSucceeded,entries,hmessage]
 | none =>
  obtain ⟨hfailure,hentries⟩:=scoreAll_spec caseID reply e.scorers { caseID, index := i } name
  refine hentries.trans ?_
  simp [evaluateCase,targetSucceeded,entries,hfailure,count_eq_one_of_mem e.distinct hname]

lemma counts_add_up {name} {results : List CaseResult}
  (h : ∀ r ∈ results,entries name r=(targetSucceeded r).toNat) :
  (aggregate results name).scored+(aggregate results name).failures+targetFailures results =
   results.length := by
 induction results with
 | nil => rfl
 | cons r rest ih =>
  have hr:=h r mem_cons_self
  have hrest:=ih fun r hr => h r (mem_cons_of_mem _ hr)
  simp only [aggregate,targetFailures,entries,map_cons,sum_cons,countP_cons,length_cons]
   at hr hrest ⊢
  cases hs : targetSucceeded r with
  | false | true =>
   simp only [hs,Bool.toNat_true,Bool.toNat_false,Bool.not_true,Bool.not_false,reduceIte,
    Bool.false_eq_true] at hr ⊢
   omega

/-- What `summarize` counts as a failure of the target: an error with a text. -/
def TargetReply.told : TargetReply → Bool
 | .returned err => err.any (· ≠ "")
 | .panicked => false

lemma Inv.failures (h:Inv e n s) (hlive:s.crashed=false) (hstuck:∀ u,¬ Step e s u) :
  targetFailures s.results=s.replies.countP (·.2.told) := by
 have honce:=h.once_done hlive hstuck
 have hslots:s.results=(range e.cases.length).map fun i=>s.results.getD i {}:=by
  refine ext_getElem (by simp [h.length]) ?_
  intro i hi _
  simp [hi]
 unfold targetFailures
 rw [hslots,countP_map,← honce.countP_eq,countP_map]
 refine countP_congr ?_
 rintro ⟨i,reply⟩ hmem
 cases reply with
 | panicked => exact absurd (h.crashed.mpr ⟨i,hmem⟩) (by simp [hlive])
 | returned err =>
  obtain ⟨caseID,reply,_,hslot⟩:=h.filled i err hmem
  simp only [Function.comp_apply,getD_eq_getElem?_getD,hslot,Option.getD_some,
   evaluateCase_failed,TargetReply.told]

lemma told_of_countP_eq {replies:List (ℕ × TargetReply)}
  (h:replies.countP (·.2.told)=replies.countP (·.2.failed)) :
  ∀ r ∈ replies,r.2 ≠ .returned (some "") := by
 have htold (r : ℕ × TargetReply) (hr : r.2.told=true) : r.2.failed=true := by
  obtain ⟨_,_ | _⟩:=r
  · exact Option.isSome_of_any hr
  · cases hr
 induction replies with
 | nil => simp
 | cons r rest ih =>
  have hrest:=countP_mono_left fun r (_:r ∈ rest)=>htold r
  have hr:=htold r
  rw [countP_cons,countP_cons] at h
  refine forall_mem_cons.mpr ⟨fun hempty=>?_,ih ?_⟩
  · have htold:r.2.told=false:=by rw [hempty]; rfl
    have hfailed:r.2.failed=true:=by rw [hempty]; rfl
    rw [htold,hfailed] at h
    simp only [Bool.false_eq_true,if_false,if_true] at h
    omega
  · cases htold : r.2.told with
    | true => simp only [htold,hr htold,if_true] at h; omega
    | false =>
     rw [htold] at h
     simp only [Bool.false_eq_true,if_false] at h
     split at h <;> omega

lemma told_eq_failed {r:TargetReply} (h:r ≠ .returned (some "")) : r.told=r.failed := by
 rcases r with (_ | message) | _
 · rfl
 · have hmessage:message ≠ "":=fun hm=>h (by rw [hm])
   simp [TargetReply.told,TargetReply.failed,hmessage]
 · rfl

/-- A run takes at most two steps for each case. When none is left, it accounts for every case
exactly if no call of the target panicked or returned an error with an empty text. -/
theorem experiment_accounts_iff (e : Experiment) {n : ℕ} {s : Pool} (h : Reaches e n s) :
  n ≤ 2 * e.cases.length ∧ ((∀ u, ¬ Step e s u) → (Accounted e s ↔
   ∀ r ∈ s.replies, r.2 ≠ .panicked ∧ r.2 ≠ .returned (some ""))) := by
 have hinv:=h.inv
 have hlength:=hinv.once.length_eq
 rw [length_append,length_map,length_range] at hlength
 have hbound:=hinv.bound
 refine ⟨by rw [hinv.steps]; omega,fun hstuck=>⟨fun haccounted=>?_,fun hreplies=>?_⟩⟩
 · rintro ⟨i,reply⟩ hmem
   refine ⟨?_,?_⟩
   · rintro rfl
     exact absurd (hinv.crashed.mpr ⟨i,hmem⟩) (by simp [haccounted.returns])
   · refine told_of_countP_eq ?_ _ hmem
     rw [← hinv.failures haccounted.returns hstuck,haccounted.failures]
 · have hlive:s.crashed = false := by
    rw [Bool.eq_false_iff,ne_eq,hinv.crashed]
    rintro ⟨i,hmem⟩
    exact (hreplies _ hmem).1 rfl
   have honce:=hinv.once_done hlive hstuck
   have hfailures:targetFailures s.results = s.replies.countP (·.2.failed) := by
    rw [hinv.failures hlive hstuck]
    exact countP_congr fun r hr=>by rw [told_eq_failed (hreplies r hr).2]
   refine ⟨hlive,hinv.length,honce,hinv.filled,hfailures,fun name hname=>?_⟩
   have hentries:∀ r ∈ s.results, entries name r = (targetSucceeded r).toNat := by
    intro r hr
    obtain ⟨i,hi,rfl⟩:=mem_iff_getElem.mp hr
    obtain ⟨⟨_,reply⟩,hmem,rfl⟩ :=
     mem_map.mp (honce.mem_iff.mpr (mem_range.mpr (hinv.length ▸ hi)))
    cases reply with
    | panicked => exact absurd rfl (hreplies _ hmem).1
    | returned err =>
     obtain ⟨caseID,reply,_,hslot⟩:=hinv.filled _ err hmem
     rw [Option.some.inj ((List.getElem?_eq_getElem hi).symm.trans hslot)]
     refine evaluateCase_entries ?_ hname
     rintro rfl
     exact (hreplies _ hmem).2 rfl
   have hsum:=counts_add_up hentries
   rw [hinv.length] at hsum
   omega

def pair : Experiment := ⟨["first", "second"], ["exact"], by decide, 2, by decide⟩

def pairEnd : Pool where
 dispatched := 2
 results := [evaluateCase ["exact"] 0 "first" (some "down") fun _ => .scored true,
  evaluateCase ["exact"] 1 "second" none fun _ => .panicked "broken"]
 replies := [(0, .returned (some "down")), (1, .returned none)]

/-- Two workers; the target fails for the first case, which ends last, and the scorer for the
second one. -/
theorem pair_accounted : Reaches pair 4 pairEnd ∧ targetFailures pairEnd.results = 1 ∧
  Accounted pair pairEnd := by
 have hend:Reaches pair 4 pairEnd := by
  refine .next (.next (.next (.next .start (.dispatch rfl (by decide) (by decide)))
   (.dispatch rfl (by decide) (by decide))) (.finish (i := 1) none (fun _=>.panicked "broken") rfl
    (by decide) rfl)) ?_
  exact .finish (i := 0) (some "down") (fun _=>.scored true) rfl (by decide) rfl
 have hstuck:∀ u, ¬ Step pair pairEnd u := by
  intro u hu
  cases hu with
  | dispatch _ hnext => exact absurd hnext (by decide)
  | finish _ _ _ hbusy | crash _ hbusy => cases hbusy
 refine ⟨hend,by decide,((experiment_accounts_iff pair hend).2 hstuck).mpr ?_⟩
 simp [pairEnd]

def lone : Experiment := ⟨["case"], ["exact"], by decide, 1, by decide⟩

theorem empty_error_not_counted : ∃ s, Reaches lone 2 s ∧ (∀ u, ¬ Step lone s u) ∧
  s.replies = [(0, .returned (some ""))] ∧ ¬ Accounted lone s := by
 have hstart:Reaches lone 1 _ := .next .start (.dispatch rfl (by decide) (by decide))
 have hend:=hstart.next (.finish (some "") (fun _=>.scored true) rfl mem_cons_self rfl)
 refine ⟨_,hend,?_,rfl,?_⟩
 · intro u hu
   cases hu with
   | dispatch _ hnext => exact absurd hnext (by decide)
   | finish _ _ _ hbusy | crash _ hbusy => exact absurd hbusy (by simp)
 · intro h
   exact absurd h.failures (by decide)

end Lebro.ExperimentRuns
