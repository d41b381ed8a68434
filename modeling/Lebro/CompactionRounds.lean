import Lebro.ContextSummaries

set_option autoImplicit false

namespace Lebro.CompactionRounds

open EffectProgram RuntimeTypes MessageTexts ContextCompaction ContextSummaries

variable {c:ContextCompactor} {prior:List MessageRecord} {threadID:ThreadID}

/-- How many messages the summary covers that the compaction loaded or published last, and how
often it has called the summarizer. -/
structure Coverage where
 least : Nat := 0
 calls : Nat := 0

/-- Follows a compaction over a store whose summary never covers less than before. -/
def coverage (c : ContextCompactor) (prior : List MessageRecord) :
  Monitor CompactionSig Coverage where
 demand
  | s, .generate request => s.calls < prior.length ∧ ∃ previous covered stop,
    s.least ≤ covered ∧ covered < stop ∧ stop ≤ prior.length ∧
    request = summaryRequest c previous (chunk prior covered stop)
  | _, .hang => False
  | _, _ => True
 step
  | s, .loadContextSummary _, .ok current, u =>
   (∀ covered, coveredBy current prior = some covered → s.least ≤ covered) ∧
    u = { s with least := (coveredBy current prior).getD s.least }
  | s, .generate _, _, u => u = { s with calls := s.calls + 1 }
  | s, .compareAndSwapContextSummary next _, .ok true, u =>
   u = { s with least := (coveredBy next prior).getD s.least }
  | s, _, _, u => u = s

section

variable (hids:(prior.map MessageRecord.id).Nodup) (hnamed:∀ r ∈ prior, r.id ≠ "")

include hids hnamed

lemma coveredBy_last {next:ContextSummary} {stop:Nat}
  (hpos:0 < stop) (hstop:stop ≤ prior.length) (hnext:next.coveredThroughMessageID =
   ((prior.drop (stop - 1)).head?.map MessageRecord.id).getD "") :
  coveredBy next prior=some stop := by
 have hlt:stop - 1 < prior.length := by omega
 have hid:next.coveredThroughMessageID=prior[stop - 1].id := by
  rw [hnext,List.head?_drop,List.getElem?_eq_getElem hlt]
  rfl
 unfold coveredBy
 rw [hid,if_neg (hnamed _ (List.getElem_mem hlt))]
 have hfound:prior.findIdx? (fun r=>r.id=prior[stop - 1].id)=some (stop - 1) := by
  rw [List.findIdx?_eq_some_iff_getElem]
  refine ⟨hlt,decide_eq_true rfl,?_⟩
  intro j hj heq
  have hinj:=List.pairwise_iff_getElem.mp hids j (stop - 1) (by simp; omega) (by simpa using hlt) hj
  simp only [List.getElem_map] at hinj
  exact hinj (of_decide_eq_true heq)
 rw [hfound,Option.map_some,Nat.sub_add_cancel hpos]

/-- A round ends the compaction, or publishes a summary that covers more than the one it found. -/
def Advanced (prior : List MessageRecord) (s : Coverage) : CompactionRound → Coverage → Prop
 | .inl _, u => s.least < u.least ∧ u.calls ≤ u.least ∧ u.least ≤ prior.length
 | .inr _, _ => True

omit hids hnamed in
lemma wp_reportFailure {s u:Coverage} {request} (err) :
  wp (coverage c prior) (reportFailure c request err) (Advanced prior s) u :=
 ⟨trivial,fun _ _ _=>trivial⟩

lemma wp_summarize {s u:Coverage} {current covered stop request}
  (hleast:s.least ≤ covered) (hcalls:s.calls ≤ s.least)
  (hu:u = { s with least := covered }) (hlt : covered < stop) (hstop : stop ≤ prior.length) :
  wp (coverage c prior) (summarize c threadID current prior covered stop request)
   (Advanced prior s) u := by
 subst hu
 refine ⟨trivial,?_⟩
 rintro started _ rfl
 refine ⟨trivial,?_⟩
 rintro _ _ rfl
 have hgenerate:s.calls < prior.length := by omega
 refine (wp_perform _ _ _ _).mpr
  ⟨⟨hgenerate,_,covered,stop,Nat.le_refl _,hlt,hstop,rfl⟩,?_⟩
 rintro response _ rfl
 split
 · exact wp_reportFailure _
 unfold publish
 split
 · trivial
 refine (wp_perform _ _ _ _).mpr ⟨trivial,?_⟩
 intro swapped v hv
 split
 · exact wp_reportFailure _
 · exact wp_reportFailure _
 · have hv:v=_ := hv
   rw [coveredBy_last hids hnamed (by omega) hstop rfl,Option.getD_some] at hv
   subst hv
   refine (wp_perform _ _ _ _).mpr ⟨trivial,?_⟩
   rintro _ _ rfl
   split
   · exact ⟨Nat.lt_of_le_of_lt hleast hlt,by dsimp only; omega,hstop⟩
   · trivial

lemma wp_compactRound (state) {s:Coverage} (hcalls:s.calls ≤ s.least) :
  wp (coverage c prior) (compactRound c threadID prior state) (Advanced prior s) s := by
 unfold compactRound
 split
 · exact ⟨trivial,fun _ _ _=>trivial⟩
 refine (wp_perform _ _ _ _).mpr ⟨trivial,?_⟩
 intro loaded u hu
 split
 · trivial
 obtain ⟨hleast,hu⟩:=hu
 split
 · trivial
 rename_i covered hcovered
 rw [hcovered,Option.getD_some] at hu
 split
 · trivial
 rename_i request _
 cases hplan : plan c _ prior covered request state.2 with
 | keep => trivial
 | settle err => trivial
 | report err => exact wp_reportFailure err
 | cut stop =>
  obtain ⟨hlt,hstop,-⟩:=plan_cut hplan
  exact wp_summarize hids hnamed (hleast covered hcovered) hcalls hu hlt hstop

lemma wp_compactRounds (n:Nat) (state) {s:Coverage} (hcalls:s.calls ≤ s.least) (hleast:s.least ≤ prior.length)
  (hn:prior.length < n+s.least) :
  wp (coverage c prior) (Prog.iterate (compactRound c threadID prior)
   ((compactionOp .hang) >>= fun (e:Empty)=>e.elim) n state) (fun _ _=>True) s := by
 induction n generalizing state s with
 | zero => omega
 | succ n ih =>
  apply wp_seq (wp_compactRound hids hnamed state hcalls)
  intro round u hu
  cases round with
  | inl state => exact ih state hu.2.1 hu.2.2 (by have := hu.1; omega)
  | inr out => trivial

end

/-- While the stored summary never covers less than before, a compaction calls the summarizer at
most once for each prior message, and ends. -/
theorem compaction_rounds_end (c : ContextCompactor) (threadID : ThreadID)
  (prior : List MessageRecord) (hids : (prior.map MessageRecord.id).Nodup)
  (hnamed : ∀ r ∈ prior, r.id ≠ "") (hrounds : prior.length < c.rounds) (request : ModelRequest)
  {es : List (Event CompactionSig)} {q : CompactionProg CompactionOutcome} {u : Coverage}
  (htrace : Trace (compact c threadID prior request) es q)
  (hstore : (coverage c prior).Follows {} es u) :
  u.calls ≤ prior.length ∧ (∀ k, q ≠ .ask .hang k) ∧
   ∀ asked k, q = .ask (.generate asked) k → ∃ previous covered stop, u.least ≤ covered ∧
    covered < stop ∧ stop ≤ prior.length ∧
    asked = summaryRequest c previous (chunk prior covered stop) := by
 have hwp:wp (coverage c prior) (compact c threadID prior request) (fun _ _=>True) {} := by
  unfold compact
  split
  · trivial
  · exact wp_compactRounds hids hnamed c.rounds _ (Nat.le_refl 0) (Nat.zero_le _) (by simpa)
 have hq:=htrace.wp hstore hwp
 refine ⟨?_,?_,?_⟩
 · apply htrace.keeps hstore hwp (fun s=>s.calls ≤ prior.length) (Nat.zero_le _)
   intro s o r u hs hdemand hstep
   cases o with
   | generate asked =>
    obtain rfl : u = _ := hstep
    exact hdemand.1
   | loadContextSummary id =>
    cases r with
    | error e =>
     cases hstep
     exact hs
    | ok current =>
     cases hstep.2
     exact hs
   | compareAndSwapContextSummary next version =>
    cases r with
    | error e =>
     cases hstep
     exact hs
    | ok swapped => cases swapped <;> cases hstep <;> exact hs
   | emit event | now =>
    cases hstep
    exact hs
   | hang => cases hdemand
 · rintro k rfl
   exact hq.1
 · rintro asked k rfl
   exact hq.1.2

def patientCompactor : ContextCompactor := { sampleCompactor 700 with rounds := 7 }

def storedSummary : Nat → ContextSummary
 | 0 => {}
 | n + 1 => { coveredThroughMessageID := ((distinctNotes.drop n).head?.map MessageRecord.id).getD ""
              content := [0x53] }

def answerNotes : (o : CompactionOp) → Coverage → Option (o.Reply × Coverage)
 | .loadContextSummary _, s =>
  if coveredBy (storedSummary s.least) distinctNotes = some s.least then
   some (.ok (storedSummary s.least), s)
  else none
 | .generate _, s => some (.ok ⟨[0x53], .stop⟩, { s with calls := s.calls + 1 })
 | .compareAndSwapContextSummary next _, s =>
  some (.ok true, { s with least := (coveredBy next distinctNotes).getD s.least })
 | .emit _, s => some ((), s)
 | .now, s => some (0, s)
 | .hang, _ => none

lemma answerNotes_step (o s r u) (h:answerNotes o s=some (r,u)) :
  (coverage patientCompactor distinctNotes).step s o r u := by
 cases o with
 | loadContextSummary threadID =>
  dsimp only [answerNotes] at h
  split at h
  · next hstored =>
     cases h
     refine ⟨?_,?_⟩
     · intro covered hcovered
       rw [hstored] at hcovered
       exact Nat.le_of_eq (Option.some.inj hcovered)
     · rw [hstored]
       rfl
  · cases h
 | generate asked | compareAndSwapContextSummary next version | emit event | now =>
  cases h
  rfl
 | hang => cases h

theorem notes_summarized : ∃ es out u,
  Trace (compact patientCompactor "thread" distinctNotes { messages := texts distinctNotes }) es
   (.ret out) ∧ (coverage patientCompactor distinctNotes).Follows {} es u ∧ u.calls = 2 ∧
  u.calls ≤ distinctNotes.length := by
 have hanswer:((compact patientCompactor "thread" distinctNotes
   { messages := texts distinctNotes }).answer answerNotes {}).map (fun x=>x.2.calls) =
    some 2 := by
  decide +kernel
 obtain ⟨⟨out,u⟩,hrun,hcalls⟩:=Option.map_eq_some_iff.mp hanswer
 obtain ⟨htrace,hfollows⟩:=Monitor.follows_answered answerNotes_step hrun
 exact ⟨_,out,u,htrace,hfollows,hcalls,(compaction_rounds_end patientCompactor "thread"
  distinctNotes (by decide) (by decide) (by decide) _ htrace hfollows).1⟩

end Lebro.CompactionRounds
