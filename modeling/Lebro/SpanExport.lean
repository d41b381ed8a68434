import Lebro.EffectTurns
import Mathlib.Algebra.Ring.Int.Defs

set_option autoImplicit false

/-! The replies of the queue and of the closed flag are left open: what is proved holds for all of
them. -/
namespace Lebro.SpanExport

open EffectProgram EffectRuns EffectPool EffectTurns

structure Span where
 spanID : String
 /-- Whether `metricsForSpan` derives a metric from the span. -/
 measured : Bool

inductive Counter where
 | exported | dropped | filtered | failures
deriving DecidableEq

inductive Destination where
 | spans | repositorySpans | logs | repositoryLogs | metrics | feedback | repositoryFeedback

structure Config where
 spans : Bool
 repository : Bool
 logs : Bool
 metrics : Bool
 feedback : Bool
 batchSize : Int

/-- The mutex of the tracer, and the one of the observer over its queue. -/
inductive Mutex where
 | tracer | emission
deriving DecidableEq

inductive ObserverOp where
 | filter (span : Span)
 | add (c : Counter) (n : Nat)
 | load (c : Counter)
 | swap (c : Counter) (value : Nat)
 | lock (m : Mutex)
 | unlock (m : Mutex)
 | isClosed
 /-- Whether a record of feedback is valid and passes its filter. -/
 | keepsFeedback
 | send (span : Span)
 | receive
 | poll
 | call (d : Destination) (spans : List Span) (values : List (Counter × Int))

abbrev ObserverOp.Reply : ObserverOp → Type
 | .filter _ => Span
 | .load _ | .swap _ _ => Nat
 | .isClosed | .keepsFeedback | .send _ | .call _ _ _ => Bool
 | .receive | .poll => Option Span
 | _ => Unit

def ObserverSig : Sig := ⟨ObserverOp, ObserverOp.Reply⟩

abbrev ObserverProg := Prog ObserverSig

def perform (o : ObserverOp) : ObserverProg o.Reply := Prog.perform (S := ObserverSig) o

def onlyIf (c : Bool) (p : ObserverProg Unit) : ObserverProg Unit := if c then p else .ret ()

/-- The reply says whether the exporter returned an error or panicked. -/
def exportCall (d : Destination) (spans : List Span) (values : List (Counter × Int)) :
  ObserverProg Unit := do
 let failed ← perform (.call d spans values)
 onlyIf failed (perform (.add .failures 1))

def counterDelta (c : Counter) : ObserverProg Int := do
 let current ← perform (.load c)
 let reported ← perform (.swap c current)
 return (current : Int) - (reported : Nat)

def positive (c : Counter) (delta : Int) : List (Counter × Int) :=
 if 0 < delta then [(c, delta)] else []

def exportMetrics (spans : List Span) : ObserverProg Unit := do
 let dropped ← counterDelta .dropped
 let failures ← counterDelta .failures
 let values := positive .dropped dropped ++ positive .failures failures
 onlyIf (spans.any Span.measured || !values.isEmpty) (exportCall .metrics spans values)

def exportSpans (config : Config) (spans : List Span) : ObserverProg Unit :=
 onlyIf (!spans.isEmpty &&
   (config.spans || config.logs || config.metrics || config.repository)) do
  perform (.add .exported spans.length)
  onlyIf config.spans (exportCall .spans spans [])
  onlyIf config.repository (exportCall .repositorySpans spans [])
  onlyIf config.logs (exportCall .logs spans [])
  onlyIf config.repository (exportCall .repositoryLogs spans [])
  onlyIf config.metrics (exportMetrics spans)

def onSpanEnd (config : Config) (synchronous : Bool) (span : Span) : ObserverProg Unit := do
 let filtered ← perform (.filter span)
 if filtered.spanID = "" then perform (.add .filtered 1) else
  perform (.lock .emission)
  let closed ← perform .isClosed
  if closed then
   perform (.unlock .emission)
   perform (.add .dropped 1)
  else if synchronous then
   perform (.unlock .emission)
   exportSpans config [filtered]
  else
   let sent ← perform (.send filtered)
   onlyIf (!sent) (perform (.add .dropped 1))
   perform (.unlock .emission)

def endSpans (config : Config) (synchronous : Bool) : List Span → ObserverProg Unit
 | [] => .ret ()
 | span :: spans => do
  onSpanEnd config synchronous span
  endSpans config synchronous spans

/-- The tracer hands the spans that end with an event to the observer under its lock. -/
def onRunEvent (config : Config) (synchronous : Bool) (spans : List Span) : ObserverProg Unit := do
 perform (.lock .tracer)
 endSpans config synchronous spans
 perform (.unlock .tracer)

def recordFeedback (config : Config) : ObserverProg Unit := do
 let kept ← perform .keepsFeedback
 onlyIf kept do
  onlyIf config.feedback (exportCall .feedback [] [])
  onlyIf config.repository (exportCall .repositoryFeedback [] [])

inductive Call where
 | event (spans : List Span)
 | feedback

def Call.prog (config : Config) (synchronous : Bool) : Call → ObserverProg Unit
 | .event spans => onRunEvent config synchronous spans
 | .feedback => recordFeedback config

def calls (config : Config) (synchronous : Bool) : List Call → ObserverProg Unit
 | [] => .ret ()
 | call :: rest => do
  call.prog config synchronous
  calls config synchronous rest

/-- The loops are cut after `n` rounds; what is proved holds for every `n`. -/
def collect (config : Config) (n : ℕ) (first : Span) : ObserverProg (List Span) :=
 Prog.iterate (fun batch : List Span =>
  if config.batchSize ≤ 0 ∨ (batch.length : Int) < config.batchSize then do
   let span ← perform .poll
   match span with
   | some span => return .inl (batch ++ [span])
   | none => return .inr batch
  else .ret (.inr batch)) (.ret [first]) n [first]

/-- A loop of `drain`: it exports what `next` gives and ends when that is `none`. -/
def drainLoop (config : Config) (next : ObserverProg (Option Span)) (n : ℕ) : ObserverProg Unit :=
 Prog.iterate (fun _ : Unit => do
  let span ← next
  match span with
  | some span => do
   let batch ← collect config n span
   exportSpans config batch
   return .inl ()
  | none => return .inr ()) (.ret ()) n ()

/-- A receive replies `none` when the channel `done` is closed. -/
def drain (config : Config) (n : ℕ) : ObserverProg Unit := do
 drainLoop config (perform .receive) n
 drainLoop config (perform .poll) n

def programs (config : Config) (n : ℕ) (callers : List (List Call)) :
  Bool → List (ObserverProg Unit)
 | true => callers.map (calls config true)
 | false => drain config n :: callers.map (calls config false)

/-- The counters, what was last reported of them, and the sum of the values of each that the metric
exporter received. -/
structure ObserverState where
 held : Mutex → Bool := fun _ => false
 count : Counter → Nat := fun _ => 0
 reported : Counter → Nat := fun _ => 0
 received : Counter → Int := fun _ => 0

def valueOf (c : Counter) (values : List (Counter × Int)) : Int :=
 ((values.filter fun value => value.1 = c).map Prod.snd).sum

/-- The reply that the counters give, if the operation reads one; a mutex that is held blocks. -/
def ObserverState.reads (s : ObserverState) : (o : ObserverOp) → o.Reply → Prop
 | .lock m, _ => s.held m = false
 | .load c, value => value = s.count c
 | .swap c _, value => value = s.reported c
 | _, _ => True

def ObserverState.next (s : ObserverState) : ObserverOp → ObserverState
 | .lock m => { s with held := Function.update s.held m true }
 | .unlock m => { s with held := Function.update s.held m false }
 | .add c n => { s with count := Function.update s.count c (s.count c + n) }
 | .swap c value => { s with reported := Function.update s.reported c value }
 | .call _ _ values => { s with received := fun c => s.received c + valueOf c values }
 | _ => s

def counters : Monitor ObserverSig ObserverState where
 demand _ _ := True
 step s o r u := s.reads o r ∧ u = s.next o

variable {s m u:ObserverState} {o:ObserverOp} {r:o.Reply} {δ:Counter → Int} {synchronous:Bool}

def Quiet : ObserverOp → Prop
 | .swap _ _ => False
 | .call _ _ values => values = []
 | _ => True

def Still : ObserverOp → Prop
 | .lock .tracer | .unlock .tracer => False
 | o => Quiet o

lemma quiet_of_still (h:Still o) : Quiet o := by
 cases o with
 | lock m | unlock m => trivial
 | _ => exact h

lemma held_of_still {s:ObserverState} (h:Still o) : (s.next o).held .tracer=s.held .tracer := by
 cases o with
 | lock m | unlock m =>
  cases m with
  | tracer => exact h.elim
  | emission => rfl
 | _ => rfl

structure Grows (s u : ObserverState) : Prop where
 reported : u.reported = s.reported
 received : u.received = s.received
 count : ∀ c, s.count c ≤ u.count c

lemma grows_of_quiet {s:ObserverState} (ho:Quiet o) : Grows s (s.next o) := by
 cases o with
 | swap c value => exact ho.elim
 | call d spans values =>
  cases ho
  exact ⟨rfl,funext fun c=>Int.add_zero _,fun c=>Nat.le_refl _⟩
 | add c n =>
  refine ⟨rfl,rfl,fun c'=>?_⟩
  by_cases h : c'=c
  · subst h
    simp [ObserverState.next]
  · simp [ObserverState.next,h]
 | _ => exact ⟨rfl,rfl,fun c=>Nat.le_refl _⟩

/-- The reported values are those received and those that `δ` still owes. -/
def Owing (δ : Counter → Int) (s : ObserverState) : Prop :=
 ∀ c, s.received c + δ c = s.reported c ∧ 0 ≤ δ c ∧ s.reported c ≤ s.count c

lemma Owing.grows (h:Owing δ s) (hs:Grows s u) : Owing δ u := by
 intro c
 obtain ⟨hsum,hδ,hle⟩:=h c
 rw [hs.reported,hs.received]
 exact ⟨hsum,hδ,hle.trans (hs.count c)⟩

def Sound (s : ObserverState) : Prop :=
 ∀ c, s.received c ≤ s.reported c ∧ s.reported c ≤ s.count c

lemma Owing.sound (h:Owing δ s) : Sound s := by
 intro c
 obtain ⟨hsum,hδ,hle⟩:=h c
 exact ⟨by omega,hle⟩

lemma Sound.grows (h:Sound s) (hs:Grows s u) : Sound u := by
 intro c
 rw [hs.reported,hs.received]
 exact ⟨(h c).1,(h c).2.trans (hs.count c)⟩

/-- Whoever exports leaves the mutex of the tracer alone and reports no more than there is. -/
def Exports (s : ObserverState) (_ : ObserverOp) (u : ObserverState) : Prop :=
 Sound u ∧ u.held .tracer = s.held .tracer

def exporting : Monitor ObserverSig ObserverState :=
 relying counters Grows fun s o _ u => Exports s o u

lemma wp_ask {α:Type} {k:o.Reply → ObserverProg α} {Q}
  (h:∀ m r,Grows s m → m.reads o r → Exports m o (m.next o) ∧ wp exporting (k r) Q (m.next o)) :
  wp exporting (Prog.ask (S := ObserverSig) o k) Q s := by
 constructor
 · rintro m r _ hm ⟨hr,rfl⟩
   exact (h m r hm hr).1
 · rintro r _ ⟨m,hm,hr,rfl⟩
   exact (h m r hm hr).2

lemma wp_still {α:Type} {p:ObserverProg α} (hp:Asks Still p) (h:Owing δ s) :
  wp exporting p (fun _ u=>Owing δ u) s := by
 induction p generalizing s with
 | ret a => exact h
 | ask o k ih =>
  refine wp_ask fun m r hm _=>?_
  have hnext:=(h.grows hm).grows (grows_of_quiet (quiet_of_still hp.1))
  exact ⟨⟨hnext.sound,held_of_still hp.1⟩,ih r (hp.2 r () trivial) hnext⟩

lemma wp_counterDelta {c} (h:Owing δ s) (hc:δ c=0) :
  wp exporting (counterDelta c) (fun delta u=>Owing (Function.update δ c delta) u) s := by
 refine wp_ask fun m current hm hload=>?_
 obtain rfl : current=m.count c := hload
 have hloaded:=h.grows hm
 refine ⟨⟨hloaded.sound,rfl⟩,wp_ask fun w old hw hswap=>?_⟩
 obtain rfl : old=w.reported c := hswap
 have hswapped:=hloaded.grows hw
 have hnext:Owing (Function.update δ c ((m.count c:Int)-w.reported c))
   (w.next (.swap c (m.count c))) := by
  intro c'
  by_cases hcc : c'=c
  · subst hcc
    have hcount:=hw.count c'
    have hreported:=congrFun hw.reported c'
    obtain ⟨hsum,-,hle⟩:=hloaded c'
    obtain ⟨hsum',-,-⟩:=hswapped c'
    simp only [ObserverState.next,Function.update_self] at *
    omega
  · simpa [ObserverState.next,hcc] using hswapped c'
 exact ⟨⟨hnext.sound,rfl⟩,hnext⟩

lemma valueOf_positive {c:Counter} {c' delta} (h:0 ≤ delta) :
  valueOf c (positive c' delta)=if c=c' then delta else 0 := by
 unfold positive
 split_ifs with hpos hc hc
 · simp [valueOf,hc]
 · simp [valueOf,Ne.symm hc]
 · exact le_antisymm h (not_lt.mp hpos)
 · rfl

lemma asks_onlyIf {P c p} (hp:Asks P p) : Asks P (onlyIf c p) := asks_ite hp asks_ret
lemma asks_exportCall {d spans} : Asks Still (exportCall d spans []) :=
 asks_perform rfl fun _=>asks_onlyIf (asks_op trivial)

lemma wp_exportMetrics {spans} (h:Owing 0 s) :
  wp exporting (exportMetrics spans) (fun _ u=>Owing 0 u) s := by
 refine wp_seq (wp_counterDelta h rfl) fun dropped u hu=>?_
 refine wp_seq (wp_counterDelta hu rfl) fun failures v hv=>?_
 have hvalue (c : Counter) : valueOf c (positive .dropped dropped++positive .failures failures) =
   Function.update (Function.update (0 : Counter → Int) .dropped dropped) .failures failures c := by
  have happend (xs ys) : valueOf c (xs++ys)=valueOf c xs+valueOf c ys := by simp [valueOf]
  have hdropped:0 ≤ dropped:=(hv .dropped).2.1
  have hfailures:0 ≤ failures:=(hv .failures).2.1
  rw [happend,valueOf_positive hdropped,valueOf_positive hfailures]
  cases c <;> simp
 rw [onlyIf]
 split_ifs with hcall
 · refine wp_ask fun w failed hw _=>?_
   have hpaid:Owing 0 (w.next (.call .metrics spans
     (positive .dropped dropped++positive .failures failures))) := by
    intro c
    obtain ⟨hsum,-,hle⟩:=hv.grows hw c
    rw [← hvalue] at hsum
    exact ⟨(Int.add_zero _).trans hsum,le_rfl,hle⟩
   exact ⟨⟨hpaid.sound,rfl⟩,wp_still (asks_onlyIf (asks_op trivial)) hpaid⟩
 · have hnone:positive .dropped dropped++positive .failures failures=[]:=by
    simp only [Bool.or_eq_true,not_or] at hcall
    simpa using hcall.2
   intro c
   obtain ⟨hsum,-,hle⟩:=hv c
   rw [← hvalue,hnone] at hsum
   exact ⟨hsum,le_rfl,hle⟩

lemma wp_exportSpans {config spans} (h:Owing 0 s) :
  wp exporting (exportSpans config spans) (fun _ u=>Owing 0 u) s := by
 have hcall (d) (c) : Asks Still (onlyIf c (exportCall d spans [])) :=
  asks_onlyIf asks_exportCall
 rw [exportSpans,onlyIf]
 split
 · refine wp_seq (wp_still (asks_op trivial) h) fun _ u hu=>?_
   refine wp_seq (wp_still (hcall .spans _) hu) fun _ u hu=>?_
   refine wp_seq (wp_still (hcall .repositorySpans _) hu) fun _ u hu=>?_
   refine wp_seq (wp_still (hcall .logs _) hu) fun _ u hu=>?_
   refine wp_seq (wp_still (hcall .repositoryLogs _) hu) fun _ u hu=>?_
   rw [onlyIf]
   split
   · exact wp_exportMetrics hu
   · exact hu
 · exact h

lemma asks_collect {config n first} : Asks Still (collect config n first) := by
 refine wp_rounds (fun _ _=>True) ?_ ?_ n _ _ trivial
 · intro batch _ _
   split
   · refine ⟨trivial,fun span _ _=>?_⟩
     cases span <;> trivial
   · trivial
 · exact fun _ _ _=>trivial

lemma wp_drainLoop {next} {config n} (hnext:Asks Still next) (h:Owing 0 s) :
  wp exporting (drainLoop config next n) (fun _ u=>Owing 0 u) s := by
 refine wp_rounds (fun _=>Owing 0) ?_ ?_ n _ s h
 · intro _ s h
   refine wp_seq (wp_still hnext h) fun span u hu=>?_
   split
   · refine wp_seq (wp_still asks_collect hu) fun batch v hv=>?_
     exact wp_seq (wp_exportSpans hv) fun _ _ h=>h
   · exact hu
 · exact fun _ _ h=>h

lemma wp_onSpanEnd {config span} (h:Owing 0 s) :
  wp exporting (onSpanEnd config true span) (fun _ u=>Owing 0 u) s := by
 refine wp_seq (wp_still (asks_op trivial) h) fun filtered u hu=>?_
 split
 · exact wp_still (asks_op trivial) hu
 · refine wp_seq (wp_still (asks_op trivial) hu) fun _ u hu=>?_
   refine wp_seq (wp_still (asks_op trivial) hu) fun closed u hu=>?_
   cases closed with
   | true => exact wp_still (asks_perform trivial fun _=>asks_op trivial) hu
   | false => exact wp_seq (wp_still (asks_op trivial) hu) fun _ u hu=>wp_exportSpans hu

lemma wp_endSpans {config spans} (h:Owing 0 s) :
  wp exporting (endSpans config true spans) (fun _ u=>Owing 0 u) s := by
 induction spans generalizing s with
 | nil => exact h
 | cons span spans ih => exact wp_seq (wp_onSpanEnd h) fun _ u hu=>ih hu

lemma asks_recordFeedback {config} : Asks Still (recordFeedback config) :=
 asks_perform trivial fun _=>asks_onlyIf (asks_bind (asks_onlyIf asks_exportCall) fun _=>
  asks_onlyIf asks_exportCall)

lemma asks_endSpans {config spans} : Asks Quiet (endSpans config false spans) := by
 have hadd (c) : Asks Quiet (perform (.add c 1)) := asks_op trivial
 have hunlock:Asks Quiet (perform (.unlock .emission)):=asks_op trivial
 induction spans with
 | nil => exact asks_ret
 | cons span spans ih =>
  refine asks_bind (asks_perform trivial fun filtered=>?_) fun _=>ih
  refine asks_ite (hadd _) (asks_perform trivial fun _=>asks_perform trivial fun closed=>?_)
  cases closed with
  | true => exact asks_perform trivial fun _=>hadd _
  | false => exact asks_perform trivial fun _=>asks_bind (asks_onlyIf (hadd _)) fun _=>hunlock

lemma asks_calls {config rest} : Asks Quiet (calls config false rest) := by
 induction rest with
 | nil => exact asks_ret
 | cons call rest ih =>
  refine asks_bind ?_ fun _=>ih
  cases call with
  | event spans =>
   exact asks_perform trivial fun _=>asks_bind asks_endSpans fun _=>asks_op trivial
  | feedback => exact asks_recordFeedback.mono fun _=>quiet_of_still

/-- Whether a goroutine may export spans: in queued mode the one of `drain`, in synchronous mode the
one that holds the mutex of the tracer. -/
inductive Phase where
 | outside | exporting

inductive Moves (synchronous : Bool) : Phase → ObserverState → (o : ObserverOp) → o.Reply →
  ObserverState → Phase → Prop where
 | quiet {m : ObserverState} {o : ObserverOp} {r : o.Reply} {u : ObserverState} (ho : Quiet o)
   (hheld : synchronous = true → Still o) : Moves synchronous .outside m o r u .outside
 | exports {m : ObserverState} {o : ObserverOp} {r : o.Reply} {u : ObserverState}
   (h : Exports m o u) : Moves synchronous .exporting m o r u .exporting
 | enter {m : ObserverState} {r : Unit} {u : ObserverState} (hmode : synchronous = true) :
   Moves synchronous .outside m (.lock .tracer) r u .exporting
 | leave {m : ObserverState} {r : Unit} {u : ObserverState} (hmode : synchronous = true)
   (hu : Owing 0 u) : Moves synchronous .exporting m (.unlock .tracer) r u .outside

def turns (synchronous : Bool) : Turns ObserverSig ObserverState Phase where
 between
  | .outside, _, u => synchronous = true → u.held .tracer = false → Owing 0 u
  | .exporting, s, u => Grows s u
 moves := Moves synchronous

structure Orderly (synchronous : Bool) (ph : ℕ → Phase) (s : ObserverState) : Prop where
 sound : Sound s
 alone : ∀ i j, ph i = .exporting → ph j = .exporting → i = j
 held : synchronous = true → ∀ i, ph i = .exporting → s.held .tracer = true
 settled : synchronous = true → s.held .tracer = false → Owing 0 s

variable {ph:ℕ → Phase} {i:ℕ} {t:Phase}

lemma Orderly.next (h:Orderly synchronous ph s) (hstep:counters.step s o r u)
  (hmove:Moves synchronous (ph i) s o r u t) :
  Orderly synchronous (Function.update ph i t) u := by
 obtain ⟨hr,rfl⟩:=hstep
 generalize hi : ph i=p at hmove
 cases hmove with
 | quiet ho hstill =>
  have hgrows:=grows_of_quiet (s := s) ho
  rw [← hi,Function.update_eq_self]
  refine ⟨h.sound.grows hgrows,h.alone,fun hmode j hj=>?_,fun hmode hfree=>?_⟩
  · exact (held_of_still (hstill hmode)).trans (h.held hmode j hj)
  · exact (h.settled hmode ((held_of_still (hstill hmode)).symm.trans hfree)).grows hgrows
 | exports hu =>
  rw [← hi,Function.update_eq_self]
  refine ⟨hu.1,h.alone,fun hmode j hj=>hu.2.trans (h.held hmode j hj),fun hmode hfree=>?_⟩
  rw [hu.2,h.held hmode i hi] at hfree
  cases hfree
 | enter hmode =>
  have honly:∀ j,Function.update ph i .exporting j = .exporting → j=i:=by
   intro j hj
   by_contra hji
   rw [Function.update_of_ne hji] at hj
   have hheld:=h.held hmode j hj
   rw [show s.held .tracer=false from hr] at hheld
   cases hheld
  have hheld:(s.next (.lock .tracer)).held .tracer=true:=by simp [ObserverState.next]
  refine ⟨h.sound.grows (grows_of_quiet trivial),?_,fun _ _ _=>hheld,fun _ hfree=>?_⟩
  · exact fun j k hj hk=>(honly j hj).trans (honly k hk).symm
  · rw [hheld] at hfree
    cases hfree
 | leave hmode hu =>
  have hnone:∀ j,Function.update ph i .outside j = .exporting → False:=by
   intro j hj
   by_cases hji : j=i
   · rw [hji,Function.update_self] at hj
     cases hj
   · rw [Function.update_of_ne hji] at hj
     exact hji (h.alone j i hj hi)
  exact ⟨hu.sound,fun j _ hj=>(hnone j hj).elim,fun _ j hj=>(hnone j hj).elim,fun _ _=>hu⟩

lemma Grows.trans (h:Grows s m) (h':Grows m u) : Grows s u :=
 ⟨h'.reported.trans h.reported,h'.received.trans h.received,
  fun c=>(h.count c).trans (h'.count c)⟩

lemma Orderly.between (h:Orderly synchronous ph s) : (turns synchronous).between (ph i) s s := by
 cases hi : ph i with
 | outside => exact h.settled
 | exporting => exact ⟨rfl,rfl,fun c=>Nat.le_refl _⟩

lemma together : Together counters (turns synchronous) fun _ ph s=>Orderly synchronous ph s where
 keeps := fun h hstep hmove=>h.next hstep hmove
 begins := fun h=>h.between
 knows := by
  intro _ ph s i o r u t j v h hstep hmove hji hv
  cases hj : ph j with
  | outside => exact (h.next hstep hmove).settled
  | exporting =>
   rw [hj] at hv
   obtain ⟨hr,rfl⟩:=hstep
   generalize hi : ph i=p at hmove
   cases hmove with
   | quiet ho => exact Grows.trans hv (grows_of_quiet ho)
   | exports | leave => exact absurd (h.alone j i hj hi) hji
   | enter hmode =>
    have hheld:=h.held hmode j hj
    rw [show s.held .tracer=false from hr] at hheld
    cases hheld

lemma turn_exporting {α:Type} {p:ObserverProg α} {Q} (h:wp exporting p Q s) :
  turn counters (turns synchronous) p (fun a t u=>t = .exporting ∧ Q a u) .exporting s :=
 turn_of_wp (fun _ _ _ _ h=>.exports h) h

lemma turn_outside {α:Type} {p:ObserverProg α} {P:ObserverOp → Prop} (hp:Asks P p)
  (hP:∀ o,P o → Quiet o ∧ (synchronous=true → Still o)) :
  turn counters (turns synchronous) p (fun _ t _=>t = .outside) .outside s := by
 refine turn_of_asks hp (fun t _=>t=Phase.outside) ?_ rfl
 rintro _ s m o r u ho rfl _ _
 exact ⟨.outside,.quiet (hP o ho).1 (hP o ho).2,rfl⟩

lemma turn_onRunEvent {config spans} :
  turn counters (turns true) (onRunEvent config true spans) (fun _ t _=>t = .outside) .outside
   s := by
 refine turn_perform fun m r u hbetween hstep=>⟨.exporting,.enter rfl,?_⟩
 obtain ⟨hr,rfl⟩:=hstep
 have hsettled:Owing 0 (m.next (.lock .tracer)):=
  Owing.grows (hbetween rfl hr) (grows_of_quiet trivial)
 refine turn_seq (turn_exporting (wp_endSpans hsettled)) ?_
 rintro _ _ u ⟨rfl,hu⟩ m r _ hm ⟨-,rfl⟩
 exact ⟨.outside,.leave rfl ((hu.grows hm).grows (grows_of_quiet trivial)),rfl⟩

lemma turn_calls {config rest} :
  turn counters (turns true) (calls config true rest) (fun _ _ _=>True) .outside s := by
 induction rest generalizing s with
 | nil => trivial
 | cons call rest ih =>
  refine turn_seq (R := fun _ t _=>t = .outside) ?_ fun _ _ u ht=>ht ▸ ih
  cases call with
  | event spans => exact turn_onRunEvent
  | feedback => exact turn_outside asks_recordFeedback fun o ho=>⟨quiet_of_still ho,fun _=>ho⟩

/-- However the goroutines that report events and feedback and the one that drains the queue
interleave, the metric exporter has received no more than the counters say. -/
theorem loss_metrics_bounded (config : Config) (n : ℕ) (callers : List (List Call))
  (synchronous : Bool) {es : List (PoolEvent ObserverSig)} {u : ObserverState}
  {qs : List (ObserverProg Unit)}
  (hrun : PoolRun counters {} (programs config n callers synchronous) es u qs) (c : Counter) :
  u.received c ≤ u.count c := by
 have hzero:Owing 0 ({} : ObserverState) := fun c=>⟨rfl,le_rfl,le_rfl⟩
 obtain ⟨ph,hph,hseated⟩ : ∃ ph, Orderly synchronous ph {} ∧
   Seated counters (turns synchronous) ph {} (programs config n callers synchronous) := by
  cases synchronous with
  | true =>
   refine ⟨fun _=>.outside,⟨hzero.sound,nofun,nofun,fun _ _=>hzero⟩,?_⟩
   intro i p hp
   obtain ⟨rest,-,rfl⟩:=List.getElem?_map .. ▸ hp |> Option.map_eq_some_iff.mp
   exact ⟨{},fun _ _=>hzero,turn_calls⟩
  | false =>
   refine ⟨fun i=>if i = 0 then .exporting else .outside,
    ⟨hzero.sound,?_,nofun,nofun⟩,?_⟩
   · intro i j hi hj
     split_ifs at hi hj with hi0 hj0
     rw [hi0,hj0]
   · intro i p hp
     cases i with
     | zero =>
      cases hp
      exact ⟨{},⟨rfl,rfl,fun c=>Nat.le_refl _⟩,turn_mono (turn_exporting (wp_seq
       (wp_drainLoop (asks_op trivial) hzero) fun _ _ h=>wp_drainLoop (asks_op trivial) h))
       fun _ _ _ _=>trivial⟩
     | succ i =>
      rw [programs,List.getElem?_cons_succ,List.getElem?_map] at hp
      obtain ⟨rest,-,rfl⟩:=Option.map_eq_some_iff.mp hp
      exact ⟨{},nofun,turn_mono (turn_outside asks_calls fun o ho=>⟨ho,nofun⟩)
       fun _ _ _ _=>trivial⟩
 obtain ⟨ph',hend,-⟩:=Seated.run together hrun hseated hph
 have hsound:=hend.sound c
 omega

def failing : (o : ObserverOp) → ObserverState → Option (o.Reply × ObserverState)
 | .filter span, s => some (span, s)
 | .load c, s => some (s.count c, s)
 | .swap c value, s => some (s.reported c, s.next (.swap c value))
 | .isClosed, s => some (false, s)
 | .call d spans values, s => some (d matches .spans, s.next (.call d spans values))
 | .add c n, s => some ((), s.next (.add c n))
 | .lock m, s => if s.held m then none else some ((), s.next (.lock m))
 | .unlock m, s => some ((), s.next (.unlock m))
 | _, _ => none

lemma failing_step (h:failing o s=some (r,u)) : counters.step s o r u := by
 cases o with
 | keepsFeedback | send span | receive | poll => cases h
 | lock m =>
  simp only [failing] at h
  split at h
  · cases h
  · next hheld =>
     cases h
     exact ⟨Bool.eq_false_of_not_eq_true hheld,rfl⟩
 | _ =>
  cases h
  exact ⟨by simp [ObserverState.reads],rfl⟩

/-- Two goroutines export a span each, both exports of the spans fail, and both failures are
received. -/
theorem failures_received : ∃ es u qs,
  PoolRun counters {} (programs ⟨true, false, false, true, false, 0⟩ 0
   (List.replicate 2 [.event [⟨"span", true⟩]]) true) es u qs ∧
  u.received .failures = 2 ∧ u.received .failures ≤ u.count .failures := by
 have hrun:=schedule_run (h := fun _=>failing) (fun _ _ _ _ _=>failing_step)
  (List.replicate 14 0 ++ List.replicate 14 1) {} (programs ⟨true,false,false,true,false,0⟩ 0
   (List.replicate 2 [.event [⟨"span",true⟩]]) true)
 exact ⟨_,_,_,hrun,by decide,loss_metrics_bounded _ _ _ _ hrun _⟩

end Lebro.SpanExport
