import Lebro.ModelRouting

set_option autoImplicit false

/-! The values are buffered, so that a send may be refused once the reader is closed, and a later one
taken; the context may be cancelled at any time. -/
namespace Lebro.GeminiStreams

open EffectProgram RuntimeTypes RuntimeRecords AgentEffects ModelRouting List

structure FunctionCall where
 id : String
 name : ToolID
 /-- None for arguments without an encoding. -/
 args : Option RawMessage

structure Part where
 thought : Bool := false
 text : String := ""
 details : RawMessage := .empty
 call : Option FunctionCall := none

structure Candidate where
 finishReason : String := ""
 parts : List Part

structure Result where
 usage : Option ModelUsage := none
 candidates : List Candidate

/-- A response, or an error as `errorFn` maps it. -/
abbrev Item := Except Err (Option Result)

inductive StreamOp where
 | send (d : MeteredDelta)
 | cancelled

def StreamSig : Sig := ⟨StreamOp, fun _ => Bool⟩

abbrev StreamProg := Prog StreamSig

def perform (o : StreamOp) : StreamProg Bool := Prog.perform (S := StreamSig) o

/-- The variables that the callback of the sequence writes. -/
structure Progress where
 text : String := ""
 hasToolCalls : Bool := false
 finish : FinishReason := .stop
 usage : ModelUsage := {}
 accounted : Bool := false

/-- What the callback returns, and whether it has set `failed`. -/
inductive Step where
 | next (p : Progress)
 | stopped (p : Progress)
 | failed

def mapFinish (reason : String) : FinishReason :=
 if reason = "MAX_TOKENS" then .length
 else if reason ∈ ["SAFETY", "RECITATION", "BLOCKLIST", "PROHIBITED_CONTENT"] then .contentFilter
 else .stop

def sendIf (c : Bool) (d : MeteredDelta) (p : Progress) (next : StreamProg Step) :
  StreamProg Step :=
 if c then do
  let sent ← perform (.send d)
  if sent then next else return .stopped p
 else next

def fail (err : Err) : StreamProg Step := do
 let _ ← perform (.send { err := some err })
 return .failed

def reasoningDelta (part : Part) : MeteredDelta where
 parts := [⟨.reasoning, part.text, part.details⟩]
 reasoning := ⟨part.text, part.details⟩

def textDelta (text : String) : MeteredDelta where
 parts := [{ kind := .text, text }]
 text := text

def callDelta (call : ModelToolCall) : MeteredDelta := { toolCall := some call }

def onParts (malformed : Err) : List Part → Progress → StreamProg Step
 | [], p => return .next p
 | part :: parts, p =>
  if part.thought then sendIf true (reasoningDelta part) p (onParts malformed parts p)
  else
   let q := { p with text := p.text ++ part.text }
   sendIf (part.text ≠ "") (textDelta part.text) q (match part.call with
    | none => onParts malformed parts q
    | some call =>
     let q := { q with hasToolCalls := true }
     match call.args with
     | none => fail malformed
     | some args =>
      sendIf true (callDelta ⟨call.id, call.name, args⟩) q (onParts malformed parts q))

def onCandidates (malformed : Err) : List Candidate → Progress → StreamProg Step
 | [], p => do
  let cancelled ← perform .cancelled
  return if cancelled then .stopped p else .next p
 | candidate :: candidates, p => do
  let finish := if candidate.finishReason ≠ "" then mapFinish candidate.finishReason else p.finish
  let step ← onParts malformed candidate.parts { p with finish }
  match step with
  | .next q => onCandidates malformed candidates q
  | step => return step

def consume (malformed : Err) : List Item → Progress → StreamProg Step
 | [], p => return .next p
 | .error err :: _, _ => fail err
 | .ok none :: items, p => consume malformed items p
 | .ok (some result) :: items, p => do
  let usage := result.usage.getD p.usage
  let step ← onCandidates malformed result.candidates { p with usage, accounted := true }
  match step with
  | .next q => consume malformed items q
  | step => return step

/-- The last delta of a stream that has not failed; `decode` gives the value of a valid text. -/
def terminal (decode : Option (String → Option Json)) (malformed : Err) (p : Progress) :
  MeteredDelta :=
 let done : MeteredDelta :=
  { finishReason := if p.hasToolCalls then .toolCalls else p.finish
    usage := p.usage
    accounted := p.accounted }
 match decode with
 | none => done
 | some decode =>
  if p.hasToolCalls then done else
   match decode p.text with
   | none => { err := some malformed }
   | some value => { done with structuredOutput := .json value }

/-- The rest of `run`, once the sequence has ended or the callback has stopped it. -/
def conclude (decode : Option (String → Option Json)) (malformed : Err) : Step → StreamProg Unit
 | .failed => return ()
 | .next p | .stopped p => do
  let _ ← perform (.send (terminal decode malformed p))
  return ()

def run (decode : Option (String → Option Json)) (malformed : Err) (sequence : List Item) :
  StreamProg Unit := do
 let step ← consume malformed sequence {}
 conclude decode malformed step

/-- Text, tool calls and reasoning. -/
abbrev Content := String × List ModelToolCall × String

def join (a b : Content) : Content := (a.1 ++ b.1, a.2.1 ++ b.2.1, a.2.2 ++ b.2.2)

/-- The loop of `response` over the parts of a candidate. -/
def mapParts (malformed : Err) : List Part → Except Err Content
 | [] => .ok ("", [], "")
 | part :: parts =>
  if part.thought then (mapParts malformed parts).map (join ("", [], part.text))
  else
   match part.call with
   | none => (mapParts malformed parts).map (join (part.text, [], ""))
   | some call =>
    match call.args with
    | none => .error malformed
    | some args =>
     (mapParts malformed parts).map (join (part.text, [⟨call.id, call.name, args⟩], ""))

/-- The non-streaming mapping; `valid` is what `NewModelToolCalls` and `Validate` accept. -/
def response (valid : Content → Bool) (decode : Option (String → Option Json)) (malformed : Err)
  (result : Option Result) : Except Err Content :=
 match result.bind (·.candidates.head?) with
 | none => .error malformed
 | some candidate =>
  match mapParts malformed candidate.parts with
  | .error err => .error err
  | .ok content =>
   if content.2.1 = [] ∧ (decode.any fun decode => (decode content.1).isNone) then .error malformed
   else if valid content then .ok content
   else .error malformed

def streamed : List MeteredDelta → Content
 | [] => ("", [], "")
 | d :: ds => join (d.text, d.toolCall.toList, d.reasoning.text) (streamed ds)

def firstParts : Item → List Part
 | .ok (some result) => (result.candidates.head?.map Candidate.parts).getD []
 | _ => []

def laterParts : Item → List Part
 | .ok (some result) => result.candidates.tail.flatMap Candidate.parts
 | _ => []

/-- Whether a send is refused, at each operation, and from which one on the context is cancelled. -/
structure Surroundings where
 refused : ℕ → Bool := fun _ => false
 cancelledAt : Option ℕ := none

def Surroundings.cancelled (w : Surroundings) (n : ℕ) : Bool := w.cancelledAt.any (· ≤ n)

structure Seen where
 clock : ℕ := 0
 delivered : List MeteredDelta := []

def Surroundings.answer (w : Surroundings) : StreamOp → Seen → Bool × Seen
 | .send d, s => (!w.refused s.clock,
  ⟨s.clock + 1, if w.refused s.clock then s.delivered else s.delivered ++ [d]⟩)
 | .cancelled, s => (w.cancelled s.clock, ⟨s.clock + 1, s.delivered⟩)

variable {decode : Option (String → Option Json)} {malformed : Err} {w : Surroundings}

def delivered (w : Surroundings) (decode : Option (String → Option Json)) (malformed : Err)
  (sequence : List Item) : List MeteredDelta :=
 ((run decode malformed sequence).run (S := StreamSig) w.answer {}).2.delivered

/-- A successful terminal delta is delivered. -/
def Finishes (w : Surroundings) (decode : Option (String → Option Json)) (malformed : Err)
  (sequence : List Item) : Prop :=
 ∃ d ∈ delivered w decode malformed sequence, d.finishReason ≠ .unset

/-- The sequence was consumed to its end without an error, under a context that was not cancelled
until then, and the content is that of the first candidates; for a single response that `response`
accepts, it is the mapped one. -/
def Faithful (w : Surroundings) (decode : Option (String → Option Json)) (malformed : Err)
  (sequence : List Item) : Prop :=
 let consumed := (consume malformed sequence {}).run (S := StreamSig) w.answer {}
 (∃ p, consumed.1 = .next p) ∧ (∀ n < consumed.2.clock, w.cancelled n = false) ∧
  mapParts malformed (sequence.flatMap firstParts) = .ok
   (streamed (delivered w decode malformed sequence)) ∧
  ∀ valid result content, sequence = [.ok result] →
   response valid decode malformed result = .ok content →
   content = streamed (delivered w decode malformed sequence)

def Part.toolCall (part : Part) : Option ModelToolCall :=
 part.call.bind fun call => call.args.map (⟨call.id, call.name, ·⟩)

def Blank (part : Part) : Prop := part.text = "" ∧ (part.thought = true ∨ part.toolCall = none)

def picked (c : Bool) (d : MeteredDelta) : List MeteredDelta := if c then [d] else []

/-- The deltas for a part whose arguments have an encoding. -/
def partDeltas (part : Part) : List MeteredDelta :=
 if part.thought then [reasoningDelta part] else
  picked (part.text ≠ "") (textDelta part.text) ++ (part.toolCall.map callDelta).toList

/-- What the callback does with an item when nothing stops it. -/
def itemOps : Item → List StreamOp
 | .ok (some result) =>
  ((result.candidates.flatMap Candidate.parts).flatMap partDeltas).map .send ++ [.cancelled]
 | _ => []

def Surroundings.Lets (w : Surroundings) (n : ℕ) : StreamOp → Prop
 | .send _ => w.refused n = false
 | .cancelled => w.cancelled n = false

/-- No send is refused and no check finds the context cancelled, when the operations begin at the
given time. -/
def Undisturbed (w : Surroundings) : ℕ → List StreamOp → Prop
 | _, [] => True
 | n, o :: os => w.Lets n o ∧ Undisturbed w (n + 1) os

lemma undisturbed_append {n os ps} :
  Undisturbed w n (os++ps) ↔ Undisturbed w n os ∧ Undisturbed w (n+os.length) ps := by
 induction os generalizing n with
 | nil => simp [Undisturbed]
 | cons o os ih => simp [Undisturbed,ih,and_assoc,Nat.add_assoc,Nat.add_comm 1]

def Unfinished (ds : List MeteredDelta) : Prop := ∀ d ∈ ds, d.finishReason = .unset

def sends : List StreamOp → List MeteredDelta
 | [] => []
 | .send d :: os => d :: sends os
 | .cancelled :: os => sends os

lemma sends_append (os ps) : sends (os++ps)=sends os++sends ps := by
 induction os with
 | nil => rfl
 | cons o os ih => cases o <;> simp [sends,ih]

@[simp] lemma sends_map (ds) : sends (ds.map .send)=ds := by
 induction ds with
 | nil => rfl
 | cons d ds ih => exact congrArg (d :: ·) ih

/-- A step that goes on has done all of the operations, and one that is stopped was disturbed. -/
def Went (w : Surroundings) (s : Seen) (os : List StreamOp) : Step → Seen → Prop
 | .next _, u => Undisturbed w s.clock os ∧ u.clock = s.clock + os.length ∧
  u.delivered = s.delivered ++ sends os
 | .stopped _, _ => ¬ Undisturbed w s.clock os
 | .failed, _ => True

/-- `E` is what is known of the parts once a step goes on. -/
structure Sent (w : Surroundings) (s : Seen) (os : List StreamOp) (E : Prop) (step : Step)
  (u : Seen) : Prop where
 went : Went w s os step u
 unfinished : Unfinished s.delivered → Unfinished u.delivered
 known : ∀ p, step = .next p → E

variable {s u v : Seen} {p : Progress} {step : Step} {os ps : List StreamOp} {E F : Prop}

lemma Sent.trans (h:Sent w s os E (.next p) u) (h':Sent w u ps F step v) :
  Sent w s (os++ps) (E ∧ F) step v := by
 obtain ⟨⟨hcalm,hclock,hsent⟩,hkept,hE⟩:=h
 refine ⟨?_,fun hs=>h'.unfinished (hkept hs),fun q hq=>⟨hE p rfl,h'.known q hq⟩⟩
 have hwent:=h'.went
 cases step with
 | next q =>
  obtain ⟨hcalm',hclock',hsent'⟩:=hwent
  refine ⟨undisturbed_append.mpr ⟨hcalm,hclock ▸ hcalm'⟩,?_,?_⟩
  · rw [hclock',hclock,length_append,Nat.add_assoc]
  · rw [hsent',hsent,sends_append,append_assoc]
 | stopped q => exact fun hall=>hwent (hclock ▸ (undisturbed_append.mp hall).2)
 | failed => trivial

variable (os) in
lemma Sent.stop (h:Sent w s os E (.stopped p) u) : Sent w s (os++ps) F (.stopped p) u :=
 ⟨fun hall=>h.went (undisturbed_append.mp hall).1,h.unfinished,fun _ hp=>by cases hp⟩

lemma Sent.mono (h:Sent w s os E step u) (hEF:E → F) : Sent w s os F step u :=
 ⟨h.went,h.unfinished,fun p hp=>hEF (h.known p hp)⟩

lemma sent_next (hE:E) : Sent w s [] E (.next p) s :=
 ⟨⟨trivial,rfl,(append_nil _).symm⟩,id,fun _ _=>hE⟩

lemma sent_failed (h:Unfinished s.delivered → Unfinished u.delivered) :
  Sent w s os E .failed u := ⟨trivial,h,fun _ hp=>by cases hp⟩

abbrev world (w : Surroundings) : Monitor StreamSig Seen := .handles w.answer

lemma unfinished_send {d} (hd:d.finishReason = .unset) (hs:Unfinished s.delivered) :
  Unfinished (w.answer (.send d) s).2.delivered := by
 dsimp only [Surroundings.answer]
 split
 · exact hs
 · intro d' hd'
   rcases mem_append.mp hd' with hd' | hd'
   · exact hs d' hd'
   · rw [mem_singleton.mp hd',hd]

lemma wp_sendIf {c d next} (hd:d.finishReason = .unset)
  (h:∀ v : Seen,wp (world w) next (Sent w v os E) v) :
  wp (world w) (sendIf c d p next) (Sent w s ((picked c d).map .send++os) E) s := by
 cases c with
 | false => exact h s
 | true =>
  refine ⟨trivial,?_⟩
  rintro _ _ ⟨⟩
  have hkept:=unfinished_send (w := w) (s := s) hd
  dsimp only [Surroundings.answer] at hkept
  cases hrefused : w.refused s.clock with
  | true =>
   rw [hrefused] at hkept
   refine Sent.stop [.send d] (E := E) ⟨fun hcalm=>?_,hkept,fun _ hp=>by cases hp⟩
   exact absurd hcalm.1 (by simp [Surroundings.Lets,hrefused])
  | false =>
   rw [hrefused] at hkept
   refine wp_mono (h _) fun _ _ hv=>?_
   have hone:Sent w s [.send d] True (.next p) ⟨s.clock+1,s.delivered ++ [d]⟩:=
    ⟨⟨⟨hrefused,trivial⟩,rfl,rfl⟩,hkept,fun _ _=>trivial⟩
   exact (hone.trans hv).mono And.right

lemma wp_fail (err:Err) : wp (world w) (fail err) (Sent w s os E) s := by
 refine ⟨trivial,?_⟩
 rintro _ _ ⟨⟩
 exact sent_failed (unfinished_send rfl)

/-- The arguments of the calls have encodings. -/
def Encoded (parts : List Part) : Prop :=
 ∀ part ∈ parts, part.thought = false → ∀ call, part.call = some call → call.args.isSome

def partsOps (parts : List Part) : List StreamOp := (parts.flatMap partDeltas).map .send

lemma wp_onParts (parts) : wp (world w) (onParts malformed parts p)
  (Sent w s (partsOps parts) (Encoded parts)) s := by
 induction parts generalizing p s with
 | nil => exact sent_next nofun
 | cons part parts ih =>
  obtain ⟨thought,text,details,call⟩:=part
  have hrest {s : Seen} {p : Progress}
    (hpart : thought=false → ∀ x,call=some x → x.args.isSome) :
    wp (world w) (onParts malformed parts p)
     (Sent w s (partsOps parts) (Encoded (⟨thought,text,details,call⟩ :: parts))) s :=
   wp_mono ih fun _ _ hu=>hu.mono fun h=>forall_mem_cons.mpr ⟨hpart,h⟩
  rw [onParts,partsOps,flatMap_cons,map_append,partDeltas]
  cases thought with
  | true => exact wp_sendIf (c := true) rfl fun v=>hrest nofun
  | false =>
   simp only [Bool.false_eq_true,if_false,map_append,append_assoc]
   refine wp_sendIf rfl fun v=>?_
   cases call with
   | none => exact hrest nofun
   | some call =>
    obtain ⟨id,name,args⟩:=call
    cases args with
    | none => exact wp_fail malformed
    | some args =>
     refine wp_sendIf (c := true) rfl fun v=>hrest ?_
     rintro _ _ ⟨⟩
     rfl

def resultOps (candidates : List Candidate) : List StreamOp :=
 partsOps (candidates.flatMap Candidate.parts) ++ [.cancelled]

lemma wp_onCandidates (candidates) : wp (world w) (onCandidates malformed candidates p)
  (Sent w s (resultOps candidates) (Encoded (candidates.flatMap Candidate.parts))) s := by
 induction candidates generalizing p s with
 | nil =>
  refine ⟨trivial,?_⟩
  rintro _ _ ⟨⟩
  cases hcancelled : w.cancelled s.clock with
  | true =>
   refine ⟨fun hcalm=>?_,id,fun _ hp=>by cases hp⟩
   exact absurd hcalm.1 (by simp [Surroundings.Lets,hcancelled])
  | false => exact ⟨⟨⟨hcancelled,trivial⟩,rfl,(append_nil _).symm⟩,id,fun _ _=>nofun⟩
 | cons candidate candidates ih =>
  have hops:resultOps (candidate :: candidates)=partsOps candidate.parts++resultOps candidates:=by
   simp [resultOps,partsOps]
  rw [hops,flatMap_cons]
  refine wp_seq (wp_onParts candidate.parts) fun step u hu=>?_
  cases step with
  | next q => exact wp_mono ih fun _ _ hv=>(hu.trans hv).mono fun h=>forall_mem_append.mpr h
  | stopped q => exact hu.stop
  | failed => exact sent_failed hu.unfinished

def allParts : Item → List Part
 | .ok (some result) => result.candidates.flatMap Candidate.parts
 | _ => []

variable (malformed) in
lemma wp_consume (items) : wp (world w) (consume malformed items p)
  (Sent w s (items.flatMap itemOps) (Encoded (items.flatMap allParts))) s := by
 induction items generalizing p s with
 | nil => exact sent_next nofun
 | cons item items ih =>
  match item with
  | .error err => exact wp_fail err
  | .ok none => exact ih
  | .ok (some result) =>
   rw [flatMap_cons,flatMap_cons]
   refine wp_seq (wp_onCandidates result.candidates) fun step u hu=>?_
   cases step with
   | next q => exact wp_mono ih fun _ _ hv=>(hu.trans hv).mono fun h=>forall_mem_append.mpr h
   | stopped q => exact hu.stop
   | failed => exact sent_failed hu.unfinished

/-- What the parts hold, for arguments with encodings. -/
def content (parts : List Part) : Content := streamed (parts.flatMap partDeltas)

lemma join_empty (a:Content) : join ("",[],"") a=a := by simp [join]

lemma streamed_append (ds es) : streamed (ds++es)=join (streamed ds) (streamed es) := by
 induction ds with
 | nil => exact (join_empty _).symm
 | cons d ds ih => simp [streamed,ih,join,String.append_assoc]

lemma content_append (parts later) :
  content (parts++later)=join (content parts) (content later) := by
 rw [content,flatMap_append,streamed_append]
 rfl

lemma content_one (part:Part) : content [part]=if part.thought then ("",[],part.text) else
  (part.text,part.toolCall.toList,"") := by
 rw [content,flatMap_singleton,partDeltas]
 split
 · simp [streamed,join,reasoningDelta]
 · cases part.toolCall <;> by_cases htext : part.text="" <;>
    simp [streamed,join,picked,htext,textDelta,callDelta]

lemma mapParts_eq {parts} (h:Encoded parts) : mapParts malformed parts = .ok (content parts) := by
 induction parts with
 | nil => rfl
 | cons part parts ih =>
  obtain ⟨hpart,hrest⟩:=forall_mem_cons.mp h
  have hone:content (part :: parts)=join (content [part]) (content parts):=content_append [part] _
  rw [mapParts,ih hrest,hone,content_one]
  cases hthought : part.thought with
  | true => rfl
  | false =>
   simp only [Bool.false_eq_true,if_false]
   cases hcall : part.call with
   | none => simp [Part.toolCall,hcall,Except.map]
   | some call =>
    obtain ⟨args,hargs⟩:=Option.isSome_iff_exists.mp (hpart hthought call hcall)
    simp [Part.toolCall,hcall,hargs,Except.map]

/-- The content of a response that the non-streaming mapping accepts is that of its first
candidate. -/
lemma response_content {valid result c} (h:response valid decode malformed result = .ok c) :
  mapParts malformed (firstParts (.ok result)) = .ok c := by
 cases result with
 | none => cases h
 | some result =>
  unfold response at h
  cases hcandidates : result.candidates with
  | nil => simp [hcandidates] at h
  | cons candidate rest =>
   simp only [Option.bind_some,hcandidates,head?_cons] at h
   simp only [firstParts,hcandidates,head?_cons,Option.map_some,Option.getD_some]
   split at h
   · cases h
   · rename_i hmapped
     split at h
     · cases h
     · split at h
       · exact hmapped.trans h
       · cases h

def size (c : Content) : ℕ := c.1.length + c.2.1.length + c.2.2.length

lemma size_join (a b) : size (join a b)=size a+size b := by
 simp only [size,join,String.length_append,length_append]
 omega

lemma size_content_eq_zero {parts} : size (content parts)=0 ↔ ∀ part ∈ parts,Blank part := by
 induction parts with
 | nil => simp [content,streamed,size]
 | cons part parts ih =>
  have hone:content (part :: parts)=join (content [part]) (content parts):=content_append [part] _
  rw [hone,size_join,Nat.add_eq_zero_iff,ih,forall_mem_cons,content_one]
  refine and_congr_left' ?_
  unfold Blank
  cases part.thought <;> cases part.toolCall <;> simp [size]

lemma allParts_eq (item:Item) : allParts item=firstParts item++laterParts item := by
 match item with
 | .error err | .ok none => rfl
 | .ok (some result) => cases h : result.candidates <;> simp [allParts,firstParts,laterParts,h]

lemma content_all_eq {items:List Item} :
  content (items.flatMap allParts)=content (items.flatMap firstParts) ↔
   ∀ item ∈ items,∀ part ∈ laterParts item,Blank part := by
 have hsize:size (content (items.flatMap allParts))=size (content (items.flatMap firstParts)) +
   size (content (items.flatMap laterParts)) := by
  induction items with
  | nil => rfl
  | cons item items ih =>
   simp only [flatMap_cons,allParts_eq item,content_append,size_join,ih]
   omega
 constructor
 · intro h
   have hlater:size (content (items.flatMap laterParts))=0:=by
    rw [h] at hsize
    omega
   intro item hitem part hpart
   exact size_content_eq_zero.mp hlater part (mem_flatMap.mpr ⟨item,hitem,hpart⟩)
 · intro h
   clear hsize
   induction items with
   | nil => rfl
   | cons item items ih =>
    obtain ⟨hitem,hrest⟩:=forall_mem_cons.mp h
    have hblank:content (laterParts item)=("",[],""):=by
     have hzero:=size_content_eq_zero.mpr hitem
     simp only [size,Nat.add_eq_zero_iff,length_eq_zero_iff,String.length_eq_zero_iff] at hzero
     exact Prod.ext hzero.1.1 (Prod.ext hzero.1.2 hzero.2)
    simp only [flatMap_cons,allParts_eq item,content_append,ih hrest,hblank]
    simp [join]

lemma cancelled_mono {n m} (hnm:n ≤ m) (h:w.cancelled m=false) : w.cancelled n=false := by
 unfold Surroundings.cancelled at h ⊢
 cases hat : w.cancelledAt with
 | none => rfl
 | some k =>
  simp only [hat,Option.any_some,decide_eq_false_iff_not] at h ⊢
  omega

-- the last operation of each item is a check, and a context stays cancelled
lemma Undisturbed.alive {items:List Item} {n} (h:Undisturbed w n (items.flatMap itemOps)) {k}
  (hnk:n ≤ k) (hk:k < n+(items.flatMap itemOps).length) : w.cancelled k=false := by
 induction items generalizing n with
 | nil =>
  simp only [flatMap_nil,length_nil] at hk
  omega
 | cons item items ih =>
  match item with
  | .error err | .ok none => exact ih h hnk hk
  | .ok (some result) =>
   rw [flatMap_cons] at h hk
   obtain ⟨hitem,hrest⟩:=undisturbed_append.mp h
   rw [length_append] at hk
   by_cases hlater : n+(itemOps (.ok (some result))).length ≤ k
   · exact ih hrest hlater (by omega)
   · rw [itemOps,length_append,length_singleton] at hlater
     exact cancelled_mono (by omega) (undisturbed_append.mp hitem).2.1

lemma streamed_terminal : streamed [terminal decode malformed p]=("",[],"") := by
 obtain ⟨text,hasToolCalls,finish,usage,accounted⟩:=p
 cases decode with
 | none => rfl
 | some decode =>
  cases hasToolCalls with
  | true => rfl
  | false =>
   dsimp only [terminal]
   cases decode text <;> rfl

lemma sends_itemOps (items:List Item) :
  sends (items.flatMap itemOps)=(items.flatMap allParts).flatMap partDeltas := by
 induction items with
 | nil => rfl
 | cons item items ih =>
  rw [flatMap_cons,flatMap_cons,flatMap_append,sends_append,ih]
  match item with
  | .error err | .ok none => rfl
  | .ok (some result) => rw [itemOps,sends_append,sends_map,allParts]; simp [sends]

lemma delivered_eq (sequence) : delivered w decode malformed sequence =
  match (consume malformed sequence {}).run (S := StreamSig) w.answer {} with
  | (.failed,u) => u.delivered
  | (.next p,u) | (.stopped p,u) =>
   (w.answer (.send (terminal decode malformed p)) u).2.delivered := by
 have hrun:=Prog.run_bind (S := StreamSig) (h := w.answer) (consume malformed sequence {})
  (conclude decode malformed) {}
 refine (congrArg (fun x : Unit × Seen=>x.2.delivered) hrun).trans ?_
 obtain ⟨step,u⟩:=(consume malformed sequence {}).run (S := StreamSig) w.answer {}
 cases step <;> rfl

def said (texts : List String) : Item :=
 .ok (some { candidates := texts.map fun text => { parts := [{ text }] } })

end Lebro.GeminiStreams
