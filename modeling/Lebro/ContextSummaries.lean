import Lebro.ContextCompaction
import Lebro.EffectPool

set_option autoImplicit false

namespace Lebro.ContextSummaries

open EffectProgram EffectRuns EffectPool RuntimeTypes MessageTexts ContextCompaction List

variable {prior rest T:List MessageRecord} {first:MessageRecord} {m:Message}
 {covered stop:Nat} {id content:Text} {chain:List ContextSummary}
 {rewritten messages:List Message} {o:CompactionOp} {request:ModelRequest}
 {pending:List Text} {threadID:ThreadID}

lemma safeEnd_safe {n} (h:covered < safeEnd prior covered n) :
  safeCompactionBoundary (prior.take (safeEnd prior covered n))=true := by
 induction n with
 | zero => cases h
 | succ n ih =>
  unfold safeEnd at h ⊢
  split at h
  · next hunsafe =>
     rw [if_pos hunsafe]
     exact ih h
  · next hsafe =>
     rw [if_neg hsafe]
     have hcovered:decide (covered < n+1)=true:=decide_eq_true h
     rw [hcovered,Bool.true_and,Bool.not_eq_true',Bool.not_eq_false] at hsafe
     exact hsafe

lemma fitEnd_safe {c current prior} {covered stop}
  (hsafe:covered < stop → safeCompactionBoundary (prior.take stop)=true) :
  fitEnd c current prior covered stop ≤ stop ∧
   (covered < fitEnd c current prior covered stop →
    safeCompactionBoundary (prior.take (fitEnd c current prior covered stop))=true) := by
 fun_induction fitEnd c current prior covered stop with
 | case1 stop h ih =>
  obtain ⟨hle,hfit⟩:=ih safeEnd_safe
  have hstop:=safeEnd_le prior covered (stop - 1)
  exact ⟨by omega,hfit⟩
 | case2 stop h => exact ⟨Nat.le_refl stop,hsafe⟩

lemma plan_cut {c current force} (h:plan c current prior covered request force = .cut stop) :
  covered < stop ∧ stop ≤ prior.length ∧ safeCompactionBoundary (prior.take stop)=true := by
 unfold plan at h
 split at h
 · cases h
 split at h
 · cases h
 split at h
 · cases h
 dsimp only at h
 split at h
 · cases h
 split at h
 · cases h
 · next hfit =>
    cases h
    rw [Bool.not_eq_true,Bool.or_eq_false_iff] at hfit
    have hlt:=Nat.not_le.mp (of_decide_eq_false hfit.1)
    obtain ⟨hle,hsafe⟩:=fitEnd_safe safeEnd_safe
    have hstop:=safeEnd_le prior covered (prior.length - 2)
    exact ⟨hlt,by omega,hsafe hlt⟩

def texts (records : List MessageRecord) : List Message := records.map MessageRecord.message

lemma findIdx_first {before} (h:m ∉ before) {after} :
  (before++m :: after).findIdx? (fun x=>x=m)=some before.length := by
 induction before with
 | nil => rw [nil_append,List.findIdx?_cons,if_pos (decide_eq_true rfl),length_nil]
 | cons x before ih =>
  obtain ⟨hx,hbefore⟩:=not_or.mp (fun hm=>h (mem_cons.mpr hm))
  rw [cons_append,List.findIdx?_cons,if_neg (by simpa using Ne.symm hx),ih hbefore]
  rfl

lemma findIdx_absent (h:m ∉ messages) : messages.findIdx? (fun x=>x=m)=none := by
 rw [List.findIdx?_eq_none_iff]
 intro x hx
 apply decide_eq_false
 rintro rfl
 exact h hx

section

variable {leading trailing:List Message} {prior:List MessageRecord} {summary:Text}

lemma replacePriorHistory_whole (hfirst:first.message ∉ leading)
  (hprior:prior=first :: rest) (hstop:stop ≤ prior.length) :
  replacePriorHistory (leading++texts prior++trailing) prior stop summary =
   some (leading++summaryMessage summary :: texts (prior.drop stop)++trailing) := by
 have hindex:(leading++texts prior++trailing).findIdx? (fun x=>x=first.message) =
   some leading.length := by
  rw [hprior,append_assoc]
  exact findIdx_first hfirst
 have hlength:(texts prior).length=prior.length:=length_map ..
 have htake:((leading++texts prior++trailing).drop leading.length).take stop =
   (prior.take stop).map MessageRecord.message := by
  rw [append_assoc,drop_left,take_append_of_le_length (by omega)]
  exact (map_take ..).symm
 have hdrop:(leading++texts prior++trailing).drop (leading.length+stop) =
   texts (prior.drop stop)++trailing := by
  rw [append_assoc,← drop_drop,drop_left,drop_append_of_le_length (by omega)]
  exact congrArg (· ++ trailing) (map_drop ..).symm
 unfold replacePriorHistory
 rw [hprior] at hindex htake hdrop hlength hstop ⊢
 dsimp only
 rw [hindex]
 dsimp only
 rw [if_neg (by simp only [length_append]; omega),if_pos htake,hdrop]
 simp

lemma replacePriorHistory_absent (hprior:prior=first :: rest)
  (hfirst:first.message ∉ messages) :
  replacePriorHistory messages prior stop summary=none := by
 unfold replacePriorHistory
 rw [hprior]
 dsimp only
 rw [findIdx_absent hfirst]

lemma replaceCompactedHistory_summary {previous e} (hleading:summaryMessage previous ∉ leading)
  (hcovered:0 < covered) (he:e ≤ covered) (hlt:covered < stop) (hstop:stop ≤ prior.length)
  (h:replaceCompactedHistory (leading++summaryMessage previous :: texts (prior.drop e) ++
   trailing) prior covered stop previous summary=some rewritten) :
  rewritten=leading++summaryMessage summary ::
   texts (prior.drop (e+(stop - covered)))++trailing := by
 have hlength:(texts (prior.drop e)).length=prior.length - e:=by
  rw [texts,length_map,length_drop]
 have hdrop:(leading++summaryMessage previous :: texts (prior.drop e)++trailing).drop
   (leading.length+1+(stop - covered)) =
   texts (prior.drop (e+(stop - covered)))++trailing := by
  rw [append_assoc,cons_append,← drop_drop,← drop_drop,drop_left,
   drop_one,tail_cons,drop_append_of_le_length (by omega),texts,
   ← map_drop,drop_drop,texts]
 have htake:(leading++summaryMessage previous :: texts (prior.drop e)++trailing).take
   leading.length=leading := by
  rw [append_assoc,take_left]
 unfold replaceCompactedHistory at h
 rw [if_neg (by omega),append_assoc,cons_append,findIdx_first hleading] at h
 dsimp only at h
 split at h
 · cases h
 split at h
 · rw [← cons_append,← append_assoc,hdrop,htake] at h
   rw [← Option.some.inj h]
   simp
 · cases h

end

/-- What the store has published, and what summarizers were given and answered. -/
structure SummaryState where
 chain : List ContextSummary := []
 asked : List (ModelRequest × Text) := []

variable {u s v:SummaryState}

def headOf (chain : List ContextSummary) : ContextSummary :=
 match chain.getLast? with
 | none => {}
 | some x => { x with version := chain.length }

def publishOn (s : SummaryState) (next : ContextSummary) : SummaryState :=
 { s with chain := s.chain ++ [next] }

def summaryStep (s : SummaryState) : (o : CompactionOp) → o.Reply → SummaryState → Prop
 | .loadContextSummary _, r, u => u = s ∧ ∀ current, r = .ok current → current = headOf s.chain
 | .generate request, .ok response, u =>
  u = { s with asked := s.asked ++ [(request, response.content)] }
 | .compareAndSwapContextSummary next version, .ok true, u =>
  version = s.chain.length ∧ u = publishOn s next
 | .compareAndSwapContextSummary next version, .error _, u =>
  u = s ∨ version = s.chain.length ∧ u = publishOn s next
 | _, _, u => u = s

def summaryWorld : Monitor CompactionSig SummaryState where
 demand _ _ := True
 step := summaryStep

/-- A chain of summaries that covers the first `k` messages: each summary was made of the one
before it and the messages up to its own boundary, which closes every tool call. -/
inductive Chain (T : List MessageRecord) (asked : List (ModelRequest × Text)) :
  List ContextSummary → Nat → Prop where
 | none : Chain T asked [] 0
 | next {chain : List ContextSummary} {k stop : Nat} {x : ContextSummary} {r : MessageRecord}
   (c : ContextCompactor) (before : Chain T asked chain k) (hlt : k < stop)
   (hlast : T[stop - 1]? = some r) (hid : x.coveredThroughMessageID = r.id)
   (hsafe : safeCompactionBoundary (T.take stop) = true)
   (hasked : (summaryRequest c (headOf chain).content (chunk T k stop), x.content) ∈ asked) :
   Chain T asked (chain ++ [x]) stop

def Valid (T : List MessageRecord) (s : SummaryState) : Prop := ∃ k, Chain T s.asked s.chain k

structure Transcript (T : List MessageRecord) : Prop where
 ids : (T.map MessageRecord.id).Nodup
 named : ∀ r ∈ T, r.id ≠ ""
 plain : ∀ r ∈ T, ∀ s, r.message ≠ summaryMessage s

section

variable {T:List MessageRecord} {asked:List (ModelRequest × Text)}
 {chain:List ContextSummary} {k:Nat}

variable {asked':List (ModelRequest × Text)}

lemma Chain.mono (h:Chain T asked chain k) (hsub:asked ⊆ asked') : Chain T asked' chain k := by
 induction h with
 | none => exact .none
 | next c _ hlt hlast hid hsafe hasked ih => exact .next c ih hlt hlast hid hsafe (hsub hasked)

lemma Chain.part {part} (h:Chain T asked chain k) (hpart:part <+: chain) :
  ∃ j,j ≤ k ∧ Chain T asked part j := by
 induction h with
 | none =>
  rw [prefix_nil.mp hpart]
  exact ⟨0,Nat.le_refl 0,.none⟩
 | @next chain k stop x r c before hlt hlast hid hsafe hasked ih =>
  rcases prefix_concat_iff.mp hpart with rfl | hpart
  · exact ⟨stop,Nat.le_refl stop,.next c before hlt hlast hid hsafe hasked⟩
  · obtain ⟨j,hj,hchain⟩:=ih hpart
    exact ⟨j,by omega,hchain⟩

lemma id_injective (hT:Transcript T) {i j:Nat} {r s:MessageRecord} (hr:T[i]? = some r)
  (hs:T[j]? = some s) (h:r.id=s.id) : i=j := by
 obtain ⟨hi,rfl⟩:=List.getElem?_eq_some_iff.mp hr
 obtain ⟨hj,rfl⟩:=List.getElem?_eq_some_iff.mp hs
 have hinj:=nodup_iff_injective_getElem.mp hT.ids
 have heq:=@hinj ⟨i,by rwa [length_map]⟩ ⟨j,by rwa [length_map]⟩ (by simpa using h)
 exact congrArg Fin.val heq

lemma Chain.unique (hT:Transcript T) {j} (h:Chain T asked chain k)
  (h':Chain T asked' chain j) :
  k=j := by
 cases h with
 | none =>
  generalize hnil : ([] : List ContextSummary)=other at h'
  cases h' with
  | none => rfl
  | next => exact absurd hnil.symm (by simp)
 | @next chain k stop x r c before hlt hlast hid =>
  generalize hother : chain ++ [x]=other at h'
  cases h' with
  | none => exact absurd hother (by simp)
  | @next chain' k' stop' x' r' c' before' hlt' hlast' hid' =>
   cases append_inj_right' hother rfl
   have hindex:=id_injective hT hlast hlast' (hid.symm.trans hid')
   omega

lemma coveredBy_head (hT:Transcript T) (hprior:prior <+: T) (h:Chain T asked chain k)
  (hcovered:coveredBy (headOf chain) prior=some covered) :
  covered=k ∧ k ≤ prior.length := by
 cases h with
 | none =>
  cases hcovered
  exact ⟨rfl,Nat.zero_le _⟩
 | @next chain k stop x r c before hlt hlast hid =>
  have hhead:(headOf (chain ++ [x])).coveredThroughMessageID=r.id:=by
   unfold headOf
   rw [List.getLast?_concat]
   exact hid
  have hnamed:r.id ≠ "":=hT.named r (mem_of_getElem? hlast)
  unfold coveredBy at hcovered
  rw [hhead,if_neg hnamed] at hcovered
  obtain ⟨i,hi,rfl⟩:=Option.map_eq_some_iff.mp hcovered
  obtain ⟨hlt',hfound,-⟩:=List.findIdx?_eq_some_iff_getElem.mp hi
  have hfound:prior[i].id=r.id:=of_decide_eq_true hfound
  have hmem:T[i]? = some prior[i]:=by
   obtain ⟨rest,rfl⟩:=hprior
   rw [List.getElem?_append_left hlt',List.getElem?_eq_getElem hlt']
  have hindex:=id_injective hT hmem hlast hfound
  exact ⟨by omega,by omega⟩

end

def CallsAt (T : List MessageRecord) (i : Nat) (id : Text) : Prop :=
 ∃ r, T[i]? = some r ∧ id ∈ r.message.toolCalls.map ModelToolCall.id

def AnswersAt (T : List MessageRecord) (i : Nat) (id : Text) : Prop :=
 ∃ r, T[i]? = some r ∧ r.message.role = .tool ∧ r.message.toolCallID = id

def Separated (T : List MessageRecord) (k : Nat) : Prop :=
 ∃ id i j, i < k ∧ k ≤ j ∧ CallsAt T i id ∧ AnswersAt T j id ∧ ∀ l, i < l → l < j → ¬ CallsAt T l id

lemma mem_openAfter {r} (h:id ∈ pending++r.message.toolCalls.map ModelToolCall.id)
  (hanswer:r.message.role = .tool → r.message.toolCallID ≠ id) : id ∈ openAfter pending r := by
 unfold openAfter
 split
 · next htool => exact mem_filter.mpr ⟨h,decide_eq_true (hanswer htool).symm⟩
 · exact h

variable {records:List MessageRecord}

lemma mem_open (h:id ∈ pending) (hnone:∀ i,¬ AnswersAt records i id) :
  id ∈ records.foldl openAfter pending := by
 induction records generalizing pending with
 | nil => exact h
 | cons r records ih =>
  refine ih (mem_openAfter (mem_append_left _ h) ?_) ?_
  · intro htool hid
    exact hnone 0 ⟨r,rfl,htool,hid⟩
  · rintro i ⟨a,ha,hanswer⟩
    exact hnone (i+1) ⟨a,ha,hanswer⟩

lemma answered_of_safe {i} (h:CallsAt records i id)
  (hsafe:records.foldl openAfter pending=[]) :
  ∃ j,i ≤ j ∧ AnswersAt records j id := by
 induction records generalizing pending i with
 | nil =>
  obtain ⟨r,hr,-⟩:=h
  cases hr
 | cons r records ih =>
  cases i with
  | succ i =>
   obtain ⟨j,hj,hanswer⟩:=ih h hsafe
   exact ⟨j+1,by omega,hanswer⟩
  | zero =>
   obtain ⟨r',hr,hcall⟩:=h
   cases hr
   by_contra hnone
   have hopen:id ∈ openAfter pending r:=by
    apply mem_openAfter (mem_append_right _ hcall)
    intro htool hid
    exact hnone ⟨0,Nat.le_refl 0,r,rfl,htool,hid⟩
   have hlater:∀ i,¬ AnswersAt records i id:=by
    rintro i ⟨a,ha,hanswer⟩
    exact hnone ⟨i+1,Nat.zero_le _,a,ha,hanswer⟩
   have hmem:=mem_open hopen hlater
   rw [foldl_cons] at hsafe
   rw [hsafe] at hmem
   cases hmem

/-- A run over the thread: its request holds the messages that it loaded, in order. -/
structure CompactionRun where
 compactor : ContextCompactor
 prior : List MessageRecord
 leading : List Message
 trailing : List Message
 request : ModelRequest
 messages : request.messages = leading ++ texts prior ++ trailing

def CompactionRun.prog (threadID : ThreadID) (run : CompactionRun) :
  CompactionProg CompactionOutcome :=
 compact run.compactor threadID run.prior run.request

/-- The first message of the transcript is in no other place of a request, the rest of a request
has no summary messages, and a tool call has one result. -/
structure Unrepeated (T : List MessageRecord) (runs : List CompactionRun) : Prop where
 first : ∀ r rest, T = r :: rest → r.message ∉ texts rest ∧
  ∀ run ∈ runs, r.message ∉ run.leading ∧ r.message ∉ run.trailing
 plain : ∀ run ∈ runs, ∀ s, summaryMessage s ∉ run.leading ∧ summaryMessage s ∉ run.trailing
 results : ∀ id i j, i < j → AnswersAt T i id → AnswersAt T j id →
  ∃ l, i < l ∧ l < j ∧ CallsAt T l id

/-- The messages of a request in which each message of the run is present, in order, or covered by
the published summary that stands in their place. -/
def Whole (T : List MessageRecord) (s : SummaryState) (run : CompactionRun)
  (messages : List Message) : Prop :=
 messages = run.leading ++ texts run.prior ++ run.trailing ∨
  ∃ chain x k e, chain ++ [x] <+: s.chain ∧ Chain T s.asked (chain ++ [x]) k ∧
   k ≤ run.prior.length ∧ 0 < e ∧ e ≤ k ∧
   messages = run.leading ++ summaryMessage x.content :: texts (run.prior.drop e) ++ run.trailing

structure Extends (T : List MessageRecord) (s u : SummaryState) : Prop where
 chain : s.chain <+: u.chain
 asked : s.asked ⊆ u.asked
 valid : Valid T s → Valid T u

lemma Extends.refl (T s) : Extends T s s := ⟨prefix_refl _,List.Subset.refl _,id⟩
lemma Extends.trans {m} (h : Extends T s m) (h' : Extends T m u) : Extends T s u :=
 ⟨h.chain.trans h'.chain,List.Subset.trans h.asked h'.asked,fun hs=>h'.valid (h.valid hs)⟩

lemma Whole.mono {run} (h:Whole T s run messages) (hext:Extends T s u) :
  Whole T u run messages := by
 rcases h with h | ⟨chain,x,k,e,hpart,hchain,hk,hpos,he,h⟩
 · exact .inl h
 · exact .inr ⟨chain,x,k,e,hpart.trans hext.chain,hchain.mono hext.asked,hk,hpos,he,h⟩

section

variable {T:List MessageRecord} {runs:List CompactionRun} {run:CompactionRun}

abbrev among (T : List MessageRecord) : Monitor CompactionSig SummaryState :=
 relying summaryWorld (Extends T) fun s _ _ u => Valid T s → Valid T u

def RoundKept (T : List MessageRecord) (run : CompactionRun) : CompactionRound → SummaryState → Prop
 | .inl state, u => Valid T u ∧ Whole T u run state.1.messages
 | .inr out, u => Valid T u ∧ (out.2 = none → Whole T u run out.1.messages)

lemma wp_quiet {α:Type} {f:o.Reply → CompactionProg α} {Q}
  (hquiet:∀ m r u,summaryStep m o r u → u=m)
  (h:∀ r m,Extends T v m → wp (among T) (f r) Q m) :
  wp (among T) (compactionOp o >>= f) Q v := by
 refine ⟨?_,?_⟩
 · intro m r u _ hstep hm
   rw [hquiet m r u hstep]
   exact hm
 · rintro r u ⟨m,hm,hstep⟩
   rw [hquiet m r u hstep]
   exact h r m hm

lemma wp_emit {α:Type} {event:CompactionEvent} {f:Unit → CompactionProg α} {Q}
  (h:∀ m,Extends T v m → wp (among T) (f ()) Q m) :
  wp (among T) (compactionOp (.emit event) >>= f) Q v :=
 wp_quiet (fun _ _ _ hstep=>hstep) fun _ m hm=>h m hm

lemma unlessFits_whole {c} (hwhole:Whole T v run request.messages) {err} :
  Whole T v run (unlessFits c request err).1.messages := by
 unfold unlessFits
 split
 · exact hwhole
 · exact hwhole

lemma generate_extends {x r} (h:summaryStep x (.generate request) r u) :
  Extends T x u ∧ ∀ response,r = .ok response → (request,response.content) ∈ u.asked := by
 cases r with
 | error e =>
  cases h
  exact ⟨.refl T _,nofun⟩
 | ok response =>
  cases h
  refine ⟨⟨prefix_refl _,subset_append_left _ _,?_⟩,?_⟩
  · rintro ⟨k,hk⟩
    exact ⟨k,hk.mono (subset_append_left _ _)⟩
  · rintro _ ⟨⟩
    exact mem_append_right _ mem_cons_self

lemma wp_reportFailure (hv:Valid T v) (hwhole:Whole T v run request.messages) (err) :
  wp (among T) (reportFailure run.compactor request err) (RoundKept T run) v := by
 exact wp_emit fun m hm=>⟨hm.valid hv,fun _=>unlessFits_whole (hwhole.mono hm)⟩

lemma wp_published (hv:Valid T v) (hwhole:Whole T v run request.messages) :
  wp (among T) (published run.compactor run.prior stop request) (RoundKept T run) v := by
 refine wp_emit fun m hm=>?_
 split
 · exact ⟨hm.valid hv,hwhole.mono hm⟩
 · exact ⟨hm.valid hv,fun _=>unlessFits_whole (hwhole.mono hm)⟩

section

variable (hT:Transcript T) (hU:Unrepeated T runs) (hrun:run ∈ runs)
 (hprior:run.prior <+: T)

include hT hprior in
lemma summaryMessage_not_mem_prior (e x) : summaryMessage x ∉ texts (run.prior.drop e) := by
 intro hmem
 obtain ⟨r,hr,hmessage⟩:=mem_map.mp hmem
 exact hT.plain r (hprior.subset (mem_of_mem_drop hr)) x hmessage

include hT hU hrun hprior in
lemma first_not_mem (hfirst:run.prior=first :: rest) {e} (he:0 < e) {x} :
  first.message ∉
   run.leading++summaryMessage x :: texts (run.prior.drop e)++run.trailing := by
 obtain ⟨more,hmore⟩:=hprior
 have hT':T=first :: (rest++more):=by rw [← hmore,hfirst,cons_append]
 obtain ⟨hrest,hothers⟩:=hU.first first (rest++more) hT'
 obtain ⟨hleading,htrailing⟩:=hothers run hrun
 intro hmem
 rcases mem_append.mp hmem with hmem | hmem
 · rcases mem_append.mp hmem with hmem | hmem
   · exact hleading hmem
   · rcases mem_cons.mp hmem with hmem | hmem
     · refine hT.plain first ?_ x hmem
       rw [hT']
       exact mem_cons_self
     · apply hrest
       obtain ⟨r,hr,hmessage⟩:=mem_map.mp hmem
       rw [hfirst,drop_cons he] at hr
       rw [← hmessage]
       exact mem_map_of_mem (mem_append_left more (mem_of_mem_drop hr))
 · exact htrailing hmem

include hT hU hrun hprior in
lemma replacePriorHistory_kept {summary} (hwhole:Whole T s run messages)
  (hstop:stop ≤ run.prior.length)
  (h:replacePriorHistory messages run.prior stop summary=some rewritten) :
  rewritten =
   run.leading++summaryMessage summary :: texts (run.prior.drop stop)++run.trailing := by
 cases hfirst : run.prior with
 | nil =>
  rw [hfirst] at h
  cases h
 | cons first rest =>
  rw [← hfirst]
  rcases hwhole with rfl | ⟨chain,x,k,e,-,-,-,he,-,rfl⟩
  · have hnot:first.message ∉ run.leading:=by
     obtain ⟨more,hmore⟩:=hprior
     rw [hfirst,cons_append] at hmore
     exact ((hU.first first _ hmore.symm).2 run hrun).1
    rw [replacePriorHistory_whole hnot hfirst hstop] at h
    exact (Option.some.inj h).symm
  · rw [replacePriorHistory_absent hfirst
     (first_not_mem hT hU hrun hprior hfirst he)] at h
    cases h

include hT hU hrun hprior in
lemma contained_kept {x} (hwhole:Whole T s run messages)
  (h:containsSummaryMessage messages x=true) :
  ∃ chain y k e,chain ++ [y] <+: s.chain ∧ Chain T s.asked (chain ++ [y]) k ∧ 0 < e ∧ e ≤ k ∧
   messages=run.leading++summaryMessage x :: texts (run.prior.drop e)++run.trailing := by
 obtain ⟨m,hm,heq⟩:=any_eq_true.mp h
 obtain rfl := of_decide_eq_true heq
 obtain ⟨hleading,htrailing⟩:=hU.plain run hrun x
 have hplain:=summaryMessage_not_mem_prior hT hprior
 rcases hwhole with rfl | ⟨chain,y,k,e,hpart,hchain,-,hpos,he,rfl⟩
 · have hnot:=hplain 0 x
   rw [drop_zero] at hnot
   simp only [mem_append,hleading,htrailing,hnot,or_self] at hm
 · refine ⟨chain,y,k,e,hpart,hchain,hpos,he,?_⟩
   simp only [mem_append,mem_cons,hleading,htrailing,hplain e x,or_false,false_or] at hm
   rw [hm]

def Replaced (run : CompactionRun) (chain : List ContextSummary) (covered : Nat)
  (messages : List Message) : Prop :=
 0 < covered → ∃ e, 0 < e ∧ e ≤ covered ∧ messages =
  run.leading ++ summaryMessage (headOf chain).content :: texts (run.prior.drop e) ++ run.trailing

lemma Replaced.whole (h:Replaced run s.chain covered messages) (hpos:0 < covered)
  (hchain:Chain T s.asked s.chain covered) (hle:covered ≤ run.prior.length) :
  Whole T s run messages := by
 obtain ⟨e,he,hcovered,rfl⟩:=h hpos
 generalize hc : s.chain=chain at hchain ⊢
 cases hchain with
 | none => cases hpos
 | @next chain k stop x r c before hlt hlast hid hsafe hasked =>
  refine .inr ⟨chain,x,covered,e,?_,.next c before hlt hlast hid hsafe hasked,hle,he,
   hcovered,?_⟩
  · rw [hc]
  · unfold headOf
    rw [List.getLast?_concat]

include hT hU hrun hprior in
lemma adopted {request'} (hwhole:Whole T s run request.messages)
  (hchain:Chain T s.asked s.chain covered) (hle:covered ≤ run.prior.length)
  (h:adoptSummary request run.prior covered (headOf s.chain)=some request') :
  Whole T s run request'.messages ∧ Replaced run s.chain covered request'.messages := by
 suffices hsuff : Replaced run s.chain covered request'.messages ∧
   (covered=0 → request'=request) by
  refine ⟨?_,hsuff.1⟩
  rcases Nat.eq_zero_or_pos covered with h0 | hpos
  · rw [hsuff.2 h0]
    exact hwhole
  · exact hsuff.1.whole hpos hchain hle
 unfold adoptSummary at h
 split at h
 · next habsent =>
    obtain ⟨hpos,-⟩:=Bool.and_eq_true_iff.mp habsent
    have hpos:=of_decide_eq_true hpos
    obtain ⟨messages,hmessages,rfl⟩:=Option.map_eq_some_iff.mp h
    refine ⟨fun _=>⟨covered,hpos,Nat.le_refl _,?_⟩,fun h0=>by omega⟩
    exact replacePriorHistory_kept hT hU hrun hprior hwhole hle hmessages
 · next hpresent =>
    cases h
    refine ⟨fun hpos=>?_,fun _=>rfl⟩
    have hcontains:containsSummaryMessage request.messages (headOf s.chain).content=true:=by
     rw [decide_eq_true hpos,Bool.true_and,Bool.not_eq_true',Bool.not_eq_false] at hpresent
     exact hpresent
    obtain ⟨chain,y,k,e,hpart,hpartly,he,hek,hmessages⟩ :=
     contained_kept hT hU hrun hprior hwhole hcontains
    obtain ⟨j,hj,hchain'⟩:=hchain.part hpart
    have hk:=hpartly.unique hT hchain'
    exact ⟨e,he,by omega,hmessages⟩

include hT hU hrun hprior in
lemma replaceCompactedHistory_kept {summary} (hwhole:Whole T s run messages)
  (hreplaced:Replaced run chain covered messages) (hlt:covered < stop)
  (hstop:stop ≤ run.prior.length)
  (h:replaceCompactedHistory messages run.prior covered stop
   (headOf chain).content summary=some rewritten) :
  ∃ e,0 < e ∧ e ≤ stop ∧ rewritten =
   run.leading++summaryMessage summary :: texts (run.prior.drop e)++run.trailing := by
 rcases Nat.eq_zero_or_pos covered with rfl | hpos
 · exact ⟨stop,by omega,Nat.le_refl _,replacePriorHistory_kept hT hU hrun hprior hwhole hstop h⟩
 · obtain ⟨e,he,hle,rfl⟩:=hreplaced hpos
   refine ⟨e+(stop - covered),by omega,by omega,?_⟩
   exact replaceCompactedHistory_summary (hU.plain run hrun _).1 hpos hle hlt hstop h

lemma headOf_version (chain) : (headOf chain).version=(chain.length : Int) := by
 unfold headOf
 cases hlast : chain.getLast? with
 | none =>
  rw [List.getLast?_eq_none_iff.mp hlast]
  rfl
 | some x => rfl

structure Loaded (T : List MessageRecord) (v : SummaryState) (chain : List ContextSummary)
  (covered : Nat) : Prop where
 part : chain <+: v.chain
 covers : Chain T v.asked chain covered

lemma Loaded.mono {m} (h:Loaded T v chain covered) (hm:Extends T v m) :
  Loaded T m chain covered :=
 ⟨h.part.trans hm.chain,h.covers.mono hm.asked⟩

lemma Loaded.current (h:Loaded T v chain covered)
  (hversion:(headOf chain).version=(v.chain.length : Int)) : v.chain=chain := by
 rw [headOf_version] at hversion
 exact (h.part.eq_of_length (by omega)).symm

include hprior in
lemma chain_publish {next} (h:Loaded T v chain covered) (hlt:covered < stop)
  (hstop:stop ≤ run.prior.length) (hsafe:safeCompactionBoundary (run.prior.take stop)=true)
  (hasked:(summaryRequest run.compactor (headOf chain).content (chunk run.prior covered stop),
   next.content) ∈ v.asked)
  (hid:next.coveredThroughMessageID =
   ((run.prior.drop (stop - 1)).head?.map MessageRecord.id).getD "") :
  Chain T v.asked (chain ++ [next]) stop := by
 obtain ⟨more,rfl⟩:=hprior
 have htake:(run.prior++more).take stop=run.prior.take stop:=take_append_of_le_length hstop
 have hbound:stop - 1 < run.prior.length:=by omega
 have hlast:run.prior[stop - 1]? = some run.prior[stop - 1]:=List.getElem?_eq_getElem hbound
 refine .next run.compactor h.covers hlt ?_ ?_ ?_ ?_ (r := run.prior[stop - 1])
 · rw [List.getElem?_append_left hbound,hlast]
 · rw [hid,List.head?_drop,hlast]
   rfl
 · rw [htake]
   exact hsafe
 · unfold chunk at hasked ⊢
   rw [htake]
   exact hasked

include hT hU hrun hprior in
lemma wp_publish {started} (hv:Valid T v) (hwhole:Whole T v run request.messages)
  (hreplaced:Replaced run chain covered request.messages) (hloaded:Loaded T v chain covered)
  (hlt:covered < stop) (hstop:stop ≤ run.prior.length)
  (hsafe:safeCompactionBoundary (run.prior.take stop)=true)
  (hasked:(summaryRequest run.compactor (headOf chain).content (chunk run.prior covered stop),
   content) ∈ v.asked) :
  wp (among T) (publish run.compactor threadID (headOf chain) run.prior covered stop request
   started content) (RoundKept T run) v := by
 unfold publish
 split
 · exact ⟨hv,nofun⟩
 · next rewritten hrewritten =>
    -- the swap publishes on the loaded chain, or changes nothing
    generalize hnext : ({
     threadID, content, policyVersion := run.compactor.policyVersion,
     model := run.compactor.summarizerModel,
     coveredThroughMessageID := ((run.prior.drop (stop - 1)).head?.map MessageRecord.id).getD "",
     createdAt := started } : ContextSummary)=next
    have hcontent:next.content=content:=by rw [← hnext]
    have hchain:∀ m,Extends T v m → Chain T m.asked (chain ++ [next]) stop:=by
     intro m hm
     refine chain_publish hprior (hloaded.mono hm) hlt hstop hsafe ?_ ?_
     · rw [hcontent]
       exact hm.asked hasked
     · rw [← hnext]
    have hswap:∀ m r u,Extends T v m →
      summaryStep m (.compareAndSwapContextSummary next (headOf chain).version) r u →
      u=m ∨ m.chain=chain ∧ u=publishOn m next := by
     intro m r u hm hstep
     rcases r with e | swapped
     · rcases hstep with rfl | ⟨hversion,rfl⟩
       · exact .inl rfl
       · exact .inr ⟨(hloaded.mono hm).current hversion,rfl⟩
     · cases swapped with
       | false => exact .inl hstep
       | true => exact .inr ⟨(hloaded.mono hm).current hstep.1,hstep.2⟩
    have hvalid:∀ m u,Extends T v m → m.chain=chain → u=publishOn m next →
      Extends T m u ∧ Valid T u := by
     rintro m u hm hc rfl
     have hu:Valid T (publishOn m next):=by
      refine ⟨stop,?_⟩
      rw [publishOn,hc]
      exact hchain m hm
     exact ⟨⟨prefix_append _ _,List.Subset.refl _,fun _=>hu⟩,hu⟩
    refine ⟨?_,?_⟩
    · intro m r u hm hstep hvm
      rcases hswap m r u hm hstep with rfl | ⟨hc,hu⟩
      · exact hvm
      · exact (hvalid m u hm hc hu).2
    · rintro r u ⟨m,hm,hstep⟩
      have hmu:Extends T v u:=by
       rcases hswap m r u hm hstep with rfl | ⟨hc,hu⟩
       · exact hm
       · exact hm.trans (hvalid m u hm hc hu).1
      rcases r with e | swapped
      · exact wp_reportFailure (hmu.valid hv) (hwhole.mono hmu) _
      · cases swapped with
        | false => exact wp_reportFailure (hmu.valid hv) (hwhole.mono hmu) _
        | true =>
         obtain ⟨hversion,rfl⟩:=hstep
         have hc:=(hloaded.mono hm).current hversion
         obtain ⟨e,hpos,he,hkept⟩:=replaceCompactedHistory_kept hT hU hrun hprior hwhole
          hreplaced hlt hstop hrewritten
         refine wp_published (hmu.valid hv) (.inr ⟨chain,next,stop,e,?_,?_,hstop,hpos,he,
          ?_⟩)
         · rw [publishOn,hc]
         · exact hchain m hm
         · rw [hcontent]
           exact hkept

lemma summaryOf_ok {response} (h:summaryOf response = .ok content) :
  ∃ r,response = .ok r ∧ r.content=content := by
 cases response with
 | error e => cases h
 | ok r =>
  unfold summaryOf at h
  dsimp only at h
  split at h
  · cases h
  · cases h
    exact ⟨r,rfl,rfl⟩

include hT hU hrun hprior in
lemma wp_summarize (hv:Valid T v) (hwhole:Whole T v run request.messages)
  (hreplaced:Replaced run chain covered request.messages) (hloaded:Loaded T v chain covered)
  (hlt:covered < stop) (hstop:stop ≤ run.prior.length)
  (hsafe:safeCompactionBoundary (run.prior.take stop)=true) :
  wp (among T) (summarize run.compactor threadID (headOf chain) run.prior covered stop request)
   (RoundKept T run) v := by
 refine wp_quiet (fun _ _ _ hstep=>hstep) fun started m hm=>?_
 refine wp_emit fun m' hm'=>?_
 have hext:=hm.trans hm'
 refine ⟨?_,?_⟩
 · intro x r u hx hstep hvx
   exact (generate_extends hstep).1.valid hvx
 · rintro r u ⟨x,hx,hstep⟩
   obtain ⟨hmore,hanswer⟩:=generate_extends hstep
   have hall:=(hext.trans hx).trans hmore
   dsimp only [Prog.bind]
   split
   · exact wp_reportFailure (hall.valid hv) (hwhole.mono hall) _
   · next content hcontent =>
      obtain ⟨response,rfl,rfl⟩:=summaryOf_ok hcontent
      exact wp_publish hT hU hrun hprior (hall.valid hv) (hwhole.mono hall) hreplaced
       (hloaded.mono hall) hlt hstop hsafe (hanswer response rfl)

include hT hU hrun hprior in
lemma wp_followPlan {force p} (hv:Valid T v) (hwhole:Whole T v run request.messages)
  (hreplaced:Replaced run chain covered request.messages) (hloaded:Loaded T v chain covered)
  (h:plan run.compactor (headOf chain) run.prior covered request force=p) :
  wp (among T) (followPlan run.compactor threadID (headOf chain) run.prior covered request p)
   (RoundKept T run) v := by
 cases p with
 | keep => exact ⟨hv,fun _=>hwhole⟩
 | settle err => exact ⟨hv,fun _=>unlessFits_whole hwhole⟩
 | report err => exact wp_reportFailure hv hwhole err
 | cut stop =>
  obtain ⟨hlt,hstop,hsafe⟩:=plan_cut h
  exact wp_summarize hT hU hrun hprior hv hwhole hreplaced hloaded hlt hstop hsafe

lemma boundOutput_messages (c request) : (boundOutput c request).messages=request.messages := by
 unfold boundOutput
 split
 · rfl
 · rfl

include hT hU hrun hprior in
lemma wp_compactRound {state} (hv:Valid T v) (hwhole:Whole T v run state.1.messages) :
  wp (among T) (compactRound run.compactor threadID run.prior state) (RoundKept T run) v := by
 unfold compactRound
 split
 · exact wp_emit fun m hm=>⟨hm.valid hv,fun _=>hwhole.mono hm⟩
 refine wp_seq (R := fun loaded m=>Extends T v m ∧
  ∀ current,loaded = .ok current → current=headOf m.chain) ?_ ?_
 · refine ⟨?_,?_⟩
   · rintro m r u hm ⟨rfl,-⟩ hvm
     exact hvm
   · rintro r u ⟨m,hm,rfl,hhead⟩
     exact ⟨hm,hhead⟩
 · rintro loaded m ⟨hm,hhead⟩
   have hvm:=hm.valid hv
   split
   · exact ⟨hvm,nofun⟩
   · next current =>
      obtain rfl := hhead current rfl
      split
      · exact ⟨hvm,nofun⟩
      · next covered hcovered =>
         obtain ⟨k,hk⟩:=hvm
         obtain ⟨rfl,hle⟩:=coveredBy_head hT hprior hk hcovered
         split
         · exact ⟨⟨covered,hk⟩,nofun⟩
         · next request hrequest =>
            have hbound:Whole T m run (boundOutput run.compactor state.1).messages:=by
             rw [boundOutput_messages]
             exact hwhole.mono hm
            obtain ⟨hadopted,hreplaced⟩:=adopted hT hU hrun hprior hbound hk hle hrequest
            exact wp_followPlan hT hU hrun hprior ⟨covered,hk⟩ hadopted hreplaced
             ⟨prefix_refl _,hk⟩ rfl

def Kept (T : List MessageRecord) (run : CompactionRun) (out : CompactionOutcome)
  (u : SummaryState) : Prop :=
 out.2 = none → Whole T u run out.1.messages

include hT hU hrun hprior in
lemma wp_compact (threadID) (hv:Valid T v) : wp (among T) (run.prog threadID) (Kept T run) v := by
 have hstart:∀ s,Whole T s run run.request.messages:=fun s=>.inl run.messages
 unfold CompactionRun.prog compact
 split
 · exact fun _=>hstart v
 refine wp_rounds (fun state u=>Valid T u ∧ Whole T u run state.1.messages) ?_ ?_ _ _ _
  ⟨hv,hstart v⟩
 · rintro state u ⟨hu,hwhole⟩
   apply wp_mono (wp_compactRound hT hU hrun hprior hu hwhole)
   rintro (next | out) m hm
   · exact hm
   · exact hm.2
 · rintro state u -
   exact ⟨fun _ r=>r.elim,fun r=>r.elim⟩

end

end

/-- A chain was made of chunks of the transcript, each given to a summarizer with the summary
before it. -/
def Summarized (asked : List (ModelRequest × Text)) (chain : List ContextSummary)
  (chunks : List (List MessageRecord)) : Prop :=
 chunks.length = chain.length ∧ ∀ i x records, chain[i]? = some x → chunks[i]? = some records →
  ∃ c, (summaryRequest c (headOf (chain.take i)).content records, x.content) ∈ asked

lemma Chain.summarized {asked k} (h:Chain T asked chain k) :
  ∃ chunks,Summarized asked chain chunks ∧ chunks.flatten=T.take k := by
 induction h with
 | none => exact ⟨[],⟨rfl,nofun⟩,rfl⟩
 | @next chain k stop x r c before hlt hlast hid hsafe hasked ih =>
  obtain ⟨chunks,⟨hlength,hmade⟩,hflatten⟩:=ih
  refine ⟨chunks ++ [chunk T k stop],⟨?_,?_⟩,?_⟩
  · rw [length_append,length_append,hlength,length_singleton,length_singleton]
  · intro i y records hy hrecords
    by_cases hi : i < chain.length
    · rw [List.getElem?_append_left hi] at hy
      rw [List.getElem?_append_left (by omega)] at hrecords
      rw [take_append_of_le_length (by omega)]
      exact hmade i y records hy hrecords
    · have hi':i=chain.length:=by
       have hbound:=(List.getElem?_eq_some_iff.mp hy).1
       rw [length_append,length_singleton] at hbound
       omega
      subst hi'
      rw [List.getElem?_concat_length] at hy
      rw [← hlength,List.getElem?_concat_length] at hrecords
      cases hy
      cases hrecords
      rw [take_left]
      exact ⟨c,hasked⟩
  · rw [flatten_append,hflatten,flatten_singleton]
    unfold chunk
    have htake:T.take k=(T.take stop).take k:=by
     rw [take_take,Nat.min_eq_left (Nat.le_of_lt hlt)]
    rw [htake,take_append_drop]

lemma Chain.not_separated {asked k runs} (h:Chain T asked chain k) (hU:Unrepeated T runs) :
  ¬ Separated T k := by
 rintro ⟨id,i,j,hi,hj,hcall,hanswer,hbetween⟩
 cases h with
 | none => omega
 | next c before hlt hlast hid hsafe hasked =>
  have hsafe:(T.take k).foldl openAfter []=[]:=isEmpty_iff.mp hsafe
  have hbefore:CallsAt (T.take k) i id:=by
   obtain ⟨r,hr,hmem⟩:=hcall
   exact ⟨r,by rw [List.getElem?_take_of_lt hi]; exact hr,hmem⟩
  obtain ⟨j',hij,r,hr,hresult⟩:=answered_of_safe hbefore hsafe
  have hj':j' < k:=by
   have hbound:=(List.getElem?_eq_some_iff.mp hr).1
   rw [length_take] at hbound
   omega
  rw [List.getElem?_take_of_lt hj'] at hr
  obtain ⟨l,hl,hlj,hagain⟩:=hU.results id j' j (by omega) ⟨r,hr,hresult⟩ hanswer
  exact hbetween l (by omega) hlj hagain

lemma step_extends {r} (hstep:summaryStep s o r u) (h:Valid T s → Valid T u) :
  Extends T s u := by
 have hgrows:s.chain <+: u.chain ∧ s.asked ⊆ u.asked:=by
  unfold summaryStep at hstep
  split at hstep
  · rw [hstep.1]
    exact ⟨prefix_refl _,List.Subset.refl _⟩
  · rw [hstep]
    exact ⟨prefix_refl _,subset_append_left _ _⟩
  · rw [hstep.2]
    exact ⟨prefix_append _ _,List.Subset.refl _⟩
  · rcases hstep with rfl | ⟨-,rfl⟩
    · exact ⟨prefix_refl _,List.Subset.refl _⟩
    · exact ⟨prefix_append _ _,List.Subset.refl _⟩
  · rw [hstep]
    exact ⟨prefix_refl _,List.Subset.refl _⟩
 exact ⟨hgrows.1,hgrows.2,h⟩

def Matched (run : CompactionRun) (next : ContextSummary) (goesOn : CompactionProg CompactionRound) :
  Prop :=
 ∃ (request : ModelRequest) (covered stop : Nat) (previous : Text) (messages : List Message),
  covered < stop ∧
  (run.prior[stop - 1]?).map MessageRecord.id = some next.coveredThroughMessageID ∧
  replaceCompactedHistory request.messages run.prior covered stop previous next.content =
   some messages ∧
  goesOn = published run.compactor run.prior stop
   { request with messages, maxOutputTokens := run.compactor.budget.outputReserveTokens }

def MatchedRound (run : CompactionRun) (p : CompactionProg CompactionRound) : Prop :=
 ∀ next version k, p = .ask (.compareAndSwapContextSummary next version) k →
  Matched run next (k (.ok true))

def MatchedRun (run : CompactionRun) (p : CompactionProg CompactionOutcome) : Prop :=
 ∀ next version k, p = .ask (.compareAndSwapContextSummary next version) k →
  ∃ goesOn rest, k (.ok true) = goesOn >>= rest ∧ Matched run next goesOn

section

variable {run:CompactionRun}

lemma always_reportFailure {request err} :
  Always (MatchedRound run) (reportFailure run.compactor request err) :=
 ⟨nofun,fun _=>nofun⟩

lemma always_published {stop request} :
  Always (MatchedRound run) (published run.compactor run.prior stop request) := by
 refine ⟨nofun,fun _=>?_⟩
 split
 · exact nofun
 · exact nofun

lemma always_publish {current started} (hlt:covered < stop) (hstop:stop ≤ run.prior.length) :
  Always (MatchedRound run) (publish run.compactor threadID current run.prior covered stop request
   started content) := by
 unfold publish
 split
 · exact nofun
 · next messages hmessages =>
    refine ⟨?_,?_⟩
    · rintro next version k ⟨⟩
      refine ⟨request,covered,stop,current.content,messages,hlt,?_,hmessages,rfl⟩
      have hbound:stop - 1 < run.prior.length:=by omega
      rw [List.head?_drop,List.getElem?_eq_getElem hbound]
      rfl
    · rintro (e | swapped)
      · exact always_reportFailure
      · cases swapped with
        | false => exact always_reportFailure
        | true => exact always_published

lemma always_compactRound {threadID state} :
  Always (MatchedRound run) (compactRound run.compactor threadID run.prior state) := by
 unfold compactRound
 split
 · exact ⟨by rintro _ _ _ ⟨⟩,fun _=>by rintro _ _ _ ⟨⟩⟩
 refine ⟨by rintro _ _ _ ⟨⟩,?_⟩
 rintro (e | current)
 · rintro _ _ _ ⟨⟩
 · dsimp only [Prog.bind]
   split
   · rintro _ _ _ ⟨⟩
   split
   · rintro _ _ _ ⟨⟩
   · next request _ =>
      cases hplan : plan run.compactor current run.prior _ request state.2 with
      | keep | settle err => rintro _ _ _ ⟨⟩
      | report err => exact always_reportFailure
      | cut stop =>
       obtain ⟨hlt,hstop,-⟩:=plan_cut hplan
       refine ⟨by rintro _ _ _ ⟨⟩,fun started=>⟨by rintro _ _ _ ⟨⟩,fun _ =>
        ⟨by rintro _ _ _ ⟨⟩,fun response=>?_⟩⟩⟩
       dsimp only [Prog.bind]
       split
       · exact always_reportFailure
       · exact always_publish hlt hstop

lemma always_prog (run threadID) : Always (MatchedRun run) (run.prog threadID) := by
 unfold CompactionRun.prog compact
 split
 · exact nofun
 generalize (run.request,false)=state
 induction run.compactor.rounds generalizing state with
 | zero => exact ⟨nofun,fun e=>e.elim⟩
 | succ n ih =>
  refine always_bind (always_compactRound) ?_ ?_
  · rintro o k hmatched next version k' ⟨⟩
    exact ⟨k (.ok true),_,rfl,hmatched next version k rfl⟩
  · rintro (state | out)
    · exact ih state
    · exact nofun

end

def sampleCompactor (window : Int) : ContextCompactor where
 budget := ContextBudget.defaults
  { contextWindowTokens := window, outputReserveTokens := 10, futureToolReserveTokens := 10
    summaryMaxOutputTokens := 10 }
 codec :=
  { messageLength := fun m => if m.role = .system then 200 else 30 + m.content.length
    toolLength := fun _ => 0
    schemaLength := fun _ => 0
    summarySource := fun previous records => previous ++ List.replicate (150 * records.length)
     0x78
    threshold := fun window fraction =>
     match fraction with
     | .finite q => window * q.num / q.den
     | _ => 0 }
 rounds := 3

def sampleRun (window : Int) (prior : List MessageRecord) : CompactionRun where
 compactor := sampleCompactor window
 prior := prior
 leading := []
 trailing := []
 request := { messages := texts prior }
 messages := (append_nil _).symm

def answerSummaries : ℕ → (o : CompactionOp) → SummaryState → Option (o.Reply × SummaryState)
 | _, .loadContextSummary _, s => some (.ok (headOf s.chain), s)
 | _, .generate request, s =>
  let content := [0x53, 0x30 + s.asked.length.toUInt8]
  some (.ok ⟨content, .stop⟩, { s with asked := s.asked ++ [(request, content)] })
 | _, .compareAndSwapContextSummary next version, s =>
  if version = s.chain.length then some (.ok true, publishOn s next) else some (.ok false, s)
 | _, .emit _, s => some ((), s)
 | _, .now, s => some (0, s)
 | _, .hang, _ => none

lemma answerSummaries_step {i r} (h:answerSummaries i o s=some (r,u)) :
  summaryStep s o r u := by
 cases o with
 | loadContextSummary threadID =>
  cases h
  exact ⟨rfl,fun _ h=>(Except.ok.inj h).symm⟩
 | generate request =>
  cases h
  rfl
 | compareAndSwapContextSummary next version =>
  dsimp only [answerSummaries] at h
  split at h
  · next hversion =>
     cases h
     exact ⟨hversion,rfl⟩
  · cases h
    rfl
 | emit event | now =>
  cases h
  rfl
 | hang => cases h

def scheduled (is : List ℕ) (runs : List CompactionRun) :
  List (PoolEvent CompactionSig) × SummaryState × List (CompactionProg CompactionOutcome) :=
 schedule answerSummaries is {} (runs.map (CompactionRun.prog "thread"))

lemma scheduled_run (is runs) :
  PoolRun summaryWorld {} (runs.map (CompactionRun.prog "thread")) (scheduled is runs).1
   (scheduled is runs).2.1 (scheduled is runs).2.2 :=
 schedule_run (W := summaryWorld) (fun _ _ _ _ _ h=>answerSummaries_step h) is _ _

def returned : Option (CompactionProg CompactionOutcome) → Option ModelRequest
 | some (.ret (request, none)) => some request
 | _ => none

lemma eq_of_returned {q} (h:(returned q).map ModelRequest.messages=some messages) :
  ∃ request,q=some (.ret (request,none)) ∧ request.messages=messages := by
 unfold returned at h
 split at h
 · next request => exact ⟨request,rfl,Option.some.inj h⟩
 · cases h

lemma ne_summaryMessage (h:m.content.head? ≠ some 0x43) (s) : m ≠ summaryMessage s := by
 rintro rfl
 exact h rfl
lemma transcript_of_heads (hids : (T.map MessageRecord.id).Nodup) (hnamed : ∀ r ∈ T,r.id ≠ "")
  (hheads : ∀ r ∈ T,r.message.content.head? ≠ some 0x43) : Transcript T :=
 ⟨hids,hnamed,fun r hr=>ne_summaryMessage (hheads r hr)⟩

def note (id : String) (first : UInt8) : MessageRecord where
 id := id
 threadID := "thread"
 message := { role := .user, content := first :: List.replicate 99 0x78 }

def distinctNotes : List MessageRecord :=
 [note "1" 0x61, note "2" 0x62, note "3" 0x63, note "4" 0x64, note "5" 0x65, note "6" 0x66]

lemma distinctNotes_unrepeated {runs:List CompactionRun}
  (h:∀ run ∈ runs,run.leading=[] ∧ run.trailing=[]) : Unrepeated distinctNotes runs where
 first := by
  rintro r rest ⟨⟩
  refine ⟨by decide,?_⟩
  intro run hrun
  obtain ⟨hleading,htrailing⟩:=h run hrun
  rw [hleading,htrailing]
  exact ⟨not_mem_nil,not_mem_nil⟩
 plain := by
  intro run hrun s
  obtain ⟨hleading,htrailing⟩:=h run hrun
  rw [hleading,htrailing]
  exact ⟨not_mem_nil,not_mem_nil⟩
 results := by
  rintro id i j - ⟨r,hr,hrole,-⟩
  have hmem:=mem_of_getElem? hr
  have hroles:∀ r ∈ distinctNotes,r.message.role ≠ .tool:=by decide
  exact absurd hrole (hroles r hmem)

def equalNotes : List MessageRecord :=
 [note "1" 0x78, note "2" 0x78, note "3" 0x78, note "4" 0x78, note "5" 0x78, note "6" 0x78]

def calling (id : String) : MessageRecord where
 id := id
 threadID := "thread"
 message :=
  { role := .assistant, content := List.replicate 100 0x78
    toolCalls := [{ id := [0x78], toolID := [0x74], arguments := .null }] }

def answering (id : String) : MessageRecord where
 id := id
 threadID := "thread"
 message := { role := .tool, content := List.replicate 100 0x78, toolCallID := [0x78] }

def repeatedCalls : List MessageRecord :=
 [calling "1", calling "2", answering "3", answering "4", note "5" 0x61]

lemma two_summaries_not_whole (hT:Transcript prior) (hlong:2 < prior.length) {s window}
  {x y} :
  ¬ Whole prior s (sampleRun window prior) [summaryMessage x,summaryMessage y] := by
 rintro (h | ⟨chain,z,k,e,-,-,-,-,-,h⟩)
 · have hlength:=congrArg List.length h
   simp [sampleRun,texts] at hlength
   omega
 · have hmem:summaryMessage y ∈ texts (prior.drop e):=by
    have htail:=congrArg List.tail h
    simp only [sampleRun,nil_append,append_nil,tail_cons] at htail
    rw [← htail]
    exact mem_cons_self
   obtain ⟨r,hr,hmessage⟩:=mem_map.mp hmem
   exact hT.plain r (mem_of_mem_drop hr) y hmessage

end Lebro.ContextSummaries
