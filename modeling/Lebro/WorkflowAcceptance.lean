import Lebro.WorkflowSteps
import Mathlib.Data.List.Nodup

set_option autoImplicit false

namespace Lebro.WorkflowAcceptance

open RuntimeTypes WorkflowSteps

variable {s:Step} {st st':TreeState} {forEach:Option (ForEach Step)} {d:StepDefinition}
 {handler:Bool} {compiler:Option SchemaCompiler} {fanOut:Option (FanOut Step)}
 {doWhile doUntil:Option (Loop Step)} {branches:List (Branch Step)}

mutual

def stepIDs : CompiledStep → List StepID
 | ⟨id, _, _, _, _, _, control⟩ => id :: controlIDs control

def controlIDs : Control CompiledStep → List StepID
 | .branches bs _ => branchesIDs bs
 | .fanOut bs _ _ => fanOutIDs bs
 | .forEach steps _ => stepsIDs steps
 | .loop steps _ _ => stepsIDs steps
 | _ => []

def branchesIDs : List (CompiledBranch CompiledStep) → List StepID
 | [] => []
 | ⟨_, steps, _⟩ :: bs => stepsIDs steps ++ branchesIDs bs

def fanOutIDs : List (CompiledFanOutBranch CompiledStep) → List StepID
 | [] => []
 | ⟨_, _, steps⟩ :: bs => stepsIDs steps ++ fanOutIDs bs

def stepsIDs : List CompiledStep → List StepID
 | [] => []
 | s :: ss => stepIDs s ++ stepsIDs ss

end

mutual

/-- The shape of an accepted step: a handler step has its handler, a branch is entered at its first
step, and the children of a foreach or loop step are handler steps. -/
def StepShape : CompiledStep → Prop
 | ⟨_, handler, _, _, _, _, control⟩ => ControlShape handler control

def ControlShape (handler : Bool) : Control CompiledStep → Prop
 | .handler => handler = true
 | .branches bs _ => BranchesShape bs
 | .fanOut bs maxParallel _ => 1 ≤ maxParallel ∧ FanOutShape bs
 | .forEach steps maxParallel =>
  1 ≤ maxParallel ∧ StepsShape steps ∧ ∀ s ∈ steps, s.control = .handler
 | .loop steps maxIterations _ =>
  1 ≤ maxIterations ∧ StepsShape steps ∧ ∀ s ∈ steps, s.control = .handler
 | _ => True

def BranchesShape : List (CompiledBranch CompiledStep) → Prop
 | [] => True
 | ⟨_, steps, entryID⟩ :: bs =>
  (∃ s, steps.head? = some s ∧ s.id = entryID) ∧ StepsShape steps ∧ BranchesShape bs

def FanOutShape : List (CompiledFanOutBranch CompiledStep) → Prop
 | [] => True
 | ⟨_, _, steps⟩ :: bs => StepsShape steps ∧ FanOutShape bs

def StepsShape : List CompiledStep → Prop
 | [] => True
 | s :: ss => StepShape s ∧ StepsShape ss

end

lemma stepShape_iff (s:CompiledStep) : StepShape s ↔ ControlShape s.handler s.control := by
 cases s
 exact Iff.rfl
lemma stepIDs_eq (s : CompiledStep) : stepIDs s=s.id :: controlIDs s.control := by
 cases s
 rfl

lemma StepsShape.mem {steps} (h:StepsShape steps) {s} (hs:s ∈ steps) : StepShape s := by
 induction steps with
 | nil => simp at hs
 | cons t ts ih =>
  rcases List.mem_cons.mp hs with rfl | hs
  · exact h.1
  · exact ih h.2 hs

lemma BranchesShape.mem {branches} (h:BranchesShape branches) {b} (hb:b ∈ branches) :
  (∃ s,b.steps.head? = some s ∧ s.id=b.entryID) ∧ StepsShape b.steps := by
 induction branches with
 | nil => simp at hb
 | cons c cs ih =>
  rcases List.mem_cons.mp hb with rfl | hb
  · exact ⟨h.1,h.2.1⟩
  · exact ih h.2.2 hb

lemma bind_eq_ok {α β:Type} {x:Except Err α} {f:α → Except Err β} {b} :
  (x >>= f) = .ok b ↔ ∃ a,x = .ok a ∧ f a = .ok b := by
 cases x with
 | error e | ok a => simp [bind,Except.bind]

lemma require_eq_ok {c message u} : require c message = .ok u ↔ c=true := by
 cases c with
 | true | false => simp [require]

lemma compileFailure_eq_ok {α:Type} {context:String} {id:StepID} {x:Except Err α} {a} :
  compileFailure context id x = .ok a ↔ x = .ok a := by
 cases x with
 | error e | ok b => simp [compileFailure]

structure Validated (st st' : TreeState) (ids : List StepID) : Prop where
 seen : st'.seen = ids.reverse ++ st.seen
 nodup : st.seen.Nodup → st'.seen.Nodup

lemma Validated.refl (st:TreeState) : Validated st st [] := ⟨rfl,fun h=>h⟩

lemma Validated.trans {st'' ids ids'} (h:Validated st st' ids) (h':Validated st' st'' ids') :
  Validated st st'' (ids++ids') := by
 refine ⟨?_,fun hn=>h'.nodup (h.nodup hn)⟩
 rw [h'.seen,h.seen,List.reverse_append,List.append_assoc]

lemma enterStepID_validated (h:enterStepID s st = .ok st') : Validated st st' [s.id] := by
 unfold enterStepID at h
 obtain ⟨_,_,h⟩:=bind_eq_ok.mp h
 obtain ⟨_,hnew,h⟩:=bind_eq_ok.mp h
 rw [require_eq_ok] at hnew
 cases h
 refine ⟨rfl,?_⟩
 intro hn
 have hnotin:s.id ∉ st.seen:=by simpa using hnew
 exact List.nodup_cons.mpr ⟨hnotin,hn⟩

lemma newCompiledStep_parts {c}
  (h:newCompiledStep compiler ⟨d,handler,branches,fanOut,forEach,doWhile,doUntil⟩ = .ok c) :
  ∃ bs fo fe lw lu,compileBranches compiler branches = .ok bs ∧
   compileFanOut compiler fanOut = .ok fo ∧ compileForEach compiler forEach = .ok fe ∧
   compileLoop compiler .whileTrue doWhile = .ok lw ∧
   compileLoop compiler .untilTrue doUntil = .ok lu ∧
   c.id=d.id ∧ c.handler=handler ∧ c.control=chooseControl d bs fo fe lw lu := by
 simp only [newCompiledStep] at h
 obtain ⟨_,_,h⟩:=bind_eq_ok.mp h
 obtain ⟨bs,hb,h⟩:=bind_eq_ok.mp h
 obtain ⟨fo,hf,h⟩:=bind_eq_ok.mp h
 obtain ⟨fe,he,h⟩:=bind_eq_ok.mp h
 obtain ⟨lw,hw,h⟩:=bind_eq_ok.mp h
 obtain ⟨lu,hu,h⟩:=bind_eq_ok.mp h
 obtain ⟨_,_,h⟩:=bind_eq_ok.mp h
 obtain ⟨_,_,h⟩:=bind_eq_ok.mp h
 obtain ⟨_,_,h⟩:=bind_eq_ok.mp h
 cases h
 exact ⟨bs,fo,fe,lw,lu,hb,hf,he,hw,hu,rfl,rfl,rfl⟩

lemma newCompiledStep_plain {c} (hs:s.isControl=false)
  (h:newCompiledStep compiler s = .ok c) :
  c.control = .handler := by
 obtain ⟨d,handler,branches,fanOut,forEach,doWhile,doUntil⟩:=s
 simp only [Step.isControl,Bool.or_eq_false_iff,Bool.not_eq_false',List.isEmpty_iff,
  Option.isSome_eq_false_iff,Option.isNone_iff_eq_none] at hs
 obtain ⟨⟨⟨⟨⟨⟨⟨rfl,rfl⟩,hmap⟩,rfl⟩,rfl⟩,rfl⟩,hsleep⟩,huntil⟩:=hs
 obtain ⟨_,_,_,_,_,hb,hf,he,hw,hu,_,_,hc⟩:=newCompiledStep_parts h
 simp only [compileBranches,compileFanOut,compileForEach,compileLoop] at hb hf he hw hu
 cases hb
 cases hf
 cases he
 cases hw
 cases hu
 simp [hc,chooseControl,hmap,hsleep,huntil]

lemma compileSteps_plain {context steps cs} (hs:steps.all (fun s=>!s.isControl)=true)
  (h:compileSteps compiler context steps = .ok cs) : ∀ c ∈ cs,c.control = .handler := by
 induction steps generalizing cs with
 | nil =>
  cases h
  simp
 | cons s ss ih =>
  simp only [List.all_cons,Bool.and_eq_true,Bool.not_eq_true'] at hs
  simp only [compileSteps] at h
  obtain ⟨c,hc,h⟩:=bind_eq_ok.mp h
  obtain ⟨cs',hcs,h⟩:=bind_eq_ok.mp h
  cases h
  rw [compileFailure_eq_ok] at hc
  intro t ht
  rcases List.mem_cons.mp ht with rfl | ht
  · exact newCompiledStep_plain hs.1 hc
  · exact ih hs.2 hcs t ht

lemma checkStep_forms (h:checkStep s = .ok ()) : s.controlCount ≤ 1 ∧
  (s.isControl=false → s.handler=true) ∧
  (∀ fe,s.branches=[] → s.fanOut=none → s.definition.map=none → s.forEach=some fe →
   fe.steps.all (fun c=>!c.isControl)=true) ∧
  (∀ l,s.branches=[] → s.fanOut=none → s.definition.map=none → s.forEach=none →
   (s.doWhile=some l ∨ s.doWhile=none ∧ s.doUntil=some l) →
   1 ≤ l.maxIterations ∧ l.steps.all (fun c=>!c.isControl)=true) := by
 unfold checkStep at h
 obtain ⟨_,_,h⟩:=bind_eq_ok.mp h
 obtain ⟨_,hcount,h⟩:=bind_eq_ok.mp h
 rw [require_eq_ok,decide_eq_true_iff] at hcount
 refine ⟨hcount,?_,?_,?_⟩
 · intro hplain
   simp only [Step.isControl,Bool.or_eq_false_iff,Bool.not_eq_false',List.isEmpty_iff,
    Option.isSome_eq_false_iff,Option.isNone_iff_eq_none] at hplain
   obtain ⟨⟨⟨⟨⟨⟨⟨hb,hf⟩,hm⟩,he⟩,hw⟩,hu⟩,hs⟩,ht⟩:=hplain
   simp only [hb,hf,hm,he,hw,hu,hs,ht] at h
   exact require_eq_ok.mp h
 · intro fe hb hf hm he
   simp only [hb,hf,hm,he] at h
   simp only [checkForEach] at h
   obtain ⟨_,_,h⟩:=bind_eq_ok.mp h
   obtain ⟨_,_,h⟩:=bind_eq_ok.mp h
   obtain ⟨_,_,h⟩:=bind_eq_ok.mp h
   exact require_eq_ok.mp h
 · intro l hb hf hm he hl
   have hloop:checkLoop s l = .ok ():=by
    rcases hl with hl | ⟨hn,hl⟩
    · simpa [hb,hf,hm,he,hl] using h
    · simpa [hb,hf,hm,he,hn,hl] using h
   simp only [checkLoop] at hloop
   obtain ⟨_,_,hloop⟩:=bind_eq_ok.mp hloop
   obtain ⟨_,hmax,hloop⟩:=bind_eq_ok.mp hloop
   obtain ⟨_,_,hloop⟩:=bind_eq_ok.mp hloop
   obtain ⟨_,_,hloop⟩:=bind_eq_ok.mp hloop
   obtain ⟨_,hplain,_⟩:=bind_eq_ok.mp hloop
   rw [require_eq_ok,Bool.and_eq_true,decide_eq_true_iff] at hmax
   exact ⟨hmax.1,require_eq_ok.mp hplain⟩

lemma validateStep_parts
  (h:validateStep ⟨d,handler,branches,fanOut,forEach,doWhile,doUntil⟩ st = .ok st') :
  ∃ s1 s2 s3 s4 s5,Validated st s1 [d.id] ∧
   checkStep ⟨d,handler,branches,fanOut,forEach,doWhile,doUntil⟩ = .ok () ∧
   validateBranches d.id [] branches s1 = .ok s2 ∧ validateFanOut d.id fanOut s2 = .ok s3 ∧
   validateForEach forEach s3 = .ok s4 ∧ validateLoop doWhile s4 = .ok s5 ∧
   validateLoop doUntil s5 = .ok st' := by
 simp only [validateStep] at h
 obtain ⟨s1,h1,h⟩:=bind_eq_ok.mp h
 obtain ⟨_,hcheck,h⟩:=bind_eq_ok.mp h
 obtain ⟨s2,h2,h⟩:=bind_eq_ok.mp h
 obtain ⟨_,_,h⟩:=bind_eq_ok.mp h
 obtain ⟨s3,h3,h⟩:=bind_eq_ok.mp h
 obtain ⟨s4,h4,h⟩:=bind_eq_ok.mp h
 obtain ⟨s5,h5,h⟩:=bind_eq_ok.mp h
 exact ⟨s1,s2,s3,s4,s5,enterStepID_validated h1,hcheck,h2,h3,h4,h5,h⟩

lemma ControlShape.of_false {control} (h:ControlShape false control) :
  ControlShape handler control := by
 cases control with
 | handler => cases h
 | branches bs d | fanOut bs m f | forEach ss m | loop ss n m => exact h
 | map p f | sleep t | sleepUntil t => trivial

lemma chooseControl_shape {bs fo fe lw lu}
  (hcheck:checkStep ⟨d,handler,branches,fanOut,forEach,doWhile,doUntil⟩ = .ok ())
  (hbs:BranchesShape bs) (hlen:bs.length=branches.length) (hfo:fo.isSome=fanOut.isSome)
  (hfo':∀ ctl,fo=some ctl → ControlShape false ctl) (hfe:fe.isSome=forEach.isSome)
  (hfe':∀ ctl f,fe=some ctl → forEach=some f → f.steps.all (fun s=>!s.isControl)=true →
   ControlShape false ctl) (hlw:lw.isSome=doWhile.isSome)
  (hlw':∀ ctl l,lw=some ctl → doWhile=some l → 1 ≤ l.maxIterations ∧ l.steps.all (fun s =>
   !s.isControl)=true → ControlShape false ctl) (hlu:lu.isSome=doUntil.isSome)
  (hlu':∀ ctl l,lu=some ctl → doUntil=some l → 1 ≤ l.maxIterations ∧ l.steps.all (fun s =>
   !s.isControl)=true → ControlShape false ctl) :
  ControlShape handler (chooseControl d bs fo fe lw lu) ∧
   controlIDs (chooseControl d bs fo fe lw lu) =
    branchesIDs bs++(fo.map controlIDs).getD []++(fe.map controlIDs).getD [] ++
     (lw.map controlIDs).getD []++(lu.map controlIDs).getD [] := by
 obtain ⟨hcount,hplain,hforeach,hloop⟩:=checkStep_forms hcheck
 simp only [Step.controlCount] at hcount
 dsimp only [Step.isControl] at hplain
 dsimp only at hforeach hloop
 have hnone:∀ {α : Type} (c : Option α),c.isSome.toNat=0 → c=none:=by
  intro α c hc
  cases c with
  | none => rfl
  | some a => cases hc
 have hone {α : Type} (a : α) : (some a).isSome.toNat=1 := rfl
 rw [← hfo,← hfe,← hlw,← hlu] at hcount
 -- the forms in the order in which the executor looks for them; the count excludes the others
 cases branches with
 | cons b brs =>
  cases bs with
  | nil => cases hlen
  | cons cb cbs =>
   simp only [List.isEmpty_cons,Bool.not_false,Bool.toNat_true] at hcount
   rw [hnone fo (by omega),hnone fe (by omega),hnone lw (by omega),hnone lu (by omega)]
   simpa [chooseControl,controlIDs,ControlShape] using hbs
 | nil =>
  obtain rfl : bs=[] := List.length_eq_zero_iff.mp hlen
  cases fo with
  | some ctl =>
   rw [hone] at hcount
   rw [hnone fe (by omega),hnone lw (by omega),hnone lu (by omega)]
   have hmap:d.map=none:=hnone _ (by omega)
   simpa [chooseControl,hmap,branchesIDs] using (hfo' ctl rfl).of_false
  | none =>
   have hfan:fanOut=none:=by simpa using hfo.symm
   cases hmap : d.map with
   | some m =>
    rw [hmap,hone] at hcount
    rw [hnone fe (by omega),hnone lw (by omega),hnone lu (by omega)]
    simp [chooseControl,hmap,branchesIDs,controlIDs,ControlShape]
   | none =>
    cases fe with
    | some ctl =>
     rw [hone] at hcount
     rw [hnone lw (by omega),hnone lu (by omega)]
     obtain ⟨f,hf⟩:=Option.isSome_iff_exists.mp (hfe ▸ rfl : forEach.isSome=true)
     have hshape:=hfe' ctl f rfl hf (hforeach f rfl hfan hmap hf)
     simpa [chooseControl,hmap,branchesIDs] using hshape.of_false
    | none =>
     have heach:forEach=none:=by simpa using hfe.symm
     cases lw with
     | some ctl =>
      rw [hone] at hcount
      rw [hnone lu (by omega)]
      obtain ⟨l,hl⟩:=Option.isSome_iff_exists.mp (hlw ▸ rfl : doWhile.isSome=true)
      have hshape:=hlw' ctl l rfl hl (hloop l rfl hfan hmap heach (.inl hl))
      simpa [chooseControl,hmap,branchesIDs] using hshape.of_false
     | none =>
      have hwhile:doWhile=none:=by simpa using hlw.symm
      cases lu with
      | some ctl =>
       obtain ⟨l,hl⟩:=Option.isSome_iff_exists.mp (hlu ▸ rfl : doUntil.isSome=true)
       have hshape:=hlu' ctl l rfl hl (hloop l rfl hfan hmap heach (.inr ⟨hwhile,hl⟩))
       simpa [chooseControl,hmap,branchesIDs] using hshape.of_false
      | none =>
       have huntil:doUntil=none:=by simpa using hlu.symm
       cases hsleep : d.sleep with
       | some t => simp [chooseControl,hmap,hsleep,branchesIDs,controlIDs,ControlShape]
       | none =>
        cases hsu : d.sleepUntil with
        | some t => simp [chooseControl,hmap,hsleep,hsu,branchesIDs,controlIDs,ControlShape]
        | none =>
         have hhandler:handler=true:=by
          apply hplain
          simp [hfan,hmap,heach,hwhile,huntil,hsleep,hsu]
         simp [chooseControl,hmap,hsleep,hsu,branchesIDs,controlIDs,ControlShape,hhandler]

mutual

lemma validated_step :
  ∀ (s:Step) {st st':TreeState} {c:CompiledStep},validateStep s st = .ok st' →
   newCompiledStep compiler s = .ok c →
   StepShape c ∧ c.id=s.id ∧ Validated st st' (stepIDs c)
 | ⟨d,handler,branches,fanOut,forEach,doWhile,doUntil⟩, st, st', c, hv, hc => by
  obtain ⟨s1,s2,s3,s4,s5,h1,hcheck,h2,h3,h4,h5,h6⟩:=validateStep_parts hv
  obtain ⟨bs,fo,fe,lw,lu,hb,hf,he,hw,hu,hid,hhandler,hcontrol⟩ :=
   newCompiledStep_parts hc
  obtain ⟨hbs,hlen,hbval⟩:=validated_branches branches h2 hb
  obtain ⟨hfo,hfval,hfo'⟩:=validated_fanOut fanOut h3 hf
  obtain ⟨hfe,heval,hfe'⟩:=validated_forEach forEach h4 he
  obtain ⟨hlw,hwval,hlw'⟩:=validated_loop doWhile h5 hw
  obtain ⟨hlu,huval,hlu'⟩:=validated_loop doUntil h6 hu
  obtain ⟨hshape,hids⟩:=chooseControl_shape hcheck hbs hlen hfo hfo' hfe hfe' hlw hlw' hlu hlu'
  have hval:=h1.trans ((((hbval.trans hfval).trans heval).trans hwval).trans huval)
  rw [stepShape_iff,stepIDs_eq,hid,hhandler,hcontrol,hids]
  exact ⟨hshape,rfl,hval⟩

lemma validated_steps :
  ∀ (ss:List Step) {st st':TreeState} {context:String} {cs:List CompiledStep},
   validateStepTree ss st = .ok st' → compileSteps compiler context ss = .ok cs →
   StepsShape cs ∧ cs.map CompiledStep.id=ss.map Step.id ∧ Validated st st' (stepsIDs cs)
 | [], st, st', context, cs, hv, hc => by
  cases hv
  cases hc
  exact ⟨trivial,rfl,.refl st⟩
 | s :: ss, st, st', context, cs, hv, hc => by
  simp only [validateStepTree] at hv
  simp only [compileSteps] at hc
  obtain ⟨s1,h1,hv⟩:=bind_eq_ok.mp hv
  obtain ⟨c,hc1,hc⟩:=bind_eq_ok.mp hc
  obtain ⟨cs',hc2,hc⟩:=bind_eq_ok.mp hc
  cases hc
  rw [compileFailure_eq_ok] at hc1
  obtain ⟨hshape,hid,hval⟩:=validated_step s h1 hc1
  obtain ⟨hshape',hids,hval'⟩:=validated_steps ss hv hc2
  exact ⟨⟨hshape,hshape'⟩,by simp [hid,hids],hval.trans hval'⟩

lemma validated_branches :
  ∀ (bs:List (Branch Step)) {id:StepID} {names:List String} {st st':TreeState}
   {cbs:List (CompiledBranch CompiledStep)},validateBranches id names bs st = .ok st' →
   compileBranches compiler bs = .ok cbs →
   BranchesShape cbs ∧ cbs.length=bs.length ∧ Validated st st' (branchesIDs cbs)
 | [], id, names, st, st', cbs, hv, hc => by
  cases hv
  cases hc
  exact ⟨trivial,rfl,.refl st⟩
 | ⟨name,condition,steps⟩ :: bs, id, names, st, st', cbs, hv, hc => by
  simp only [validateBranches] at hv
  simp only [compileBranches] at hc
  obtain ⟨_,_,hv⟩:=bind_eq_ok.mp hv
  obtain ⟨_,hne,hv⟩:=bind_eq_ok.mp hv
  obtain ⟨_,_,hv⟩:=bind_eq_ok.mp hv
  obtain ⟨s1,h1,hv⟩:=bind_eq_ok.mp hv
  obtain ⟨cs,hc1,hc⟩:=bind_eq_ok.mp hc
  obtain ⟨cbs',hc2,hc⟩:=bind_eq_ok.mp hc
  cases hc
  obtain ⟨hshape,hids,hval⟩:=validated_steps steps h1 hc1
  obtain ⟨hshape',hlen,hval'⟩:=validated_branches bs hv hc2
  rw [require_eq_ok,Bool.not_eq_true',List.isEmpty_eq_false_iff] at hne
  have hhead:∃ s,cs.head? = some s:=by
   cases cs with
   | nil =>
    have hnil:steps.map Step.id=[]:=hids.symm
    exact absurd (List.map_eq_nil_iff.mp hnil) hne
   | cons s ss => exact ⟨s,rfl⟩
  obtain ⟨s,hs⟩:=hhead
  exact ⟨⟨⟨s,hs,by simp [hs]⟩,hshape,hshape'⟩,by simp [hlen],hval.trans hval'⟩

lemma validated_fanOutBranches :
  ∀ (bs:List (FanOutBranch Step)) {id:StepID} {names:List String} {st st':TreeState}
   {cbs:List (CompiledFanOutBranch CompiledStep)},
   validateFanOutBranches id names bs st = .ok st' →
   compileFanOutBranches compiler bs = .ok cbs →
   FanOutShape cbs ∧ Validated st st' (fanOutIDs cbs)
 | [], id, names, st, st', cbs, hv, hc => by
  cases hv
  cases hc
  exact ⟨trivial,.refl st⟩
 | ⟨name,inputMapper,steps⟩ :: bs, id, names, st, st', cbs, hv, hc => by
  simp only [validateFanOutBranches] at hv
  simp only [compileFanOutBranches] at hc
  obtain ⟨_,_,hv⟩:=bind_eq_ok.mp hv
  obtain ⟨_,_,hv⟩:=bind_eq_ok.mp hv
  obtain ⟨s1,h1,hv⟩:=bind_eq_ok.mp hv
  obtain ⟨cs,hc1,hc⟩:=bind_eq_ok.mp hc
  obtain ⟨cbs',hc2,hc⟩:=bind_eq_ok.mp hc
  cases hc
  obtain ⟨hshape,_,hval⟩:=validated_steps steps h1 hc1
  obtain ⟨hshape',hval'⟩:=validated_fanOutBranches bs hv hc2
  exact ⟨⟨hshape,hshape'⟩,hval.trans hval'⟩

lemma validated_fanOut :
  ∀ (fo:Option (FanOut Step)) {id:StepID} {st st':TreeState}
   {c:Option (Control CompiledStep)},validateFanOut id fo st = .ok st' →
   compileFanOut compiler fo = .ok c → c.isSome=fo.isSome ∧
   Validated st st' ((c.map controlIDs).getD []) ∧ ∀ ctl,c=some ctl → ControlShape false ctl
 | none, id, st, st', c, hv, hc => by
  cases hv
  cases hc
  exact ⟨rfl,.refl st,by simp⟩
 | some ⟨branches,maxParallel,policy⟩, id, st, st', c, hv, hc => by
  simp only [compileFanOut] at hc
  obtain ⟨cbs,hc1,hc⟩:=bind_eq_ok.mp hc
  cases hc
  obtain ⟨hshape,hval⟩:=validated_fanOutBranches branches hv hc1
  refine ⟨rfl,hval,?_⟩
  intro ctl hctl
  cases hctl
  exact ⟨Nat.le_max_left _ _,hshape⟩

lemma validated_forEach :
  ∀ (fe:Option (ForEach Step)) {st st':TreeState} {c:Option (Control CompiledStep)},
   validateForEach fe st = .ok st' → compileForEach compiler fe = .ok c →
   c.isSome=fe.isSome ∧ Validated st st' ((c.map controlIDs).getD []) ∧
   ∀ ctl f,c=some ctl → fe=some f → f.steps.all (fun s=>!s.isControl)=true →
    ControlShape false ctl
 | none, st, st', c, hv, hc => by
  cases hv
  cases hc
  exact ⟨rfl,.refl st,by simp⟩
 | some ⟨steps,maxParallel⟩, st, st', c, hv, hc => by
  simp only [compileForEach] at hc
  obtain ⟨cs,hc1,hc⟩:=bind_eq_ok.mp hc
  cases hc
  obtain ⟨hshape,_,hval⟩:=validated_steps steps hv hc1
  refine ⟨rfl,hval,?_⟩
  intro ctl f hctl hf hplain
  cases hctl
  cases hf
  exact ⟨Nat.le_max_left _ _,hshape,compileSteps_plain hplain hc1⟩

lemma validated_loop :
  ∀ (l:Option (Loop Step)) {mode:LoopMode} {st st':TreeState}
   {c:Option (Control CompiledStep)},validateLoop l st = .ok st' →
   compileLoop compiler mode l = .ok c → c.isSome=l.isSome ∧
   Validated st st' ((c.map controlIDs).getD []) ∧
   ∀ ctl lp,c=some ctl → l=some lp →
    1 ≤ lp.maxIterations ∧ lp.steps.all (fun s=>!s.isControl)=true → ControlShape false ctl
 | none, mode, st, st', c, hv, hc => by
  cases hv
  cases hc
  exact ⟨rfl,.refl st,by simp⟩
 | some ⟨steps,maxIterations,condition⟩, mode, st, st', c, hv, hc => by
  simp only [compileLoop] at hc
  obtain ⟨cs,hc1,hc⟩:=bind_eq_ok.mp hc
  cases hc
  obtain ⟨hshape,_,hval⟩:=validated_steps steps hv hc1
  refine ⟨rfl,hval,?_⟩
  intro ctl lp hctl hl hplain
  cases hctl
  cases hl
  have hmax:1 ≤ maxIterations:=hplain.1
  exact ⟨by omega,hshape,compileSteps_plain hplain.2 hc1⟩

end

lemma newLinearWorkflow_shape {config executor number pages w}
  (h:newLinearWorkflow config executor number pages = .ok w) :
  w.steps ≠ [] ∧ StepsShape w.steps ∧ (stepsIDs w.steps).Nodup := by
 unfold newLinearWorkflow at h
 obtain ⟨_,_,h⟩:=bind_eq_ok.mp h
 obtain ⟨_,hne,h⟩:=bind_eq_ok.mp h
 obtain ⟨tree,hv,h⟩:=bind_eq_ok.mp h
 obtain ⟨_,_,h⟩:=bind_eq_ok.mp h
 obtain ⟨steps,hc,h⟩:=bind_eq_ok.mp h
 cases h
 obtain ⟨hshape,hids,hval⟩:=validated_steps config.steps hv hc
 rw [require_eq_ok,Bool.not_eq_true',List.isEmpty_eq_false_iff] at hne
 refine ⟨?_,hshape,?_⟩
 · intro hnil
   have hmap:config.steps.map Step.id=[]:=by
    rw [← hids]
    exact List.map_eq_nil_iff.mpr hnil
   exact hne (List.map_eq_nil_iff.mp hmap)
 · have hseen:=hval.nodup List.nodup_nil
   rw [hval.seen,List.append_nil] at hseen
   exact List.nodup_reverse.mp hseen

end Lebro.WorkflowAcceptance
