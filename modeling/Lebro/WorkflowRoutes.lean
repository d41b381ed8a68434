import Lebro.WorkflowFrames
import Lebro.WorkflowWakeups
import Mathlib.Data.List.Forall2

set_option autoImplicit false

namespace Lebro.WorkflowRoutes

open EffectProgram EffectRuns RuntimeTypes RuntimeRecords RuntimeEffects WorkflowSteps
open WorkflowPersistence WorkflowAcceptance WorkflowFrames WorkflowBoundaries List

abbrev Selection := StepID × String

mutual

/-- The branches that a step and the steps of its branches may select, with their entries. -/
def stepSites : CompiledStep → List (Selection × StepID)
 | ⟨id, _, _, _, _, _, control⟩ => controlSites id control

def controlSites (id : StepID) : Control CompiledStep → List (Selection × StepID)
 | .branches bs _ => branchesSites id bs
 | _ => []

def branchesSites (id : StepID) : List (CompiledBranch CompiledStep) → List (Selection × StepID)
 | [] => []
 | ⟨name, steps, entryID⟩ :: bs => ((id, name), entryID) :: (stepsSites steps ++ branchesSites id
  bs)

def stepsSites : List CompiledStep → List (Selection × StepID)
 | [] => []
 | s :: ss => stepSites s ++ stepsSites ss

end

lemma stepSites_eq (s:CompiledStep) : stepSites s=controlSites s.id s.control := by
 cases s
 rfl

def Selects (w : LinearWorkflow) (selection : Selection) (entryID : StepID) : Prop :=
 (selection, entryID) ∈ stepsSites w.steps

variable {steps:List CompiledStep}

lemma stepSites_subset {s} (hs:s ∈ steps) : stepSites s ⊆ stepsSites steps := by
 induction steps with
 | nil => simp at hs
 | cons t ts ih =>
  rw [stepsSites]
  rcases mem_cons.mp hs with rfl | hs
  · exact subset_append_left _ _
  · exact List.Subset.trans (ih hs) (subset_append_right _ _)

variable {b:CompiledBranch CompiledStep} {branches:List (CompiledBranch CompiledStep)}

lemma branchesSites_mem (id) (hb:b ∈ branches) :
  ((id,b.name),b.entryID) ∈ branchesSites id branches ∧
    stepsSites b.steps ⊆ branchesSites id branches := by
 induction branches with
 | nil => simp at hb
 | cons c cs ih =>
  rw [branchesSites]
  rcases mem_cons.mp hb with rfl | hb
  · exact ⟨mem_cons_self,List.Subset.trans (subset_append_left _ _) (subset_cons_self _ _)⟩
  · obtain ⟨hmem,hsub⟩:=ih hb
    have hrest:branchesSites id cs ⊆ stepsSites c.steps++branchesSites id cs :=
     subset_append_right _ _
    exact ⟨mem_cons_of_mem _ (hrest hmem),
     List.Subset.trans (List.Subset.trans hsub hrest) (subset_cons_self _ _)⟩

def Within (w : LinearWorkflow) (steps : List CompiledStep) : Prop :=
 stepsSites steps ⊆ stepsSites w.steps

lemma Within.branch {w} (h:Within w steps) {step defaultBranch} (hstep:step ∈ steps)
  (hc:step.control = .branches branches defaultBranch) (hb:b ∈ branches) :
  Selects w (step.id,b.name) b.entryID ∧ Within w b.steps := by
 have hsites:stepSites step=branchesSites step.id branches := by
  rw [stepSites_eq,hc,controlSites]
 have hsub:branchesSites step.id branches ⊆ stepsSites w.steps := by
  rw [← hsites]
  exact List.Subset.trans (stepSites_subset hstep) h
 obtain ⟨hmem,hinner⟩:=branchesSites_mem step.id hb
 exact ⟨hsub hmem,List.Subset.trans hinner hsub⟩

lemma inherited_within (w:LinearWorkflow) : Inherited (Within w) :=
 fun _ _ _ _ _ h hstep hc hb=>(h.branch hstep hc hb).2

mutual

lemma entries_step :
  ∀ s : CompiledStep,StepShape s → ((stepSites s).map Prod.snd).Sublist (controlIDs s.control)
 | ⟨_,_,_,_,_,_,.branches bs _⟩, h => entries_branches _ bs h
 | ⟨_,_,_,_,_,_,.handler⟩, _ => nil_sublist _
 | ⟨_,_,_,_,_,_,.map _ _⟩, _ => nil_sublist _
 | ⟨_,_,_,_,_,_,.fanOut _ _ _⟩, _ => nil_sublist _
 | ⟨_,_,_,_,_,_,.forEach _ _⟩, _ => nil_sublist _
 | ⟨_,_,_,_,_,_,.loop _ _ _⟩, _ => nil_sublist _
 | ⟨_,_,_,_,_,_,.sleep _⟩, _ => nil_sublist _
 | ⟨_,_,_,_,_,_,.sleepUntil _⟩, _ => nil_sublist _

lemma entries_branches (id:StepID) :
  ∀ bs : List (CompiledBranch CompiledStep),BranchesShape bs →
   ((branchesSites id bs).map Prod.snd).Sublist (branchesIDs bs)
 | [], _ => nil_sublist _
 | ⟨_,[],_⟩ :: _, ⟨⟨_,hs,_⟩,_⟩ => by cases hs
 | ⟨name,s :: ss,entryID⟩ :: bs, ⟨⟨_,hs,hid⟩,⟨hstep,hsteps⟩,hbs⟩ => by
  cases hs
  rw [branchesSites,branchesIDs,stepsSites,stepsIDs,stepIDs_eq,map_cons,
   map_append,map_append,cons_append,cons_append,← hid]
  exact (((entries_step s hstep).append (entries_steps ss hsteps)).append
   (entries_branches id bs hbs)).cons_cons _

lemma entries_steps :
  ∀ ss : List CompiledStep,StepsShape ss → ((stepsSites ss).map Prod.snd).Sublist (stepsIDs ss)
 | [], _ => nil_sublist _
 | s :: ss, ⟨hstep,hsteps⟩ => by
  rw [stepsSites,stepsIDs,stepIDs_eq,map_append]
  exact ((entries_step s hstep).cons _).append (entries_steps ss hsteps)

end

lemma selects_leftUnique {w} (hshape:StepsShape w.steps) (hnodup:(stepsIDs w.steps).Nodup) :
  Relator.LeftUnique (Selects w) := by
 intro a entryID b ha hb
 have hentries:((stepsSites w.steps).map Prod.snd).Nodup :=
  (entries_steps w.steps hshape).nodup hnodup
 exact congrArg Prod.fst (inj_on_of_nodup_map hentries ha hb rfl)

/-- The branches that a run has selected on its way, and those it had selected when it was last
stored. -/
structure Route where
 taken : List Selection := []
 kept : List Selection := []

def selection (e : RunEvent) : Option Selection :=
 if e.type = .branchSelected then some (e.stepID, e.branch) else none

def Route.emitted (g : Route) (e : RunEvent) : Route :=
 if e.type = .resumed then { g with taken := g.kept }
 else { g with taken := g.taken ++ (selection e).toList }

def Route.saved (g : Route) : Except Err Unit → Route
 | .ok () => { g with kept := g.taken }
 | .error _ => g

def Route.next (g : Route) : (o : RuntimeOp) → o.Reply → Route
 | .step (.emit e), _ => g.emitted e
 | .repo (.saveWorkflowRun _), saved => g.saved saved
 | .transaction _, saved => g.saved saved
 | _, _ => g

def MaySelect (call : FanOutCall) (s : Selection) : Prop :=
 ∃ p ∈ call.branches, ∃ es q e, Trace p es q ∧ (⟨.emit e, ()⟩ : Event StepSig) ∈ es ∧
  selection e = some s

def Route.Next (g : Route) : (o : RuntimeOp) → o.Reply → Route → Prop
 | .fanOut call, _, g' =>
  ∃ within, (∀ s ∈ within, MaySelect call s) ∧ g' = { g with taken := g.taken ++ within }
 | o, r, g' => g' = g.next o r

/-- The operation neither starts a loop iteration once a branch has been selected, nor may it
select a branch inside of a fan-out. -/
def Straight (g : Route) : RuntimeOp → Prop
 | .step (.emit e) => e.type = .loopIterationStarted → g.taken = []
 | .fanOut call => ∀ s, ¬ MaySelect call s
 | _ => True

def RepoCarries (P : List StepID → Prop) : RepoOp → Prop
 | .saveWorkflowRun record => P record.path
 | .saveWorkflowSnapshot snapshot => ∀ env, snapshot.state = .workflow env → P env.path
 | _ => True

def Carries (P : List StepID → Prop) : RuntimeOp → Prop
 | .repo o => RepoCarries P o
 | .transaction body => Asks (RepoCarries P) body
 | _ => True

section

variable {snapshot:WorkflowSnapshotRecord} {record:WorkflowRunRecord}
variable {body:RepoProg (Except Err Unit)}

lemma saves_carries {P} (h:Saves snapshot record body) (hrecord:P record.path)
  (hsnapshot:∀ env,snapshot.state = .workflow env → P env.path) :
  Carries P (.transaction body) := by
 have hboundary:Asks (S := RepoSig) (RepoCarries P) (saveBoundary snapshot record) := by
  refine asks_perform hsnapshot ?_
  intro saved
  cases saved with
  | error e => exact asks_ret
  | ok _ => exact asks_ask hrecord fun _=>asks_ret
 cases h with
 | boundary => exact hboundary
 | sleep wakeup =>
  refine asks_bind hboundary ?_
  intro saved
  cases saved with
  | error e => exact asks_ret
  | ok _ => exact asks_ask trivial fun _=>asks_ret

end

end Lebro.WorkflowRoutes
