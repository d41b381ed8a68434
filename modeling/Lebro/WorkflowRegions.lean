import Lebro.JsonCodec
import Lebro.WorkflowRetry

set_option autoImplicit false

/-! The goroutines of a fan-out or foreach step are programs of their own, joined by one effect of
the executor. -/
namespace Lebro.WorkflowRegions

open EffectProgram RuntimeTypes RuntimeRecords RuntimeEffects JsonCodec WorkflowSteps WorkflowRetry

abbrev Overrides := List (StepID × RetryPolicy)

def errNoBranchMatched : Err := .sentinel "lebro: workflow no branch matched" .noBranchMatched

def firstMatch (stepID : StepID) (input : RawMessage) :
  List (CompiledBranch CompiledStep) → StepProg (Except Err (Option (CompiledBranch CompiledStep)))
 | [] => .ret (.ok none)
 | b :: bs => do
  let matched ← stepOp (.branchCondition stepID b.name input)
  match matched with
  | .error e => .ret (.error (e.wrap ("lebro: branch " ++ quote b.name ++ " condition failed: ")))
  | .ok true => .ret (.ok (some b))
  | .ok false => firstMatch stepID input bs

variable (number:String → Option String) (run:StepRun) (overrides:Overrides)
 (branches:List (CompiledBranch CompiledStep))

def defaultMatch (defaultBranch : String) : Option (CompiledBranch CompiledStep) :=
 if defaultBranch = "" then none else branches.find? fun b => b.name = defaultBranch

def selectBranch (stepID : StepID) (branches : List (CompiledBranch CompiledStep))
  (defaultBranch : String) (input : RawMessage) :
  StepProg (Except Err (CompiledBranch CompiledStep)) := do
 let found ← firstMatch stepID input branches
 match found with
 | .error e => .ret (.error e)
 | .ok (some b) => .ret (.ok b)
 | .ok none =>
  match defaultMatch branches defaultBranch with
  | some b => .ret (.ok b)
  | none => .ret (.error errNoBranchMatched)

def selectionKind (e : Err) : WorkflowErrorKind :=
 if e.is .noBranchMatched then .noBranchMatched else .branchConditionFailed

mutual

/-- Steps below a step along the branches that may be selected, with a margin for each list. -/
def stepSize : CompiledStep → Nat
 | ⟨_, _, _, _, _, _, control⟩ => 2 + controlSize control

def controlSize : Control CompiledStep → Nat
 | .branches bs _ => branchesSize bs
 | _ => 0

def branchesSize : List (CompiledBranch CompiledStep) → Nat
 | [] => 0
 | ⟨_, steps, _⟩ :: bs => stepsSize steps + branchesSize bs

def stepsSize : List CompiledStep → Nat
 | [] => 0
 | s :: ss => stepSize s + stepsSize ss

end

lemma stepsSize_append (ss ts) : stepsSize (ss++ts)=stepsSize ss+stepsSize ts := by
 induction ss with
 | nil => simp [stepsSize]
 | cons s ss ih =>
  simp only [List.cons_append,stepsSize]
  omega

lemma stepsSize_le_branchesSize {branches b} (hb:b ∈ branches) :
  stepsSize b.steps ≤ branchesSize branches := by
 induction branches with
 | nil => simp at hb
 | cons c cs ih =>
  rcases List.mem_cons.mp hb with rfl | hb
  · simp only [branchesSize]
    omega
  · have h:=ih hb
    simp only [branchesSize]
    omega

lemma stepSize_eq (s) : stepSize s=2+controlSize s.control := by
 cases s
 rfl

lemma stepsSize_lt_stepSize {s branches defaultBranch b}
  (hs:s.control = .branches branches defaultBranch) (hb:b ∈ branches) :
  stepsSize b.steps+2 ≤ stepSize s := by
 have h:=stepsSize_le_branchesSize hb
 rw [stepSize_eq,hs,controlSize]
 omega

section

variable {σ:Type} {M:Monitor StepSig σ} {I:σ → Prop} {stepID:StepID} {input:RawMessage}

section

variable (hI:∀ s name, I s → M.demand s (.branchCondition stepID name input) ∧ ∀ r u, M.step s
 (.branchCondition stepID name input) r u → I u)

include hI

lemma wp_firstMatch (branches) (s:σ) (hs:I s) :
  wp M (firstMatch stepID input branches)
   (fun r u=>I u ∧ ∀ b,r = .ok (some b) → b ∈ branches) s := by
 induction branches generalizing s with
 | nil => exact ⟨hs,by simp⟩
 | cons b bs ih =>
  rw [firstMatch,wp_stepOp]
  refine ⟨(hI s b.name hs).1,?_⟩
  intro r u hu
  have hI':I u := (hI s b.name hs).2 r u hu
  rcases r with e | (_ | _)
  · exact ⟨hI',by simp⟩
  · apply wp_mono (ih u hI')
    rintro r v ⟨hv,hmem⟩
    exact ⟨hv,fun c hc=>List.mem_cons_of_mem _ (hmem c hc)⟩
  · refine ⟨hI',?_⟩
    intro c hc
    cases hc
    exact List.mem_cons_self

lemma wp_selectBranch (branches defaultBranch) (s:σ) (hs:I s) :
  wp M (selectBranch stepID branches defaultBranch input)
   (fun r u=>I u ∧ ∀ b,r = .ok b → b ∈ branches) s := by
 apply wp_seq (wp_firstMatch hI branches s hs)
 rintro (e | (_ | b)) u ⟨hu,hmem⟩
 · exact ⟨hu,by simp⟩
 · cases hd : defaultMatch branches defaultBranch with
   | none => exact ⟨hu,by simp⟩
   | some b =>
    refine ⟨hu,?_⟩
    intro c hc
    cases hc
    unfold defaultMatch at hd
    split at hd
    · cases hd
    · exact List.mem_of_find?_eq_some hd
 · exact ⟨hu,fun c hc=>by cases hc; exact hmem b rfl⟩

end

end

def suspendErr (signal : SuspendSignal) : Err :=
 ⟨"lebro: workflow suspend at step " ++ signal.stepID, [.workflowSuspend], some signal⟩

def RetryOutcome.cause : RetryOutcome → Err
 | .failed e | .cancelled e | .panicked e | .invalidOutput e => e
 | .suspended signal => suspendErr signal

def RetryOutcome.childKind : RetryOutcome → WorkflowErrorKind
 | .failed _ => .stepFailed
 | .cancelled _ => .cancelled
 | .panicked _ => .stepPanicked
 | .invalidOutput _ | .suspended _ => .invalidStepOutput

def emitChildStarted (stepID : StepID) (branch : String) : StepProg Unit :=
 emit { type := .stepStarted, runID := run.runID, step := run.position, stepID, branch }

def emitChildFinished (stepID : StepID) (branch : String) (err : Option WorkflowError) :
  StepProg Unit :=
 emit { type := .stepFinished, runID := run.runID, step := run.position, stepID, branch,
        err := err.map WorkflowError.toErr }

def runChild (label : String) (child : CompiledStep) (current : RawMessage) :
  StepProg (Except WorkflowError RawMessage) :=
 match validateStepValue child.inputSchema .stepInput current with
 | some e => .ret (.error ⟨.invalidStepInput, run.position, child.id, e⟩)
 | none => do
  emitChildStarted run child.id label
  let policy := resolveRetryPolicy child.retry overrides child.id
  let result ← runStepWithRetry run child policy current
  match result with
  | .error outcome => do
   let failure : WorkflowError :=
    ⟨RetryOutcome.childKind outcome, run.position, child.id, RetryOutcome.cause outcome⟩
   emitChildFinished run child.id label (some failure)
   .ret (.error failure)
  | .ok output => do
   emitChildFinished run child.id label none
   .ret (.ok output)

def branchFailure (status : RunStatus) (failure : WorkflowError) : FanOutBranchOutcome :=
 { status, failure := some failure }

variable (branch:String)

def fanOutFailure (stepID : StepID) : RetryOutcome → FanOutBranchOutcome
 | .suspended _ => branchFailure .failed ⟨.invalidStepOutput, run.position, stepID,
   .new ("lebro: fan-out branch " ++ quote branch ++ " step " ++ quote stepID ++
    " signalled suspend, which is not supported within fan-out")⟩
 | .cancelled cause => branchFailure .cancelled ⟨.cancelled, run.position, stepID, cause⟩
 | .panicked cause => branchFailure .failed ⟨.stepPanicked, run.position, stepID, cause⟩
 | .invalidOutput cause => branchFailure .failed ⟨.invalidStepOutput, run.position, stepID, cause⟩
 | .failed cause => branchFailure .failed ⟨.stepFailed, run.position, stepID, cause⟩

def fanOutSelect (s : CompiledStep) (branches : List (CompiledBranch CompiledStep))
  (defaultBranch : String) (current : RawMessage) :
  StepProg (Except FanOutBranchOutcome (CompiledBranch CompiledStep)) :=
 match validateStepValue s.inputSchema .stepInput current with
 | some e => do
  let failure : WorkflowError := ⟨.invalidBranchInput, run.position, s.id, e⟩
  emitChildFinished run s.id branch (some failure)
  .ret (.error (branchFailure .failed failure))
 | none => do
  let selected ← selectBranch s.id branches defaultBranch current
  match selected with
  | .error e => do
   let failure : WorkflowError := ⟨selectionKind e, run.position, s.id, e⟩
   emitChildFinished run s.id branch (some failure)
   .ret (.error (branchFailure .failed failure))
  | .ok b => do
   emit { type := .branchSelected, runID := run.runID, step := run.position,
          stepID := s.id, branch := b.name }
   emitChildFinished run s.id branch none
   .ret (.ok b)

def fanOutChild (s : CompiledStep) (current : RawMessage) :
  StepProg (Except FanOutBranchOutcome RawMessage) :=
 match validateStepValue s.inputSchema .stepInput current with
 | some e => do
  let failure : WorkflowError := ⟨.invalidStepInput, run.position, s.id, e⟩
  emitChildFinished run s.id branch (some failure)
  .ret (.error (branchFailure .failed failure))
 | none => do
  let policy := resolveRetryPolicy s.retry overrides s.id
  let result ← runStepWithRetry run s policy current
  match result with
  | .error outcome => do
   let out := fanOutFailure run branch s.id outcome
   emitChildFinished run s.id branch out.failure
   .ret (.error out)
  | .ok output => do
   emitChildFinished run s.id branch none
   .ret (.ok output)

/-- The loop of `executeFanOutBranch` over the remaining steps. A branching step puts the steps of
the selected branch in front. -/
def fanOutSteps (run : StepRun) (overrides : Overrides) (branch : String) :
  Nat → List CompiledStep → RawMessage → StepProg FanOutBranchOutcome
 | 0, _, _ => .ret { status := .unset }
 | _ + 1, [], current => .ret { output := current, status := .succeeded }
 | fuel + 1, s :: remaining, current => do
  let err ← stepOp .ctxErr
  match err with
  | some e => .ret (branchFailure .cancelled ⟨.cancelled, run.position, s.id, e⟩)
  | none => do
   emitChildStarted run s.id branch
   match s.control with
   | .branches branches defaultBranch => do
    let selected ← fanOutSelect run branch s branches defaultBranch current
    match selected with
    | .error out => .ret out
    | .ok b => fanOutSteps run overrides branch fuel (b.steps ++ remaining) current
   | _ => do
    let result ← fanOutChild run overrides branch s current
    match result with
    | .error out => .ret out
    | .ok output => fanOutSteps run overrides branch fuel remaining output

def mapBranchInput (fanOutStepID : StepID) (branch : CompiledFanOutBranch CompiledStep)
  (input : RawMessage) : StepProg (Except Err RawMessage) :=
 if branch.inputMapper then stepOp (.inputMapper fanOutStepID branch.name input)
 else .ret (.ok input)

def executeFanOutBranch (fanOutStepID : StepID) (branch : CompiledFanOutBranch CompiledStep)
  (input : RawMessage) : StepProg FanOutBranchOutcome := do
 let err ← stepOp .ctxErr
 match err with
 | some e => .ret (branchFailure .cancelled ⟨.cancelled, run.position, fanOutStepID, e⟩)
 | none => do
  let mapped ← mapBranchInput fanOutStepID branch input
  match mapped with
  | .error e => .ret (branchFailure .failed ⟨.fanOutInputMapperFailed, run.position,
    fanOutStepID, e.wrap ("lebro: fan-out branch " ++ quote branch.name ++
     " input mapper failed: ")⟩)
  | .ok branchInput =>
   fanOutSteps run overrides branch.name (stepsSize branch.steps + 1) branch.steps
    branchInput

def cancelSiblings (failFast : Bool) (out : FanOutBranchOutcome) : StepProg Unit :=
 if failFast && out.failure.isSome then stepOp .cancelFan else .ret ()

/-- The goroutine of one branch: it holds a slot while it runs, and a failure under fail-fast
cancels the siblings. -/
def fanOutGoroutine (failFast : Bool) (body : StepProg FanOutBranchOutcome) :
  StepProg FanOutBranchOutcome := do
 stepOp .acquire
 let out ← body
 cancelSiblings failFast out
 stepOp .release
 .ret out

def fanOutCall (stepID : StepID) (branches : List (CompiledFanOutBranch CompiledStep))
  (maxParallel : Nat) (failFast : Bool) (input : RawMessage) : FanOutCall where
 maxParallel := maxParallel
 branches := branches.map fun b =>
  fanOutGoroutine failFast (executeFanOutBranch run overrides stepID b input)

structure JoinState where
 results : List FanOutBranchResult := []
 status : RunStatus := .succeeded
 primary : Option WorkflowError := none

def branchResult (name : String) (out : FanOutBranchOutcome) : FanOutBranchResult :=
 if out.status = .succeeded then
  { name, status := out.status, output := out.output, failure := none }
 else { name, status := out.status, output := .empty, failure := out.failure.map WorkflowError.data }

def joinStatus (status : RunStatus) (out : FanOutBranchOutcome) : RunStatus :=
 if out.status ≠ .succeeded ∧ out.failure.isSome ∧ status ≠ .cancelled then .failed else status

/-- One branch of the join. A cancelled branch counts as a failure of the fan-out only when the
run's own context has ended. -/
def joinBranch (st : JoinState) (name : String) (out : FanOutBranchOutcome) :
  RuntimeProg JoinState :=
 let st' : JoinState :=
  { st with results := st.results ++ [branchResult name out], status := joinStatus st.status out }
 match out.failure, st.primary with
 | some failure, none =>
  if failure.kind = .cancelled then do
   let err ← ctxErr
   if err.any isContextErr then .ret { st' with status := .cancelled, primary := some failure }
   else .ret st'
  else .ret { st' with primary := some failure }
 | _, _ => .ret st'

def joinBranches : JoinState → List (String × FanOutBranchOutcome) → RuntimeProg JoinState
 | st, [] => .ret st
 | st, (name, out) :: rest => do
  let st ← joinBranch st name out
  joinBranches st rest

def wrapBranchFailure (position : Nat) (primary : WorkflowError) : WorkflowError :=
 { kind := if primary.kind = .cancelled ∨ primary.kind = .fanOutInputMapperFailed then primary.kind
    else .fanOutBranchFailed
   step := position
   stepID := primary.stepID
   err := primary.err.wrap ("lebro: fan-out branch failed at step " ++ quote primary.stepID ++
    ": ") }

/-- The declaration-ordered output of a join; a branch without output contributes null. -/
def buildFanOutJoinedOutput (results : List FanOutBranchResult) : Json :=
 .arr (results.map fun r =>
  .obj [("name", .str r.name),
   ("output", match r.output with
    | .json v => decodeAny number v
    | _ => .null)])

def pairOutcomes (branches : List (CompiledFanOutBranch CompiledStep))
  (outcomes : List FanOutBranchOutcome) : List (String × FanOutBranchOutcome) :=
 branches.mapIdx fun i b => (b.name, outcomes[i]?.getD { status := .unset })

def executeFanOut (stepID : StepID) (branches : List (CompiledFanOutBranch CompiledStep))
  (maxParallel : Nat) (failFast : Bool) (input : RawMessage) :
  RuntimeProg (FanOutJoinResult × Except WorkflowError RawMessage) := do
 let outcomes ← runtimeOp
  (.fanOut (fanOutCall run overrides stepID branches maxParallel failFast input))
 let st ← joinBranches {} (pairOutcomes branches outcomes)
 let join : FanOutJoinResult := { stepID, status := st.status, branches := st.results }
 match st.primary with
 | some primary => .ret (join, .error (wrapBranchFailure run.position primary))
 | none => .ret (join, .ok (.json (buildFanOutJoinedOutput number st.results)))

def splitMapPath (path : String) : List String := (path.splitOn ".").filter fun part => part ≠ ""

def followPath : Json → List String → Except Err Json
 | value, [] => .ok value
 | .obj fields, part :: parts =>
  match fields.find? fun f => f.1 = part with
  | some f => followPath f.2 parts
  | none => .error (.new "does not exist")
 | _, _ :: _ => .error (.new "is not an object")

def mapPathValue (root : Json) (path : String) : Except Err Json :=
 if path = "." then .ok root else followPath root (splitMapPath path)

def mapFieldValues (root : Json) : StringMap → Except Err (List (String × Json))
 | [] => .ok []
 | (key, path) :: fields =>
  match mapPathValue root path with
  | .error e => .error (e.wrap ("lebro: map field " ++ quote key ++ " path " ++ quote path ++ ": "))
  | .ok value =>
   match mapFieldValues root fields with
   | .error e => .error e
   | .ok rest => .ok (insertField key value rest)

def executeMap (path : String) (fields : StringMap) : RawMessage → Except Err RawMessage
 | .json v =>
  if ¬ decodable number v then
   .error (.new "lebro: decode map input: json: cannot unmarshal number")
  else if path ≠ "" then
   match mapPathValue (decodeAny number v) path with
   | .error e => .error (e.wrap ("lebro: map path " ++ quote path ++ ": "))
   | .ok value => .ok (.json value)
  else (mapFieldValues (decodeAny number v) fields).map fun out => .json (.obj out)
 | .empty => .error (.new "lebro: decode map input: unexpected end of JSON input")
 | .malformed _ => .error (.new "lebro: decode map input: invalid character")

def forEachChildren (run : StepRun) (overrides : Overrides) (containerID : StepID) (index : Nat) :
  List CompiledStep → RawMessage → StepProg (Except WorkflowError RawMessage)
 | [], current => .ret (.ok current)
 | child :: rest, current => do
  let err ← stepOp .ctxErr
  match err with
  | some e => .ret (.error ⟨.cancelled, run.position, containerID, e⟩)
  | none => do
   let result ← runChild run overrides (toString index) child current
   match result with
   | .error failure => .ret (.error failure)
   | .ok output => forEachChildren run overrides containerID index rest output

def forEachGoroutine (containerID : StepID) (steps : List CompiledStep) (index : Nat)
  (item : RawMessage) : StepProg (Except WorkflowError RawMessage) := do
 let done ← stepOp .acquireOrDone
 match done with
 | some e => .ret (.error ⟨.cancelled, run.position, containerID, e⟩)
 | none => do
  let result ← forEachChildren run overrides containerID index steps item
  stepOp .release
  .ret result

def forEachCall (containerID : StepID) (steps : List CompiledStep) (maxParallel : Nat)
  (items : List Json) : ForEachCall where
 maxParallel := maxParallel
 items := items.mapIdx fun i item => forEachGoroutine run overrides containerID steps i (.json item)

def forEachItemResult (index : Nat) : Except WorkflowError RawMessage → ForEachItemResult
 | .ok output => { index, status := .succeeded, output, failure := none }
 | .error failure => { index, status := .failed, output := .empty, failure := some failure.data }

def firstFailure : List (Except WorkflowError RawMessage) → Option WorkflowError
 | [] => none
 | .error failure :: _ => some failure
 | .ok _ :: rest => firstFailure rest

def itemOutputs (outcomes : List (Except WorkflowError RawMessage)) : List RawMessage :=
 outcomes.map fun
  | .ok output => output
  | .error _ => .empty

def forEachResult (stepID : StepID) (outcomes : List (Except WorkflowError RawMessage)) :
  ForEachResult where
 stepID := stepID
 status := if (firstFailure outcomes).isSome then .failed else .succeeded
 items := outcomes.mapIdx forEachItemResult

def executeForEach (stepID : StepID) (steps : List CompiledStep) (maxParallel : Nat)
  (input : RawMessage) : RuntimeProg (ForEachResult × Except WorkflowError RawMessage) :=
 match input with
 | .json (.arr items) => do
  let outcomes ← runtimeOp
   (.forEach (forEachCall run overrides stepID steps maxParallel items))
  let result := forEachResult stepID outcomes
  match firstFailure outcomes with
  | some failure => .ret (result, .error failure)
  | none =>
   match encodeElements (itemOutputs outcomes) with
   | none => .ret (result, .error ⟨.stepFailed, run.position, stepID,
     errMarshal.wrap "lebro: encode foreach output: "⟩)
   | some values => .ret (result, .ok (.json (.arr values)))
 | _ => .ret ({ stepID := "", status := .unset, items := [] },
   .error ⟨.invalidStepInput, run.position, stepID,
    .new "lebro: foreach input must be a JSON array"⟩)

end Lebro.WorkflowRegions
