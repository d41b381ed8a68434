import Lebro.RuntimeRecords

set_option autoImplicit false

namespace Lebro.WorkflowSteps

open RuntimeTypes RuntimeRecords

structure MapSpec where
 path : String
 fields : StringMap

inductive FanOutFailurePolicy where
 | failFast
 | collectAll
 | other (text : String)
deriving DecidableEq

structure StepDefinition where
 id : StepID
 inputSchema : RawMessage := .empty
 outputSchema : RawMessage := .empty
 suspendSchema : RawMessage := .empty
 retry : Option RetryPolicy := none
 default : String := ""
 map : Option MapSpec := none
 sleep : Option Duration := none
 sleepUntil : Option (Option Time) := none

structure Branch (α : Type) where
 name : String
 condition : Bool
 steps : List α

structure FanOutBranch (α : Type) where
 name : String
 inputMapper : Bool
 steps : List α

structure FanOut (α : Type) where
 branches : List (FanOutBranch α)
 maxParallel : Int
 failurePolicy : Option FanOutFailurePolicy

structure ForEach (α : Type) where
 steps : List α
 maxParallel : Int

structure Loop (α : Type) where
 steps : List α
 maxIterations : Int
 condition : Bool

/-- A declared step. `handler` says whether one is given; its behaviour is an effect. -/
structure Step where
 definition : StepDefinition
 handler : Bool
 branches : List (Branch Step)
 fanOut : Option (FanOut Step)
 forEach : Option (ForEach Step)
 doWhile : Option (Loop Step)
 doUntil : Option (Loop Step)

def handlerStep (id : StepID) : Step where
 definition := { id }
 handler := true
 branches := []
 fanOut := none
 forEach := none
 doWhile := none
 doUntil := none

/-- A compiled schema judges JSON values; a value that is no JSON satisfies no schema. -/
structure CompiledSchema where
 check : Json → Option String

def CompiledSchema.validate (schema : CompiledSchema) : RawMessage → Option String
 | .json v => schema.check v
 | .empty => some ": unexpected end of JSON input"
 | .malformed _ => some ": invalid JSON"

/-- The schema engine: it may refuse a schema, and may answer without one. -/
abbrev SchemaCompiler := Json → Except Err (Option CompiledSchema)

structure CompiledBranch (α : Type) where
 name : String
 steps : List α
 entryID : StepID

structure CompiledFanOutBranch (α : Type) where
 name : String
 inputMapper : Bool
 steps : List α

inductive LoopMode where
 | whileTrue
 | untilTrue
deriving DecidableEq

inductive Control (α : Type) where
 | handler
 | branches (branches : List (CompiledBranch α)) (defaultBranch : String)
 | map (path : String) (fields : StringMap)
 | forEach (steps : List α) (maxParallel : Nat)
 | loop (steps : List α) (maxIterations : Nat) (mode : LoopMode)
 | fanOut (branches : List (CompiledFanOutBranch α)) (maxParallel : Nat) (failFast : Bool)
 | sleep (duration : Duration)
 | sleepUntil (wakeAt : Time)

structure CompiledStep where
 id : StepID
 handler : Bool
 inputSchema : Option CompiledSchema
 outputSchema : Option CompiledSchema
 suspendSchema : Option CompiledSchema
 retry : Option RetryPolicy
 control : Control CompiledStep

variable (s : Step)

def Step.id : StepID := s.definition.id

def Step.isControl : Bool :=
 !s.branches.isEmpty || s.fanOut.isSome || s.definition.map.isSome || s.forEach.isSome ||
  s.doWhile.isSome || s.doUntil.isSome || s.definition.sleep.isSome ||
  s.definition.sleepUntil.isSome

def Step.controlCount : Nat :=
 (!s.branches.isEmpty).toNat + s.fanOut.isSome.toNat + s.definition.map.isSome.toNat +
  s.forEach.isSome.toNat + s.doWhile.isSome.toNat + s.doUntil.isSome.toNat +
  s.definition.sleep.isSome.toNat + s.definition.sleepUntil.isSome.toNat

def maxLoopIterations : Int := 4294967294

def require (condition : Bool) (message : String) : Except Err Unit :=
 if condition then .ok () else .error (.new message)

def noHandler (kind : String) (s : Step) : Except Err Unit :=
 require (!s.handler) ("lebro: workflow " ++ kind ++ " step " ++ quote s.id ++
  " must not declare a Handler")

def invalidMapPath (path : String) : Bool :=
 path ≠ "." && (path.startsWith "." || path.endsWith "." || path.contains "..")

def checkMap (m : MapSpec) : Except Err Unit := do
 noHandler "map" s
 require (s.definition.suspendSchema.isEmpty && s.definition.retry.isNone)
  ("lebro: workflow map step " ++ quote s.id ++ " must not declare SuspendSchema or Retry")
 require (m.path = "" || m.fields.isEmpty)
  ("lebro: workflow map step " ++ quote s.id ++ " cannot declare both Path and Fields")
 require (m.path ≠ "" || !m.fields.isEmpty)
  ("lebro: workflow map step " ++ quote s.id ++ " has no Path or Fields")
 require (m.path = "" || !invalidMapPath m.path)
  ("lebro: workflow map step " ++ quote s.id ++ " has invalid Path " ++ quote m.path)
 require (m.fields.all fun f => f.1 ≠ "" && f.2 ≠ "")
  ("lebro: workflow map step " ++ quote s.id ++ " has empty field name or path")
 require (m.fields.all fun f => !invalidMapPath f.2)
  ("lebro: workflow map step " ++ quote s.id ++ " has an invalid field path")

/-- The checks shared by foreach and loop containers: no handler, output contract or retry. -/
def checkContainer (kind : String) (s : Step) : Except Err Unit := do
 noHandler kind s
 require (s.definition.outputSchema.isEmpty && s.definition.suspendSchema.isEmpty &&
   s.definition.retry.isNone)
  ("lebro: workflow " ++ kind ++ " step " ++ quote s.id ++
   " must not declare OutputSchema, SuspendSchema, or Retry")

def checkSplit (kind : String) (s : Step) : Except Err Unit := do
 noHandler kind s
 require s.definition.outputSchema.isEmpty
  ("lebro: workflow " ++ kind ++ " step " ++ quote s.id ++ " must not declare OutputSchema")
 require s.definition.suspendSchema.isEmpty
  ("lebro: workflow " ++ kind ++ " step " ++ quote s.id ++ " must not declare SuspendSchema")
 require s.definition.retry.isNone
  ("lebro: workflow " ++ kind ++ " step " ++ quote s.id ++ " must not declare Retry")

def checkFanOut (fo : FanOut Step) : Except Err Unit := do
 checkSplit "fan-out" s
 require (!fo.branches.isEmpty)
  ("lebro: workflow fan-out step " ++ quote s.id ++ " has no branches")
 require (0 ≤ fo.maxParallel)
  ("lebro: workflow fan-out step " ++ quote s.id ++ " MaxParallel must be >= 0")
 match fo.failurePolicy with
 | some (.other text) => .error (.new ("lebro: workflow fan-out step " ++ quote s.id ++
   " has invalid FailurePolicy " ++ quote text))
 | _ => .ok ()

def checkForEach (fe : ForEach Step) : Except Err Unit := do
 checkContainer "foreach" s
 require (0 ≤ fe.maxParallel)
  ("lebro: workflow foreach step " ++ quote s.id ++ " MaxParallel must be >= 0")
 require (!fe.steps.isEmpty) ("lebro: workflow foreach step " ++ quote s.id ++ " has no steps")
 require (fe.steps.all fun c => !c.isControl)
  ("lebro: workflow foreach step " ++ quote s.id ++ " cannot contain a child control-flow step")

def checkLoop (l : Loop Step) : Except Err Unit := do
 checkContainer "loop" s
 require (1 ≤ l.maxIterations && l.maxIterations ≤ maxLoopIterations)
  ("lebro: workflow loop step " ++ quote s.id ++ " MaxIterations must be between 1 and " ++
   toString maxLoopIterations)
 require l.condition ("lebro: workflow loop step " ++ quote s.id ++ " has nil Condition")
 require (!l.steps.isEmpty) ("lebro: workflow loop step " ++ quote s.id ++ " has no steps")
 require (l.steps.all fun c => !c.isControl)
  ("lebro: workflow loop step " ++ quote s.id ++ " cannot contain a child control-flow step")
 require (l.steps.all fun c => c.definition.suspendSchema.isEmpty)
  ("lebro: workflow loop step " ++ quote s.id ++ " cannot contain a suspendable child step")

def checkSleep : Except Err Unit := do
 noHandler "sleep" s
 require (s.definition.suspendSchema.isEmpty && s.definition.retry.isNone)
  ("lebro: workflow sleep step " ++ quote s.id ++ " must not declare SuspendSchema or Retry")
 require (s.definition.sleep.all fun d => 0 ≤ d)
  ("lebro: workflow sleep step " ++ quote s.id ++ " Duration must be >= 0")
 require (s.definition.sleepUntil.all fun t => t.isSome)
  ("lebro: workflow sleep-until step " ++ quote s.id ++ " At is required")

def checkStep : Except Err Unit := do
 require (s.branches.isEmpty || s.fanOut.isNone)
  ("lebro: workflow step " ++ quote s.id ++ " cannot declare both Branches and FanOut")
 require (s.controlCount ≤ 1)
  ("lebro: workflow step " ++ quote s.id ++ " cannot combine control-flow definitions")
 if !s.branches.isEmpty then checkSplit "branching" s
 else match s.fanOut, s.definition.map, s.forEach, s.doWhile, s.doUntil with
  | some fo, _, _, _, _ => checkFanOut s fo
  | none, some m, _, _, _ => checkMap s m
  | none, none, some fe, _, _ => checkForEach s fe
  | none, none, none, some l, _ => checkLoop s l
  | none, none, none, none, some l => checkLoop s l
  | none, none, none, none, none =>
   if s.definition.sleep.isSome || s.definition.sleepUntil.isSome then checkSleep s
   else require s.handler ("lebro: workflow step " ++ quote s.id ++ " handler is required")

def declaresSchema : Bool :=
 !s.definition.inputSchema.isEmpty || !s.definition.outputSchema.isEmpty ||
  !s.definition.suspendSchema.isEmpty

structure TreeState where
 seen : List StepID
 hasSchema : Bool

def enterStepID (st : TreeState) : Except Err TreeState := do
 require (s.id ≠ "") "lebro: workflow step ID is required"
 require (!st.seen.contains s.id)
  ("lebro: workflow step ID " ++ quote s.id ++ " is already registered")
 .ok { seen := s.id :: st.seen, hasSchema := st.hasSchema || declaresSchema s }

def checkBranchName (kind : String) (id : StepID) (names : List String) (name : String) :
  Except Err Unit := do
 require (name ≠ "")
  ("lebro: workflow " ++ kind ++ " step " ++ quote id ++ " has a branch with empty Name")
 require (!names.contains name)
  ("lebro: workflow " ++ kind ++ " step " ++ quote id ++ " has duplicate branch name " ++
   quote name)

def checkDefault : Except Err Unit :=
 require (s.branches.isEmpty || s.definition.default = "" ||
   s.branches.any fun b => b.name = s.definition.default)
  ("lebro: workflow branching step " ++ quote s.id ++ " default " ++
   quote s.definition.default ++ " is not a declared branch")

mutual

def validateStepTree : List Step → TreeState → Except Err TreeState
 | [], st => .ok st
 | s :: ss, st => do
  let st ← validateStep s st
  validateStepTree ss st

def validateStep : Step → TreeState → Except Err TreeState
 | ⟨d, h, branches, fanOut, forEach, doWhile, doUntil⟩, st => do
  let s : Step := ⟨d, h, branches, fanOut, forEach, doWhile, doUntil⟩
  let st ← enterStepID s st
  checkStep s
  let st ← validateBranches d.id [] branches st
  checkDefault s
  let st ← validateFanOut d.id fanOut st
  let st ← validateForEach forEach st
  let st ← validateLoop doWhile st
  validateLoop doUntil st

def validateBranches (id : StepID) :
  List String → List (Branch Step) → TreeState → Except Err TreeState
 | _, [], st => .ok st
 | names, ⟨name, condition, steps⟩ :: bs, st => do
  checkBranchName "branching" id names name
  require (!steps.isEmpty)
   ("lebro: workflow branch " ++ quote name ++ " at step " ++ quote id ++ " has no steps")
  require condition
   ("lebro: workflow branch " ++ quote name ++ " at step " ++ quote id ++
    " has nil Condition")
  let st ← validateStepTree steps st
  validateBranches id (name :: names) bs st

def validateFanOutBranches (id : StepID) :
  List String → List (FanOutBranch Step) → TreeState → Except Err TreeState
 | _, [], st => .ok st
 | names, ⟨name, _, steps⟩ :: bs, st => do
  checkBranchName "fan-out" id names name
  require (!steps.isEmpty)
   ("lebro: workflow fan-out branch " ++ quote name ++ " at step " ++ quote id ++
    " has no steps")
  let st ← validateStepTree steps st
  validateFanOutBranches id (name :: names) bs st

def validateFanOut (id : StepID) : Option (FanOut Step) → TreeState → Except Err TreeState
 | none, st => .ok st
 | some ⟨branches, _, _⟩, st => validateFanOutBranches id [] branches st

def validateForEach : Option (ForEach Step) → TreeState → Except Err TreeState
 | none, st => .ok st
 | some ⟨steps, _⟩, st => validateStepTree steps st

def validateLoop : Option (Loop Step) → TreeState → Except Err TreeState
 | none, st => .ok st
 | some ⟨steps, _, _⟩, st => validateStepTree steps st

end

def validateRetryPolicy : Option RetryPolicy → Except Err Unit
 | none => .ok ()
 | some p => do
  require (1 ≤ p.attempts) "retry policy attempts must be >= 1"
  require (0 ≤ p.delay) "retry policy delay must be >= 0"

/-- One declared schema through the engine; an absent schema stays absent. -/
def compileSchema (compiler : Option SchemaCompiler) (name : String) :
  RawMessage → Except Err (Option CompiledSchema)
 | .empty => .ok none
 | .malformed _ => .error (.new (name ++ " schema must be valid JSON"))
 | .json v =>
  match compiler with
  | none => .error (.new ("schema compiler is required for the " ++ name ++ " schema"))
  | some compile =>
   match compile v with
   | .error e => .error (e.wrap ("compile " ++ name ++ " schema: "))
   | .ok none => .error (.new ("schema compiler returned a nil " ++ name ++ " schema"))
   | .ok (some c) => .ok (some c)

def compileFailure {α : Type} (context : String) (id : StepID) : Except Err α → Except Err α
 | .ok a => .ok a
 | .error e => .error (e.wrap ("lebro: compile " ++ context ++ " step " ++ quote id ++ ": "))

/-- The form that `executeFrames` gives a compiled step. -/
def chooseControl (d : StepDefinition) (branches : List (CompiledBranch CompiledStep))
  (fanOut forEach doWhile doUntil : Option (Control CompiledStep)) : Control CompiledStep :=
 if !branches.isEmpty then .branches branches d.default
 else match d.map with
  | some m => .map m.path m.fields
  | none =>
   match forEach, doWhile, doUntil, fanOut, d.sleep, d.sleepUntil with
   | some c, _, _, _, _, _ => c
   | none, some c, _, _, _, _ => c
   | none, none, some c, _, _, _ => c
   | none, none, none, some c, _, _ => c
   | none, none, none, none, some t, _ => .sleep t
   | none, none, none, none, none, some t => .sleepUntil (t.getD 0)
   | none, none, none, none, none, none => .handler

mutual

def newCompiledStep (compiler : Option SchemaCompiler) : Step → Except Err CompiledStep
 | ⟨d, h, branches, fanOut, forEach, doWhile, doUntil⟩ => do
  validateRetryPolicy d.retry
  let branches ← compileBranches compiler branches
  let fanOut ← compileFanOut compiler fanOut
  let forEach ← compileForEach compiler forEach
  let doWhile ← compileLoop compiler .whileTrue doWhile
  let doUntil ← compileLoop compiler .untilTrue doUntil
  let inputSchema ← compileSchema compiler "input" d.inputSchema
  let outputSchema ← compileSchema compiler "output" d.outputSchema
  let suspendSchema ← compileSchema compiler "suspend" d.suspendSchema
  .ok { id := d.id, handler := h, inputSchema, outputSchema, suspendSchema, retry := d.retry,
        control := chooseControl d branches fanOut forEach doWhile doUntil }

def compileSteps (compiler : Option SchemaCompiler) (context : String) :
  List Step → Except Err (List CompiledStep)
 | [] => .ok []
 | s :: ss => do
  let c ← compileFailure context s.id (newCompiledStep compiler s)
  let cs ← compileSteps compiler context ss
  .ok (c :: cs)

def compileBranches (compiler : Option SchemaCompiler) :
  List (Branch Step) → Except Err (List (CompiledBranch CompiledStep))
 | [] => .ok []
 | ⟨name, _, steps⟩ :: bs => do
  let steps ← compileSteps compiler ("branch " ++ quote name) steps
  let bs ← compileBranches compiler bs
  .ok ({ name, steps, entryID := (steps.head?.map CompiledStep.id).getD "" } :: bs)

def compileFanOutBranches (compiler : Option SchemaCompiler) :
  List (FanOutBranch Step) → Except Err (List (CompiledFanOutBranch CompiledStep))
 | [] => .ok []
 | ⟨name, inputMapper, steps⟩ :: bs => do
  let steps ← compileSteps compiler ("fan-out branch " ++ quote name) steps
  let bs ← compileFanOutBranches compiler bs
  .ok ({ name, inputMapper, steps } :: bs)

def compileFanOut (compiler : Option SchemaCompiler) :
  Option (FanOut Step) → Except Err (Option (Control CompiledStep))
 | none => .ok none
 | some ⟨branches, maxParallel, policy⟩ => do
  let branches ← compileFanOutBranches compiler branches
  .ok (some (.fanOut branches (max 1 maxParallel.toNat) (policy ≠ some .collectAll)))

def compileForEach (compiler : Option SchemaCompiler) :
  Option (ForEach Step) → Except Err (Option (Control CompiledStep))
 | none => .ok none
 | some ⟨steps, maxParallel⟩ => do
  let steps ← compileSteps compiler "foreach" steps
  .ok (some (.forEach steps (max 1 maxParallel.toNat)))

def compileLoop (compiler : Option SchemaCompiler) (mode : LoopMode) :
  Option (Loop Step) → Except Err (Option (Control CompiledStep))
 | none => .ok none
 | some ⟨steps, maxIterations, _⟩ => do
  let steps ← compileSteps compiler "loop" steps
  .ok (some (.loop steps maxIterations.toNat mode))

end

structure WorkflowDefinition where
 id : WorkflowID
 version : String := ""
deriving DecidableEq

/-- What a workflow is built from. `store` and `policy` say whether one is configured. -/
structure LinearWorkflowConfig where
 definition : WorkflowDefinition
 steps : List Step
 schemaCompiler : Option SchemaCompiler := none
 store : Bool := true
 policy : Bool := true

/-- A built workflow. `executor` tells values apart that share a store; `number` reads a number
literal as the text that `encoding/json` writes for it; `pages` bounds a scan of snapshot pages. -/
structure LinearWorkflow where
 definition : WorkflowDefinition
 steps : List CompiledStep
 store : Bool
 policy : Bool
 executor : Nat
 number : String → Option String
 pages : Nat

def newLinearWorkflow (config : LinearWorkflowConfig) (executor : Nat)
  (number : String → Option String) (pages : Nat) : Except Err LinearWorkflow := do
 require (config.definition.id ≠ "") "lebro: workflow definition ID is required"
 require (!config.steps.isEmpty) "lebro: workflow must have at least one step"
 let tree ← validateStepTree config.steps { seen := [], hasSchema := false }
 require (!tree.hasSchema || config.schemaCompiler.isSome)
  "lebro: workflow schema compiler is required when steps declare schemas"
 let steps ← compileSteps config.schemaCompiler "workflow" config.steps
 .ok { definition := config.definition, steps, store := config.store, policy := config.policy,
       executor, number, pages }

end Lebro.WorkflowSteps
