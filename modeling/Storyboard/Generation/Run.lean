import Storyboard.Generation.Visit
import Storyboard.Pipeline.Step

/-! # A run from scripts to output

All scripts run and their groups are merged by name and ranked; the pipeline chooses and changes
groups; an encoder builds the elements that are left. A script that fails is reported and leaves
nothing else behind. A run that is cancelled ends early, without the last phase of the pipeline.
-/

namespace Storyboard

/-- Choices about a run. -/
structure RunOptions where
  /-- The ranking of groups by name. -/
  groupOrder : Option (List String) := none
  /-- Whether scripts may run at the same time. -/
  parallel : Bool := true
  /-- How many scripts may run at the same time. -/
  threads : Option Nat := none
  deriving DecidableEq, Repr

/-- The result of a run. -/
structure Outcome (Context Built : Type) where
  result : Context
  /-- What was emitted, by key. -/
  elements : List (ElementKey × Built)
  groups : List String
  /-- The names of the scripts that failed. -/
  faulted : List String
  faults : List Failure
  /-- The assets of the scripts that finished. -/
  assets : List Asset
  cancelled : Bool
  deriving DecidableEq

/-- What the scripts of a run have given together. -/
structure Harvest (R : Type) where
  /-- The groups, merged by name. -/
  groups : List (Group R) := []
  /-- The assets in the order of the scripts. -/
  assets : List Asset := []
  /-- The names of the scripts that failed. -/
  faulted : List String := []
  faults : List Failure := []
  deriving DecidableEq

variable {R : Type}

namespace Harvest

/-- Takes in what came of a script. -/
def add (harvest : Harvest R) (name : String) : ScriptRun R → Harvest R
  | .done groups assets =>
    { harvest with
      groups := Group.mergeAll harvest.groups groups
      assets := harvest.assets ++ assets }
  | .faulted report =>
    { harvest with
      faulted := harvest.faulted ++ [name]
      faults := harvest.faults ++ [.scriptFault name report] }

/-- Takes in what came of scripts in turn. -/
def ofRuns (runs : List (String × ScriptRun R)) : Harvest R :=
  runs.foldl (fun harvest (name, run) => harvest.add name run) {}

/-- The context that the pipeline starts from, with the groups ranked. -/
def toContext (harvest : Harvest R) (order : Option (List String)) (before : StepContext R) :
    StepContext R :=
  { groups := Group.ranked order harvest.groups
    assets := before.assets ++ harvest.assets
    faulted := before.faulted ++ harvest.faulted }

end Harvest

/-- The failure of a run that may not run any script. -/
def threadsFailure : Failure := .validation "generator 'threads' must be >= 1 when set"

variable {m : Type → Type} [Monad m] {Context Built : Type}

def runScripts : List (Script m R) → m (List (String × ScriptRun R))
  | [] => return []
  | script :: rest => do
    let run ← script.run
    let runs ← runScripts rest
    return (script.name, run) :: runs

/-- The part of a run between the encoder's start and its end. -/
def encodeGroups [Scalar R] (pipeline : Pipeline m R) (encoder : Encoder m R Context Built)
    (isCancelled : m Bool) (context : StepContext R) (result : Context) :
    ExceptT Failure m (StepContext R × Walk Context Built × Bool) := do
  if ← (isCancelled : m Bool) then return (context, { context := result }, true)
  let context ← pipeline.runOn .preGenerate context
  let context ← pipeline.runOn .postProcess context
  let (walk, cancelled) ← encoder.visit isCancelled context.groups result
  return (context, walk, cancelled)

/-- Runs scripts, pipeline and encoder. -/
def generate [Scalar R] (options : RunOptions) (scripts : List (Script m R))
    (pipeline : Pipeline m R) (encoder : Encoder m R Context Built) (isCancelled : m Bool) :
    ExceptT Failure m (Outcome Context Built) := do
  let before ← pipeline.runOn .preProcess {}
  if options.threads = some 0 then throw threadsFailure
  let runs ← (runScripts scripts : m _)
  let harvest := Harvest.ofRuns runs
  let result ← (encoder.start : m Context)
  let (context, walk, cancelled) ←
    encodeGroups pipeline encoder isCancelled (harvest.toContext options.groupOrder before) result
  let result ← (encoder.finish walk.context : m Context)
  let context ← if cancelled then pure context else pipeline.runOn .postGenerate context
  return {
    result
    elements := (walk.emitted.map fun e => (e.key, e.built)).mergeSort fun a b => a.1.le b.1
    groups := Group.names context.groups
    faulted := context.faulted
    faults := harvest.faults
    assets := context.assets
    cancelled }

end Storyboard
