import Storyboard.QuotedName
import Storyboard.Script

/-! # Pipelines

A pipeline is a list of steps around a run. At each phase of the run every step's hook is called
in order until one fails; a failure that is a chain of messages is given the step and phase as its
outermost message. Hooks see and change the groups, the assets and the names of failed scripts.
-/

namespace Storyboard

/-- What hooks see and change. -/
structure StepContext (R : Type) where
  /-- The merged groups; there are none before the scripts have run. -/
  groups : List (Group R) := []
  /-- The assets of the scripts that finished. -/
  assets : List Asset := []
  /-- The names of the scripts that failed. -/
  faulted : List String := []
  deriving DecidableEq

/-- The moments of a run at which hooks are called. -/
inductive Phase where
  /-- Before the scripts run. -/
  | preProcess
  /-- When the groups have been merged. -/
  | preGenerate
  /-- When groups have been chosen, before elements are built. -/
  | postProcess
  /-- When everything has been built. -/
  | postGenerate
  deriving DecidableEq, Repr

namespace Phase

/-- Every phase in the order of a run. -/
def all : List Phase := [preProcess, preGenerate, postProcess, postGenerate]

def name : Phase → String
  | preProcess => "PreProcess"
  | preGenerate => "PreGenerate"
  | postProcess => "PostProcess"
  | postGenerate => "PostGenerate"

def ofName? (name : String) : Option Phase := all.find? fun phase => phase.name == name

end Phase

/-- Work of a hook: it changes the context, and may fail. -/
abbrev HookM (m : Type → Type) (R α : Type) := ExceptT Failure (StateT (StepContext R) m) α

/-- A step by its name and its hooks. -/
structure Step (m : Type → Type) (R : Type) where
  name : String
  /-- What is done at a phase. -/
  hook : Phase → HookM m R Unit

/-- Steps in the order in which their hooks are called. -/
abbrev Pipeline (m : Type → Type) (R : Type) := List (Step m R)

variable {m : Type → Type} [Monad m] {R : Type}

namespace Step

/-- A step that changes the context at one phase and cannot fail. -/
def transform (name : String) (phase : Phase) (f : StepContext R → StepContext R) : Step m R where
  name
  hook moment := if moment = phase then modify f else return ()

/-- The message around the failure of a hook. -/
def failureContext (name : String) (phase : Phase) : String :=
  let phase := phase.name
  s!"step '{name}' failed during {phase}"

/-- A hook whose failures say where they happened. -/
def call (step : Step m R) (phase : Phase) : HookM m R Unit :=
  ExceptT.adapt (Failure.inContext (failureContext step.name phase)) (step.hook phase)

end Step

namespace Pipeline

def names (pipeline : Pipeline m R) : List String := pipeline.map Step.name

/-- Calls the hooks of a phase in order, up to the first one that fails. -/
def run : Pipeline m R → Phase → HookM m R Unit
  | [], _ => return ()
  | step :: rest, phase => do
    step.call phase
    run rest phase

/-- The context after a phase in which no hook failed. -/
def runOn (pipeline : Pipeline m R) (phase : Phase) (context : StepContext R) :
    ExceptT Failure m (StepContext R) :=
  ExceptT.mk do
    let (result, context) ← (pipeline.run phase).run.run context
    return result.map fun _ => context

/-- The quoted names of the steps in brackets. -/
def listing (pipeline : Pipeline m R) : String :=
  "[" ++ ", ".intercalate (pipeline.names.map QuotedName.write) ++ "]"

end Pipeline

end Storyboard
