import Storyboard.Pipeline.Config
import Storyboard.Script
import Storyboard.Generation.Run

/-! # Projects

A project is all of a storyboard as data: settings, a ranking of groups and declared scripts. It is
valid if its settings are and if its scripts have names that are not blank and all different.
-/

namespace Storyboard

/-- A storyboard as data. -/
structure Project (R : Type) where
  config : PipelineConfig := {}
  /-- The ranking of groups by name. -/
  groupOrder : Option (List String) := none
  scripts : List (DeclaredScript R) := []
  deriving DecidableEq

namespace Project

variable {R : Type}

def blankNameFailure (place : Nat) : Failure := .validation s!"script #{place} has an empty name"

def duplicateNameFailure (name : String) : Failure :=
  .validation s!"duplicate script name '{name}'"

/-- Checks names in turn from a place on, with those seen before. -/
def checkNames : Nat → List String → List String → Except Failure Unit
  | _, _, [] => .ok ()
  | place, seen, name :: rest =>
    if isBlankText name then .error (blankNameFailure place)
    else if name ∈ seen then .error (duplicateNameFailure name)
    else checkNames (place + 1) (name :: seen) rest

/-- Checks the settings, then the names of the scripts. -/
def validate (project : Project R) : Except Failure Unit := do
  project.config.validate
  checkNames 0 [] (project.scripts.map DeclaredScript.name)

def runOptions (project : Project R) (threads : Option Nat) : RunOptions :=
  { groupOrder := project.groupOrder, threads }

/-- The scripts in the order of declaration. -/
def toScripts [SeededDigest] {m : Type → Type} [Monad m] (project : Project R)
    (isCancelled : m Bool) : List (Script m R) :=
  project.scripts.map fun script => script.toScript isCancelled

end Project

end Storyboard
