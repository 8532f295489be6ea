import Storyboard.Group
import Storyboard.Asset.Source

/-! # Scripts

A script fills an output with groups, assets and at most one video. Operations on an output only
append, and one that fails changes nothing. Scripts run in some monad `m`, in which they may also
look whether the run has been cancelled; a script that fails leaves no output behind.
-/

namespace Storyboard

/-- What a script has produced so far. -/
structure ScriptOutput (R : Type) where
  /-- The groups in the order in which they were first mentioned. -/
  groups : List (Group R) := []
  /-- The assets in the order in which they were requested. -/
  assets : List Asset := []
  /-- Whether the video has been set. -/
  hasVideo : Bool := false
  deriving DecidableEq

namespace ScriptOutput

variable {R : Type}

/-- Changes a group, which is created if it is not there. -/
def updateGroup (out : ScriptOutput R) (name : String) (f : Group R → Group R) : ScriptOutput R :=
  { out with groups := Group.update name f out.groups }

/-- Creates a group if it is not there. -/
def ensureGroup (out : ScriptOutput R) (name : String) : ScriptOutput R := out.updateGroup name id

def addElement (out : ScriptOutput R) (group : String) (element : Element R) : ScriptOutput R :=
  out.updateGroup group fun g => g.extend [element]

/-- Places the video into a group; only one video can be set. -/
def setVideo (out : ScriptOutput R) (group path : String) (startTime : R) :
    Except Failure (ScriptOutput R) :=
  if out.hasVideo then .error (.invalidState "a script can only set one video")
  else .ok ({ out with hasVideo := true }.addElement group (.video ⟨path, startTime⟩))

/-- Requests an image and gives the normal form of its path. -/
def requestAsset [SeededDigest] (out : ScriptOutput R) (path : String) (source : AssetSource) :
    Except Failure (String × ScriptOutput R) := do
  let asset ← Asset.new path source
  return (asset.path, { out with assets := out.assets ++ [asset] })

/-- Appends the elements of a declared group; the first declaration with room gives the settings. -/
def declare (out : ScriptOutput R) (declared : Group R) : ScriptOutput R :=
  out.updateGroup declared.name fun g =>
    let g := if g.elements.isEmpty then
        { g with target := declared.target, visible := declared.visible }
      else g
    g.extend declared.elements

end ScriptOutput

/-- The request of an asset in a project. -/
structure AssetRequest where
  /-- The path as it is written. -/
  path : String
  source : AssetSource
  deriving DecidableEq

namespace ScriptOutput

variable {R : Type}

/-- Requests assets up to the first one whose path is refused. -/
def requestAll [SeededDigest] (out : ScriptOutput R) :
    List AssetRequest → ScriptOutput R × Option Failure
  | [] => (out, none)
  | request :: rest =>
    match out.requestAsset request.path request.source with
    | .ok (_, out) => out.requestAll rest
    | .error e => (out, some e)

end ScriptOutput

/-- A script whose output is given as data. -/
structure DeclaredScript (R : Type) where
  name : String
  groups : List (Group R) := []
  assets : List AssetRequest := []
  deriving DecidableEq

/-- Why a script does not finish. -/
inductive ScriptFailure where
  | failed (failure : Failure)
  /-- It breaks off, with a message or without. -/
  | aborted (message : Option String)
  deriving DecidableEq, Repr

def ScriptFailure.report : ScriptFailure → String
  | .failed failure => failure.fullMessage
  | .aborted (some message) => "panicked: " ++ message
  | .aborted none => "panicked"

/-- A step of a script: it changes the output, and may fail. -/
abbrev ScriptM (m : Type → Type) (R α : Type) :=
  ExceptT ScriptFailure (StateT (ScriptOutput R) m) α

/-- A named piece of work that produces groups and assets. -/
structure Script (m : Type → Type) (R : Type) where
  /-- The name, by which failures are reported. -/
  name : String
  body : ScriptM m R Unit

/-- What came of a script. -/
inductive ScriptRun (R : Type) where
  /-- It finished with some groups and assets. -/
  | done (groups : List (Group R)) (assets : List Asset)
  /-- It failed, and its output is dropped. -/
  | faulted (report : String)
  deriving DecidableEq

variable {m : Type → Type} [Monad m] {R : Type}

def Script.run (script : Script m R) : m (ScriptRun R) := do
  let (result, out) ← (script.body.run).run {}
  match result with
  | .ok () => return .done out.groups out.assets
  | .error e => return .faulted e.report

namespace DeclaredScript

/-- Declares groups in turn until the run is cancelled. -/
def declareGroups (isCancelled : m Bool) : List (Group R) → ScriptOutput R → m (ScriptOutput R)
  | [], out => pure out
  | g :: rest, out => do
    if ← isCancelled then return out
    declareGroups isCancelled rest (out.declare g)

/-- The groups, then the assets; the first refused path is the failure. -/
def body [SeededDigest] (script : DeclaredScript R) (isCancelled : m Bool) : ScriptM m R Unit :=
  ExceptT.mk fun out => do
    let out ← declareGroups isCancelled script.groups out
    let (out, failure) := out.requestAll script.assets
    match failure with
    | none => return (.ok (), out)
    | some e => return (.error (.failed e), out)

def toScript [SeededDigest] (script : DeclaredScript R) (isCancelled : m Bool) : Script m R :=
  ⟨script.name, script.body isCancelled⟩

end DeclaredScript

end Storyboard
