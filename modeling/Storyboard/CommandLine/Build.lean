import Storyboard.Asset.Cache
import Storyboard.Asset.Digest
import Storyboard.CommandLine.Arguments
import Storyboard.Events.Document
import Storyboard.Font.Engine
import Storyboard.Pipeline.Standard
import Storyboard.Project.Reader
import Storyboard.Project.Writer
import Storyboard.Json.Printer

/-! # Builds

Reads a project from a disk, runs its scripts through the standard pipeline and writes the result.
The assets that the scripts ask for are made before the result is written. Failures of scripts are
reported and do not stop a build.
-/

namespace Storyboard

namespace Project

def openFailure (path : String) : Failure := .other s!"open project '{path}'" []

/-- The project in a file. -/
def load {m : Type → Type} [Monad m] (disk : Disk m) (path : String) :
    ExceptT Failure m (Project Double) := do
  let file ← (disk.read path : m ReadResult)
  match file with
  | .missing => throw (openFailure path)
  | .unreadable => throw malformed
  | .found bytes => ExceptT.mk (return ofBytes bytes)

/-- The project with settings of the command line in place of its own. -/
def withOverrides {R : Type} (project : Project R) (widescreen : Bool) (target : Option String) :
    Project R :=
  { project with
    config := { project.config with
      widescreen := widescreen || project.config.widescreen
      exportTarget := target.orElse fun _ => project.config.exportTarget } }

def asksForAssets {R : Type} (project : Project R) : Bool :=
  project.scripts.any fun script => !script.assets.isEmpty

end Project

def Cache.store {m : Type → Type} [Monad m] (disk : Disk m) (root : String) :
    AssetStore (StateT Cache m) where
  root := root
  prepare := disk.makeDirectories root
  apply assets := modify fun cache => cache.apply assets

namespace BuildRequest

/-- The directory of generated images: next to the project, unless there is another one. -/
def root (request : BuildRequest) : String :=
  request.assetsRoot.getD ((FilePath.parent? request.input).getD ".")

abbrev Product := String × List Failure

variable {m : Type → Type} [Monad m]

def generateText (request : BuildRequest) (project : Project Double)
    (store : Option (AssetStore m)) : ExceptT Failure m Product := do
  let pipeline ← ExceptT.mk (return Pipeline.standard project.config store)
  let options := project.runOptions request.threads
  let isCancelled : m Bool := return false
  let scripts := project.toScripts isCancelled
  match request.format with
  | .events =>
    let outcome ← generate options scripts pipeline EventDocument.encoder isCancelled
    return (outcome.result.render, outcome.faults)
  | .preview =>
    let outcome ← generate options scripts pipeline PreviewGraph.encoder isCancelled
    return (outcome.result.toJson.indented, outcome.faults)

def produce (disk : Disk m) (request : BuildRequest) (project : Project Double) :
    ExceptT Failure m Product :=
  if project.asksForAssets then ExceptT.mk do
    let store := Cache.store disk request.root
    let (result, cache) ← (request.generateText project (some store)).run.run {}
    if result.isOk then
      let _ ← cache.runScheduled (AssetFiles.ofDisk disk request.root)
    return result
  else request.generateText project none

def directoryFailure (path : String) : Failure := .other s!"create output dir '{path}'" []

def writeFailure (path : String) : Failure := .other s!"write output '{path}'" []

/-- Writes the result. -/
def deliver (disk : Disk m) (request : BuildRequest) (text : String) : ExceptT Failure m Unit := do
  match FilePath.parent? request.output with
  | some parent =>
    if !parent.isEmpty then
      let ready ← (disk.makeDirectories parent : m Bool)
      if !ready then throw (directoryFailure parent)
  | none => pure ()
  let written ← (disk.write request.output (.bytes text.toUTF8) : m Bool)
  if !written then throw (writeFailure request.output)

/-- What is told about a build. -/
structure Report where
  faults : List Failure
  failure : Option Failure
  deriving DecidableEq

def run (disk : Disk m) (request : BuildRequest) : m Report := do
  let product ← ExceptT.run do
    let project ← Project.load disk request.input
    request.produce disk (project.withOverrides request.widescreen request.target)
  match product with
  | .error e => return ⟨[], some e⟩
  | .ok (text, faults) =>
    match ← (request.deliver disk text).run with
    | .ok () => return ⟨faults, none⟩
    | .error e => return ⟨faults, some e⟩

end BuildRequest

end Storyboard
