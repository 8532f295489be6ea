import Storyboard.Asset.Lettering
import Storyboard.Disk.Basic
import Storyboard.Disk.Path

/-! # Making assets

Draws the image of an asset and writes it below the asset root. Lettering takes its font from
there too; a font that is missing or cannot be used is a missing resource, and nothing is written.
Which engine draws the lettering is left open.
-/

namespace Storyboard

variable {m : Type → Type} [Monad m]

namespace Asset

/-- Where a path of an asset leads below the asset root. -/
def destination (root path : String) : Except Failure String := do
  let path ← AssetPath.normalize path
  return FilePath.join root path

end Asset

namespace AssetSource

/-- A filled rectangle with at least one pixel. -/
def drawSolid (width height : Nat) (rgba : Rgba) : Except Failure Image :=
  if width = 0 ∨ height = 0 then .error (.validation "solid asset must be at least 1x1")
  else .ok (Image.solid width height rgba)

/-- A line of text in a font from below the asset root. -/
def drawText [TextEngine] (disk : Disk m) (root text font : String) (sizePx : Float32)
    (rgba : Rgba) : ExceptT Failure m Image := do
  if !Lettering.isSize sizePx then throw Lettering.sizeFailure
  let path ← ExceptT.mk (return Asset.destination root font)
  let file ← (disk.read path : m ReadResult)
  match file with
  | .found bytes => ExceptT.mk (return Lettering.draw path bytes text sizePx rgba)
  | _ => throw (Lettering.missingFailure path)

def draw [TextEngine] (disk : Disk m) (root : String) : AssetSource → ExceptT Failure m Image
  | .solid width height rgba => ExceptT.mk (return drawSolid width height rgba)
  | .lettering text font sizePx rgba => drawText disk root text font sizePx rgba

end AssetSource

namespace Asset

def directoryFailure (path : String) : Failure := .other s!"create asset dir '{path}'" []

def writeFailure (path : String) : Failure := .other s!"write asset '{path}'" []

/-- Draws an asset and writes it in place of what is there. -/
def materialize [TextEngine] (disk : Disk m) (root : String) (asset : Asset) :
    ExceptT Failure m Unit := do
  let path ← ExceptT.mk (return destination root asset.path)
  let image ← asset.source.draw disk root
  match FilePath.parent? path with
  | some parent =>
    let ready ← (disk.makeDirectories parent : m Bool)
    if !ready then throw (directoryFailure parent)
  | none => pure ()
  let written ← (disk.write path (.image image) : m Bool)
  if !written then throw (writeFailure path)

end Asset

end Storyboard
