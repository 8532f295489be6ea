import Storyboard.Blank
import Storyboard.Failure
import Storyboard.Number.Rounding

/-! # Settings of the standard pipeline -/

namespace Storyboard

/-- Which groups are exported and how their values are changed. -/
structure PipelineConfig where
  /-- The export that is made; without one, all groups belong to it. -/
  exportTarget : Option String := none
  includeHidden : Bool := false
  /-- Whether positions are moved for a wide play area. -/
  widescreen : Bool := false
  /-- Places kept in positions and scales. -/
  movePrecision : Nat := 4
  /-- Places kept in opacities. -/
  alphaPrecision : Nat := 4
  /-- Places kept in angles. -/
  rotationPrecision : Nat := 4
  round : Bool := true
  deriving DecidableEq, Repr

namespace PipelineConfig

/-- The precisions by name, in the order in which they are checked. -/
def precisions (config : PipelineConfig) : List (String × Nat) :=
  [("move_precision", config.movePrecision), ("alpha_precision", config.alphaPrecision),
    ("rotation_precision", config.rotationPrecision)]

/-- The failure of a precision that rounding does not support. -/
def precisionFailure (name : String) (digits : Nat) : Failure :=
  .validation s!"{name} must be <= {maxPlaces}, got {digits}"

/-- Fails for a precision that is too large, then for a blank export target. -/
def validate (config : PipelineConfig) : Except Failure Unit :=
  match config.precisions.find? fun p => decide (maxPlaces < p.2) with
  | some (name, digits) => .error (precisionFailure name digits)
  | none =>
    if config.exportTarget.any isBlankText then
      .error (.validation "export_target must be non-empty when set")
    else .ok ()

end PipelineConfig

end Storyboard
