import Storyboard.Preview.Node
import Storyboard.Generation.Visit

/-! # The preview graph

The video, and for each layer the nodes of its elements in the order of emission.
-/

namespace Storyboard

/-- The nodes of a storyboard. -/
structure PreviewGraph (R : Type) where
  /-- The video, if there is one. -/
  video : Option (VideoNode R) := none
  layers : PerLayer (List (PreviewNode R)) := PerLayer.replicate []
  deriving DecidableEq, Repr

namespace PreviewGraph

variable {R : Type}

/-- Adds a node; a video takes the place of the one before. -/
def add (graph : PreviewGraph R) (layer : Layer) : PreviewNode R → PreviewGraph R
  | .video node => { graph with video := some node }
  | node => { graph with layers := graph.layers.modify (fun nodes => nodes ++ [node]) layer }

def encoder [Scalar R] {m : Type → Type} [Monad m] :
    Encoder m R (PreviewGraph R) (PreviewNode R) where
  start := return {}
  build e := ExceptT.mk (return e.previewNode)
  emit graph layer node := return graph.add layer node
  finish graph := return graph

end PreviewGraph

end Storyboard
