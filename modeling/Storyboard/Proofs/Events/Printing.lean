import Storyboard.Proofs.Generation.Plain

/-! # What a walk prints

A walk that comes to its end has appended the lines of every element that it visited. So the text of
a run consists of the lines of all elements but the extra videos, section by section.
-/

namespace Storyboard

/-- The elements of a run in the order in which they are printed. -/
def printed (groups : List (Group Double)) : List (Element Double) :=
  (Visit.kept (Visit.tour groups)).map Visit.element

end Storyboard
