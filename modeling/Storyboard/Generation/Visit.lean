import Storyboard.Generation.Order

/-! # Visiting elements

An encoder builds the elements one by one in visiting order. What has been built of a group is
emitted when the whole group has been built, so a group that is cancelled leaves no trace. Only
the first video of a walk is built.
-/

namespace Storyboard

/-- An output format: how elements are built and collected in a context. -/
structure Encoder (m : Type → Type) (R Context Built : Type) where
  /-- A context without elements. -/
  start : m Context
  build : Element R → ExceptT Failure m Built
  /-- Adds what was built for a layer to the context. -/
  emit : Context → Layer → Built → m Context
  finish : Context → m Context

/-- Where an element stands in the merged groups. -/
structure ElementKey where
  group : Nat
  /-- Its place in the declaration of the group. -/
  element : Nat
  deriving DecidableEq, Repr

namespace ElementKey

/-- The order of keys: by group, then by element. -/
def le (k l : ElementKey) : Bool :=
  k.group < l.group || (k.group == l.group && k.element ≤ l.element)

end ElementKey

/-- What was built for an element. -/
structure Emission (Built : Type) where
  key : ElementKey
  layer : Layer
  built : Built
  deriving DecidableEq, Repr

/-- How far a walk over the groups has come. -/
structure Walk (Context Built : Type) where
  context : Context
  /-- What has been emitted, in order. -/
  emitted : List (Emission Built) := []
  /-- Whether a video has been built. -/
  videoSeen : Bool := false
  deriving DecidableEq, Repr

/-- A group that has been built, or is being built. -/
structure Staging (Built : Type) where
  /-- What has been built, in order. -/
  staged : List (Emission Built) := []
  /-- Whether a video has been built, in this group or before. -/
  videoSeen : Bool
  deriving DecidableEq, Repr

variable {m : Type → Type} [Monad m] {R Context Built : Type}

namespace Encoder

/-- Builds elements in turn; there is no result if the run is cancelled before the last one. -/
def buildStops (encoder : Encoder m R Context Built) (isCancelled : m Bool) (group : Nat) :
    List (Stop R) → Staging Built → ExceptT Failure m (Option (Staging Built))
  | [], staging => return some staging
  | stop :: rest, staging => do
    if ← (isCancelled : m Bool) then return none
    if stop.element.isVideo && staging.videoSeen then
      buildStops encoder isCancelled group rest staging
    else
      let built ← encoder.build stop.element
      let emission := ⟨⟨group, stop.index⟩, stop.element.layer, built⟩
      buildStops encoder isCancelled group rest
        { staged := staging.staged ++ [emission]
          videoSeen := staging.videoSeen || stop.element.isVideo }

/-- Emits in turn what was built. -/
def emitAll (encoder : Encoder m R Context Built) : List (Emission Built) → Context → m Context
  | [], context => pure context
  | emission :: rest, context => do
    let context ← encoder.emit context emission.layer emission.built
    emitAll encoder rest context

variable [Scalar R]

/-- Visits groups in turn from a place on, and says whether the walk was cancelled. -/
def visitFrom (encoder : Encoder m R Context Built) (isCancelled : m Bool) :
    Nat → List (Group R) → Walk Context Built → ExceptT Failure m (Walk Context Built × Bool)
  | _, [], walk => return (walk, false)
  | place, group :: rest, walk => do
    if ← (isCancelled : m Bool) then return (walk, true)
    let staging ← encoder.buildStops isCancelled place (Stop.visiting group.elements)
      { videoSeen := walk.videoSeen }
    match staging with
    | none => return (walk, true)
    | some staging =>
      let context ← (encoder.emitAll staging.staged walk.context : m Context)
      visitFrom encoder isCancelled (place + 1) rest
        { context, emitted := walk.emitted ++ staging.staged, videoSeen := staging.videoSeen }

def visit (encoder : Encoder m R Context Built) (isCancelled : m Bool) (groups : List (Group R))
    (context : Context) : ExceptT Failure m (Walk Context Built × Bool) :=
  encoder.visitFrom isCancelled 0 groups { context }

end Encoder

end Storyboard
