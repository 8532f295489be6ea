import Storyboard.Proofs.Generation.Verdict
import Storyboard.Proofs.Pipeline.Outline

/-! # Steps that never reshape a run

Moving positions and rounding values change what sprites look like, and nothing else about a run:
with an encoder that fails by windows alone, such steps have no say in whether the run succeeds and
how it fails, in its groups, in which elements are emitted and in which order. Of what is visited
they leave the outlines.
-/

namespace Storyboard

open Traversal StandardStep

variable {σ R Context Built : Type} [Scalar R]

/-- The trace with outlines in place of sprites. -/
def Trace.outline (trace : Trace R) : Trace R :=
  { trace with visited := trace.visited.map (Group.mapSprites Sprite.outline) }

namespace Encoder

variable (encoder : Encoder (StateM σ) R Context Built)

/-- Whether an element can be built in some state, and how that fails. -/
def ending (element : Element R) (s : σ) : Except Failure Unit :=
  ((encoder.build element).run.run s).1.map fun _ => ()

/-- In whatever states, sprites and animations whose windows pass or fail alike can be built alike,
and any other element can be built or not. -/
structure FailsByWindows : Prop where
  drawn : ∀ e e' : Element R, ∀ sprite ∈ e.sprite?, ∀ sprite' ∈ e'.sprite?,
    sprite.check = sprite'.check → ∀ s s', encoder.ending e s = encoder.ending e' s'
  other : ∀ e : Element R, e.sprite? = none → ∀ s s', encoder.ending e s = encoder.ending e s'

variable {encoder}

/-- How an element ends in one state is the verdict on it in all states. -/
theorem FailsByWindows.judges (fails : encoder.FailsByWindows) (s : σ) :
    encoder.Judges fun element => encoder.ending element s := by
  intro element s'
  cases drawn : element.sprite? with
  | none => exact fails.other element drawn s' s
  | some sprite => exact fails.drawn element element sprite drawn sprite drawn rfl s' s

/-- How the build of an element ends is told by its outline. -/
theorem FailsByWindows.ending_mapSprite (fails : encoder.FailsByWindows)
    {f : Sprite R → Sprite R} (keeps : Sprite.KeepsOutline f) (element : Element R) (s : σ) :
    encoder.ending (element.mapSprite f) s = encoder.ending element s := by
  cases drawn : element.sprite? with
  | none =>
    have same : element.mapSprite f = element := by
      cases element with
      | sample _ | video _ => rfl
      | sprite _ | animation _ => cases drawn
    rw [same]
  | some sprite =>
    have redrawn : (element.mapSprite f).sprite? = some (f sprite) := by
      rw [Element.sprite?_mapSprite, drawn]
      rfl
    have windows : (f sprite).windows = sprite.windows :=
      Sprite.windows_eq_of_outline_eq (keeps sprite)
    refine fails.drawn _ _ (f sprite) redrawn sprite drawn ?_ s s
    rw [Sprite.check, Sprite.check, windows]

/-- Encoders that build whatever has no backward window fail by windows. -/
theorem Plain.failsByWindows {first : Context} {product : Element R → Built}
    {add : Context → Layer → Built → Context} (plain : encoder.Plain first product add) :
    encoder.FailsByWindows := by
  have judges : ∀ element s, encoder.ending element s = element.check := plain.judges
  have checked : ∀ e : Element R, ∀ sprite ∈ e.sprite?, e.check = sprite.check := by
    intro e sprite drawn
    rw [Element.check, Element.windows, Option.mem_def.mp drawn]
    rfl
  refine ⟨fun e e' sprite drawn sprite' drawn' same s s' => ?_, fun e _ s s' => ?_⟩
  · rw [judges, judges, checked e sprite drawn, checked e' sprite' drawn', same]
  · rw [judges, judges]

end Encoder

omit [Scalar R] in
theorem StandardStep.exported_others {m : Type → Type} [Monad m] (steps : List (StandardStep m R))
    (groups : List (Group R)) : exported (others steps) groups = exported steps groups := by
  have idle (group : Group R) (kind : StandardStep m R) :
      (!!kind.redraws || kind.keeps group) = kind.keeps group := by
    cases kind <;> rfl
  simp only [exported, others, List.all_filter, idle]

omit [Scalar R] in
theorem Visit.judge_mapSprite {verdict : Element R → Except Failure Unit} {f : Sprite R → Sprite R}
    (blind : ∀ e, verdict (e.mapSprite f) = verdict e) (visits : List (Visit R)) :
    judge verdict (visits.map (mapSprite f)) = judge verdict visits := by
  induction visits with
  | nil => rfl
  | cons visit rest ih =>
    rw [List.map_cons, judge, judge, ih]
    exact congrArg (· >>= fun _ => judge verdict rest) (blind visit.element)

variable {encoder : Encoder (StateM σ) R Context Built}

/-- A run of standard steps as far as it shows in outlines: it does not depend on how sprites are
drawn anew. -/
theorem run_tracedFrom_outlined (fails : encoder.FailsByWindows) (options : RunOptions)
    (steps : List (StandardStep (StateM σ) R)) (before : StepContext R) (harvest : Harvest R)
    (s : σ) :
    ((tracedFrom options (pipeline steps) encoder (pure false) before harvest).run.run s).1.map
        (Prod.map Outcome.bare Trace.outline) =
      let groups := exported steps (Group.ranked options.groupOrder harvest.groups)
      let visits := Visit.keptFrom false (Visit.tour groups)
      (Visit.judge (fun element => encoder.ending element s) visits).map fun _ =>
        ({ result := ()
           elements := (visits.map fun visit => (visit.key, ())).mergeSort fun a b => a.1.le b.1
           groups := Group.names groups
           faulted := before.faulted ++ harvest.faulted
           faults := harvest.faults
           assets := before.assets ++ harvest.assets
           cancelled := false },
          ⟨groups.map (Group.mapSprites Sprite.outline), visits.map Visit.key⟩) := by
  have keeps := keepsOutline_redrawAll steps
  have blind (visits : List (Visit R)) :
      Visit.judge (fun element => encoder.ending element s)
          (visits.map (Visit.mapSprite (redrawAll steps))) =
        Visit.judge (fun element => encoder.ending element s) visits :=
    Visit.judge_mapSprite (fun e => fails.ending_mapSprite keeps e s) visits
  have judged := run_tracedFrom_judged (fails.judges s) options steps before harvest s
  generalize chosen : exported steps (Group.ranked options.groupOrder harvest.groups) = groups
  have outlines : (groups.map (Group.mapSprites (redrawAll steps))).map
      (Group.mapSprites Sprite.outline) = groups.map (Group.mapSprites Sprite.outline) := by
    rw [List.map_map]
    exact List.map_congr_left fun group _ => group.outline_mapSprites keeps
  simp only [prepared, redrawn, chosen, Visit.tour_mapSprites keeps, Visit.keptFrom_mapSprite,
    blind] at judged
  generalize ((tracedFrom options (pipeline steps) encoder (pure false) before harvest).run.run
    s).1 = result at judged
  have outlined : result.map (Prod.map Outcome.bare Trace.outline) =
      (result.map (Prod.map Outcome.bare id)).map (Prod.map id Trace.outline) := by
    cases result <;> rfl
  rw [outlined, judged]
  simp only
  cases Visit.judge (fun element => encoder.ending element s)
    (Visit.keptFrom false (Visit.tour groups)) with
  | error e => rfl
  | ok _ =>
    simp only [Except.map, Prod.map, id, Trace.outline, outlines, List.map_map, Group.names]
    rfl

/-- Steps that draw sprites anew, put in or left out anywhere, have no say in a run with an encoder
that fails by windows: it fails with the same failure, or it succeeds, and then the outcomes differ
at most in what was built and the traces at most inside the outlines. -/
theorem traced_redrawn (fails : encoder.FailsByWindows) (options : RunOptions)
    (scripts : List (Script (StateM σ) R)) {steps steps' : List (StandardStep (StateM σ) R)}
    (same : others steps = others steps') (s : σ) :
    let run := traced options scripts (pipeline steps) encoder (pure false)
    let run' := traced options scripts (pipeline steps') encoder (pure false)
    generate options scripts (pipeline steps) encoder (pure false) = Prod.fst <$> run ∧
      generate options scripts (pipeline steps') encoder (pure false) = Prod.fst <$> run' ∧
      (run.run.run s).1.map (Prod.map Outcome.bare Trace.outline) =
        (run'.run.run s).1.map (Prod.map Outcome.bare Trace.outline) := by
  intro run run'
  refine ⟨generate_eq_map_traced .., generate_eq_map_traced .., ?_⟩
  refine map_run_traced_congr same (fun before harvest s => ?_) s
  rw [run_tracedFrom_outlined fails, run_tracedFrom_outlined fails, ← exported_others steps, same,
    exported_others]

/-- A lamp that moves, with both steps and without them. -/
theorem traced_redrawn_lamp :
    let store : AssetStore (StateM (List Asset)) := ⟨"assets", pure true, fun assets => set assets⟩
    let steps : List (StandardStep (StateM (List Asset)) Double) :=
      [.precision ⟨2, 4, 4⟩, .filter none false, .widescreen widescreenOffset,
        .precision ⟨0, 0, 0⟩, .assets store]
    let steps' : List (StandardStep (StateM (List Asset)) Double) :=
      [.filter none false, .assets store]
    let lamp : Sprite Double :=
      { path := "lamp.png", layer := .foreground, initialPosition := ⟨⟨3⟩, ⟨0⟩⟩
        tracks := { x := [⟨.linear, ⟨0⟩, ⟨5⟩, ⟨3⟩, ⟨7⟩⟩] } }
    let script : Script (StateM (List Asset)) Double :=
      ⟨"lamp", ExceptT.mk fun out => pure (.ok (), out.addElement "front" (.sprite lamp))⟩
    let run (steps : List (StandardStep (StateM (List Asset)) Double)) :=
      (traced {} [script] (pipeline steps) PreviewGraph.encoder (pure false)).run.run []
    others steps = others steps' ∧
      (run steps).1.map (Prod.map Outcome.bare Trace.outline) =
        (run steps').1.map (Prod.map Outcome.bare Trace.outline) := by
  intro store steps steps' lamp script run
  have same : others steps = others steps' := rfl
  obtain ⟨-, -, unseen⟩ := traced_redrawn PreviewGraph.plain.failsByWindows {} [script] same []
  exact ⟨same, unseen⟩

end Storyboard
