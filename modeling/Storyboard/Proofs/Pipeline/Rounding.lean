import Storyboard.Number.Double
import Storyboard.Proofs.Number.Rounding
import Storyboard.Proofs.Pipeline.Standard

/-! # Rounding twice

A second run of the rounding step gives the groups of the first one exactly if it changes none of
the numbers that are rounded, one by one. In exact arithmetic these are the numbers that are not
too many units from zero.
-/

namespace Storyboard

variable {R V : Type}

/-! ## Numbers that are rounded -/

/-- A number and how many of its places are kept. -/
structure Kept (R : Type) where
  number : R
  places : Nat

/-- The values of a track, two for each command. -/
def Track.values (track : Track R V) : List V := track.flatMap fun c => [c.startValue, c.endValue]

/-- Both coordinates of a point. -/
def Vec2.kept (places : Nat) (v : Vec2 R) : List (Kept R) := [⟨v.x, places⟩, ⟨v.y, places⟩]

/-- The numbers on all tracks that are rounded. -/
def Tracks.kept (p : Precision) (tracks : Tracks R) : List (Kept R) :=
  (Track.values tracks.position).flatMap (Vec2.kept p.move) ++
    (Track.values tracks.x).map (Kept.mk · p.move) ++
    (Track.values tracks.y).map (Kept.mk · p.move) ++
    (Track.values tracks.scale).map (Kept.mk · p.move) ++
    (Track.values tracks.scaleVec).flatMap (Vec2.kept p.move) ++
    (Track.values tracks.rotation).map (Kept.mk · p.rotation) ++
    (Track.values tracks.opacity).map (Kept.mk · p.alpha)

/-- The numbers of a sprite that are rounded. -/
def Sprite.kept (p : Precision) (s : Sprite R) : List (Kept R) :=
  s.initialPosition.kept p.move ++ s.allTracks.flatMap (Tracks.kept p)

/-- The numbers of an element that are rounded. -/
def Element.kept (p : Precision) (e : Element R) : List (Kept R) :=
  e.sprite?.toList.flatMap (Sprite.kept p)

/-- The numbers of a group that are rounded. -/
def Group.kept (p : Precision) (g : Group R) : List (Kept R) := g.elements.flatMap (Element.kept p)

/-! ## Changes that change nothing more -/

theorem Track.mapValues_mapValues_eq_iff {f : V → V} {track : Track R V} :
    mapValues f (mapValues f track) = mapValues f track ↔ ∀ v ∈ values track, f (f v) = f v := by
  simp only [mapValues, values, List.map_map, List.map_inj_left, List.forall_mem_flatMap,
    Function.comp_apply, Command.map, Command.mk.injEq, true_and, List.forall_mem_cons,
    List.not_mem_nil, false_implies, implies_true, and_true]

theorem Sprite.mapTracks_mapTracks_eq_iff {f : Tracks R → Tracks R} {s : Sprite R} :
    (s.mapTracks f).mapTracks f = s.mapTracks f ↔
      ∀ tracks ∈ s.allTracks, f (f tracks) = f tracks := by
  simp [mapTracks, allTracks, List.map_inj_left, or_imp, forall_and]

theorem Element.mapSprite_mapSprite_eq_iff {f : Sprite R → Sprite R} {e : Element R} :
    (e.mapSprite f).mapSprite f = e.mapSprite f ↔ ∀ s ∈ e.sprite?, f (f s) = f s := by
  cases e <;> simp [mapSprite, sprite?]

variable [Scalar R]

/-- Rounding changes the number once at most. -/
def Kept.Settles (n : Kept R) : Prop :=
  roundTo (roundTo n.number n.places) n.places = roundTo n.number n.places

theorem Vec2.map_map_eq_iff {places : Nat} {v : Vec2 R} :
    (v.map (roundTo · places)).map (roundTo · places) = v.map (roundTo · places) ↔
      ∀ n ∈ v.kept places, n.Settles := by
  simp [map, kept, Kept.Settles]

theorem Tracks.round_round_eq_iff {p : Precision} {tracks : Tracks R} :
    (tracks.round p).round p = tracks.round p ↔ ∀ n ∈ tracks.kept p, n.Settles := by
  simp only [round, Tracks.mk.injEq, Track.mapValues_mapValues_eq_iff, Vec2.map_map_eq_iff, kept,
    List.forall_mem_append, List.forall_mem_map, List.forall_mem_flatMap, Kept.Settles, and_assoc,
    true_and, and_true]

/-- Rounding a sprite again changes nothing exactly if all its numbers settle at once. -/
theorem Sprite.round_round_eq_iff {p : Precision} {s : Sprite R} :
    (s.round p).round p = s.round p ↔ ∀ n ∈ s.kept p, n.Settles := by
  have parts : (s.round p).round p = s.round p ↔
      (s.initialPosition.map (roundTo · p.move)).map (roundTo · p.move) =
          s.initialPosition.map (roundTo · p.move) ∧
        (s.mapTracks (Tracks.round p)).mapTracks (Tracks.round p) =
          s.mapTracks (Tracks.round p) := by
    simp only [round, mapTracks, Sprite.mk.injEq, true_and, and_true]
  rw [parts, mapTracks_mapTracks_eq_iff, Vec2.map_map_eq_iff]
  simp only [kept, List.forall_mem_append, List.forall_mem_flatMap, Tracks.round_round_eq_iff]

theorem Group.round_round_eq_iff {p : Precision} {g : Group R} :
    (g.mapSprites (Sprite.round p)).mapSprites (Sprite.round p) =
      g.mapSprites (Sprite.round p) ↔ ∀ n ∈ g.kept p, n.Settles := by
  simp only [mapSprites, Group.mk.injEq, List.map_map, List.map_inj_left, Function.comp_apply,
    Element.mapSprite_mapSprite_eq_iff, Sprite.round_round_eq_iff, kept, Element.kept,
    List.forall_mem_flatMap, Option.mem_toList, Option.mem_def, true_and]

/-! ## The step -/

def StepContext.rounded (p : Precision) (context : StepContext R) : StepContext R :=
  context.mapGroups (Group.mapSprites (Sprite.round p))

section Runs

variable {m : Type → Type} [Monad m] [LawfulMonad m] (p : Precision) (context : StepContext R)

theorem runOn_precision :
    Pipeline.runOn (m := m) [.precision p] .postProcess context = pure (context.rounded p) :=
  StandardStep.runOn_postProcess context [.precision p]

theorem runOn_precision_twice :
    Pipeline.runOn (m := m) [.precision p, .precision p] .postProcess context =
      pure ((context.rounded p).rounded p) := by
  refine (StandardStep.runOn_postProcess context [.precision p, .precision p]).trans ?_
  simp only [StandardStep.redrawn, StepContext.rounded, StepContext.mapGroups, List.map_map,
    Function.comp_def, Group.mapSprites_mapSprites]
  rfl

end Runs

theorem StepContext.rounded_rounded_groups_eq_iff {p : Precision} {context : StepContext R} :
    ((context.rounded p).rounded p).groups = (context.rounded p).groups ↔
      ∀ n ∈ context.groups.flatMap (Group.kept p), n.Settles := by
  simp only [rounded, mapGroups, List.map_map, List.map_inj_left, Function.comp_apply,
    Group.round_round_eq_iff, List.forall_mem_flatMap]

theorem Kept.settles_iff {n : Kept Rat} :
    n.Settles ↔ IsSteady n.places (roundTo n.number n.places) :=
  roundTo_eq_self_iff (onGrid_roundTo n.number n.places)

/-- Rounding gives a multiple of the unit of the last place that is kept. Such a multiple stays if
it is less than `2 ^ 49` units from zero, and is moved away from zero by one unit if it is not. So
rounding again changes nothing exactly if the rounded number is in that range, and a second run of
the rounding step changes no group exactly if all rounded numbers in them are. -/
theorem rounding_settles_iff (x : Rat) (places : Nat) (p : Precision) (context : StepContext Rat) :
    OnGrid places (roundTo x places) ∧
    (OnGrid places x →
      roundTo x places =
        if IsSteady places x then x
        else if x < 0 then x - 1 / unitsPerOne places else x + 1 / unitsPerOne places) ∧
    (roundTo (roundTo x places) places = roundTo x places ↔
      IsSteady places (roundTo x places)) ∧
    (∀ (m : Type → Type) [Monad m] [LawfulMonad m],
      Pipeline.runOn (m := m) [.precision p] .postProcess context = pure (context.rounded p) ∧
        Pipeline.runOn (m := m) [.precision p, .precision p] .postProcess context =
          pure ((context.rounded p).rounded p)) ∧
    (((context.rounded p).rounded p).groups = (context.rounded p).groups ↔
      ∀ n ∈ context.groups.flatMap (Group.kept p),
        IsSteady n.places (roundTo n.number n.places)) := by
  refine ⟨onGrid_roundTo x places, roundTo_of_onGrid, ?_, fun m _ _ => ?_, ?_⟩
  · exact roundTo_eq_self_iff (onGrid_roundTo x places)
  · exact ⟨runOn_precision p context, runOn_precision_twice p context⟩
  · simp only [StepContext.rounded_rounded_groups_eq_iff, Kept.settles_iff]

/-- An opacity with fifteen places is moved from one half on, in every run of the step; with four
places it stays. -/
theorem rounding_settles_iff_lamp :
    let lamp : Sprite Rat :=
      { Sprite.new "lamp.png" .foreground .centre ⟨1 / 3, 240⟩ with
        tracks := { opacity := [⟨.linear, 0, 100, 0, 3 / 5⟩] } }
    let context : StepContext Rat := { groups := [{ name := "light", elements := [.sprite lamp] }] }
    OnGrid 15 (3 / 5) ∧ roundTo (3 / 5 : Rat) 15 = 3 / 5 + 1 / unitsPerOne 15 ∧
      Pipeline.runOn (m := Id) [.precision ⟨4, 15, 4⟩] .postProcess context =
        pure (context.rounded ⟨4, 15, 4⟩) ∧
      ((context.rounded ⟨4, 15, 4⟩).rounded ⟨4, 15, 4⟩).groups ≠
        (context.rounded ⟨4, 15, 4⟩).groups ∧
      ((context.rounded ⟨4, 4, 4⟩).rounded ⟨4, 4, 4⟩).groups =
        (context.rounded ⟨4, 4, 4⟩).groups := by
  intro lamp context
  obtain ⟨_, moves, _, runs, fine⟩ := rounding_settles_iff (3 / 5) 15 ⟨4, 15, 4⟩ context
  obtain ⟨_, _, _, _, coarse⟩ := rounding_settles_iff (3 / 5) 15 ⟨4, 4, 4⟩ context
  have multiple : OnGrid 15 (3 / 5) := ⟨600000000000000, by norm_num [unitsPerOne, maxPlaces]⟩
  refine ⟨multiple, ?_, (runs Id).1, ?_, ?_⟩
  · refine (moves multiple).trans ?_
    rw [if_neg (by decide +kernel), if_neg (by decide +kernel)]
  · rw [ne_eq, fine]
    decide +kernel
  · rw [coarse]
    decide +kernel

/-- Already where the limit is, an integer is not rounded to itself, and rounded again it moves on;
machine arithmetic, which is exact there, does the same. -/
theorem not_settled_at_limit :
    OnGrid 0 (2 ^ 49) ∧ roundTo (2 ^ 49 : Rat) 0 = 2 ^ 49 + 1 ∧
      roundTo (roundTo (2 ^ 49 : Rat) 0) 0 = 2 ^ 49 + 2 ∧
      roundTo (⟨0x4300000000000000⟩ : Double) 0 = ⟨0x4300000000000008⟩ := by
  refine ⟨⟨2 ^ 49, by norm_num [unitsPerOne]⟩, ?_, ?_, ?_⟩
  · decide +kernel
  · decide +kernel
  · decide +kernel

end Storyboard
