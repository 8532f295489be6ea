import Storyboard.Preview.Graph
import Storyboard.Proofs.Events.Record
import Storyboard.Proofs.Generation.Visiting

/-! # Encoders that only look at windows

Both formats build an element if none of its commands runs backward, and what they build then
depends on the element alone. A walk of such an encoder that comes to its end has built and added
every element of the tour but the extra videos.
-/

namespace Storyboard

variable {σ R Context Built : Type} [Scalar R]

/-! ## Windows of an element -/

namespace Element

/-- The windows of all commands; only sprites and animations have commands. -/
def windows (e : Element R) : List (R × R) := (e.sprite?.map Sprite.windows).getD []

/-- Fails at the first command that runs backward. -/
def check (e : Element R) : Except Failure Unit := checkWindows e.windows

end Element

def Visit.built (product : Element R → Built) (visit : Visit R) : Emission Built :=
  emission (visit, product visit.element)

namespace Encoder

/-- An encoder without a state of its own, by what it builds of an element whose windows are fine
and how that is added to its context. -/
structure Plain (encoder : Encoder (StateM σ) R Context Built) (first : Context)
    (product : Element R → Built) (add : Context → Layer → Built → Context) : Prop where
  start : encoder.start = pure first
  build : ∀ element s,
    (encoder.build element).run.run s = (element.check.map fun _ => product element, s)
  emit : ∀ context layer built, encoder.emit context layer built = pure (add context layer built)
  finish : ∀ context, encoder.finish context = pure context

open Traversal Visit

namespace Plain

variable {encoder : Encoder (StateM σ) R Context Built} {first : Context}
  {product : Element R → Built} {add : Context → Layer → Built → Context}
  (plain : encoder.Plain first product add) {isCancelled : StateM σ Bool} {s s' : σ}
include plain

/-- Elements whose windows are fine can be built in any state. -/
theorem reliable {elements : List (Element R)} (fine : ∀ e ∈ elements, e.check = .ok ()) :
    encoder.Reliable elements fun _ => True := by
  refine ⟨fun element member s _ => ⟨product element, s, ?_, trivial⟩, fun _ _ _ _ _ => trivial⟩
  rw [plain.build, fine element member]
  rfl

/-- Building a group to its end builds every element, as all of their windows are fine. -/
theorem run_buildStops {place : Nat} {stops : List (Stop R)} {staging staging' : Staging Built}
    (runs : (encoder.buildStops isCancelled place stops staging).run.run s =
      (.ok (some staging'), s')) :
    (∀ visit ∈ keptFrom staging.videoSeen (stops.map (ofStop place)),
        visit.element.check = .ok ()) ∧
      staging'.staged = staging.staged ++
        (keptFrom staging.videoSeen (stops.map (ofStop place))).map (built product) ∧
      staging'.videoSeen =
        (staging.videoSeen || stops.any fun stop => stop.element.isVideo) := by
  induction stops generalizing staging s with
  | nil =>
    cases runs
    simp [keptFrom]
  | cons stop rest ih =>
    rw [buildStops] at runs
    obtain ⟨cancelled, s₁, -, runs⟩ := run_bind_eq_ok runs
    cases cancelled with
    | true => cases runs
    | false =>
      rw [if_neg Bool.false_ne_true] at runs
      have visited : (ofStop place stop).element = stop.element := rfl
      rw [List.map_cons, keptFrom, visited]
      by_cases extra : (stop.element.isVideo && staging.videoSeen) = true
      · rw [if_pos extra] at runs ⊢
        obtain ⟨checked, staged, seen⟩ := ih runs
        refine ⟨checked, staged, seen.trans ?_⟩
        rw [(Bool.and_eq_true_iff.mp extra).2, Bool.true_or, Bool.true_or]
      · rw [if_neg extra] at runs ⊢
        obtain ⟨result, s₂, builds, runs⟩ := run_bind_eq_ok runs
        rw [plain.build] at builds
        obtain ⟨passes, rfl⟩ : stop.element.check = .ok () ∧ product stop.element = result := by
          cases checked : stop.element.check with
          | error e =>
            rw [checked] at builds
            cases builds
          | ok _ =>
            rw [checked] at builds
            cases builds
            exact ⟨rfl, rfl⟩
        obtain ⟨checked, staged, seen⟩ := ih runs
        refine ⟨List.forall_mem_cons.mpr ⟨passes, checked⟩,
          staged.trans (List.append_assoc ..), seen.trans ?_⟩
        rw [List.any_cons, Bool.or_assoc]

theorem run_emitAll (staged : List (Emission Built)) (context : Context) (s : σ) :
    (encoder.emitAll staged context).run s =
      (staged.foldl (fun c emission => add c emission.layer emission.built) context, s) := by
  induction staged generalizing context with
  | nil => rfl
  | cons emission rest ih =>
    rw [emitAll, plain.emit]
    exact ih (add context emission.layer emission.built)

/-- A walk that comes to its end has built every element and added it to the context. -/
theorem run_visitFrom {place : Nat} {groups : List (Group R)} {walk walk' : Walk Context Built}
    (runs : (encoder.visitFrom isCancelled place groups walk).run.run s =
      (.ok (walk', false), s')) :
    let visits := keptFrom walk.videoSeen
      ((groups.zipIdx place).flatMap fun (group, place) => tourOf place group)
    (∀ visit ∈ visits, visit.element.check = .ok ()) ∧
      walk'.emitted = walk.emitted ++ visits.map (built product) ∧
      walk'.context = visits.foldl
        (fun c visit => add c visit.element.layer (product visit.element)) walk.context := by
  induction groups generalizing place walk s with
  | nil =>
    cases runs
    simp [keptFrom]
  | cons group rest ih =>
    rw [visitFrom] at runs
    -- A walk that does not say that it was cancelled saw no token set and gave up no group.
    obtain ⟨cancelled, s₁, -, runs⟩ := run_bind_eq_ok runs
    cases cancelled with
    | true => cases runs
    | false =>
      rw [if_neg Bool.false_ne_true] at runs
      obtain ⟨staging, s₂, builds, runs⟩ := run_bind_eq_ok runs
      cases staging with
      | none => cases runs
      | some staging =>
        obtain ⟨checked, staged, seen⟩ := plain.run_buildStops builds
        obtain ⟨context, s₃, emits, runs⟩ := run_bind_eq_ok runs
        cases (run_lift (plain.run_emitAll _ _ _)).symm.trans emits
        obtain ⟨checked', emitted, context⟩ := ih runs
        rw [seen] at checked' emitted context
        rw [staged] at emitted context
        have onward : (tourOf place group).any (fun visit => visit.element.isVideo) =
            (Stop.visiting group.elements).any fun stop => stop.element.isVideo := List.any_map
        simp only [List.zipIdx_cons, List.flatMap_cons, keptFrom_append, List.map_append,
          List.foldl_append, List.forall_mem_append, onward]
        refine ⟨⟨checked, checked'⟩, emitted.trans (List.append_assoc ..), context.trans ?_⟩
        simp only [List.nil_append, List.foldl_map]
        rfl

end Plain

end Encoder

/-! ## Both formats -/

theorem Element.eventBlock_eq (e : Element R) : e.eventBlock = e.check.map fun _ => e.block := by
  rw [Element.block, ← e.headerLine_append_bodyText, check, windows, eventBlock]
  cases e.sprite? with
  | none => simp [checkWindows, Except.map]
  | some s =>
    change (s.check >>= fun _ => _) = s.check.map _
    cases s.check <;> rfl

theorem EventDocument.plain :
    (encoder : Encoder (StateM σ) R _ _).Plain {} Element.block
      fun d _ block => d.append block where
  start := rfl
  build e s := congrArg (·, s) e.eventBlock_eq
  emit _ _ _ := rfl
  finish _ := rfl

/-- The node of an element, whose windows are not looked at. -/
def Element.node (e : Element R) : PreviewNode R :=
  match e with
  | .sprite s | .animation { sprite := s, .. } => .sprite (.ofSprite s e.frames?)
  | .sample s => .sample ⟨s.path, s.startTime, s.volume⟩
  | .video v => .video ⟨v.path, v.startTime⟩

theorem Element.previewNode_eq (e : Element R) : e.previewNode = e.check.map fun _ => e.node := by
  have drawn (s : Sprite R) (node : PreviewNode R) :
      (do s.check; return node : Except Failure (PreviewNode R)) = s.check.map fun _ => node := by
    cases s.check <;> rfl
  cases e with
  | sprite s => exact drawn s _
  | animation a => exact drawn a.sprite _
  | sample _ | video _ => rfl

theorem PreviewGraph.plain :
    (encoder : Encoder (StateM σ) R _ _).Plain {} Element.node add where
  start := rfl
  build e s := congrArg (·, s) e.previewNode_eq
  emit _ _ _ := rfl
  finish _ := rfl

end Storyboard
