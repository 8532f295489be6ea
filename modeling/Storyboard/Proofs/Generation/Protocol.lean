import Storyboard.Proofs.Generation.Calls

/-! # The order of calls

A run makes its calls in one fixed order: first the hooks before all scripts, then the scripts, the
encoder's start, the hooks on the groups, the walk over the groups that these have left, the
encoder's end and the last hooks. It breaks off at the first call that fails. Where a look sees the
token set, the encoder's end is the only call that is left.
-/

namespace Storyboard

open Traversal

variable {m : Type → Type} {σ R Context Built : Type}

/-! ## Hooks and scripts -/

/-- The calls that build a group, where a video may have been built before. -/
def buildCalls : Bool → List (Visit R) → List (RunCall R)
  | _, [] => []
  | seen, visit :: rest =>
    if visit.element.isVideo && seen then .look :: buildCalls seen rest
    else .look :: .build visit.element :: buildCalls (seen || visit.element.isVideo) rest

/-- The calls of a walk from a place on: every group is built, then emitted. -/
def visitCalls [Scalar R] : Nat → Bool → List (Group R) → List (RunCall R)
  | _, _, [] => []
  | place, seen, group :: rest =>
    let visits := Visit.tourOf place group
    [.look] ++ (buildCalls seen visits ++
      ((Visit.keptFrom seen visits).map (fun visit => .emit visit.element.layer) ++
        visitCalls (place + 1) (seen || visits.any fun visit => visit.element.isVideo) rest))

namespace Encoder

variable {encoder : Encoder (StateM σ) R Context Built} {isCancelled : StateM σ Bool}

/-- In a group, every stop is looked before and built, but for the later videos; a token that is set
or a failure ends it. -/
theorem buildStops_logged (place : Nat) (stops : List (Stop R)) (staging : Staging Built) (s : σ) :
    LogsAt s (buildCalls staging.videoSeen (stops.map (Visit.ofStop place))) Option.isNone
      (encoder.buildStops isCancelled place stops staging)
      (encoder.logged.buildStops (loggedLook isCancelled) place stops staging) := by
  induction stops generalizing staging s with
  | nil => exact LogsAt.pure rfl
  | cons stop rest ih =>
    have same : (Visit.ofStop place stop).element = stop.element := rfl
    rw [buildStops, buildStops, List.map_cons, buildCalls, same]
    by_cases extra : (stop.element.isVideo && staging.videoSeen) = true
    · simp only [if_pos extra]
      refine (LogsAt.look s isCancelled).bind ?_ fun cancelled s' _ unset => ?_
      · rintro _ rfl
        exact ⟨none, rfl, rfl, rfl⟩
      · obtain rfl : cancelled = false := unset
        exact ih staging s'
    · simp only [if_neg extra]
      refine (LogsAt.look s isCancelled).bind ?_ fun cancelled s' _ unset => ?_
      · rintro _ rfl
        exact ⟨none, rfl, rfl, rfl⟩
      · obtain rfl : cancelled = false := unset
        exact (LogsAt.build s' encoder stop.element).andThen fun built s'' _ => ih _ s''

theorem emitAll_logged (staged : List (Emission Built)) (context : Context) (s : σ) :
    LogsAt (R := R) s (staged.map fun emission => .emit emission.layer) (fun _ => false)
      (liftM (encoder.emitAll staged context)) (liftM (encoder.logged.emitAll staged context)) := by
  induction staged generalizing context s with
  | nil => exact LogsAt.pure rfl
  | cons emission rest ih =>
    rw [emitAll, emitAll, liftM_bind, liftM_bind]
    exact (LogsAt.act s (.emit emission.layer) _).andThen fun context s' _ => ih context s'

/-- What has been built of a group when nothing has stopped it. -/
theorem staged_of_run_buildStops {place : Nat} {stops : List (Stop R)}
    {staging staging' : Staging Built} {s s' : σ}
    (ran : (encoder.buildStops isCancelled place stops staging).run.run s =
      (.ok (some staging'), s')) :
    staging'.staged.map Emission.layer = staging.staged.map Emission.layer ++
        (Visit.keptFrom staging.videoSeen (stops.map (Visit.ofStop place))).map
          (fun visit => visit.element.layer) ∧
      staging'.videoSeen = (staging.videoSeen ||
        (stops.map (Visit.ofStop place)).any fun visit => visit.element.isVideo) := by
  induction stops generalizing staging s with
  | nil =>
    cases ran
    simp [Visit.keptFrom]
  | cons stop rest ih =>
    obtain ⟨cancelled, s₁, -, ran⟩ := run_bind_eq_ok ran
    cases cancelled with
    | true => cases ran
    | false =>
      rw [if_neg Bool.false_ne_true] at ran
      have same : (Visit.ofStop place stop).element = stop.element := rfl
      rw [List.map_cons, Visit.keptFrom, List.any_cons, same]
      by_cases extra : (stop.element.isVideo && staging.videoSeen) = true
      · rw [if_pos extra] at ran ⊢
        obtain ⟨video, seen⟩ := Bool.and_eq_true_iff.mp extra
        obtain ⟨layers, videos⟩ := ih ran
        exact ⟨layers, by simp [videos, seen]⟩
      · rw [if_neg extra] at ran ⊢
        obtain ⟨built, s₂, -, ran⟩ := run_bind_eq_ok ran
        obtain ⟨layers, videos⟩ := ih ran
        exact ⟨by simp [layers, same], by rw [videos, Bool.or_assoc]⟩

variable [Scalar R]

/-- Every group is looked before; then its stops are built, and what was built is emitted. -/
theorem visitFrom_logged (place : Nat) (groups : List (Group R)) (walk : Walk Context Built)
    (s : σ) :
    LogsAt s (visitCalls place walk.videoSeen groups) Prod.snd
      (encoder.visitFrom isCancelled place groups walk)
      (encoder.logged.visitFrom (loggedLook isCancelled) place groups walk) := by
  induction groups generalizing place walk s with
  | nil => exact LogsAt.pure rfl
  | cons group rest ih =>
    rw [visitFrom, visitFrom, visitCalls]
    refine (LogsAt.look s isCancelled).bind ?_ fun cancelled s₁ _ unset => ?_
    · rintro _ rfl
      exact ⟨(walk, true), rfl, rfl, rfl⟩
    obtain rfl : cancelled = false := unset
    refine (buildStops_logged place (Stop.visiting group.elements)
      { videoSeen := walk.videoSeen } s₁).bind ?_ fun staging s₂ built whole => ?_
    · rintro (_ | staging) stopped
      · exact ⟨(walk, true), rfl, rfl, rfl⟩
      · cases stopped
    cases staging with
    | none => cases whole
    | some staging =>
      obtain ⟨layers, videos⟩ := staged_of_run_buildStops built
      have emits : staging.staged.map (fun emission => (.emit emission.layer : RunCall R)) =
          (Visit.keptFrom walk.videoSeen (Visit.tourOf place group)).map fun visit =>
            .emit visit.element.layer := by
        simpa [Function.comp_def, Visit.tourOf] using
          congrArg (List.map (.emit : Layer → RunCall R)) layers
      rw [← emits, show (walk.videoSeen || (Visit.tourOf place group).any fun visit =>
        visit.element.isVideo) = staging.videoSeen from videos.symm]
      exact (emitAll_logged staging.staged walk.context s₂).andThen fun context s₃ _ =>
        ih (place + 1) _ s₃

end Encoder

/-! ## The run up to the end of the walk -/

section Whole

variable [Monad m] [Scalar R]

end Whole

section Logged

variable [Scalar R] {options : RunOptions} {scripts : List (Script (StateM σ) R)}
  {pipeline : Pipeline (StateM σ) R} {encoder : Encoder (StateM σ) R Context Built}
  {isCancelled : StateM σ Bool}

section Conclude

omit [Scalar R]

variable (pipeline encoder) (harvest : Harvest R) (context : StepContext R)
  (walk : Walk Context Built) (s : σ)

end Conclude

end Logged

/-! ## The encoder's end -/

/-- The call that is left where a look has seen the token set. -/
def Ending.finish : Ending R → List (RunEvent R)
  | .token => [⟨.finish, .fine⟩]
  | .through | .failed .. => []

section Plan

variable [Scalar R] (options : RunOptions) (scripts : List (Script (StateM σ) R))
  (pipeline : Pipeline (StateM σ) R) (encoder : Encoder (StateM σ) R Context Built)
  (isCancelled : StateM σ Bool)

end Plan

end Storyboard
