import Storyboard.Proofs.Generation.Protocol

/-! # Where a cancelled walk stops

The token may be set at any moment: before the walk, by a call of the encoder or from outside
between two looks. Wherever that is, the walk leaves what a walk over the first groups alone would
have left, so no group is emitted in part. What the looks see is read off a record that is kept
beside the state and that nothing but the looks writes; where they stand, off a log of all calls.
-/

namespace Storyboard

variable {σ α R Context Built : Type}

namespace Encoder

open Traversal

/-- A look that takes no notice of what it sees. -/
def unheeded (isCancelled : StateM σ Bool) : StateM σ Bool := do
  let _ ← isCancelled
  return false

/-- A look that writes down what it sees. -/
def recording (isCancelled : StateM σ Bool) : StateM (σ × List Bool) Bool := do
  let (s, seen) ← get
  let (cancelled, s) := isCancelled.run s
  set (s, seen ++ [cancelled])
  return cancelled

/-- An action beside a record, which stays as it is. -/
def besideRecord (action : StateM σ α) : StateM (σ × List Bool) α := do
  let (s, seen) ← get
  let (result, s) := action.run s
  set (s, seen)
  return result

/-- The same encoder beside a record of looks. -/
def recorded (encoder : Encoder (StateM σ) R Context Built) :
    Encoder (StateM (σ × List Bool)) R Context Built where
  start := besideRecord encoder.start
  build element := ExceptT.mk (besideRecord (encoder.build element).run)
  emit context layer built := besideRecord (encoder.emit context layer built)
  finish context := besideRecord (encoder.finish context)

variable {encoder : Encoder (StateM σ) R Context Built} {isCancelled : StateM σ Bool}
  {elements : List (Element R)} {good : σ → Prop}

/-! ## One look -/

section Look

variable {cancelled : Bool} {s s' : σ} (looked : isCancelled.run s = (cancelled, s'))
include looked

theorem run_unheeded : (unheeded isCancelled).run s = (false, s') := by
  rw [unheeded, run_bind, looked]
  rfl

theorem run_recording (seen : List Bool) :
    (recording isCancelled).run (s, seen) = (cancelled, (s', seen ++ [cancelled])) := by
  change ((isCancelled.run s).1, ((isCancelled.run s).2, seen ++ [(isCancelled.run s).1])) = _
  rw [looked]

end Look

theorem run_besideRecord {action : StateM σ α} {a : α} {s s' : σ} (ran : action.run s = (a, s'))
    (seen : List Bool) : (besideRecord action).run (s, seen) = (a, (s', seen)) := by
  change ((action.run s).1, ((action.run s).2, seen)) = _
  rw [ran]

/-! ## One group -/

/-- Building a group comes to an end when a look sees the token set, and only then; otherwise it
goes on as if there were no token. -/
theorem run_buildStops_seen (reliable : encoder.Reliable elements good)
    (harmless : ∀ s, good s → good (isCancelled.run s).2) (place : Nat) {stops : List (Stop R)}
    (inside : ∀ stop ∈ stops, stop.element ∈ elements) (staging : Staging Built) {s : σ}
    (sound : good s) (seen : List Bool) :
    ∃ (result : Option (Staging Built)) (s' : σ) (looks : List Bool), good s' ∧
      (encoder.buildStops isCancelled place stops staging).run.run s = (.ok result, s') ∧
      (encoder.recorded.buildStops (recording isCancelled) place stops staging).run.run (s, seen) =
        (.ok result, (s', seen ++ looks)) ∧
      (result = none ↔ true ∈ looks) ∧
      (result ≠ none →
        (encoder.buildStops (unheeded isCancelled) place stops staging).run.run s =
          (.ok result, s')) := by
  induction stops generalizing staging s seen with
  | nil =>
    refine ⟨some staging, s, [], sound, rfl, ?_, by simp, fun _ => rfl⟩
    rw [List.append_nil]
    rfl
  | cons stop rest ih =>
    obtain ⟨here, inside⟩ := List.forall_mem_cons.mp inside
    have onward := harmless s sound
    generalize looked : isCancelled.run s = look at onward
    obtain ⟨cancelled, s₁⟩ := look
    cases cancelled with
    | true =>
      refine ⟨none, s₁, [true], onward, ?_, ?_, by simp, fun whole => absurd rfl whole⟩
      · rw [buildStops, run_ok_bind (run_lift looked), if_pos rfl]
        rfl
      · rw [buildStops, run_ok_bind (run_lift (run_recording looked seen)), if_pos rfl]
        rfl
    | false =>
      simp only [buildStops]
      rw [run_ok_bind (run_lift looked), run_ok_bind (run_lift (run_recording looked seen)),
        run_ok_bind (run_lift (run_unheeded looked)), if_neg Bool.false_ne_true]
      -- An extra video is looked at, but not built.
      by_cases extra : (stop.element.isVideo && staging.videoSeen) = true
      · obtain ⟨result, s', looks, sound', runs, records, stopped, ignores⟩ :=
          ih inside staging onward (seen ++ [false])
        refine ⟨result, s', false :: looks, sound', ?_, ?_, ?_, ?_⟩
        · rw [if_pos extra, runs]
        · rw [if_neg Bool.false_ne_true, if_pos extra, records, List.append_assoc]
          rfl
        · simpa using stopped
        · intro finished
          rw [if_neg Bool.false_ne_true, if_pos extra, ignores finished]
      · obtain ⟨built, s₂, builds, sound₂⟩ := reliable.build stop.element here s₁ onward
        obtain ⟨result, s', looks, sound', runs, records, stopped, ignores⟩ := ih inside
          { staged := staging.staged ++ [⟨⟨place, stop.index⟩, stop.element.layer, built⟩]
            videoSeen := staging.videoSeen || stop.element.isVideo } sound₂ (seen ++ [false])
        have builds' : (encoder.recorded.build stop.element).run.run (s₁, seen ++ [false]) =
            (.ok built, (s₂, seen ++ [false])) := run_besideRecord builds _
        refine ⟨result, s', false :: looks, sound', ?_, ?_, ?_, ?_⟩
        · rw [if_neg extra, run_ok_bind builds, runs]
        · rw [if_neg Bool.false_ne_true, if_neg extra, run_ok_bind builds', records,
            List.append_assoc]
          rfl
        · simpa using stopped
        · intro finished
          rw [if_neg Bool.false_ne_true, if_neg extra, run_ok_bind builds, ignores finished]

/-- Emitting neither looks nor writes a record. -/
theorem run_emitAll_seen (reliable : encoder.Reliable elements good)
    (staged : List (Emission Built)) (context : Context) {s : σ} (sound : good s)
    (seen : List Bool) :
    ∃ (context' : Context) (s' : σ), good s' ∧
      (encoder.emitAll staged context).run s = (context', s') ∧
      (encoder.recorded.emitAll staged context).run (s, seen) = (context', (s', seen)) := by
  induction staged generalizing context s with
  | nil => exact ⟨context, s, sound, rfl, rfl⟩
  | cons emission rest ih =>
    have onward := reliable.emit context emission.layer emission.built s sound
    generalize emits : (encoder.emit context emission.layer emission.built).run s = next at onward
    obtain ⟨context₁, s₁⟩ := next
    obtain ⟨context', s', sound', runs, records⟩ := ih context₁ onward
    have emits' : (encoder.recorded.emit context emission.layer emission.built).run (s, seen) =
        (context₁, (s₁, seen)) := run_besideRecord emits seen
    refine ⟨context', s', sound', ?_, ?_⟩
    · rw [emitAll, run_bind, emits, runs]
    · rw [emitAll, run_bind, emits', records]

/-! ## All groups -/

variable [Scalar R]

/-- A walk over groups from a place on: it goes through the first groups as if there were no token,
and then it is over or a look has seen the token set. -/
theorem run_visitFrom_seen (reliable : encoder.Reliable elements good)
    (harmless : ∀ s, good s → good (isCancelled.run s).2) (place : Nat) {groups : List (Group R)}
    (inside : ∀ group ∈ groups, group.elements ⊆ elements) (walk : Walk Context Built) {s : σ}
    (sound : good s) (seen : List Bool) :
    ∃ (whole : Nat) (walk' : Walk Context Built) (cancelled : Bool) (s' s'' : σ)
      (looks : List Bool),
      (encoder.visitFrom isCancelled place groups walk).run.run s = (.ok (walk', cancelled), s') ∧
      (encoder.recorded.visitFrom (recording isCancelled) place groups walk).run.run (s, seen) =
        (.ok (walk', cancelled), (s', seen ++ looks)) ∧
      (encoder.visitFrom isCancelled place (groups.take whole) walk).run.run s =
        (.ok (walk', false), s'') ∧
      (encoder.visitFrom (unheeded isCancelled) place (groups.take whole) walk).run.run s =
        (.ok (walk', false), s'') ∧
      (cancelled = true ↔ true ∈ looks) ∧
      (cancelled = true ↔ whole < groups.length) ∧
      (cancelled = false ↔ whole = groups.length) := by
  induction groups generalizing place walk s seen with
  | nil =>
    refine ⟨0, walk, false, s, s, [], rfl, ?_, rfl, rfl, by simp, by simp, by simp⟩
    rw [List.append_nil]
    rfl
  | cons group rest ih =>
    obtain ⟨here, inside⟩ := List.forall_mem_cons.mp inside
    have onward := harmless s sound
    generalize looked : isCancelled.run s = look at onward
    obtain ⟨cancelled, s₁⟩ := look
    have recorded := run_recording looked seen
    cases cancelled with
    | true =>
      exact ⟨0, walk, true, s₁, s, [true], run_visitFrom_set looked, run_visitFrom_set recorded,
        rfl, rfl, by simp, by simp, by simp⟩
    | false =>
      obtain ⟨result, s₂, looks, sound₂, builds, records, stopped, ignores⟩ :=
        run_buildStops_seen reliable harmless place
          (fun _ member => here (Stop.element_mem_of_mem_visiting member))
          { videoSeen := walk.videoSeen } onward (seen ++ [false])
      cases result with
      | none =>
        refine ⟨0, walk, true, s₂, s, false :: looks, run_visitFrom_abandoned looked builds, ?_,
          rfl, rfl, by simpa using stopped, by simp, by simp⟩
        rw [run_visitFrom_abandoned recorded records, List.append_assoc, List.singleton_append]
      | some staging =>
        -- Only here, where it is emitted, does a group count as one of the first ones.
        obtain ⟨context, s₃, sound₃, emits, emits'⟩ := run_emitAll_seen reliable staging.staged
          walk.context sound₂ ((seen ++ [false]) ++ looks)
        obtain ⟨whole, walk', cancelled, s', s'', looks', runs, records', takes, ignores', saw,
          less, all⟩ := ih (place + 1) inside
            { context, emitted := walk.emitted ++ staging.staged, videoSeen := staging.videoSeen }
            sound₃ ((seen ++ [false]) ++ looks)
        have unset : true ∉ looks := fun set => nomatch stopped.mpr set
        refine ⟨whole + 1, walk', cancelled, s', s'', false :: (looks ++ looks'),
          (run_visitFrom_cons looked builds emits).trans runs, ?_,
          (run_visitFrom_cons looked builds emits).trans takes,
          (run_visitFrom_cons (run_unheeded looked) (ignores nofun) emits).trans ignores',
          by simpa [unset] using saw, by simpa using less, by simpa using all⟩
        rw [run_visitFrom_cons recorded records emits', records', List.append_assoc,
          List.append_assoc, List.singleton_append]

/-- How a walk over groups ends that may be cancelled, and after how many of them. -/
structure StopsAfter (encoder : Encoder (StateM σ) R Context Built) (isCancelled : StateM σ Bool)
    (groups : List (Group R)) (context : Context) (s : σ) (whole : Nat)
    (walk : Walk Context Built) (cancelled : Bool) (s' : σ) : Prop where
  runs : (encoder.visit isCancelled groups context).run.run s = (.ok (walk, cancelled), s')
  first : whole ≤ groups.length
  /-- A walk over the first groups alone leaves the same, whether it heeds the token or not. -/
  takes : ∃ s'',
    (encoder.visit isCancelled (groups.take whole) context).run.run s = (.ok (walk, false), s'') ∧
    (encoder.visit (unheeded isCancelled) (groups.take whole) context).run.run s =
      (.ok (walk, false), s'')
  /-- The walk is cancelled if and only if one of its looks has seen the token set. -/
  saw : ∃ looks, (encoder.recorded.visit (recording isCancelled) groups context).run.run (s, []) =
      (.ok (walk, cancelled), (s', looks)) ∧
    (cancelled = true ↔ true ∈ looks)
  /-- The calls are made as planned, with a look before every group and every element, up to the
  look that has seen the token set. -/
  planned : ∃ events,
    (encoder.logged.visit (loggedLook isCancelled) groups context).run.run (s, []) =
      (.ok (walk, cancelled), (s', events)) ∧
    Follows (visitCalls 0 false groups) events (if cancelled then .token else .through)
  /-- A walk that is cancelled leaves out at least one group. -/
  cancelled_iff : cancelled = true ↔ whole < groups.length
  through_iff : cancelled = false ↔ whole = groups.length

/-- The calls of a walk that ends without a failure, as they are planned. -/
theorem visit_planned {groups : List (Group R)} {context : Context} {s s' : σ}
    {walk : Walk Context Built} {cancelled : Bool}
    (runs : (encoder.visit isCancelled groups context).run.run s = (.ok (walk, cancelled), s')) :
    ∃ events, (encoder.logged.visit (loggedLook isCancelled) groups context).run.run (s, []) =
        (.ok (walk, cancelled), (s', events)) ∧
      Follows (visitCalls 0 false groups) events (if cancelled then .token else .through) := by
  have logs : LogsAt s (visitCalls 0 false groups) Prod.snd
      (encoder.visit isCancelled groups context)
      (encoder.logged.visit (loggedLook isCancelled) groups context) :=
    visitFrom_logged 0 groups { context } s
  obtain ⟨result, last, events, ending, ran, logged, follows, settles⟩ := logs []
  cases runs.symm.trans ran
  refine ⟨events, logged, ?_⟩
  cases settles with
  | through unset =>
    obtain rfl : cancelled = false := unset
    exact follows
  | token set =>
    obtain rfl : cancelled = true := set
    exact follows

/-- Whenever the token is set, a walk leaves what an uncancelled walk over the first groups leaves.
It says that it was cancelled if and only if one of its looks saw the token set, and then it left
out at least one group. -/
theorem visit_stops_between_groups {groups : List (Group R)}
    (reliable : encoder.Reliable (groups.flatMap Group.elements) good)
    (harmless : ∀ s, good s → good (isCancelled.run s).2) (context : Context) {s : σ}
    (sound : good s) :
    ∃ (whole : Nat) (walk : Walk Context Built) (cancelled : Bool) (s' : σ),
      encoder.StopsAfter isCancelled groups context s whole walk cancelled s' := by
  obtain ⟨whole, walk, cancelled, s', s'', looks, runs, records, takes, ignores, saw, less, all⟩ :=
    run_visitFrom_seen reliable harmless 0 (Group.elements_subset_flatMap groups) { context }
      sound []
  refine ⟨whole, walk, cancelled, s', runs, ?_, ⟨s'', takes, ignores⟩, ⟨looks, records, saw⟩,
    visit_planned runs, less, all⟩
  cases cancelled with
  | false => exact (all.mp rfl).le
  | true => exact (less.mp rfl).le

/-- The token is set by the second build, in the middle of the second group. -/
theorem visit_stops_between_groups_counting :
    let song : Element Double := .sample ⟨"song.mp3", .overlay, ⟨0⟩, ⟨0⟩⟩
    let groups : List (Group Double) :=
      [{ name := "first", elements := [song] }, { name := "second", elements := [song, song] }]
    let token : Nat → Bool := fun count => decide (2 ≤ count)
    (counting.Reliable (groups.flatMap Group.elements) fun _ => True) ∧
      ∃ (whole : Nat) (walk : Walk (List (Layer × Nat)) Nat) (cancelled : Bool) (s' : Nat),
        counting.StopsAfter (isSet token) groups [] 0 whole walk cancelled s' := by
  intro song groups token
  have reliable : counting.Reliable (groups.flatMap Group.elements) fun _ => True :=
    reliable_counting fun _ _ => trivial
  exact ⟨reliable, visit_stops_between_groups reliable (fun _ _ => trivial) [] trivial⟩

end Encoder

end Storyboard
