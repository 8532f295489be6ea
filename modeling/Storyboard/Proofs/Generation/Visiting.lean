import Mathlib.Data.List.Induction
import Storyboard.Proofs.Generation.Tour
import Storyboard.Proofs.Traversal

/-! # What visiting does

A walk that is not cancelled, with an encoder whose builds succeed, builds and emits the tour of all
elements without its extra videos: a group is emitted once it is built.
-/

namespace Storyboard

/-- A call of an encoder during a walk, with what came of it. -/
inductive Call (R Built : Type) where
  | build (visit : Visit R) (built : Built)
  | emit (layer : Layer) (built : Built)

variable {σ R Context Built : Type}

namespace Encoder

/-- Calls in turn lead from one state and context to another. -/
inductive Performs (encoder : Encoder (StateM σ) R Context Built) :
    σ × Context → List (Call R Built) → σ × Context → Prop where
  | none (here : σ × Context) : Performs encoder here [] here
  | build {s s' : σ} {context : Context} {visit : Visit R} {built : Built}
      {calls : List (Call R Built)} {last : σ × Context}
      (builds : (encoder.build visit.element).run.run s = (.ok built, s'))
      (rest : Performs encoder (s', context) calls last) :
      Performs encoder (s, context) (.build visit built :: calls) last
  | emit {s s' : σ} {context context' : Context} {layer : Layer} {built : Built}
      {calls : List (Call R Built)} {last : σ × Context}
      (emits : (encoder.emit context layer built).run s = (context', s'))
      (rest : Performs encoder (s', context') calls last) :
      Performs encoder (s, context) (.emit layer built :: calls) last

/-- From the good states all builds of some elements succeed, and no call leaves these states. -/
structure Reliable (encoder : Encoder (StateM σ) R Context Built) (elements : List (Element R))
    (good : σ → Prop) : Prop where
  build : ∀ element ∈ elements, ∀ s, good s →
    ∃ built s', (encoder.build element).run.run s = (.ok built, s') ∧ good s'
  emit : ∀ context layer built s, good s → good ((encoder.emit context layer built).run s).2

def isSet (token : σ → Bool) : StateM σ Bool := fun s => (token s, s)

variable {encoder : Encoder (StateM σ) R Context Built} {token : σ → Bool} {good : σ → Prop}

theorem Performs.append {first second : List (Call R Built)} {start middle last : σ × Context}
    (left : encoder.Performs start first middle) (right : encoder.Performs middle second last) :
    encoder.Performs start (first ++ second) last := by
  induction left with
  | none => exact right
  | build builds _ ih => exact .build builds (ih right)
  | emit emits _ ih => exact .emit emits (ih right)

theorem run_isSet {s : σ} (unset : token s = false) :
    (liftM (isSet token) : ExceptT Failure (StateM σ) Bool).run.run s = (.ok false, s) :=
  Traversal.run_lift (congrArg (·, s) unset)

end Encoder

namespace Visit

/-- Visits without the videos after the first one, where one may have been seen before. -/
def keptFrom : Bool → List (Visit R) → List (Visit R)
  | _, [] => []
  | seen, visit :: rest =>
    if visit.element.isVideo && seen then keptFrom seen rest
    else visit :: keptFrom (seen || visit.element.isVideo) rest

/-- Visits without all videos but the first one. -/
def kept (visits : List (Visit R)) : List (Visit R) :=
  visits.filter fun visit => !visit.element.isVideo ||
    (visits.find? fun other => other.element.isVideo).any fun first => first.key = visit.key

/-- What is kept of a later part depends on whether an earlier one had a video. -/
theorem keptFrom_append (seen : Bool) (first second : List (Visit R)) :
    keptFrom seen (first ++ second) = keptFrom seen first ++
      keptFrom (seen || first.any fun visit => visit.element.isVideo) second := by
  induction first generalizing seen with
  | nil => simp [keptFrom]
  | cons visit rest ih =>
    rw [List.cons_append, keptFrom, keptFrom]
    split
    · next extra =>
      obtain ⟨_, rfl⟩ := Bool.and_eq_true_iff.mp extra
      rw [ih, Bool.true_or, Bool.true_or]
    · rw [ih, List.cons_append, List.any_cons, Bool.or_assoc]

theorem keptFrom_true (visits : List (Visit R)) :
    keptFrom true visits = visits.filter fun visit => !visit.element.isVideo := by
  induction visits with
  | nil => rfl
  | cons visit rest ih => cases video : visit.element.isVideo <;> simp [keptFrom, video, ih]

theorem mem_of_mem_keptFrom {seen : Bool} {visits : List (Visit R)} {visit : Visit R}
    (member : visit ∈ keptFrom seen visits) : visit ∈ visits := by
  induction visits generalizing seen with
  | nil => exact member
  | cons first rest ih =>
    rw [keptFrom] at member
    split at member
    · exact List.mem_cons_of_mem _ (ih member)
    · obtain rfl | later := List.mem_cons.mp member
      · exact List.mem_cons_self
      · exact List.mem_cons_of_mem _ (ih later)

/-- Where all keys differ, leaving out extra videos as they come leaves the first one. -/
theorem keptFrom_false {visits : List (Visit R)} (distinct : (visits.map Visit.key).Nodup) :
    keptFrom false visits = kept visits := by
  induction visits with
  | nil => rfl
  | cons visit rest ih =>
    obtain ⟨fresh, distinct⟩ := List.nodup_cons.mp distinct
    cases video : visit.element.isVideo with
    | false => simp [keptFrom, kept, video, ih distinct]
    | true =>
      have others : ∀ other ∈ rest, visit.key ≠ other.key := fun other member same =>
        fresh (same ▸ List.mem_map_of_mem member)
      simp only [keptFrom, kept, video, keptFrom_true, Bool.and_false, Bool.or_true,
        List.find?_cons_of_pos, Option.any_some, List.filter_cons]
      simp only [Bool.false_eq_true, if_false, decide_true, Bool.not_true, Bool.or_true, if_true]
      congr 1
      refine List.filter_congr fun other member => ?_
      simp [others other member]

/-- There is a video among what is kept if there is one at all, and then only that one. -/
theorem countP_keptFrom (seen : Bool) (visits : List (Visit R)) :
    (keptFrom seen visits).countP (fun visit => visit.element.isVideo) =
      if seen then 0 else min 1 (visits.countP fun visit => visit.element.isVideo) := by
  induction visits generalizing seen with
  | nil => cases seen <;> rfl
  | cons visit rest ih =>
    cases video : visit.element.isVideo <;> cases seen <;> simp [keptFrom, video, ih]

def emission (result : Visit R × Built) : Emission Built :=
  ⟨result.1.key, result.1.element.layer, result.2⟩

end Visit

/-- The map that emissions are collected in: a later one takes the place of an earlier one. -/
def Emission.collect (emitted : List (Emission Built)) : ElementKey → Option Built :=
  emitted.foldl (fun map emission => Function.update map emission.key (some emission.built))
    fun _ => none

/-- With distinct keys, what is collected under a key is what was emitted under it. -/
theorem Emission.collect_eq_some_iff {emitted : List (Emission Built)}
    (distinct : (emitted.map Emission.key).Nodup) {key : ElementKey} {built : Built} :
    collect emitted key = some built ↔ ∃ emission ∈ emitted,
      emission.key = key ∧ emission.built = built := by
  induction emitted using List.reverseRecOn with
  | nil => simp [collect]
  | append_singleton earlier last ih =>
    rw [List.map_append, List.nodup_append] at distinct
    obtain ⟨distinct, -, apart⟩ := distinct
    have collected : collect (earlier ++ [last]) =
        Function.update (collect earlier) last.key (some last.built) := by
      simp [collect]
    rw [collected]
    obtain rfl | other := eq_or_ne key last.key
    · rw [Function.update_self]
      constructor
      · intro found
        exact ⟨last, List.mem_append_right _ List.mem_cons_self, rfl, Option.some.inj found⟩
      · rintro ⟨emission, member, same, rfl⟩
        rcases List.mem_append.mp member with old | new
        · exact absurd same (apart _ (List.mem_map_of_mem old) _ List.mem_cons_self)
        · rw [List.mem_singleton.mp new]
    · simp [Function.update_of_ne other, ih distinct, other.symm]

theorem Group.elements_subset_flatMap (groups : List (Group R)) :
    ∀ group ∈ groups, group.elements ⊆ groups.flatMap Group.elements :=
  fun group member _ present => List.mem_flatMap.mpr ⟨group, member, present⟩

namespace Encoder

open Traversal Visit

variable {encoder : Encoder (StateM σ) R Context Built} {elements : List (Element R)}
  {token : σ → Bool} {good : σ → Prop}

/-- Building the elements of a group in turn, without the extra videos. -/
theorem run_buildStops (reliable : encoder.Reliable elements good)
    (unset : ∀ s, good s → token s = false) (place : Nat) {stops : List (Stop R)}
    (inside : ∀ stop ∈ stops, stop.element ∈ elements) (staging : Staging Built) {s : σ}
    (sound : good s) (context : Context) :
    ∃ (results : List (Visit R × Built)) (s' : σ), good s' ∧
      (encoder.buildStops (isSet token) place stops staging).run.run s = (.ok (some
        { staged := staging.staged ++ results.map emission
          videoSeen := staging.videoSeen || stops.any fun stop => stop.element.isVideo }), s') ∧
      results.map Prod.fst = keptFrom staging.videoSeen (stops.map (ofStop place)) ∧
      encoder.Performs (s, context) (results.map fun result => .build result.1 result.2)
        (s', context) := by
  induction stops generalizing staging s with
  | nil =>
    refine ⟨[], s, sound, ?_, rfl, .none _⟩
    simp [buildStops]
    rfl
  | cons stop rest ih =>
    obtain ⟨here, inside⟩ := List.forall_mem_cons.mp inside
    rw [buildStops, run_ok_bind (run_isSet (unset s sound)), if_neg Bool.false_ne_true]
    by_cases extra : (stop.element.isVideo && staging.videoSeen) = true
    · obtain ⟨results, s', sound', runs, visits, performs⟩ := ih inside staging sound
      obtain ⟨video, seen⟩ := Bool.and_eq_true_iff.mp extra
      refine ⟨results, s', sound', ?_, ?_, performs⟩
      · simp only [extra, if_true]
        rw [runs]
        simp [seen]
      · rw [visits, List.map_cons, keptFrom]
        exact (if_pos extra).symm
    · obtain ⟨built, next, builds, onward⟩ := reliable.build stop.element here s sound
      obtain ⟨results, s', sound', runs, visits, performs⟩ := ih inside
        { staged := staging.staged ++ [⟨⟨place, stop.index⟩, stop.element.layer, built⟩]
          videoSeen := staging.videoSeen || stop.element.isVideo } onward
      refine ⟨(ofStop place stop, built) :: results, s', sound', ?_, ?_, ?_⟩
      · simp only [extra]
        rw [if_neg Bool.false_ne_true, run_ok_bind builds, runs]
        simp [emission, ofStop, Bool.or_assoc]
      · rw [List.map_cons, visits, List.map_cons, keptFrom]
        exact (if_neg extra).symm
      · exact .build builds performs

/-- Emitting in turn what was built. -/
theorem run_emitAll (reliable : encoder.Reliable elements good)
    (results : List (Visit R × Built)) {s : σ} (sound : good s) (context : Context) :
    ∃ context' s', good s' ∧
      (encoder.emitAll (results.map emission) context).run s = (context', s') ∧
      encoder.Performs (s, context)
        (results.map fun result => .emit result.1.element.layer result.2) (s', context') := by
  induction results generalizing s context with
  | nil => exact ⟨context, s, sound, rfl, .none _⟩
  | cons result rest ih =>
    have onward := reliable.emit context result.1.element.layer result.2 s sound
    generalize called :
      (encoder.emit context result.1.element.layer result.2).run s = next at onward
    obtain ⟨context', s', last, runs, performs⟩ := ih onward next.1
    refine ⟨context', s', last, ?_, .emit called performs⟩
    rw [← runs, ← called]
    rfl

/-- The calls for a group: everything is built, then everything is emitted. -/
def groupCalls (results : List (Visit R × Built)) : List (Call R Built) :=
  (results.map fun result => .build result.1 result.2) ++
    results.map fun result => .emit result.1.element.layer result.2

variable [Scalar R]

section Step

variable {isCancelled : StateM σ Bool} {place : Nat} {group : Group R} {rest : List (Group R)}
  {walk : Walk Context Built} {s s₁ s₂ s₃ : σ}

/-- A walk stops at a look that sees the token set. -/
theorem run_visitFrom_set (looked : isCancelled.run s = (true, s₁)) :
    (encoder.visitFrom isCancelled place (group :: rest) walk).run.run s =
      (.ok (walk, true), s₁) := by
  rw [visitFrom, run_ok_bind (run_lift looked), if_pos rfl]
  rfl

/-- A walk stops in a group that is given up, and leaves nothing of it. -/
theorem run_visitFrom_abandoned (looked : isCancelled.run s = (false, s₁))
    (builds : (encoder.buildStops isCancelled place (Stop.visiting group.elements)
      { videoSeen := walk.videoSeen }).run.run s₁ = (.ok none, s₂)) :
    (encoder.visitFrom isCancelled place (group :: rest) walk).run.run s =
      (.ok (walk, true), s₂) := by
  rw [visitFrom, run_ok_bind (run_lift looked), if_neg Bool.false_ne_true, run_ok_bind builds]
  rfl

/-- A walk goes on after a group that has been built and emitted. -/
theorem run_visitFrom_cons {staging : Staging Built} {context : Context}
    (looked : isCancelled.run s = (false, s₁))
    (builds : (encoder.buildStops isCancelled place (Stop.visiting group.elements)
      { videoSeen := walk.videoSeen }).run.run s₁ = (.ok (some staging), s₂))
    (emits : (encoder.emitAll staging.staged walk.context).run s₂ = (context, s₃)) :
    (encoder.visitFrom isCancelled place (group :: rest) walk).run.run s =
      (encoder.visitFrom isCancelled (place + 1) rest
        { context, emitted := walk.emitted ++ staging.staged
          videoSeen := staging.videoSeen }).run.run s₃ := by
  rw [visitFrom, run_ok_bind (run_lift looked), if_neg Bool.false_ne_true, run_ok_bind builds]
  simp only
  rw [run_ok_bind (run_lift emits)]

end Step

/-- A walk over groups from a place on: what has come of every visit, group by group, is emitted in
the order of the tour. -/
theorem run_visitFrom (reliable : encoder.Reliable elements good)
    (unset : ∀ s, good s → token s = false) (place : Nat) {groups : List (Group R)}
    (inside : ∀ group ∈ groups, group.elements ⊆ elements) (walk : Walk Context Built) {s : σ}
    (sound : good s) :
    ∃ (results : List (List (Visit R × Built))) (walk' : Walk Context Built) (s' : σ),
      (encoder.visitFrom (isSet token) place groups walk).run.run s = (.ok (walk', false), s') ∧
      walk'.emitted = walk.emitted ++ results.flatten.map emission ∧
      results.length = groups.length ∧
      (∀ i part, results[i]? = some part → ∀ result ∈ part, result.1.key.group = place + i) ∧
      results.flatten.map Prod.fst = keptFrom walk.videoSeen
        ((groups.zipIdx place).flatMap fun (group, place) => tourOf place group) ∧
      encoder.Performs (s, walk.context) (results.flatMap groupCalls) (s', walk'.context) := by
  induction groups generalizing place walk s with
  | nil =>
    refine ⟨[], walk, s, rfl, (List.append_nil _).symm, rfl, nofun, rfl, .none _⟩
  | cons group rest ih =>
    obtain ⟨here, inside⟩ := List.forall_mem_cons.mp inside
    obtain ⟨results, s₁, sound₁, builds, visits, performs₁⟩ := run_buildStops reliable unset
      place (fun _ member => here (Stop.element_mem_of_mem_visiting member))
      { videoSeen := walk.videoSeen } sound walk.context
    obtain ⟨context, s₂, sound₂, emits, performs₂⟩ :=
      run_emitAll reliable results sound₁ walk.context
    obtain ⟨others, walk', s', runs, emitted, length, grouped, kept, performs₃⟩ :=
      ih (place + 1) inside
        { context, emitted := walk.emitted ++ results.map emission
          videoSeen := walk.videoSeen ||
            (Stop.visiting group.elements).any fun stop => stop.element.isVideo } sound₂
    refine ⟨results :: others, walk', s', ?_, ?_, ?_, ?_, ?_, ?_⟩
    · have looked : (isSet token).run s = (false, s) := congrArg (·, s) (unset s sound)
      exact (run_visitFrom_cons looked builds emits).trans runs
    · simp [emitted]
    · simp [length]
    · rintro (_ | i) part found result member
      · obtain rfl : results = part := Option.some.inj found
        have visit : result.1 ∈ tourOf place group :=
          mem_of_mem_keptFrom (visits ▸ List.mem_map_of_mem member)
        exact group_of_mem_tourOf visit
      · rw [grouped i part found result member]
        omega
    · rw [List.flatten_cons, List.map_append, visits, kept, List.zipIdx_cons, List.flatMap_cons,
        keptFrom_append]
      simp only [tourOf, List.any_map]
      rfl
    · rw [List.flatMap_cons]
      exact (performs₁.append performs₂).append performs₃

/-! ## All groups -/

/-- What a walk over groups has done, from one state and context to another, with what came of every
visit, group by group, and what was emitted. The tour is the only order that fits. -/
structure Toured (encoder : Encoder (StateM σ) Double Context Built) (groups : List (Group Double))
    (start last : σ × Context) (results : List (List (Visit Double × Built)))
    (emissions : List (Emission Built)) : Prop where
  whole : (tour groups).Perm (declared groups)
  ordered : (tour groups).Pairwise Precedes
  only : ∀ visits : List (Visit Double), visits.Perm (declared groups) →
    visits.Pairwise Precedes → visits = tour groups
  visits : results.flatten.map Prod.fst = kept (tour groups)
  length : results.length = groups.length
  grouped : ∀ (i : Nat) (part : List (Visit Double × Built)), results[i]? = some part →
    ∀ result ∈ part, result.1.key.group = i
  performed : encoder.Performs start (results.flatMap groupCalls) last
  emitted : emissions = results.flatten.map emission
  keys : (emissions.map Emission.key).Nodup
  others : ∀ visit ∈ declared groups, visit.element.isVideo = false →
    visit ∈ results.flatten.map Prod.fst
  videos : (results.flatten.countP fun result => result.1.element.isVideo) =
    min 1 ((declared groups).countP fun visit => visit.element.isVideo)
  collected : ∀ key built, Emission.collect emissions key = some built ↔
    ∃ visit, (visit, built) ∈ results.flatten ∧ visit.key = key

/-- A walk that nothing stops, over groups whose elements can be built, performs the tour of all
elements without the extra videos. -/
theorem visit_toured {encoder : Encoder (StateM σ) Double Context Built}
    {groups : List (Group Double)}
    (reliable : encoder.Reliable (groups.flatMap Group.elements) good)
    (unset : ∀ s, good s → token s = false) (context : Context) {s : σ} (sound : good s) :
    ∃ (walk : Walk Context Built) (s' : σ) (results : List (List (Visit Double × Built))),
      (encoder.visit (isSet token) groups context).run.run s = (.ok (walk, false), s') ∧
      encoder.Toured groups (s, context) (s', walk.context) results walk.emitted := by
  obtain ⟨results, walk, s', runs, emitted, length, grouped, visits, performs⟩ :=
    run_visitFrom reliable unset 0 (Group.elements_subset_flatMap groups)
      ({ context } : Walk Context Built) sound
  rw [List.nil_append] at emitted
  have whole := perm_tour groups
  have left := keptFrom_false (nodup_keys_tour groups)
  have one := countP_keptFrom false (tour groups)
  rw [if_neg Bool.false_ne_true, whole.countP_eq, left] at one
  have visited : results.flatten.map Prod.fst = kept (tour groups) :=
    visits.trans left
  have keys : (walk.emitted.map Emission.key).Nodup := by
    have split : walk.emitted.map Emission.key = (kept (tour groups)).map key := by
      rw [emitted, ← visited, List.map_map, List.map_map]
      rfl
    rw [split]
    exact (nodup_keys_tour groups).sublist (List.filter_sublist.map key)
  refine ⟨walk, s', results, runs, whole, pairwise_tour groups, fun _ => eq_tour groups, visited,
    length, ?_, performs, emitted, keys, ?_, ?_, ?_⟩
  · simpa using grouped
  · intro visit member still
    rw [visited]
    refine List.mem_filter.mpr ⟨whole.mem_iff.mpr member, ?_⟩
    rw [still]
    rfl
  · rw [← one, ← visited, List.countP_map]
    rfl
  · intro key built
    rw [Emission.collect_eq_some_iff keys, emitted]
    constructor
    · rintro ⟨_, member, rfl, rfl⟩
      obtain ⟨⟨visit, built⟩, source, rfl⟩ := List.mem_map.mp member
      exact ⟨visit, source, rfl⟩
    · rintro ⟨visit, member, rfl⟩
      exact ⟨_, List.mem_map_of_mem member, rfl, rfl⟩

/-- An encoder that numbers its builds and lists what it is given. -/
def counting : Encoder (StateM Nat) R (List (Layer × Nat)) Nat where
  start := pure []
  build _ := do
    let built ← get
    set (built + 1)
    return built
  emit context layer built := pure (context ++ [(layer, built)])
  finish := pure

omit [Scalar R] in
/-- Builds that are numbered keep whatever holds of the next number as well. -/
theorem reliable_counting {elements : List (Element R)} {good : Nat → Prop}
    (counts : ∀ count, good count → good (count + 1)) :
    (counting (R := R)).Reliable elements good := by
  refine ⟨fun element _ count sound => ?_, fun context layer built count sound => sound⟩
  exact ⟨count, count + 1, rfl, counts count sound⟩

theorem visit_toured_counting :
    let song : Element Double := .sample ⟨"song.mp3", .overlay, ⟨0⟩, ⟨0⟩⟩
    let film : Element Double := .video ⟨"film.mp4", ⟨0⟩⟩
    let groups : List (Group Double) :=
      [{ name := "first", elements := [song, film] }, { name := "second", elements := [film] }]
    ∃ (walk : Walk (List (Layer × Nat)) Nat) (last : Nat)
      (results : List (List (Visit Double × Nat))),
      (counting.visit (isSet fun count => decide (count = 0)) groups []).run.run 1 =
        (.ok (walk, false), last) ∧
      counting.Toured groups (1, []) (last, walk.context) results walk.emitted := by
  intro song film groups
  have counts : ∀ count : Nat, 0 < count → 0 < count + 1 := fun count _ => Nat.succ_pos count
  have unset : ∀ count : Nat, 0 < count → decide (count = 0) = false := fun count positive =>
    decide_eq_false (Nat.ne_of_gt positive)
  exact visit_toured (reliable_counting counts) unset [] Nat.one_pos

end Encoder

end Storyboard
