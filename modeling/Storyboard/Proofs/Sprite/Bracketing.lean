import Mathlib.Data.List.Induction
import Mathlib.Tactic.SplitIfs
import Storyboard.Number.Double
import Storyboard.Sprite

/-! # Calls on a sprite as brackets

A sequence of calls reads as brackets: a block runs from the call that opens it to the next call
that closes one, and calls that open a block inside of it, or close one outside, do nothing. What a
sprite holds in the end is what this reading spells, and no call changes a block that is closed.
-/

namespace Storyboard

variable {R : Type}

namespace Tracks

/-- The tracks that hold some commands, each on the track of its property. -/
def holding (commands : List (PropertyCommand R)) : Tracks R where
  position := commands.filterMap fun | .position c => some c | _ => none
  x := commands.filterMap fun | .x c => some c | _ => none
  y := commands.filterMap fun | .y c => some c | _ => none
  scale := commands.filterMap fun | .scale c => some c | _ => none
  scaleVec := commands.filterMap fun | .scaleVec c => some c | _ => none
  rotation := commands.filterMap fun | .rotation c => some c | _ => none
  color := commands.filterMap fun | .color c => some c | _ => none
  opacity := commands.filterMap fun | .opacity c => some c | _ => none
  additive := commands.filterMap fun | .additive c => some c | _ => none
  flipH := commands.filterMap fun | .flipH c => some c | _ => none
  flipV := commands.filterMap fun | .flipV c => some c | _ => none

/-- Appends commands in turn. -/
def pushAll (tracks : Tracks R) (commands : List (PropertyCommand R)) : Tracks R :=
  commands.foldl push tracks

theorem holding_nil : holding ([] : List (PropertyCommand R)) = {} := rfl

theorem push_holding (commands : List (PropertyCommand R)) (c : PropertyCommand R) :
    (holding commands).push c = holding (commands ++ [c]) := by
  cases c <;> simp [holding, push]

theorem pushAll_holding (commands later : List (PropertyCommand R)) :
    (holding commands).pushAll later = holding (commands ++ later) := by
  induction later generalizing commands with
  | nil => rw [List.append_nil]; rfl
  | cons c rest ih =>
    rw [pushAll, List.foldl_cons, push_holding]
    exact (ih _).trans (by rw [List.append_assoc]; rfl)

end Tracks

theorem modifyLast_modifyLast {α : Type} (f g : α → α) (list : List α) :
    modifyLast g (modifyLast f list) = modifyLast (g ∘ f) list := by
  induction list using List.reverseRecOn with
  | nil => rfl
  | append_singleton front last _ => simp only [modifyLast_append_singleton, Function.comp_apply]

theorem modifyLast_id {α : Type} (list : List α) : modifyLast id list = list := by
  induction list using List.reverseRecOn with
  | nil => rfl
  | append_singleton front last _ => rw [modifyLast_append_singleton]; rfl

theorem dropLast_modifyLast {α : Type} (f : α → α) (list : List α) :
    (modifyLast f list).dropLast = list.dropLast := by
  induction list using List.reverseRecOn with
  | nil => rfl
  | append_singleton front last _ => simp [modifyLast_append_singleton]

/-! ## The reading -/

namespace SpriteCall

/-- The call closes a block, if one is open. -/
def closes : SpriteCall R → Bool
  | endBlock => true
  | startLoop .. | startTrigger .. | animate _ => false

def command? : SpriteCall R → Option (PropertyCommand R)
  | animate command => some command
  | startLoop .. | startTrigger .. | endBlock => none

/-- The block that is open after the call. -/
def opened (block : Option Block) : SpriteCall R → Option Block
  | startLoop .. => block.or (some .loop)
  | startTrigger .. => block.or (some .trigger)
  | endBlock => none
  | animate _ => block

/-- The call cannot be carried out while that block is open. -/
def isRefused (block : Option Block) : SpriteCall R → Bool
  | startLoop .. | startTrigger .. => block.isSome
  | endBlock => block.isNone
  | animate _ => false

/-- The block that is open after some calls. -/
def openAfter (calls : List (SpriteCall R)) : Option Block := calls.foldl opened none

/-- The calls that are not refused, from a block on that is open. -/
def accepted : Option Block → List (SpriteCall R) → List (SpriteCall R)
  | _, [] => []
  | block, c :: rest =>
    if c.isRefused block then accepted block rest else c :: accepted (c.opened block) rest

/-- The commands up to the end of a block. -/
def inside (calls : List (SpriteCall R)) : List (PropertyCommand R) :=
  (calls.takeWhile fun c => !c.closes).filterMap command?

/-- The calls after the end of a block. -/
def outside (calls : List (SpriteCall R)) : List (SpriteCall R) :=
  (calls.dropWhile fun c => !c.closes).tail

theorem length_outside_le (calls : List (SpriteCall R)) :
    (outside calls).length ≤ calls.length := by
  have dropped : (calls.dropWhile fun c => !c.closes).length ≤ calls.length :=
    (List.dropWhile_suffix _).length_le
  have tail := List.length_tail (l := calls.dropWhile fun c => !c.closes)
  rw [outside]
  omega

end SpriteCall

/-- A part of a sequence of calls: a command outside of blocks, or a block with its commands. -/
inductive Passage (R : Type) where
  | command (command : PropertyCommand R)
  | loop (loop : Loop R)
  | trigger (trigger : Trigger R)

namespace Passage

/-- The command of a passage outside of blocks. -/
def command? : Passage R → Option (PropertyCommand R)
  | command c => some c
  | loop _ | trigger _ => none

def loop? : Passage R → Option (Loop R)
  | loop l => some l
  | command _ | trigger _ => none

def trigger? : Passage R → Option (Trigger R)
  | trigger t => some t
  | command _ | loop _ => none

def ofCalls : List (SpriteCall R) → List (Passage R)
  | [] => []
  | .animate c :: rest => .command c :: ofCalls rest
  | .endBlock :: rest => ofCalls rest
  | .startLoop startTime repeatCount :: rest =>
    .loop ⟨startTime, repeatCount, .holding (SpriteCall.inside rest)⟩ ::
      ofCalls (SpriteCall.outside rest)
  | .startTrigger name startTime endTime group :: rest =>
    .trigger ⟨name, startTime, endTime, group, .holding (SpriteCall.inside rest)⟩ ::
      ofCalls (SpriteCall.outside rest)
termination_by calls => calls.length
decreasing_by
  all_goals
    have shorter := SpriteCall.length_outside_le rest
    simp only [List.length_cons]
    omega

end Passage

/-! ## Carrying calls out -/

namespace Sprite

/-- The sprite after a call, which is the same if the call fails. -/
def attempt (s : Sprite R) (c : SpriteCall R) : Sprite R :=
  match s.call c with
  | .ok next => next
  | .error _ => s

/-- The sprite after calls in turn, of which some may fail. -/
def attemptAll (s : Sprite R) (calls : List (SpriteCall R)) : Sprite R := calls.foldl attempt s

/-- Adds commands in turn. -/
def animateAll (s : Sprite R) (commands : List (PropertyCommand R)) : Sprite R :=
  commands.foldl animate s

theorem startLoop_of_closed {s : Sprite R} (closed : s.openBlock = none) (startTime : R)
    (repeatCount : Nat) : s.startLoop startTime repeatCount =
      .ok { s with
        loops := s.loops ++ [⟨startTime, repeatCount, {}⟩]
        openBlock := some .loop } := by
  simp only [startLoop, requireClosed, closed]
  rfl

theorem startTrigger_of_closed {s : Sprite R} (closed : s.openBlock = none) (name : String)
    (startTime endTime : R) (group : Int) : s.startTrigger name startTime endTime group =
      .ok { s with
        triggers := s.triggers ++ [⟨name, startTime, endTime, group, {}⟩]
        openBlock := some .trigger } := by
  simp only [startTrigger, requireClosed, closed]
  rfl

/-- A call fails exactly if it is refused, and then because of the state of the sprite. -/
theorem call_eq (s : Sprite R) (c : SpriteCall R) :
    if c.isRefused s.openBlock then ∃ detail, s.call c = .error (.invalidState detail)
    else s.call c = .ok (s.attempt c) := by
  cases c with
  | startLoop startTime repeatCount =>
    cases opened : s.openBlock with
    | none => simp [SpriteCall.isRefused, attempt, call, startLoop_of_closed opened]
    | some block =>
      simp only [call, startLoop, requireClosed, opened]
      exact ⟨_, rfl⟩
  | startTrigger name startTime endTime group =>
    cases opened : s.openBlock with
    | none => simp [SpriteCall.isRefused, attempt, call, startTrigger_of_closed opened]
    | some block =>
      simp only [call, startTrigger, requireClosed, opened]
      exact ⟨_, rfl⟩
  | endBlock =>
    cases opened : s.openBlock with
    | none =>
      simp only [call, endBlock, opened]
      exact ⟨_, rfl⟩
    | some block => simp [SpriteCall.isRefused, attempt, call, endBlock, opened]
  | animate c => rfl

theorem attempt_of_isRefused {s : Sprite R} {c : SpriteCall R}
    (refused : c.isRefused s.openBlock = true) : s.attempt c = s := by
  have answer := s.call_eq c
  rw [if_pos refused] at answer
  obtain ⟨detail, failed⟩ := answer
  rw [attempt, failed]

theorem call_of_not_isRefused {s : Sprite R} {c : SpriteCall R}
    (allowed : c.isRefused s.openBlock = false) : s.call c = .ok (s.attempt c) := by
  have answer := s.call_eq c
  rwa [if_neg (Bool.eq_false_iff.mp allowed)] at answer

theorem attempt_startLoop {s : Sprite R} (closed : s.openBlock = none) (startTime : R)
    (repeatCount : Nat) : s.attempt (.startLoop startTime repeatCount) =
      { s with loops := s.loops ++ [⟨startTime, repeatCount, {}⟩], openBlock := some .loop } := by
  rw [attempt, call, startLoop_of_closed closed]

theorem attempt_startTrigger {s : Sprite R} (closed : s.openBlock = none) (name : String)
    (startTime endTime : R) (group : Int) : s.attempt (.startTrigger name startTime endTime group) =
      { s with
        triggers := s.triggers ++ [⟨name, startTime, endTime, group, {}⟩]
        openBlock := some .trigger } := by
  rw [attempt, call, startTrigger_of_closed closed]

theorem attempt_endBlock (s : Sprite R) : s.attempt .endBlock = { s with openBlock := none } := by
  cases opened : s.openBlock with
  | none =>
    rw [attempt_of_isRefused (by rw [opened]; rfl), ← opened]
  | some block => simp only [attempt, call, endBlock, opened]

theorem attempt_animate (s : Sprite R) (c : PropertyCommand R) :
    s.attempt (.animate c) = s.animate c := rfl

theorem openBlock_animate (s : Sprite R) (c : PropertyCommand R) :
    (s.animate c).openBlock = s.openBlock := by
  rw [animate]
  split <;> rfl

theorem length_loops_animate (s : Sprite R) (c : PropertyCommand R) :
    (s.animate c).loops.length = s.loops.length := by
  rw [animate]
  split <;> simp only [length_modifyLast]

theorem length_triggers_animate (s : Sprite R) (c : PropertyCommand R) :
    (s.animate c).triggers.length = s.triggers.length := by
  rw [animate]
  split <;> simp only [length_modifyLast]

/-- Which block is open after a call is told by the call and the block before it. -/
theorem openBlock_attempt (s : Sprite R) (c : SpriteCall R) :
    (s.attempt c).openBlock = c.opened s.openBlock := by
  cases c with
  | startLoop startTime repeatCount =>
    cases opened : s.openBlock with
    | none => rw [attempt_startLoop opened]; rfl
    | some block => rw [attempt_of_isRefused (by rw [opened]; rfl), opened]; rfl
  | startTrigger name startTime endTime group =>
    cases opened : s.openBlock with
    | none => rw [attempt_startTrigger opened]; rfl
    | some block => rw [attempt_of_isRefused (by rw [opened]; rfl), opened]; rfl
  | endBlock => rw [attempt_endBlock]; rfl
  | animate c => exact openBlock_animate s c

theorem openBlock_attemptAll (s : Sprite R) (calls : List (SpriteCall R)) :
    (s.attemptAll calls).openBlock = calls.foldl SpriteCall.opened s.openBlock := by
  induction calls generalizing s with
  | nil => rfl
  | cons c rest ih =>
    rw [attemptAll, List.foldl_cons, List.foldl_cons, ← openBlock_attempt]
    exact ih _

/-- Without the calls that are refused, no call fails, and the sprite is the same. -/
theorem calls_accepted (s : Sprite R) (calls : List (SpriteCall R)) :
    s.calls (SpriteCall.accepted s.openBlock calls) = (s.attemptAll calls, none) := by
  induction calls generalizing s with
  | nil => rfl
  | cons c rest ih =>
    rw [SpriteCall.accepted, attemptAll, List.foldl_cons]
    split_ifs with refused
    · rw [attempt_of_isRefused refused]
      exact ih s
    · rw [calls, call_of_not_isRefused (Bool.eq_false_iff.mpr refused), ← openBlock_attempt]
      exact ih _

/-! ## What a block takes in -/

/-- Changes the tracks that take the next command. -/
def onTarget (f : Tracks R → Tracks R) (s : Sprite R) : Sprite R :=
  match s.openBlock with
  | some .loop => { s with loops := modifyLast (fun l => { l with tracks := f l.tracks }) s.loops }
  | some .trigger =>
    { s with triggers := modifyLast (fun t => { t with tracks := f t.tracks }) s.triggers }
  | none => { s with tracks := f s.tracks }

theorem animate_eq_onTarget (s : Sprite R) (c : PropertyCommand R) :
    s.animate c = s.onTarget fun tracks => tracks.push c := rfl

theorem onTarget_id (s : Sprite R) : s.onTarget id = s := by
  have loops : modifyLast (fun l : Loop R => { l with tracks := id l.tracks }) s.loops = s.loops :=
    modifyLast_id s.loops
  have triggers : modifyLast (fun t : Trigger R => { t with tracks := id t.tracks }) s.triggers =
      s.triggers := modifyLast_id s.triggers
  rw [onTarget, loops, triggers]
  split <;> rfl

/-- Two changes of the open tracks in turn are one change. -/
theorem onTarget_onTarget (f g : Tracks R → Tracks R) (s : Sprite R) :
    (s.onTarget f).onTarget g = s.onTarget (g ∘ f) := by
  cases opened : s.openBlock with
  | none => simp only [onTarget, opened, Function.comp_apply]
  | some block =>
    cases block with
    | loop =>
      simp only [onTarget, opened, modifyLast_modifyLast]
      rfl
    | trigger =>
      simp only [onTarget, opened, modifyLast_modifyLast]
      rfl

theorem animateAll_eq_onTarget (s : Sprite R) (commands : List (PropertyCommand R)) :
    s.animateAll commands = s.onTarget fun tracks => tracks.pushAll commands := by
  induction commands generalizing s with
  | nil => exact (onTarget_id s).symm
  | cons c rest ih =>
    rw [animateAll, List.foldl_cons, animate_eq_onTarget]
    exact (ih _).trans (onTarget_onTarget _ _ s)

/-- While a block is open, the calls up to the next one that closes it only add their commands. -/
theorem attemptAll_open {s : Sprite R} {block : Block} (opened : s.openBlock = some block)
    (calls : List (SpriteCall R)) :
    { s.attemptAll calls with openBlock := none } =
      { ({ s.animateAll (SpriteCall.inside calls) with openBlock := none }).attemptAll
          (SpriteCall.outside calls) with openBlock := none } := by
  induction calls generalizing s with
  | nil => rfl
  | cons c rest ih =>
    rw [attemptAll, List.foldl_cons]
    cases c with
    | startLoop startTime repeatCount =>
      rw [attempt_of_isRefused (by rw [opened]; rfl)]
      exact ih opened
    | startTrigger name startTime endTime group =>
      rw [attempt_of_isRefused (by rw [opened]; rfl)]
      exact ih opened
    | endBlock =>
      rw [attempt_endBlock]
      rfl
    | animate c =>
      rw [attempt_animate]
      exact ih ((openBlock_animate s c).trans opened)

/-- What calls add to a closed sprite, up to the block that they leave open. -/
theorem attemptAll_closed {s : Sprite R} (closed : s.openBlock = none)
    (calls : List (SpriteCall R)) :
    { s.attemptAll calls with openBlock := none } =
      { s with
        tracks := s.tracks.pushAll ((Passage.ofCalls calls).filterMap Passage.command?)
        loops := s.loops ++ (Passage.ofCalls calls).filterMap Passage.loop?
        triggers := s.triggers ++ (Passage.ofCalls calls).filterMap Passage.trigger? } := by
  -- along the reading, which takes a block with all of its commands in one step
  induction calls using Passage.ofCalls.induct generalizing s with
  | case1 => simp [attemptAll, Passage.ofCalls, Tracks.pushAll, closed]
  | case2 c rest ih =>
    have added : s.animate c = { s with tracks := s.tracks.push c } := by
      simp only [animate, closed]
    rw [attemptAll, List.foldl_cons, attempt_animate, Passage.ofCalls, added]
    exact ih closed
  | case3 rest ih =>
    rw [attemptAll, List.foldl_cons, attempt_of_isRefused (by rw [closed]; rfl), Passage.ofCalls]
    exact ih closed
  | case4 startTime repeatCount rest ih =>
    rw [attemptAll, List.foldl_cons, attempt_startLoop closed, Passage.ofCalls]
    refine (attemptAll_open rfl rest).trans ?_
    rw [ih rfl, animateAll_eq_onTarget]
    simp [onTarget, modifyLast_append_singleton, List.filterMap_cons, Passage.command?,
      Passage.loop?, Passage.trigger?, ← Tracks.holding_nil, Tracks.pushAll_holding, closed]
  | case5 name startTime endTime group rest ih =>
    rw [attemptAll, List.foldl_cons, attempt_startTrigger closed, Passage.ofCalls]
    refine (attemptAll_open rfl rest).trans ?_
    rw [ih rfl, animateAll_eq_onTarget]
    simp [onTarget, modifyLast_append_singleton, List.filterMap_cons, Passage.command?,
      Passage.loop?, Passage.trigger?, ← Tracks.holding_nil, Tracks.pushAll_holding, closed]

/-! ## What holds after any calls -/

/-- An open block is the last one of its kind, and every set of tracks holds some commands. -/
structure Bracketed (s : Sprite R) : Prop where
  loop_open : s.openBlock = some .loop → s.loops ≠ []
  trigger_open : s.openBlock = some .trigger → s.triggers ≠ []
  holding : ∀ tracks ∈ s.allTracks, ∃ commands, tracks = .holding commands

/-- The place, among all tracks, of those that take the next command. -/
def target (s : Sprite R) : Nat :=
  match s.openBlock with
  | none => 0
  | some .loop => s.loops.length
  | some .trigger => s.loops.length + s.triggers.length

/-- One command goes to the tracks at the target, and all others stay. -/
theorem allTracks_animate {s : Sprite R} (bracketed : s.Bracketed) (c : PropertyCommand R) :
    ∃ front held back, s.allTracks = front ++ .holding held :: back ∧
      (s.animate c).allTracks = front ++ .holding (held ++ [c]) :: back ∧
      front.length = s.target := by
  obtain ⟨front, tracks, back, before, after, place⟩ : ∃ front tracks back,
      s.allTracks = front ++ tracks :: back ∧
      (s.animate c).allTracks = front ++ tracks.push c :: back ∧ front.length = s.target := by
    cases opened : s.openBlock with
    | none =>
      refine ⟨[], s.tracks, s.loops.map Loop.tracks ++ s.triggers.map Trigger.tracks, rfl, ?_, ?_⟩
      · simp only [allTracks, animate, opened, List.nil_append]
        rfl
      · simp only [target, opened, List.length_nil]
    | some block =>
      cases block with
      | loop =>
        obtain ⟨loops, last, ends⟩ : ∃ front last, s.loops = front ++ [last] :=
          ⟨_, _, (List.dropLast_concat_getLast (bracketed.loop_open opened)).symm⟩
        refine ⟨s.tracks :: loops.map Loop.tracks, last.tracks, s.triggers.map Trigger.tracks,
          ?_, ?_, ?_⟩
        · simp [allTracks, ends]
        · simp [allTracks, animate, opened, ends, modifyLast_append_singleton]
        · simp [target, opened, ends]
      | trigger =>
        obtain ⟨triggers, last, ends⟩ : ∃ front last, s.triggers = front ++ [last] :=
          ⟨_, _, (List.dropLast_concat_getLast (bracketed.trigger_open opened)).symm⟩
        refine ⟨s.tracks :: s.loops.map Loop.tracks ++ triggers.map Trigger.tracks, last.tracks, [],
          ?_, ?_, ?_⟩
        · simp [allTracks, ends]
        · simp [allTracks, animate, opened, ends, modifyLast_append_singleton]
        · simp [target, opened, ends]
          omega
  obtain ⟨held, rfl⟩ := bracketed.holding tracks (by rw [before]; simp)
  exact ⟨front, held, back, before, by rw [after, Tracks.push_holding], place⟩

theorem bracketed_new (path : String) (layer : Layer) (origin : Origin) (position : Vec2 R) :
    (new path layer origin position).Bracketed where
  loop_open opened := by simp [new] at opened
  trigger_open opened := by simp [new] at opened
  holding tracks member := by
    obtain rfl : tracks = {} := by simpa [new, allTracks] using member
    exact ⟨[], Tracks.holding_nil.symm⟩

theorem Bracketed.holding_of_mem {s : Sprite R} (bracketed : s.Bracketed) {tracks : Tracks R}
    (known : tracks = {} ∨ tracks ∈ s.allTracks) : ∃ commands, tracks = .holding commands := by
  obtain rfl | known := known
  · exact ⟨[], Tracks.holding_nil.symm⟩
  · exact bracketed.holding tracks known

/-- A step keeps the brackets in order. -/
theorem Bracketed.attempt {s : Sprite R} (bracketed : s.Bracketed) (c : SpriteCall R) :
    (s.attempt c).Bracketed := by
  by_cases refused : c.isRefused s.openBlock = true
  · rwa [attempt_of_isRefused refused]
  -- a block that is opened is the new last one of its kind, and its tracks are empty
  cases c with
  | startLoop startTime repeatCount =>
    have closed : s.openBlock = none := by simpa [SpriteCall.isRefused] using refused
    rw [attempt_startLoop closed]
    refine ⟨fun _ => by simp, fun opened => by simp at opened, fun tracks member => ?_⟩
    apply bracketed.holding_of_mem
    simp only [allTracks, List.map_append, List.map_cons, List.map_nil] at member ⊢
    grind
  | startTrigger name startTime endTime group =>
    have closed : s.openBlock = none := by simpa [SpriteCall.isRefused] using refused
    rw [attempt_startTrigger closed]
    refine ⟨fun opened => by simp at opened, fun _ => by simp, fun tracks member => ?_⟩
    apply bracketed.holding_of_mem
    simp only [allTracks, List.map_append, List.map_cons, List.map_nil] at member ⊢
    grind
  | endBlock =>
    rw [attempt_endBlock]
    exact ⟨fun opened => by simp at opened, fun opened => by simp at opened, bracketed.holding⟩
  | animate c =>
    obtain ⟨front, held, back, before, after, -⟩ := allTracks_animate bracketed c
    refine ⟨fun opened => ?_, fun opened => ?_, fun tracks member => ?_⟩
    · have before := bracketed.loop_open (openBlock_animate s c ▸ opened)
      rwa [← List.length_pos_iff, attempt_animate, length_loops_animate, List.length_pos_iff]
    · have before := bracketed.trigger_open (openBlock_animate s c ▸ opened)
      rwa [← List.length_pos_iff, attempt_animate, length_triggers_animate, List.length_pos_iff]
    · rw [attempt_animate, after] at member
      obtain known | rfl : tracks ∈ s.allTracks ∨ tracks = .holding (held ++ [c]) := by
        rw [before]
        grind
      · exact bracketed.holding tracks known
      · exact ⟨_, rfl⟩

theorem Bracketed.attemptAll {s : Sprite R} (bracketed : s.Bracketed)
    (calls : List (SpriteCall R)) : (s.attemptAll calls).Bracketed := by
  induction calls generalizing s with
  | nil => exact bracketed
  | cons c rest ih => exact ih (bracketed.attempt c)

def closedLoops (s : Sprite R) : List (Loop R) :=
  if s.openBlock = some .loop then s.loops.dropLast else s.loops

def closedTriggers (s : Sprite R) : List (Trigger R) :=
  if s.openBlock = some .trigger then s.triggers.dropLast else s.triggers

theorem closedLoops_initial (s : Sprite R) : s.closedLoops <+: s.loops := by
  rw [closedLoops]
  split
  · exact List.dropLast_prefix _
  · exact List.prefix_rfl

theorem closedTriggers_initial (s : Sprite R) : s.closedTriggers <+: s.triggers := by
  rw [closedTriggers]
  split
  · exact List.dropLast_prefix _
  · exact List.prefix_rfl

/-- A step keeps the blocks that have been closed, and the one that it closes joins them. -/
theorem closed_attempt (s : Sprite R) (c : SpriteCall R) :
    s.closedLoops <+: (s.attempt c).closedLoops ∧
      s.closedTriggers <+: (s.attempt c).closedTriggers := by
  by_cases refused : c.isRefused s.openBlock = true
  · rw [attempt_of_isRefused refused]
    exact ⟨List.prefix_rfl, List.prefix_rfl⟩
  cases c with
  | startLoop startTime repeatCount =>
    have closed : s.openBlock = none := by simpa [SpriteCall.isRefused] using refused
    rw [attempt_startLoop closed]
    simp [closedLoops, closedTriggers, closed]
  | startTrigger name startTime endTime group =>
    have closed : s.openBlock = none := by simpa [SpriteCall.isRefused] using refused
    rw [attempt_startTrigger closed]
    simp [closedLoops, closedTriggers, closed]
  | endBlock =>
    rw [attempt_endBlock]
    exact ⟨s.closedLoops_initial, s.closedTriggers_initial⟩
  | animate c =>
    rw [attempt_animate, closedLoops, closedLoops, closedTriggers, closedTriggers,
      openBlock_animate]
    cases opened : s.openBlock with
    | none => simp [animate, opened]
    | some block => cases block <;> simp [animate, opened, dropLast_modifyLast]

theorem closed_attemptAll (s : Sprite R) (calls : List (SpriteCall R)) :
    s.closedLoops <+: (s.attemptAll calls).closedLoops ∧
      s.closedTriggers <+: (s.attemptAll calls).closedTriggers := by
  induction calls generalizing s with
  | nil => exact ⟨List.prefix_rfl, List.prefix_rfl⟩
  | cons c rest ih =>
    have step := closed_attempt s c
    have later := ih (s.attempt c)
    exact ⟨step.1.trans later.1, step.2.trans later.2⟩

/-- A sprite holds in the end what its calls read as: the commands outside of blocks, and the blocks
in the order in which they were opened, each with the commands up to its end. The calls that fail
are those that the state refuses; without them no call fails, and the sprite is the same. A command
is added to the open block, or outside of blocks, and a closed block stays. -/
theorem attemptAll_new (path : String) (layer : Layer) (origin : Origin) (position : Vec2 R)
    (calls later : List (SpriteCall R)) (next : SpriteCall R) (command : PropertyCommand R) :
    let start := new path layer origin position
    let after := start.attemptAll calls
    let passages := Passage.ofCalls calls
    after = {
        path, layer, origin
        initialPosition := position
        tracks := .holding (passages.filterMap Passage.command?)
        loops := passages.filterMap Passage.loop?
        triggers := passages.filterMap Passage.trigger?
        openBlock := SpriteCall.openAfter calls } ∧
      start.calls (SpriteCall.accepted none calls) = (after, none) ∧
      (if next.isRefused (SpriteCall.openAfter calls) then
        (∃ detail, after.call next = .error (.invalidState detail)) ∧ after.attempt next = after
      else after.call next = .ok (after.attempt next)) ∧
      (∃ front held back, after.allTracks = front ++ .holding held :: back ∧
        (after.animate command).allTracks = front ++ .holding (held ++ [command]) :: back ∧
        front.length = after.target) ∧
      after.closedLoops <+: (start.attemptAll (calls ++ later)).loops ∧
      after.closedTriggers <+: (start.attemptAll (calls ++ later)).triggers := by
  intro start after passages
  have opened : after.openBlock = SpriteCall.openAfter calls := openBlock_attemptAll start calls
  refine ⟨?_, calls_accepted start calls, ?_, ?_, ?_⟩
  · have reading := attemptAll_closed (s := start) rfl calls
    have joined : after = { { after with openBlock := none } with openBlock := after.openBlock } :=
      rfl
    rw [joined, opened, reading]
    simp only [start, new, ← Tracks.holding_nil, Tracks.pushAll_holding, List.nil_append]
    rfl
  · have answer := after.call_eq next
    rw [opened] at answer
    split_ifs at answer ⊢ with refused
    · exact ⟨answer, attempt_of_isRefused (by rwa [opened])⟩
    · exact answer
  · exact allTracks_animate ((bracketed_new path layer origin position).attemptAll calls) command
  · have appended : start.attemptAll (calls ++ later) = after.attemptAll later :=
      List.foldl_append
    have kept := closed_attemptAll after later
    rw [appended]
    exact ⟨kept.1.trans (closedLoops_initial _), kept.2.trans (closedTriggers_initial _)⟩

end Sprite

end Storyboard
