import Storyboard.Proofs.Events.Line
import Storyboard.Proofs.Number.Rounding
import Storyboard.Proofs.Sorting

/-! # Commands in order of time

Every command of a block has one line, and the lines stand by their exact windows. Rounding keeps
the order of numbers, so the starts that are written do not go back, and an end that is written lies
after its start. Lines of one window stand by property, and those of one property as its commands
were given.
-/

namespace Storyboard

/-! ## Places of commands -/

/-- The properties in the order in which lines of one window stand. -/
inductive Property where
  | position
  | x
  | y
  | scale
  | scaleVec
  | rotation
  | opacity
  | color
  | flipH
  | flipV
  | additive
  deriving DecidableEq

namespace Property

def all : List Property :=
  [position, x, y, scale, scaleVec, rotation, opacity, color, flipH, flipV, additive]

/-- The place of a property in the order. -/
def rank (property : Property) : Nat := all.idxOf property

theorem pairwise_all : all.Pairwise fun p q => p.rank < q.rank := by decide

end Property

variable {R : Type}

/-- A row with the window of its command and with the place of the command: its property and its
number on the track. -/
structure PlacedRow (R : Type) where
  property : Property
  index : Nat
  window : R × R
  row : EventRow

namespace PlacedRow

/-- A command stands before another one if its property does, or on the same track. -/
def Before (p q : PlacedRow R) : Prop :=
  p.property.rank < q.property.rank ∨ p.property = q.property ∧ p.index < q.index

end PlacedRow

variable [Scalar R]

namespace Tracks

/-- The rows of the commands of a property, as they were given. -/
def rowsOf (tracks : Tracks R) : Property → List (TimedRow R)
  | .position => tracks.position.map (EventRow.of "M" Vec2.integerText)
  | .x => tracks.x.map (EventRow.of "MX" integerText)
  | .y => tracks.y.map (EventRow.of "MY" integerText)
  | .scale => tracks.scale.map (EventRow.of "S" fractionText)
  | .scaleVec => tracks.scaleVec.map (EventRow.of "V" Vec2.fractionText)
  | .rotation => tracks.rotation.map (EventRow.of "R" fractionText)
  | .opacity => tracks.opacity.map (EventRow.of "F" fractionText)
  | .color => tracks.color.map (EventRow.of "C" Color.integerText)
  | .flipH => tracks.flipH.map (EventRow.of "P" fun _ => "H")
  | .flipV => tracks.flipV.map (EventRow.of "P" fun _ => "V")
  | .additive => tracks.additive.map (EventRow.of "P" fun _ => "A")

/-- The rows of all commands at their places. -/
def placedRows (tracks : Tracks R) : List (PlacedRow R) :=
  Property.all.flatMap fun property =>
    (tracks.rowsOf property).zipIdx.map fun (timed, index) => ⟨property, index, timed.1, timed.2⟩

theorem map_placedRows (tracks : Tracks R) :
    tracks.placedRows.map (fun p => (p.window, p.row)) = tracks.timedRows := by
  have part (rows : List (TimedRow R)) : rows.zipIdx.map (fun placed => placed.1) = rows :=
    List.zipIdx_map_fst 0 rows
  simp [placedRows, Function.comp_def, part, Property.all, rowsOf, timedRows]

theorem pairwise_placedRows (tracks : Tracks R) :
    tracks.placedRows.Pairwise PlacedRow.Before := by
  refine List.pairwise_flatMap.mpr ⟨fun property _ => ?_, ?_⟩
  · rw [List.pairwise_map]
    exact (pairwise_zipIdx _ 0).imp fun less => .inr ⟨rfl, less⟩
  · refine Property.pairwise_all.imp fun less p first q second => .inl ?_
    obtain ⟨_, _, rfl⟩ := List.mem_map.mp first
    obtain ⟨_, _, rfl⟩ := List.mem_map.mp second
    exact less

/-- The rows at their places in the order of the lines. -/
def placedLines (tracks : Tracks R) : List (PlacedRow R) :=
  tracks.placedRows.mergeSort fun p q => Scalar.windowLE p.window q.window

theorem rows_eq_map_placedLines (tracks : Tracks R) :
    tracks.rows = tracks.placedLines.map PlacedRow.row := by
  have timed : tracks.placedLines.map (fun p => (p.window, p.row)) =
      tracks.timedRows.mergeSort fun a b => Scalar.windowLE a.1 b.1 := by
    rw [← map_placedRows]
    exact List.map_mergeSort fun _ _ _ _ => rfl
  rw [rows, ← timed, List.map_map]
  rfl

/-- A row writes the window of a command on the tracks. -/
theorem window_of_mem_placedRows {tracks : Tracks R} {p : PlacedRow R}
    (member : p ∈ tracks.placedRows) :
    p.window ∈ tracks.windows ∧ p.row.start = integerText p.window.1 ∧
      p.row.stop = integerText p.window.2 := by
  obtain ⟨property, _, inside⟩ := List.mem_flatMap.mp member
  obtain ⟨⟨timed, index⟩, numbered, rfl⟩ := List.mem_map.mp inside
  have given : timed ∈ tracks.rowsOf property := List.fst_mem_of_mem_zipIdx numbered
  cases property <;> obtain ⟨c, on, rfl⟩ := List.mem_map.mp given
  all_goals
    have listed := List.mem_map_of_mem (f := Command.window) on
    refine ⟨?_, rfl, rfl⟩
    simp only [windows, Track.windows, List.mem_append, EventRow.of, listed, true_or, or_true]

end Tracks

/-! ## What a line tells of its window -/

/-- The start and, unless it is blank, the end that a line of a command tells. -/
def lineWindow? (line : String) : Option (Int × Option Int) :=
  match cut ',' line with
  | _ :: _ :: start :: stop :: _ => do
    let start ← start.toInt?
    if stop = "" then return (start, none)
    return (start, some (← stop.toInt?))
  | _ => none

namespace PlacedRow

/-- The window in whole numbers, with an end only if it is another one than the start. -/
def wholeWindow (p : PlacedRow R) : Int × Option Int :=
  (roundToInteger p.window.1,
    if roundToInteger p.window.2 = roundToInteger p.window.1 then none
    else some (roundToInteger p.window.2))

/-- The window of a row can be read off its line, in whole numbers. -/
theorem lineWindow?_text {p : PlacedRow R} (written : p.row.IsWritten)
    (start : p.row.start = integerText p.window.1) (stop : p.row.stop = integerText p.window.2) :
    lineWindow? p.row.text = some p.wholeWindow := by
  obtain ⟨values, cuts, _⟩ := written.cut_text
  have reads (x : R) : (integerText x).toInt? = some (roundToInteger x) := Int.toInt?_repr _
  have texts : integerText p.window.2 = integerText p.window.1 ↔
      roundToInteger p.window.2 = roundToInteger p.window.1 := by
    refine ⟨fun same => ?_, fun same => congrArg toString same⟩
    have numbers := congrArg String.toInt? same
    rwa [reads, reads, Option.some.injEq] at numbers
  rw [lineWindow?, cuts]
  simp only [EventRow.fields, EventRow.stopText, start, stop, reads, texts, wholeWindow]
  by_cases same : roundToInteger p.window.2 = roundToInteger p.window.1
  · simp [same]
  · simp [same, integerText_ne_empty, reads]

end PlacedRow

/-! ## Blocks -/

/-- Commands below the line that opens their block, if they are in one. -/
structure CommandBlock (R : Type) where
  /-- The line above the commands, with its end. -/
  title : String
  indentation : String
  tracks : Tracks R

namespace CommandBlock

def lines (block : CommandBlock R) : List String := block.tracks.rows.map EventRow.text

def text (block : CommandBlock R) : String :=
  block.title ++ String.join (block.lines.map fun line => block.indentation ++ line ++ "\n")

end CommandBlock

def Loop.commandBlock (l : Loop R) : CommandBlock R :=
  ⟨" L," ++ integerText l.startTime ++ "," ++ toString l.repeatCount ++ "\n", "  ", l.tracks⟩

def Trigger.commandBlock (t : Trigger R) : CommandBlock R :=
  ⟨" T," ++ t.name ++ "," ++ integerText t.startTime ++ "," ++ integerText t.endTime ++
    (if t.group = 0 then "" else "," ++ toString t.group) ++ "\n", "  ", t.tracks⟩

namespace Sprite

/-- The commands outside of blocks, and those of every loop and trigger. -/
def commandBlocks (s : Sprite R) : List (CommandBlock R) :=
  ⟨"", " ", s.tracks⟩ :: s.loops.map Loop.commandBlock ++ s.triggers.map Trigger.commandBlock

theorem map_tracks_commandBlocks (s : Sprite R) :
    s.commandBlocks.map CommandBlock.tracks = s.allTracks := by
  simp [commandBlocks, allTracks, Loop.commandBlock, Trigger.commandBlock, Function.comp_def]

theorem bodyText_eq_join (s : Sprite R) :
    s.bodyText = String.join (s.commandBlocks.map CommandBlock.text) := by
  have text (block : CommandBlock R) :
      block.text = block.title ++ indentedLines block.indentation block.tracks.rows := by
    simp [CommandBlock.text, CommandBlock.lines, indentedLines, Function.comp_def]
  simp only [bodyText, commandBlocks, List.map_cons, List.map_append, List.map_map,
    Function.comp_def, text, String.join_cons, String.join_append, String.empty_append]
  rfl

end Sprite

theorem Element.eventBlock_of_check {e : Element R} {s : Sprite R} (drawn : e.sprite? = some s)
    (checked : s.check = .ok ()) :
    e.eventBlock = .ok ⟨e.section, e.headerLine ++
      String.join (s.commandBlocks.map CommandBlock.text)⟩ := by
  rw [eventBlock, drawn, ← s.bodyText_eq_join]
  simp only [checked]
  rfl

/-! ## Exact times -/

/-- An end that is written lies after its start if the command does not run backward. -/
theorem PlacedRow.lt_of_mem_wholeWindow {p : PlacedRow Rat}
    (forward : ¬ p.window.2 < p.window.1) {stop : Int} (written : stop ∈ p.wholeWindow.2) :
    p.wholeWindow.1 < stop := by
  have ordered := roundToInteger_mono (not_lt.mp forward)
  simp only [wholeWindow, Option.mem_def] at written ⊢
  split_ifs at written with same
  cases written
  omega

namespace Tracks

variable {tracks : Tracks Rat}

/-- Lines stand in the order of their windows, and in that of their places where windows are equal.
-/
theorem pairwise_placedLines (tracks : Tracks Rat) :
    tracks.placedLines.Pairwise fun p q =>
      (p.window.1 < q.window.1 ∨ p.window.1 = q.window.1 ∧ p.window.2 ≤ q.window.2) ∧
        (p.window = q.window → p.Before q) := by
  have sorted := pairwise_mergeSort_stable
    (fun p q : PlacedRow Rat => Scalar.windowLE p.window q.window)
    (fun p q r => Scalar.windowLE_trans p.window q.window r.window)
    (fun p q => Scalar.windowLE_total p.window q.window) tracks.pairwise_placedRows
  refine sorted.imp fun {p q} ordered => ⟨?_, fun same => ordered.2 ?_⟩
  · obtain ⟨starts, ends⟩ := Scalar.windowLE_iff_lex.mp ordered.1
    have starts : p.window.1 ≤ q.window.1 := of_decide_eq_true starts
    rcases starts.lt_or_eq with less | same
    · exact .inl less
    · exact .inr ⟨same, of_decide_eq_true (ends same)⟩
  · rw [same]
    exact (Bool.or_self _).symm.trans (Scalar.windowLE_total q.window q.window)

theorem lineWindow?_of_mem_placedLines {p : PlacedRow Rat} (member : p ∈ tracks.placedLines) :
    lineWindow? p.row.text = some p.wholeWindow := by
  have listed : p.row ∈ tracks.rows := by
    rw [rows_eq_map_placedLines]
    exact List.mem_map_of_mem member
  obtain ⟨_, start, stop⟩ := window_of_mem_placedRows (List.mem_mergeSort.mp member)
  exact PlacedRow.lineWindow?_text (EventRow.isWritten_of_mem_rows listed) start stop

end Tracks

/-- An element whose sprite has no command that runs backward is written with one line for each
command of each of its blocks. In a block the starts that are written do not go back, every end that
is written lies after its start, and the lines stand by their exact windows, those of one window by
property and then as their commands were given. -/
theorem commandBlocks_chronological {e : Element Rat} {s : Sprite Rat} (drawn : e.sprite? = some s)
    (checked : s.check = .ok ()) :
    e.eventBlock = .ok ⟨e.section, e.headerLine ++
      String.join (s.commandBlocks.map CommandBlock.text)⟩ ∧
    s.commandBlocks.map CommandBlock.tracks = s.allTracks ∧
    ∀ block ∈ s.commandBlocks,
      block.lines.length = block.tracks.commandCount ∧
      (∀ line ∈ block.lines, '\n' ∉ line.toList) ∧
      (∃ windows : List (Int × Option Int), block.lines.map lineWindow? = windows.map some ∧
        (windows.Pairwise fun v w => v.1 ≤ w.1) ∧ ∀ w ∈ windows, ∀ stop ∈ w.2, w.1 < stop) ∧
      ∃ placed : List (PlacedRow Rat), placed.Perm block.tracks.placedRows ∧
        block.lines = placed.map (fun p => p.row.text) ∧
        placed.Pairwise fun p q =>
          (p.window.1 < q.window.1 ∨ p.window.1 = q.window.1 ∧ p.window.2 ≤ q.window.2) ∧
            (p.window = q.window → p.Before q) := by
  refine ⟨Element.eventBlock_of_check drawn checked, s.map_tracks_commandBlocks,
    fun block here => ?_⟩
  have among : block.tracks ∈ s.allTracks := by
    rw [← s.map_tracks_commandBlocks]
    exact List.mem_map_of_mem here
  have forward : ∀ w ∈ block.tracks.windows, ¬ w.2 < w.1 := fun w member =>
    (checkWindows_eq_ok_iff s.windows).mp checked w (List.mem_flatMap.mpr ⟨_, among, member⟩)
  have lines : block.lines = block.tracks.placedLines.map fun p => p.row.text := by
    rw [CommandBlock.lines, block.tracks.rows_eq_map_placedLines, List.map_map]
    rfl
  have sorted := block.tracks.pairwise_placedLines
  refine ⟨?_, ?_, ?_, _, List.mergeSort_perm _ _, lines, sorted⟩
  · rw [CommandBlock.lines, List.length_map, block.tracks.length_rows]
  · refine List.forall_mem_map.mpr fun row member => ?_
    exact (EventRow.isWritten_of_mem_rows member).lineBreak_notMem_text
  · refine ⟨block.tracks.placedLines.map PlacedRow.wholeWindow, ?_, ?_, ?_⟩
    · rw [lines, List.map_map, List.map_map]
      exact List.map_congr_left fun p member => Tracks.lineWindow?_of_mem_placedLines member
    · refine List.pairwise_map.mpr (sorted.imp fun {p q} ordered => ?_)
      exact roundToInteger_mono (ordered.1.elim le_of_lt fun tie => tie.1.le)
    · refine List.forall_mem_map.mpr fun p member stop written => ?_
      refine PlacedRow.lt_of_mem_wholeWindow (forward _ ?_) written
      exact (Tracks.window_of_mem_placedRows (List.mem_mergeSort.mp member)).1

/-- A lamp with windows that are written alike and one window twice, and with a loop and a
trigger. -/
theorem commandBlocks_chronological_lamp :
    let lamp : Sprite Rat :=
      { Sprite.new "lamp.png" .foreground .centre ⟨320, 240⟩ with
        tracks := { position := [⟨.linear, 1 / 2, 7 / 5, ⟨0, 0⟩, ⟨1, 1⟩⟩]
                    opacity := [⟨.linear, 1 / 2, 7 / 5, 1, 1 / 2⟩, ⟨.linear, 2 / 5, 2, 0, 1⟩]
                    flipH := [⟨.linear, -1 / 2, -1 / 2, true, true⟩] }
        loops := [⟨5, 3, { x := [⟨.linear, 0, 10, 0, 1⟩] }⟩]
        triggers := [⟨"HitSound", 0, 100, 1, { additive := [⟨.linear, 0, 0, true, true⟩] }⟩] }
    let block : CommandBlock Rat := ⟨"", " ", lamp.tracks⟩
    (Element.sprite lamp).sprite? = some lamp ∧ lamp.check = .ok () ∧
      (Element.sprite lamp).eventBlock = .ok ⟨.layer .foreground,
        (Element.sprite lamp).headerLine ++
          String.join (lamp.commandBlocks.map CommandBlock.text)⟩ ∧
      block ∈ lamp.commandBlocks ∧
      block.lines = ["P,0,-1,,H", "F,0,0,2,0,1", "M,0,1,,0,0,1,1", "F,0,1,,1,0.50"] ∧
      block.lines.length = lamp.tracks.commandCount ∧
      (∃ windows : List (Int × Option Int), block.lines.map lineWindow? = windows.map some ∧
        (windows.Pairwise fun v w => v.1 ≤ w.1) ∧ ∀ w ∈ windows, ∀ stop ∈ w.2, w.1 < stop) ∧
      ∃ placed : List (PlacedRow Rat), placed.Perm lamp.tracks.placedRows ∧
        block.lines = placed.map (fun p => p.row.text) ∧
        placed.Pairwise fun p q =>
          (p.window.1 < q.window.1 ∨ p.window.1 = q.window.1 ∧ p.window.2 ≤ q.window.2) ∧
            (p.window = q.window → p.Before q) := by
  intro lamp block
  have checked : lamp.check = .ok () := by decide +kernel
  have here : block ∈ lamp.commandBlocks := List.mem_cons_self
  obtain ⟨written, _, blocks⟩ := commandBlocks_chronological (e := .sprite lamp) rfl checked
  obtain ⟨count, _, windows, placed⟩ := blocks block here
  -- A sort cannot be evaluated as a whole, so it is opened at the windows that it compares.
  have sorted : (block.tracks.timedRows.mergeSort fun a b => Scalar.windowLE a.1 b.1) =
      [3, 2, 0, 1].filterMap fun i => block.tracks.timedRows[i]? := by
    have late : Scalar.windowLE ((2 / 5, 2) : Rat × Rat) (-1 / 2, -1 / 2) = false := by
      decide +kernel
    have late' : Scalar.windowLE ((1 / 2, 7 / 5) : Rat × Rat) (-1 / 2, -1 / 2) = false := by
      decide +kernel
    have late'' : Scalar.windowLE ((1 / 2, 7 / 5) : Rat × Rat) (2 / 5, 2) = false := by
      decide +kernel
    have alike : Scalar.windowLE ((1 / 2, 7 / 5) : Rat × Rat) (1 / 2, 7 / 5) = true := by
      decide +kernel
    simp [-one_div, block, lamp, Tracks.timedRows, List.mergeSort, EventRow.of, Command.window,
      late, late', late'', alike]
  have lines : block.lines = ["P,0,-1,,H", "F,0,0,2,0,1", "M,0,1,,0,0,1,1", "F,0,1,,1,0.50"] := by
    rw [CommandBlock.lines, Tracks.rows, sorted]
    decide +kernel
  exact ⟨rfl, checked, written, here, lines, count, windows, placed⟩

end Storyboard
