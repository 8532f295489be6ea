import Std.Data.String.ToInt
import Std.Data.String.ToNat
import Storyboard.Number.Double
import Storyboard.Proofs.Events.Record
import Storyboard.Proofs.Text

/-! # Reading a line

What a line says is read from its indentation and from what stands between its commas, where a path
ends with its quotes. The end of a row is its start if it is blank, and the code of the row tells by
the number of its values whether the last one was left out. Numbers hold no separator, so every line
that is written for an element is read back as what it says.
-/

namespace Storyboard

/-! ## Plain texts -/

/-- No separator, quote or line break stands in the text. -/
def Plain (text : String) : Prop := ∀ c ∈ text.toList, c ∉ [',', '\"', '\n']

instance (text : String) : Decidable (Plain text) :=
  List.decidableBAll _ text.toList

namespace Plain

variable {text : String}

theorem comma (plain : Plain text) : ',' ∉ text.toList := fun member => plain _ member (by simp)

theorem quote (plain : Plain text) : '\"' ∉ text.toList := fun member => plain _ member (by simp)

theorem lineBreak (plain : Plain text) : '\n' ∉ text.toList :=
  fun member => plain _ member (by simp)

theorem empty : Plain "" := by decide

theorem append {first second : String} (left : Plain first) (right : Plain second) :
    Plain (first ++ second) := by
  intro c member
  rw [String.toList_append, List.mem_append] at member
  exact member.elim (left c) (right c)

end Plain

/-! ## Numbers -/

theorem plain_repr (n : Nat) : Plain n.repr := by
  intro c member
  have digit := isDigit_of_mem_repr member
  simp only [List.mem_cons, List.not_mem_nil, or_false]
  rintro (rfl | rfl | rfl) <;> exact absurd digit (by decide)

theorem plain_toString (n : Int) : Plain (toString n) := by
  rw [Int.toString_eq_repr, Int.repr_eq_if]
  split
  · exact plain_repr _
  · exact .append (by decide) (plain_repr _)

section Scalars

variable {R : Type} [Scalar R]

theorem plain_integerText (x : R) : Plain (integerText x) := plain_toString _

theorem integerText_ne_empty (x : R) : integerText x ≠ "" := by
  rw [integerText, Int.toString_eq_repr, Int.repr_eq_if]
  split
  · exact Nat.repr_ne_empty
  · simp

/-- The text of a fraction has no separators. -/
theorem plain_hundredths (q : Rat) : Plain (hundredths q) := by
  have zeros (n : Nat) : Plain (NumberStyle.zeros n) := by
    intro c member
    rw [NumberStyle.zeros, String.toList_ofList] at member
    rw [List.eq_of_mem_replicate member]
    decide
  have sign : Plain (if q.num < 0 then "-" else "") := by
    split <;> decide
  exact .append (.append (.append (.append sign (plain_repr _)) (by decide)) (zeros _))
    (plain_repr _)

/-- What is no rational number is written in words. -/
class WordedScalar (R : Type) [Scalar R] : Prop where
  plain_message {x : R} : Scalar.rational? x = none → Plain (Scalar.message x)

theorem plain_fractionText [WordedScalar R] (x : R) : Plain (fractionText x) := by
  unfold fractionText
  simp only
  split
  · exact plain_toString _
  · split
    · exact plain_hundredths _
    · next special => exact WordedScalar.plain_message special

end Scalars

instance : WordedScalar Rat := ⟨fun special => nomatch special⟩

/-- What is written for no number and for infinities has no separators. -/
theorem Double.plain_message {x : Double} (special : Scalar.rational? x = none) :
    Plain (Scalar.message x) := by
  simp only [Scalar.rational?] at special
  simp only [Scalar.message]
  cases value : x.value with
  | finite number =>
    rw [value] at special
    cases special
  | infinite negative => cases negative <;> decide
  | nan => decide

instance : WordedScalar Double := ⟨Double.plain_message⟩

/-! ## Rows -/

namespace EventRow

/-- How many fields a value takes after a code. -/
def arity? : String → Option Nat
  | "MX" | "MY" | "S" | "R" | "F" | "P" => some 1
  | "M" | "V" => some 2
  | "C" => some 3
  | _ => none

/-- The end of a window, which is its start if nothing is written. -/
def stopOfField (start stop : String) : String := if stop = "" then start else stop

/-- Reads two values of so many fields each; a value that is left out is the first one again. -/
def valuesOfFields? (arity : Nat) (fields : List String) : Option (String × String) :=
  if fields.length = arity then
    some (",".intercalate fields, ",".intercalate fields)
  else if fields.length = 2 * arity then
    some (",".intercalate (fields.take arity), ",".intercalate (fields.drop arity))
  else none

/-- Reads a row from what stands between its commas. -/
def ofFields? : List String → Option EventRow
  | code :: easing :: start :: stop :: values => do
    let arity ← arity? code
    let easing ← easing.toNat?
    let (fromValue, toValue) ← valuesOfFields? arity values
    return { code, easing, start, stop := stopOfField start stop, fromValue, toValue }
  | _ => none

/-- A row with an end, whose values have the fields that its code calls for. -/
structure IsWritten (row : EventRow) : Prop where
  start : Plain row.start
  stop : Plain row.stop
  ended : row.stop ≠ ""
  values : ∃ (arity : Nat) (first second : List String), arity? row.code = some arity ∧
    first.length = arity ∧ second.length = arity ∧ (∀ field ∈ first ++ second, Plain field) ∧
    row.fromValue = ",".intercalate first ∧ row.toValue = ",".intercalate second

theorem plain_of_arity? {code : String} {arity : Nat} (known : arity? code = some arity) :
    Plain code ∧ 0 < arity := by
  unfold arity? at known
  split at known <;> cases known <;> decide

theorem stopOfField_stopText {row : EventRow} (ended : row.stop ≠ "") :
    stopOfField row.start row.stopText = row.stop := by
  rw [stopOfField, stopText]
  by_cases same : row.stop = row.start
  · rw [if_pos same, if_pos rfl, same]
  · rw [if_neg same, if_neg ended]

/-- The values of a row stand in the fields of both, or in those of the first one. -/
theorem IsWritten.valueFields {row : EventRow} (written : row.IsWritten) :
    ∃ (arity : Nat) (fields : List String), arity? row.code = some arity ∧ fields ≠ [] ∧
      (∀ field ∈ fields, Plain field) ∧ row.valuesText = ",".intercalate fields ∧
      valuesOfFields? arity fields = some (row.fromValue, row.toValue) := by
  obtain ⟨arity, first, second, known, length, length', plain, fromText, toText⟩ := written.values
  have positive := (plain_of_arity? known).2
  have nonempty : first ≠ [] := List.ne_nil_of_length_pos (length ▸ positive)
  have nonempty' : second ≠ [] := List.ne_nil_of_length_pos (length' ▸ positive)
  by_cases same : row.toValue = row.fromValue
  · refine ⟨arity, first, known, nonempty, (List.forall_mem_append.mp plain).1, ?_, ?_⟩
    · rw [valuesText, if_pos same, fromText]
    · rw [valuesOfFields?, if_pos length, same, fromText]
  · refine ⟨arity, first ++ second, known, List.append_ne_nil_of_left_ne_nil nonempty _, plain, ?_,
      ?_⟩
    · rw [valuesText, if_neg same, fromText, toText,
        String.intercalate_append_of_ne_nil nonempty nonempty']
    · have twice : (first ++ second).length = 2 * arity := by
        rw [List.length_append, length, length']
        omega
      have more : ¬ (first ++ second).length = arity := by omega
      rw [valuesOfFields?, if_neg more, if_pos twice, List.take_left' length,
        List.drop_left' length, fromText, toText]

/-- The fields of a row, the last of which are values. -/
def fields (row : EventRow) (values : List String) : List String :=
  row.code :: toString row.easing :: row.start :: row.stopText :: values

/-- A row can be read from its fields. -/
theorem IsWritten.text_eq {row : EventRow} (written : row.IsWritten) :
    ∃ values : List String, (∀ field ∈ row.fields values, Plain field) ∧
      row.text = ",".intercalate (row.fields values) ∧
      ofFields? (row.fields values) = some row := by
  obtain ⟨arity, values, known, nonempty, plain, text, reads⟩ := written.valueFields
  have plainStop : Plain row.stopText := by
    rw [stopText]
    split
    · exact .empty
    · exact written.stop
  refine ⟨values, ?_, ?_, ?_⟩
  · simp only [EventRow.fields, List.forall_mem_cons]
    exact ⟨(plain_of_arity? known).1, plain_repr _, written.start, plainStop, plain⟩
  · simp [EventRow.text, EventRow.fields, text, String.intercalate_cons_of_ne_nil nonempty,
      String.append_assoc]
  · simp [ofFields?, EventRow.fields, known, Nat.toNat?_repr, reads,
      stopOfField_stopText written.ended]

theorem IsWritten.cut_text {row : EventRow} (written : row.IsWritten) :
    ∃ values, cut ',' row.text = row.fields values ∧
      ofFields? (row.fields values) = some row := by
  obtain ⟨values, plain, text, reads⟩ := written.text_eq
  refine ⟨values, ?_, reads⟩
  rw [text]
  exact cut_intercalate (fun field member => (plain field member).comma) (List.cons_ne_nil _ _)

theorem IsWritten.ofFields?_text {row : EventRow} (written : row.IsWritten) :
    ofFields? (cut ',' row.text) = some row := by
  obtain ⟨values, cuts, reads⟩ := written.cut_text
  rw [cuts, reads]

theorem IsWritten.lineBreak_notMem_text {row : EventRow} (written : row.IsWritten) :
    '\n' ∉ row.text.toList := by
  obtain ⟨values, plain, text, _⟩ := written.text_eq
  rw [text]
  exact notMem_intercalate (by decide) fun field member => (plain field member).lineBreak

/-- A row begins with its code, so that its indentation ends there. -/
theorem IsWritten.head?_text {row : EventRow} (written : row.IsWritten) :
    row.text.toList.head? ≠ some ' ' := by
  obtain ⟨arity, _, _, known, _⟩ := written.values
  unfold text
  generalize row.code = code at known
  unfold arity? at known
  split at known <;> simp_all

/-- Values are written as so many plain fields. -/
def Writes {V : Type} (arity : Nat) (write : V → String) : Prop :=
  ∀ v, ∃ fields : List String, fields.length = arity ∧ (∀ field ∈ fields, Plain field) ∧
    write v = ",".intercalate fields

theorem writes_one {V : Type} {write : V → String} (plain : ∀ v, Plain (write v)) :
    Writes 1 write := by
  intro v
  exact ⟨[write v], rfl, by simpa using plain v, rfl⟩

theorem writes_pair {R : Type} {write : R → String} (plain : ∀ x, Plain (write x)) :
    Writes 2 fun v : Vec2 R => write v.x ++ "," ++ write v.y := by
  intro v
  exact ⟨[write v.x, write v.y], rfl, by simpa using ⟨plain v.x, plain v.y⟩, rfl⟩

section Commands

variable {R : Type} [Scalar R]

theorem isWritten_of {V : Type} {code : String} {arity : Nat} {write : V → String}
    (known : arity? code = some arity) (writes : Writes arity write) (c : Command R V) :
    (of code write c).2.IsWritten := by
  obtain ⟨first, length, plain, fromText⟩ := writes c.startValue
  obtain ⟨second, length', plain', toText⟩ := writes c.endValue
  exact ⟨plain_integerText _, plain_integerText _, integerText_ne_empty _, arity, first, second,
    known, length, length', List.forall_mem_append.mpr ⟨plain, plain'⟩, fromText, toText⟩

theorem writes_color : Writes 3 (Color.integerText (R := R)) := by
  intro c
  refine ⟨[integerText c.r, integerText c.g, integerText c.b], rfl, ?_, rfl⟩
  simpa using ⟨plain_integerText c.r, plain_integerText c.g, plain_integerText c.b⟩

/-- Every row of a block can be read back. -/
theorem isWritten_of_mem_rows [WordedScalar R] {tracks : Tracks R} {row : EventRow}
    (member : row ∈ tracks.rows) : row.IsWritten := by
  have integers : Writes 1 (integerText (R := R)) := writes_one plain_integerText
  have fractions : Writes 1 (fractionText (R := R)) := writes_one plain_fractionText
  have letter (text : String) (plain : Plain text) : Writes 1 fun _ : Bool => text :=
    writes_one fun _ => plain
  have each : ∀ timed ∈ tracks.timedRows, timed.2.IsWritten := by
    simp only [Tracks.timedRows, List.forall_mem_append, List.forall_mem_map, and_assoc]
    exact ⟨fun c _ => isWritten_of rfl (writes_pair plain_integerText) c,
      fun c _ => isWritten_of rfl integers c,
      fun c _ => isWritten_of rfl integers c,
      fun c _ => isWritten_of rfl fractions c,
      fun c _ => isWritten_of rfl (writes_pair plain_fractionText) c,
      fun c _ => isWritten_of rfl fractions c,
      fun c _ => isWritten_of rfl fractions c,
      fun c _ => isWritten_of rfl writes_color c,
      fun c _ => isWritten_of rfl (letter "H" (by decide)) c,
      fun c _ => isWritten_of rfl (letter "V" (by decide)) c,
      fun c _ => isWritten_of rfl (letter "A" (by decide)) c⟩
  obtain ⟨timed, found, rfl⟩ := List.mem_map.mp member
  exact each timed (List.mem_mergeSort.mp found)

end Commands

end EventRow

/-! ## Settings -/

namespace ElementHeading

/-- Reads settings from the path and from what stands between the commas before and after it. -/
def ofFields? (path : String) : List String → List String → Option ElementHeading
  | ["Sprite", layer, origin, ""], ["", x, y] => do
    return .sprite ⟨← Layer.ofName? layer, ← Origin.ofName? origin, path, x, y⟩
  | ["Animation", layer, origin, ""], ["", x, y, frameCount, frameDelay, frameLoop] => do
    let settings := ⟨← Layer.ofName? layer, ← Origin.ofName? origin, path, x, y⟩
    return .animation settings (← frameCount.toNat?) frameDelay (← FrameLoop.ofName? frameLoop)
  | ["Sample", startTime, layer, ""], ["", volume] => do
    return .sample startTime (← Layer.all[← layer.toNat?]?) path volume
  | ["Video", startTime, ""], [""] => some (.video startTime path)
  | _, _ => none

def read? (text : String) : Option ElementHeading :=
  match cut '\"' text with
  | [before, path, after] => ofFields? path (cut ',' before) (cut ',' after)
  | _ => none

/-- Settings with plain fields and a path that ends where its quotes do. -/
structure IsWritten (heading : ElementHeading) : Prop where
  fields : ∀ field ∈ heading.before ++ heading.after, Plain field
  quote : '\"' ∉ heading.path.toList
  lineBreak : '\n' ∉ heading.path.toList

/-- Settings can be read off the fields on both sides of the quoted path. -/
theorem ofFields?_fields (heading : ElementHeading) :
    ofFields? heading.path (heading.before ++ [""]) ("" :: heading.after) = some heading := by
  cases heading with
  | sprite settings =>
    simp [before, after, path, ofFields?, Layer.ofName?_name, Origin.ofName?_name]
  | animation settings frameCount frameDelay frameLoop =>
    simp [before, after, path, ofFields?, Layer.ofName?_name, Origin.ofName?_name,
      FrameLoop.ofName?_name, Nat.toNat?_repr]
  | sample startTime layer _ volume =>
    cases layer <;> simp [before, after, path, ofFields?, Layer.index, Nat.toNat?_repr, Layer.all]
  | video startTime _ => rfl

namespace IsWritten

variable {heading : ElementHeading} (written : heading.IsWritten)
include written

theorem plain_before : ∀ field ∈ heading.before ++ [""], Plain field := by
  refine List.forall_mem_append.mpr ⟨fun field member => ?_, by simp [Plain.empty]⟩
  exact written.fields field (List.mem_append_left _ member)

theorem plain_after : ∀ field ∈ "" :: heading.after, Plain field := by
  refine List.forall_mem_cons.mpr ⟨.empty, fun field member => ?_⟩
  exact written.fields field (List.mem_append_right _ member)

/-- Settings can be read off their line: the quotes are where the path starts and ends. -/
theorem read?_text : read? heading.text = some heading := by
  have before : '\"' ∉ (",".intercalate (heading.before ++ [""])).toList :=
    notMem_intercalate (by decide) fun field member => (written.plain_before field member).quote
  have after : '\"' ∉ (",".intercalate ("" :: heading.after)).toList :=
    notMem_intercalate (by decide) fun field member => (written.plain_after field member).quote
  have parts : cut '\"' heading.text =
      [",".intercalate (heading.before ++ [""]), heading.path,
        ",".intercalate ("" :: heading.after)] := by
    refine cut_intercalate ?_ (List.cons_ne_nil _ _)
    simp only [List.forall_mem_cons]
    exact ⟨before, written.quote, after, List.forall_mem_nil _⟩
  have first : cut ',' (",".intercalate (heading.before ++ [""])) = heading.before ++ [""] :=
    cut_intercalate (fun field member => (written.plain_before field member).comma) (by simp)
  have last : cut ',' (",".intercalate ("" :: heading.after)) = "" :: heading.after :=
    cut_intercalate (fun field member => (written.plain_after field member).comma) (by simp)
  rw [read?, parts]
  simp only [first, last]
  exact ofFields?_fields heading

theorem lineBreak_notMem_text : '\n' ∉ heading.text.toList := by
  refine notMem_intercalate (by decide) ?_
  simp only [List.forall_mem_cons]
  exact ⟨notMem_intercalate (by decide) fun field member =>
      (written.plain_before field member).lineBreak, written.lineBreak,
    notMem_intercalate (by decide) fun field member =>
      (written.plain_after field member).lineBreak, List.forall_mem_nil _⟩

end IsWritten

end ElementHeading

/-! ## Lines -/

namespace EventLine

/-- Reads the group of a trigger from the fields that tell it. -/
def groupOfFields? : List String → Option Int
  | [] => some 0
  | [group] => group.toInt?
  | _ => none

/-- Reads a loop or trigger from what stands between its commas. -/
def blockOfFields? : List String → Option EventLine
  | ["L", startTime, repeatCount] => repeatCount.toNat?.map (loop startTime)
  | "T" :: name :: startTime :: endTime :: group =>
    (groupOfFields? group).map (trigger name startTime endTime)
  | _ => none

def read? (line : String) : Option EventLine :=
  match line.toList with
  | '[' :: _ | '/' :: _ => some (title line)
  | ' ' :: ' ' :: command =>
    (EventRow.ofFields? (cut ',' (String.ofList command))).map innerRow
  | ' ' :: rest =>
    let fields := cut ',' (String.ofList rest)
    (EventRow.ofFields? fields).map row <|> blockOfFields? fields
  | _ => (ElementHeading.read? line).map heading

/-- A line that can be read back. -/
def IsWritten : EventLine → Prop
  | title words =>
    (words.toList.head? = some '[' ∨ words.toList.head? = some '/') ∧ '\n' ∉ words.toList
  | heading settings => settings.IsWritten
  | row command => command.IsWritten
  | innerRow command => command.IsWritten
  | loop startTime _ => Plain startTime
  | trigger name startTime endTime _ =>
    ',' ∉ name.toList ∧ '\n' ∉ name.toList ∧ Plain startTime ∧ Plain endTime

theorem groupOfFields?_groupFields (group : Int) :
    groupOfFields? (groupFields group) = some group := by
  rw [groupFields]
  split
  · next default => rw [default, groupOfFields?]
  · exact Int.toInt?_repr group

theorem plain_groupFields (group : Int) : ∀ field ∈ groupFields group, Plain field := by
  rw [groupFields]
  split
  · exact List.forall_mem_nil _
  · simpa using plain_toString group

/-- Lines of settings are not indented and no titles. -/
theorem head?_heading (settings : ElementHeading) :
    settings.text.toList.head? ∈ [some 'S', some 'A', some 'V'] := by
  cases settings <;> simp [ElementHeading.text, ElementHeading.before]

theorem read?_title {words : String} (written : (title words).IsWritten) :
    read? (title words).text = some (title words) := by
  obtain ⟨first, -⟩ := written
  simp only [text, read?]
  cases letters : words.toList with
  | nil => simp [letters] at first
  | cons c rest =>
    simp only [letters, List.head?_cons, Option.some.injEq] at first
    obtain rfl | rfl := first <;> rfl

/-- A line of settings is read back as such. -/
theorem read?_heading {settings : ElementHeading} (written : settings.IsWritten) :
    read? (heading settings).text = some (heading settings) := by
  have first := head?_heading settings
  have reads : (ElementHeading.read? settings.text).map heading = some (heading settings) := by
    rw [written.read?_text]
    rfl
  simp only [text, read?]
  cases letters : settings.text.toList with
  | nil => simp [letters] at first
  | cons c rest =>
    simp only [letters, List.head?_cons, List.mem_cons, Option.some.injEq, List.not_mem_nil,
      or_false] at first
    obtain rfl | rfl | rfl := first <;> exact reads

/-- A line with one space before what can be no space. -/
theorem read?_of_head?_ne {rest : String} (other : rest.toList.head? ≠ some ' ') :
    read? (" " ++ rest) =
      ((EventRow.ofFields? (cut ',' rest)).map row <|> blockOfFields? (cut ',' rest)) := by
  have line : (" " ++ rest).toList = ' ' :: rest.toList := by simp
  unfold read?
  rw [line]
  split
  case h_1 letters => cases letters
  case h_2 letters => cases letters
  case h_3 command letters =>
    rw [List.tail_eq_of_cons_eq letters] at other
    exact absurd rfl other
  case h_4 inner _ letters =>
    obtain rfl : rest.toList = inner := List.tail_eq_of_cons_eq letters
    rw [String.ofList_toList]
  case h_5 noSpace => exact absurd rfl (noSpace _)

theorem read?_row {command : EventRow} (written : command.IsWritten) :
    read? (row command).text = some (row command) := by
  rw [text, read?_of_head?_ne written.head?_text, written.ofFields?_text]
  rfl

theorem read?_innerRow {command : EventRow} (written : command.IsWritten) :
    read? (innerRow command).text = some (innerRow command) := by
  simp [read?, text, written.ofFields?_text]

/-- The line of a loop is read back as such. -/
theorem read?_loop {startTime : String} {repeatCount : Nat}
    (written : (loop startTime repeatCount).IsWritten) :
    read? (loop startTime repeatCount).text = some (loop startTime repeatCount) := by
  have plain : ∀ field ∈ ["L", startTime, toString repeatCount], Plain field := by
    simp only [List.forall_mem_cons]
    exact ⟨by decide, written, plain_repr _, List.forall_mem_nil _⟩
  have parts : cut ',' (",".intercalate ["L", startTime, toString repeatCount]) =
      ["L", startTime, toString repeatCount] :=
    cut_intercalate (fun field member => (plain field member).comma) (List.cons_ne_nil _ _)
  rw [text, read?_of_head?_ne (by simp), parts]
  simp [EventRow.ofFields?, blockOfFields?, Nat.toNat?_repr]

/-- The line of a trigger is read back as such, with its group or without. -/
theorem read?_trigger {name startTime endTime : String} {group : Int}
    (written : (trigger name startTime endTime group).IsWritten) :
    read? (trigger name startTime endTime group).text =
      some (trigger name startTime endTime group) := by
  obtain ⟨comma, -, plainStart, plainEnd⟩ := written
  have parts : cut ',' (",".intercalate (["T", name, startTime, endTime] ++ groupFields group)) =
      ["T", name, startTime, endTime] ++ groupFields group := by
    refine cut_intercalate ?_ (by simp)
    simp only [List.cons_append, List.nil_append, List.forall_mem_cons]
    exact ⟨by decide, comma, plainStart.comma, plainEnd.comma,
      fun field member => (plain_groupFields group field member).comma⟩
  rw [text, read?_of_head?_ne (by simp), parts]
  simp [EventRow.ofFields?, EventRow.arity?, blockOfFields?, groupOfFields?_groupFields]

/-- A written line is read back as what it says. -/
theorem IsWritten.read?_text {line : EventLine} (written : line.IsWritten) :
    read? line.text = some line := by
  cases line with
  | title words => exact read?_title written
  | heading settings => exact read?_heading written
  | row command => exact read?_row written
  | innerRow command => exact read?_innerRow written
  | loop startTime repeatCount => exact read?_loop written
  | trigger name startTime endTime group => exact read?_trigger written

/-- A line that can be read back is one line. -/
theorem IsWritten.lineBreak_notMem_text {line : EventLine} (written : line.IsWritten) :
    '\n' ∉ line.text.toList := by
  have indented {indentation rest : String} (here : '\n' ∉ indentation.toList)
      (later : '\n' ∉ rest.toList) : '\n' ∉ (indentation ++ rest).toList := by
    simpa using ⟨here, later⟩
  cases line with
  | title words => exact written.2
  | heading settings => exact ElementHeading.IsWritten.lineBreak_notMem_text written
  | row command => exact indented (by decide) (EventRow.IsWritten.lineBreak_notMem_text written)
  | innerRow command =>
    exact indented (by decide) (EventRow.IsWritten.lineBreak_notMem_text written)
  | loop startTime repeatCount =>
    refine indented (by decide) (notMem_intercalate (by decide) ?_)
    simp only [List.forall_mem_cons]
    exact ⟨by decide, Plain.lineBreak written, (plain_repr repeatCount).lineBreak,
      List.forall_mem_nil _⟩
  | trigger name startTime endTime group =>
    obtain ⟨-, lineBreak, plainStart, plainEnd⟩ := written
    refine indented (by decide) (notMem_intercalate (by decide) ?_)
    simp only [List.cons_append, List.nil_append, List.forall_mem_cons]
    exact ⟨by decide, lineBreak, plainStart.lineBreak, plainEnd.lineBreak,
      fun field member => (plain_groupFields group field member).lineBreak⟩

end EventLine

end Storyboard
