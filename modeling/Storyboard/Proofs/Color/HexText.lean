import Mathlib.Tactic.IntervalCases
import Storyboard.Color
import Storyboard.Number.Double

/-! # Colours in hexadecimal text

A colour is written as three bytes in two digits each, after a number sign or none. The pairs are
read as numbers, though, and a number may have a plus sign, so that a plus sign and one digit are
taken for a pair as well. The texts that are read are described by what would be printed for their
channels. Reading by places in the bytes comes to the same: it never cuts a character in two.
-/

namespace Storyboard

/-! ## Digits -/

theorem toNat_hexDigit {value : Nat} (small : value < 16) :
    (hexDigit value).toNat = if value < 10 then 48 + value else 87 + value := by
  interval_cases value <;> rfl

theorem toNat_toLower (c : Char) :
    c.toLower.toNat = if 65 ≤ c.toNat ∧ c.toNat ≤ 90 then c.toNat + 32 else c.toNat := by
  have upper : (c.val ≥ 'A'.val ∧ c.val ≤ 'Z'.val) ↔ 65 ≤ c.toNat ∧ c.toNat ≤ 90 := by
    simp [UInt32.le_iff_toNat_le]
  unfold Char.toLower
  split_ifs with here there there
  · have bound : c.toNat + 32 < 2 ^ 32 := by omega
    simpa using Nat.mod_eq_of_lt bound
  · exact absurd (upper.mp here) there
  · exact absurd (upper.mpr there) here
  · rfl

theorem hexDigit?_eq (c : Char) : hexDigit? c =
    if 48 ≤ c.toNat ∧ c.toNat ≤ 57 then some (c.toNat - 48)
    else if 97 ≤ c.toNat ∧ c.toNat ≤ 102 then some (c.toNat - 97 + 10)
    else if 65 ≤ c.toNat ∧ c.toNat ≤ 70 then some (c.toNat - 65 + 10)
    else none := by
  simp [hexDigit?, Char.le_def, UInt32.le_iff_toNat_le]

/-- A character is read as a digit exactly if its lower-case form is what is printed for it. -/
theorem hexDigit?_eq_some_iff {c : Char} {value : Nat} :
    hexDigit? c = some value ↔ value < 16 ∧ c.toLower = hexDigit value := by
  have printed : value < 16 → (c.toLower = hexDigit value ↔
      (if 65 ≤ c.toNat ∧ c.toNat ≤ 90 then c.toNat + 32 else c.toNat) =
        if value < 10 then 48 + value else 87 + value) := by
    intro small
    rw [← Char.toNat_inj, toNat_toLower, toNat_hexDigit small]
  rw [and_congr_right printed, hexDigit?_eq]
  split_ifs <;> simp only [Option.some.injEq, false_iff] <;> omega

theorem toNat_lt_of_hexDigit? {c : Char} {value : Nat} (read : hexDigit? c = some value) :
    c.toNat < 128 := by
  rw [hexDigit?_eq] at read
  split_ifs at read <;> omega

/-- The plus sign is its own lower-case form, and nothing else's. -/
theorem toLower_eq_plus_iff {c : Char} : c.toLower = '+' ↔ c = '+' := by
  have plus : '+'.toNat = 43 := rfl
  rw [← Char.toNat_inj, ← Char.toNat_inj, toNat_toLower, plus]
  split_ifs <;> omega

namespace Color

/-! ## Pairs -/

/-- Two digits of either case that are printed for a byte. -/
def IsBytePair (pair : List Char) (value : Nat) : Prop :=
  value < 256 ∧ pair.map Char.toLower = [hexDigit (value / 16), hexDigit value]

def IsSignedDigit (pair : List Char) (value : Nat) : Prop :=
  value < 16 ∧ pair.map Char.toLower = ['+', hexDigit value]

/-- What is read as a channel. -/
def IsPair (pair : List Char) (value : Nat) : Prop :=
  IsBytePair pair value ∨ IsSignedDigit pair value

/-- A pair of digits stands for a byte, the high half first. -/
theorem isBytePair_iff {first second : Char} {value : Nat} :
    IsBytePair [first, second] value ↔ ∃ high low, hexDigit? first = some high ∧
      hexDigit? second = some low ∧ value = 16 * high + low := by
  simp only [IsBytePair, hexDigit?_eq_some_iff, List.map_cons, List.map_nil, List.cons.injEq,
    and_true]
  constructor
  · rintro ⟨byte, high, low⟩
    refine ⟨value / 16, value % 16, ⟨by omega, high⟩, ⟨by omega, ?_⟩, by omega⟩
    rw [low, hexDigit, hexDigit, Nat.mod_mod]
  · rintro ⟨high, low, ⟨small, first⟩, ⟨small', second⟩, rfl⟩
    have quotient : (16 * high + low) / 16 = high := by omega
    have remainder : (16 * high + low) % 16 = low % 16 := by omega
    refine ⟨by omega, ?_, ?_⟩
    · rw [first, quotient]
    · rw [second, hexDigit, hexDigit, remainder]

theorem isSignedDigit_iff {first second : Char} {value : Nat} :
    IsSignedDigit [first, second] value ↔ first = '+' ∧ hexDigit? second = some value := by
  simp only [IsSignedDigit, hexDigit?_eq_some_iff, List.map_cons, List.map_nil, List.cons.injEq,
    and_true, toLower_eq_plus_iff]
  exact and_left_comm

theorem hexPair?_eq_some_iff {first second : Char} {value : Nat} :
    hexPair? first second = some value ↔ IsPair [first, second] value := by
  have noDigit : hexDigit? '+' = none := rfl
  rw [IsPair, isBytePair_iff, isSignedDigit_iff, hexPair?]
  split_ifs with signed
  · simp [signed, noDigit]
  · cases hexDigit? first <;> cases hexDigit? second <;> simp [signed, eq_comm]

theorem IsPair.exists_eq {pair : List Char} {value : Nat} (spells : IsPair pair value) :
    ∃ first second, pair = [first, second] := by
  have length : pair.length = 2 := by
    rcases spells with ⟨_, same⟩ | ⟨_, same⟩ <;> simpa using congrArg List.length same
  match pair, length with
  | [first, second], _ => exact ⟨first, second, rfl⟩

/-- Pairs consist of characters of one byte, and none of them begins with the number sign. -/
theorem IsPair.ascii {first second : Char} {value : Nat} (spells : IsPair [first, second] value) :
    first.toNat < 128 ∧ second.toNat < 128 ∧ first ≠ '#' := by
  rcases spells with digits | signed
  · obtain ⟨high, low, read, read', _⟩ := isBytePair_iff.mp digits
    refine ⟨toNat_lt_of_hexDigit? read, toNat_lt_of_hexDigit? read', ?_⟩
    rintro rfl
    cases read
  · obtain ⟨rfl, read⟩ := isSignedDigit_iff.mp signed
    exact ⟨by decide, toNat_lt_of_hexDigit? read, by decide⟩

/-! ## Texts -/

/-- A text of three pairs, each with its value, after one number sign or none. -/
def Spells (isPair : List Char → Nat → Prop) (text : String) (r g b : Nat) : Prop :=
  ∃ mark first second third : List Char, (mark = [] ∨ mark = ['#']) ∧
    text.toList = mark ++ (first ++ second ++ third) ∧
      isPair first r ∧ isPair second g ∧ isPair third b

/-- Six characters of one byte follow the number sign, if there is one. -/
def HasSixBytes (text : String) : Prop :=
  (dropNumberSign text.toList).length = 6 ∧ ∀ c ∈ dropNumberSign text.toList, c.toNat < 128

instance (text : String) : Decidable (HasSixBytes text) := inferInstanceAs (Decidable (_ ∧ _))

theorem HasSixBytes.exists_eq {text : String} (six : HasSixBytes text) :
    ∃ a b c d e f, dropNumberSign text.toList = [a, b, c, d, e, f] := by
  match dropNumberSign text.toList, six.1 with
  | [a, b, c, d, e, f], _ => exact ⟨a, b, c, d, e, f, rfl⟩

theorem dropNumberSign_append {mark rest : List Char} (one : mark = [] ∨ mark = ['#'])
    (plain : rest.head? ≠ some '#') : dropNumberSign (mark ++ rest) = rest := by
  rcases one with rfl | rfl
  · cases rest with
    | nil => rfl
    | cons c rest =>
      have other : c ≠ '#' := by simpa using plain
      simp [dropNumberSign, other]
  · rfl

theorem exists_eq_append_dropNumberSign (text : List Char) :
    ∃ mark, (mark = [] ∨ mark = ['#']) ∧ text = mark ++ dropNumberSign text := by
  unfold dropNumberSign
  split
  · exact ⟨['#'], .inr rfl, rfl⟩
  · exact ⟨[], .inl rfl, rfl⟩

/-- What is read from six characters of one byte. -/
theorem hexChannels?_of_six {text : String} {a b c d e f : Char}
    (six : dropNumberSign text.toList = [a, b, c, d, e, f])
    (ascii : ∀ x ∈ dropNumberSign text.toList, x.toNat < 128) :
    hexChannels? text = match hexPair? a b, hexPair? c d, hexPair? e f with
      | some r, some g, some b => .ok (r, g, b)
      | _, _, _ => .error .digits := by
  have all : [a, b, c, d, e, f].all (fun digit => decide (digit.toNat < 128)) = true := by
    simpa [six] using ascii
  simp only [hexChannels?, six]
  exact if_pos all

theorem hexChannels?_of_not_six {text : String} (other : ¬ HasSixBytes text) :
    hexChannels? text = .error .form := by
  unfold hexChannels?
  split
  · next a b c d e f six =>
    refine if_neg fun all => other ⟨by rw [six]; rfl, ?_⟩
    rw [six]
    simpa using all
  · rfl

/-- The reader accepts three pairs that it reads as numbers, and nothing else. -/
theorem hexChannels?_eq_ok_iff {text : String} {r g b : Nat} :
    hexChannels? text = .ok (r, g, b) ↔ Spells IsPair text r g b := by
  constructor
  · intro read
    by_cases six : HasSixBytes text
    · obtain ⟨c₁, c₂, c₃, c₄, c₅, c₆, there⟩ := six.exists_eq
      obtain ⟨mark, one, split⟩ := exists_eq_append_dropNumberSign text.toList
      rw [hexChannels?_of_six there six.2] at read
      split at read
      · next r' g' b' pair pair' pair'' =>
        cases read
        exact ⟨mark, [c₁, c₂], [c₃, c₄], [c₅, c₆], one, by rw [split, there]; rfl,
          hexPair?_eq_some_iff.mp pair, hexPair?_eq_some_iff.mp pair',
          hexPair?_eq_some_iff.mp pair''⟩
      · cases read
    · rw [hexChannels?_of_not_six six] at read
      cases read
  · rintro ⟨mark, first, second, third, one, split, pair, pair', pair''⟩
    obtain ⟨c₁, c₂, rfl⟩ := pair.exists_eq
    obtain ⟨c₃, c₄, rfl⟩ := pair'.exists_eq
    obtain ⟨c₅, c₆, rfl⟩ := pair''.exists_eq
    have six : dropNumberSign text.toList = [c₁, c₂, c₃, c₄, c₅, c₆] := by
      rw [split]
      exact dropNumberSign_append one (by simpa using pair.ascii.2.2)
    have ascii : ∀ x ∈ dropNumberSign text.toList, x.toNat < 128 := by
      simp [six, pair.ascii, pair'.ascii, pair''.ascii]
    rw [hexChannels?_of_six six ascii, hexPair?_eq_some_iff.mpr pair,
      hexPair?_eq_some_iff.mpr pair', hexPair?_eq_some_iff.mpr pair'']

/-- What is refused is told by the length in bytes alone. -/
theorem hexChannels?_of_not_spells {text : String}
    (other : ¬ ∃ r g b, Spells IsPair text r g b) :
    hexChannels? text = .error (if HasSixBytes text then .digits else .form) := by
  split_ifs with six
  · obtain ⟨c₁, c₂, c₃, c₄, c₅, c₆, there⟩ := six.exists_eq
    cases read : hexChannels? text with
    | ok channels => exact absurd ⟨_, _, _, hexChannels?_eq_ok_iff.mp read⟩ other
    | error e =>
      rw [hexChannels?_of_six there six.2] at read
      split at read
      · cases read
      · exact read.symm
  · exact hexChannels?_of_not_six six

theorem ofHex?_eq_ok_iff {R : Type} [Scalar R] {text : String} {c : Color R} :
    ofHex? text = .ok c ↔ ∃ r g b, Spells IsPair text r g b ∧
      c = ⟨Scalar.ofNat r, Scalar.ofNat g, Scalar.ofNat b⟩ := by
  simp only [← hexChannels?_eq_ok_iff, ofHex?]
  cases hexChannels? text with
  | ok channels => simp [Prod.ext_iff, eq_comm]
  | error e => simp

theorem IsBytePair.plus_notMem {pair : List Char} {value : Nat} (digits : IsBytePair pair value) :
    '+' ∉ pair := by
  have noDigit : hexDigit? '+' = none := rfl
  obtain ⟨first, second, rfl⟩ := IsPair.exists_eq (.inl digits)
  obtain ⟨high, low, read, read', _⟩ := isBytePair_iff.mp digits
  simp only [List.mem_cons, List.not_mem_nil, or_false, not_or]
  constructor
  · rintro rfl
    exact nomatch noDigit.symm.trans read
  · rintro rfl
    exact nomatch noDigit.symm.trans read'

/-- A pair without a plus sign is one of digits. -/
theorem IsPair.isBytePair {pair : List Char} {value : Nat} (spells : IsPair pair value)
    (plain : '+' ∉ pair) : IsBytePair pair value := by
  rcases spells with digits | signed
  · exact digits
  · obtain ⟨first, second, rfl⟩ := IsPair.exists_eq (.inr signed)
    obtain ⟨rfl, _⟩ := isSignedDigit_iff.mp signed
    exact absurd List.mem_cons_self plain

theorem Spells.plus_notMem {text : String} {r g b : Nat} (digits : Spells IsBytePair text r g b) :
    '+' ∉ text.toList := by
  obtain ⟨mark, first, second, third, one, split, pair, pair', pair''⟩ := digits
  have noMark : '+' ∉ mark := by rcases one with rfl | rfl <;> decide
  simp [split, noMark, pair.plus_notMem, pair'.plus_notMem, pair''.plus_notMem]

theorem Spells.isPair {text : String} {r g b : Nat} (digits : Spells IsBytePair text r g b) :
    Spells IsPair text r g b := by
  obtain ⟨mark, first, second, third, one, split, pair, pair', pair''⟩ := digits
  exact ⟨mark, first, second, third, one, split, .inl pair, .inl pair', .inl pair''⟩

/-- A text of pairs without a plus sign consists of digits. -/
theorem Spells.digits {text : String} {r g b : Nat} (spells : Spells IsPair text r g b)
    (plain : '+' ∉ text.toList) : Spells IsBytePair text r g b := by
  obtain ⟨mark, first, second, third, one, split, pair, pair', pair''⟩ := spells
  simp only [split, List.mem_append, not_or] at plain
  obtain ⟨_, ⟨plain, plain'⟩, plain''⟩ := plain
  exact ⟨mark, first, second, third, one, split, pair.isBytePair plain, pair'.isBytePair plain',
    pair''.isBytePair plain''⟩

/-! ## Reading by places in the bytes

A text is kept in bytes, and its pairs are found by their places there. A place inside a character
is no place to cut at, so each cut may have no result; and what is cut out is read as a number of
any length.
-/

/-- How many bytes characters take. -/
def byteCount (text : List Char) : Nat := (text.map Char.utf8Size).sum

/-- The characters before and after a place in the bytes. -/
def cutAtByte? : Nat → List Char → Option (List Char × List Char)
  | 0, text => some ([], text)
  | _ + 1, [] => none
  | place + 1, c :: rest =>
    if c.utf8Size ≤ place + 1 then
      (cutAtByte? (place + 1 - c.utf8Size) rest).map fun parts => (c :: parts.1, parts.2)
    else none

/-- The characters between two places in the bytes. -/
def slice? (text : List Char) (start stop : Nat) : Option (List Char) := do
  let (_, rest) ← cutAtByte? start text
  let (part, _) ← cutAtByte? (stop - start) rest
  return part

/-- A number below 256 whose first digits have a value. -/
def readDigits? : Nat → List Char → Option Nat
  | value, [] => some value
  | value, c :: rest => do
    let digit ← hexDigit? c
    if 16 * value + digit < 256 then readDigits? (16 * value + digit) rest else none

/-- A number below 256; it may have a plus sign, but is no sign alone. -/
def readByte? : List Char → Option Nat
  | [] => none
  | ['+'] => none
  | '+' :: digits => readDigits? 0 digits
  | digits => readDigits? 0 digits

def channelInBytes (text : List Char) (start : Nat) : ExceptT HexError Option Nat := do
  let pair ← (slice? text start (start + 2) : Option (List Char))
  match readByte? pair with
  | some value => return value
  | none => throw .digits

/-- The channels of a text, found by their places in its bytes. -/
def channelsInBytes (text : String) : ExceptT HexError Option (Nat × Nat × Nat) := do
  let hex := dropNumberSign text.toList
  if byteCount hex != 6 || !hex.all (fun c => c.toNat < 128) then throw .form
  let r ← channelInBytes hex 0
  let g ← channelInBytes hex 2
  let b ← channelInBytes hex 4
  return (r, g, b)

@[simp] theorem byteCount_nil : byteCount [] = 0 := rfl

@[simp] theorem byteCount_cons (c : Char) (rest : List Char) :
    byteCount (c :: rest) = c.utf8Size + byteCount rest := List.sum_cons

/-- A text can be cut exactly where a number of whole characters ends. -/
theorem cutAtByte?_eq_some_iff {place : Nat} {text before after : List Char} :
    cutAtByte? place text = some (before, after) ↔
      text = before ++ after ∧ byteCount before = place := by
  induction text generalizing place before after with
  | nil => cases place with
    | zero => cases before <;> simp [cutAtByte?, eq_comm]
    | succ place => cases before <;> simp [cutAtByte?]
  | cons c rest ih => cases place with
    | zero => cases before with
      | nil => simp [cutAtByte?, eq_comm]
      | cons d before =>
        have positive := d.utf8Size_pos
        simp only [cutAtByte?, byteCount_cons]
        constructor
        · rintro ⟨⟩
        · omega
    | succ place => cases before with
      | nil => simp [cutAtByte?]
      | cons d before =>
        simp only [cutAtByte?, List.cons_append, List.cons.injEq, byteCount_cons]
        split_ifs with fits
        · simp only [Option.map_eq_some_iff, Prod.exists, Prod.mk.injEq, List.cons.injEq, ih]
          constructor
          · rintro ⟨_, _, ⟨rfl, count⟩, ⟨rfl, rfl⟩, rfl⟩
            exact ⟨⟨rfl, rfl⟩, by omega⟩
          · rintro ⟨⟨rfl, rfl⟩, count⟩
            exact ⟨before, after, ⟨rfl, by omega⟩, ⟨rfl, rfl⟩, rfl⟩
        · refine ⟨nofun, ?_⟩
          rintro ⟨⟨rfl, rfl⟩, count⟩
          omega

/-- A character of three bytes is not cut in two. -/
example : slice? ['日', '本'] 2 4 = none := rfl

theorem byteCount_of_ascii {text : List Char} (ascii : ∀ c ∈ text, c.toNat < 128) :
    byteCount text = text.length := by
  induction text with
  | nil => rfl
  | cons c rest ih =>
    obtain ⟨here, later⟩ := List.forall_mem_cons.mp ascii
    have single : c.utf8Size = 1 := Char.utf8Size_eq_one_iff.mpr (by
      rw [UInt32.le_iff_toNat_le, Char.toNat_val]
      exact Nat.le_of_lt_succ here)
    rw [byteCount_cons, ih later, single, List.length_cons, Nat.add_comm]

/-- Between characters of one byte every place is one to cut at. -/
theorem cutAtByte?_of_ascii {front back : List Char} (ascii : ∀ c ∈ front, c.toNat < 128) :
    cutAtByte? front.length (front ++ back) = some (front, back) :=
  cutAtByte?_eq_some_iff.mpr ⟨rfl, byteCount_of_ascii ascii⟩

theorem slice?_of_ascii {front part back : List Char} (ascii : ∀ c ∈ front ++ part, c.toNat < 128) :
    slice? (front ++ part ++ back) front.length (front.length + part.length) = some part := by
  obtain ⟨before, here⟩ := List.forall_mem_append.mp ascii
  simp [slice?, cutAtByte?_of_ascii before, cutAtByte?_of_ascii here]

/-- One digit before another does not make the number too large. -/
theorem readDigits?_cons {value : Nat} (small : value < 16) (c : Char) (rest : List Char) :
    readDigits? value (c :: rest) =
      (hexDigit? c).bind fun digit => readDigits? (16 * value + digit) rest := by
  cases read : hexDigit? c with
  | none => simp [readDigits?, read]
  | some digit =>
    have below := (hexDigit?_eq_some_iff.mp read).1
    have fits : 16 * value + digit < 256 := by omega
    simp [readDigits?, read, fits]

/-- Two characters are read as a byte by digits, or by one digit after a plus sign. -/
theorem readByte?_pair (first second : Char) :
    readByte? [first, second] = hexPair? first second := by
  unfold hexPair?
  split_ifs with signed
  · subst signed
    have rest : readByte? ['+', second] = readDigits? 0 [second] := rfl
    rw [rest, readDigits?_cons (by decide)]
    cases hexDigit? second <;> simp [readDigits?]
  · have whole : readByte? [first, second] = readDigits? 0 [first, second] := by
      rw [readByte?] <;> simp [signed]
    rw [whole, readDigits?_cons (by decide)]
    cases read : hexDigit? first with
    | none => rfl
    | some high =>
      have small : 16 * 0 + high < 16 := by simpa using (hexDigit?_eq_some_iff.mp read).1
      rw [Option.bind_some, readDigits?_cons small]
      cases hexDigit? second <;> simp [readDigits?]

/-- In characters of one byte, a channel is read from its pair. -/
theorem run_channelInBytes (front back : List Char) {first second : Char}
    (ascii : ∀ c ∈ front ++ [first, second], c.toNat < 128) :
    (channelInBytes (front ++ [first, second] ++ back) front.length).run =
      some ((hexPair? first second).elim (.error .digits) .ok) := by
  have part : slice? (front ++ [first, second] ++ back) front.length (front.length + 2) =
      some [first, second] := slice?_of_ascii ascii
  simp only [channelInBytes, part]
  change (match readByte? [first, second] with
    | some value => pure value
    | none => throw .digits : ExceptT HexError Option Nat).run = _
  rw [readByte?_pair]
  cases hexPair? first second <;> rfl

theorem hasSixBytes_iff {text : String} : HasSixBytes text ↔
    (byteCount (dropNumberSign text.toList) != 6 ||
      !(dropNumberSign text.toList).all (fun c => c.toNat < 128)) = false := by
  simp only [HasSixBytes, Bool.or_eq_false_iff, bne_eq_false_iff_eq, Bool.not_eq_false',
    List.all_eq_true, decide_eq_true_eq]
  refine and_congr_left fun ascii => ?_
  rw [byteCount_of_ascii ascii]

/-- Reading by places in the bytes always has a result, and the same one. -/
theorem run_channelsInBytes (text : String) :
    (channelsInBytes text).run = some (hexChannels? text) := by
  by_cases six : HasSixBytes text
  · obtain ⟨c₁, c₂, c₃, c₄, c₅, c₆, there⟩ := six.exists_eq
    have ascii := six.2
    have allowed := hasSixBytes_iff.mp six
    rw [hexChannels?_of_six there ascii]
    rw [there] at ascii allowed
    have first : (channelInBytes [c₁, c₂, c₃, c₄, c₅, c₆] 0).run = _ :=
      run_channelInBytes [] [c₃, c₄, c₅, c₆] fun c member =>
        ascii c (List.mem_append_left [c₃, c₄, c₅, c₆] member)
    have second : (channelInBytes [c₁, c₂, c₃, c₄, c₅, c₆] 2).run = _ :=
      run_channelInBytes [c₁, c₂] [c₅, c₆] fun c member =>
        ascii c (List.mem_append_left [c₅, c₆] member)
    have third : (channelInBytes [c₁, c₂, c₃, c₄, c₅, c₆] 4).run = _ :=
      run_channelInBytes [c₁, c₂, c₃, c₄] [] ascii
    simp only [channelsInBytes, there, allowed, Bool.false_eq_true, if_false, ExceptT.run_bind,
      first, second, third]
    cases hexPair? c₁ c₂ <;> cases hexPair? c₃ c₄ <;> cases hexPair? c₅ c₆ <;> rfl
  · have refused := Bool.eq_true_of_not_eq_false (mt hasSixBytes_iff.mpr six)
    rw [hexChannels?_of_not_six six, channelsInBytes]
    simp only [refused, if_true]
    rfl

/-! ## What is read -/

/-- What a text comes to when it is read as a colour. -/
structure ReadsHex (R : Type) [Scalar R] (text : String) : Prop where
  /-- A text gives a colour exactly if it spells the channels. -/
  ok_iff : ∀ c : Color R, ofHex? text = .ok c ↔
    ∃ r g b, Spells IsPair text r g b ∧ c = ⟨Scalar.ofNat r, Scalar.ofNat g, Scalar.ofNat b⟩
  /-- Every other text is invalid, by its form if it is not one of six bytes. -/
  refused : (¬ ∃ r g b, Spells IsPair text r g b) →
    (ofHex? text : Except Failure (Color R)) = .error
      (.validation ((if HasSixBytes text then HexError.digits else .form).message text))
  /-- Reading by places in the bytes comes to the same, so no place is inside a character. -/
  inBytes : (channelsInBytes text).run = some (hexChannels? text)
  /-- To give a colour and to consist of six digits is the same, unless the text is one of pairs
  with a plus sign. -/
  digits_iff : ((∃ c : Color R, ofHex? text = .ok c) ↔ ∃ r g b, Spells IsBytePair text r g b) ↔
    ¬ ((∃ r g b, Spells IsPair text r g b) ∧ '+' ∈ text.toList)

/-- A text is read as a colour exactly if it is three pairs after one number sign or none. A pair is
two hexadecimal digits, or else a plus sign and one digit. -/
theorem ofHex?_reads (R : Type) [Scalar R] (text : String) : ReadsHex R text := by
  refine ⟨fun c => ofHex?_eq_ok_iff, fun other => ?_, run_channelsInBytes text, ?_, ?_⟩
  · rw [ofHex?, hexChannels?_of_not_spells other]
  · rintro same ⟨⟨r, g, b, read⟩, plus⟩
    obtain ⟨_, _, _, digits⟩ := same.mp ⟨_, ofHex?_eq_ok_iff.mpr ⟨r, g, b, read, rfl⟩⟩
    exact digits.plus_notMem plus
  · intro plain
    constructor
    · rintro ⟨c, read⟩
      obtain ⟨r, g, b, spells, _⟩ := ofHex?_eq_ok_iff.mp read
      exact ⟨r, g, b, spells.digits fun plus => plain ⟨⟨r, g, b, spells⟩, plus⟩⟩
    · rintro ⟨r, g, b, digits⟩
      exact ⟨_, ofHex?_eq_ok_iff.mpr ⟨r, g, b, digits.isPair, rfl⟩⟩

/-- Three plus signs with a digit each are read as a colour, though they are no six digits. -/
theorem signed_digits_read :
    ofHex? "+f+f+f" = .ok (⟨Scalar.ofNat 15, Scalar.ofNat 15, Scalar.ofNat 15⟩ : Color Double) ∧
      ¬ ∃ r g b, Spells IsBytePair "+f+f+f" r g b := by
  have pair : IsPair ['+', 'f'] 15 := .inr ⟨by decide, rfl⟩
  have read : Spells IsPair "+f+f+f" 15 15 15 :=
    ⟨[], ['+', 'f'], ['+', 'f'], ['+', 'f'], .inl rfl, by simp, pair, pair, pair⟩
  refine ⟨ofHex?_eq_ok_iff.mpr ⟨15, 15, 15, read, rfl⟩, ?_⟩
  rintro ⟨r, g, b, digits⟩
  exact digits.plus_notMem (by simp)

end Color

end Storyboard
