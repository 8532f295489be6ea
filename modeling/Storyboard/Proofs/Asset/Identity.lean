import Mathlib.Data.Prod.Lex
import Std.Data.String.ToNat
import Storyboard.Asset.Source
import Storyboard.Proofs.Asset.Confinement
import Storyboard.Proofs.Sorting
import Storyboard.Proofs.Text

/-! # Contents by their bytes

The bytes of a key are its kind and then texts, each of them ended by a zero byte. A text without
NUL has no zero byte itself, so the texts can be cut out again; and as the order of bytes is a
linear one, the parameters stand the same in whatever order they were given.
-/

namespace Storyboard

/-! ## Texts without NUL -/

def NulFree (text : String) : Prop := '\x00' ∉ text.toList

instance (text : String) : Decidable (NulFree text) := inferInstanceAs (Decidable (¬ _))

namespace NulFree

theorem append {first second : String} (left : NulFree first) (right : NulFree second) :
    NulFree (first ++ second) := by
  simpa [NulFree] using ⟨left, right⟩

theorem repr (n : Nat) : NulFree n.repr :=
  fun member => absurd (isDigit_of_mem_repr member) (by decide)

theorem slashed {text : String} (free : NulFree text) : NulFree (AssetPath.slashed text) := by
  rw [NulFree, AssetPath.slashed, String.toList_map, List.mem_map]
  rintro ⟨c, member, changed⟩
  split_ifs at changed
  · exact absurd changed (by decide)
  · exact free (changed ▸ member)

theorem listing (rgba : Rgba) : NulFree rgba.listing := by
  have channels : NulFree (", ".intercalate (rgba.channels.map fun n => toString n.toNat)) := by
    refine notMem_intercalate (by decide) fun part member => ?_
    obtain ⟨n, _, rfl⟩ := List.mem_map.mp member
    exact repr n.toNat
  exact ((show NulFree "[" by decide).append channels).append (by decide)

end NulFree

/-- Only the first character has a zero among its bytes. -/
theorem zero_notMem_utf8EncodeChar {c : Char} (other : c ≠ '\x00') :
    0 ∉ String.utf8EncodeChar c := by
  have positive : c.val.toNat ≠ 0 := fun zero => other (Char.ext (UInt32.toNat_inj.mp zero))
  have byte {n : Nat} (small : n < 256) (nonzero : n ≠ 0) : ¬ 0 = UInt8.ofNat n := by
    intro zero
    have value : 0 = (UInt8.ofNat n).toNat := congrArg UInt8.toNat zero
    rw [UInt8.toNat_ofNat_of_lt' small] at value
    exact nonzero value.symm
  unfold String.utf8EncodeChar
  simp only
  split_ifs with one two three <;> simp only [List.mem_cons, List.not_mem_nil, or_false, not_or]
  · exact byte (by omega) positive
  · exact ⟨byte (by omega) (by omega), byte (by omega) (by omega)⟩
  · exact ⟨byte (by omega) (by omega), byte (by omega) (by omega), byte (by omega) (by omega)⟩
  · exact ⟨byte (by omega) (by omega), byte (by omega) (by omega), byte (by omega) (by omega),
      byte (by omega) (by omega)⟩

namespace AssetKey

theorem toList_loop_eq (bytes : ByteArray) (i : Nat) (before : List UInt8) :
    ByteArray.toList.loop bytes i before = before.reverse ++ bytes.data.toList.drop i := by
  fun_induction ByteArray.toList.loop bytes i before with
  | case1 i before inside ih =>
    have bound : i < bytes.data.toList.length := inside
    rw [ih, List.drop_eq_getElem_cons bound]
    simp [ByteArray.get!, inside]
  | case2 i before outside =>
    have short : bytes.data.toList.length ≤ i := not_lt.mp outside
    rw [List.drop_eq_nil_of_le short, List.append_nil]

theorem textBytes_eq (text : String) : textBytes text = text.toByteArray.data.toList := by
  rw [textBytes, String.toUTF8_eq_toByteArray, ByteArray.toList, toList_loop_eq]
  rfl

theorem textBytes_injective : Function.Injective textBytes := by
  intro first second same
  rw [textBytes_eq, textBytes_eq] at same
  exact String.toByteArray_inj.mp (ByteArray.ext (Array.toList_inj.mp same))

theorem zero_notMem_textBytes {text : String} (free : NulFree text) : 0 ∉ textBytes text := by
  rw [textBytes_eq, ← String.utf8Encode_toList, List.utf8Encode, List.toList_data_toByteArray,
    List.mem_flatMap]
  rintro ⟨c, member, zero⟩
  exact zero_notMem_utf8EncodeChar (ne_of_mem_of_not_mem member free) zero

/-! ## Cutting the texts out -/

/-- Texts that are terminated in turn can be told apart by their terminators. -/
theorem splitOn_flatMap_terminated {texts : List String} (free : ∀ text ∈ texts, NulFree text) :
    (texts.flatMap terminated).splitOn 0 = texts.map textBytes ++ [[]] := by
  induction texts with
  | nil => rfl
  | cons text rest ih =>
    obtain ⟨here, later⟩ := List.forall_mem_cons.mp free
    have cut : (text :: rest).flatMap terminated =
        textBytes text ++ 0 :: rest.flatMap terminated := by
      simp [terminated]
    rw [cut, List.splitOn_append_cons_self_of_not_mem (zero_notMem_textBytes here), ih later,
      List.map_cons, List.cons_append]

theorem flatMap_terminated_inj {texts texts' : List String} (free : ∀ text ∈ texts, NulFree text)
    (free' : ∀ text ∈ texts', NulFree text)
    (same : texts.flatMap terminated = texts'.flatMap terminated) : texts = texts' := by
  have cuts := congrArg (List.splitOn 0) same
  rw [splitOn_flatMap_terminated free, splitOn_flatMap_terminated free'] at cuts
  exact List.map_injective_iff.mpr textBytes_injective (List.append_cancel_right cuts)

/-- The names and values of parameters in one row. -/
def row (params : List (String × String)) : List String := params.flatMap fun p => [p.1, p.2]

/-- A row of names and values tells the parameters, as names and values alternate. -/
theorem row_injective : Function.Injective row := by
  intro params params' same
  induction params generalizing params' with
  | nil => cases params' with
    | nil => rfl
    | cons p' rest' => cases same
  | cons p rest ih => cases params' with
    | nil => cases same
    | cons p' rest' =>
      obtain ⟨name, value, later⟩ : p.1 = p'.1 ∧ p.2 = p'.2 ∧ row rest = row rest' := by
        simpa [row] using same
      rw [Prod.ext name value, ih later]

def texts (key : AssetKey) : List String := key.identifier :: row key.params

theorem bytes_eq (key : AssetKey) : key.bytes = key.kind :: key.texts.flatMap terminated := by
  simp [bytes, texts, row, List.flatMap_assoc]

/-- The bytes of a key without NUL characters tell the whole key. -/
theorem bytes_inj {key key' : AssetKey} (free : ∀ text ∈ key.texts, NulFree text)
    (free' : ∀ text ∈ key'.texts, NulFree text) : key.bytes = key'.bytes ↔ key = key' := by
  refine ⟨fun same => ?_, fun same => congrArg bytes same⟩
  rw [bytes_eq, bytes_eq, List.cons.injEq] at same
  have texts := flatMap_terminated_inj free free' same.2
  rw [AssetKey.texts, AssetKey.texts, List.cons.injEq] at texts
  cases key
  cases key'
  simp only [mk.injEq]
  exact ⟨same.1, texts.1, row_injective texts.2⟩

/-! ## Sorted parameters -/

def codes (text : String) : List Nat := (textBytes text).map UInt8.toNat

theorem codes_injective : Function.Injective codes :=
  (List.map_injective_iff.mpr fun _ _ => UInt8.toNat_inj.mp).comp textBytes_injective

/-- The order of bytes is the one of the lists of their numbers. -/
theorem bytesLE_iff (xs ys : List UInt8) :
    bytesLE xs ys = true ↔ xs.map UInt8.toNat ≤ ys.map UInt8.toNat := by
  induction xs generalizing ys with
  | nil => simp [bytesLE, ← not_lt]
  | cons x xs ih => cases ys with
    | nil => simp [bytesLE, ← not_lt]
    | cons y ys =>
      simp only [bytesLE, Bool.or_eq_true, Bool.and_eq_true, decide_eq_true_eq, beq_iff_eq, ih,
        List.map_cons, le_iff_lt_or_eq, List.cons_lt_cons_iff, List.cons.injEq, UInt8.toNat_inj,
        UInt8.lt_iff_toNat_lt]
      rw [or_assoc, ← and_or_left]

/-- Where a parameter stands in the order. -/
def rank (p : String × String) : Lex (List Nat × List Nat) := toLex (codes p.1, codes p.2)

theorem rank_injective : Function.Injective rank := by
  intro p q same
  obtain ⟨name, value⟩ := Prod.mk.inj (toLex_inj.mp same)
  exact Prod.ext (codes_injective name) (codes_injective value)

theorem paramLE_iff (p q : String × String) : paramLE p q = true ↔ rank p ≤ rank q := by
  rw [rank, rank, Prod.Lex.toLex_le_toLex, paramLE]
  split_ifs with named
  · rw [bytesLE_iff]
    simp [named, codes]
  · have apart : codes p.1 ≠ codes q.1 := fun same => named (codes_injective same)
    rw [bytesLE_iff]
    simp only [apart, false_and, or_false]
    exact (lt_iff_le_and_ne.trans (and_iff_left apart)).symm

/-- Sorted parameters tell which there are, each as often as it is given, and nothing else. -/
theorem new_eq_iff {kind kind' : UInt8} {identifier identifier' : String}
    {params params' : List (String × String)} :
    new kind identifier params = new kind' identifier' params' ↔
      kind = kind' ∧ identifier = identifier' ∧ params.Perm params' := by
  rw [new, new, mk.injEq, mergeSort_eq_iff_perm]
  · intro p q r
    simp only [paramLE_iff]
    exact le_trans
  · intro p q
    simp only [Bool.or_eq_true, paramLE_iff]
    exact le_total _ _
  · intro p _ q _ first second
    exact rank_injective (((paramLE_iff p q).mp first).antisymm ((paramLE_iff q p).mp second))

/-- The identifier, the names and the values have no NUL. -/
def Terminable (identifier : String) (params : List (String × String)) : Prop :=
  NulFree identifier ∧ ∀ p ∈ params, NulFree p.1 ∧ NulFree p.2

theorem nulFree_texts {identifier : String} {params : List (String × String)}
    (free : Terminable identifier params) (kind : UInt8) :
    ∀ text ∈ (new kind identifier params).texts, NulFree text := by
  refine List.forall_mem_cons.mpr ⟨free.1, fun text member => ?_⟩
  obtain ⟨p, sorted, part⟩ := List.mem_flatMap.mp member
  obtain ⟨name, value⟩ := free.2 p (List.mem_mergeSort.mp sorted)
  rcases List.mem_pair.mp part with rfl | rfl
  · exact name
  · exact value

theorem bytes_new_eq_iff {kind kind' : UInt8} {identifier identifier' : String}
    {params params' : List (String × String)} (free : Terminable identifier params)
    (free' : Terminable identifier' params') :
    (new kind identifier params).bytes = (new kind' identifier' params').bytes ↔
      kind = kind' ∧ identifier = identifier' ∧ params.Perm params' :=
  (bytes_inj (nulFree_texts free kind) (nulFree_texts free' kind')).trans new_eq_iff

end AssetKey

/-! ## Sources -/

/-- Rows of the same names, each of them once, that differ in their order only are the same. -/
theorem eq_of_perm_of_names {α β : Type} {rows rows' : List (α × β)} (perm : rows.Perm rows')
    (names : rows.map Prod.fst = rows'.map Prod.fst) (distinct : (rows.map Prod.fst).Nodup) :
    rows = rows' := by
  induction rows generalizing rows' with
  | nil => exact perm.nil_eq
  | cons row rest ih => cases rows' with
    | nil => cases names
    | cons row' rest' =>
      simp only [List.map_cons, List.cons.injEq, List.nodup_cons] at names distinct
      have same : row = row' := by
        rcases List.mem_cons.mp (perm.mem_iff.mp List.mem_cons_self) with same | later
        · exact same
        · exact absurd (names.2 ▸ List.mem_map_of_mem later) distinct.1
      subst same
      rw [ih perm.cons_inv names.2 distinct.2]

/-- The digits and commas of a listing tell the four channels. -/
theorem Rgba.listing_injective : Function.Injective Rgba.listing := by
  intro c c' same
  have texts : ", ".intercalate (c.channels.map fun n => toString n.toNat) =
      ", ".intercalate (c'.channels.map fun n => toString n.toNat) := by
    simpa [listing, String.append_left_inj, String.append_right_inj] using same
  have apart (c : Rgba) :
      ∀ part ∈ c.channels.map fun n => toString n.toNat, ',' ∉ part.toList := by
    intro part member
    obtain ⟨n, _, rfl⟩ := List.mem_map.mp member
    exact fun comma => absurd (isDigit_of_mem_repr comma) (by decide)
  have channels : c.channels = c'.channels := by
    refine List.map_injective_iff.mpr (fun n n' same => ?_)
      (intercalate_inj rfl (apart c) (apart c') (by simp [channels]) (by simp [channels]) texts)
    exact UInt8.toNat_inj.mp (Nat.repr_injective same)
  cases c
  cases c'
  simpa [Rgba.channels] using channels

namespace AssetSource

/-- The parameters of a rectangle. -/
def solidParams (width height : Nat) (rgba : Rgba) : List (String × String) :=
  [("width", toString width), ("height", toString height), ("rgba", rgba.listing)]

/-- The parameters of a line of text whose size has these bits. -/
def letteringParams (font : String) (sizeBits : UInt32) (rgba : Rgba) : List (String × String) :=
  [("font", AssetPath.slashed font), ("size_px", toString sizeBits.toNat), ("rgba", rgba.listing)]

theorem key_solid (width height : Nat) (rgba : Rgba) :
    (solid width height rgba).key = AssetKey.new 83 "solid" (solidParams width height rgba) := rfl

theorem key_lettering (text font : String) (sizePx : Float32) (rgba : Rgba) :
    (lettering text font sizePx rgba).key =
      AssetKey.new 84 text (letteringParams font sizePx.toBits rgba) := by
  have slashes : fontName font = AssetPath.slashed font := by
    rw [fontName, AssetPath.slashed, ← String.toList_inj, String.toList_ofList, String.toList_map]
    rfl
  rw [key, slashes]
  rfl

theorem names_solidParams (width height : Nat) (rgba : Rgba) :
    (solidParams width height rgba).map Prod.fst = ["width", "height", "rgba"] := rfl

theorem names_letteringParams (font : String) (sizeBits : UInt32) (rgba : Rgba) :
    (letteringParams font sizeBits rgba).map Prod.fst = ["font", "size_px", "rgba"] := rfl

/-- The parameters of a rectangle tell it, in whatever order they are given. -/
theorem solidParams_perm_iff {width height width' height' : Nat} {rgba rgba' : Rgba} :
    (solidParams width height rgba).Perm (solidParams width' height' rgba') ↔
      width = width' ∧ height = height' ∧ rgba = rgba' := by
  constructor
  · intro perm
    have same := eq_of_perm_of_names perm (by rw [names_solidParams, names_solidParams])
      (by rw [names_solidParams]; decide)
    simp only [solidParams, List.cons.injEq, Prod.mk.injEq, true_and, and_true] at same
    exact ⟨Nat.repr_injective same.1, Nat.repr_injective same.2.1,
      Rgba.listing_injective same.2.2⟩
  · rintro ⟨rfl, rfl, rfl⟩
    exact .refl _

/-- The parameters of a line of text tell all of it but the text and which slashes its font has. -/
theorem letteringParams_perm_iff {font font' : String} {size size' : UInt32} {rgba rgba' : Rgba} :
    (letteringParams font size rgba).Perm (letteringParams font' size' rgba') ↔
      AssetPath.slashed font = AssetPath.slashed font' ∧ size = size' ∧ rgba = rgba' := by
  constructor
  · intro perm
    have same := eq_of_perm_of_names perm
      (by rw [names_letteringParams, names_letteringParams])
      (by rw [names_letteringParams]; decide)
    simp only [letteringParams, List.cons.injEq, Prod.mk.injEq, true_and, and_true] at same
    exact ⟨same.1, UInt32.toNat_inj.mp (Nat.repr_injective same.2.1),
      Rgba.listing_injective same.2.2⟩
  · rintro ⟨fonts, rfl, rfl⟩
    rw [letteringParams, letteringParams, fonts]

theorem terminable_solid (width height : Nat) (rgba : Rgba) :
    AssetKey.Terminable "solid" (solidParams width height rgba) := by
  refine ⟨by decide, ?_⟩
  simp only [solidParams, List.forall_mem_cons, List.not_mem_nil, false_implies, implies_true,
    and_true]
  exact ⟨⟨by decide, .repr width⟩, ⟨by decide, .repr height⟩, by decide, .listing rgba⟩

theorem terminable_lettering {text font : String} (free : NulFree text) (free' : NulFree font)
    (size : UInt32) (rgba : Rgba) :
    AssetKey.Terminable text (letteringParams font size rgba) := by
  refine ⟨free, ?_⟩
  simp only [letteringParams, List.forall_mem_cons, List.not_mem_nil, false_implies, implies_true,
    and_true]
  exact ⟨⟨by decide, free'.slashed⟩, ⟨by decide, .repr size.toNat⟩, by decide, .listing rgba⟩

/-- The texts of the source have no NUL. -/
def Terminable : AssetSource → Prop
  | .solid .. => True
  | .lettering text font _ _ => NulFree text ∧ NulFree font

/-- The sources are of one kind and agree in all fields, where the slashes in the name of a font may
lean either way. -/
def Alike : AssetSource → AssetSource → Prop
  | .solid width height rgba, .solid width' height' rgba' =>
    width = width' ∧ height = height' ∧ rgba = rgba'
  | .lettering text font sizePx rgba, .lettering text' font' sizePx' rgba' =>
    text = text' ∧ AssetPath.slashed font = AssetPath.slashed font' ∧
      sizePx.toBits = sizePx'.toBits ∧ rgba = rgba'
  | _, _ => False

end AssetSource

namespace AssetKey

open AssetSource

/-- Two sources have the same bytes only if they ask for the same image. -/
theorem bytes_key_eq_iff {source source' : AssetSource} (free : source.Terminable)
    (free' : source'.Terminable) : source.key.bytes = source'.key.bytes ↔ source.Alike source' := by
  -- The kinds of a rectangle and a line of text are different bytes.
  have apart : (83 : UInt8) ≠ 84 := by decide
  cases source with
  | solid width height rgba =>
    have rectangle := terminable_solid width height rgba
    cases source' with
    | solid width' height' rgba' =>
      rw [key_solid, key_solid, bytes_new_eq_iff rectangle (terminable_solid ..),
        solidParams_perm_iff]
      exact (and_iff_right rfl).trans (and_iff_right rfl)
    | lettering text' font' sizePx' rgba' =>
      rw [key_solid, key_lettering,
        bytes_new_eq_iff rectangle (terminable_lettering free'.1 free'.2 ..)]
      exact iff_of_false (fun same => apart same.1) id
  | lettering text font sizePx rgba =>
    have line := terminable_lettering free.1 free.2 sizePx.toBits rgba
    cases source' with
    | solid width' height' rgba' =>
      rw [key_lettering, key_solid, bytes_new_eq_iff line (terminable_solid ..)]
      exact iff_of_false (fun same => apart same.1.symm) id
    | lettering text' font' sizePx' rgba' =>
      rw [key_lettering, key_lettering,
        bytes_new_eq_iff line (terminable_lettering free'.1 free'.2 ..), letteringParams_perm_iff]
      exact and_iff_right rfl

/-- Two keys of texts without NUL have the same bytes exactly if they have one kind, one identifier
and the same parameters, each as often, in any order. So the bytes of a line of text tell its text,
its font up to the slashes, the bits of its size, whatever they are, and its colour, and two sources
have the same bytes exactly if they are alike. -/
theorem bytes_identify :
    (∀ (kind kind' : UInt8) (identifier identifier' : String)
      (params params' : List (String × String)), NulFree identifier → NulFree identifier' →
      (∀ p ∈ params, NulFree p.1 ∧ NulFree p.2) → (∀ p ∈ params', NulFree p.1 ∧ NulFree p.2) →
      ((new kind identifier params).bytes = (new kind' identifier' params').bytes ↔
        kind = kind' ∧ identifier = identifier' ∧ params.Perm params')) ∧
    (∀ (text text' font font' : String) (size size' : UInt32) (rgba rgba' : Rgba),
      NulFree text → NulFree font → NulFree text' → NulFree font' →
      ((new 84 text (letteringParams font size rgba)).bytes =
          (new 84 text' (letteringParams font' size' rgba')).bytes ↔
        text = text' ∧ AssetPath.slashed font = AssetPath.slashed font' ∧ size = size' ∧
          rgba = rgba')) ∧
    ∀ source source' : AssetSource, source.Terminable → source'.Terminable →
      (source.key.bytes = source'.key.bytes ↔ source.Alike source') := by
  refine ⟨?_, ?_, fun source source' => bytes_key_eq_iff⟩
  · intro kind kind' identifier identifier' params params' first second free free'
    exact bytes_new_eq_iff ⟨first, free⟩ ⟨second, free'⟩
  · intro text text' font font' size size' rgba rgba' first second first' second'
    refine (bytes_new_eq_iff (terminable_lettering first second size rgba)
      (terminable_lettering first' second' size' rgba')).trans ?_
    rw [letteringParams_perm_iff]
    exact and_iff_right rfl

/-- One of two parameters that are given twice is not the other; a size that is no number has its
bits; and the text of a line may be what a rectangle is called. -/
theorem bytes_identify_twice :
    let params := [("b", ""), ("a", "b"), ("a", "b")]
    let params' := [("a", "b"), ("b", ""), ("a", "b")]
    let params'' := [("a", "b"), ("b", ""), ("b", "")]
    let line : AssetSource := .lettering "solid" "fonts\\é.ttf" 16 .white
    let line' : AssetSource := .lettering "solid" "fonts/é.ttf" 16 .white
    (new 0 "" params).bytes = (new 0 "" params').bytes ∧
      (new 0 "" params).bytes ≠ (new 0 "" params'').bytes ∧
      (new 84 "" (letteringParams "" 0x7FC00000 .white)).bytes ≠
        (new 84 "" (letteringParams "" 0x7FC00001 .white)).bytes ∧
      line.key.bytes = line'.key.bytes ∧
      line.key.bytes ≠ (AssetSource.solid 1 1 .white).key.bytes := by
  intro params params' params'' line line'
  obtain ⟨keys, lines, sources⟩ := bytes_identify
  refine ⟨?_, ?_, ?_, ?_, ?_⟩
  · exact (keys 0 0 "" "" params params' (by decide) (by decide) (by decide) (by decide)).mpr
      ⟨rfl, rfl, by decide⟩
  · intro same
    have perm := ((keys 0 0 "" "" params params'' (by decide) (by decide) (by decide)
      (by decide)).mp same).2.2
    exact absurd perm (by decide)
  · intro same
    have bits := ((lines "" "" "" "" _ _ _ _ (by decide) (by decide) (by decide)
      (by decide)).mp same).2.2.1
    exact absurd bits (by decide)
  · exact (sources line line' ⟨by decide, by decide⟩ ⟨by decide, by decide⟩).mpr
      ⟨rfl, by cbv, rfl, rfl⟩
  · intro same
    exact (sources line (.solid 1 1 .white) ⟨by decide, by decide⟩ trivial).mp same

end AssetKey

end Storyboard
