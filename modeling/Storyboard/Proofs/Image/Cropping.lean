import Mathlib.Data.List.Basic
import Mathlib.Data.List.Induction
import Storyboard.Image.Basic

/-! # What cropping keeps

The bounds that are found row by row hold every pixel that can be seen, and such a pixel lies on
each of their four sides, so no lesser bounds will do. Cropping copies the pixels inside of them. A
buffer of bytes is read and cut at places that it has.
-/

namespace Storyboard

namespace Image

/-! ## Pixels -/

/-- In rows of one width, a place is among the pixels exactly if its row is. -/
theorem index_lt_iff {width height x y : Nat} (inside : x < width) :
    y * width + x < width * height ↔ y < height := by
  constructor
  · intro less
    by_contra outside
    have rows : height * width ≤ y * width := Nat.mul_le_mul_right width (Nat.not_lt.mp outside)
    rw [Nat.mul_comm height] at rows
    omega
  · intro less
    have rows : (y + 1) * width ≤ height * width := Nat.mul_le_mul_right width less
    rw [Nat.succ_mul, Nat.mul_comm height] at rows
    omega

theorem exists_pixel_iff {image : Image} {x y : Nat} :
    (∃ p, image.pixel? x y = some p) ↔ x < image.width ∧ y < image.height := by
  rw [pixel?]
  split_ifs with inside
  · simp [inside, Array.getElem?_eq_some_iff, image.size_eq, index_lt_iff inside]
  · simp [inside]

theorem shows_iff {image : Image} {x y : Nat} :
    image.shows x y = true ↔ ∃ p, image.pixel? x y = some p ∧ p.a ≠ 0 := by
  simp [shows, Option.any_eq_true]

theorem lt_of_shows {image : Image} {x y : Nat} (shown : image.shows x y = true) :
    x < image.width ∧ y < image.height := by
  obtain ⟨p, there, -⟩ := shows_iff.mp shown
  exact exists_pixel_iff.mp ⟨p, there⟩

theorem shows_congr {image image' : Image} {x y x' y' : Nat}
    (same : image.pixel? x y = image'.pixel? x' y') : image.shows x y = image'.shows x' y' := by
  rw [shows, shows, same]

/-- The pixels of an image are those that it was made of. -/
theorem pixel?_generate {width height x y : Nat} (inside : x < width) (inside' : y < height)
    (pixel : Nat → Nat → Rgba) : (generate width height pixel).pixel? x y = some (pixel x y) := by
  have index := (index_lt_iff inside).mpr inside'
  have column : (y * width + x) % width = x := by
    rw [Nat.mul_comm, Nat.mul_add_mod, Nat.mod_eq_of_lt inside]
  have row : (y * width + x) / width = y := by
    rw [Nat.mul_comm, Nat.mul_add_div (by omega), Nat.div_eq_of_lt inside, Nat.add_zero]
  change (if x < width then _ else _) = _
  rw [if_pos inside]
  simp [generate, index, column, row]

/-- An image is known by its pixels. -/
theorem eq_of_pixel?_eq {image image' : Image} (width : image.width = image'.width)
    (height : image.height = image'.height)
    (same : ∀ x < image.width, ∀ y < image.height, image.pixel? x y = image'.pixel? x y) :
    image = image' := by
  obtain ⟨w, h, pixels, sized⟩ := image
  obtain ⟨w', h', pixels', sized'⟩ := image'
  obtain rfl : w = w' := width
  obtain rfl : h = h' := height
  congr
  refine Array.ext_getElem? fun i => ?_
  by_cases inside : i < w * h
  · have positive : 0 < w := Nat.pos_of_mul_pos_right (Nat.zero_lt_of_lt inside)
    have column := Nat.mod_lt i positive
    have split : i / w * w + i % w = i := Nat.div_add_mod' i w
    have row : i / w < h := (index_lt_iff column).mp (split.symm ▸ inside)
    have pixel := same (i % w) column (i / w) row
    simpa only [pixel?, if_pos column, split] using pixel
  · rw [Array.getElem?_eq_none (by omega), Array.getElem?_eq_none (by omega)]

/-! ## Bounds -/

namespace Bounds

def Holds (b : Bounds) (x y : Nat) : Prop := b.left ≤ x ∧ x ≤ b.right ∧ b.top ≤ y ∧ y ≤ b.bottom

def Within (b b' : Bounds) : Prop :=
  b'.left ≤ b.left ∧ b.right ≤ b'.right ∧ b'.top ≤ b.top ∧ b.bottom ≤ b'.bottom

/-- The bounds hold some places, one of which lies on each of their sides. Without places there are
no bounds. -/
def Frames (places : List (Nat × Nat)) : Option Bounds → Prop
  | none => places = []
  | some b => (∀ p ∈ places, b.Holds p.1 p.2) ∧
      (∃ p ∈ places, p.1 = b.left) ∧ (∃ p ∈ places, p.1 = b.right) ∧
      (∃ p ∈ places, p.2 = b.top) ∧ ∃ p ∈ places, p.2 = b.bottom

/-- One more place that can be seen widens the bounds by no more than it has to. -/
theorem Frames.extend {places : List (Nat × Nat)} {b : Option Bounds} (frames : Frames places b)
    (p : Nat × Nat) : Frames (places ++ [p]) (Bounds.extend b p.1 p.2) := by
  cases b with
  | none =>
    obtain rfl : places = [] := frames
    simp [Bounds.extend, Frames, Holds, single]
  | some b =>
    obtain ⟨holds, left, right, top, bottom⟩ := frames
    -- On each side, either the old place or the new one is the outermost.
    have side {f : Nat × Nat → Nat} {m : Nat} (new : Nat) (old : ∃ q ∈ places, f q = m)
        (last : f p = new) : (∃ q ∈ places ++ [p], f q = min m new) ∧
          ∃ q ∈ places ++ [p], f q = max m new := by
      obtain ⟨q, member, rfl⟩ := old
      subst last
      rcases Nat.le_total (f q) (f p) with less | less
      · exact ⟨⟨q, by simp [member], by omega⟩, p, by simp, by omega⟩
      · exact ⟨⟨p, by simp, by omega⟩, q, by simp [member], by omega⟩
    refine ⟨fun q member => ?_, (side p.1 left rfl).1, (side p.1 right rfl).2,
      (side p.2 top rfl).1, (side p.2 bottom rfl).2⟩
    simp only [Holds, add]
    rcases List.mem_append.mp member with earlier | last
    · have held := holds q earlier
      simp only [Holds] at held
      omega
    · obtain rfl := List.mem_singleton.mp last
      omega

theorem frames_foldl (places : List (Nat × Nat)) :
    Frames places (places.foldl (fun b p => Bounds.extend b p.1 p.2) none) := by
  induction places using List.reverseRecOn with
  | nil => rfl
  | append_singleton earlier last ih =>
    rw [List.foldl_append]
    exact ih.extend last

end Bounds

theorem mem_places {image : Image} {p : Nat × Nat} :
    p ∈ image.places ↔ p.1 < image.width ∧ p.2 < image.height := by
  obtain ⟨x, y⟩ := p
  simp [places, and_comm]

/-- The least bounds of what can be seen: they hold it all, and it reaches each of their sides. -/
structure Fits (b : Bounds) (image : Image) : Prop where
  holds : ∀ x y, image.shows x y = true → b.Holds x y
  left : ∃ y, image.shows b.left y = true
  right : ∃ y, image.shows b.right y = true
  top : ∃ x, image.shows x b.top = true
  bottom : ∃ x, image.shows x b.bottom = true

/-- The search finds the least bounds, and none exactly if nothing can be seen. -/
theorem visibleBounds_cases (image : Image) :
    (image.visibleBounds = none ∧ ∀ x y, image.shows x y = false) ∨
      ∃ b, image.visibleBounds = some b ∧ Fits b image := by
  have frames := Bounds.frames_foldl (image.places.filter fun p => image.shows p.1 p.2)
  rw [List.foldl_filter] at frames
  change Bounds.Frames _ image.visibleBounds at frames
  have among (x y : Nat) (shown : image.shows x y = true) :
      (x, y) ∈ image.places.filter fun p => image.shows p.1 p.2 :=
    List.mem_filter.mpr ⟨mem_places.mpr (lt_of_shows shown), shown⟩
  have seen {p : Nat × Nat} (member : p ∈ image.places.filter fun p => image.shows p.1 p.2) :
      image.shows p.1 p.2 = true := (List.mem_filter.mp member).2
  cases found : image.visibleBounds with
  | none =>
    rw [found] at frames
    refine .inl ⟨rfl, fun x y => Bool.eq_false_iff.mpr fun shown => ?_⟩
    exact List.not_mem_nil (frames ▸ among x y shown)
  | some b =>
    rw [found] at frames
    obtain ⟨holds, ⟨p, left, onLeft⟩, ⟨q, right, onRight⟩, ⟨r, top, onTop⟩, s, bottom, onBottom⟩ :=
      frames
    exact .inr ⟨b, rfl, fun x y shown => holds (x, y) (among x y shown),
      ⟨p.2, onLeft ▸ seen left⟩, ⟨q.2, onRight ▸ seen right⟩, ⟨r.1, onTop ▸ seen top⟩,
      ⟨s.1, onBottom ▸ seen bottom⟩⟩

namespace Fits

variable {image : Image} {b : Bounds}

/-- Other bounds that hold all that can be seen are not less. -/
theorem within (fits : Fits b image) {b' : Bounds}
    (holds : ∀ x y, image.shows x y = true → b'.Holds x y) : b.Within b' := by
  obtain ⟨-, ⟨y, left⟩, ⟨y', right⟩, ⟨x, top⟩, ⟨x', bottom⟩⟩ := fits
  exact ⟨(holds _ _ left).1, (holds _ _ right).2.1, (holds _ _ top).2.2.1, (holds _ _ bottom).2.2.2⟩

theorem unique (fits : Fits b image) {b' : Bounds} (fits' : Fits b' image) : b = b' := by
  obtain ⟨left, right, top, bottom⟩ := fits.within fits'.holds
  obtain ⟨left', right', top', bottom'⟩ := fits'.within fits.holds
  cases b
  cases b'
  rw [Bounds.mk.injEq]
  exact ⟨Nat.le_antisymm left' left, Nat.le_antisymm top' top, Nat.le_antisymm right right',
    Nat.le_antisymm bottom bottom'⟩

/-- The bounds lie in the image. -/
theorem bounded (fits : Fits b image) :
    b.left ≤ b.right ∧ b.right < image.width ∧ b.top ≤ b.bottom ∧ b.bottom < image.height := by
  obtain ⟨holds, ⟨y, left⟩, ⟨y', right⟩, ⟨x, top⟩, ⟨x', bottom⟩⟩ := fits
  exact ⟨(holds _ _ left).2.1, (lt_of_shows right).1, (holds _ _ top).2.2.2, (lt_of_shows bottom).2⟩

/-! ## The part inside of bounds -/

/-- Every pixel of the part is there, and is the one at its place in the image. -/
theorem pixel_part (fits : Fits b image) {x y : Nat} (inside : x < (image.part b).width)
    (inside' : y < (image.part b).height) :
    ∃ p, image.pixel? (b.left + x) (b.top + y) = some p ∧ (image.part b).pixel? x y = some p := by
  obtain ⟨_, right, _, bottom⟩ := fits.bounded
  change x < b.right - b.left + 1 at inside
  change y < b.bottom - b.top + 1 at inside'
  obtain ⟨p, there⟩ := exists_pixel_iff.mpr
    (⟨by omega, by omega⟩ : b.left + x < image.width ∧ b.top + y < image.height)
  refine ⟨p, there, ?_⟩
  rw [part, pixel?_generate inside inside', Nat.add_comm x, Nat.add_comm y, there, Option.getD_some]

/-- What can be seen is in the part, at its place in the bounds. -/
theorem pixel?_part_of_shows (fits : Fits b image) {x y : Nat} (shown : image.shows x y = true) :
    (image.part b).pixel? (x - b.left) (y - b.top) = image.pixel? x y := by
  obtain ⟨left, right, top, bottom⟩ := fits.holds x y shown
  have inside : x - b.left < (image.part b).width := by
    change _ < b.right - b.left + 1
    omega
  have inside' : y - b.top < (image.part b).height := by
    change _ < b.bottom - b.top + 1
    omega
  obtain ⟨p, there, copied⟩ := fits.pixel_part inside inside'
  rw [Nat.add_sub_cancel' left, Nat.add_sub_cancel' top] at there
  rw [copied, there]

/-- What can be seen in the part reaches all of its sides. -/
theorem part (fits : Fits b image) :
    Fits ⟨0, 0, (image.part b).width - 1, (image.part b).height - 1⟩ (image.part b) := by
  have moved {x y : Nat} (shown : image.shows x y = true) :
      (image.part b).shows (x - b.left) (y - b.top) = true :=
    (shows_congr (fits.pixel?_part_of_shows shown)).trans shown
  refine ⟨fun x y shown => ?_, ?_, ?_, ?_, ?_⟩
  · have inside := lt_of_shows shown
    exact ⟨Nat.zero_le x, Nat.le_sub_one_of_lt inside.1, Nat.zero_le y,
      Nat.le_sub_one_of_lt inside.2⟩
  · obtain ⟨y, left⟩ := fits.left
    exact ⟨y - b.top, Nat.sub_self b.left ▸ moved left⟩
  · obtain ⟨y, right⟩ := fits.right
    exact ⟨y - b.top, moved right⟩
  · obtain ⟨x, top⟩ := fits.top
    exact ⟨x - b.left, Nat.sub_self b.top ▸ moved top⟩
  · obtain ⟨x, bottom⟩ := fits.bottom
    exact ⟨x - b.left, moved bottom⟩

/-- An image that is seen on all of its sides is the part inside of its bounds. -/
theorem part_eq (fits : Fits ⟨0, 0, image.width - 1, image.height - 1⟩ image) :
    image.part ⟨0, 0, image.width - 1, image.height - 1⟩ = image := by
  obtain ⟨_, wide, _, high⟩ := fits.bounded
  have width : image.width - 1 - 0 + 1 = image.width := Nat.sub_add_cancel (Nat.zero_lt_of_lt wide)
  have height : image.height - 1 - 0 + 1 = image.height :=
    Nat.sub_add_cancel (Nat.zero_lt_of_lt high)
  refine eq_of_pixel?_eq width height fun x inside y inside' => ?_
  obtain ⟨p, there, copied⟩ := fits.pixel_part inside inside'
  rw [copied, ← there, Nat.zero_add, Nat.zero_add]

end Fits

theorem crop_of_fits {image : Image} {b : Bounds} (fits : Fits b image) :
    image.crop = image.part b := by
  rcases image.visibleBounds_cases with ⟨-, blank⟩ | ⟨b', found, fits'⟩
  · obtain ⟨y, left⟩ := fits.left
    rw [blank] at left
    cases left
  · rw [crop, found, fits.unique fits']

theorem crop_of_blank {image : Image} (blank : ∀ x y, image.shows x y = false) :
    image.crop = solid 1 1 Rgba.clear := by
  rcases image.visibleBounds_cases with ⟨found, -⟩ | ⟨b, -, fits⟩
  · rw [crop, found]
  · obtain ⟨y, left⟩ := fits.left
    rw [blank] at left
    cases left

theorem crop_crop (image : Image) : image.crop.crop = image.crop := by
  rcases image.visibleBounds_cases with ⟨-, blank⟩ | ⟨b, -, fits⟩
  · rw [crop_of_blank blank]
    decide
  · rw [crop_of_fits fits, crop_of_fits fits.part, fits.part.part_eq]

/-! ## Buffers of bytes -/

/-- The pixels of a buffer with four bytes for each. -/
def pixelsOf : List UInt8 → List Rgba
  | r :: g :: b :: a :: rest => ⟨r, g, b, a⟩ :: pixelsOf rest
  | _ => []

/-- A buffer of whole pixels is read without loss. -/
theorem pixelsOf_eq {data : List UInt8} {count : Nat} (sized : data.length = count * 4) :
    (pixelsOf data).length = count ∧ (pixelsOf data).flatMap Rgba.channels = data := by
  induction count generalizing data with
  | zero =>
    obtain rfl : data = [] := List.length_eq_zero_iff.mp (by omega)
    exact ⟨rfl, rfl⟩
  | succ n ih =>
    rcases data with _ | ⟨r, _ | ⟨g, _ | ⟨b, _ | ⟨a, rest⟩⟩⟩⟩
    case cons.cons.cons.cons =>
      have sized' : rest.length = n * 4 := by
        simp only [List.length_cons] at sized
        omega
      obtain ⟨length, bytes⟩ := ih sized'
      exact ⟨congrArg (· + 1) length, congrArg ([r, g, b, a] ++ ·) bytes⟩
    all_goals
      simp only [List.length_cons, List.length_nil] at sized
      omega

/-- The image of a buffer with four bytes for each pixel, row by row. -/
def ofBytes (width height : Nat) (data : List UInt8) (sized : data.length = width * height * 4) :
    Image :=
  ⟨width, height, (pixelsOf data).toArray, (pixelsOf_eq sized).1⟩

theorem bytes_ofBytes {width height : Nat} {data : List UInt8}
    (sized : data.length = width * height * 4) : (ofBytes width height data sized).bytes = data :=
  (pixelsOf_eq sized).2

/-- The opacity of a pixel is its fourth byte. -/
theorem getElem?_channels (pixels : List Rgba) (i : Nat) :
    (pixels.flatMap Rgba.channels)[i * 4 + 3]? = pixels[i]?.map Rgba.a := by
  induction pixels generalizing i with
  | nil => rfl
  | cons p rest ih =>
    cases i with
    | zero => rfl
    | succ i =>
      have next : (i + 1) * 4 + 3 = i * 4 + 3 + 4 := by omega
      rw [next]
      exact ih i

theorem drop_channels (pixels : List Rgba) (i : Nat) :
    (pixels.flatMap Rgba.channels).drop (i * 4) = (pixels.drop i).flatMap Rgba.channels := by
  induction pixels generalizing i with
  | nil => simp
  | cons p rest ih =>
    cases i with
    | zero => rfl
    | succ i =>
      rw [Nat.succ_mul]
      exact ih i

theorem take_channels (pixels : List Rgba) (i : Nat) :
    (pixels.flatMap Rgba.channels).take (i * 4) = (pixels.take i).flatMap Rgba.channels := by
  induction pixels generalizing i with
  | nil => simp
  | cons p rest ih =>
    cases i with
    | zero => rfl
    | succ i =>
      rw [Nat.succ_mul]
      exact congrArg (p.channels ++ ·) (ih i)

/-- Rows of one length, one after the other, are what they were cut from. -/
theorem flatMap_rows {α : Type} (list : List α) (length rows : Nat) :
    ((List.range rows).flatMap fun y => (list.drop (y * length)).take length) =
      list.take (rows * length) := by
  induction rows with
  | zero => simp
  | succ rows ih =>
    rw [List.range_succ, List.flatMap_append, ih, Nat.succ_mul, List.take_add]
    simp

/-- The alpha byte of a pixel is in the buffer, and decides whether the pixel can be seen. -/
theorem alpha_of_bytes (image : Image) {x y : Nat} (inside : x < image.width)
    (inside' : y < image.height) :
    ∃ a, image.bytes[(y * image.width + x) * 4 + 3]? = some a ∧
      (image.shows x y = true ↔ a ≠ 0) := by
  obtain ⟨p, there⟩ := exists_pixel_iff.mpr ⟨inside, inside'⟩
  refine ⟨p.a, ?_, by simp [shows_iff, there]⟩
  rw [pixel?, if_pos inside] at there
  rw [bytes, getElem?_channels, Array.getElem?_toList, there, Option.map_some]

/-- A row of the part is cut out of a row of the image. -/
theorem Fits.row_part {image : Image} {b : Bounds} (fits : Fits b image) {y : Nat}
    (inside : y < (image.part b).height) :
    ((image.part b).pixels.toList.drop (y * (image.part b).width)).take (image.part b).width =
      (image.pixels.toList.drop ((b.top + y) * image.width + b.left)).take
        (image.part b).width := by
  refine List.ext_getElem? fun x => ?_
  rw [List.getElem?_take, List.getElem?_take]
  split_ifs with inside'
  · obtain ⟨p, there, copied⟩ := fits.pixel_part inside' inside
    have column := (exists_pixel_iff.mp ⟨p, there⟩).1
    rw [pixel?, if_pos column] at there
    rw [pixel?, if_pos inside'] at copied
    rw [List.getElem?_drop, List.getElem?_drop, Array.getElem?_toList, Array.getElem?_toList,
      copied, Nat.add_assoc, there]
  · rfl

/-- The bytes of the part are cut out of the buffer, a piece of each row. -/
theorem Fits.bytes_part {image : Image} {b : Bounds} (fits : Fits b image) :
    (image.part b).bytes = (List.range (image.part b).height).flatMap fun y =>
      (image.bytes.drop (((b.top + y) * image.width + b.left) * 4)).take
        ((image.part b).width * 4) := by
  have rows := flatMap_rows (image.part b).pixels.toList (image.part b).width (image.part b).height
  have all : (image.part b).pixels.toList.length =
      (image.part b).height * (image.part b).width := by
    rw [Array.length_toList, (image.part b).size_eq, Nat.mul_comm]
  rw [List.take_of_length_le (Nat.le_of_eq all)] at rows
  rw [bytes, ← rows, List.flatMap_assoc]
  refine List.flatMap_congr fun y member => ?_
  rw [fits.row_part (List.mem_range.mp member), bytes, drop_channels, take_channels]

/-- The piece of a row is in the buffer. -/
theorem Fits.row_le {image : Image} {b : Bounds} (fits : Fits b image) {y : Nat}
    (inside : y < (image.part b).height) :
    ((b.top + y) * image.width + b.left) * 4 + (image.part b).width * 4 ≤ image.bytes.length := by
  have positive : 0 < (image.part b).width := Nat.succ_pos _
  -- The last pixel of the piece is one of the image.
  have last : (image.part b).width - 1 < (image.part b).width := Nat.sub_one_lt_of_lt positive
  obtain ⟨p, there, -⟩ := fits.pixel_part last inside
  obtain ⟨column, row⟩ := exists_pixel_iff.mp ⟨p, there⟩
  have index := (index_lt_iff column).mpr row
  rw [length_bytes]
  omega

/-- Cropping a buffer reads and cuts it at places that it has. If no pixel can be seen, a single
clear one is left. Otherwise what is left is the part of the image inside of the least bounds of
what can be seen: it has the pixels of the image at their places in the bounds and so all that can
be seen, its bytes are cut out of the rows of the buffer, and all of its sides are reached by what
can be seen. Cropping it again changes nothing. -/
theorem crop_ofBytes {width height : Nat} {data : List UInt8}
    (sized : data.length = width * height * 4) :
    let image := ofBytes width height data sized
    let cropped := image.crop
    image.bytes = data ∧
    (∀ x < width, ∀ y < height, ∃ a, data[(y * width + x) * 4 + 3]? = some a ∧
      (image.shows x y = true ↔ a ≠ 0)) ∧
    cropped.bytes.length = cropped.width * cropped.height * 4 ∧
    ((∀ x y, image.shows x y = false) → cropped = solid 1 1 Rgba.clear) ∧
    ((∃ x y, image.shows x y = true) → ∃ b : Bounds,
      (∀ x y, image.shows x y = true → b.Holds x y) ∧
      (∀ b' : Bounds, (∀ x y, image.shows x y = true → b'.Holds x y) → b.Within b') ∧
      cropped.width = b.right - b.left + 1 ∧ cropped.height = b.bottom - b.top + 1 ∧
      (∀ x < cropped.width, ∀ y < cropped.height, ∃ p,
        image.pixel? (b.left + x) (b.top + y) = some p ∧ cropped.pixel? x y = some p) ∧
      (∀ x y, image.shows x y = true →
        cropped.pixel? (x - b.left) (y - b.top) = image.pixel? x y) ∧
      (∀ y < cropped.height,
        ((b.top + y) * width + b.left) * 4 + cropped.width * 4 ≤ data.length) ∧
      cropped.bytes = ((List.range cropped.height).flatMap fun y =>
        (data.drop (((b.top + y) * width + b.left) * 4)).take (cropped.width * 4)) ∧
      (∃ y, cropped.shows 0 y = true) ∧ (∃ y, cropped.shows (cropped.width - 1) y = true) ∧
      (∃ x, cropped.shows x 0 = true) ∧ ∃ x, cropped.shows x (cropped.height - 1) = true) ∧
    cropped.crop = cropped := by
  intro image cropped
  have buffer : image.bytes = data := bytes_ofBytes sized
  refine ⟨buffer, fun x inside y inside' => ?_, length_bytes cropped, crop_of_blank, ?_,
    crop_crop image⟩
  · rw [← buffer]
    exact image.alpha_of_bytes inside inside'
  · rintro ⟨x, y, shown⟩
    obtain ⟨-, blank⟩ | ⟨b, -, fits⟩ := image.visibleBounds_cases
    · rw [blank] at shown
      cases shown
    have same : cropped = image.part b := crop_of_fits fits
    have bytes := fits.bytes_part
    have rows (y : Nat) (inside : y < (image.part b).height) := fits.row_le inside
    rw [buffer] at bytes rows
    rw [same]
    exact ⟨b, fits.holds, fun _ => fits.within, rfl, rfl, fun x inside y inside' =>
      fits.pixel_part inside inside', fun x y => fits.pixel?_part_of_shows, rows, bytes,
      fits.part.left, fits.part.right, fits.part.top, fits.part.bottom⟩

/-- Three columns and two rows, with two pixels at a corner that can be seen. -/
theorem crop_ofBytes_corner :
    let data : List UInt8 :=
      [9, 9, 9, 0, 9, 9, 9, 0, 1, 2, 3, 255, 0, 0, 0, 0, 4, 5, 6, 1, 7, 7, 7, 0]
    ∃ sized : data.length = 3 * 2 * 4,
      let image := ofBytes 3 2 data sized
      let cropped := image.crop
      (∃ x y, image.shows x y = true) ∧
        cropped.bytes = [9, 9, 9, 0, 1, 2, 3, 255, 4, 5, 6, 1, 7, 7, 7, 0] ∧
        (∃ b : Bounds, b = ⟨1, 0, 2, 1⟩ ∧ (∀ x y, image.shows x y = true → b.Holds x y) ∧
          ∀ b' : Bounds, (∀ x y, image.shows x y = true → b'.Holds x y) → b.Within b') ∧
        cropped.crop = cropped := by
  intro data
  have sized : data.length = 3 * 2 * 4 := rfl
  refine ⟨sized, ?_⟩
  intro image cropped
  have shown : ∃ x y, image.shows x y = true := ⟨2, 0, rfl⟩
  obtain ⟨_, _, _, _, exact, again⟩ := crop_ofBytes sized
  obtain ⟨b, holds, least, width, height, _⟩ := exact shown
  refine ⟨shown, rfl, ⟨b, ?_, holds, least⟩, again⟩
  -- Both pixels lie in the bounds, and the bounds are two by two.
  obtain ⟨_, right, top, _⟩ := holds 2 0 rfl
  obtain ⟨left, _, _, bottom⟩ := holds 1 1 rfl
  change 2 = _ at width
  change 2 = _ at height
  cases b
  rw [Bounds.mk.injEq]
  dsimp only at *
  omega

end Image

end Storyboard
