import Mathlib.Data.List.Nodup
import Storyboard.Command
import Storyboard.Proofs.Number.Double
import Storyboard.Proofs.Sorting

/-! # What a track says at a time

Commands stand in one order: by start, by end and by the place at which they were given. At a time
the last one of those that have started is in force, and the first one of all while none has. Apart
from commands of one and the same window, the order in which they were given plays no part.
-/

namespace Storyboard

namespace Track

variable {R V : Type} [Scalar R]

/-- One command at its place comes no later than another one: by its start, if the starts are the
same by its end, and if the windows are the same by its place. -/
def NoLater (p q : Command R V × Nat) : Prop :=
  Scalar.totalLE p.1.startTime q.1.startTime = true ∧
    (p.1.startTime = q.1.startTime →
      Scalar.totalLE p.1.endTime q.1.endTime = true ∧ (p.1.endTime = q.1.endTime → p.2 ≤ q.2))

instance [DecidableEq R] (p q : Command R V × Nat) : Decidable (NoLater p q) :=
  inferInstanceAs (Decidable (_ ∧ (_ → _ ∧ (_ → _))))

/-- What a track has to say at a time. -/
inductive Sampled [Transcendental R] [Blend R V] (track : Track R V) (time : R) : Option V → Prop
  /-- There is no command. -/
  | blank : track = [] → Sampled track time none
  /-- No command has started, and the first one of all waits. -/
  | waiting {p : Command R V × Nat} : p ∈ track.zipIdx → (∀ q ∈ track.zipIdx, NoLater p q) →
      (∀ c ∈ track, ¬ c.startTime ≤ time) → Sampled track time (some p.1.startValue)
  /-- A command has started, and is the last one of those that have. -/
  | running {p : Command R V × Nat} : p ∈ track.zipIdx → p.1.startTime ≤ time →
      (∀ q ∈ track.zipIdx, q.1.startTime ≤ time → NoLater q p) →
      Sampled track time (some (p.1.valueAt time))

/-- The commands of a track at their places, in order. -/
def placed (track : Track R V) : List (Command R V × Nat) :=
  track.zipIdx.mergeSort (List.zipIdxLE fun c d => Scalar.windowLE c.window d.window)

theorem map_fst_placed (track : Track R V) : (placed track).map Prod.fst = sorted track :=
  List.mergeSort_zipIdx

theorem mem_placed {track : Track R V} {p : Command R V × Nat} :
    p ∈ placed track ↔ p ∈ track.zipIdx := by
  simp [placed]

theorem valueAt?_of_sorted [Transcendental R] [Blend R V] {track : Track R V}
    {first : Command R V} {rest : List (Command R V)} (order : sorted track = first :: rest)
    (time : R) : valueAt? track time =
      if time < first.startTime then some first.startValue
      else some ((((first :: rest).reverse.find? fun c => decide (c.startTime ≤ time)).getD
        first).valueAt time) := by
  rw [valueAt?, order]

/-! ## Changed values -/

theorem sorted_mapValues {W : Type} (f : V → W) (track : Track R V) :
    sorted (mapValues f track) = mapValues f (sorted track) :=
  (List.map_mergeSort (f := Command.map f) fun _ _ _ _ => rfl).symm

section Changed

variable {W : Type} [Transcendental R] [Blend R V] [Blend R W] {f : V → W} {rel : W → W → Prop}

/-- What lies between changed values is related to what lies between the values, changed. -/
def BlendsUpTo (R : Type) [Blend R V] [Blend R W] (rel : W → W → Prop) (f : V → W) : Prop :=
  ∀ (first last : V) (t : R), rel (Blend.blend (f first) (f last) t) (f (Blend.blend first last t))

theorem rel_valueAt_map (refl : ∀ w, rel w w) (blends : BlendsUpTo R rel f) (c : Command R V)
    (time : R) : rel ((c.map f).valueAt time) (f (c.valueAt time)) := by
  change rel (if time ≤ c.startTime then f c.startValue
    else if c.endTime ≤ time then f c.endValue else _) (f (if _ then _ else if _ then _ else _))
  split_ifs
  · exact refl _
  · exact refl _
  · exact blends c.startValue c.endValue _

/-- Which command is sampled is decided by times alone. -/
theorem rel_valueAt?_mapValues (refl : ∀ w, rel w w) (blends : BlendsUpTo R rel f)
    (track : Track R V) (time : R) :
    Option.Rel rel (valueAt? (mapValues f track) time) ((valueAt? track time).map f) := by
  rw [valueAt?, valueAt?, sorted_mapValues]
  cases sorted track with
  | nil => exact .none
  | cons first rest =>
    change Option.Rel rel (if time < first.startTime then some (f first.startValue) else _)
      (Option.map f (if _ then _ else _))
    split_ifs
    · exact .some (refl _)
    · dsimp only
      rw [← List.map_cons, ← List.map_reverse, List.find?_map, Option.getD_map]
      exact .some (rel_valueAt_map refl blends _ time)

end Changed

variable [OrderedScalar R]

/-! ## The order of commands -/

theorem noLater_refl (p : Command R V × Nat) : NoLater p p :=
  ⟨(OrderedScalar.totalLE_total _ _).elim id id, fun _ =>
    ⟨(OrderedScalar.totalLE_total _ _).elim id id, fun _ => Nat.le_refl _⟩⟩

/-- The order of commands is the one by which a stable sort orders them. -/
theorem zipIdxLE_iff (p q : Command R V × Nat) :
    List.zipIdxLE (fun c d : Command R V => Scalar.windowLE c.window d.window) p q = true ↔
      NoLater p q := by
  have tied (ordered : Scalar.windowLE p.1.window q.1.window = true) :
      Scalar.windowLE q.1.window p.1.window = true ↔
        p.1.startTime = q.1.startTime ∧ p.1.endTime = q.1.endTime := by
    refine ⟨fun back => Prod.mk.injEq .. ▸ Scalar.windowLE_antisymm ordered back, fun same => ?_⟩
    have windows : p.1.window = q.1.window := Prod.ext same.1 same.2
    rwa [windows] at ordered ⊢
  have less : Scalar.windowLE p.1.window q.1.window = true ↔
      Scalar.totalLE p.1.startTime q.1.startTime = true ∧
        (p.1.startTime = q.1.startTime → Scalar.totalLE p.1.endTime q.1.endTime = true) :=
    Scalar.windowLE_iff_lex
  have split :
      List.zipIdxLE (fun c d : Command R V => Scalar.windowLE c.window d.window) p q = true ↔
      Scalar.windowLE p.1.window q.1.window = true ∧
        (Scalar.windowLE q.1.window p.1.window = true → p.2 ≤ q.2) := by
    cases ordered : Scalar.windowLE p.1.window q.1.window <;>
      cases back : Scalar.windowLE q.1.window p.1.window <;> simp [List.zipIdxLE, ordered, back]
  rw [split, and_congr_right fun ordered => imp_congr_left (tied ordered), less, NoLater]
  tauto

/-- Only one of two commands of a track comes no later than the other one. -/
theorem NoLater.antisymm {track : Track R V} {p q : Command R V × Nat} (first : NoLater p q)
    (second : NoLater q p) (here : p ∈ track.zipIdx) (there : q ∈ track.zipIdx) : p = q := by
  have starts := OrderedScalar.totalLE_antisymm first.1 second.1
  obtain ⟨ends, place⟩ := first.2 starts
  obtain ⟨ends', place'⟩ := second.2 starts.symm
  have same := OrderedScalar.totalLE_antisymm ends ends'
  have index : p.2 = q.2 := le_antisymm (place same) (place' same.symm)
  have found := List.mem_zipIdx_iff_getElem?.mp here
  have found' := List.mem_zipIdx_iff_getElem?.mp there
  rw [index, found'] at found
  exact Prod.ext (Option.some.inj found).symm index

theorem pairwise_placed (track : Track R V) : (placed track).Pairwise NoLater := by
  have ordered := List.pairwise_mergeSort
    (List.zipIdxLE_trans fun (c d e : Command R V) =>
      Scalar.windowLE_trans c.window d.window e.window)
    (List.zipIdxLE_total fun (c d : Command R V) => Scalar.windowLE_total c.window d.window)
    track.zipIdx
  exact ordered.imp fun less => (zipIdxLE_iff _ _).mp less

/-! ## What is found -/

/-- In an ordered list, a search from the end finds what comes last among what is looked for. -/
theorem find?_reverse_of_pairwise {α : Type} {rel : α → α → Prop} (refl : ∀ a, rel a a)
    {list : List α} (ordered : list.Pairwise rel) {p : α → Bool} {a : α} (member : a ∈ list)
    (wanted : p a = true) :
    ∃ b, list.reverse.find? p = some b ∧ b ∈ list ∧ p b = true ∧
      ∀ c ∈ list, p c = true → rel c b := by
  have found : (list.reverse.find? p).isSome = true :=
    List.find?_isSome.mpr ⟨a, List.mem_reverse.mpr member, wanted⟩
  obtain ⟨b, found⟩ := Option.isSome_iff_exists.mp found
  obtain ⟨good, after, before, split, passed⟩ := List.find?_eq_some_iff_append.mp found
  -- What the search has passed is not wanted; what it has not come to stands before.
  have whole : list = before.reverse ++ b :: after.reverse := by
    rw [← List.reverse_reverse list, split]
    simp
  rw [whole] at ordered ⊢
  refine ⟨b, whole ▸ found, by simp, good, fun c there right => ?_⟩
  rcases List.mem_append.mp there with earlier | later
  · exact (List.pairwise_append.mp ordered).2.2 c earlier b (List.mem_cons_self ..)
  · rcases List.mem_cons.mp later with rfl | later
    · exact refl c
    · have wrong := passed c (List.mem_reverse.mp later)
      simp [right] at wrong

section Sampling

variable {track : Track R V} {time : R}
variable {first : Command R V × Nat} {rest : List (Command R V × Nat)}

theorem noLater_first (places : placed track = first :: rest) (q : Command R V × Nat)
    (member : q ∈ track.zipIdx) : NoLater first q := by
  have ordered := pairwise_placed track
  rw [← mem_placed, places] at member
  rw [places] at ordered
  rcases List.mem_cons.mp member with rfl | later
  · exact noLater_refl q
  · exact (List.pairwise_cons.mp ordered).1 q later

/-- Before the first start no command has started. -/
theorem not_started_of_lt_first (places : placed track = first :: rest)
    (real : ∀ c ∈ track, Scalar.isNaN c.startTime = false) (number : Scalar.isNaN time = false)
    (soon : time < first.1.startTime) (c : Command R V) (member : c ∈ track) :
    ¬ c.startTime ≤ time := by
  intro started
  obtain ⟨place, inside, rfl⟩ := List.getElem_of_mem member
  have there : (track[place], place) ∈ track.zipIdx :=
    List.mk_mem_zipIdx_iff_getElem?.mpr (List.getElem?_eq_getElem inside)
  have here : first.1 ∈ track :=
    List.fst_mem_of_mem_zipIdx (mem_placed.mp (places ▸ List.mem_cons_self ..))
  have before : first.1.startTime ≤ track[place].startTime :=
    OrderedScalar.le_of_totalLE (real _ here) (real _ member) (noLater_first places _ there).1
  exact (OrderedScalar.lt_iff_not_le number (real _ here)).mp soon
    (OrderedScalar.le_trans before started)

/-- Once a command has started, the search from the end finds the last one that has. -/
theorem find?_reverse_sorted {p : Command R V × Nat} (here : p ∈ track.zipIdx)
    (started : p.1.startTime ≤ time) :
    ∃ q, ((sorted track).reverse.find? fun c => decide (c.startTime ≤ time)) = some q.1 ∧
      q ∈ track.zipIdx ∧ q.1.startTime ≤ time ∧
      ∀ r ∈ track.zipIdx, r.1.startTime ≤ time → NoLater r q := by
  obtain ⟨q, found, there, begun, last⟩ := find?_reverse_of_pairwise noLater_refl
    (pairwise_placed track) (p := fun p : Command R V × Nat => decide (p.1.startTime ≤ time))
    (mem_placed.mpr here) (decide_eq_true started)
  refine ⟨q, ?_, mem_placed.mp there, of_decide_eq_true begun, fun r member early =>
    last r (mem_placed.mpr member) (decide_eq_true early)⟩
  rw [← map_fst_placed, ← List.map_reverse, List.find?_map]
  exact congrArg (Option.map Prod.fst) found

variable [Transcendental R] [Blend R V]

/-- The value of a track is the sampled one. -/
theorem sampled_valueAt? (real : ∀ c ∈ track, Scalar.isNaN c.startTime = false)
    (number : Scalar.isNaN time = false) : Sampled track time (valueAt? track time) := by
  have order := map_fst_placed track
  cases places : placed track with
  | nil =>
    have nothing : track = [] := by
      rw [← List.length_eq_zero_iff, ← length_sorted, ← order, places]
      rfl
    rw [valueAt?, ← order, places]
    exact .blank nothing
  | cons first rest =>
    have here : first ∈ track.zipIdx := mem_placed.mp (places ▸ List.mem_cons_self ..)
    rw [places, List.map_cons] at order
    rw [valueAt?_of_sorted order.symm]
    split
    · next soon =>
      exact .waiting here (noLater_first places) (not_started_of_lt_first places real number soon)
    · next late =>
      have started : first.1.startTime ≤ time :=
        (Scalar.not_lt_iff number (real _ (List.fst_mem_of_mem_zipIdx here))).mp late
      obtain ⟨q, found, there, begun, last⟩ := find?_reverse_sorted here started
      rw [order, found]
      exact .running there begun last

/-- There is only one value that a track can have at a time. -/
theorem Sampled.unique {v w : Option V} (sampled : Sampled track time v)
    (sampled' : Sampled track time w) : v = w := by
  cases sampled with
  | blank nothing =>
    subst nothing
    cases sampled' with
    | blank => rfl
    | waiting member | running member => exact absurd member List.not_mem_nil
  | waiting member least early =>
    cases sampled' with
    | blank nothing => exact absurd (nothing ▸ member) List.not_mem_nil
    | waiting member' least' =>
      rw [(least _ member').antisymm (least' _ member) member member']
    | running member' started => exact absurd started (early _ (List.fst_mem_of_mem_zipIdx member'))
  | running member started last =>
    cases sampled' with
    | blank nothing => exact absurd (nothing ▸ member) List.not_mem_nil
    | waiting _ _ early => exact absurd started (early _ (List.fst_mem_of_mem_zipIdx member))
    | running member' started' last' =>
      rw [(last' _ member started).antisymm (last _ member' started') member member']

theorem valueAt?_eq_iff (real : ∀ c ∈ track, Scalar.isNaN c.startTime = false)
    (number : Scalar.isNaN time = false) (v : Option V) :
    valueAt? track time = v ↔ Sampled track time v :=
  ⟨fun found => found ▸ sampled_valueAt? real number,
    fun sampled => (sampled_valueAt? real number).unique sampled⟩

end Sampling

/-- Commands with windows of their own are sorted the same in whatever order they are given. -/
theorem sorted_eq_of_perm {track track' : Track R V} (perm : track'.Perm track)
    (distinct : (track.map Command.window).Nodup) : sorted track' = sorted track := by
  refine ((mergeSort_eq_iff_perm (fun c d e => Scalar.windowLE_trans c.window d.window e.window)
    (fun c d => Scalar.windowLE_total c.window d.window) fun c here d there first second => ?_).mpr
    perm.symm).symm
  have windows := Scalar.windowLE_antisymm first second
  exact List.inj_on_of_nodup_map distinct here there windows

/-- At a time a track gives what the last command says that has started, by start, end and place,
or the first start value while none has started; and commands with windows of their own can be given
in any order. -/
theorem valueAt?_by_windows [Transcendental R] [Blend R V] (track : Track R V) :
    ((∀ c ∈ track, Scalar.isNaN c.startTime = false) → ∀ time, Scalar.isNaN time = false →
      ∀ v, valueAt? track time = v ↔ Sampled track time v) ∧
    ((track.map Command.window).Nodup → ∀ track' : Track R V, track'.Perm track →
      sorted track' = sorted track ∧ ∀ time, valueAt? track' time = valueAt? track time) := by
  refine ⟨fun real time number v => valueAt?_eq_iff real number v, fun distinct track' perm => ?_⟩
  have order := sorted_eq_of_perm perm distinct
  exact ⟨order, fun time => by rw [valueAt?, valueAt?, order]⟩

/-- The two zeros are one number as a time and two as starts. -/
theorem valueAt?_by_windows_zeros :
    let zero : Double := ⟨0⟩
    let negativeZero : Double := ⟨0x8000000000000000⟩
    let infinity : Double := ⟨0x7FF0000000000000⟩
    let track : Track Double Bool :=
      [⟨.linear, zero, infinity, true, false⟩, ⟨.linear, negativeZero, infinity, false, true⟩,
        ⟨.linear, negativeZero, zero, false, false⟩]
    (∀ c ∈ track, Scalar.isNaN c.startTime = false) ∧ Scalar.isNaN negativeZero = false ∧
      (track.map Command.window).Nodup ∧ (track.reverse : Track Double Bool).Perm track ∧
      (∀ v, valueAt? track negativeZero = v ↔ Sampled track negativeZero v) ∧
      valueAt? track negativeZero = some true ∧
      sorted track.reverse = sorted track ∧
      ∀ time, valueAt? track.reverse time = valueAt? track time := by
  intro zero negativeZero infinity track
  have real : ∀ c ∈ track, Scalar.isNaN c.startTime = false := by decide
  have distinct : (track.map Command.window).Nodup := by decide
  have perm : (track.reverse : Track Double Bool).Perm track := List.reverse_perm track
  obtain ⟨sampled, order⟩ := valueAt?_by_windows track
  have value (v : Option Bool) : valueAt? track negativeZero = v ↔ Sampled track negativeZero v :=
    sampled real negativeZero (by decide) v
  -- All three have started, and the start that sorting places last is the positive zero.
  let latest : Command Double Bool := ⟨.linear, zero, infinity, true, false⟩
  have last : Sampled track negativeZero (some (latest.valueAt negativeZero)) :=
    .running (p := (latest, 0)) (by decide) (by decide) (by decide)
  have shown : latest.valueAt negativeZero = true := by decide
  rw [shown] at last
  exact ⟨real, by decide, distinct, perm, value, (value _).mpr last, order distinct _ perm⟩

end Track

end Storyboard
