import Storyboard.Asset.Digest
import Storyboard.Asset.Render
import Storyboard.Proofs.Disk.Path
import Storyboard.Proofs.Text

/-! # Asset paths stay below the root

An asset path is normalized to the parts that lead on, joined by slashes. As no part of it climbs,
it leads below any root, and as its parts can be read off it, assets of different paths lead to
different places.
-/

namespace Storyboard

namespace AssetPath

/-! ## Parts -/

def slashed (text : String) : String := text.map fun c => if c = '\\' then '/' else c

/-- What stands between slashes of either kind. -/
def parts (text : String) : List String := FilePath.names (slashed text)

def kept (text : String) : List String := (parts text).filter fun part => part ≠ "" ∧ part ≠ "."

/-- The text is relative, climbs nowhere and leads somewhere. -/
structure IsConfined (text : String) : Prop where
  relative : (slashed text).toList.head? ≠ some '/'
  forward : ".." ∉ parts text
  leads : ∃ part ∈ parts text, part ≠ "" ∧ part ≠ "."

/-! ## What is accepted -/

theorem splitSlashes_eq_splitOn (text : List Char) : splitSlashes text = text.splitOn '/' := by
  induction text with
  | nil => rfl
  | cons c rest ih =>
    rw [splitSlashes, List.splitOn_cons_eq_if_modifyHead, ih]
    by_cases slash : c = '/'
    · simp [slash]
    · cases parts : rest.splitOn '/' with
      | nil => exact absurd parts (List.splitOn_ne_nil _ _)
      | cons first more => simp [slash]

theorem parts_eq (text : String) :
    parts text = (splitSlashes (withSlashes text.toList)).map String.ofList := by
  rw [splitSlashes_eq_splitOn, parts, FilePath.names, slashed, String.toList_map]
  rfl

theorem ofList_eq_iff (part : List Char) (text : String) :
    String.ofList part = text ↔ part = text.toList := by
  rw [← String.toList_inj, String.toList_ofList]

theorem kept_eq (text : String) : kept text = (segments text.toList).map String.ofList := by
  rw [kept, parts_eq, segments, List.filter_map]
  congr 1
  refine List.filter_congr fun part _ => ?_
  simp [isIdle, ofList_eq_iff]

theorem parent_mem_parts_iff (text : String) :
    ".." ∈ parts text ↔ (segments text.toList).any isParent = true := by
  simp [parts_eq, segments, isIdle, isParent, ofList_eq_iff]

theorem kept_ne_nil_iff (text : String) :
    kept text ≠ [] ↔ ∃ part ∈ parts text, part ≠ "" ∧ part ≠ "." := by
  simp [kept, List.filter_eq_nil_iff]

theorem isConfined_iff (text : String) :
    IsConfined text ↔ (withSlashes text.toList).head? ≠ some '/' ∧
      ¬ (segments text.toList).any isParent = true ∧ segments text.toList ≠ [] := by
  have start : (slashed text).toList = withSlashes text.toList := String.toList_map
  have nonempty : segments text.toList ≠ [] ↔ kept text ≠ [] := by simp [kept_eq]
  rw [← start, ← parent_mem_parts_iff, nonempty, kept_ne_nil_iff]
  exact ⟨fun ⟨relative, forward, leads⟩ => ⟨relative, forward, leads⟩,
    fun ⟨relative, forward, leads⟩ => ⟨relative, forward, leads⟩⟩

/-- A path of characters has a normal form exactly if it is relative, does not climb and leads on.
-/
theorem normalizeChars_eq_ok_iff {text path : List Char} :
    normalizeChars text = .ok path ↔ ((withSlashes text).head? ≠ some '/' ∧
      ¬ (segments text).any isParent = true ∧ segments text ≠ []) ∧
      path = joinSlashes (segments text) := by
  have blank : text = [] → segments text = [] := by
    rintro rfl
    rfl
  unfold normalizeChars
  split_ifs with absolute empty up nothing
  · simp [absolute]
  · simp [blank empty]
  · simp [up]
  · simp [nothing]
  · exact ⟨fun same => ⟨⟨absolute, up, nothing⟩, (Except.ok.inj same).symm⟩,
      fun same => same.2 ▸ rfl⟩

/-- The normal form of a path is the join of the parts that lead on. -/
theorem normalize_eq_ok_iff {text path : String} :
    normalize text = .ok path ↔ IsConfined text ∧ path = "/".intercalate (kept text) := by
  have joined : (joinSlashes (segments text.toList)) = ("/".intercalate (kept text)).toList := by
    rw [String.toList_intercalate, kept_eq]
    simp [joinSlashes]
  have chars : normalize text = .ok path ↔ normalizeChars text.toList = .ok path.toList := by
    unfold normalize
    cases normalizeChars text.toList with
    | error e => simp
    | ok result => simp [ofList_eq_iff]
  rw [chars, normalizeChars_eq_ok_iff, isConfined_iff, joined, String.toList_inj]

/-! ## Normal forms -/

/-- A part that leads on and does not climb. -/
def IsForward (part : String) : Prop := part ≠ "" ∧ part ≠ "." ∧ part ≠ ".."

theorem IsConfined.isForward {text : String} (confined : IsConfined text) :
    ∀ part ∈ kept text, IsForward part := by
  intro part member
  obtain ⟨among, named, moves⟩ : part ∈ parts text ∧ part ≠ "" ∧ part ≠ "." := by
    simpa [kept] using member
  exact ⟨named, moves, fun up => confined.forward (up ▸ among)⟩

theorem IsConfined.kept_ne_nil {text : String} (confined : IsConfined text) : kept text ≠ [] :=
  (kept_ne_nil_iff text).mpr confined.leads

theorem backslash_notMem_slashed (text : String) : '\\' ∉ (slashed text).toList := by
  rw [slashed, String.toList_map, List.mem_map]
  rintro ⟨c, _, changed⟩
  split_ifs at changed with backslash
  · exact absurd changed (by decide)
  · exact backslash changed

theorem slashed_eq_self {text : String} (clean : '\\' ∉ text.toList) : slashed text = text := by
  apply String.toList_injective
  rw [slashed, String.toList_map]
  refine (List.map_congr_left fun c member => ?_).trans (List.map_id _)
  exact if_neg (ne_of_mem_of_not_mem member clean)

theorem backslash_notMem_join (text : String) : '\\' ∉ ("/".intercalate (kept text)).toList := by
  refine notMem_intercalate (by decide) fun part member inside => ?_
  exact backslash_notMem_slashed text
    (FilePath.mem_of_mem_names (List.mem_filter.mp member).1 inside).2

/-- The parts of a normal form are those that were kept. -/
theorem IsConfined.names_join {text : String} (confined : IsConfined text) :
    FilePath.names ("/".intercalate (kept text)) = kept text := by
  refine FilePath.names_intercalate (fun part member inside => ?_) confined.kept_ne_nil
  exact (FilePath.mem_of_mem_names (List.mem_filter.mp member).1 inside).1 rfl

theorem IsConfined.parts_join {text : String} (confined : IsConfined text) :
    parts ("/".intercalate (kept text)) = kept text := by
  rw [parts, slashed_eq_self (backslash_notMem_join text), confined.names_join]

theorem IsConfined.kept_join {text : String} (confined : IsConfined text) :
    kept ("/".intercalate (kept text)) = kept text := by
  rw [kept, confined.parts_join]
  refine List.filter_eq_self.mpr fun part member => ?_
  obtain ⟨named, moves, _⟩ := confined.isForward part member
  simp [named, moves]

/-- What makes a text an asset path still holds of its normal form. -/
theorem IsConfined.join {text : String} (confined : IsConfined text) :
    IsConfined ("/".intercalate (kept text)) where
  relative absolute := by
    rw [slashed_eq_self (backslash_notMem_join text)] at absolute
    have blank := FilePath.nothing_mem_names absolute
    rw [confined.names_join] at blank
    exact (confined.isForward _ blank).1 rfl
  forward climbs := by
    rw [confined.parts_join] at climbs
    exact (confined.isForward _ climbs).2.2 rfl
  leads := by
    rw [← kept_ne_nil_iff, confined.kept_join]
    exact confined.kept_ne_nil

theorem normalize_normal {text path : String} (normal : normalize text = .ok path) :
    normalize path = .ok path := by
  obtain ⟨confined, rfl⟩ := normalize_eq_ok_iff.mp normal
  refine normalize_eq_ok_iff.mpr ⟨confined.join, ?_⟩
  rw [confined.kept_join]

theorem normal_eq_iff {first second path path' : String} (normal : normalize first = .ok path)
    (normal' : normalize second = .ok path') : path = path' ↔ kept first = kept second := by
  obtain ⟨confined, rfl⟩ := normalize_eq_ok_iff.mp normal
  obtain ⟨confined', rfl⟩ := normalize_eq_ok_iff.mp normal'
  refine ⟨fun same => ?_, fun same => congrArg _ same⟩
  rw [← confined.names_join, same, confined'.names_join]

/-! ## Destinations -/

/-- A path leads on from where the root does, along the parts that are kept. -/
theorem lead_destination {root text target : String}
    (leads : Asset.destination root text = .ok target) (place : List String) :
    FilePath.lead place (FilePath.names target) =
      FilePath.lead place (FilePath.names root) ++ kept text := by
  unfold Asset.destination at leads
  cases normal : normalize text with
  | error e =>
    rw [normal] at leads
    cases leads
  | ok path =>
    rw [normal] at leads
    cases leads
    obtain ⟨confined, rfl⟩ := normalize_eq_ok_iff.mp normal
    rw [FilePath.lead_join, confined.names_join, FilePath.lead_forward confined.isForward]

theorem destination_eq_ok_iff {root text target : String} :
    Asset.destination root text = .ok target ↔
      ∃ path, normalize text = .ok path ∧ target = FilePath.join root path := by
  unfold Asset.destination
  cases normalize text with
  | error e => simp [bind, Except.bind]
  | ok path => simp [bind, Except.bind, pure, Except.pure, eq_comm]

/-- A new asset stands at the normal form of its path. -/
theorem normalize_of_new [SeededDigest] {text : String} {source : AssetSource} {asset : Asset}
    (made : Asset.new text source = .ok asset) : normalize text = .ok asset.path := by
  unfold Asset.new at made
  cases normal : normalize text with
  | error e =>
    rw [normal] at made
    cases made
  | ok path =>
    rw [normal] at made
    cases made
    rfl

/-- A text is an asset path exactly if, with slashes only, it is relative, has no part that climbs
and has a part that leads on. Its normal form is the join of the parts that lead on and consists of
them alone, so it is its own normal form, and it is that of another text exactly if the other text
has the same such parts. A path leads below any root, from wherever the root is looked up, and two
assets lead to the same place exactly if they have the same path. -/
theorem normalize_confines [SeededDigest] :
    (∀ text : String, (∃ path, normalize text = .ok path) ↔
      (slashed text).toList.head? ≠ some '/' ∧ ".." ∉ parts text ∧
        ∃ part ∈ parts text, part ≠ "" ∧ part ≠ ".") ∧
    (∀ text path : String, normalize text = .ok path →
      path = "/".intercalate ((parts text).filter fun part => part ≠ "" ∧ part ≠ ".") ∧
        '\\' ∉ path.toList ∧ (∀ part ∈ FilePath.names path, part ≠ "" ∧ part ≠ "." ∧ part ≠ "..") ∧
        normalize path = .ok path) ∧
    (∀ first second path path' : String, normalize first = .ok path →
      normalize second = .ok path' → (path = path' ↔ kept first = kept second)) ∧
    (∀ root text target : String, Asset.destination root text = .ok target →
      kept text ≠ [] ∧ ∀ place, FilePath.lead place (FilePath.names target) =
        FilePath.lead place (FilePath.names root) ++ kept text) ∧
    ∀ (root first second : String) (source source' : AssetSource) (asset asset' : Asset),
      Asset.new first source = .ok asset → Asset.new second source' = .ok asset' →
      ∃ target target', Asset.destination root asset.path = .ok target ∧
        Asset.destination root asset'.path = .ok target' ∧
        ∀ place, FilePath.lead place (FilePath.names target) =
          FilePath.lead place (FilePath.names target') ↔ asset.path = asset'.path := by
  refine ⟨fun text => ?_, fun text path normal => ?_, fun first second path path' normal normal' =>
    normal_eq_iff normal normal', fun root text target leads => ?_, ?_⟩
  · constructor
    · rintro ⟨path, normal⟩
      obtain ⟨⟨relative, forward, leads⟩, _⟩ := normalize_eq_ok_iff.mp normal
      exact ⟨relative, forward, leads⟩
    · rintro ⟨relative, forward, leads⟩
      exact ⟨_, normalize_eq_ok_iff.mpr ⟨⟨relative, forward, leads⟩, rfl⟩⟩
  · obtain ⟨confined, rfl⟩ := normalize_eq_ok_iff.mp normal
    refine ⟨rfl, backslash_notMem_join text, ?_, normalize_normal normal⟩
    rw [confined.names_join]
    exact confined.isForward
  · obtain ⟨path, normal, _⟩ := destination_eq_ok_iff.mp leads
    exact ⟨(normalize_eq_ok_iff.mp normal).1.kept_ne_nil, lead_destination leads⟩
  · intro root first second source source' asset asset' made made'
    have normal := normalize_normal (normalize_of_new made)
    have normal' := normalize_normal (normalize_of_new made')
    have leads : Asset.destination root asset.path = .ok (FilePath.join root asset.path) :=
      destination_eq_ok_iff.mpr ⟨_, normal, rfl⟩
    have leads' : Asset.destination root asset'.path = .ok (FilePath.join root asset'.path) :=
      destination_eq_ok_iff.mpr ⟨_, normal', rfl⟩
    refine ⟨_, _, leads, leads', fun place => ?_⟩
    rw [lead_destination leads, lead_destination leads', List.append_cancel_left_eq]
    exact (normal_eq_iff normal normal').symm

/-- Two spellings of one path, with a part that only looks like one that climbs, and a root that
climbs itself. -/
theorem normalize_confines_spellings :
    let first := "sb\\./up..//a.png"
    let second := "./sb/up../a.png/"
    let path := "sb/up../a.png"
    let root := "../out/"
    let source : AssetSource := .solid 1 1 .white
    let asset : Asset := ⟨path, source, source.key.contentHash⟩
    normalize first = .ok path ∧ normalize second = .ok path ∧ normalize path = .ok path ∧
      kept first = kept second ∧
      Asset.destination root first = .ok "../out/sb/up../a.png" ∧
      (∀ place, FilePath.lead place (FilePath.names "../out/sb/up../a.png") =
        FilePath.lead place (FilePath.names root) ++ ["sb", "up..", "a.png"]) ∧
      FilePath.lead ["home", "user"] (FilePath.names root) = ["home", "out"] ∧
      Asset.new first source = .ok asset ∧ Asset.new second source = .ok asset ∧
      ∃ target target', Asset.destination root path = .ok target ∧
        Asset.destination root path = .ok target' ∧
        ∀ place, FilePath.lead place (FilePath.names target) =
          FilePath.lead place (FilePath.names target') ↔ path = path := by
  intro first second path root source asset
  have normal : normalize first = .ok path := by decide
  have normal' : normalize second = .ok path := by decide
  have leads : Asset.destination root first = .ok "../out/sb/up../a.png" := by decide
  have parts : kept first = ["sb", "up..", "a.png"] := by
    rw [kept_eq]
    decide
  have made : Asset.new first source = .ok asset := by
    unfold Asset.new
    rw [normal]
    rfl
  have made' : Asset.new second source = .ok asset := by
    unfold Asset.new
    rw [normal']
    rfl
  obtain ⟨_, normalized, spelled, below, apart⟩ := normalize_confines
  refine ⟨normal, normal', (normalized first path normal).2.2.2,
    (spelled first second path path normal normal').mp rfl, leads, ?_, by decide, made, made',
    apart root first second source source asset asset made made'⟩
  rw [← parts]
  exact (below root first _ leads).2

end AssetPath

end Storyboard
