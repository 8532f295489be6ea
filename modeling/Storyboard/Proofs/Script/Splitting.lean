import Storyboard.Asset.Digest
import Storyboard.Number.Double
import Storyboard.Proofs.Script.Declaring

/-! # Declared scripts in two parts

Merging is associative, so two scripts that declare the parts of a third one give the same names and
the same elements in the same order. The settings are the same, and those of the first declarations,
exactly if no declaration after the first one of a name could change them.
-/

namespace Storyboard

variable {R : Type}

namespace Group

/-! ## Merging is associative -/

/-- Merging the elements of a name in two parts is merging them at once. -/
theorem merge_extend (merged : List (Group R)) {g h : Group R} (same : g.name = h.name) :
    merge merged (g.extend h.elements) = merge (merge merged g) h := by
  induction merged with
  | nil => exact (if_pos same).symm
  | cons first rest ih =>
    have name : (g.extend h.elements).name = g.name := rfl
    rw [merge, merge, name]
    by_cases known : first.name = g.name
    · have known' : (first.extend g.elements).name = h.name := known.trans same
      rw [if_pos known, if_pos known, merge, if_pos known']
      simp [extend]
    · have other : ¬ first.name = h.name := fun equal => known (equal.trans same.symm)
      rw [if_neg known, if_neg known, merge, if_neg other, ih]

/-- Groups of different names can be merged in any order once one of the names has come up. -/
theorem merge_comm_of_ne {merged : List (Group R)} {g h : Group R} (other : g.name ≠ h.name)
    (known : h.name ∈ names merged) :
    merge (merge merged g) h = merge (merge merged h) g := by
  induction merged with
  | nil => cases known
  | cons first rest ih =>
    by_cases here : first.name = h.name
    · simp [merge, here, extend, Ne.symm other]
    · have later : h.name ∈ names rest :=
        (List.mem_cons.mp known).resolve_left fun equal => here equal.symm
      by_cases there : first.name = g.name
      · simp [merge, there, extend, other]
      · simp [merge, here, there, ih later]

/-- A group whose name is known can be merged before others of other names. -/
theorem merge_mergeAll_of_mem {merged given : List (Group R)} {h : Group R}
    (known : h.name ∈ names merged) (others : h.name ∉ names given) :
    merge (mergeAll merged given) h = mergeAll (merge merged h) given := by
  induction given generalizing merged with
  | nil => rfl
  | cons g rest ih =>
    obtain ⟨other, others⟩ := not_or.mp fun member => others (List.mem_cons.mpr member)
    have kept : h.name ∈ names (merge merged g) := by
      rw [names_merge]
      split_ifs
      · exact known
      · exact List.mem_append_left _ known
    change merge (mergeAll (merge merged g) rest) h = mergeAll (merge (merge merged h) g) rest
    rw [ih kept others, merge_comm_of_ne (Ne.symm other) known]

/-- A merge into what comes later can be made after it instead. -/
theorem mergeAll_merge {given : List (Group R)} (distinct : (names given).Nodup)
    (merged : List (Group R)) (h : Group R) :
    mergeAll merged (merge given h) = merge (mergeAll merged given) h := by
  induction given generalizing merged with
  | nil => rfl
  | cons g rest ih =>
    obtain ⟨fresh, distinct⟩ := List.nodup_cons.mp distinct
    rw [merge]
    split_ifs with same
    · have known : h.name ∈ names (merge merged g) := by
        rw [← same, names_merge]
        split_ifs with known
        · exact known
        · exact List.mem_append_right _ (List.mem_singleton_self _)
      change mergeAll (merge merged (g.extend h.elements)) rest =
        merge (mergeAll (merge merged g) rest) h
      rw [merge_extend merged same, merge_mergeAll_of_mem known (same ▸ fresh)]
    · exact ih distinct (merge merged g)

theorem mergeAll_append (merged given later : List (Group R)) :
    mergeAll merged (given ++ later) = mergeAll (mergeAll merged given) later :=
  List.foldl_append

/-- Groups may be merged among themselves first. -/
theorem mergeAll_mergeAll (merged given : List (Group R)) :
    mergeAll merged (mergeAll [] given) = mergeAll merged given := by
  induction given using List.reverseRecOn with
  | nil => rfl
  | append_singleton earlier last ih =>
    rw [mergeAll_append, mergeAll_append]
    change mergeAll merged (merge (mergeAll [] earlier) last) = merge (mergeAll merged earlier) last
    rw [mergeAll_merge (merged_mergeAll earlier).distinct, ih]

theorem bare_merge (merged : List (Group R)) (h : Group R) :
    (merge merged h).map bare = merge (merged.map bare) h.bare := by
  induction merged with
  | nil => rfl
  | cons g rest ih =>
    rw [merge, List.map_cons, merge, apply_ite (List.map bare), List.map_cons, List.map_cons, ih]
    rfl

theorem bare_mergeAll (merged given : List (Group R)) :
    (mergeAll merged given).map bare = mergeAll (merged.map bare) (given.map bare) := by
  induction given generalizing merged with
  | nil => rfl
  | cons g rest ih => exact (ih (merge merged g)).trans (by rw [bare_merge]; rfl)

/-! ## The parts of a declared script -/

variable {given later : List (Group R)}

/-- What two parts come to when they are declared by scripts of their own. -/
def declareApart (given later : List (Group R)) : List (Group R) :=
  mergeAll (mergeAll [] (declareAll given)) (declareAll later)

theorem bare_declareApart :
    (declareApart given later).map bare = (declareAll (given ++ later)).map bare := by
  rw [declareApart, bare_mergeAll, bare_mergeAll, bare_declareAll, bare_declareAll,
    bare_declareAll, List.map_append, mergeAll_append]
  exact (mergeAll_mergeAll _ _).trans (congrArg (mergeAll · _) (mergeAll_mergeAll [] _))

theorem names_declareApart :
    names (declareApart given later) = names (declareAll (given ++ later)) := by
  rw [← names_map_bare, bare_declareApart, names_map_bare]

/-! ### Who decides the settings -/

/-- The settings of the declaration of a name that decides. -/
def decided? (given : List (Group R)) (name : String) : Option (Option String × Bool) :=
  (deciding? given name).map settings

/-- The settings of the first declaration of a name. -/
def declaredFirst? (given : List (Group R)) (name : String) : Option (Option String × Bool) :=
  (given.find? fun g => g.name = name).map settings

/-- Every group has the settings that its name is said to have. -/
def SetBy (decided : String → Option (Option String × Bool)) (groups : List (Group R)) : Prop :=
  ∀ g ∈ groups, decided g.name = some g.settings

/-- Of every name, the declaration that decides has the settings of the first one. -/
def Steady (given : List (Group R)) : Prop :=
  ∀ name ∈ names given, decided? given name = declaredFirst? given name

section SetBy

variable {decided decided' : String → Option (Option String × Bool)}
  {groups groups' : List (Group R)}

/-- Groups with known settings are known by what they hold. -/
theorem SetBy.eq_of_bare_eq (first : SetBy decided groups) (second : SetBy decided groups')
    (same : groups.map bare = groups'.map bare) : groups = groups' := by
  induction groups generalizing groups' with
  | nil => exact (List.map_eq_nil_iff.mp same.symm).symm
  | cons g rest ih =>
    obtain ⟨h, rest', rfl, held, same⟩ := List.map_eq_cons_iff.mp same.symm
    obtain ⟨settings, first⟩ := List.forall_mem_cons.mp first
    obtain ⟨settings', second⟩ := List.forall_mem_cons.mp second
    have name : h.name = g.name := (congrArg Group.name held : h.bare.name = g.bare.name)
    have elements : h.elements = g.elements :=
      (congrArg Group.elements held : h.bare.elements = g.bare.elements)
    rw [name, settings] at settings'
    obtain ⟨target, visible⟩ := Prod.mk.inj (Option.some.inj settings')
    rw [ih first second same.symm]
    cases g
    cases h
    simp_all

/-- Settings that are known otherwise are the same for all names that are there. -/
theorem SetBy.iff (known : SetBy decided groups) :
    SetBy decided' groups ↔ ∀ name ∈ names groups, decided name = decided' name := by
  constructor
  · intro other name member
    obtain ⟨g, there, rfl⟩ := List.mem_map.mp member
    rw [known g there, other g there]
  · intro same g there
    rw [← same g.name (List.mem_map_of_mem there), known g there]

end SetBy

theorem setBy_declareAll : SetBy (decided? given) (declareAll given) :=
  fun _ member => settings_of_mem_declareAll member

theorem decided?_append_of_notMem {name : String} (absent : name ∉ names given) :
    decided? (given ++ later) name = decided? later name := by
  rw [decided?, decided?, deciding?, deciding?, declarations_append,
    (declarations_eq_nil_iff given name).mpr absent, List.nil_append]

theorem declaredFirst?_append_of_mem {name : String} (there : name ∈ names given) :
    declaredFirst? (given ++ later) name = declaredFirst? given name := by
  obtain ⟨g, member, named⟩ := List.mem_map.mp there
  have found : (given.find? fun g => g.name = name).isSome :=
    List.find?_isSome.mpr ⟨g, member, decide_eq_true named⟩
  rw [declaredFirst?, declaredFirst?, List.find?_append, Option.or_of_isSome found]

/-- In two parts, the part that declares a name first decides its settings on its own. -/
theorem setBy_declareApart :
    SetBy (fun name => decided? (if name ∈ names given then given else given ++ later) name)
      (declareApart given later) := by
  intro g member
  rw [declareApart, ← mergeAll_append] at member
  obtain ⟨first, found, target, visible⟩ := (merged_mergeAll _).settings g member
  have name : first.name = g.name := by simpa using List.find?_some found
  have set : g.settings = first.settings := Prod.ext target visible
  rw [List.find?_append] at found
  simp only [set, ← name]
  rcases Option.or_eq_some_iff.mp found with here | ⟨absent, here⟩
  · have there := List.mem_of_find?_eq_some here
    rw [if_pos ((mem_names_declareAll given _).mp (List.mem_map_of_mem there))]
    exact setBy_declareAll first there
  · have missing : first.name ∉ names given := fun known => by
      obtain ⟨h, there, same⟩ := List.mem_map.mp ((mem_names_declareAll given _).mpr known)
      exact List.find?_eq_none.mp absent h there (decide_eq_true (same.trans name))
    rw [if_neg missing, decided?_append_of_notMem missing]
    exact setBy_declareAll first (List.mem_of_find?_eq_some here)

theorem setBy_first_declareAll_iff :
    SetBy (declaredFirst? given) (declareAll given) ↔ Steady given := by
  rw [setBy_declareAll.iff]
  exact forall_congr' fun name => by rw [mem_names_declareAll]

/-- Declared apart, the first declarations decide exactly if none in the first part changes
settings. -/
theorem setBy_first_declareApart_iff (whole : Steady (given ++ later)) :
    SetBy (declaredFirst? (given ++ later)) (declareApart given later) ↔ Steady given := by
  rw [setBy_declareApart.iff]
  constructor
  · intro same name there
    have known : name ∈ names (declareApart given later) := by
      rw [names_declareApart, mem_names_declareAll, names, List.map_append]
      exact List.mem_append_left _ there
    have decided := same name known
    rwa [if_pos there, declaredFirst?_append_of_mem there] at decided
  · intro steady name known
    rw [names_declareApart, mem_names_declareAll] at known
    split_ifs with there
    · rw [steady name there, declaredFirst?_append_of_mem there]
    · exact whole name known

/-- Two parts come to what they come to together exactly if the first part, on its own, decides its
names in the same way. -/
theorem declareApart_eq_declareAll_iff :
    declareApart given later = declareAll (given ++ later) ↔
      ∀ name ∈ names given, decided? given name = decided? (given ++ later) name := by
  constructor
  · intro same name there
    have both : SetBy (decided? (given ++ later)) (declareApart given later) :=
      same ▸ setBy_declareAll
    have known : name ∈ names (declareApart given later) := by
      rw [names_declareApart, mem_names_declareAll, names, List.map_append]
      exact List.mem_append_left _ there
    have decided := setBy_declareApart.iff.mp both name known
    rwa [if_pos there] at decided
  · intro same
    refine (setBy_declareApart.iff.mpr fun name _ => ?_).eq_of_bare_eq setBy_declareAll
      bare_declareApart
    split_ifs with there
    · exact same name there
    · rfl

end Group

namespace DeclaredScript

open Storyboard.Group

/-- The script that declares what two scripts declare in turn, under the name of the first one. -/
def append (script later : DeclaredScript R) : DeclaredScript R :=
  { script with groups := script.groups ++ later.groups, assets := script.assets ++ later.assets }

/-- Two declared scripts with valid paths, and the script that declares both, end well. The two give
the same assets as the one, and groups of the same names and elements in the same order. The groups
are the same exactly if the first script decides its settings like both together; and besides, they
have the settings of the first declarations in both cases, exactly if in the first script and in
both together every name is decided like in its first declaration. -/
theorem run_append_toScript [SeededDigest] {m : Type → Type} [Monad m] [LawfulMonad m]
    (script later : DeclaredScript R)
    (valid : ∀ request ∈ script.assets ++ later.assets, request.IsValid) :
    ∃ (first second whole : List (Group R)) (assets assets' : List Asset),
      (script.toScript (pure false)).run = (pure (.done first assets) : m _) ∧
      (later.toScript (pure false)).run = (pure (.done second assets') : m _) ∧
      ((script.append later).toScript (pure false)).run =
        (pure (.done whole (assets ++ assets')) : m _) ∧
      let harvest := Harvest.ofRuns
        [(script.name, .done first assets), (later.name, .done second assets')]
      let given := script.groups ++ later.groups
      harvest.assets = assets ++ assets' ∧
      harvest.groups.map contents = whole.map contents ∧
      (harvest.groups = whole ↔
        ∀ name ∈ names script.groups, decided? script.groups name = decided? given name) ∧
      (harvest.groups = whole ∧ SetBy (declaredFirst? given) harvest.groups ∧
          SetBy (declaredFirst? given) whole ↔
        Steady script.groups ∧ Steady given) := by
  obtain ⟨valid, valid'⟩ := List.forall_mem_append.mp valid
  obtain ⟨assets, makes⟩ := AssetRequest.exists_makes valid
  obtain ⟨assets', makes'⟩ := AssetRequest.exists_makes valid'
  have both : AssetRequest.Makes (script.append later).assets (assets ++ assets') :=
    List.rel_append makes makes'
  refine ⟨_, _, _, assets, assets', run_toScript makes, run_toScript makes', run_toScript both,
    rfl, ?_, declareApart_eq_declareAll_iff, ?_⟩
  · have held : contents (R := R) ∘ bare = contents := rfl
    have bared : (declareApart script.groups later.groups).map bare =
        (declareAll (script.groups ++ later.groups)).map bare := bare_declareApart
    have same := congrArg (List.map contents) bared
    rwa [List.map_map, List.map_map, held] at same
  · constructor
    · rintro ⟨-, apart, together⟩
      have steady := setBy_first_declareAll_iff.mp together
      exact ⟨(setBy_first_declareApart_iff steady).mp apart, steady⟩
    · rintro ⟨first, steady⟩
      have apart := (setBy_first_declareApart_iff steady).mpr first
      have together := setBy_first_declareAll_iff.mpr steady
      exact ⟨apart.eq_of_bare_eq together bare_declareApart, apart, together⟩

/-- A hidden group that both scripts go on with, and a group that only the second one declares. -/
theorem run_append_toScript_hidden :
    let film : Element Double := .video ⟨"film.mp4", ⟨0⟩⟩
    let source : AssetSource := .solid 1 1 ⟨1, 2, 3, 4⟩
    let script : DeclaredScript Double :=
      ⟨"first", [⟨"back", some "wide", false, [film]⟩, { name := "back" }], [⟨"./a.png", source⟩]⟩
    let later : DeclaredScript Double :=
      ⟨"second", [{ name := "front" }, { name := "back", elements := [film] }], [⟨"b.png", source⟩]⟩
    (∀ request ∈ script.assets ++ later.assets, request.IsValid) ∧
      ∃ (first second whole : List (Group Double)) (assets assets' : List Asset),
        (script.toScript (pure false)).run = (pure (.done first assets) : Id _) ∧
        (later.toScript (pure false)).run = (pure (.done second assets') : Id _) ∧
        ((script.append later).toScript (pure false)).run =
          (pure (.done whole (assets ++ assets')) : Id _) ∧
        (Harvest.ofRuns
          [(script.name, .done first assets), (later.name, .done second assets')]).groups =
            whole := by
  intro film source script later
  have valid : ∀ request ∈ script.assets ++ later.assets, request.IsValid := by
    simp only [script, later, List.cons_append, List.nil_append, List.forall_mem_cons]
    exact ⟨⟨"a.png", by decide⟩, ⟨"b.png", by decide⟩, nofun⟩
  obtain ⟨first, second, whole, assets, assets', ran, ran', both, -, -, -, settled⟩ :=
    run_append_toScript (m := Id) script later valid
  have steady : Steady script.groups ∧ Steady (script.groups ++ later.groups) := by
    constructor <;> unfold Steady <;> decide
  exact ⟨valid, first, second, whole, assets, assets', ran, ran', both, (settled.mpr steady).1⟩

/-- A group that is declared twice without elements: one script for both declarations lets the
second one decide, two scripts let the first one. -/
theorem groups_ne_append_empty :
    let script : DeclaredScript Double := ⟨"first", [{ name := "back", target := some "a" }], []⟩
    let later : DeclaredScript Double := ⟨"second", [{ name := "back", target := some "b" }], []⟩
    let run (script : DeclaredScript Double) : ScriptRun Double :=
      (script.toScript (pure false : Id Bool)).run
    (Harvest.ofRuns [(script.name, run script), (later.name, run later)]).groups ≠
        (run (script.append later)).groups ∧
      ¬ SetBy (declaredFirst? (script.groups ++ later.groups))
        (run (script.append later)).groups := by
  intro script later run
  unfold SetBy
  decide

end DeclaredScript

end Storyboard
