import Mathlib.Data.List.Forall2
import Storyboard.Proofs.Generation.Harvest

/-! # What declarations come to

Declaring groups merges them by name, like the groups of different scripts, but for the settings:
those of a name are open until it has an element. So the first declaration with elements decides, or
the last one if none has any. Requests of assets are carried out in turn, up to a path that is
refused.
-/

namespace Storyboard

variable {R : Type}

namespace Group

/-- What is decided by settings: where a group is exported, and whether it is seen. -/
def settings (g : Group R) : Option String × Bool := (g.target, g.visible)

def contents (g : Group R) : String × List (Element R) := (g.name, g.elements)

/-- The group with the settings of a group that nobody has set up. -/
def bare (g : Group R) : Group R := { name := g.name, elements := g.elements }

def declarations (given : List (Group R)) (name : String) : List (Group R) :=
  given.filter fun g => g.name = name

/-- The declaration that decides the settings of a name: the first one with elements, or else the
last one. -/
def deciding? (given : List (Group R)) (name : String) : Option (Group R) :=
  ((declarations given name).find? fun g => !g.elements.isEmpty).or
    (declarations given name).getLast?

/-- A group after a declaration of its name. -/
def taking (declared g : Group R) : Group R :=
  (if g.elements.isEmpty then
    { g with target := declared.target, visible := declared.visible }
  else g).extend declared.elements

def declare (groups : List (Group R)) (declared : Group R) : List (Group R) :=
  (({ groups } : ScriptOutput R).declare declared).groups

def declareAll (given : List (Group R)) : List (Group R) := given.foldl declare []

end Group

/-! ## Running a declared script -/

/-- A request whose path is not refused. -/
def AssetRequest.IsValid (request : AssetRequest) : Prop :=
  ∃ path, AssetPath.normalize request.path = .ok path

/-- Some assets are what some requests ask for. -/
def AssetRequest.Makes [SeededDigest] (requests : List AssetRequest) (assets : List Asset) : Prop :=
  List.Forall₂ (fun request asset => Asset.new request.path request.source = .ok asset) requests
    assets

/-- Requests of paths that are not refused can all be carried out. -/
theorem AssetRequest.exists_makes [SeededDigest] {requests : List AssetRequest}
    (valid : ∀ request ∈ requests, request.IsValid) : ∃ assets, Makes requests assets := by
  induction requests with
  | nil => exact ⟨[], .nil⟩
  | cons request rest ih =>
    obtain ⟨⟨path, normal⟩, later⟩ := List.forall_mem_cons.mp valid
    obtain ⟨assets, makes⟩ := ih later
    refine ⟨⟨path, request.source, request.source.key.contentHash⟩ :: assets, .cons ?_ makes⟩
    rw [Asset.new, normal]
    rfl

/-- Requests that can be carried out append their assets in turn. -/
theorem ScriptOutput.requestAll_of_makes [SeededDigest] {requests : List AssetRequest}
    {assets : List Asset} (makes : AssetRequest.Makes requests assets) (out : ScriptOutput R) :
    out.requestAll requests = ({ out with assets := out.assets ++ assets }, none) := by
  induction makes generalizing out with
  | nil => simp [requestAll]
  | @cons request asset _ _ made _ ih =>
    have asked : out.requestAsset request.path request.source =
        .ok (asset.path, { out with assets := out.assets ++ [asset] }) := by
      rw [requestAsset, made]
      rfl
    simp [requestAll, asked, ih]

namespace DeclaredScript

variable {m : Type → Type} [Monad m] [LawfulMonad m]

theorem declareGroups_eq (given : List (Group R)) (out : ScriptOutput R) :
    declareGroups (pure false : m Bool) given out =
      pure { out with groups := given.foldl Group.declare out.groups } := by
  induction given generalizing out with
  | nil => rfl
  | cons g rest ih =>
    rw [declareGroups, pure_bind, if_neg Bool.false_ne_true, ih]
    rfl

/-- A declared script whose paths are all valid ends well, with its groups and its assets. -/
theorem run_toScript [SeededDigest] {script : DeclaredScript R} {assets : List Asset}
    (makes : AssetRequest.Makes script.assets assets) :
    (script.toScript (pure false : m Bool)).run =
      pure (.done (Group.declareAll script.groups) assets) := by
  have ran : (script.body (pure false : m Bool)).run.run {} =
      pure (.ok (), { groups := Group.declareAll script.groups, assets }) := by
    change (declareGroups (pure false : m Bool) script.groups {} >>= _) = _
    rw [declareGroups_eq, pure_bind, ScriptOutput.requestAll_of_makes makes]
    rfl
  change ((script.body (pure false : m Bool)).run.run {} >>= _) = _
  rw [ran, pure_bind]

end DeclaredScript

/-! ## Declared groups -/

namespace Group

theorem declare_eq_update (groups : List (Group R)) (declared : Group R) :
    declare groups declared = update declared.name (taking declared) groups := rfl

theorem name_taking (declared g : Group R) : (taking declared g).name = g.name := by
  rw [taking, extend]
  split_ifs <;> rfl

theorem elements_taking (declared g : Group R) :
    (taking declared g).elements = g.elements ++ declared.elements := by
  rw [taking, extend]
  split_ifs <;> rfl

theorem settings_taking (declared g : Group R) :
    (taking declared g).settings =
      if g.elements.isEmpty then declared.settings else g.settings := by
  rw [taking, extend]
  split_ifs <;> rfl

/-! ### Names and elements -/

theorem bare_taking (declared g : Group R) :
    (taking declared g).bare = g.bare.extend declared.bare.elements := by
  rw [bare, name_taking, elements_taking]
  rfl

/-- Settings apart, a declaration is a merge. -/
theorem bare_declare (groups : List (Group R)) (declared : Group R) :
    (declare groups declared).map bare = merge (groups.map bare) declared.bare := by
  rw [declare_eq_update]
  induction groups with
  | nil => exact congrArg (fun g => [g]) (bare_taking declared { name := declared.name })
  | cons g rest ih =>
    rw [update, List.map_cons, merge, apply_ite (List.map bare), List.map_cons, List.map_cons,
      bare_taking, ih]
    rfl

/-- But for the settings, declaring groups is merging them. -/
theorem bare_declareAll (given : List (Group R)) :
    (declareAll given).map bare = mergeAll [] (given.map bare) := by
  suffices step : ∀ groups : List (Group R),
      (given.foldl declare groups).map bare =
        mergeAll (groups.map bare) (given.map bare) from step []
  induction given with
  | nil => exact fun _ => rfl
  | cons g rest ih =>
    intro groups
    rw [List.foldl_cons, ih, bare_declare]
    rfl

theorem names_map_bare (groups : List (Group R)) : names (groups.map bare) = names groups :=
  List.map_map

theorem nodup_names_declareAll (given : List (Group R)) : (names (declareAll given)).Nodup := by
  rw [← names_map_bare, bare_declareAll]
  exact (merged_mergeAll _).distinct

theorem mem_names_foldl_declare (given groups : List (Group R)) (name : String) :
    name ∈ names (given.foldl declare groups) ↔ name ∈ names groups ∨ name ∈ names given := by
  induction given generalizing groups with
  | nil => simp [names]
  | cons g rest ih =>
    have next : name ∈ names (declare groups g) ↔ name ∈ names groups ∨ name = g.name := by
      rw [declare_eq_update, names_update _ _ _ (name_taking g)]
      split_ifs with known
      · exact ⟨.inl, fun either => either.elim id fun same => same ▸ known⟩
      · rw [List.mem_append, List.mem_singleton]
    rw [List.foldl_cons, ih, next, or_assoc, ← List.mem_cons]
    rfl

theorem mem_names_declareAll (given : List (Group R)) (name : String) :
    name ∈ names (declareAll given) ↔ name ∈ names given := by
  rw [declareAll, mem_names_foldl_declare]
  exact or_iff_right List.not_mem_nil

theorem declarations_map_bare (given : List (Group R)) (name : String) :
    declarations (given.map bare) name = (declarations given name).map bare := List.filter_map

/-- A declared group has the elements of all declarations of its name. -/
theorem elements_of_mem_declareAll {given : List (Group R)} {g : Group R}
    (member : g ∈ declareAll given) :
    g.elements = (declarations given g.name).flatMap Group.elements := by
  have there : g.bare ∈ mergeAll [] (given.map bare) :=
    bare_declareAll given ▸ List.mem_map_of_mem member
  refine ((merged_mergeAll _).elements g.bare there).trans ?_
  change (declarations (given.map bare) g.name).flatMap Group.elements = _
  rw [declarations_map_bare, List.flatMap_map]
  rfl

/-! ### Settings -/

theorem declarations_append (given later : List (Group R)) (name : String) :
    declarations (given ++ later) name = declarations given name ++ declarations later name :=
  List.filter_append ..

theorem declarations_cons (g : Group R) (rest : List (Group R)) (name : String) :
    declarations (g :: rest) name =
      if g.name = name then g :: declarations rest name else declarations rest name := by
  simp only [declarations, List.filter_cons, decide_eq_true_eq]

theorem declarations_eq_nil_iff (given : List (Group R)) (name : String) :
    declarations given name = [] ↔ name ∉ names given := by
  simp [declarations, names]

/-- A later declaration of a name decides as long as the name has no elements. -/
theorem deciding?_append_singleton (given : List (Group R)) (last : Group R) :
    deciding? (given ++ [last]) last.name =
      if (declarations given last.name).flatMap Group.elements = [] then some last
      else deciding? given last.name := by
  have own : declarations (given ++ [last]) last.name = declarations given last.name ++ [last] := by
    rw [declarations_append, declarations_cons, if_pos rfl]
    rfl
  rw [deciding?, deciding?, own, List.find?_append, List.getLast?_append]
  cases found : (declarations given last.name).find? fun g => !g.elements.isEmpty with
  | none =>
    have empty : (declarations given last.name).flatMap Group.elements = [] := by
      simpa using List.find?_eq_none.mp found
    rw [if_pos empty]
    cases later : [last].find? fun g => !g.elements.isEmpty with
    | none => rfl
    | some g =>
      rw [List.mem_singleton.mp (List.mem_of_find?_eq_some later)]
      rfl
  | some g =>
    have holds : (declarations given last.name).flatMap Group.elements ≠ [] := fun empty => by
      have elements := List.find?_some found
      simp only [List.flatMap_eq_nil_iff] at empty
      simp [empty g (List.mem_of_find?_eq_some found)] at elements
    rw [if_neg holds]
    rfl

/-- Declarations of other names do not count. -/
theorem deciding?_append_singleton_of_ne (given : List (Group R)) {last : Group R} {name : String}
    (other : last.name ≠ name) : deciding? (given ++ [last]) name = deciding? given name := by
  have own : declarations (given ++ [last]) name = declarations given name := by
    rw [declarations_append, declarations_cons, if_neg other]
    exact List.append_nil _
  rw [deciding?, deciding?, own]

/-- After a change by name, a group is an old one of another name, a changed one or a new one. -/
theorem mem_update {groups : List (Group R)} (distinct : (names groups).Nodup) {name : String}
    {f : Group R → Group R} {g : Group R} (member : g ∈ update name f groups) :
    (g ∈ groups ∧ g.name ≠ name) ∨ (∃ h ∈ groups, h.name = name ∧ g = f h) ∨
      name ∉ names groups ∧ g = f { name } := by
  induction groups with
  | nil => exact .inr (.inr ⟨List.not_mem_nil, List.mem_singleton.mp member⟩)
  | cons h rest ih =>
    obtain ⟨fresh, distinct⟩ := List.nodup_cons.mp distinct
    rw [update] at member
    split_ifs at member with same
    · rcases List.mem_cons.mp member with rfl | later
      · exact .inr (.inl ⟨h, List.mem_cons_self, same, rfl⟩)
      · refine .inl ⟨List.mem_cons_of_mem _ later, fun equal => fresh ?_⟩
        exact same.trans equal.symm ▸ List.mem_map_of_mem later
    · rcases List.mem_cons.mp member with rfl | later
      · exact .inl ⟨List.mem_cons_self, same⟩
      · rcases ih distinct later with ⟨old, other⟩ | ⟨h', old, changed⟩ | ⟨new, changed⟩
        · exact .inl ⟨List.mem_cons_of_mem _ old, other⟩
        · exact .inr (.inl ⟨h', List.mem_cons_of_mem _ old, changed⟩)
        · exact .inr (.inr ⟨fun known => (List.mem_cons.mp known).elim (fun e => same e.symm) new,
            changed⟩)

/-- A declared group has the settings of the declaration that decides. -/
theorem settings_of_mem_declareAll {given : List (Group R)} {g : Group R}
    (member : g ∈ declareAll given) :
    (deciding? given g.name).map settings = some g.settings := by
  induction given using List.reverseRecOn generalizing g with
  | nil => cases member
  | append_singleton earlier last ih =>
    rw [declareAll, List.foldl_append] at member
    change g ∈ update last.name (taking last) (declareAll earlier) at member
    rcases mem_update (nodup_names_declareAll earlier) member with
      ⟨old, other⟩ | ⟨h, old, same, rfl⟩ | ⟨fresh, rfl⟩
    · rw [deciding?_append_singleton_of_ne earlier (Ne.symm other), ih old]
    · have elements := elements_of_mem_declareAll old
      rw [name_taking, settings_taking, same, deciding?_append_singleton, ← same, ← elements]
      cases empty : h.elements with
      | nil => rfl
      | cons _ _ => exact ih old
    · have none_given : declarations earlier last.name = [] := by
        rwa [declarations_eq_nil_iff, ← mem_names_declareAll]
      rw [name_taking, settings_taking, deciding?_append_singleton, none_given]
      rfl

end Group

end Storyboard
