import Storyboard.Disk.Tree
import Storyboard.Proofs.Cache.Actions
import Storyboard.Proofs.Disk.Tree

/-! # Asset files in a file tree

Below a root in a file tree, the operations of a pass do what they do on a plain map, for paths of
which none lies below another one.
-/

namespace Storyboard

/-- An engine for which no file is a font. -/
@[reducible] def TextEngine.fontless : TextEngine where
  Document := Empty
  family? _ := none
  read? _ _ := none
  allocates _ _ := true
  paint document := nomatch document

namespace FileTree

/-- The names that lead to a path below a root. -/
def namesBelow (root path : String) : List String :=
  ((Asset.destination root path).toOption.bind names?).getD []

/-- A path that a disk can look up below a root. -/
structure Fits (root path : String) : Prop where
  below : namesBelow root path ≠ []
  plain : Plain (namesBelow root path)
  leads : ∃ target parent above, Asset.destination root path = .ok target ∧
    names? target = some (namesBelow root path) ∧ namesFile target = true ∧
    FilePath.parent? target = some parent ∧ names? parent = some above ∧
    (above.filter fun name => !isHere name) = (namesBelow root path).dropLast

/-- Paths that fit below a root, and none of which lies below another one. -/
structure Plot (root : String) (paths : String → Prop) : Prop where
  fits : ∀ path, paths path → Fits root path
  apart : ∀ path, paths path → ∀ other, paths other →
    namesBelow root path <+: namesBelow root other → path = other

/-- What a tree has at some paths below a root; elsewhere it has the files that it started with. -/
structure Shows (root : String) (paths : String → Prop) (start tree : FileTree)
    (F : Files FileContent) : Prop where
  content : ∀ path, paths path → tree.content? (namesBelow root path) = F path
  clear : ∀ path, paths path → tree.node? (namesBelow root path) ≠ some .directory
  way : ∀ path, paths path → ∀ above, above <+: namesBelow root path →
    above ≠ namesBelow root path → tree.hasFile above = false
  others : ∀ parts, (∀ path, paths path → namesBelow root path ≠ parts) →
    tree.content? parts = start.content? parts

variable {root path : String} {paths : String → Prop} {start tree : FileTree}
  {F : Files FileContent}

theorem content?_congr {before after : FileTree} {parts : List String}
    (same : after.node? parts = before.node? parts) :
    after.content? parts = before.content? parts := by
  rw [FileTree.content?, FileTree.content?, same]

theorem hasFile_congr {before after : FileTree} {parts : List String}
    (same : after.node? parts = before.node? parts) :
    after.hasFile parts = before.hasFile parts := by
  rw [hasFile, hasFile, content?_congr same]

theorem Plot.names_ne (plot : Plot root paths) {other : String} (here : paths path)
    (there : paths other) (different : other ≠ path) :
    namesBelow root other ≠ namesBelow root path :=
  fun same => different (plot.apart other there path here (same ▸ List.prefix_rfl))

/-- A change at one of the paths. -/
theorem Shows.change (shows : Shows root paths start tree F) (plot : Plot root paths)
    (here : paths path) {after : FileTree}
    (same : ∀ parts, parts ≠ namesBelow root path → after.node? parts = tree.node? parts)
    (clear : after.node? (namesBelow root path) ≠ some .directory) :
    Shows root paths start after
      (Function.update F path (after.content? (namesBelow root path))) := by
  constructor
  · intro other there
    by_cases equal : other = path
    · subst equal
      rw [Function.update_self]
    · rw [Function.update_of_ne equal, content?_congr (same _ (plot.names_ne here there equal))]
      exact shows.content other there
  · intro other there
    by_cases equal : other = path
    · exact equal ▸ clear
    · rw [same _ (plot.names_ne here there equal)]
      exact shows.clear other there
  · intro other there above part before
    have apart : above ≠ namesBelow root path := by
      rintro rfl
      exact before (plot.apart path here other there part ▸ rfl)
    rw [hasFile_congr (same above apart)]
    exact shows.way other there above part before
  · intro parts away
    rw [content?_congr (same parts (away path here).symm)]
    exact shows.others parts away

theorem Shows.set (shows : Shows root paths start tree F) (plot : Plot root paths)
    (here : paths path) (content : FileContent) :
    Shows root paths start (tree.set (namesBelow root path) (.file content))
      (Function.update F path (some content)) := by
  have there : (tree.set (namesBelow root path) (.file content)).node? (namesBelow root path) =
      some (.file content) := node?_set_self _ (plot.fits path here).below
  have changed := shows.change plot here
    (fun _ apart => node?_set_of_ne (.file content) apart) (by rw [there]; exact nofun)
  rwa [content?_eq_some.mpr there] at changed

theorem Shows.erase (shows : Shows root paths start tree F) (plot : Plot root paths)
    (here : paths path) :
    Shows root paths start (tree.erase (namesBelow root path)) (Function.update F path none) := by
  have gone : (tree.erase (namesBelow root path)).node? (namesBelow root path) = none :=
    node?_erase_self (plot.fits path here).below
  have changed := shows.change plot here
    (fun _ apart => node?_erase_of_ne apart) (by rw [gone]; exact nofun)
  rwa [FileTree.content?, gone] at changed

/-- More directories on the way to one of the paths change nothing. -/
theorem Shows.grown (shows : Shows root paths start tree F) (plot : Plot root paths)
    (here : paths path) {after : FileTree}
    (grown : Grown tree after (namesBelow root path).dropLast) :
    Shows root paths start after F := by
  constructor
  · intro other there
    rw [grown.content?, shows.content other there]
  · intro other there
    cases found : tree.node? (namesBelow root other) with
    | some node =>
      rw [grown.kept _ _ found, ← found]
      exact shows.clear other there
    | none =>
      rcases grown.fresh _ found with still | ⟨made, part⟩
      · rw [still]
        exact nofun
      · have inside := part.trans (List.dropLast_prefix _)
        obtain rfl := plot.apart other there path here inside
        have shorter := part.length_le
        have below := List.length_pos_iff.mpr (plot.fits other here).below
        rw [List.length_dropLast] at shorter
        omega
  · intro other there above part before
    rw [grown.hasFile, shows.way other there above part before]
  · intro parts away
    rw [grown.content?, shows.others parts away]

/-! ## The operations of a pass -/

def whole : Disk (StateM FileTree) := disk id fun tree _ => tree

theorem Shows.resolve (shows : Shows root paths start tree F) (plot : Plot root paths)
    (here : paths path) {target : String} (names : names? target = some (namesBelow root path)) :
    tree.resolve target = some (namesBelow root path) := by
  rw [FileTree.resolve, names]
  exact follow_plain (plot.fits path here).plain [] fun above part before =>
    shows.way path here above part before

/-- Removing a file in the tree removes it in the map. -/
theorem Shows.run_remove [TextEngine] (shows : Shows root paths start tree F)
    (plot : Plot root paths) (here : paths path) :
    Shows root paths start (((AssetFiles.ofDisk whole root).remove path).run tree).2
      (Function.update F path none) := by
  obtain ⟨target, _, _, leads, names, _⟩ := (plot.fits path here).leads
  have ran : (((AssetFiles.ofDisk whole root).remove path).run tree).2 =
      (tree.remove target).1 := by
    simp only [AssetFiles.ofDisk, leads]
    rfl
  rw [ran, remove, shows.resolve plot here names]
  cases found : tree.node? (namesBelow root path) with
  | none =>
    have missing : F path = none := by
      rw [← shows.content path here, content?, found]
    simp only [found]
    rwa [← missing, Function.update_eq_self]
  | some node =>
    cases node with
    | directory => exact absurd found (shows.clear path here)
    | file content =>
      simp only [found]
      exact shows.erase plot here

theorem Shows.run_isFile [TextEngine] (shows : Shows root paths start tree F)
    (plot : Plot root paths) (here : paths path) :
    ((AssetFiles.ofDisk whole root).isFile path).run tree = ((F path).isSome, tree) := by
  obtain ⟨target, _, _, leads, names, _⟩ := (plot.fits path here).leads
  have ran : ((AssetFiles.ofDisk whole root).isFile path).run tree =
      (tree.isFile target, tree) := by
    simp only [AssetFiles.ofDisk, leads]
    rfl
  rw [ran, isFile, shows.resolve plot here names, Option.bind_some, shows.content path here]

/-- The directory of a path can be made. -/
theorem Shows.makeDirectories (shows : Shows root paths start tree F) (plot : Plot root paths)
    (here : paths path) {parent : String} {above : List String}
    (names : names? parent = some above)
    (trimmed : (above.filter fun name => !isHere name) = (namesBelow root path).dropLast) :
    (tree.makeDirectories parent).2 = true ∧
      Shows root paths start (tree.makeDirectories parent).1 F ∧
      (tree.makeDirectories parent).1.isDirectory (namesBelow root path).dropLast = true := by
  have plain : Plain (namesBelow root path).dropLast := fun name member =>
    (plot.fits path here).plain name ((List.dropLast_prefix _).subset member)
  have below := List.length_pos_iff.mpr (plot.fits path here).below
  have free : ∀ above, above <+: (namesBelow root path).dropLast → tree.hasFile above = false := by
    intro above part
    refine shows.way path here above (part.trans (List.dropLast_prefix _)) ?_
    rintro rfl
    have shorter := part.length_le
    rw [List.length_dropLast] at shorter
    omega
  obtain ⟨done, grown, there⟩ := makeAlong_plain plain [] rfl free
  rw [FileTree.makeDirectories, names]
  simp only [makeAlong_filter _ _ above, trimmed]
  exact ⟨done, shows.grown plot here grown, decide_eq_true there⟩

theorem Shows.node?_file (shows : Shows root paths start tree F) (here : paths path)
    {content : FileContent} (found : F path = some content) :
    tree.node? (namesBelow root path) = some (.file content) :=
  content?_eq_some.mp ((shows.content path here).trans found)

theorem Shows.node?_missing (shows : Shows root paths start tree F) (here : paths path)
    (missing : F path = none) : tree.node? (namesBelow root path) = none := by
  cases found : tree.node? (namesBelow root path) with
  | none => rfl
  | some node =>
    cases node with
    | directory => exact absurd found (shows.clear path here)
    | file content =>
      have there := (shows.content path here).symm.trans (content?_eq_some.mpr found)
      exact nomatch missing.symm.trans there

/-- Once the directory of the target is made, a move below the root is one in the tree. -/
theorem run_renameBelow [TextEngine] {source target parent : String} {old new : String}
    (leads : Asset.destination root old = .ok source)
    (leads' : Asset.destination root new = .ok target) (up : FilePath.parent? target = some parent)
    (done : (tree.makeDirectories parent).2 = true) :
    ((AssetFiles.ofDisk whole root).rename old new).run tree =
      (((tree.makeDirectories parent).1.rename source target).2,
        ((tree.makeDirectories parent).1.rename source target).1) := by
  simp only [AssetFiles.ofDisk, AssetFiles.renameBelow, leads, leads', up]
  rw [Traversal.run_bind]
  change (if (tree.makeDirectories parent).2 then _ else _ : StateM FileTree Bool).run _ = _
  rw [if_pos done]
  rfl

/-- Moving what is at one of the paths to another one whose directory is there. -/
theorem Shows.rename (shows : Shows root paths start tree F) (plot : Plot root paths)
    {old new source target : String} (here : paths old) (there : paths new)
    (names : names? source = some (namesBelow root old))
    (names' : names? target = some (namesBelow root new))
    (ready : tree.isDirectory (namesBelow root new).dropLast = true)
    (content? : AssetSource → Option FileContent) :
    (tree.rename source target).2 = (((AssetFiles.plain content?).rename old new).run F).1 ∧
      Shows root paths start (tree.rename source target).1
        (((AssetFiles.plain content?).rename old new).run F).2 := by
  have below := (plot.fits old here).below
  have below' := (plot.fits new there).below
  rw [FileTree.rename, shows.resolve plot here names, shows.resolve plot there names']
  cases found : F old with
  | none =>
    simp only [moved?_missing (shows.node?_missing here found),
      AssetFiles.run_rename_missing found]
    exact ⟨trivial, shows⟩
  | some content =>
    have moves := moved?_file below below' ready (shows.node?_file here found)
      (shows.clear new there)
    simp only [moves, AssetFiles.run_rename_found found]
    by_cases same : old = new
    · subst same
      rw [if_pos rfl, Function.update_idem, ← found, Function.update_eq_self]
      exact ⟨rfl, shows⟩
    · rw [if_neg (plot.names_ne there here same)]
      exact ⟨rfl, (shows.erase plot here).set plot there content⟩

/-- Moving a file in the tree moves it in the map, and succeeds there exactly if it does here. -/
theorem Shows.run_rename [TextEngine] (shows : Shows root paths start tree F)
    (plot : Plot root paths) {old new : String} (here : paths old) (there : paths new)
    (content? : AssetSource → Option FileContent) :
    (((AssetFiles.ofDisk whole root).rename old new).run tree).1 =
        (((AssetFiles.plain content?).rename old new).run F).1 ∧
      Shows root paths start (((AssetFiles.ofDisk whole root).rename old new).run tree).2
        (((AssetFiles.plain content?).rename old new).run F).2 := by
  obtain ⟨source, _, _, leads, names, _⟩ := (plot.fits old here).leads
  obtain ⟨target, parent, above, leads', names', _, up, namesUp, trimmed⟩ :=
    (plot.fits new there).leads
  obtain ⟨done, shows, ready⟩ := shows.makeDirectories plot there namesUp trimmed
  rw [run_renameBelow leads leads' up done]
  exact shows.rename plot here there names names' ready content?

/-- Writing a file at one of the paths whose directory is there. -/
theorem Shows.write (shows : Shows root paths start tree F) (plot : Plot root paths)
    {target : String} (here : paths path) (names : names? target = some (namesBelow root path))
    (file : namesFile target = true)
    (ready : tree.isDirectory (namesBelow root path).dropLast = true) (content : FileContent) :
    (tree.write target content).2 = true ∧
      Shows root paths start (tree.write target content).1
        (Function.update F path (some content)) := by
  have clear : tree.isDirectory (namesBelow root path) = false :=
    decide_eq_false (shows.clear path here)
  rw [FileTree.write, shows.resolve plot here names]
  simp only [file, ready, clear, Bool.not_false, and_self, if_true]
  exact ⟨trivial, shows.set plot here content⟩

/-- Drawing a source comes to the same whatever is at the paths. -/
def Steady [TextEngine] (root : String) (paths : String → Prop) (start : FileTree)
    (content? : AssetSource → Option FileContent) (source : AssetSource) : Prop :=
  ∀ tree F, Shows root paths start tree F → ∃ result : Except Failure Image,
    (source.draw whole root).run.run tree = (result, tree) ∧
      result.toOption.map FileContent.image = content? source

/-- Making an asset in the tree makes it in the map, and succeeds there exactly if it does here. -/
theorem Shows.run_make [TextEngine] (shows : Shows root paths start tree F) (plot : Plot root paths)
    {content? : AssetSource → Option FileContent} {asset : Asset} (here : paths asset.path)
    (steady : Steady root paths start content? asset.source) :
    (((AssetFiles.ofDisk whole root).make asset).run tree).1 =
        (((AssetFiles.plain content?).make asset).run F).1 ∧
      Shows root paths start (((AssetFiles.ofDisk whole root).make asset).run tree).2
        (((AssetFiles.plain content?).make asset).run F).2 := by
  obtain ⟨target, parent, above, leads, names, file, up, namesUp, trimmed⟩ :=
    (plot.fits asset.path here).leads
  obtain ⟨result, drawn, made⟩ := steady tree F shows
  have located : (ExceptT.mk (return Asset.destination root asset.path) :
      ExceptT Failure (StateM FileTree) String).run.run tree = (.ok target, tree) := by
    rw [leads]
    rfl
  have ran : (((AssetFiles.ofDisk whole root).make asset).run tree) =
      (((asset.materialize whole root).run.run tree).1.toBool,
        ((asset.materialize whole root).run.run tree).2) := by
    simp only [AssetFiles.ofDisk]
    rw [Traversal.run_bind]
    cases ((asset.materialize whole root).run.run tree).1 with
    | error failure => rfl
    | ok _ => rfl
  rw [ran]
  cases result with
  | error failure =>
    have failed : (asset.materialize whole root).run.run tree = (.error failure, tree) := by
      rw [Asset.materialize, Traversal.run_ok_bind located]
      exact Traversal.run_error_bind drawn
    rw [failed, AssetFiles.run_make_failed made.symm]
    exact ⟨rfl, shows⟩
  | ok picture =>
    obtain ⟨done, shows, ready⟩ := shows.makeDirectories plot here namesUp trimmed
    obtain ⟨written, shows⟩ := shows.write plot here names file ready (.image picture)
    have finished : (asset.materialize whole root).run.run tree = (.ok (),
        ((tree.makeDirectories parent).1.write target (.image picture)).1) := by
      have readied : (whole.makeDirectories parent).run tree =
          (true, (tree.makeDirectories parent).1) := Prod.ext done rfl
      have wrote : (whole.write target (.image picture)).run (tree.makeDirectories parent).1 =
          (true, ((tree.makeDirectories parent).1.write target (.image picture)).1) :=
        Prod.ext written rfl
      rw [Asset.materialize, Traversal.run_ok_bind located, Traversal.run_ok_bind drawn]
      simp only [up]
      rw [Traversal.run_ok_bind (Traversal.run_lift readied)]
      simp only [Bool.not_true, Bool.false_eq_true, if_false]
      rw [Traversal.run_ok_bind (Traversal.run_lift wrote)]
      rfl
    rw [finished, AssetFiles.run_make_made made.symm]
    exact ⟨rfl, shows⟩

end FileTree

/-- The files below a root in a tree, at paths that do not get in each other's way; lettering is
drawn by an engine. -/
def FileStore.tree (engine : TextEngine) {root : String} {paths : String → Prop}
    (plot : FileTree.Plot root paths) (start : FileTree)
    (content? : AssetSource → Option FileContent) : FileStore FileTree FileContent where
  files := .ofDisk FileTree.whole root
  content? := content?
  usable := paths
  steady := FileTree.Steady root paths start content?
  shows := FileTree.Shows root paths start
  remove path here _ _ shows := ⟨rfl, shows.run_remove plot here⟩
  rename old new here there _ _ shows := shows.run_rename plot here there content?
  isFile path here tree F shows := by
    rw [shows.run_isFile plot here]
    exact ⟨rfl, shows⟩
  make asset here steady _ _ shows := shows.run_make plot here steady

namespace FileTree

variable {root : String} {paths : String → Prop}

/-- A tree to start from: nothing is in the way of the paths. -/
theorem shows_start (start : FileTree)
    (clear : ∀ path, paths path → start.node? (namesBelow root path) ≠ some .directory)
    (way : ∀ path, paths path → ∀ above, above <+: namesBelow root path →
      above ≠ namesBelow root path → start.hasFile above = false) :
    Shows root paths start start fun path => start.content? (namesBelow root path) :=
  ⟨fun _ _ => rfl, clear, way, fun _ _ => rfl⟩

theorem node?_empty {parts : List String} (below : parts ≠ []) :
    (FileTree.mk []).node? parts = none := node?_of_ne_nil below

/-- The empty tree shows no files. -/
theorem shows_empty (plot : Plot root paths) : Shows root paths ⟨[]⟩ ⟨[]⟩ fun _ => none := by
  have absent : ∀ parts, (FileTree.mk []).content? parts = none := by
    intro parts
    by_cases top : parts = []
    · rw [top]
      rfl
    · rw [content?, node?_empty top]
  have shows : Shows root paths ⟨[]⟩ ⟨[]⟩ fun path => content? ⟨[]⟩ (namesBelow root path) := by
    refine shows_start ⟨[]⟩ (fun path here => ?_) fun _ _ above _ _ => ?_
    · rw [node?_empty (plot.fits path here).below]
      exact (Option.some_ne_none _).symm
    · rw [hasFile, absent]
      rfl
  simpa only [absent] using shows

/-- What a rectangle comes to in a file. -/
def rectangle? : AssetSource → Option FileContent
  | .solid width height rgba =>
    (AssetSource.drawSolid width height rgba).toOption.map FileContent.image
  | .lettering .. => none

theorem steady_solid [TextEngine] (start : FileTree) (width height : Nat) (rgba : Rgba) :
    Steady root paths start rectangle? (.solid width height rgba) := fun _ _ _ => ⟨_, rfl, rfl⟩

/-- Two files and the names on the way to them. -/
def Two (path : String) : Prop := path ∈ ["a.png", "b.png", "a.png.moving", "b.png.moving"]

theorem plot_two : Plot "assets" Two := by
  have names : ∀ path, Two path → namesBelow "assets" path = ["assets", path] := by
    simp only [Two, List.forall_mem_cons, List.not_mem_nil, false_imp_iff, implies_true, and_true]
    exact ⟨rfl, rfl, rfl, rfl⟩
  constructor
  · intro path member
    simp only [Two, List.mem_cons, List.not_mem_nil, or_false] at member
    rcases member with rfl | rfl | rfl | rfl
    all_goals exact ⟨by decide, by decide, _, _, _, rfl, rfl, rfl, rfl, rfl, rfl⟩
  · intro path here other there part
    rw [names path here, names other there] at part
    simpa using part

/-- Squares can be kept in the two files. -/
theorem takes_two [SeededDigest] (engine : TextEngine) {path : String}
    (here : path ∈ ["a.png", "b.png"]) (rgba : Rgba) :
    (FileStore.tree engine plot_two ⟨[]⟩ rectangle?).Takes
      ((AssetSource.solid 1 1 rgba).asset path) := by
  have reaches : (FileStore.tree engine plot_two ⟨[]⟩ rectangle?).Reaches path := by
    simp only [List.mem_cons, List.not_mem_nil, or_false] at here
    rcases here with rfl | rfl
    all_goals exact ⟨by simp [FileStore.tree, Two],
      by simp [FileStore.tree, Two, CacheEntry.stagingPath],
      CacheEntry.unstaged_of_end (by decide)⟩
  exact ⟨reaches, steady_solid ⟨[]⟩ 1 1 rgba⟩

end FileTree

end Storyboard
