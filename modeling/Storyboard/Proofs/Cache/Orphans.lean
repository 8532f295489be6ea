import Storyboard.Proofs.Cache.Convergence

/-! # Orphaned files

Every file that was written is at the place of an entry, noted for deletion, or forgotten. A merge
forgets a file when it drops an entry whose file is at the very path that another entry moves to,
because that file is expected to be overwritten. A pass remembers the forgotten files whose paths
are in use, and all others stay behind as orphans.
-/

namespace Storyboard

namespace CacheEntries

/-- The file that a merge forgets: that of the dropped entry, if it is at the path of the asset. -/
def strays (entries : CacheEntries) (asset : Asset) : List String :=
  match entries.mover? asset with
  | some _ => (((entries.entryAt? asset.path).bind CacheEntry.onDisk).toList).filter
      fun old => old == asset.path
  | none => []

/-- The files that merging assets in turn forgets. -/
def straysAll : CacheEntries → List Asset → List String
  | _, [] => []
  | entries, asset :: rest => entries.strays asset ++ (entries.merge asset).straysAll rest

/-- All files that were written: those noted for deletion, those of entries, and those forgotten. -/
def ledger (entries : CacheEntries) (lost : List String) : List String :=
  entries.pendingDeletes ++ entries.list.filterMap CacheEntry.onDisk ++ lost

end CacheEntries

/-- The forgotten files after a step, by those before it. -/
def CacheStep.forgets (entries : CacheEntries) (lost : List String) : CacheStep → List String
  | .add asset => lost ++ entries.strays asset
  | .addRange assets => lost ++ entries.straysAll assets
  | .remove _ => lost
  | .apply assets => lost ++ entries.unreferenced.straysAll assets
  | .pass => lost.filter fun path => !entries.livePaths.contains path

namespace Cache

variable {σ : Type}

/-- The forgotten files after steps from somewhere on. -/
def forgottenFrom (files : AssetFiles (StateM σ)) :
    Cache → σ → List String → List CacheStep → List String
  | _, _, lost, [] => lost
  | cache, s, lost, next :: rest =>
    forgottenFrom files ((step files cache next).run s).1 ((step files cache next).run s).2
      (next.forgets cache.entries lost) rest

/-- The forgotten files after a history. -/
def forgotten (files : AssetFiles (StateM σ)) (s : σ) (steps : List CacheStep) : List String :=
  forgottenFrom files {} s [] steps

theorem forgottenFrom_append (files : AssetFiles (StateM σ)) (cache : Cache) (s : σ)
    (lost : List String) (first second : List CacheStep) :
    forgottenFrom files cache s lost (first ++ second) =
      forgottenFrom files ((run files cache first).run s).1 ((run files cache first).run s).2
        (forgottenFrom files cache s lost first) second := by
  induction first generalizing cache s lost with
  | nil => rfl
  | cons next rest ih => exact ih _ _ _

theorem forgotten_snoc (files : AssetFiles (StateM σ)) (s : σ) (steps : List CacheStep)
    (next : CacheStep) : forgotten files s (steps ++ [next]) =
      next.forgets (after files s steps).1.entries (forgotten files s steps) :=
  forgottenFrom_append files {} s [] steps [next]

end Cache

namespace CacheEntries

open CacheEntry

variable {entries : CacheEntries}

/-! ## Changes keep the ledger -/

/-- A path has at most one entry. -/
theorem filter_path_eq {list : List CacheEntry} (distinct : DistinctPaths list) (path : String) :
    list.filter (fun e => e.path == path) = (entryAt? { list } path).toList := by
  induction list with
  | nil => rfl
  | cons e rest ih =>
    obtain ⟨fresh, distinct⟩ := List.nodup_cons.mp distinct
    by_cases here : e.path = path
    · have absent : rest.filter (fun d => d.path == path) = [] := by
        refine List.filter_eq_nil_iff.mpr fun d member same => fresh ?_
        rw [here, ← beq_iff_eq.mp same]
        exact List.mem_map_of_mem member
      simp [entryAt?, here, absent]
    · have same := ih distinct
      simp only [entryAt?] at same ⊢
      simp [here, same]

/-- The files of all entries are those of the others and the one at a path. -/
theorem places_perm (distinct : DistinctPaths entries.list) (path : String) :
    ((entries.list.filter fun e => e.path != path).filterMap onDisk ++
      ((entries.entryAt? path).bind onDisk).toList).Perm (entries.list.filterMap onDisk) := by
  have parts := (List.filter_append_perm (fun e : CacheEntry => e.path == path)
    entries.list).filterMap onDisk
  rw [List.filterMap_append, filter_path_eq distinct] at parts
  refine (List.perm_append_comm.trans ?_).trans parts
  have same : (entryAt? { list := entries.list } path).toList.filterMap onDisk =
      ((entries.entryAt? path).bind onDisk).toList := by
    change (entries.entryAt? path).toList.filterMap onDisk = _
    cases entries.entryAt? path with
    | none => rfl
    | some e => cases there : e.onDisk <;> simp [there]
  rw [same]
  rfl

theorem leftBehind_perm (dropped : Option CacheEntry) (path : String) :
    (leftBehind dropped path ++
      ((dropped.bind onDisk).toList.filter fun old => old == path)).Perm
      (dropped.bind onDisk).toList := by
  refine List.perm_append_comm.trans ?_
  exact List.filter_append_perm (fun old => old == path) (dropped.bind onDisk).toList

theorem filterMap_onDisk_map {list : List CacheEntry} {f : CacheEntry → CacheEntry}
    (keeps : ∀ e, (f e).onDisk = e.onDisk) :
    (list.map f).filterMap onDisk = list.filterMap onDisk := by
  rw [List.filterMap_map]
  exact congrArg (List.filterMap · list) (funext keeps)

/-- A merge moves files about in the ledger. -/
theorem ledger_merge (distinct : DistinctPaths entries.list) (asset : Asset) (lost : List String) :
    ((entries.merge asset).ledger (lost ++ entries.strays asset)).Perm (entries.ledger lost) := by
  rw [merge_eq distinct, strays]
  cases moves : entries.mover? asset with
  | some mover =>
    have places : ((entries.list.filter fun e => e.path != asset.path).map
        (atPath mover.path (relocated asset))).filterMap onDisk = _ :=
      filterMap_onDisk_map fun e => by unfold atPath; split <;> rfl
    have parts := places_perm distinct asset.path
    have left := leftBehind_perm (entries.entryAt? asset.path) asset.path
    simp only [ledger, withMoved, places]
    rw [List.perm_iff_count] at parts left ⊢
    intro path
    have parts := parts path
    have left := left path
    simp only [List.count_append] at parts left ⊢
    omega
  | none =>
    rw [List.append_nil]
    cases taken : entries.entryAt? asset.path with
    | some d =>
      have places : (entries.list.map (atPath asset.path (overwritten asset))).filterMap onDisk =
          entries.list.filterMap onDisk :=
        filterMap_onDisk_map fun e => by
          unfold atPath
          split
          · exact onDisk_overwritten asset e
          · rfl
      simp only [ledger, withOverwritten, places]
      rfl
    | none =>
      simp only [ledger, append, List.filterMap_append]
      simp [CacheEntry.ofAsset]

/-- Merges only move files between the parts of the ledger, those that they forget included. -/
theorem ledger_mergeAll (distinct : DistinctPaths entries.list) (assets : List Asset)
    (lost : List String) :
    ((entries.mergeAll assets).ledger (lost ++ entries.straysAll assets)).Perm
      (entries.ledger lost) := by
  induction assets generalizing entries lost with
  | nil => simp [straysAll, mergeAll]
  | cons asset rest ih =>
    rw [straysAll, ← List.append_assoc]
    exact (ih (distinct.merge asset) (lost ++ entries.strays asset)).trans
      (ledger_merge distinct asset lost)

/-- A change only moves files between the parts of the ledger. -/
theorem ledger_change (distinct : DistinctPaths entries.list) {next : CacheStep}
    (change : next ≠ .pass) (lost : List String) :
    ((next.change entries).ledger (next.forgets entries lost)).Perm (entries.ledger lost) := by
  cases next with
  | add asset => exact ledger_merge distinct asset lost
  | addRange assets => exact ledger_mergeAll distinct assets lost
  | remove asset =>
    rw [CacheStep.change, release_eq distinct, CacheStep.forgets, ledger,
      filterMap_onDisk_map fun e => by split <;> rfl]
    rfl
  | apply assets =>
    refine (ledger_mergeAll distinct.unreferenced assets lost).trans ?_
    rw [ledger, unreferenced, filterMap_onDisk_map (f := CacheEntry.forget) fun _ => rfl]
    rfl
  | pass => exact absurd rfl change

/-! ## What a pass leaves -/

variable {C : Type} {content? : AssetSource → Option C} {F : Files C} {lost : List String}

/-- The ledger names every file, and each of them once. -/
structure Ledger (entries : CacheEntries) (lost : List String) (F : Files C) : Prop where
  once : (entries.ledger lost).Nodup
  stored : ∀ path, (F path).isSome ↔ path ∈ entries.ledger lost
  unstaged : ∀ path ∈ lost, Unstaged path

theorem eq_path_of_mem_strays {asset : Asset} {path : String}
    (member : path ∈ entries.strays asset) : path = asset.path := by
  unfold strays at member
  split at member
  · exact beq_iff_eq.mp (List.mem_filter.mp member).2
  · cases member

theorem exists_of_mem_straysAll {assets : List Asset} {path : String}
    (member : path ∈ entries.straysAll assets) : ∃ asset ∈ assets, path = asset.path := by
  induction assets generalizing entries with
  | nil => cases member
  | cons asset rest ih =>
    rcases List.mem_append.mp member with first | later
    · exact ⟨asset, List.mem_cons_self, eq_path_of_mem_strays first⟩
    · obtain ⟨other, present, same⟩ := ih later
      exact ⟨other, List.mem_cons_of_mem _ present, same⟩

/-- A change forgets no other files than those at paths that it asks for. -/
theorem mem_forgets {next : CacheStep} {path : String}
    (member : path ∈ next.forgets entries lost) :
    path ∈ lost ∨ ∃ asset ∈ next.requested, path = asset.path := by
  cases next with
  | add asset =>
    rcases List.mem_append.mp member with old | new
    · exact .inl old
    · exact .inr ⟨asset, List.mem_singleton_self _, eq_path_of_mem_strays new⟩
  | addRange assets => exact (List.mem_append.mp member).imp_right exists_of_mem_straysAll
  | remove asset => exact .inl member
  | apply assets => exact (List.mem_append.mp member).imp_right exists_of_mem_straysAll
  | pass => exact .inl (List.mem_of_mem_filter member)

/-- A change keeps the ledger: it does not touch the disk, and no file drops out. -/
theorem Ledger.change (ledger : entries.Ledger lost F) (distinct : DistinctPaths entries.list)
    {next : CacheStep} (change : next ≠ .pass)
    (unstaged : ∀ asset ∈ next.requested, Unstaged asset.path) :
    (next.change entries).Ledger (next.forgets entries lost) F := by
  have same := ledger_change distinct change lost
  refine ⟨same.nodup_iff.mpr ledger.once, fun path => ?_, fun path member => ?_⟩
  · rw [same.mem_iff]
    exact ledger.stored path
  · rcases mem_forgets member with old | ⟨asset, asked, rfl⟩
    · exact ledger.unstaged path old
    · exact unstaged asset asked

theorem accounts_iff {path : String} : entries.Accounts path ↔
    path ∈ entries.pendingDeletes ++ entries.list.filterMap onDisk := by
  simp [Accounts]

theorem Ledger.unstaged_of_mem (ledger : entries.Ledger lost F) (within : entries.Within Unstaged)
    {path : String} (member : path ∈ entries.ledger lost) : Unstaged path := by
  rcases List.mem_append.mp member with known | old
  · rcases accounts_iff.mpr known with pending | ⟨e, present, there⟩
    · exact within.pending path pending
    · exact within.place e present path there
  · exact ledger.unstaged path old

/-- A path that is not in use has a file after a pass exactly if its file was forgotten. -/
theorem Ledger.passed (ledger : entries.Ledger lost F) (within : entries.Within Unstaged)
    {G : Files C} (passed : Passed content? entries F G) {path : String}
    (dead : path ∉ entries.livePaths) : (G path).isSome ↔ path ∈ lost := by
  by_cases unstaged : Unstaged path
  · by_cases accounts : entries.Accounts path
    · rw [passed.removed path unstaged dead accounts]
      have apart := (List.nodup_append.mp ledger.once).2.2
      have known : path ∉ lost := fun old => apart path (accounts_iff.mp accounts) path old rfl
      simp [known]
    · rw [passed.untouched path unstaged dead accounts, ledger.stored, CacheEntries.ledger,
        List.mem_append]
      exact or_iff_right fun known => accounts (accounts_iff.mpr known)
  · have absent : path ∉ entries.ledger lost := fun member =>
      unstaged (ledger.unstaged_of_mem within member)
    have missing : F path = none := Option.not_isSome_iff_eq_none.mp fun found =>
      absent ((ledger.stored path).mp found)
    obtain ⟨other, same⟩ := not_forall_not.mp unstaged
    have gone : G path = none := by
      rcases passed.staged other with gone | kept
      · rw [same, gone]
      · rw [same, kept, ← same, missing]
    have known : path ∉ lost := fun old => absent (List.mem_append_right _ old)
    simp [gone, known]

/-- After a pass the files are those of the paths in use and the forgotten ones that are not. -/
theorem Ledger.pass (ledger : entries.Ledger lost F) (sound : entries.Sound content? F)
    (makes : ∀ e ∈ entries.list, (content? e.source).isSome) :
    ((entries.pass (.plain content?)).run F).1.Ledger (CacheStep.pass.forgets entries lost)
      ((entries.pass (.plain content?)).run F).2 := by
  obtain ⟨G, runs, passed⟩ := run_pass sound
  have made : ∀ e ∈ entries.kept, ∃ content, content? e.source = some content := fun e member =>
    Option.isSome_iff_exists.mp (makes e (mem_kept.mp member).1)
  have places : (entries.kept.map (settled content?)).filterMap onDisk = entries.livePaths := by
    rw [livePaths, List.filterMap_map, ← List.filterMap_eq_map]
    refine List.filterMap_congr fun e member => ?_
    obtain ⟨content, made⟩ := made e member
    simp [settled_made made]
  have after : CacheEntries.ledger { list := entries.kept.map (settled content?) }
      (CacheStep.pass.forgets entries lost) =
        entries.livePaths ++ CacheStep.pass.forgets entries lost :=
    congrArg (· ++ _) places
  have mem_after {path : String} : path ∈ CacheStep.pass.forgets entries lost ↔
      path ∈ lost ∧ path ∉ entries.livePaths := by simp [CacheStep.forgets]
  obtain ⟨_, nodup, apart⟩ := List.nodup_append.mp ledger.once
  rw [runs]
  refine ⟨?_, fun path => ?_, fun path member => ledger.unstaged path (mem_after.mp member).1⟩
  · rw [after]
    refine List.nodup_append.mpr ⟨sound.distinct.filter _, nodup.filter _, ?_⟩
    intro path alive other member same
    exact (mem_after.mp (same ▸ member)).2 alive
  · rw [after, List.mem_append, mem_after]
    by_cases alive : path ∈ entries.livePaths
    · obtain ⟨e, member, rfl⟩ := mem_livePaths.mp alive
      obtain ⟨content, made⟩ := made e member
      simp [passed.stored e member content made, alive]
    · rw [ledger.passed sound.unstaged passed alive]
      simp [alive]

end CacheEntries

/-! ## Histories -/

variable {σ C : Type}

open CacheEntry CacheEntries

/-- After any history that starts without files, the ledger names every file. -/
theorem ledger_after (content? : AssetSource → Option C) {steps : List CacheStep}
    (unstaged : ∀ asset ∈ CacheStep.requests steps, Unstaged asset.path)
    (makes : ∀ asset ∈ CacheStep.requests steps, (content? asset.source).isSome) :
    (Cache.after (.plain content?) (fun _ => none) steps).1.entries.Ledger
      (Cache.forgotten (.plain content?) (fun _ => none) steps)
      (Cache.after (.plain content?) (fun _ => none) steps).2 := by
  induction steps using List.reverseRecOn with
  | nil => exact ⟨List.nodup_nil, fun path => by simp [CacheEntries.ledger, Cache.forgotten,
      Cache.forgottenFrom], nofun⟩
  | append_singleton steps next ih =>
    have part : CacheStep.requests steps ⊆ CacheStep.requests (steps ++ [next]) := by
      rw [CacheStep.requests_append]
      exact List.subset_append_left _ _
    have before := ih (fun asset asked => unstaged asset (part asked))
      fun asset asked => makes asset (part asked)
    have sound := sound_after content? (fun _ => none) fun asset asked =>
      unstaged asset (part asked)
    rw [Cache.forgotten_snoc]
    by_cases pass : next = .pass
    · subst pass
      obtain ⟨entries, files⟩ := Cache.after_pass (.plain content?) (fun _ => none) steps
      rw [entries, files]
      refine before.pass sound ?_
      exact source_after (fun source => (content? source).isSome) _ _ fun asset asked =>
        makes asset (part asked)
    · rw [Cache.after_snoc, (Cache.step_change _ _ pass _).1, (Cache.step_change _ _ pass _).2]
      refine before.change sound.distinct pass fun asset asked => unstaged asset ?_
      exact CacheStep.mem_requests (by simp) asked

/-- A store forgets the same files as the map. -/
theorem forgotten_simulates {store : FileStore σ C} {s : σ} {F : Files C}
    (start : store.shows s F) {steps : List CacheStep}
    (takes : ∀ asset ∈ CacheStep.requests steps, store.Takes asset) :
    Cache.forgotten store.files s steps = Cache.forgotten store.reference F steps := by
  induction steps using List.reverseRecOn with
  | nil => rfl
  | append_singleton steps next ih =>
    have before : ∀ asset ∈ CacheStep.requests steps, store.Takes asset := by
      intro asset asked
      exact takes asset (CacheStep.requests_append steps [next] ▸ List.mem_append_left _ asked)
    rw [Cache.forgotten_snoc, Cache.forgotten_snoc, ih before,
      (FileStore.after_simulates start before).1]

/-- At rest, the places of entries that can be made are their paths. -/
theorem CacheEntries.AtRest.places {content? : AssetSource → Option C} {entries : CacheEntries}
    {F : Files C} (rest : entries.AtRest content? F)
    (makes : ∀ e ∈ entries.list, (content? e.source).isSome) :
    entries.list.filterMap onDisk = entries.livePaths := by
  rw [livePaths, rest.kept_eq, ← List.filterMap_eq_map]
  refine List.filterMap_congr fun e member => ?_
  obtain ⟨content, made⟩ := Option.isSome_iff_exists.mp (makes e member)
  exact (isMaterialized_iff.mp (rest.isMaterialized member made)).2

/-- At rest, the files are those of the paths in use and the forgotten ones. -/
theorem CacheEntries.Ledger.leaves {content? : AssetSource → Option C} {entries : CacheEntries}
    {lost : List String} {F : Files C} (ledger : entries.Ledger lost F)
    (rest : entries.AtRest content? F) (makes : ∀ e ∈ entries.list, (content? e.source).isSome) :
    (∀ path, (F path).isSome ↔ path ∈ entries.livePaths ∨ path ∈ lost) ∧
      ((∀ path, (F path).isSome ↔ path ∈ entries.livePaths) ↔ lost = []) := by
  have parts : entries.ledger lost = entries.livePaths ++ lost := by
    rw [CacheEntries.ledger, rest.pending, rest.places makes, List.nil_append]
  have stored : ∀ path, (F path).isSome ↔ path ∈ entries.livePaths ∨ path ∈ lost := by
    intro path
    rw [ledger.stored, parts, List.mem_append]
  refine ⟨stored, fun exactly => ?_, fun nothing path => ?_⟩
  · refine List.eq_nil_iff_forall_not_mem.mpr fun path old => ?_
    have alive := (exactly path).mp ((stored path).mpr (.inr old))
    exact (List.nodup_append.mp (parts ▸ ledger.once)).2.2 path alive path old rfl
  · rw [stored, nothing]
    exact or_iff_left List.not_mem_nil

/-- The files that a history and a pass after it leave in a store that was empty. -/
structure Leaves (store : FileStore σ C) (s : σ) (steps : List CacheStep) (G : Files C) : Prop where
  shown : store.shows (Cache.after store.files s (steps ++ [.pass])).2 G
  /-- They are at the paths in use, and where a file was forgotten. -/
  stored : ∀ path, (G path).isSome ↔
    path ∈ (Cache.after store.files s (steps ++ [.pass])).1.entries.livePaths ∨
      path ∈ Cache.forgotten store.files s (steps ++ [.pass])
  /-- They are exactly at the paths in use if and only if none is forgotten. -/
  exact_iff : (∀ path, (G path).isSome ↔
      path ∈ (Cache.after store.files s (steps ++ [.pass])).1.entries.livePaths) ↔
    Cache.forgotten store.files s (steps ++ [.pass]) = []

/-- Where everything that is asked for can be made, a pass leaves the files of the paths in use and
those that were forgotten on the way, and no others. -/
theorem files_after_pass (store : FileStore σ C) {s : σ} (start : store.shows s fun _ => none)
    {steps : List CacheStep} (takes : ∀ asset ∈ CacheStep.requests steps, store.Takes asset)
    (makes : ∀ asset ∈ CacheStep.requests steps, (store.content? asset.source).isSome) :
    ∃ G, Leaves store s steps G := by
  have takesPass : ∀ asset ∈ CacheStep.requests (steps ++ [.pass]), store.Takes asset := by
    rwa [CacheStep.requests_pass]
  have makesPass : ∀ asset ∈ CacheStep.requests (steps ++ [.pass]),
      (store.content? asset.source).isSome := by
    rwa [CacheStep.requests_pass]
  obtain ⟨same, related⟩ := FileStore.after_simulates start takesPass
  have lost := forgotten_simulates start takesPass
  have ledger := ledger_after store.content? (fun asset asked => (takesPass asset asked).unstaged)
    makesPass
  have made := source_after (fun source => (store.content? source).isSome) store.reference
    (fun _ => none) makesPass
  have rest := (sound_after store.content? (fun _ => none) fun asset asked =>
    (takes asset asked).unstaged).atRest
  obtain ⟨entries, files⟩ := Cache.after_pass store.reference (fun _ => none) steps
  have resting : (Cache.after store.reference (fun _ => none) (steps ++ [.pass])).1.entries.AtRest
      store.content? (Cache.after store.reference (fun _ => none) (steps ++ [.pass])).2 := by
    rw [entries, files]
    exact rest
  obtain ⟨stored, exactly⟩ := ledger.leaves resting made
  refine ⟨_, related, ?_, ?_⟩
  · rw [same, lost]
    exact stored
  · rw [same, lost]
    exact exactly

/-- Two squares are stored in a file tree, and the red one takes the blue one's path before all are
given up: the blue one's file is in the ledger of forgotten files. -/
theorem files_after_pass_squares :
    let red : AssetSource := .solid 1 1 ⟨255, 0, 0, 255⟩
    let blue : AssetSource := .solid 1 1 ⟨0, 0, 255, 255⟩
    ∃ G, Leaves (FileStore.tree .fontless FileTree.plot_two ⟨[]⟩ FileTree.rectangle?) ⟨[]⟩
      [.apply [red.asset "a.png", blue.asset "b.png"], .pass, .apply [red.asset "b.png"],
        .apply []] G := by
  intro red blue
  refine files_after_pass (FileStore.tree .fontless FileTree.plot_two ⟨[]⟩ FileTree.rectangle?)
    (FileTree.shows_empty FileTree.plot_two) ?_ ?_
  · simp [CacheStep.requests, CacheStep.requested, FileTree.takes_two, red, blue]
  · simp [CacheStep.requests, CacheStep.requested, AssetSource.asset, FileStore.tree,
      FileTree.rectangle?, AssetSource.drawSolid, Except.toOption, red, blue]

/-- Nothing is in use any more, but the blue square's file is still there. -/
theorem orphan_after_pass_squares :
    let red : AssetSource := .solid 1 1 ⟨255, 0, 0, 255⟩
    let blue : AssetSource := .solid 1 1 ⟨0, 0, 255, 255⟩
    let steps : List CacheStep := [.apply [red.asset "a.png", blue.asset "b.png"], .pass,
      .apply [red.asset "b.png"], .apply [], .pass]
    let after := Cache.after (@AssetFiles.ofDisk _ _ .fontless FileTree.whole "assets") ⟨[]⟩ steps
    after.1.entries.livePaths = [] ∧
      after.2.content? ["assets", "b.png"] = FileTree.rectangle? blue := by
  intro red blue steps after
  have takes : ∀ asset ∈ CacheStep.requests steps,
      (FileStore.tree .fontless FileTree.plot_two ⟨[]⟩ FileTree.rectangle?).Takes asset := by
    simp [CacheStep.requests, CacheStep.requested, FileTree.takes_two, steps, red, blue]
  have redHash : red.key.contentHash = "55b57e330b4f4ccb3be92a23ba98d921" := by
    rw [AssetSource.key_solid_eq]
    decide +kernel
  have blueHash : blue.key.contentHash = "6e52d336e0edf934d0b018d82fcd17c7" := by
    rw [AssetSource.key_solid_eq]
    decide +kernel
  -- On the map the run is short enough to be evaluated.
  have ends : (Cache.after (.plain FileTree.rectangle?) (fun _ => none) steps).1.entries.livePaths =
        [] ∧ (Cache.after (.plain FileTree.rectangle?) (fun _ => none) steps).2 "b.png" =
      FileTree.rectangle? blue := by
    simp only [steps, AssetSource.asset, redHash, blueHash]
    constructor
    · rfl
    · rfl
  obtain ⟨same, related⟩ :=
    FileStore.after_simulates (FileTree.shows_empty FileTree.plot_two) takes
  have there : FileTree.Two "b.png" := by simp [FileTree.Two]
  have shows : FileTree.Shows "assets" FileTree.Two ⟨[]⟩ after.2
      (Cache.after (.plain FileTree.rectangle?) (fun _ => none) steps).2 := related
  have entries : after.1 =
    (Cache.after (.plain FileTree.rectangle?) (fun _ => none) steps).1 := same
  constructor
  · rw [entries]
    exact ends.1
  · have found := shows.content "b.png" there
    rw [ends.2] at found
    exact found

end Storyboard
