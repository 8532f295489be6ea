import Storyboard.Proofs.Cache.ReferenceCounts

/-! # What is in use after assets are set

Setting the assets in use leaves nothing of what was in use before: one entry for each path is in
use then, with the content that was asked for last, and if every path asks for one content, with as
many references as there are assets of the path. So what is in use depends neither on the history
of the cache nor on the order of the assets.
-/

namespace Storyboard

namespace CacheEntries

variable {entries : CacheEntries}

/-! ## Contents by path -/

def contentInUse? (entries : CacheEntries) (path : String) : Option String :=
  ((entries.entryAt? path).filter fun e => e.count != 0).map CacheEntry.contentHash

/-- A path is in use with the content of the one referenced entry that it has. -/
theorem contentInUse?_eq_some_iff (distinct : DistinctPaths entries.list) {path hash : String} :
    entries.contentInUse? path = some hash ↔
      ∃ e ∈ entries.kept, e.path = path ∧ e.contentHash = hash := by
  simp only [contentInUse?, Option.map_eq_some_iff, Option.filter_eq_some_iff,
    entryAt?_eq_some_iff distinct, mem_kept, bne_iff_ne, Nat.pos_iff_ne_zero]
  constructor
  · rintro ⟨e, ⟨⟨member, here⟩, used⟩, same⟩
    exact ⟨e, ⟨member, used⟩, here, same⟩
  · rintro ⟨e, ⟨member, used⟩, here, same⟩
    exact ⟨e, ⟨⟨member, here⟩, used⟩, same⟩

theorem HasSpare.count_mergedEntry_pos {asset : Asset} (spare : entries.HasSpare asset) :
    0 < (entries.mergedEntry asset).count := by
  unfold mergedEntry
  split
  · next mover moves => exact count_relocated_pos (mover?_eq_some_iff.mp moves).2.2
  · next e taken => exact spare.count_pos taken
  · exact Nat.one_pos

/-- A merge puts its content into use at its path and leaves what is in use at all others: the entry
that it moves was not in use. -/
theorem contentInUse?_merge (distinct : DistinctPaths entries.list) {asset : Asset}
    (spare : entries.HasSpare asset) (path : String) :
    (entries.merge asset).contentInUse? path =
      if path = asset.path then some asset.contentHash else entries.contentInUse? path := by
  split_ifs with here
  · subst here
    have used := Nat.pos_iff_ne_zero.mp spare.count_mergedEntry_pos
    simp [contentInUse?, entryAt?_merge_self distinct, Option.filter, used,
      contentHash_mergedEntry]
  · rw [contentInUse?, entryAt?_merge_of_ne distinct here]
    split_ifs with moved
    · obtain ⟨mover, moves, there⟩ := (Option.any_eq_true _ _).mp moved
      obtain ⟨holds, _, idle⟩ := mover?_eq_some_iff.mp moves
      have taken := distinct.entryAt?_eq (holder?_eq_some holds).1
      rw [beq_iff_eq.mp there] at taken
      simp [contentInUse?, taken, Option.filter, idle]
    · rfl

def lastAt? (assets : List Asset) (path : String) : Option Asset :=
  assets.reverse.find? fun asset => asset.path == path

theorem lastAt?_eq_some {assets : List Asset} {path : String} {asset : Asset}
    (last : lastAt? assets path = some asset) : asset ∈ assets ∧ asset.path = path :=
  ⟨List.mem_reverse.mp (List.mem_of_find?_eq_some last), by simpa using List.find?_some last⟩

theorem exists_lastAt? {assets : List Asset} {path : String}
    (asked : path ∈ assets.map Asset.path) : ∃ asset, lastAt? assets path = some asset := by
  obtain ⟨asset, member, here⟩ := List.mem_map.mp asked
  refine Option.isSome_iff_exists.mp (List.find?_isSome.mpr ⟨asset, ?_, beq_iff_eq.mpr here⟩)
  exact List.mem_reverse.mpr member

/-! ## Counts by path -/

/-- How often the entry with a path is referenced, with any content; an absent entry is not. -/
def countAt (entries : CacheEntries) (path : String) : Nat :=
  (entries.entryAt? path).elim 0 CacheEntry.count

/-- A merge counts at most one reference at the path of its asset, and none at the others. -/
theorem countAt_merge_le (distinct : DistinctPaths entries.list) (asset : Asset) (path : String) :
    (entries.merge asset).countAt path ≤
      entries.countAt path + if asset.path == path then 1 else 0 := by
  by_cases here : path = asset.path
  · subst here
    rw [countAt, entryAt?_merge_self distinct, beq_self_eq_true, if_pos rfl, Option.elim_some]
    unfold mergedEntry
    split
    · next mover moves =>
      have idle := (mover?_eq_some_iff.mp moves).2.2
      simp [idle]
    · next e taken => simpa [countAt, taken] using Nat.mod_le _ _
    · simp
  · refine Nat.le_trans ?_ (Nat.le_add_right _ _)
    rw [countAt, entryAt?_merge_of_ne distinct here]
    split
    · exact Nat.zero_le _
    · exact Nat.le_refl _

/-- Merges count at most one reference for each asset of a path. -/
theorem countAt_mergeAll_le (distinct : DistinctPaths entries.list) (assets : List Asset)
    (path : String) : (entries.mergeAll assets).countAt path ≤
      entries.countAt path + assets.countP fun asset => asset.path == path := by
  induction assets generalizing entries with
  | nil => exact Nat.le_refl _
  | cons asset rest ih =>
    have once := countAt_merge_le distinct asset path
    have others := ih (distinct.merge asset)
    rw [mergeAll_cons, List.countP_cons]
    omega

theorem countAt_unreferenced (entries : CacheEntries) (path : String) :
    entries.unreferenced.countAt path = 0 := by
  unfold countAt
  cases found : entries.unreferenced.entryAt? path with
  | none => rfl
  | some e => exact idle_of_mem_unreferenced (entryAt?_eq_some found).1

/-! ## Contents after merges -/

/-- After merges, a path has the content that was asked for last, or the one it had before. -/
theorem contentInUse?_mergeAll (distinct : DistinctPaths entries.list) {assets : List Asset}
    (few : ∀ path, entries.countAt path +
      (assets.countP fun asset => asset.path == path) < UInt32.size)
    (path : String) : (entries.mergeAll assets).contentInUse? path =
      ((lastAt? assets path).map Asset.contentHash).or (entries.contentInUse? path) := by
  induction assets using List.reverseRecOn with
  | nil => rfl
  | append_singleton front last ih =>
    simp only [List.countP_append, List.countP_singleton] at few
    have before : ∀ path, entries.countAt path +
        (front.countP fun asset => asset.path == path) < UInt32.size := fun path =>
      Nat.lt_of_le_of_lt (by omega) (few path)
    have spare : (entries.mergeAll front).HasSpare last := by
      intro e taken
      have most := countAt_mergeAll_le distinct front last.path
      have room := few last.path
      simp only [countAt, taken, Option.elim_some, beq_self_eq_true, if_true] at most room
      omega
    have snoc : entries.mergeAll (front ++ [last]) = (entries.mergeAll front).merge last :=
      List.foldl_concat ..
    have found : lastAt? (front ++ [last]) path =
        if path = last.path then some last else lastAt? front path := by
      by_cases here : path = last.path
      · simp [lastAt?, here]
      · simp [lastAt?, here, Ne.symm here]
    rw [snoc, contentInUse?_merge (distinct.mergeAll front) spare, ih before, found]
    split_ifs <;> rfl

/-- Once assets are set, a path has the content that was asked for last, whatever was in use before.
-/
theorem contentInUse?_apply (distinct : DistinctPaths entries.list) {assets : List Asset}
    (few : ∀ path, (assets.countP fun asset => asset.path == path) < UInt32.size)
    (path : String) : (entries.apply assets).contentInUse? path =
      (lastAt? assets path).map Asset.contentHash := by
  have nothing : entries.unreferenced.contentInUse? path = none := by
    refine Option.eq_none_iff_forall_ne_some.mpr fun hash found => ?_
    obtain ⟨e, member, _⟩ := (contentInUse?_eq_some_iff distinct.unreferenced).mp found
    obtain ⟨present, used⟩ := mem_kept.mp member
    exact Nat.ne_of_gt used (idle_of_mem_unreferenced present)
  have room : ∀ path, entries.unreferenced.countAt path +
      (assets.countP fun asset => asset.path == path) < UInt32.size := fun path => by
    rw [countAt_unreferenced, Nat.zero_add]
    exact few path
  rw [apply, contentInUse?_mergeAll distinct.unreferenced room, nothing, Option.or_none]

/-! ## What is in use -/

/-- What is in use: paths with their contents and counts. -/
def inUse (entries : CacheEntries) : List (String × String × Nat) :=
  entries.kept.map fun e => (e.path, e.contentHash, e.count)

/-- Some assets, and nothing else, are in use. -/
structure Serves (entries : CacheEntries) (assets : List Asset) : Prop where
  /-- No path is in use twice. -/
  distinct : entries.livePaths.Nodup
  paths : ∀ path, path ∈ entries.livePaths ↔ path ∈ assets.map Asset.path
  /-- The last asset of a path decides its content. -/
  contents : ∀ e ∈ entries.kept, ∃ asset, lastAt? assets e.path = some asset ∧
    e.contentHash = asset.contentHash
  counts : OneContent assets →
    ∀ e ∈ entries.kept, e.count = assets.countP fun asset => asset.path == e.path

/-- What is in use once assets are set can be told from the assets alone. -/
theorem serves_apply (distinct : DistinctPaths entries.list) {assets : List Asset}
    (few : ∀ path, (assets.countP fun asset => asset.path == path) < UInt32.size) :
    (entries.apply assets).Serves assets := by
  have distinct' := distinct.apply assets
  have contents : ∀ e ∈ (entries.apply assets).kept, ∃ asset,
      lastAt? assets e.path = some asset ∧ e.contentHash = asset.contentHash := by
    intro e member
    have found := (contentInUse?_eq_some_iff distinct').mpr ⟨e, member, rfl, rfl⟩
    rw [contentInUse?_apply distinct few] at found
    obtain ⟨asset, last, same⟩ := Option.map_eq_some_iff.mp found
    exact ⟨asset, last, same.symm⟩
  refine ⟨distinct'.filter _, fun path => ?_, contents, fun one e member => ?_⟩
  · constructor
    · intro live
      obtain ⟨e, member, rfl⟩ := List.mem_map.mp live
      obtain ⟨asset, last, _⟩ := contents e member
      obtain ⟨asked, here⟩ := lastAt?_eq_some last
      exact here ▸ List.mem_map_of_mem asked
    · intro asked
      obtain ⟨asset, last⟩ := exists_lastAt? asked
      have found := (contentInUse?_apply distinct few path).trans (congrArg _ last)
      obtain ⟨e, member, rfl, _⟩ := (contentInUse?_eq_some_iff distinct').mp found
      exact List.mem_map_of_mem member
  · -- With one content at each path, the assets of the path are those that ask for the entry.
    obtain ⟨present, _⟩ := mem_kept.mp member
    obtain ⟨asset, last, same⟩ := contents e member
    obtain ⟨asked, here⟩ := lastAt?_eq_some last
    have few' : ∀ path hash, assets.countP (Asset.isAt path hash) < UInt32.size := by
      intro path hash
      refine Nat.lt_of_le_of_lt (List.countP_mono_left fun other _ same => ?_) (few path)
      exact beq_iff_eq.mpr (Asset.isAt_iff.mp same).1
    rw [← references_of_mem distinct' present, references_apply distinct one few']
    refine List.countP_congr fun other asked' => ?_
    rw [Asset.isAt_iff, beq_iff_eq, and_iff_left_iff_imp, same]
    exact fun there => one other asked' asset asked (there.trans here.symm)

/-- With one content at each path, what is in use is told by the assets in any order. -/
theorem Serves.mem_inUse_iff {assets : List Asset} (serves : entries.Serves assets)
    (one : OneContent assets) {path hash : String} {count : Nat} :
    (path, hash, count) ∈ entries.inUse ↔
      (∃ asset ∈ assets, asset.path = path ∧ asset.contentHash = hash) ∧
        count = assets.countP fun asset => asset.path == path := by
  constructor
  · intro member
    obtain ⟨e, kept, same⟩ := List.mem_map.mp member
    obtain ⟨rfl, rfl, rfl⟩ : e.path = path ∧ e.contentHash = hash ∧ e.count = count := by
      simpa using same
    obtain ⟨asset, last, content⟩ := serves.contents e kept
    obtain ⟨asked, here⟩ := lastAt?_eq_some last
    exact ⟨⟨asset, asked, here, content.symm⟩, serves.counts one e kept⟩
  · rintro ⟨⟨asset, asked, rfl, rfl⟩, rfl⟩
    obtain ⟨e, kept, here⟩ :=
      List.mem_map.mp ((serves.paths asset.path).mpr (List.mem_map_of_mem asked))
    obtain ⟨other, last, content⟩ := serves.contents e kept
    obtain ⟨asked', there⟩ := lastAt?_eq_some last
    refine List.mem_map.mpr ⟨e, kept, ?_⟩
    rw [serves.counts one e kept, content, one other asked' asset asked (there.trans here), here]

theorem Serves.nodup_inUse {assets : List Asset} (serves : entries.Serves assets) :
    entries.inUse.Nodup := by
  have paths : entries.inUse.map Prod.fst = entries.livePaths := List.map_map
  exact List.Nodup.of_map Prod.fst (paths ▸ serves.distinct)

end CacheEntries

namespace Cache

/-- Whatever a cache held and whatever its files did, after assets were set, no path too often for
32 bits, these are what is in use. If they ask for one content at each path, every other cache has
the same in use after they were set there in any order. -/
theorem serves_after_apply {σ : Type} (files : AssetFiles (StateM σ)) (s : σ)
    (steps : List CacheStep) (assets : List Asset)
    (few : ∀ path, (assets.countP fun asset => asset.path == path) < UInt32.size) :
    (after files s (steps ++ [.apply assets])).1.entries.Serves assets ∧
      (OneContent assets → ∀ (τ : Type) (files' : AssetFiles (StateM τ)) (s' : τ)
        (steps' : List CacheStep) (assets' : List Asset), assets'.Perm assets →
          (after files' s' (steps' ++ [.apply assets'])).1.entries.inUse.Perm
            (after files s (steps ++ [.apply assets])).1.entries.inUse) := by
  have serves : ∀ (τ : Type) (files : AssetFiles (StateM τ)) (s : τ) (steps : List CacheStep)
      (assets' : List Asset), assets'.Perm assets →
      (after files s (steps ++ [.apply assets'])).1.entries.Serves assets' := by
    intro τ files s steps assets' perm
    have change : CacheStep.apply assets' ≠ .pass := nofun
    rw [after_snoc, (step_change files _ change _).1]
    refine CacheEntries.serves_apply (CacheEntries.distinct_after files s steps) fun path => ?_
    rw [perm.countP_eq]
    exact few path
  refine ⟨serves σ files s steps assets (.refl _), fun one τ files' s' steps' assets' perm => ?_⟩
  have one' : OneContent assets' := fun a first b second =>
    one a (perm.mem_iff.mp first) b (perm.mem_iff.mp second)
  have here := serves σ files s steps assets (.refl _)
  have there := serves τ files' s' steps' assets' perm
  refine (List.perm_ext_iff_of_nodup there.nodup_inUse here.nodup_inUse).mpr ?_
  rintro ⟨path, hash, count⟩
  simp only [here.mem_inUse_iff one, there.mem_inUse_iff one', perm.countP_eq, perm.mem_iff]

/-- One cache has displaced a reference, the other one is new; both get two squares, one of them
twice. -/
theorem serves_after_apply_squares :
    let square : AssetSource := .solid 1 1 ⟨1, 2, 3, 4⟩
    let a := square.asset "a.png"
    let b := square.asset "b.png"
    let steps : List CacheStep := [.add a, .add b, .remove a, .add b]
    (∀ path, ([b, a, b].countP fun asset => asset.path == path) < UInt32.size) ∧
      OneContent [b, a, b] ∧ [a, b, b].Perm [b, a, b] ∧
      (after (AssetFiles.plain some) (fun _ => none) (steps ++ [.apply [b, a, b]])).1.entries.Serves
        [b, a, b] ∧
      (after (AssetFiles.plain some) (fun _ => none)
        ([] ++ [.apply [a, b, b]])).1.entries.inUse.Perm
          (after (AssetFiles.plain some) (fun _ => none)
            (steps ++ [.apply [b, a, b]])).1.entries.inUse := by
  intro square a b steps
  have one : OneContent [b, a, b] := by simp [OneContent, a, b, AssetSource.asset]
  have perm : [a, b, b].Perm [b, a, b] := List.Perm.swap b a [b]
  have few : ∀ path, ([b, a, b].countP fun asset => asset.path == path) < UInt32.size :=
    fun path => Nat.lt_of_le_of_lt List.countP_le_length (by decide)
  obtain ⟨serves, same⟩ :=
    serves_after_apply (AssetFiles.plain some) (fun _ => none) steps [b, a, b] few
  exact ⟨few, one, perm, serves, same one _ _ _ [] [a, b, b] perm⟩

end Cache

end Storyboard
