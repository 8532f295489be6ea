import Mathlib.Data.List.Nodup
import Storyboard.Asset.Cache

/-! # Merging a reference into the entries

An entry is found by its path or by its content, and a merge works on places in the list. While
all paths differ, a path is as good as a place: this module says what a merge does to the entries
by path, and every later statement about the entries starts from that equation.
-/

namespace Storyboard

namespace CacheEntry

/-- Changes the entry of one path and leaves the others alone. -/
def atPath (path : String) (f : CacheEntry → CacheEntry) (e : CacheEntry) : CacheEntry :=
  if e.path = path then f e else e

/-- The entry at the path of an asset, with one more reference. -/
def relocated (asset : Asset) (e : CacheEntry) : CacheEntry :=
  ({ e with path := asset.path }).reference

/-- The entry with the content of an asset, with one more reference. -/
def overwritten (asset : Asset) (e : CacheEntry) : CacheEntry :=
  (e.replaceContent asset).reference

theorem replaceContent_of_eq {e : CacheEntry} {asset : Asset}
    (same : e.contentHash = asset.contentHash) : e.replaceContent asset = e := if_pos same

@[simp] theorem path_overwritten (asset : Asset) (e : CacheEntry) :
    (e.overwritten asset).path = e.path := by
  unfold overwritten replaceContent
  split <;> rfl

@[simp] theorem contentHash_overwritten (asset : Asset) (e : CacheEntry) :
    (e.overwritten asset).contentHash = asset.contentHash := by
  unfold overwritten replaceContent
  split
  · next same => exact same
  · rfl

@[simp] theorem count_relocated (asset : Asset) (e : CacheEntry) :
    (e.relocated asset).count = (e.count + 1) % UInt32.size := count_reference _

@[simp] theorem count_overwritten (asset : Asset) (e : CacheEntry) :
    (e.overwritten asset).count = (e.count + 1) % UInt32.size := by
  unfold overwritten replaceContent
  split <;> exact count_reference _

@[simp] theorem onDisk_overwritten (asset : Asset) (e : CacheEntry) :
    (e.overwritten asset).onDisk = e.onDisk := by
  unfold overwritten replaceContent
  split <;> rfl

/-- An entry that is good after it was overwritten had the content already. -/
theorem eq_of_stale_overwritten {asset : Asset} {e : CacheEntry}
    (fresh : (e.overwritten asset).stale = false) : e.overwritten asset = e.reference := by
  unfold overwritten replaceContent at fresh ⊢
  split at fresh
  · next same => rw [if_pos same]
  · cases fresh

end CacheEntry

namespace CacheEntries

def DistinctPaths (list : List CacheEntry) : Prop := (list.map CacheEntry.path).Nodup

theorem DistinctPaths.eq_of_path {list : List CacheEntry} (distinct : DistinctPaths list)
    {d e : CacheEntry} (first : d ∈ list) (second : e ∈ list) (same : d.path = e.path) : d = e :=
  List.inj_on_of_nodup_map distinct first second same

theorem DistinctPaths.filter {list : List CacheEntry} (distinct : DistinctPaths list)
    (keep : CacheEntry → Bool) : DistinctPaths (list.filter keep) :=
  distinct.sublist (List.filter_sublist.map _)

theorem DistinctPaths.place_eq {list : List CacheEntry} (distinct : DistinctPaths list)
    {i j : Nat} {d e : CacheEntry} (first : list[i]? = some d) (second : list[j]? = some e)
    (same : d.path = e.path) : i = j := by
  have inside : i < (list.map CacheEntry.path).length := by
    simpa using (List.getElem?_eq_some_iff.mp first).1
  apply (List.getElem?_inj inside distinct).mp
  simp [first, second, same]

/-- Changing the entry at a place changes the entry of its path. -/
theorem modify_eq_map {list : List CacheEntry} (distinct : DistinctPaths list) {place : Nat}
    {d : CacheEntry} (found : list[place]? = some d) (f : CacheEntry → CacheEntry) :
    list.modify place f = list.map (CacheEntry.atPath d.path f) := by
  apply List.ext_getElem?
  intro i
  rw [List.getElem?_modify, List.getElem?_map]
  cases here : list[i]? with
  | none => rfl
  | some e =>
    by_cases same : place = i
    · subst same
      obtain rfl : d = e := Option.some.inj (found.symm.trans here)
      simp [CacheEntry.atPath]
    · have other : e.path ≠ d.path := fun equal => same (distinct.place_eq found here equal.symm)
      simp [CacheEntry.atPath, same, other]

/-- Erasing the entry at a place leaves the entries of all other paths. -/
theorem eraseIdx_eq_filter {list : List CacheEntry} (distinct : DistinctPaths list) {place : Nat}
    {d : CacheEntry} (found : list[place]? = some d) :
    list.eraseIdx place = list.filter fun e => e.path != d.path := by
  induction list generalizing place with
  | nil => cases found
  | cons e rest ih =>
    obtain ⟨fresh, distinct⟩ := List.nodup_cons.mp distinct
    cases place with
    | zero =>
      obtain rfl : e = d := Option.some.inj found
      have others : ∀ x ∈ rest, (x.path != e.path) = true := fun x present =>
        bne_iff_ne.mpr fun same => fresh (same ▸ List.mem_map_of_mem present)
      simp [List.filter_eq_self.mpr others]
    | succ place =>
      rw [List.getElem?_cons_succ] at found
      have present := List.mem_map_of_mem (f := CacheEntry.path) (List.mem_of_getElem? found)
      have other : e.path ≠ d.path := fun same => fresh (same ▸ present)
      simp [other, ih distinct found]

def entryAt? (entries : CacheEntries) (path : String) : Option CacheEntry :=
  entries.list.find? fun e => e.path == path

/-- The first entry with a content. -/
def holder? (entries : CacheEntries) (hash : String) : Option CacheEntry :=
  entries.list.find? fun e => e.contentHash == hash

/-- The entry that a merge moves to the path of an asset: the first one with the content, if it
is somewhere else and nobody references it. -/
def mover? (entries : CacheEntries) (asset : Asset) : Option CacheEntry :=
  (entries.holder? asset.contentHash).filter fun e => e.path != asset.path && e.count == 0

/-- The entries once one of them has moved to the path of an asset. -/
def withMoved (entries : CacheEntries) (mover : CacheEntry) (asset : Asset) : CacheEntries :=
  { list := (entries.list.filter fun e => e.path != asset.path).map
      (CacheEntry.atPath mover.path (CacheEntry.relocated asset))
    pendingDeletes :=
      entries.pendingDeletes ++ leftBehind (entries.entryAt? asset.path) asset.path }

/-- The entries with new content at the path of an asset. -/
def withOverwritten (entries : CacheEntries) (asset : Asset) : CacheEntries :=
  { entries with
    list := entries.list.map (CacheEntry.atPath asset.path (CacheEntry.overwritten asset)) }

theorem entryAt?_eq_some {entries : CacheEntries} {path : String} {e : CacheEntry}
    (found : entries.entryAt? path = some e) : e ∈ entries.list ∧ e.path = path :=
  ⟨List.mem_of_find?_eq_some found, by simpa using List.find?_some found⟩

theorem entryAt?_eq_none_iff {entries : CacheEntries} {path : String} :
    entries.entryAt? path = none ↔ ∀ e ∈ entries.list, e.path ≠ path := by
  simp [entryAt?]

theorem DistinctPaths.entryAt?_eq {entries : CacheEntries} (distinct : DistinctPaths entries.list)
    {e : CacheEntry} (member : e ∈ entries.list) : entries.entryAt? e.path = some e := by
  cases found : entries.entryAt? e.path with
  | none => exact absurd rfl (entryAt?_eq_none_iff.mp found e member)
  | some d =>
    obtain ⟨present, same⟩ := entryAt?_eq_some found
    rw [distinct.eq_of_path present member same]

theorem holder?_eq_some {entries : CacheEntries} {hash : String} {e : CacheEntry}
    (found : entries.holder? hash = some e) : e ∈ entries.list ∧ e.contentHash = hash :=
  ⟨List.mem_of_find?_eq_some found, by simpa using List.find?_some found⟩

theorem mover?_eq_some_iff {entries : CacheEntries} {asset : Asset} {e : CacheEntry} :
    entries.mover? asset = some e ↔
      entries.holder? asset.contentHash = some e ∧ e.path ≠ asset.path ∧ e.count = 0 := by
  simp [mover?, Option.filter_eq_some_iff]

theorem mover?_of_holder? {entries : CacheEntries} {asset : Asset} {e : CacheEntry}
    (holds : entries.holder? asset.contentHash = some e) :
    entries.mover? asset = if e.path ≠ asset.path ∧ e.count = 0 then some e else none := by
  simp [mover?, holds, Option.filter]

theorem entryAt?_of_byPath? {entries : CacheEntries} {path : String} {place : Nat}
    (search : entries.byPath? path = some place) :
    ∃ e, entries.list[place]? = some e ∧ entries.entryAt? path = some e := by
  have inside := (List.findIdx?_eq_some_iff_getElem.mp search).1
  refine ⟨entries.list[place], List.getElem?_eq_getElem inside, ?_⟩
  rw [entryAt?, List.find?_eq_bind_findIdx?_getElem?]
  simp only [byPath?] at search
  rw [search, Option.bind_some, List.getElem?_eq_getElem inside]

theorem holder?_of_byHash? {entries : CacheEntries} {hash : String} {place : Nat}
    (search : entries.byHash? hash = some place) :
    ∃ e, entries.list[place]? = some e ∧ entries.holder? hash = some e := by
  have inside := (List.findIdx?_eq_some_iff_getElem.mp search).1
  refine ⟨entries.list[place], List.getElem?_eq_getElem inside, ?_⟩
  rw [holder?, List.find?_eq_bind_findIdx?_getElem?]
  simp only [byHash?] at search
  rw [search, Option.bind_some, List.getElem?_eq_getElem inside]

theorem entryAt?_of_byPath?_eq_none {entries : CacheEntries} {path : String}
    (search : entries.byPath? path = none) : entries.entryAt? path = none := by
  rw [entryAt?, List.find?_eq_bind_findIdx?_getElem?]
  exact congrArg (Option.bind · _) search

theorem holder?_of_byHash?_eq_none {entries : CacheEntries} {hash : String}
    (search : entries.byHash? hash = none) : entries.holder? hash = none := by
  rw [holder?, List.find?_eq_bind_findIdx?_getElem?]
  exact congrArg (Option.bind · _) search

/-- An entry that is not dropped stays in range, at the place that is corrected for the drop. -/
theorem dropAt_getElem? (entries : CacheEntries) (path : String) {place : Nat} {e : CacheEntry}
    (found : entries.list[place]? = some e) {dropped : Option Nat} (kept : dropped ≠ some place) :
    (entries.dropAt dropped path).list[placeAfterDrop place dropped]? = some e := by
  cases dropped with
  | none => exact found
  | some p =>
    have other : p ≠ place := fun same => kept (congrArg some same)
    simp only [dropAt, placeAfterDrop, List.getElem?_eraseIdx]
    split_ifs with before low low
    · omega
    · rwa [show place - 1 + 1 = place by omega]
    · exact found
    · omega

theorem overwrite_eq {entries : CacheEntries} (distinct : DistinctPaths entries.list)
    {asset : Asset} {place : Nat} {d : CacheEntry} (found : entries.list[place]? = some d)
    (here : d.path = asset.path) :
    entries.overwrite place asset = entries.withOverwritten asset := by
  simp only [overwrite, modify, withOverwritten, modify_eq_map distinct found, here]
  rfl

/-- Bumping the count is a special case of new content, for an entry that has the content. -/
theorem modify_reference_eq {entries : CacheEntries} (distinct : DistinctPaths entries.list)
    {asset : Asset} {place : Nat} {d : CacheEntry} (found : entries.list[place]? = some d)
    (here : d.path = asset.path) (same : d.contentHash = asset.contentHash) :
    entries.modify place CacheEntry.reference = entries.withOverwritten asset := by
  rw [← overwrite_eq distinct found here]
  simp only [overwrite, modify, modify_eq_map distinct found]
  congr 1
  apply List.map_congr_left
  intro e member
  by_cases equal : e.path = d.path
  · obtain rfl := distinct.eq_of_path member (List.mem_of_getElem? found) equal
    simp [CacheEntry.atPath, CacheEntry.replaceContent_of_eq same]
  · simp [CacheEntry.atPath, equal]

/-- Dropping the entry with a path leaves the others and notes its file. -/
theorem dropAt_eq {entries : CacheEntries} (distinct : DistinctPaths entries.list)
    (path : String) :
    entries.dropAt (entries.byPath? path) path =
      { list := entries.list.filter fun e => e.path != path
        pendingDeletes := entries.pendingDeletes ++ leftBehind (entries.entryAt? path) path } := by
  cases search : entries.byPath? path with
  | none =>
    have missing := entryAt?_of_byPath?_eq_none search
    have absent : entries.list.filter (fun e => e.path != path) = entries.list :=
      List.filter_eq_self.mpr fun e member =>
        bne_iff_ne.mpr (entryAt?_eq_none_iff.mp missing e member)
    simp [dropAt, leftBehind, absent, missing]
  | some place =>
    obtain ⟨d, found, taken⟩ := entryAt?_of_byPath? search
    obtain ⟨_, here⟩ := entryAt?_eq_some taken
    simp only [dropAt, eraseIdx_eq_filter distinct found, here, found, taken]

/-- By places or by paths, a relocation comes to the same entries. -/
theorem relocate_eq {entries : CacheEntries} (distinct : DistinctPaths entries.list)
    {asset : Asset} {place : Nat} {mover : CacheEntry}
    (found : entries.list[place]? = some mover) (elsewhere : mover.path ≠ asset.path) :
    entries.relocate (entries.byPath? asset.path) place asset =
      entries.withMoved mover asset := by
  have kept : entries.byPath? asset.path ≠ some place := by
    intro search
    obtain ⟨d, found', taken⟩ := entryAt?_of_byPath? search
    obtain rfl := Option.some.inj (found.symm.trans found')
    exact elsewhere (entryAt?_eq_some taken).2
  have moved := entries.dropAt_getElem? asset.path found kept
  rw [dropAt_eq distinct] at moved
  simp only [relocate, dropAt_eq distinct, modify, withMoved,
    modify_eq_map (distinct.filter _) moved]
  rfl

theorem isIdle_eq {entries : CacheEntries} {place : Nat} {e : CacheEntry}
    (found : entries.list[place]? = some e) : entries.isIdle place = (e.count == 0) := by
  simp [isIdle, found]

/-- What a merge does, by paths: an idle entry with the content moves to the path of the asset and
displaces what is there; without one the entry there takes the content, or a new entry is made. -/
theorem merge_eq {entries : CacheEntries} (distinct : DistinctPaths entries.list) (asset : Asset) :
    entries.merge asset =
      match entries.mover? asset, entries.entryAt? asset.path with
      | some mover, _ => entries.withMoved mover asset
      | none, some _ => entries.withOverwritten asset
      | none, none => entries.append asset := by
  unfold merge
  cases byPath : entries.byPath? asset.path with
  | none =>
    have missing := entryAt?_of_byPath?_eq_none byPath
    cases byHash : entries.byHash? asset.contentHash with
    | none => simp [mover?, missing, holder?_of_byHash?_eq_none byHash]
    | some h =>
      obtain ⟨mover, found, holds⟩ := holder?_of_byHash? byHash
      have elsewhere := entryAt?_eq_none_iff.mp missing mover (List.mem_of_getElem? found)
      have moved := relocate_eq distinct found elsewhere
      rw [byPath] at moved
      by_cases idle : mover.count = 0
      · simp [mover?_of_holder? holds, isIdle_eq found, elsewhere, idle, moved]
      · simp [mover?_of_holder? holds, missing, isIdle_eq found, idle]
  | some p =>
    obtain ⟨d, place, taken⟩ := entryAt?_of_byPath? byPath
    obtain ⟨_, here⟩ := entryAt?_eq_some taken
    have overwritten := overwrite_eq distinct place here
    cases byHash : entries.byHash? asset.contentHash with
    | none => simp [mover?, taken, holder?_of_byHash?_eq_none byHash, overwritten]
    | some h =>
      obtain ⟨mover, found, holds⟩ := holder?_of_byHash? byHash
      obtain ⟨_, same⟩ := holder?_eq_some holds
      by_cases both : p = h
      · subst both
        obtain rfl := Option.some.inj (place.symm.trans found)
        simp [mover?_of_holder? holds, taken, here, modify_reference_eq distinct place here same]
      · have elsewhere : mover.path ≠ asset.path := fun equal =>
          both (distinct.place_eq place found (here.trans equal.symm))
        have moved := relocate_eq distinct found elsewhere
        rw [byPath] at moved
        by_cases idle : mover.count = 0
        · simp [mover?_of_holder? holds, isIdle_eq found, elsewhere, idle, both, moved]
        · simp [mover?_of_holder? holds, taken, isIdle_eq found, idle, both, overwritten]

/-- What becomes of an entry in a merge; it goes if another one takes its path. -/
def merged? (entries : CacheEntries) (asset : Asset) (e : CacheEntry) : Option CacheEntry :=
  match entries.mover? asset with
  | some mover =>
    if e.path = asset.path then none
    else some (e.atPath mover.path (CacheEntry.relocated asset))
  | none => some (e.atPath asset.path (CacheEntry.overwritten asset))

/-- The entry that a merge makes, if nothing has the path and nothing moves there. -/
def created (entries : CacheEntries) (asset : Asset) : List CacheEntry :=
  match entries.mover? asset, entries.entryAt? asset.path with
  | none, none => [.ofAsset asset]
  | _, _ => []

/-- A merge changes every entry on its own and may add one at the end. -/
theorem list_merge {entries : CacheEntries} (distinct : DistinctPaths entries.list)
    (asset : Asset) :
    (entries.merge asset).list =
      entries.list.filterMap (entries.merged? asset) ++ entries.created asset := by
  rw [merge_eq distinct]
  cases moves : entries.mover? asset with
  | some mover =>
    have each : entries.merged? asset = fun e =>
        if e.path = asset.path then none
        else some (e.atPath mover.path (CacheEntry.relocated asset)) := by
      funext e
      rw [merged?, moves]
    rw [each]
    simp only [withMoved, created, moves, List.append_nil]
    induction entries.list with
    | nil => rfl
    | cons e rest ih => by_cases here : e.path = asset.path <;> simp [here, ih]
  | none =>
    have each : entries.merged? asset =
        some ∘ CacheEntry.atPath asset.path (CacheEntry.overwritten asset) := by
      funext e
      rw [merged?, moves, Function.comp_apply]
    rw [each, List.filterMap_eq_map]
    cases taken : entries.entryAt? asset.path with
    | some d => simp [withOverwritten, created, moves, taken]
    | none =>
      have absent : entries.list.map
          (CacheEntry.atPath asset.path (CacheEntry.overwritten asset)) = entries.list :=
        (List.map_congr_left fun e member =>
          if_neg (entryAt?_eq_none_iff.mp taken e member)).trans (List.map_id' _)
      simp [append, created, moves, taken, absent]

/-- The three things that can become of an entry. -/
theorem merged?_eq_some {entries : CacheEntries} (distinct : DistinctPaths entries.list)
    {asset : Asset} {d e : CacheEntry} (member : d ∈ entries.list)
    (becomes : entries.merged? asset d = some e) :
    (e = d ∧ d.path ≠ asset.path) ∨ (d.path = asset.path ∧ e = d.overwritten asset) ∨
      (entries.mover? asset = some d ∧ e = d.relocated asset) := by
  unfold merged? CacheEntry.atPath at becomes
  cases moves : entries.mover? asset with
  | some mover =>
    simp only [moves] at becomes
    split_ifs at becomes with here there
    · have same := distinct.eq_of_path member
        (holder?_eq_some (mover?_eq_some_iff.mp moves).1).1 there
      exact .inr (.inr ⟨congrArg some same.symm, (Option.some.inj becomes).symm⟩)
    · exact .inl ⟨(Option.some.inj becomes).symm, here⟩
  | none =>
    simp only [moves] at becomes
    split_ifs at becomes with here
    · exact .inr (.inl ⟨here, (Option.some.inj becomes).symm⟩)
    · exact .inl ⟨(Option.some.inj becomes).symm, here⟩

/-- Drops a reference of the entry with the path and the content of an asset. -/
theorem release_eq {entries : CacheEntries} (distinct : DistinctPaths entries.list)
    (asset : Asset) :
    entries.release asset =
      { entries with
        list := entries.list.map fun e =>
          if e.path = asset.path ∧ e.contentHash = asset.contentHash then e.release else e } := by
  unfold release
  split
  · next place found =>
    obtain ⟨inside, same, _⟩ := List.findIdx?_eq_some_iff_getElem.mp found
    simp only [Bool.and_eq_true, beq_iff_eq] at same
    have there := List.getElem?_eq_getElem inside
    simp only [modify, modify_eq_map distinct there]
    congr 1
    apply List.map_congr_left
    intro e member
    by_cases here : e.path = entries.list[place].path
    · obtain rfl := distinct.eq_of_path member (List.getElem_mem inside) here
      simp [CacheEntry.atPath, same]
    · have other : e.path ≠ asset.path := fun equal => here (equal.trans same.1.symm)
      simp [CacheEntry.atPath, here, other]
  · next missing =>
    have absent : ∀ e ∈ entries.list,
        ¬ (e.path = asset.path ∧ e.contentHash = asset.contentHash) := by
      simpa using missing
    have same : entries.list.map (fun e =>
        if e.path = asset.path ∧ e.contentHash = asset.contentHash then e.release else e) =
        entries.list :=
      (List.map_congr_left fun e member => if_neg (absent e member)).trans (List.map_id' _)
    rw [same]

/-! ## Paths stay distinct -/

/-- Giving the entry of a path a path that no other entry has keeps all paths distinct. -/
theorem DistinctPaths.map_atPath {list : List CacheEntry} (distinct : DistinctPaths list)
    {path target : String} {f : CacheEntry → CacheEntry}
    (renames : ∀ e, e.path = path → (f e).path = target)
    (free : ∀ e ∈ list, e.path = target → e.path = path) :
    DistinctPaths (list.map (CacheEntry.atPath path f)) := by
  unfold DistinctPaths
  rw [List.map_map]
  refine List.Nodup.map_on ?_ (List.Nodup.of_map _ distinct)
  intro d first e second same
  simp only [Function.comp_apply, CacheEntry.atPath] at same
  split_ifs at same with left right right
  · exact distinct.eq_of_path first second (left.trans right.symm)
  · exact absurd (free e second (same.symm.trans (renames d left))) right
  · exact absurd (free d first (same.trans (renames e right))) left
  · exact distinct.eq_of_path first second same

theorem DistinctPaths.map {list : List CacheEntry} (distinct : DistinctPaths list)
    {f : CacheEntry → CacheEntry} (keeps : ∀ e, (f e).path = e.path) :
    DistinctPaths (list.map f) := by
  unfold DistinctPaths
  rwa [List.map_map, show CacheEntry.path ∘ f = CacheEntry.path from funext keeps]

/-- No merge makes two entries with the same path. -/
theorem DistinctPaths.merge {entries : CacheEntries} (distinct : DistinctPaths entries.list)
    (asset : Asset) : DistinctPaths (entries.merge asset).list := by
  rw [merge_eq distinct]
  split
  · refine (distinct.filter _).map_atPath (fun _ _ => rfl) fun e member here => ?_
    exact absurd here (by simpa using (List.mem_filter.mp member).2)
  · exact distinct.map_atPath (fun _ here => by simpa using here) fun _ _ here => here
  · next missing =>
    simp only [append, DistinctPaths, List.map_append, List.nodup_append]
    refine ⟨distinct, List.nodup_singleton _, ?_⟩
    intro path present other new
    obtain ⟨e, member, rfl⟩ := List.mem_map.mp present
    obtain rfl := List.mem_singleton.mp new
    exact entryAt?_eq_none_iff.mp missing e member

theorem DistinctPaths.mergeAll {entries : CacheEntries} (distinct : DistinctPaths entries.list)
    (assets : List Asset) : DistinctPaths (entries.mergeAll assets).list := by
  induction assets generalizing entries with
  | nil => exact distinct
  | cons asset rest ih => exact ih (distinct.merge asset)

theorem DistinctPaths.release {entries : CacheEntries} (distinct : DistinctPaths entries.list)
    (asset : Asset) : DistinctPaths (entries.release asset).list := by
  rw [release_eq distinct]
  exact distinct.map fun e => by split <;> rfl

theorem DistinctPaths.unreferenced {entries : CacheEntries}
    (distinct : DistinctPaths entries.list) : DistinctPaths entries.unreferenced.list :=
  distinct.map fun _ => rfl

theorem DistinctPaths.apply {entries : CacheEntries} (distinct : DistinctPaths entries.list)
    (assets : List Asset) : DistinctPaths (entries.apply assets).list :=
  distinct.unreferenced.mergeAll assets

/-! ## Finding entries after a merge -/

theorem entryAt?_eq_some_iff {entries : CacheEntries} (distinct : DistinctPaths entries.list)
    {path : String} {e : CacheEntry} :
    entries.entryAt? path = some e ↔ e ∈ entries.list ∧ e.path = path := by
  constructor
  · exact entryAt?_eq_some
  · rintro ⟨member, rfl⟩
    exact distinct.entryAt?_eq member

/-- The entry that is at the path of an asset once it is merged. -/
def mergedEntry (entries : CacheEntries) (asset : Asset) : CacheEntry :=
  match entries.mover? asset, entries.entryAt? asset.path with
  | some mover, _ => mover.relocated asset
  | none, some e => e.overwritten asset
  | none, none => .ofAsset asset

/-- After a merge, the merged entry stands at the path of the asset. -/
theorem entryAt?_merge_self {entries : CacheEntries} (distinct : DistinctPaths entries.list)
    (asset : Asset) :
    (entries.merge asset).entryAt? asset.path = some (entries.mergedEntry asset) := by
  rw [entryAt?_eq_some_iff (distinct.merge asset), merge_eq distinct, mergedEntry]
  cases moves : entries.mover? asset with
  | some mover =>
    obtain ⟨holds, elsewhere, _⟩ := mover?_eq_some_iff.mp moves
    have present : mover ∈ entries.list.filter fun e => e.path != asset.path :=
      List.mem_filter.mpr ⟨(holder?_eq_some holds).1, by simpa using elsewhere⟩
    exact ⟨List.mem_map.mpr ⟨mover, present, if_pos rfl⟩, rfl⟩
  | none =>
    cases taken : entries.entryAt? asset.path with
    | some e =>
      obtain ⟨member, here⟩ := entryAt?_eq_some taken
      exact ⟨List.mem_map.mpr ⟨e, member, if_pos here⟩, by simpa using here⟩
    | none => exact ⟨List.mem_append_right _ (List.mem_singleton_self _), rfl⟩

/-- Elsewhere a merge takes the entry away that it moves, and changes nothing else. -/
theorem entryAt?_merge_of_ne {entries : CacheEntries} (distinct : DistinctPaths entries.list)
    {asset : Asset} {path : String} (elsewhere : path ≠ asset.path) :
    (entries.merge asset).entryAt? path =
      if (entries.mover? asset).any fun mover => mover.path == path then none
      else entries.entryAt? path := by
  ext e
  rw [entryAt?_eq_some_iff (distinct.merge asset), merge_eq distinct]
  cases moves : entries.mover? asset with
  | some mover =>
    have member : e ∈ (entries.withMoved mover asset).list ∧ e.path = path ↔
        (e ∈ entries.list ∧ e.path = path) ∧ mover.path ≠ path := by
      simp only [withMoved, List.mem_map, List.mem_filter, bne_iff_ne, CacheEntry.atPath]
      constructor
      · rintro ⟨⟨d, ⟨present, _⟩, rfl⟩, same⟩
        split_ifs at same ⊢ with there
        · exact absurd same.symm elsewhere
        · exact ⟨⟨present, same⟩, fun equal => there (same.trans equal.symm)⟩
      · rintro ⟨⟨present, rfl⟩, other⟩
        exact ⟨⟨e, ⟨present, elsewhere⟩, if_neg (Ne.symm other)⟩, rfl⟩
    simp only [member, Option.any_some, beq_iff_eq]
    split_ifs with there
    · simp [there]
    · simp [there, entryAt?_eq_some_iff distinct]
  | none =>
    simp only [Option.any_none, Bool.false_eq_true, if_false, entryAt?_eq_some_iff distinct]
    cases taken : entries.entryAt? asset.path with
    | some d =>
      simp only [withOverwritten, List.mem_map, CacheEntry.atPath]
      constructor
      · rintro ⟨⟨d, present, rfl⟩, same⟩
        split_ifs at same ⊢ with here
        · have there := (CacheEntry.path_overwritten asset d).trans here
          exact absurd (same.symm.trans there) elsewhere
        · exact ⟨present, same⟩
      · rintro ⟨present, rfl⟩
        exact ⟨⟨e, present, if_neg elsewhere⟩, rfl⟩
    | none =>
      simp only [append, List.mem_append, List.mem_singleton]
      constructor
      · rintro ⟨present | rfl, same⟩
        · exact ⟨present, same⟩
        · exact absurd same.symm elsewhere
      · exact fun both => ⟨.inl both.1, both.2⟩

end CacheEntries

end Storyboard
