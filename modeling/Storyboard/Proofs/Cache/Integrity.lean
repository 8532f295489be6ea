import Storyboard.Proofs.Cache.Places

/-! # The entries stay sound as a list

Two entries never fight over one file: their paths differ, and so do the places of the files that
are still good. Merging finds entries by their places in the list and drops one of them on the way;
it always finds them, and it works on the entry that it has looked for. None of this depends on what
the files do, so it holds whichever deletions, moves and drawings fail.
-/

namespace Storyboard

namespace CacheEntries

/-! ## Places in the list -/

def modify? (entries : CacheEntries) (place : Nat) (f : CacheEntry → CacheEntry) :
    Option CacheEntries :=
  if place < entries.list.length then some (entries.modify place f) else none

def dropAt? (entries : CacheEntries) (place : Option Nat) (path : String) : Option CacheEntries :=
  if ∀ p ∈ place, p < entries.list.length then some (entries.dropAt place path) else none

/-- Moves an entry as a merge does, with a look at every place before it is used. -/
def relocate? (entries : CacheEntries) (taken : Option Nat) (place : Nat) (asset : Asset) :
    Option CacheEntries := do
  let rest ← entries.dropAt? taken asset.path
  rest.modify? (placeAfterDrop place taken) fun e => ({ e with path := asset.path }).reference

/-- A merge that looks at every place before it uses it, and gives up where there is no entry. -/
def mergeInRange? (entries : CacheEntries) (asset : Asset) : Option CacheEntries :=
  match entries.byPath? asset.path, entries.byHash? asset.contentHash with
  | some p, some h =>
    if p = h then entries.modify? p CacheEntry.reference
    else do
      let holder ← entries.list[h]?
      if holder.count = 0 then entries.relocate? (some p) h asset
      else entries.modify? p fun e => (e.replaceContent asset).reference
  | some p, none => entries.modify? p fun e => (e.replaceContent asset).reference
  | none, some h => do
    let holder ← entries.list[h]?
    if holder.count = 0 then entries.relocate? none h asset else some (entries.append asset)
  | none, none => some (entries.append asset)

theorem lt_of_byPath? {entries : CacheEntries} {path : String} {place : Nat}
    (search : entries.byPath? path = some place) : place < entries.list.length :=
  (List.findIdx?_eq_some_iff_getElem.mp search).1

/-- The checked relocation finds the place of its entry after the drop. -/
theorem relocate?_eq {entries : CacheEntries} {asset : Asset} {taken : Option Nat} {place : Nat}
    {e : CacheEntry} (search : entries.byPath? asset.path = taken)
    (found : entries.list[place]? = some e) (kept : taken ≠ some place) :
    entries.relocate? taken place asset = some (entries.relocate taken place asset) := by
  have inside : ∀ p ∈ taken, p < entries.list.length := fun p here =>
    lt_of_byPath? (search.trans here)
  have there := entries.dropAt_getElem? asset.path found kept
  have moves := (List.getElem?_eq_some_iff.mp there).1
  rw [relocate?, dropAt?, if_pos inside]
  exact if_pos moves

/-- A merge never reaches outside the list. -/
theorem mergeInRange?_eq (entries : CacheEntries) (asset : Asset) :
    entries.mergeInRange? asset = some (entries.merge asset) := by
  unfold mergeInRange? merge
  cases byPath : entries.byPath? asset.path with
  | none => cases byHash : entries.byHash? asset.contentHash with
    | none => rfl
    | some h =>
      obtain ⟨holder, found, _⟩ := holder?_of_byHash? byHash
      have moves := relocate?_eq byPath found nofun
      by_cases idle : holder.count = 0 <;> simp [found, isIdle_eq found, idle, moves]
  | some p =>
    have inside := lt_of_byPath? byPath
    have overwrites : (entries.modify? p fun e => (e.replaceContent asset).reference) =
        some (entries.overwrite p asset) := if_pos inside
    cases byHash : entries.byHash? asset.contentHash with
    | none => exact overwrites
    | some h =>
      obtain ⟨holder, found, _⟩ := holder?_of_byHash? byHash
      by_cases same : p = h
      · simp only [if_pos same]
        exact if_pos inside
      · have moves := relocate?_eq byPath found fun equal => same (Option.some.inj equal)
        by_cases idle : holder.count = 0 <;>
          simp [found, isIdle_eq found, idle, same, moves, overwrites]

/-- What a merge finds at the places that it works on. -/
structure FindsPlaces (entries : CacheEntries) (asset : Asset) : Prop where
  /-- The place found by path has the only entry with the path. -/
  byPath : ∀ p, entries.byPath? asset.path = some p → ∃ e, entries.list[p]? = some e ∧
    e.path = asset.path ∧ ∀ q d, entries.list[q]? = some d → d.path = asset.path → q = p
  /-- The place found by content has the first entry with the content. -/
  byHash : ∀ h, entries.byHash? asset.contentHash = some h → ∃ e, entries.list[h]? = some e ∧
    entries.holder? asset.contentHash = some e
  /-- Once the entry with the path is dropped, the corrected place has the entry with the content,
  and the path is free. -/
  afterDrop : ∀ h, entries.byHash? asset.contentHash = some h →
    entries.byPath? asset.path ≠ some h →
      (∃ e, (entries.dropAt (entries.byPath? asset.path) asset.path).list[placeAfterDrop h
          (entries.byPath? asset.path)]? = some e ∧
        entries.holder? asset.contentHash = some e) ∧
      ∀ e ∈ (entries.dropAt (entries.byPath? asset.path) asset.path).list, e.path ≠ asset.path
  /-- Every place that is used is in range. -/
  inRange : entries.mergeInRange? asset = some (entries.merge asset)

/-- Every place that a merge looks for is found, because no two entries have the same path. -/
theorem DistinctPaths.findsPlaces {entries : CacheEntries}
    (distinct : DistinctPaths entries.list) (asset : Asset) : entries.FindsPlaces asset := by
  refine ⟨fun p search => ?_, fun h search => holder?_of_byHash? search,
    fun h search apart => ⟨?_, ?_⟩, mergeInRange?_eq entries asset⟩
  · obtain ⟨e, found, taken⟩ := entryAt?_of_byPath? search
    have here := (entryAt?_eq_some taken).2
    exact ⟨e, found, here, fun q d there same =>
      distinct.place_eq there found (same.trans here.symm)⟩
  · obtain ⟨e, found, holds⟩ := holder?_of_byHash? search
    exact ⟨e, entries.dropAt_getElem? asset.path found apart, holds⟩
  · rw [dropAt_eq distinct]
    intro e member
    simpa using (List.mem_filter.mp member).2

/-- The merges of assets in turn, each with the entries that it starts from. -/
def mergings : CacheEntries → List Asset → List (CacheEntries × Asset)
  | _, [] => []
  | entries, asset :: rest => (entries, asset) :: (entries.merge asset).mergings rest

theorem DistinctPaths.of_mem_mergings {entries : CacheEntries}
    (distinct : DistinctPaths entries.list) {assets : List Asset} {merging : CacheEntries × Asset}
    (member : merging ∈ entries.mergings assets) : DistinctPaths merging.1.list := by
  induction assets generalizing entries with
  | nil => cases member
  | cons asset rest ih =>
    rcases List.mem_cons.mp member with rfl | later
    · exact distinct
    · exact ih (distinct.merge asset) later

end CacheEntries

/-- The merges that a step consists of, each with the entries that it starts from. -/
def CacheStep.mergings (entries : CacheEntries) : CacheStep → List (CacheEntries × Asset)
  | .add asset => entries.mergings [asset]
  | .addRange assets => entries.mergings assets
  | .remove _ => []
  | .apply assets => entries.unreferenced.mergings assets
  | .pass => []

/-! ## Histories -/

namespace Cache

variable {σ : Type}

/-- The list of entries that a history leads to, and what the next step finds in it. -/
structure Intact (files : AssetFiles (StateM σ)) (s : σ) (steps : List CacheStep) : Prop where
  /-- No path has two entries. -/
  paths : ((after files s steps).1.entries.list.map CacheEntry.path).Nodup
  /-- A good entry remembers a place. -/
  placed : ∀ e ∈ (after files s steps).1.entries.list, e.stale = false → e.onDisk.isSome
  /-- No place is remembered by two good entries. -/
  places : (((after files s steps).1.entries.list.filter fun e => !e.stale).map
    CacheEntry.onDisk).Nodup
  /-- Right after a pass, that place is the path. -/
  afterPass : ∀ e ∈ (after files s (steps ++ [.pass])).1.entries.list, e.stale = false →
    e.onDisk = some e.path
  /-- Every merge of the next step finds what it looks for, and stays inside the list. -/
  merges : ∀ next : CacheStep, ∀ merging ∈ next.mergings (after files s steps).1.entries,
    merging.1.FindsPlaces merging.2

/-- Whatever the files do, every history keeps the list of entries intact. -/
theorem intact_after (files : AssetFiles (StateM σ)) (s : σ) (steps : List CacheStep) :
    Intact files s steps := by
  have distinct := CacheEntries.distinct_after files s steps
  have anchored := CacheEntries.anchored_after files s steps
  refine ⟨distinct, fun e member good => ?_, anchored.nodup_onDisk distinct, ?_, ?_⟩
  · exact Option.isSome_iff_ne_none.mpr (anchored.placed e member good)
  · rw [(after_pass files s steps).1]
    exact fun e member => anchored.inPlace_pass member
  · intro next merging member
    refine CacheEntries.DistinctPaths.findsPlaces ?_ merging.2
    cases next with
    | add asset => exact distinct.of_mem_mergings member
    | addRange assets => exact distinct.of_mem_mergings member
    | remove asset => cases member
    | apply assets => exact distinct.unreferenced.of_mem_mergings member
    | pass => cases member

end Cache

end Storyboard
