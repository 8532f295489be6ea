import Storyboard.Asset.Digest
import Storyboard.Proofs.Cache.Files

/-! # Reference counts

Every request counts one reference, except for a merge that displaces: when the first entry with the
content is idle somewhere else, it takes the place of a referenced entry at the path, and the
references of that entry are forgotten. Counts are right exactly as long as no merge displaces.
-/

namespace Storyboard

namespace Asset

def isAt (path hash : String) (asset : Asset) : Bool :=
  asset.path == path && asset.contentHash == hash

theorem isAt_iff {path hash : String} {asset : Asset} :
    asset.isAt path hash = true ↔ asset.path = path ∧ asset.contentHash = hash := by
  simp [isAt]

end Asset

namespace CacheEntries

/-- The references of the entry with a path and a content; an absent entry has none. -/
def references (entries : CacheEntries) (path hash : String) : Nat :=
  match entries.entryAt? path with
  | some e => if e.contentHash = hash then e.count else 0
  | none => 0

theorem mergeAll_cons (entries : CacheEntries) (asset : Asset) (rest : List Asset) :
    entries.mergeAll (asset :: rest) = (entries.merge asset).mergeAll rest := rfl

/-- Whether a merge forgets the references of the entry at the path of the asset. -/
def displaces (entries : CacheEntries) (asset : Asset) : Bool :=
  (entries.mover? asset).isSome && (entries.entryAt? asset.path).any fun e => e.count != 0

theorem displaces_iff {entries : CacheEntries} {asset : Asset} :
    entries.displaces asset = true ↔ ∃ mover e, entries.mover? asset = some mover ∧
      entries.entryAt? asset.path = some e ∧ 0 < e.count := by
  simp [displaces, Option.isSome_iff_exists, Option.any_eq_true, Nat.pos_iff_ne_zero]

/-- Whether one of the merges of assets in turn displaces. -/
def displacesAny : CacheEntries → List Asset → Bool
  | _, [] => false
  | entries, asset :: rest => entries.displaces asset || (entries.merge asset).displacesAny rest

/-- The entries have the paths and contents of some assets. -/
def Follows (assets : List Asset) (entries : CacheEntries) : Prop :=
  ∀ e ∈ entries.list, ∃ asset ∈ assets, asset.path = e.path ∧ asset.contentHash = e.contentHash

end CacheEntries

/-- Assets that ask for one content at each path. -/
def OneContent (assets : List Asset) : Prop :=
  ∀ a ∈ assets, ∀ b ∈ assets, a.path = b.path → a.contentHash = b.contentHash

namespace CacheEntries

variable {entries : CacheEntries} {assets : List Asset}

theorem references_of_mem (distinct : DistinctPaths entries.list) {e : CacheEntry}
    (member : e ∈ entries.list) : entries.references e.path e.contentHash = e.count := by
  simp [references, distinct.entryAt?_eq member]

theorem references_of_absent {path hash : String}
    (absent : ∀ e ∈ entries.list, e.path = path → e.contentHash ≠ hash) :
    entries.references path hash = 0 := by
  unfold references
  split
  · next e found =>
    obtain ⟨member, here⟩ := entryAt?_eq_some found
    exact if_neg (absent e member here)
  · rfl

/-- Entries have no other paths and contents than those that were asked for. -/
theorem entrywise_follows (assets : List Asset) : Entrywise (· ∈ assets) fun e =>
    ∃ asset ∈ assets, asset.path = e.path ∧ asset.contentHash = e.contentHash := by
  constructor
  · exact fun asset asked => ⟨asset, asked, rfl, rfl⟩
  · exact fun asset e asked same _ => ⟨asset, asked, rfl, same.symm⟩
  · intro asset e asked here _
    refine ⟨asset, asked, ?_, ?_⟩
    · rw [CacheEntry.path_overwritten, here]
    · rw [CacheEntry.contentHash_overwritten]
  · exact fun e references before => before

/-- An entry in use at the path of an asset has its content. -/
def Fits (entries : CacheEntries) (asset : Asset) : Prop :=
  ∀ e, entries.entryAt? asset.path = some e → 0 < e.count → e.contentHash = asset.contentHash

/-- References to some assets can be counted on top of those that there are, within 32 bits. -/
def HasRoom (entries : CacheEntries) (list : List Asset) : Prop :=
  ∀ path hash, entries.references path hash + list.countP (Asset.isAt path hash) < UInt32.size

theorem Follows.fits (follows : entries.Follows assets) (one : OneContent assets)
    {asset : Asset} (asked : asset ∈ assets) : entries.Fits asset := by
  intro e taken _
  obtain ⟨member, here⟩ := entryAt?_eq_some taken
  obtain ⟨other, asked', path, hash⟩ := follows e member
  rw [← hash]
  exact one other asked' asset asked (path.trans here)

theorem contentHash_mergedEntry (entries : CacheEntries) (asset : Asset) :
    (entries.mergedEntry asset).contentHash = asset.contentHash := by
  unfold mergedEntry
  split
  · next mover moves => exact (holder?_eq_some (mover?_eq_some_iff.mp moves).1).2
  · exact CacheEntry.contentHash_overwritten _ _
  · rfl

/-! ## One merge -/

/-- What fits an entry is counted by it, or nothing is. -/
theorem Fits.references_eq {asset : Asset} (fits : entries.Fits asset) {e : CacheEntry}
    (taken : entries.entryAt? asset.path = some e) :
    entries.references asset.path asset.contentHash = e.count := by
  by_cases used : 0 < e.count
  · simp [references, taken, fits e taken used]
  · have unused : e.count = 0 := by omega
    simp [references, taken, unused]

/-- A merge counts one reference in 32 bits, or leaves just this one if it displaces. -/
theorem references_merge_self (distinct : DistinctPaths entries.list) {asset : Asset}
    (fits : entries.Fits asset) :
    (entries.merge asset).references asset.path asset.contentHash =
      if entries.displaces asset then 1
      else (entries.references asset.path asset.contentHash + 1) % UInt32.size := by
  have one : (0 + 1) % UInt32.size = 1 := rfl
  rw [references, entryAt?_merge_self distinct]
  simp only [if_pos (contentHash_mergedEntry entries asset)]
  cases taken : entries.entryAt? asset.path with
  | none =>
    have unused : entries.references asset.path asset.contentHash = 0 := by simp [references, taken]
    cases moves : entries.mover? asset with
    | none => simp [mergedEntry, displaces, moves, taken, unused, one]
    | some mover =>
      have idle := (mover?_eq_some_iff.mp moves).2.2
      simp [mergedEntry, displaces, moves, taken, unused, idle]
  | some e =>
    have counted := fits.references_eq taken
    cases moves : entries.mover? asset with
    | none => simp [mergedEntry, displaces, moves, taken, counted]
    | some mover =>
      have idle := (mover?_eq_some_iff.mp moves).2.2
      by_cases unused : e.count = 0
      · simp [mergedEntry, displaces, moves, taken, counted, idle, unused]
      · simp [mergedEntry, displaces, moves, taken, idle, unused, one]

/-- A merge leaves the references of all others. -/
theorem references_merge_other (distinct : DistinctPaths entries.list) {asset : Asset}
    (fits : entries.Fits asset) {path hash : String} (other : asset.isAt path hash = false) :
    (entries.merge asset).references path hash = entries.references path hash := by
  by_cases here : path = asset.path
  · subst here
    have different : asset.contentHash ≠ hash := fun same => by simp [Asset.isAt, same] at other
    have before : entries.references asset.path hash = 0 := by
      unfold references
      split
      · next e taken =>
        split_ifs with same
        · by_contra used
          exact different ((fits e taken (Nat.pos_iff_ne_zero.mpr used)).symm.trans same)
        · rfl
      · rfl
    rw [before, references, entryAt?_merge_self distinct]
    exact if_neg fun same => different ((contentHash_mergedEntry entries asset).symm.trans same)
  · rw [references, entryAt?_merge_of_ne distinct here]
    split_ifs with moved
    · obtain ⟨mover, moves, there⟩ := (Option.any_eq_true _ _).mp moved
      obtain ⟨holds, _, idle⟩ := mover?_eq_some_iff.mp moves
      have taken := distinct.entryAt?_eq (holder?_eq_some holds).1
      rw [beq_iff_eq.mp there] at taken
      simp [references, taken, idle]
    · rfl

theorem references_eq_of_displaces {asset : Asset} (fits : entries.Fits asset)
    (displaced : entries.displaces asset = true) :
    0 < entries.references asset.path asset.contentHash := by
  obtain ⟨_, e, _, taken, used⟩ := displaces_iff.mp displaced
  simpa [references, taken, fits e taken used] using used

/-- A merge counts at most one reference. -/
theorem references_merge_le (distinct : DistinctPaths entries.list) {asset : Asset}
    (fits : entries.Fits asset) (path hash : String) :
    (entries.merge asset).references path hash ≤
      entries.references path hash + if asset.isAt path hash then 1 else 0 := by
  cases same : asset.isAt path hash with
  | true =>
    obtain ⟨rfl, rfl⟩ := Asset.isAt_iff.mp same
    rw [references_merge_self distinct fits, if_pos rfl]
    split
    · omega
    · exact Nat.mod_le _ _
  | false =>
    rw [references_merge_other distinct fits same]
    omega

/-- The entry at the path of an asset, if there is one, can count one more reference. -/
def HasSpare (entries : CacheEntries) (asset : Asset) : Prop :=
  ∀ e, entries.entryAt? asset.path = some e → e.count + 1 < UInt32.size

theorem HasSpare.count_pos {asset : Asset} (spare : entries.HasSpare asset) {e : CacheEntry}
    (taken : entries.entryAt? asset.path = some e) : 0 < (e.overwritten asset).count := by
  rw [CacheEntry.count_overwritten, Nat.mod_eq_of_lt (spare e taken)]
  exact Nat.succ_pos _

theorem count_relocated_pos {asset : Asset} {e : CacheEntry} (idle : e.count = 0) :
    0 < (e.relocated asset).count := by
  simp [idle]

theorem HasRoom.head {asset : Asset} {rest : List Asset}
    (room : entries.HasRoom (asset :: rest)) :
    entries.references asset.path asset.contentHash + 1 < UInt32.size := by
  have all := room asset.path asset.contentHash
  rw [List.countP_cons, if_pos (Asset.isAt_iff.mpr ⟨rfl, rfl⟩)] at all
  omega

theorem HasRoom.spare {asset : Asset} {rest : List Asset}
    (room : entries.HasRoom (asset :: rest)) (fits : entries.Fits asset) :
    entries.HasSpare asset := by
  intro e taken
  rw [← fits.references_eq taken]
  exact room.head

/-- A merge that does not displace counts one reference, if there is room for it. -/
theorem references_merge (distinct : DistinctPaths entries.list) {asset : Asset}
    (fits : entries.Fits asset) (kept : entries.displaces asset = false) {rest : List Asset}
    (room : entries.HasRoom (asset :: rest)) (path hash : String) :
    (entries.merge asset).references path hash =
      entries.references path hash + if asset.isAt path hash then 1 else 0 := by
  cases same : asset.isAt path hash with
  | true =>
    obtain ⟨rfl, rfl⟩ := Asset.isAt_iff.mp same
    rw [references_merge_self distinct fits, kept]
    exact Nat.mod_eq_of_lt room.head
  | false =>
    rw [references_merge_other distinct fits same]
    rfl

/-! ## Merges in turn -/

/-- A merge does not spoil a path for another asset with the same content there. -/
theorem Fits.merge (distinct : DistinctPaths entries.list) {asset other : Asset}
    (fits : entries.Fits other)
    (one : other.path = asset.path → asset.contentHash = other.contentHash) :
    (entries.merge asset).Fits other := by
  intro e taken used
  by_cases here : other.path = asset.path
  · rw [here, entryAt?_merge_self distinct] at taken
    obtain rfl := Option.some.inj taken
    exact (contentHash_mergedEntry entries asset).trans (one here)
  · rw [entryAt?_merge_of_ne distinct here] at taken
    split_ifs at taken
    exact fits e taken used

/-- Assets that fit what is in use, and each other. -/
structure FitsAll (entries : CacheEntries) (list : List Asset) : Prop where
  one : OneContent list
  fits : ∀ asset ∈ list, entries.Fits asset
  room : entries.HasRoom list

theorem Follows.fitsAll (follows : entries.Follows assets) (one : OneContent assets)
    {list : List Asset} (asked : list ⊆ assets) (room : entries.HasRoom list) :
    entries.FitsAll list :=
  ⟨fun a first b second => one a (asked first) b (asked second),
    fun _ member => follows.fits one (asked member), room⟩

theorem FitsAll.head {asset : Asset} {rest : List Asset} (fits : entries.FitsAll (asset :: rest)) :
    entries.Fits asset := fits.fits asset List.mem_cons_self

/-- If all of some assets fit, those after the first one still fit when it is merged. -/
theorem FitsAll.tail (distinct : DistinctPaths entries.list) {asset : Asset} {rest : List Asset}
    (fits : entries.FitsAll (asset :: rest)) : (entries.merge asset).FitsAll rest := by
  refine ⟨fun a first b second => ?_, fun other member => ?_, fun path hash => ?_⟩
  · exact fits.one a (List.mem_cons_of_mem _ first) b (List.mem_cons_of_mem _ second)
  · have later := List.mem_cons_of_mem asset member
    exact (fits.fits other later).merge distinct fun here =>
      fits.one asset List.mem_cons_self other later here.symm
  · have once := references_merge_le distinct fits.head path hash
    have all := fits.room path hash
    rw [List.countP_cons] at all
    omega

/-- Merges count at most one reference for each asset that asks for it. -/
theorem references_mergeAll_le (distinct : DistinctPaths entries.list) {list : List Asset}
    (fits : entries.FitsAll list) (path hash : String) :
    (entries.mergeAll list).references path hash ≤
      entries.references path hash + list.countP (Asset.isAt path hash) := by
  induction list generalizing entries with
  | nil => exact Nat.le_refl _
  | cons asset rest ih =>
    have once := references_merge_le distinct fits.head path hash
    have others := ih (distinct.merge asset) (fits.tail distinct)
    rw [mergeAll_cons, List.countP_cons]
    omega

/-- Merges count every asset, if none of them displaces. -/
theorem references_mergeAll (distinct : DistinctPaths entries.list) {list : List Asset}
    (fits : entries.FitsAll list) (kept : entries.displacesAny list = false)
    (path hash : String) :
    (entries.mergeAll list).references path hash =
      entries.references path hash + list.countP (Asset.isAt path hash) := by
  induction list generalizing entries with
  | nil => rfl
  | cons asset rest ih =>
    obtain ⟨kept, keptLater⟩ := Bool.or_eq_false_iff.mp kept
    have once := references_merge distinct fits.head kept fits.room path hash
    have others := ih (distinct.merge asset) (fits.tail distinct) keptLater
    rw [mergeAll_cons, List.countP_cons]
    omega

/-- What one merge forgets, the others do not make up for. -/
theorem references_mergeAll_lt (distinct : DistinctPaths entries.list) {list : List Asset}
    (fits : entries.FitsAll list) (displaced : entries.displacesAny list = true) :
    ∃ path hash, (entries.mergeAll list).references path hash <
      entries.references path hash + list.countP (Asset.isAt path hash) := by
  induction list generalizing entries with
  | nil => cases displaced
  | cons asset rest ih =>
    have next := fits.tail distinct
    by_cases here : entries.displaces asset = true
    · refine ⟨asset.path, asset.contentHash, ?_⟩
      have before := references_eq_of_displaces fits.head here
      have once := references_merge_self distinct fits.head
      rw [if_pos here] at once
      have others := references_mergeAll_le (distinct.merge asset) next asset.path
        asset.contentHash
      rw [mergeAll_cons, List.countP_cons, if_pos (Asset.isAt_iff.mpr ⟨rfl, rfl⟩)]
      omega
    · have kept : entries.displaces asset = false := Bool.eq_false_iff.mpr here
      have there : (entries.merge asset).displacesAny rest = true := by
        simpa [displacesAny, kept] using displaced
      obtain ⟨path, hash, fewer⟩ := ih (distinct.merge asset) next there
      refine ⟨path, hash, ?_⟩
      rw [references_merge distinct fits.head kept fits.room] at fewer
      rw [mergeAll_cons, List.countP_cons]
      omega

/-! ## A complete set of assets

When the assets in use are set anew, all counts start at zero. Contents that are in use are then
always found at an entry in use first, and so no merge displaces, whatever the entries were before.
-/

/-- The first entry with a content is in use, if any entry with the content is. -/
def Served (entries : CacheEntries) : Prop :=
  ∀ e ∈ entries.list, 0 < e.count → ∃ f, entries.holder? e.contentHash = some f ∧ 0 < f.count

theorem Served.displaces (served : entries.Served) {asset : Asset} (fits : entries.Fits asset) :
    entries.displaces asset = false := by
  refine Bool.eq_false_iff.mpr fun displaced => ?_
  obtain ⟨mover, e, moves, taken, used⟩ := displaces_iff.mp displaced
  obtain ⟨holds, _, idle⟩ := mover?_eq_some_iff.mp moves
  obtain ⟨f, first, positive⟩ := served e (entryAt?_eq_some taken).1 used
  rw [fits e taken used, holds] at first
  obtain rfl := Option.some.inj first
  omega

/-- An entry that takes on a content is in use. -/
theorem used_of_merged? (distinct : DistinctPaths entries.list) {asset : Asset}
    (spare : entries.HasSpare asset) {d e : CacheEntry} (member : d ∈ entries.list)
    (becomes : entries.merged? asset d = some e) (changed : e.contentHash ≠ d.contentHash) :
    0 < e.count ∧ e.contentHash = asset.contentHash := by
  rcases merged?_eq_some distinct member becomes with ⟨rfl, _⟩ | ⟨here, rfl⟩ | ⟨_, rfl⟩
  · exact absurd rfl changed
  · have taken := here ▸ distinct.entryAt?_eq member
    exact ⟨spare.count_pos taken, CacheEntry.contentHash_overwritten _ _⟩
  · exact absurd rfl changed

/-- Entries in use with other contents stay as they are. -/
theorem merged?_of_ne (distinct : DistinctPaths entries.list) {asset : Asset}
    (fits : entries.Fits asset) {d : CacheEntry} (member : d ∈ entries.list) (used : 0 < d.count)
    (other : d.contentHash ≠ asset.contentHash) : entries.merged? asset d = some d := by
  have elsewhere : d.path ≠ asset.path := fun here =>
    other (fits d (here ▸ distinct.entryAt?_eq member) used)
  unfold merged?
  cases moves : entries.mover? asset with
  | none => simp [CacheEntry.atPath, elsewhere]
  | some mover =>
    obtain ⟨present, same⟩ := holder?_eq_some (mover?_eq_some_iff.mp moves).1
    have apart : d.path ≠ mover.path := fun here =>
      other (distinct.eq_of_path member present here ▸ same)
    simp [CacheEntry.atPath, elsewhere, apart]

/-- The first entry with the content of an asset is in use once the asset is merged. -/
theorem merged?_of_holder? (distinct : DistinctPaths entries.list) {asset : Asset}
    (spare : entries.HasSpare asset) {f : CacheEntry}
    (holds : entries.holder? asset.contentHash = some f) :
    ∃ e, entries.merged? asset f = some e ∧ e.contentHash = asset.contentHash ∧ 0 < e.count := by
  obtain ⟨member, same⟩ := holder?_eq_some holds
  unfold merged?
  rw [mover?_of_holder? holds]
  by_cases moves : f.path ≠ asset.path ∧ f.count = 0
  · rw [if_pos moves]
    exact ⟨f.relocated asset, by simp [moves.1, CacheEntry.atPath], same,
      count_relocated_pos moves.2⟩
  · rw [if_neg moves]
    refine ⟨_, rfl, ?_⟩
    by_cases here : f.path = asset.path
    · have taken := here ▸ distinct.entryAt?_eq member
      simpa [CacheEntry.atPath, here] using spare.count_pos taken
    · have used : f.count ≠ 0 := fun idle => moves ⟨here, idle⟩
      simpa [CacheEntry.atPath, here, same] using Nat.pos_iff_ne_zero.mpr used

/-- If the first entry with a content goes into use or stays in use, the first entry with this
content is in use after a merge: whatever has come in front of it has taken the content on. -/
theorem holder?_merge_of_holder? (distinct : DistinctPaths entries.list) {asset : Asset}
    (spare : entries.HasSpare asset) {hash : String} {f e : CacheEntry}
    (holds : entries.holder? hash = some f) (becomes : entries.merged? asset f = some e)
    (same : e.contentHash = hash)
    (used : 0 < e.count) :
    ∃ g, (entries.merge asset).holder? hash = some g ∧ 0 < g.count := by
  obtain ⟨_, front, back, split, before⟩ := List.find?_eq_some_iff_append.mp holds
  have after : (entries.merge asset).holder? hash =
      ((front.filterMap (entries.merged? asset)).find? fun c => c.contentHash == hash).or
        (some e) := by
    rw [holder?, list_merge distinct, split, List.filterMap_append, List.filterMap_cons, becomes]
    simp [List.find?_append, same]
  rw [after]
  cases earlier : (front.filterMap (entries.merged? asset)).find?
      fun c => c.contentHash == hash with
  | none => exact ⟨e, rfl, used⟩
  | some g =>
    refine ⟨g, rfl, ?_⟩
    obtain ⟨d, present, step⟩ := List.mem_filterMap.mp (List.mem_of_find?_eq_some earlier)
    have known : d ∈ entries.list := split ▸ List.mem_append_left _ present
    have content : g.contentHash = hash := by simpa using List.find?_some earlier
    have different : d.contentHash ≠ hash := by simpa using before d present
    exact (used_of_merged? distinct spare known step (content ▸ different.symm)).1

/-- A content that no entry had is in use wherever it is after a merge. -/
theorem holder?_merge_of_absent (distinct : DistinctPaths entries.list) {asset : Asset}
    (spare : entries.HasSpare asset) {hash : String} (absent : entries.holder? hash = none)
    {e : CacheEntry} (member : e ∈ (entries.merge asset).list) (same : e.contentHash = hash) :
    ∃ g, (entries.merge asset).holder? hash = some g ∧ 0 < g.count := by
  have absent : ∀ d ∈ entries.list, d.contentHash ≠ hash := by simpa [holder?] using absent
  cases holds : (entries.merge asset).holder? hash with
  | none => exact absurd same (by simpa [holder?] using (List.find?_eq_none.mp holds) e member)
  | some g =>
    refine ⟨g, rfl, ?_⟩
    obtain ⟨present, content⟩ := holder?_eq_some holds
    rw [list_merge distinct] at present
    rcases List.mem_append.mp present with old | new
    · obtain ⟨d, known, step⟩ := List.mem_filterMap.mp old
      exact (used_of_merged? distinct spare known step (content ▸ (absent d known).symm)).1
    · unfold created at new
      split at new
      · obtain rfl := List.mem_singleton.mp new
        exact Nat.one_pos
      · cases new

/-- Only entries with the content of the asset are new or changed after a merge. -/
theorem mem_of_mem_merge (distinct : DistinctPaths entries.list) {asset : Asset} {e : CacheEntry}
    (member : e ∈ (entries.merge asset).list) (other : e.contentHash ≠ asset.contentHash) :
    e ∈ entries.list := by
  rw [list_merge distinct] at member
  rcases List.mem_append.mp member with old | new
  · obtain ⟨d, present, step⟩ := List.mem_filterMap.mp old
    rcases merged?_eq_some distinct present step with ⟨rfl, _⟩ | ⟨_, rfl⟩ | ⟨moves, rfl⟩
    · exact present
    · exact absurd (CacheEntry.contentHash_overwritten asset d) other
    · exact absurd (holder?_eq_some (mover?_eq_some_iff.mp moves).1).2 other
  · unfold created at new
    split at new
    · obtain rfl := List.mem_singleton.mp new
      exact absurd rfl other
    · cases new

/-- A merge that fits keeps the first entry of every content in use. -/
theorem Served.merge (served : entries.Served) (distinct : DistinctPaths entries.list)
    {asset : Asset} (fits : entries.Fits asset) (spare : entries.HasSpare asset) :
    (entries.merge asset).Served := by
  intro e member used
  cases holds : entries.holder? e.contentHash with
  | none => exact holder?_merge_of_absent distinct spare holds member rfl
  | some f =>
    by_cases same : e.contentHash = asset.contentHash
    · obtain ⟨g, becomes, content, positive⟩ :=
        merged?_of_holder? distinct spare (same ▸ holds)
      exact holder?_merge_of_holder? distinct spare holds becomes (content.trans same.symm) positive
    · -- The entry was in use before, so the first one with its content was, and stays as it is.
      obtain ⟨g, first, positive⟩ := served e (mem_of_mem_merge distinct member same) used
      obtain rfl := Option.some.inj (holds.symm.trans first)
      obtain ⟨known, content⟩ := holder?_eq_some holds
      have stays := merged?_of_ne distinct fits known positive (content ▸ same)
      exact holder?_merge_of_holder? distinct spare holds stays content positive

/-- Where the first entry of every content is in use, no merge displaces. -/
theorem Served.displacesAny (served : entries.Served) (distinct : DistinctPaths entries.list)
    {list : List Asset} (fits : entries.FitsAll list) : entries.displacesAny list = false := by
  induction list generalizing entries with
  | nil => rfl
  | cons asset rest ih =>
    have here := served.displaces fits.head
    have spare := fits.room.spare fits.head
    have there := ih (served.merge distinct fits.head spare) (distinct.merge asset)
      (fits.tail distinct)
    simp [CacheEntries.displacesAny, here, there]

theorem idle_of_mem_unreferenced {e : CacheEntry} (member : e ∈ entries.unreferenced.list) :
    e.count = 0 := by
  obtain ⟨d, _, rfl⟩ := List.mem_map.mp member
  rfl

theorem references_unreferenced (entries : CacheEntries) (path hash : String) :
    entries.unreferenced.references path hash = 0 := by
  unfold references
  split
  · next e found => simp [idle_of_mem_unreferenced (entryAt?_eq_some found).1]
  · rfl

/-- Setting the assets in use counts every one of them, and nothing else, whatever was in use. -/
theorem references_apply (distinct : DistinctPaths entries.list) {list : List Asset}
    (one : OneContent list)
    (few : ∀ path hash, list.countP (Asset.isAt path hash) < UInt32.size) (path hash : String) :
    (entries.apply list).references path hash = list.countP (Asset.isAt path hash) := by
  have served : entries.unreferenced.Served := fun e member used =>
    absurd used (by simp [idle_of_mem_unreferenced member])
  have fits : entries.unreferenced.FitsAll list := by
    refine ⟨one, fun asset _ e taken used => ?_, fun path hash => ?_⟩
    · exact absurd used (by simp [idle_of_mem_unreferenced (entryAt?_eq_some taken).1])
    · rw [references_unreferenced, Nat.zero_add]
      exact few path hash
  have kept := served.displacesAny distinct.unreferenced fits
  rw [apply, references_mergeAll distinct.unreferenced fits kept, references_unreferenced,
    Nat.zero_add]

/-! ## One step -/

theorem entryAt?_map {list : List CacheEntry} {pending : List String}
    {f : CacheEntry → CacheEntry} (keeps : ∀ e, (f e).path = e.path) (path : String) :
    entryAt? { list := list.map f, pendingDeletes := pending } path =
      (entryAt? { list } path).map f := by
  have same : (fun e : CacheEntry => e.path == path) ∘ f = fun e => e.path == path :=
    funext fun e => by simp [keeps e]
  simp only [entryAt?, List.find?_map, same]

/-- A release takes one reference of the path and the content, and no other. -/
theorem references_release (distinct : DistinctPaths entries.list) (asset : Asset)
    (path hash : String) : (entries.release asset).references path hash =
      if asset.isAt path hash then entries.references path hash - 1
      else entries.references path hash := by
  rw [release_eq distinct, references, entryAt?_map fun e => by split <;> rfl]
  cases taken : entries.entryAt? path with
  | none =>
    have missing : entryAt? { list := entries.list } path = none := taken
    simp [missing, references, taken]
  | some e =>
    have found : entryAt? { list := entries.list } path = some e := taken
    obtain ⟨_, rfl⟩ := entryAt?_eq_some taken
    simp only [found, Option.map_some, references, taken]
    by_cases both : e.path = asset.path ∧ e.contentHash = asset.contentHash
    · have same : asset.isAt e.path hash = true ↔ e.contentHash = hash := by
        rw [Asset.isAt_iff, both.1, both.2, eq_self_iff_true, true_and]
      rw [if_pos both]
      have kept : e.release.contentHash = e.contentHash := rfl
      by_cases content : e.contentHash = hash
      · simp [kept, same.mpr content, content]
      · simp [kept, same, content]
    · rw [if_neg both]
      split_ifs with content same same
      · obtain ⟨path, hash⟩ := Asset.isAt_iff.mp same
        exact absurd ⟨path.symm, content.trans hash.symm⟩ both
      · rfl
      · rfl
      · rfl

/-- A pass keeps all counts. -/
theorem references_pass {σ : Type} (distinct : DistinctPaths entries.list)
    (files : AssetFiles (StateM σ)) (s : σ) (path hash : String) :
    ((entries.pass files).run s).1.references path hash = entries.references path hash := by
  have distinct' := distinct.pass files s
  have idle : (∀ e ∈ entries.kept, e.path ≠ path) →
      ((entries.pass files).run s).1.references path hash = 0 := by
    intro absent
    refine references_of_absent fun d member here => ?_
    obtain ⟨e, present, keeps⟩ := pass_origin member
    exact absurd (keeps.path.symm.trans here) (absent e present)
  cases taken : entries.entryAt? path with
  | none =>
    have absent : ∀ e ∈ entries.kept, e.path ≠ path := fun e member =>
      entryAt?_eq_none_iff.mp taken e (mem_kept.mp member).1
    rw [idle absent]
    simp [references, taken]
  | some e =>
    obtain ⟨member, rfl⟩ := entryAt?_eq_some taken
    by_cases used : 0 < e.count
    · obtain ⟨d, present, keeps⟩ := pass_image files s member used
      have found := keeps.path ▸ distinct'.entryAt?_eq present
      simp [references, taken, found, keeps.contentHash, keeps.count]
    · have absent : ∀ d ∈ entries.kept, d.path ≠ e.path := by
        intro d present here
        obtain ⟨known, positive⟩ := mem_kept.mp present
        obtain rfl := distinct.eq_of_path known member here
        exact used positive
      have unused : e.count = 0 := by omega
      rw [idle absent]
      simp [references, taken, unused]

end CacheEntries

namespace CacheStep

/-- Whether a step makes the cache forget references. -/
def displaces (entries : CacheEntries) : CacheStep → Bool
  | .add asset => entries.displaces asset
  | .addRange assets => entries.displacesAny assets
  | .remove _ => false
  | .apply _ => false
  | .pass => false

/-- The count of a path and a content after a step, by the count before it. -/
def counted (path hash : String) (count : Nat) : CacheStep → Nat
  | .add asset => count + if asset.isAt path hash then 1 else 0
  | .addRange assets => count + assets.countP (Asset.isAt path hash)
  | .remove asset => if asset.isAt path hash then count - 1 else count
  | .apply assets => assets.countP (Asset.isAt path hash)
  | .pass => count

/-- The count of a path and a content after a history: how often they are among the assets that
were last set, and what was added and removed since then. -/
def expectedCount (path hash : String) (steps : List CacheStep) : Nat :=
  steps.foldl (counted path hash) 0

/-- At every point of a history, 32 bits hold the number of references of each path and content. -/
def Countable (steps : List CacheStep) : Prop :=
  ∀ front, front <+: steps → ∀ path hash, expectedCount path hash front < UInt32.size

theorem expectedCount_snoc (path hash : String) (front : List CacheStep) (next : CacheStep) :
    expectedCount path hash (front ++ [next]) =
      next.counted path hash (expectedCount path hash front) :=
  List.foldl_concat ..

/-- There are never more references than there were requests. -/
theorem expectedCount_le (path hash : String) (steps : List CacheStep) :
    expectedCount path hash steps ≤ (requests steps).length := by
  induction steps using List.reverseRecOn with
  | nil => exact Nat.le_refl 0
  | append_singleton front next ih =>
    rw [expectedCount_snoc, requests_append, List.length_append]
    have last : requests [next] = next.requested := List.append_nil _
    rw [last]
    cases next with
    | add asset =>
      simp only [counted, requested, List.length_singleton]
      split <;> omega
    | addRange assets =>
      have bounded := List.countP_le_length (p := Asset.isAt path hash) (l := assets)
      simp only [counted, requested]
      omega
    | remove asset =>
      simp only [counted]
      split <;> omega
    | apply assets =>
      have bounded := List.countP_le_length (p := Asset.isAt path hash) (l := assets)
      simp only [counted, requested]
      omega
    | pass => exact Nat.le_add_right_of_le ih

/-- Fewer requests than 32 bits can count never come to too many references. -/
theorem countable_of_requests {steps : List CacheStep}
    (few : (requests steps).length < UInt32.size) : Countable steps := by
  rintro front ⟨back, rfl⟩ path hash
  have before := expectedCount_le path hash front
  rw [requests_append, List.length_append] at few
  omega

/-- A change counts as expected exactly if it does not displace, where 32 bits are enough for what
is expected. -/
theorem references_change_iff {entries : CacheEntries} {assets : List Asset}
    (distinct : CacheEntries.DistinctPaths entries.list) (follows : entries.Follows assets)
    (one : OneContent assets) {next : CacheStep} (asked : next.requested ⊆ assets)
    (few : ∀ path hash, next.counted path hash (entries.references path hash) < UInt32.size) :
    (∀ path hash, (next.change entries).references path hash =
        next.counted path hash (entries.references path hash)) ↔
      next.displaces entries = false := by
  cases next with
  | add asset =>
    have fits := follows.fits one (asked (List.mem_singleton_self asset))
    have room : entries.HasRoom [asset] := by
      simpa [CacheStep.counted, CacheEntries.HasRoom, List.countP_cons] using few
    constructor
    · intro right
      refine Bool.eq_false_iff.mpr fun displaced : entries.displaces asset = true => ?_
      have before := CacheEntries.references_eq_of_displaces fits displaced
      have after := CacheEntries.references_merge_self distinct fits
      rw [if_pos displaced] at after
      have counted := right asset.path asset.contentHash
      simp only [change, CacheStep.counted, if_pos (Asset.isAt_iff.mpr ⟨rfl, rfl⟩)] at counted
      omega
    · exact fun kept => CacheEntries.references_merge distinct fits kept room
  | addRange list =>
    have fits := follows.fitsAll one asked few
    constructor
    · intro right
      refine Bool.eq_false_iff.mpr fun displaced => ?_
      obtain ⟨path, hash, fewer⟩ := CacheEntries.references_mergeAll_lt distinct fits displaced
      exact Nat.ne_of_lt fewer (right path hash)
    · exact CacheEntries.references_mergeAll distinct fits
  | remove asset =>
    exact iff_of_true (CacheEntries.references_release distinct asset) rfl
  | apply list =>
    have one : OneContent list := fun a first b second => one a (asked first) b (asked second)
    exact iff_of_true (CacheEntries.references_apply distinct one few) rfl
  | pass => exact iff_of_true (fun _ _ => rfl) rfl

end CacheStep

namespace Cache

variable {σ : Type}

/-- The entries after a history have the paths and contents that it asked for. -/
theorem follows_after (files : AssetFiles (StateM σ)) (s : σ) {steps front : List CacheStep}
    (part : front <+: steps) :
    (after files s front).1.entries.Follows (CacheStep.requests steps) := by
  refine (CacheEntries.entrywise_follows (CacheStep.requests steps)).after ?_ files s ?_
  · intro d e keeps before
    rwa [keeps.path, keeps.contentHash]
  · obtain ⟨back, rfl⟩ := part
    intro asset asked
    rw [CacheStep.requests_append]
    exact List.mem_append_left _ asked

/-- The counts after one more step are right exactly if it does not displace. -/
theorem references_snoc_iff (files : AssetFiles (StateM σ)) (s : σ) {steps front : List CacheStep}
    {next : CacheStep} (part : front ++ [next] <+: steps)
    (one : OneContent (CacheStep.requests steps))
    (few : ∀ path hash, next.counted path hash
      ((after files s front).1.entries.references path hash) < UInt32.size) :
    (∀ path hash, (after files s (front ++ [next])).1.entries.references path hash =
        next.counted path hash ((after files s front).1.entries.references path hash)) ↔
      next.displaces (after files s front).1.entries = false := by
  have distinct := CacheEntries.distinct_after files s front
  have follows := follows_after files s ((List.prefix_append front [next]).trans part)
  by_cases pass : next = .pass
  · subst pass
    refine iff_of_true (fun path hash => ?_) rfl
    rw [(after_pass files s front).1]
    exact CacheEntries.references_pass distinct files _ path hash
  · have asked : next.requested ⊆ CacheStep.requests steps := by
      obtain ⟨back, rfl⟩ := part
      intro asset member
      exact CacheStep.mem_requests (by simp) member
    rw [after_snoc, (step_change files _ pass _).1]
    exact CacheStep.references_change_iff distinct follows one asked few

/-- When the counts throughout a history are right, and what holds of them in any case. -/
structure Counts (files : AssetFiles (StateM σ)) (s : σ) (steps : List CacheStep) : Prop where
  /-- They are right up to every step exactly if no step displaces. -/
  right_iff : (∀ front, front <+: steps → ∀ path hash,
      (after files s front).1.entries.references path hash =
        CacheStep.expectedCount path hash front) ↔
    ∀ front next, front ++ [next] <+: steps →
      next.displaces (after files s front).1.entries = false
  /-- A pass does not evict what is referenced. -/
  kept : ∀ e ∈ (after files s steps).1.entries.list, 0 < e.count →
    ∃ d ∈ (after files s (steps ++ [.pass])).1.entries.list, e.Keeps d
  /-- Adding an asset that has its entry counts one more reference, if 32 bits can, exactly if it
  does not displace. -/
  add_iff : ∀ asset, ∀ e ∈ (after files s steps).1.entries.list, e.path = asset.path →
    e.contentHash = asset.contentHash → e.count + 1 < UInt32.size →
    ((after files s (steps ++ [.add asset])).1.entries.references asset.path asset.contentHash =
        e.count + 1 ↔
      (after files s steps).1.entries.displaces asset = false)

/-- Whatever the files do, a history that asks for one content at each path, and for no more
references than 32 bits can count, counts references right as long as no step displaces, and no
longer. -/
theorem counts_after (files : AssetFiles (StateM σ)) (s : σ) {steps : List CacheStep}
    (one : OneContent (CacheStep.requests steps)) (countable : CacheStep.Countable steps) :
    Counts files s steps := by
  -- Where the counts before a step are right, 32 bits are enough for those after it.
  have few : ∀ {front : List CacheStep} {next : CacheStep}, front ++ [next] <+: steps →
      (∀ path hash, (after files s front).1.entries.references path hash =
        CacheStep.expectedCount path hash front) →
      ∀ path hash, next.counted path hash
        ((after files s front).1.entries.references path hash) < UInt32.size := by
    intro front next part right path hash
    rw [right, ← CacheStep.expectedCount_snoc]
    exact countable _ part path hash
  refine ⟨⟨fun right front next part => ?_, fun kept front => ?_⟩, ?_, ?_⟩
  · have before := right _ ((List.prefix_append front [next]).trans part)
    refine (references_snoc_iff files s part one (few part before)).mp fun path hash => ?_
    rw [right _ part, before, CacheStep.expectedCount_snoc]
  · induction front using List.reverseRecOn with
    | nil => exact fun _ _ _ => rfl
    | append_singleton front next ih =>
      intro part path hash
      have before := ih ((List.prefix_append front [next]).trans part)
      rw [(references_snoc_iff files s part one (few part before)).mpr (kept front next part),
        before, CacheStep.expectedCount_snoc]
  · intro e member used
    rw [(after_pass files s steps).1]
    exact CacheEntries.pass_image files _ member used
  · intro asset e member path hash small
    have distinct := CacheEntries.distinct_after files s steps
    have taken := path ▸ distinct.entryAt?_eq member
    have counted : (after files s steps).1.entries.references asset.path asset.contentHash =
        e.count := by
      rw [← path, ← hash]
      exact CacheEntries.references_of_mem distinct member
    have merged := CacheEntries.references_merge_self distinct fun d found _ => by
      obtain rfl := Option.some.inj (taken.symm.trans found)
      exact hash
    have other : CacheStep.add asset ≠ .pass := nofun
    rw [after_snoc, (step_change files _ other _).1, CacheStep.change, merged, counted]
    cases displaced : (after files s steps).1.entries.displaces asset with
    | false => simpa using small
    | true =>
      obtain ⟨_, d, _, found, used⟩ := CacheEntries.displaces_iff.mp displaced
      obtain rfl := Option.some.inj (taken.symm.trans found)
      simp only [if_true, Bool.true_eq_false, iff_false]
      omega

/-- One square at two paths: the first reference to it is dropped, then the second one is repeated
and takes the first entry's place. -/
theorem counts_after_square :
    let square : AssetSource := .solid 1 1 ⟨1, 2, 3, 4⟩
    let steps : List CacheStep := [.add (square.asset "a.png"), .add (square.asset "b.png"),
      .remove (square.asset "a.png"), .add (square.asset "b.png")]
    OneContent (CacheStep.requests steps) ∧ CacheStep.Countable steps ∧
      Counts (AssetFiles.plain some) (fun _ => none) steps := by
  intro square steps
  have one : OneContent (CacheStep.requests steps) := by
    simp [steps, OneContent, CacheStep.requests, CacheStep.requested, AssetSource.asset]
  have countable : CacheStep.Countable steps := CacheStep.countable_of_requests (by decide)
  exact ⟨one, countable, counts_after _ _ one countable⟩

/-- The repeated reference is lost: the square at the second path has one reference, not two. -/
theorem not_counted_square :
    let square : AssetSource := .solid 1 1 ⟨1, 2, 3, 4⟩
    let steps : List CacheStep := [.add (square.asset "a.png"), .add (square.asset "b.png"),
      .remove (square.asset "a.png"), .add (square.asset "b.png")]
    OneContent (CacheStep.requests steps) ∧
      CacheStep.expectedCount "b.png" square.key.contentHash steps = 2 ∧
      (after (AssetFiles.plain some) (fun _ => none) steps).1.entries.references "b.png"
        square.key.contentHash = 1 := by
  intro square steps
  have hash : square.key.contentHash = "e930ee68685e9956000bb975af2b8b17" := by
    rw [AssetSource.key_solid_eq]
    decide +kernel
  refine ⟨?_, ?_, ?_⟩
  · simp [steps, OneContent, CacheStep.requests, CacheStep.requested, AssetSource.asset]
  · simp only [steps, AssetSource.asset, hash]
    rfl
  · simp only [steps, AssetSource.asset, hash]
    decide +kernel

end Cache

end Storyboard
