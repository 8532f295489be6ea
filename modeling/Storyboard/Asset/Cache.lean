import Storyboard.Asset.Render

/-! # The asset cache

A cache counts the references to generated images and keeps one file for each path. Changes only
touch the entries; a pass over the disk then removes files that nobody uses, moves those whose path
has changed, and makes those that are missing or stale. Moves go through a name of their own first,
so that entries can swap their paths.
-/

namespace Storyboard

/-- A generated image that is, or was, in use. -/
structure CacheEntry where
  /-- The path that the image belongs to. -/
  path : String
  contentHash : String
  /-- How it is made. -/
  source : AssetSource
  /-- How often it is referenced, in 32 bits: one reference too many brings it back to zero. -/
  references : UInt32
  /-- Where its file is, if one was ever written. -/
  onDisk : Option String
  /-- Whether the content has changed since its file was written. -/
  stale : Bool
  deriving DecidableEq

namespace CacheEntry

/-- A new entry with one reference. -/
def ofAsset (asset : Asset) : CacheEntry :=
  ⟨asset.path, asset.contentHash, asset.source, 1, none, true⟩

/-- How often an entry is referenced. -/
def count (e : CacheEntry) : Nat := e.references.toNat

def toAsset (e : CacheEntry) : Asset := ⟨e.path, e.source, e.contentHash⟩

/-- Whether the file at the path has the content of the entry. -/
def isMaterialized (e : CacheEntry) : Bool := !e.stale && e.onDisk == some e.path

/-- The file that has to move, if it is somewhere else and still good. -/
def moving? (e : CacheEntry) : Option String :=
  match e.onDisk with
  | some old => if !e.stale && old != e.path then some old else none
  | none => none

/-- The file that the entry leaves behind because its content is made anew. -/
def abandoned? (e : CacheEntry) : Option String :=
  match e.onDisk with
  | some old => if e.stale && old != e.path then some old else none
  | none => none

def reference (e : CacheEntry) : CacheEntry := { e with references := e.references + 1 }

/-- One reference less, if there is one. -/
def release (e : CacheEntry) : CacheEntry :=
  { e with references := if e.references = 0 then 0 else e.references - 1 }

def forget (e : CacheEntry) : CacheEntry := { e with references := 0 }

@[simp] theorem count_ofAsset (asset : Asset) : (ofAsset asset).count = 1 := rfl

@[simp] theorem count_reference (e : CacheEntry) :
    e.reference.count = (e.count + 1) % UInt32.size := UInt32.toNat_add e.references 1

@[simp] theorem count_release (e : CacheEntry) : e.release.count = e.count - 1 := by
  by_cases idle : e.references = 0
  · simp [release, count, idle]
  · have used : e.references.toNat ≠ 0 := fun same => idle (UInt32.toNat_inj.mp same)
    have one : 1 ≤ e.references := UInt32.le_iff_toNat_le.mpr (Nat.pos_of_ne_zero used)
    rw [release, count, if_neg idle]
    exact UInt32.toNat_sub_of_le e.references 1 one

/-- The entry with another content, unless it has it already. -/
def replaceContent (e : CacheEntry) (asset : Asset) : CacheEntry :=
  if e.contentHash = asset.contentHash then e
  else { e with contentHash := asset.contentHash, source := asset.source, stale := true }

end CacheEntry

/-- The entries of a cache and the files that the next pass has to remove. -/
structure CacheEntries where
  list : List CacheEntry := []
  /-- Files of entries that were dropped. -/
  pendingDeletes : List String := []
  deriving DecidableEq

namespace CacheEntries

def byPath? (entries : CacheEntries) (path : String) : Option Nat :=
  entries.list.findIdx? fun e => e.path == path

/-- The place of the first entry with a content. -/
def byHash? (entries : CacheEntries) (hash : String) : Option Nat :=
  entries.list.findIdx? fun e => e.contentHash == hash

def modify (entries : CacheEntries) (place : Nat) (f : CacheEntry → CacheEntry) : CacheEntries :=
  { entries with list := entries.list.modify place f }

/-- The file that a dropped entry leaves behind, unless it is overwritten. -/
def leftBehind (dropped : Option CacheEntry) (path : String) : List String :=
  ((dropped.bind CacheEntry.onDisk).toList).filter fun old => old != path

/-- Drops the entry that has a path, if there is one. -/
def dropAt (entries : CacheEntries) (place : Option Nat) (path : String) : CacheEntries :=
  match place with
  | some p =>
    { list := entries.list.eraseIdx p
      pendingDeletes := entries.pendingDeletes ++ leftBehind entries.list[p]? path }
  | none => entries

/-- The place of an entry after another one has been dropped. -/
def placeAfterDrop (place : Nat) : Option Nat → Nat
  | some dropped => if dropped < place then place - 1 else place
  | none => place

/-- Gives the entry at a place the path of an asset, and a reference. -/
def relocate (entries : CacheEntries) (taken : Option Nat) (place : Nat) (asset : Asset) :
    CacheEntries :=
  (entries.dropAt taken asset.path).modify (placeAfterDrop place taken) fun e =>
    ({ e with path := asset.path }).reference

/-- Gives the entry at a place the content of an asset, and a reference. -/
def overwrite (entries : CacheEntries) (place : Nat) (asset : Asset) : CacheEntries :=
  entries.modify place fun e => (e.replaceContent asset).reference

def append (entries : CacheEntries) (asset : Asset) : CacheEntries :=
  { entries with list := entries.list ++ [.ofAsset asset] }

def isIdle (entries : CacheEntries) (place : Nat) : Bool :=
  entries.list[place]?.any fun e => e.count == 0

/-- Counts one reference to an asset; content that nobody else uses moves to its new path. -/
def merge (entries : CacheEntries) (asset : Asset) : CacheEntries :=
  match entries.byPath? asset.path, entries.byHash? asset.contentHash with
  | some p, some h =>
    if p = h then entries.modify p CacheEntry.reference
    else if entries.isIdle h then entries.relocate (some p) h asset
    else entries.overwrite p asset
  | some p, none => entries.overwrite p asset
  | none, some h =>
    if entries.isIdle h then entries.relocate none h asset else entries.append asset
  | none, none => entries.append asset

/-- Counts references to assets in turn. -/
def mergeAll (entries : CacheEntries) (assets : List Asset) : CacheEntries :=
  assets.foldl merge entries

/-- Drops one reference to an asset; one that is not there is ignored. -/
def release (entries : CacheEntries) (asset : Asset) : CacheEntries :=
  match entries.list.findIdx? fun e =>
      e.path == asset.path && e.contentHash == asset.contentHash with
  | some place => entries.modify place CacheEntry.release
  | none => entries

/-- The entries without any reference. -/
def unreferenced (entries : CacheEntries) : CacheEntries :=
  { entries with list := entries.list.map CacheEntry.forget }

/-- Makes assets the complete set of those in use. -/
def apply (entries : CacheEntries) (assets : List Asset) : CacheEntries :=
  entries.unreferenced.mergeAll assets

def kept (entries : CacheEntries) : List CacheEntry := entries.list.filter fun e => e.count != 0

def evicted (entries : CacheEntries) : List CacheEntry := entries.list.filter fun e => e.count == 0

def livePaths (entries : CacheEntries) : List String := entries.kept.map CacheEntry.path

/-- The files that a pass removes. -/
def doomed (entries : CacheEntries) : List String :=
  (entries.pendingDeletes ++ entries.evicted.filterMap CacheEntry.onDisk ++
    entries.kept.filterMap CacheEntry.abandoned?).filter fun path =>
      !entries.livePaths.contains path

end CacheEntries

/-- What a pass asks of the disk below the asset root. -/
structure AssetFiles (m : Type → Type) where
  remove : String → m Unit
  /-- Moves a file, and says whether that went well. -/
  rename : String → String → m Bool
  isFile : String → m Bool
  /-- Makes an asset, and says whether that went well. -/
  make : Asset → m Bool

variable {m : Type → Type} [Monad m]

namespace AssetFiles

/-- Moves a file below the asset root; the directory of the target is made. -/
def renameBelow (disk : Disk m) (root source target : String) : m Bool :=
  match Asset.destination root source, Asset.destination root target with
  | .ok source, .ok target => do
    match FilePath.parent? target with
    | some parent =>
      if ← disk.makeDirectories parent then disk.rename source target else return false
    | none => disk.rename source target
  | _, _ => return false

/-- The files below a root on a disk. -/
def ofDisk [TextEngine] (disk : Disk m) (root : String) : AssetFiles m where
  remove path :=
    match Asset.destination root path with
    | .ok path => do
      let _ ← disk.remove path
      return ()
    | .error _ => return ()
  rename := renameBelow disk root
  isFile path :=
    match Asset.destination root path with
    | .ok path => disk.isFile path
    | .error _ => return false
  make asset := do
    match ← (asset.materialize disk root).run with
    | .ok _ => return true
    | .error _ => return false

end AssetFiles

namespace CacheEntry

/-- The name through which a file moves to a path. -/
def stagingPath (path : String) : String := path ++ ".moving"

/-- First half of a move: the file goes to the name in between, or else has to be made anew. -/
def startMove (files : AssetFiles m) (e : CacheEntry) : m (CacheEntry × Bool) :=
  match e.moving? with
  | some old => do
    if ← files.rename old (stagingPath e.path) then return (e, true)
    else return ({ e with stale := true }, false)
  | none => return (e, false)

/-- Second half of a move: the file goes to its path, or else is removed and made anew. -/
def finishMove (files : AssetFiles m) (e : CacheEntry) (started : Bool) : m CacheEntry :=
  if started then do
    if ← files.rename (stagingPath e.path) e.path then return { e with onDisk := some e.path }
    else
      files.remove (stagingPath e.path)
      return { e with stale := true }
  else return e

/-- Makes the file of an entry if it is stale or missing. -/
def refresh (files : AssetFiles m) (e : CacheEntry) : m CacheEntry := do
  let present ← files.isFile e.path
  if e.stale || !present then
    if ← files.make e.toAsset then return { e with onDisk := some e.path, stale := false }
    else return e
  else return e

end CacheEntry

namespace CacheEntries

/-- Brings the disk in line with the entries. -/
def pass (files : AssetFiles m) (entries : CacheEntries) : m CacheEntries := do
  let _ ← entries.doomed.mapM files.remove
  let started ← entries.kept.mapM (CacheEntry.startMove files)
  let moved ← started.mapM fun (e, moving) => e.finishMove files moving
  let list ← moved.mapM (CacheEntry.refresh files)
  return { list }

end CacheEntries

/-- A cache with what it knows about its passes. -/
structure Cache where
  entries : CacheEntries := {}
  /-- How often the entries were changed. -/
  generation : Nat := 0
  /-- The last change that a pass has dealt with. -/
  settled : Nat := 0
  /-- Whether a change still waits for a pass of its own. -/
  scheduled : Bool := false
  passes : Nat := 0
  deriving DecidableEq

namespace Cache

/-- Changes the entries, which schedules a pass. -/
def mutate (cache : Cache) (f : CacheEntries → CacheEntries) : Cache :=
  { cache with
    entries := f cache.entries
    generation := cache.generation + 1
    scheduled := true }

/-- Counts one more reference. -/
def add (cache : Cache) (asset : Asset) : Cache := cache.mutate fun entries => entries.merge asset

/-- Counts references in turn, as one change. -/
def addRange (cache : Cache) (assets : List Asset) : Cache :=
  cache.mutate fun entries => entries.mergeAll assets

/-- Drops one reference. -/
def remove (cache : Cache) (asset : Asset) : Cache :=
  cache.mutate fun entries => entries.release asset

/-- Makes assets the complete set of those in use. -/
def apply (cache : Cache) (assets : List Asset) : Cache :=
  cache.mutate fun entries => entries.apply assets

/-- Whether a pass has dealt with every change. -/
def isSettled (cache : Cache) : Bool := cache.generation ≤ cache.settled

/-- Runs a pass now; a scheduled pass stays scheduled. -/
def materializeNow (files : AssetFiles m) (cache : Cache) : m Cache := do
  let entries ← cache.entries.pass files
  return { cache with entries, settled := cache.generation, passes := cache.passes + 1 }

def runScheduled (files : AssetFiles m) (cache : Cache) : m Cache := do
  if cache.scheduled then
    let cache ← cache.materializeNow files
    return { cache with scheduled := false }
  else return cache

/-- Waits for the scheduled pass, which starts after a quiet time; says whether all is settled. -/
def waitSettled (files : AssetFiles m) (quiet timeout : Nat) (cache : Cache) :
    m (Cache × Bool) := do
  if cache.isSettled then return (cache, true)
  else if timeout < quiet then return (cache, false)
  else
    let cache ← cache.runScheduled files
    return (cache, cache.isSettled)

end Cache

end Storyboard
