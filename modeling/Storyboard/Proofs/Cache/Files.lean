import Mathlib.Logic.Function.Basic
import Storyboard.Proofs.Cache.Places

/-! # Stores that do what they are asked

A store whose operations succeed behaves like a plain map from paths to contents. Passes and
histories over such a store are those over the map, so what is to be known about files is shown for
the map only.
-/

namespace Storyboard

/-- The content of every file, by its path. -/
abbrev Files (C : Type) := String → Option C

namespace AssetFiles

variable {C : Type}

/-- Operations that always succeed, apart from moves of missing files and from assets that cannot
be made; those change nothing. -/
def plain (content? : AssetSource → Option C) : AssetFiles (StateM (Files C)) where
  remove path F := ((), Function.update F path none)
  rename old new F :=
    match F old with
    | some content => (true, Function.update (Function.update F old none) new (some content))
    | none => (false, F)
  isFile path F := ((F path).isSome, F)
  make asset F :=
    match content? asset.source with
    | some content => (true, Function.update F asset.path (some content))
    | none => (false, F)

variable {content? : AssetSource → Option C} {F : Files C}

theorem run_remove (path : String) :
    ((plain content?).remove path).run F = ((), Function.update F path none) := rfl

theorem run_rename_missing {old : String} (missing : F old = none) (new : String) :
    ((plain content?).rename old new).run F = (false, F) := by
  simp [plain, StateT.run, missing]

theorem run_rename_found {old : String} {content : C} (found : F old = some content)
    (new : String) : ((plain content?).rename old new).run F =
      (true, Function.update (Function.update F old none) new (some content)) := by
  simp [plain, StateT.run, found]

theorem run_isFile (path : String) :
    ((plain content?).isFile path).run F = ((F path).isSome, F) := rfl

theorem run_make_failed {asset : Asset} (failed : content? asset.source = none) :
    ((plain content?).make asset).run F = (false, F) := by
  simp [plain, StateT.run, failed]

theorem run_make_made {asset : Asset} {content : C} (made : content? asset.source = some content) :
    ((plain content?).make asset).run F =
      (true, Function.update F asset.path (some content)) := by
  simp [plain, StateT.run, made]

end AssetFiles

/-- One action does on related states what another one does. -/
def Simulates {σ τ α : Type} (shows : σ → τ → Prop) (x : StateM σ α) (y : StateM τ α) : Prop :=
  ∀ s t, shows s t → (x.run s).1 = (y.run t).1 ∧ shows (x.run s).2 (y.run t).2

namespace Simulates

variable {σ τ α β : Type} {shows : σ → τ → Prop}

theorem pure (a : α) : Simulates shows (pure a) (pure a) := fun _ _ related => ⟨rfl, related⟩

/-- Actions in a row simulate each other; what is known of the first result may be used. -/
theorem bind_of (known : α → Prop) {x : StateM σ α} {y : StateM τ α} {f : α → StateM σ β}
    {g : α → StateM τ β} (first : Simulates shows x y) (result : ∀ s, known (x.run s).1)
    (rest : ∀ a, known a → Simulates shows (f a) (g a)) : Simulates shows (x >>= f) (y >>= g) := by
  intro s t related
  obtain ⟨same, related⟩ := first s t related
  rw [Traversal.run_bind, Traversal.run_bind, ← same]
  exact rest _ (result s) _ _ related

theorem bind {x : StateM σ α} {y : StateM τ α} {f : α → StateM σ β} {g : α → StateM τ β}
    (first : Simulates shows x y) (rest : ∀ a, Simulates shows (f a) (g a)) :
    Simulates shows (x >>= f) (y >>= g) :=
  bind_of (fun _ => True) first (fun _ => trivial) fun a _ => rest a

theorem mapM {f : α → StateM σ β} {g : α → StateM τ β} {list : List α}
    (each : ∀ a ∈ list, Simulates shows (f a) (g a)) :
    Simulates shows (list.mapM f) (list.mapM g) := by
  induction list with
  | nil => exact .pure []
  | cons a rest ih =>
    rw [List.mapM_cons, List.mapM_cons]
    refine (each a List.mem_cons_self).bind fun b => ?_
    exact (ih fun c member => each c (List.mem_cons_of_mem _ member)).bind fun _ => .pure _

end Simulates

/-- Files behind some state that behave like a plain map, as far as the paths are usable and the
sources steady. Where directories count, no usable path lies below another one. -/
structure FileStore (σ C : Type) where
  /-- The operations. -/
  files : AssetFiles (StateM σ)
  /-- What is written for a source, if it can be made. -/
  content? : AssetSource → Option C
  /-- The paths that files can have. -/
  usable : String → Prop
  /-- The sources whose contents do not depend on the files. -/
  steady : AssetSource → Prop
  /-- How the state is seen as a map. -/
  shows : σ → Files C → Prop
  /-- Files are removed. -/
  remove : ∀ path, usable path →
    Simulates shows (files.remove path) ((AssetFiles.plain content?).remove path)
  /-- Files are moved, unless they are missing. -/
  rename : ∀ old new, usable old → usable new →
    Simulates shows (files.rename old new) ((AssetFiles.plain content?).rename old new)
  /-- Files are seen. -/
  isFile : ∀ path, usable path →
    Simulates shows (files.isFile path) ((AssetFiles.plain content?).isFile path)
  /-- Files are made, unless the source cannot be. -/
  make : ∀ asset : Asset, usable asset.path → steady asset.source →
    Simulates shows (files.make asset) ((AssetFiles.plain content?).make asset)

namespace FileStore

variable {σ C : Type}

/-- The map that a store is compared with. -/
def reference (store : FileStore σ C) : AssetFiles (StateM (Files C)) := .plain store.content?

/-- A path that an asset can have: it and the name on the way to it are usable, and it is no such
name itself. -/
structure Reaches (store : FileStore σ C) (path : String) : Prop where
  usable : store.usable path
  staging : store.usable (CacheEntry.stagingPath path)
  unstaged : ∀ other, path ≠ CacheEntry.stagingPath other

/-- An asset that the store can keep. -/
structure Takes (store : FileStore σ C) (asset : Asset) : Prop
    extends Reaches store asset.path where
  steady : store.steady asset.source

variable {store : FileStore σ C}

/-- The first half of a move does to a store what it does to the map. -/
theorem startMove_simulates {e : CacheEntry} (path : store.Reaches e.path)
    (place : ∀ old ∈ e.onDisk, store.Reaches old) :
    Simulates store.shows (e.startMove store.files) (e.startMove store.reference) := by
  unfold CacheEntry.startMove
  split
  · next old moves =>
    obtain ⟨there, _⟩ := CacheEntry.moving?_eq_some_iff.mp moves
    refine (store.rename _ _ (place old there).usable path.staging).bind fun done => ?_
    cases done
    · exact .pure _
    · exact .pure _
  · exact .pure _

/-- The second half of a move does to a store what it does to the map. -/
theorem finishMove_simulates {e : CacheEntry} (path : store.Reaches e.path) (started : Bool) :
    Simulates store.shows (e.finishMove store.files started)
      (e.finishMove store.reference started) := by
  unfold CacheEntry.finishMove
  split
  · refine (store.rename _ _ path.staging path.usable).bind fun done => ?_
    cases done
    · exact (store.remove _ path.staging).bind fun _ => .pure _
    · exact .pure _
  · exact .pure _

/-- Making a file does to a store what it does to the map. -/
theorem refresh_simulates {e : CacheEntry} (takes : store.Takes e.toAsset) :
    Simulates store.shows (e.refresh store.files) (e.refresh store.reference) := by
  unfold CacheEntry.refresh
  refine (store.isFile _ takes.usable).bind fun present => ?_
  split
  · refine (store.make e.toAsset takes.usable takes.steady).bind fun done => ?_
    cases done
    · exact .pure _
    · exact .pure _
  · exact .pure _

theorem reaches_doomed {entries : CacheEntries} (within : entries.Within store.Reaches)
    {path : String} (member : path ∈ entries.doomed) : store.Reaches path := by
  simp only [CacheEntries.doomed, List.mem_filter, List.mem_append, List.mem_filterMap] at member
  obtain ⟨(pending | ⟨e, present, there⟩) | ⟨e, present, left⟩, _⟩ := member
  · exact within.pending path pending
  · exact within.place e (List.mem_of_mem_filter present) path there
  · obtain ⟨there, _⟩ := CacheEntry.abandoned?_eq_some_iff.mp left
    exact within.place e (List.mem_of_mem_filter present) path there

theorem Takes.keeps {d e : CacheEntry} (takes : store.Takes d.toAsset) (keeps : d.Keeps e) :
    store.Takes e.toAsset := by
  refine ⟨?_, ?_⟩
  · rw [CacheEntry.toAsset, keeps.path]
    exact takes.toReaches
  · rw [CacheEntry.toAsset, keeps.source]
    exact takes.steady

/-- A pass over a store is a pass over the map. -/
theorem pass_simulates {entries : CacheEntries} (within : entries.Within store.Reaches)
    (steady : ∀ e ∈ entries.list, store.steady e.source) :
    Simulates store.shows (entries.pass store.files) (entries.pass store.reference) := by
  have takes : ∀ e ∈ entries.kept, store.Takes e.toAsset := fun e member =>
    ⟨within.path e (List.mem_of_mem_filter member), steady e (List.mem_of_mem_filter member)⟩
  have place : ∀ e ∈ entries.kept, ∀ old ∈ e.onDisk, store.Reaches old := fun e member =>
    within.place e (List.mem_of_mem_filter member)
  unfold CacheEntries.pass
  refine Simulates.bind
    (.mapM fun path member => store.remove _ (reaches_doomed within member).usable)
    fun _ => ?_
  refine Simulates.bind_of (fun list => ∀ x ∈ list, store.Takes x.1.toAsset)
    (.mapM fun e member => startMove_simulates (takes e member).toReaches (place e member)) ?_ ?_
  · intro s x member
    obtain ⟨e, present, s, rfl⟩ := Traversal.origin_of_mapM member
    exact (takes e present).keeps (CacheEntry.keeps_startMove store.files e s)
  intro started takes
  refine Simulates.bind_of (fun list => ∀ e ∈ list, store.Takes e.toAsset)
    (.mapM fun x member => finishMove_simulates (takes x member).toReaches x.2) ?_ ?_
  · intro s e member
    obtain ⟨x, present, s, rfl⟩ := Traversal.origin_of_mapM member
    exact (takes x present).keeps (CacheEntry.keeps_finishMove store.files x.1 x.2 s)
  intro moved takes
  exact Simulates.bind (.mapM fun e member => refresh_simulates (takes e member)) fun _ => .pure _

/-- A history over a store is one over the map. -/
theorem after_simulates {s : σ} {F : Files C} (start : store.shows s F) {steps : List CacheStep}
    (takes : ∀ asset ∈ CacheStep.requests steps, store.Takes asset) :
    (Cache.after store.files s steps).1 = (Cache.after store.reference F steps).1 ∧
      store.shows (Cache.after store.files s steps).2 (Cache.after store.reference F steps).2 := by
  induction steps using List.reverseRecOn with
  | nil => exact ⟨rfl, start⟩
  | append_singleton steps next ih =>
    have before : ∀ asset ∈ CacheStep.requests steps, store.Takes asset := by
      intro asset asked
      exact takes asset (CacheStep.requests_append steps [next] ▸ List.mem_append_left _ asked)
    obtain ⟨same, related⟩ := ih before
    have within := CacheEntries.within_after store.files s fun asset asked =>
      (before asset asked).toReaches
    have steady := CacheEntries.source_after store.steady store.files s fun asset asked =>
      (before asset asked).steady
    rw [Cache.after_snoc, Cache.after_snoc, ← same]
    cases next with
    | pass =>
      obtain ⟨entries, related⟩ := pass_simulates within steady _ _ related
      refine ⟨?_, related⟩
      simp only [Cache.step, Cache.materializeNow, Traversal.run_bind, entries]
      rfl
    | _ => exact ⟨rfl, related⟩

end FileStore

end Storyboard
