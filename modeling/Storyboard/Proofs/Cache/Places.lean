import Storyboard.Proofs.Cache.History

/-! # Where the files of entries are

Changes to a cache do not touch the disk, so every entry goes on to remember the place of its file,
and an entry is good for its content only as long as it was good before. Two good entries never
remember the same place.
-/

namespace Storyboard

namespace CacheEntry

theorem moving?_eq_some_iff {e : CacheEntry} {old : String} :
    e.moving? = some old ↔ e.onDisk = some old ∧ e.stale = false ∧ old ≠ e.path := by
  cases there : e.onDisk with
  | none => simp [moving?, there]
  | some place =>
    simp only [moving?, there, Option.some.injEq]
    split_ifs with moves
    · simp only [Bool.and_eq_true, Bool.not_eq_true', bne_iff_ne] at moves
      rw [Option.some.injEq]
      refine ⟨fun same => ⟨same, moves.1, same ▸ moves.2⟩, fun all => all.1⟩
    · refine ⟨nofun, ?_⟩
      rintro ⟨rfl, good, elsewhere⟩
      simp [good, elsewhere] at moves

theorem abandoned?_eq_some_iff {e : CacheEntry} {old : String} :
    e.abandoned? = some old ↔ e.onDisk = some old ∧ e.stale = true ∧ old ≠ e.path := by
  cases there : e.onDisk with
  | none => simp [abandoned?, there]
  | some place =>
    simp only [abandoned?, there, Option.some.injEq]
    split_ifs with left
    · simp only [Bool.and_eq_true, bne_iff_ne] at left
      rw [Option.some.injEq]
      refine ⟨fun same => ⟨same, left.1, same ▸ left.2⟩, fun all => all.1⟩
    · refine ⟨nofun, ?_⟩
      rintro ⟨rfl, stale, elsewhere⟩
      simp [stale, elsewhere] at left

/-- A good entry has its file at its path. -/
def InPlace (e : CacheEntry) : Prop := e.stale = false → e.onDisk = some e.path

/-- What an entry keeps while it becomes another one without a pass: the place of its file, and
the content if it is still good. -/
structure Carries (d e : CacheEntry) : Prop where
  /-- The file stays where it is. -/
  onDisk : e.onDisk = d.onDisk
  /-- A good entry was good before, for the same content. -/
  good : e.stale = false → d.stale = false ∧ e.source = d.source ∧ e.contentHash = d.contentHash

theorem Carries.refl (e : CacheEntry) : e.Carries e := ⟨rfl, fun good => ⟨good, rfl, rfl⟩⟩

theorem Carries.trans {c d e : CacheEntry} (first : c.Carries d) (second : d.Carries e) :
    c.Carries e := by
  refine ⟨second.onDisk.trans first.onDisk, fun good => ?_⟩
  obtain ⟨good, source, hash⟩ := second.good good
  obtain ⟨good, source', hash'⟩ := first.good good
  exact ⟨good, source.trans source', hash.trans hash'⟩

theorem carries_relocated (asset : Asset) (e : CacheEntry) : e.Carries (e.relocated asset) :=
  ⟨rfl, fun good => ⟨good, rfl, rfl⟩⟩

theorem carries_overwritten (asset : Asset) (e : CacheEntry) : e.Carries (e.overwritten asset) := by
  refine ⟨onDisk_overwritten asset e, fun good => ?_⟩
  have same := eq_of_stale_overwritten good
  rw [same] at good ⊢
  exact ⟨good, rfl, rfl⟩

theorem carries_release (e : CacheEntry) : e.Carries e.release :=
  ⟨rfl, fun good => ⟨good, rfl, rfl⟩⟩

theorem carries_forget (e : CacheEntry) : e.Carries e.forget :=
  ⟨rfl, fun good => ⟨good, rfl, rfl⟩⟩

end CacheEntry

namespace CacheEntries

/-- Entries that others have become without a pass: each comes from one entry, or is new and has
no file yet. -/
def Evolves (before after : List CacheEntry) : Prop :=
  ∃ (become : CacheEntry → Option CacheEntry) (new : List CacheEntry),
    after = before.filterMap become ++ new ∧
      (∀ d ∈ before, ∀ e, become d = some e → d.Carries e) ∧
      ∀ e ∈ new, e.stale = true ∧ e.onDisk = none

theorem Evolves.refl (list : List CacheEntry) : Evolves list list :=
  ⟨some, [], by simp, fun d _ e same => Option.some.inj same ▸ .refl d, by simp⟩

/-- What may become of entries in two steps may become of them in one. -/
theorem Evolves.trans {first second third : List CacheEntry} (left : Evolves first second)
    (right : Evolves second third) : Evolves first third := by
  obtain ⟨become, new, rfl, carries, fresh⟩ := left
  obtain ⟨become', new', rfl, carries', fresh'⟩ := right
  refine ⟨fun d => (become d).bind become', new.filterMap become' ++ new', ?_, ?_, ?_⟩
  · rw [List.filterMap_append, List.filterMap_filterMap, List.append_assoc]
  · intro d member e becomes
    obtain ⟨c, step, step'⟩ := Option.bind_eq_some_iff.mp becomes
    have present : c ∈ first.filterMap become := List.mem_filterMap.mpr ⟨d, member, step⟩
    exact (carries d member c step).trans (carries' c (List.mem_append_left _ present) e step')
  · intro e member
    rcases List.mem_append.mp member with old | member
    · obtain ⟨c, present, step⟩ := List.mem_filterMap.mp old
      have kept := carries' c (List.mem_append_right _ present) e step
      obtain ⟨stale, nowhere⟩ := fresh c present
      refine ⟨?_, kept.onDisk.trans nowhere⟩
      by_contra good
      exact absurd (kept.good (Bool.eq_false_iff.mpr good)).1 (by simp [stale])
    · exact fresh' e member

theorem Evolves.of_map {list : List CacheEntry} {f : CacheEntry → CacheEntry}
    (carries : ∀ e ∈ list, e.Carries (f e)) : Evolves list (list.map f) := by
  refine ⟨some ∘ f, [], by simp, fun d member e same => ?_, by simp⟩
  obtain rfl := Option.some.inj same
  exact carries d member

/-- A merge keeps entries, or drops one of them, or gives one a new path or content. -/
theorem Evolves.merge {entries : CacheEntries} (distinct : DistinctPaths entries.list)
    (asset : Asset) : Evolves entries.list (entries.merge asset).list := by
  refine ⟨entries.merged? asset, entries.created asset, list_merge distinct asset, ?_, ?_⟩
  · intro d member e becomes
    rcases merged?_eq_some distinct member becomes with ⟨rfl, _⟩ | ⟨_, rfl⟩ | ⟨_, rfl⟩
    · exact .refl e
    · exact CacheEntry.carries_overwritten asset d
    · exact CacheEntry.carries_relocated asset d
  · intro e member
    unfold created at member
    split at member
    · obtain rfl := List.mem_singleton.mp member
      exact ⟨rfl, rfl⟩
    · cases member

theorem Evolves.mergeAll {entries : CacheEntries} (distinct : DistinctPaths entries.list)
    (assets : List Asset) : Evolves entries.list (entries.mergeAll assets).list := by
  induction assets generalizing entries with
  | nil => exact .refl _
  | cons asset rest ih => exact (Evolves.merge distinct asset).trans (ih (distinct.merge asset))

/-- Whatever a change does, every entry comes from one entry before it or is new. -/
theorem Evolves.change {entries : CacheEntries} (distinct : DistinctPaths entries.list)
    (next : CacheStep) : Evolves entries.list (next.change entries).list := by
  cases next with
  | add asset => exact .merge distinct asset
  | addRange assets => exact .mergeAll distinct assets
  | remove asset =>
    rw [CacheStep.change, release_eq distinct]
    refine .of_map fun e _ => ?_
    split
    · exact CacheEntry.carries_release e
    · exact .refl e
  | apply assets =>
    exact (Evolves.of_map fun e _ => CacheEntry.carries_forget e).trans
      (.mergeAll distinct.unreferenced assets)
  | pass => exact .refl _

theorem DistinctPaths.change {entries : CacheEntries} (distinct : DistinctPaths entries.list)
    (next : CacheStep) : DistinctPaths (next.change entries).list := by
  cases next with
  | add asset => exact distinct.merge asset
  | addRange assets => exact distinct.mergeAll assets
  | remove asset => exact distinct.release asset
  | apply assets => exact distinct.apply assets
  | pass => exact distinct

theorem Evolves.origin {before after : List CacheEntry} (evolves : Evolves before after)
    {e : CacheEntry} (member : e ∈ after) (good : e.stale = false) :
    ∃ d ∈ before, d.Carries e := by
  obtain ⟨become, new, rfl, carries, fresh⟩ := evolves
  rcases List.mem_append.mp member with old | member
  · obtain ⟨d, present, step⟩ := List.mem_filterMap.mp old
    exact ⟨d, present, carries d present e step⟩
  · exact absurd (fresh e member).1 (by simp [good])

/-- Every good entry remembers a place, and no other good entry remembers the same one. -/
structure Anchored (list : List CacheEntry) : Prop where
  /-- A good entry has a file. -/
  placed : ∀ e ∈ list, e.stale = false → e.onDisk ≠ none
  /-- Good entries at one place are one entry. -/
  apart : ∀ d ∈ list, ∀ e ∈ list, d.stale = false → e.stale = false →
    d.onDisk = e.onDisk → d = e

/-- Entries whose files are at their paths are anchored, as their paths differ. -/
theorem DistinctPaths.anchored {list : List CacheEntry} (distinct : DistinctPaths list)
    (inPlace : ∀ e ∈ list, e.InPlace) : Anchored list := by
  refine ⟨fun e member good => ?_, fun d first e second goodFirst goodSecond same => ?_⟩
  · rw [inPlace e member good]
    exact nofun
  · rw [inPlace d first goodFirst, inPlace e second goodSecond] at same
    exact distinct.eq_of_path first second (Option.some.inj same)

/-- The places of the files of good entries, as a list, are all different. -/
theorem Anchored.nodup_onDisk {list : List CacheEntry} (anchored : Anchored list)
    (distinct : DistinctPaths list) :
    ((list.filter fun e => !e.stale).map CacheEntry.onDisk).Nodup := by
  have good : ∀ e ∈ list.filter (fun e => !e.stale), e ∈ list ∧ e.stale = false := by
    simp
  refine List.Nodup.map_on ?_ ((List.Nodup.of_map _ distinct).filter _)
  intro d first e second same
  obtain ⟨first, goodFirst⟩ := good d first
  obtain ⟨second, goodSecond⟩ := good e second
  exact anchored.apart d first e second goodFirst goodSecond same

/-- No place comes to belong to two entries. -/
theorem Anchored.evolves {before after : List CacheEntry} (anchored : Anchored before)
    (evolves : Evolves before after) : Anchored after := by
  obtain ⟨become, new, rfl, carries, fresh⟩ := evolves
  have origin : ∀ e ∈ before.filterMap become ++ new, e.stale = false →
      ∃ d ∈ before, become d = some e := by
    intro e member good
    rcases List.mem_append.mp member with old | member
    · exact List.mem_filterMap.mp old
    · exact absurd (fresh e member).1 (by simp [good])
  refine ⟨fun e member good => ?_, fun d first e second goodFirst goodSecond same => ?_⟩
  · obtain ⟨d, present, step⟩ := origin e member good
    have kept := carries d present e step
    rw [kept.onDisk]
    exact anchored.placed d present (kept.good good).1
  · obtain ⟨d', present, step⟩ := origin d first goodFirst
    obtain ⟨e', present', step'⟩ := origin e second goodSecond
    have kept := carries d' present d step
    have kept' := carries e' present' e step'
    obtain rfl := anchored.apart d' present e' present' (kept.good goodFirst).1
      (kept'.good goodSecond).1 (by rw [← kept.onDisk, ← kept'.onDisk, same])
    exact Option.some.inj (step.symm.trans step')

/-- What is said of single entries, and goes on to hold while requested assets are merged. -/
structure Entrywise (requested : Asset → Prop) (holds : CacheEntry → Prop) : Prop where
  fresh : ∀ asset, requested asset → holds (.ofAsset asset)
  relocated : ∀ asset e, requested asset → e.contentHash = asset.contentHash → holds e →
    holds (e.relocated asset)
  overwritten : ∀ asset e, requested asset → e.path = asset.path → holds e →
    holds (e.overwritten asset)
  counted : ∀ e references, holds e → holds { e with references }

section
variable {requested : Asset → Prop} {holds : CacheEntry → Prop}

/-- A merge keeps what holds of all entries, if references, moves and new contents keep it. -/
theorem Entrywise.merge (entrywise : Entrywise requested holds) {entries : CacheEntries}
    (distinct : DistinctPaths entries.list) (all : ∀ e ∈ entries.list, holds e) {asset : Asset}
    (asked : requested asset) : ∀ e ∈ (entries.merge asset).list, holds e := by
  intro e member
  rw [list_merge distinct] at member
  rcases List.mem_append.mp member with old | new
  · obtain ⟨d, present, step⟩ := List.mem_filterMap.mp old
    have before := all d present
    rcases merged?_eq_some distinct present step with ⟨rfl, _⟩ | ⟨here, rfl⟩ | ⟨moves, rfl⟩
    · exact before
    · exact entrywise.overwritten asset d asked here before
    · have same := (holder?_eq_some (mover?_eq_some_iff.mp moves).1).2
      exact entrywise.relocated asset d asked same before
  · unfold created at new
    split at new
    · obtain rfl := List.mem_singleton.mp new
      exact entrywise.fresh asset asked
    · cases new

theorem Entrywise.mergeAll (entrywise : Entrywise requested holds) {entries : CacheEntries}
    (distinct : DistinctPaths entries.list) (all : ∀ e ∈ entries.list, holds e)
    {assets : List Asset} (asked : ∀ asset ∈ assets, requested asset) :
    ∀ e ∈ (entries.mergeAll assets).list, holds e := by
  induction assets generalizing entries with
  | nil => exact all
  | cons asset rest ih =>
    exact ih (distinct.merge asset) (entrywise.merge distinct all (asked asset List.mem_cons_self))
      fun other member => asked other (List.mem_cons_of_mem _ member)

/-- A change keeps what holds of all entries, if merges and releases keep it. -/
theorem Entrywise.change (entrywise : Entrywise requested holds) {entries : CacheEntries}
    (distinct : DistinctPaths entries.list) (all : ∀ e ∈ entries.list, holds e) {next : CacheStep}
    (asked : ∀ asset ∈ next.requested, requested asset) :
    ∀ e ∈ (next.change entries).list, holds e := by
  cases next with
  | add asset => exact entrywise.merge distinct all (asked asset (List.mem_singleton_self _))
  | addRange assets => exact entrywise.mergeAll distinct all asked
  | remove asset =>
    rw [CacheStep.change, release_eq distinct]
    intro e member
    obtain ⟨d, present, rfl⟩ := List.mem_map.mp member
    split
    · exact entrywise.counted d _ (all d present)
    · exact all d present
  | apply assets =>
    refine entrywise.mergeAll distinct.unreferenced (fun e member => ?_) asked
    obtain ⟨d, present, rfl⟩ := List.mem_map.mp member
    exact entrywise.counted d _ (all d present)
  | pass => exact all

end

/-- Every path that entries name, or that is noted for deletion, is one of some paths. -/
structure Within (allowed : String → Prop) (entries : CacheEntries) : Prop where
  path : ∀ e ∈ entries.list, allowed e.path
  place : ∀ e ∈ entries.list, ∀ place ∈ e.onDisk, allowed place
  pending : ∀ place ∈ entries.pendingDeletes, allowed place

variable {allowed : String → Prop}

/-- The paths that an entry names stay allowed while assets with allowed paths are merged. -/
theorem entrywise_allowed (allowed : String → Prop) :
    Entrywise (fun asset => allowed asset.path)
      fun e => allowed e.path ∧ ∀ place ∈ e.onDisk, allowed place := by
  constructor
  · exact fun asset usable => ⟨usable, nofun⟩
  · exact fun asset e usable _ before => ⟨usable, before.2⟩
  · intro asset e _ _ before
    rwa [CacheEntry.path_overwritten, CacheEntry.onDisk_overwritten]
  · exact fun e references before => before

/-- What holds of the sources of assets holds of those of entries. -/
theorem entrywise_source (holds : AssetSource → Prop) :
    Entrywise (fun asset => holds asset.source) fun e => holds e.source := by
  constructor
  · exact fun asset here => here
  · exact fun asset e _ _ before => before
  · intro asset e here _ before
    unfold CacheEntry.overwritten CacheEntry.replaceContent
    split
    · exact before
    · exact here
  · exact fun e references before => before

/-- A merge only notes places of entries for deletion. -/
theorem pending_merge {entries : CacheEntries} (distinct : DistinctPaths entries.list)
    (asset : Asset) {place : String} (member : place ∈ (entries.merge asset).pendingDeletes) :
    place ∈ entries.pendingDeletes ∨ ∃ e ∈ entries.list, e.onDisk = some place := by
  rw [merge_eq distinct] at member
  split at member
  · rcases List.mem_append.mp member with old | left
    · exact .inl old
    · simp only [leftBehind, List.mem_filter, Option.mem_toList, Option.bind_eq_some_iff] at left
      obtain ⟨⟨e, found, there⟩, _⟩ := left
      exact .inr ⟨e, (entryAt?_eq_some found).1, there⟩
  · exact .inl member
  · exact .inl member

/-- A merge keeps all places among the allowed ones. -/
theorem Within.merge {entries : CacheEntries} (within : entries.Within allowed)
    (distinct : DistinctPaths entries.list) {asset : Asset} (usable : allowed asset.path) :
    (entries.merge asset).Within allowed := by
  have all := (entrywise_allowed allowed).merge distinct
    (fun e member => ⟨within.path e member, within.place e member⟩) usable
  refine ⟨fun e member => (all e member).1, fun e member => (all e member).2, ?_⟩
  intro place member
  rcases pending_merge distinct asset member with old | ⟨e, present, there⟩
  · exact within.pending place old
  · exact within.place e present place there

theorem Within.mergeAll {entries : CacheEntries} (within : entries.Within allowed)
    (distinct : DistinctPaths entries.list) {assets : List Asset}
    (usable : ∀ asset ∈ assets, allowed asset.path) :
    (entries.mergeAll assets).Within allowed := by
  induction assets generalizing entries with
  | nil => exact within
  | cons asset rest ih =>
    exact ih (within.merge distinct (usable asset List.mem_cons_self)) (distinct.merge asset)
      fun other member => usable other (List.mem_cons_of_mem _ member)

/-- A change that asks for allowed paths only names allowed paths only. -/
theorem Within.change {entries : CacheEntries} (within : entries.Within allowed)
    (distinct : DistinctPaths entries.list) {next : CacheStep}
    (usable : ∀ asset ∈ next.requested, allowed asset.path) :
    (next.change entries).Within allowed := by
  have all := (entrywise_allowed allowed).change distinct
    (fun e member => ⟨within.path e member, within.place e member⟩) usable
  refine ⟨fun e member => (all e member).1, fun e member => (all e member).2, ?_⟩
  cases next with
  | add asset => exact (within.merge distinct (usable asset (List.mem_singleton_self _))).pending
  | addRange assets => exact (within.mergeAll distinct usable).pending
  | remove asset =>
    rw [CacheStep.change, release_eq distinct]
    exact within.pending
  | apply assets =>
    have idle : entries.unreferenced.Within allowed := by
      refine ⟨?_, ?_, within.pending⟩
      · intro e member
        obtain ⟨d, present, rfl⟩ := List.mem_map.mp member
        exact within.path d present
      · intro e member
        obtain ⟨d, present, rfl⟩ := List.mem_map.mp member
        exact within.place d present
    exact (idle.mergeAll distinct.unreferenced usable).pending
  | pass => exact within.pending

end CacheEntries

/-! ## What a pass keeps

Whatever the operations on the files say, a pass keeps the referenced entries in their order.
-/

variable {σ : Type}

namespace CacheEntry

/-- What a pass keeps of an entry: everything but its mark and the place of its file, which stays
or is its path from then on. -/
structure Keeps (d e : CacheEntry) : Prop where
  /-- The path. -/
  path : e.path = d.path
  /-- The content. -/
  contentHash : e.contentHash = d.contentHash
  /-- How it is made. -/
  source : e.source = d.source
  /-- The references. -/
  count : e.count = d.count
  /-- The place of the file. -/
  onDisk : e.onDisk = d.onDisk ∨ e.onDisk = some d.path

theorem Keeps.refl (e : CacheEntry) : e.Keeps e := ⟨rfl, rfl, rfl, rfl, .inl rfl⟩

theorem Keeps.trans {c d e : CacheEntry} (first : c.Keeps d) (second : d.Keeps e) : c.Keeps e := by
  refine ⟨second.path.trans first.path, second.contentHash.trans first.contentHash,
    second.source.trans first.source, second.count.trans first.count, ?_⟩
  rcases second.onDisk with same | moved
  · rw [same]
    exact first.onDisk
  · exact .inr (moved.trans (congrArg some first.path))

theorem keeps_startMove (files : AssetFiles (StateM σ)) (e : CacheEntry) (s : σ) :
    e.Keeps ((e.startMove files).run s).1.1 := by
  unfold startMove
  split
  · next old _ =>
    rw [Traversal.run_bind]
    cases ((files.rename old (stagingPath e.path)).run s).1
    · exact ⟨rfl, rfl, rfl, rfl, .inl rfl⟩
    · exact .refl e
  · exact .refl e

theorem keeps_finishMove (files : AssetFiles (StateM σ)) (e : CacheEntry) (started : Bool) (s : σ) :
    e.Keeps ((e.finishMove files started).run s).1 := by
  unfold finishMove
  split
  · rw [Traversal.run_bind]
    cases ((files.rename (stagingPath e.path) e.path).run s).1
    · exact ⟨rfl, rfl, rfl, rfl, .inl rfl⟩
    · exact ⟨rfl, rfl, rfl, rfl, .inr rfl⟩
  · exact .refl e

theorem keeps_refresh (files : AssetFiles (StateM σ)) (e : CacheEntry) (s : σ) :
    e.Keeps ((e.refresh files).run s).1 := by
  unfold refresh
  rw [Traversal.run_bind]
  split
  · rw [Traversal.run_bind]
    split
    · exact ⟨rfl, rfl, rfl, rfl, .inr rfl⟩
    · exact .refl e
  · exact .refl e

/-- A good entry that is not in place starts to move, or is good no longer. -/
theorem inPlace_startMove (files : AssetFiles (StateM σ)) {e : CacheEntry}
    (placed : e.stale = false → e.onDisk ≠ none) (s : σ) :
    ((e.startMove files).run s).1.2 = true ∨ ((e.startMove files).run s).1.1.InPlace := by
  unfold startMove
  split
  · next old _ =>
    rw [Traversal.run_bind]
    cases ((files.rename old (stagingPath e.path)).run s).1
    · exact .inr nofun
    · exact .inl rfl
  · next still =>
    refine .inr fun good => ?_
    obtain ⟨place, there⟩ := Option.ne_none_iff_exists'.mp (placed good)
    by_contra elsewhere
    have moves : e.moving? = some place := moving?_eq_some_iff.mpr
      ⟨there, good, fun same => elsewhere (there.trans (congrArg some same))⟩
    exact nomatch still.symm.trans moves

/-- A move that has started ends at the path, or the entry is good no longer. -/
theorem inPlace_finishMove (files : AssetFiles (StateM σ)) {e : CacheEntry} {started : Bool}
    (ready : started = true ∨ e.InPlace) (s : σ) :
    ((e.finishMove files started).run s).1.InPlace := by
  unfold finishMove
  split
  · rw [Traversal.run_bind]
    cases ((files.rename (stagingPath e.path) e.path).run s).1
    · exact nofun
    · exact fun _ => rfl
  · next idle => exact ready.resolve_left idle

theorem inPlace_refresh (files : AssetFiles (StateM σ)) {e : CacheEntry} (inPlace : e.InPlace)
    (s : σ) : ((e.refresh files).run s).1.InPlace := by
  unfold refresh
  rw [Traversal.run_bind]
  split
  · rw [Traversal.run_bind]
    split
    · exact fun _ => rfl
    · exact inPlace
  · exact inPlace

end CacheEntry

namespace CacheEntries

/-- A pass keeps the referenced entries, in their order, and forgets all files to delete. -/
theorem pass_keeps (files : AssetFiles (StateM σ)) (entries : CacheEntries) (s : σ) :
    List.Forall₂ CacheEntry.Keeps entries.kept ((entries.pass files).run s).1.list ∧
      ((entries.pass files).run s).1.pendingDeletes = [] := by
  refine ⟨?_, rfl⟩
  unfold pass
  simp only [Traversal.run_bind]
  have started (s : σ) : List.Forall₂ (fun e x => e.Keeps x.1) entries.kept
      ((entries.kept.mapM (CacheEntry.startMove files)).run s).1 :=
    Traversal.forall₂_mapM (CacheEntry.keeps_startMove files) _ _
  have moved (list : List (CacheEntry × Bool)) (s : σ) :
      List.Forall₂ (fun (x : CacheEntry × Bool) e => x.1.Keeps e) list
        ((list.mapM fun (x : CacheEntry × Bool) => x.1.finishMove files x.2).run s).1 :=
    Traversal.forall₂_mapM
      (fun (x : CacheEntry × Bool) => CacheEntry.keeps_finishMove files x.1 x.2) _ _
  have made := Traversal.forall₂_mapM (CacheEntry.keeps_refresh files)
  exact Traversal.forall₂_chain (fun _ _ _ first second => first.trans second)
    (Traversal.forall₂_chain (fun _ _ _ first second => first.trans second) (started _) (moved _ _))
    (made _ _)

theorem mem_kept {entries : CacheEntries} {e : CacheEntry} :
    e ∈ entries.kept ↔ e ∈ entries.list ∧ 0 < e.count := by
  simp [kept, Nat.pos_iff_ne_zero]

theorem pass_origin {files : AssetFiles (StateM σ)} {entries : CacheEntries} {s : σ}
    {e : CacheEntry} (member : e ∈ ((entries.pass files).run s).1.list) :
    ∃ d ∈ entries.kept, d.Keeps e :=
  Traversal.origin_of_forall₂ (pass_keeps files entries s).1 member

/-- A referenced entry is not evicted. -/
theorem pass_image (files : AssetFiles (StateM σ)) {entries : CacheEntries} (s : σ)
    {e : CacheEntry} (member : e ∈ entries.list) (used : 0 < e.count) :
    ∃ d ∈ ((entries.pass files).run s).1.list, e.Keeps d :=
  Traversal.image_of_forall₂ (pass_keeps files entries s).1 (mem_kept.mpr ⟨member, used⟩)

theorem map_path_pass (files : AssetFiles (StateM σ)) (entries : CacheEntries) (s : σ) :
    ((entries.pass files).run s).1.list.map CacheEntry.path = entries.livePaths :=
  Traversal.map_eq_of_forall₂ (fun _ _ keeps => keeps.path) (pass_keeps files entries s).1

theorem DistinctPaths.pass {entries : CacheEntries} (distinct : DistinctPaths entries.list)
    (files : AssetFiles (StateM σ)) (s : σ) :
    DistinctPaths ((entries.pass files).run s).1.list := by
  unfold DistinctPaths
  rw [map_path_pass]
  exact distinct.filter _

/-- Whatever fails in a pass, after it the good entries have their files at their paths. -/
theorem Anchored.inPlace_pass {entries : CacheEntries} (anchored : Anchored entries.list)
    {files : AssetFiles (StateM σ)} {s : σ} {e : CacheEntry}
    (member : e ∈ ((entries.pass files).run s).1.list) : e.InPlace := by
  unfold pass at member
  simp only [Traversal.run_bind] at member
  obtain ⟨moved, isMoved, s₁, rfl⟩ :=
    Traversal.origin_of_mapM (f := CacheEntry.refresh files) member
  obtain ⟨⟨started, moving⟩, isStarted, s₂, rfl⟩ := Traversal.origin_of_mapM isMoved
  obtain ⟨d, isKept, s₃, same⟩ := Traversal.origin_of_mapM isStarted
  have placed := anchored.placed d (mem_kept.mp isKept).1
  have ready := CacheEntry.inPlace_startMove files placed s₃
  rw [← same] at ready
  exact CacheEntry.inPlace_refresh files (CacheEntry.inPlace_finishMove files ready s₂) s₁

theorem Anchored.pass {entries : CacheEntries} (anchored : Anchored entries.list)
    (distinct : DistinctPaths entries.list) (files : AssetFiles (StateM σ)) (s : σ) :
    Anchored ((entries.pass files).run s).1.list :=
  (distinct.pass files s).anchored fun _ member => anchored.inPlace_pass member

/-- Whatever the disk answers, a pass keeps all places among the allowed ones. -/
theorem Within.pass {allowed : String → Prop} {entries : CacheEntries}
    (within : entries.Within allowed) (files : AssetFiles (StateM σ)) (s : σ) :
    ((entries.pass files).run s).1.Within allowed := by
  refine ⟨fun e member => ?_, fun e member place there => ?_, fun place member => ?_⟩
  · obtain ⟨d, present, kept⟩ := pass_origin member
    rw [kept.path]
    exact within.path d (mem_kept.mp present).1
  · obtain ⟨d, present, kept⟩ := pass_origin member
    rcases kept.onDisk with same | moved
    · exact within.place d (mem_kept.mp present).1 place (same ▸ there)
    · obtain rfl := Option.some.inj (moved.symm.trans there)
      exact within.path d (mem_kept.mp present).1
  · rw [(pass_keeps files entries s).2] at member
    cases member

/-! ## Histories -/

theorem distinct_after (files : AssetFiles (StateM σ)) (s : σ) (steps : List CacheStep) :
    DistinctPaths (Cache.after files s steps).1.entries.list :=
  Cache.after_induction (fun entries _ => DistinctPaths entries.list) List.nodup_nil steps
    (fun _ _ next _ distinct => distinct.change next) fun _ s distinct => distinct.pass files s

theorem anchored_after (files : AssetFiles (StateM σ)) (s : σ) (steps : List CacheStep) :
    Anchored (Cache.after files s steps).1.entries.list := by
  refine (Cache.after_induction (fun entries _ => DistinctPaths entries.list ∧
    Anchored entries.list) ⟨List.nodup_nil, nofun, nofun⟩ steps ?_ ?_).2
  · rintro entries _ next _ ⟨distinct, anchored⟩
    exact ⟨distinct.change next, anchored.evolves (.change distinct next)⟩
  · rintro entries s ⟨distinct, anchored⟩
    exact ⟨distinct.pass files s, anchored.pass distinct files s⟩

/-- What merging requested assets and passes keep of single entries holds of all entries that a
history leads to. -/
theorem Entrywise.after {requested : Asset → Prop} {holds : CacheEntry → Prop}
    (entrywise : Entrywise requested holds) (keeps : ∀ d e, d.Keeps e → holds d → holds e)
    (files : AssetFiles (StateM σ)) (s : σ) {steps : List CacheStep}
    (asked : ∀ asset ∈ CacheStep.requests steps, requested asset) :
    ∀ e ∈ (Cache.after files s steps).1.entries.list, holds e := by
  refine (Cache.after_induction
    (fun entries _ => DistinctPaths entries.list ∧ ∀ e ∈ entries.list, holds e)
    ⟨List.nodup_nil, nofun⟩ steps ?_ ?_).2
  · intro entries _ next member before
    refine ⟨before.1.change next, entrywise.change before.1 before.2 fun asset here => ?_⟩
    exact asked asset (CacheStep.mem_requests member here)
  · intro entries s before
    refine ⟨before.1.pass files s, fun e member => ?_⟩
    obtain ⟨d, present, same⟩ := pass_origin member
    exact keeps d e same (before.2 d (mem_kept.mp present).1)

theorem source_after (holds : AssetSource → Prop) (files : AssetFiles (StateM σ)) (s : σ)
    {steps : List CacheStep} (all : ∀ asset ∈ CacheStep.requests steps, holds asset.source) :
    ∀ e ∈ (Cache.after files s steps).1.entries.list, holds e.source :=
  (entrywise_source holds).after (fun _ _ keeps before => keeps.source ▸ before) files s all

/-- All places that a cache knows after a history are paths that were asked for. -/
theorem within_after {allowed : String → Prop} (files : AssetFiles (StateM σ)) (s : σ)
    {steps : List CacheStep} (usable : ∀ asset ∈ CacheStep.requests steps, allowed asset.path) :
    (Cache.after files s steps).1.entries.Within allowed := by
  refine (Cache.after_induction
    (fun entries _ => DistinctPaths entries.list ∧ entries.Within allowed)
    ⟨List.nodup_nil, nofun, nofun, nofun⟩ steps ?_ ?_).2
  · intro entries _ next member before
    refine ⟨before.1.change next, before.2.change before.1 fun asset here => ?_⟩
    exact usable asset (CacheStep.mem_requests member here)
  · exact fun entries s before => ⟨before.1.pass files s, before.2.pass files s⟩

end CacheEntries

end Storyboard
