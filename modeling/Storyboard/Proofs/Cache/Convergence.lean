import Storyboard.Asset.Digest
import Storyboard.Proofs.Cache.Pass
import Storyboard.Proofs.Cache.TreeStore

/-! # Passes converge

In every state that a history can lead to, the good entries have files with their content. A pass
settles all entries that can be made, and nothing is left to do for another pass right after it.
-/

namespace Storyboard

variable {σ C : Type} {content? : AssetSource → Option C}

namespace CacheEntries

open CacheEntry

variable {entries : CacheEntries} {F : Files C}

theorem Orderly.change (orderly : entries.Orderly) {next : CacheStep}
    (unstaged : ∀ asset ∈ next.requested, Unstaged asset.path) :
    (next.change entries).Orderly :=
  ⟨orderly.distinct.change next, orderly.anchored.evolves (.change orderly.distinct next),
    orderly.unstaged.change orderly.distinct unstaged⟩

/-- A change leaves the files alone, and so it leaves good entries good. -/
theorem Sound.change (sound : entries.Sound content? F) {next : CacheStep}
    (unstaged : ∀ asset ∈ next.requested, Unstaged asset.path) :
    (next.change entries).Sound content? F := by
  refine ⟨sound.toOrderly.change unstaged, fun e member good => ?_⟩
  obtain ⟨d, present, carries⟩ := (Evolves.change sound.distinct next).origin member good
  obtain ⟨good, source, _⟩ := carries.good good
  obtain ⟨place, content, there, made, found⟩ := sound.stored d present good
  exact ⟨place, content, carries.onDisk.trans there, source ▸ made, found⟩

/-- After a pass an entry is good exactly if it can be made. -/
theorem Sound.stale_settled (sound : entries.Sound content? F) {e : CacheEntry}
    (member : e ∈ entries.kept) :
    (e.settled content?).stale = (content? e.source).isNone := by
  cases made : content? e.source with
  | some content => simp [settled_made made]
  | none =>
    rw [settled_failed made]
    by_contra good
    obtain ⟨_, content, _, made', _⟩ :=
      sound.stored e (mem_kept.mp member).1 (by simpa using good)
    exact absurd (made.symm.trans made') nofun

/-- After a pass, good entries have files with their contents at their paths. -/
theorem Sound.pass (sound : entries.Sound content? F) :
    ((entries.pass (.plain content?)).run F).1.Sound content?
      ((entries.pass (.plain content?)).run F).2 := by
  have distinct := sound.distinct.pass (.plain content?) F
  have anchored := sound.anchored.pass sound.distinct (.plain content?) F
  have unstaged := sound.unstaged.pass (.plain content?) F
  obtain ⟨G, runs, passed⟩ := run_pass sound
  rw [runs] at distinct anchored unstaged ⊢
  refine ⟨⟨distinct, anchored, unstaged⟩, fun e member good => ?_⟩
  obtain ⟨d, present, rfl⟩ := List.mem_map.mp member
  rw [sound.stale_settled present, Option.isNone_eq_false_iff] at good
  obtain ⟨content, made⟩ := Option.isSome_iff_exists.mp good
  rw [settled_made made]
  exact ⟨d.path, content, rfl, made, passed.stored d present content made⟩

/-- In every state that a history leads to, good entries have files with their content. -/
theorem sound_after (content? : AssetSource → Option C) (F : Files C) {steps : List CacheStep}
    (unstaged : ∀ asset ∈ CacheStep.requests steps, Unstaged asset.path) :
    (Cache.after (.plain content?) F steps).1.entries.Sound content?
      (Cache.after (.plain content?) F steps).2 := by
  refine Cache.after_induction (fun entries F => entries.Sound content? F) ?_ steps ?_ ?_
  · exact ⟨⟨List.nodup_nil, ⟨nofun, nofun⟩, ⟨nofun, nofun, nofun⟩⟩, nofun⟩
  · exact fun entries F next member sound => sound.change fun asset asked =>
      unstaged asset (CacheStep.mem_requests member asked)
  · exact fun entries F sound => sound.pass

/-! ## Nothing is left to do -/

/-- Entries and files that a pass has nothing to do for. -/
structure AtRest (content? : AssetSource → Option C) (entries : CacheEntries) (F : Files C) : Prop
    where
  pending : entries.pendingDeletes = []
  referenced : ∀ e ∈ entries.list, 0 < e.count
  settled : ∀ e ∈ entries.list, (e.stale = true ∧ content? e.source = none) ∨
    (e.stale = false ∧ e.onDisk = some e.path ∧ F e.path ≠ none)
  doomed : ∀ path ∈ entries.doomed, F path = none

theorem AtRest.moving (rest : entries.AtRest content? F) {e : CacheEntry}
    (member : e ∈ entries.list) : e.moving? = none := by
  refine Option.eq_none_iff_forall_ne_some.mpr fun old moves => ?_
  obtain ⟨there, good, elsewhere⟩ := moving?_eq_some_iff.mp moves
  rcases rest.settled e member with ⟨stale, _⟩ | ⟨_, here, _⟩
  · simp [good] at stale
  · exact elsewhere (Option.some.inj (there.symm.trans here))

/-- Where no file has to move, moves change nothing. -/
theorem run_moves_still {list : List CacheEntry} (still : ∀ e ∈ list, e.moving? = none) :
    (moves (.plain content?) list).run F = (list, F) := by
  have started : (list.mapM (CacheEntry.startMove (.plain content?))).run F =
      (list.map fun e => (e, false), F) :=
    Traversal.run_mapM_still fun e member => startMove_still (still e member) F
  have finished : ((list.map fun e => (e, false)).mapM fun x : CacheEntry × Bool =>
      x.1.finishMove (.plain content?) x.2).run F = (_, F) :=
    Traversal.run_mapM_still (g := Prod.fst) fun x member => by
      obtain ⟨e, _, rfl⟩ := List.mem_map.mp member
      exact finishMove_skipped e F
  rw [moves, Traversal.run_bind, started, finished, List.map_map]
  exact congrArg (·, F) (List.map_id' list)

theorem run_refresh_at_rest (rest : entries.AtRest content? F) {e : CacheEntry}
    (member : e ∈ entries.list) : (e.refresh (.plain content?)).run F = (e, F) := by
  rcases rest.settled e member with ⟨_, failed⟩ | ⟨good, _, present⟩
  · exact refresh_failed failed
  · obtain ⟨content, found⟩ := Option.ne_none_iff_exists'.mp present
    exact refresh_present good found

theorem AtRest.kept_eq (rest : entries.AtRest content? F) : entries.kept = entries.list :=
  List.filter_eq_self.mpr fun e member => by
    simpa using Nat.pos_iff_ne_zero.mp (rest.referenced e member)

/-- A pass over entries at rest changes neither them nor the files. -/
theorem AtRest.run_pass (rest : entries.AtRest content? F) :
    (entries.pass (.plain content?)).run F = (entries, F) := by
  have kept := rest.kept_eq
  have deleted : ((entries.doomed.mapM (AssetFiles.plain content?).remove).run F).2 = F := by
    rw [run_deletions]
    funext path
    split
    · next doomed => exact (rest.doomed path doomed).symm
    · rfl
  have made : (entries.list.mapM (CacheEntry.refresh (.plain content?))).run F =
      (entries.list.map id, F) :=
    Traversal.run_mapM_still fun e member => run_refresh_at_rest rest member
  rw [pass_eq, Traversal.run_bind, deleted, kept, Traversal.run_bind,
    run_moves_still fun e member => rest.moving member, Traversal.run_bind, made, List.map_id]
  exact congrArg (·, F) (congrArg (CacheEntries.mk entries.list) rest.pending.symm)

/-- After a pass, entries and files are at rest. -/
theorem Sound.atRest (sound : entries.Sound content? F) :
    ((entries.pass (.plain content?)).run F).1.AtRest content?
      ((entries.pass (.plain content?)).run F).2 := by
  obtain ⟨G, runs, passed⟩ := CacheEntries.run_pass sound
  rw [runs]
  have origin : ∀ e ∈ entries.kept.map (CacheEntry.settled content?),
      ∃ d ∈ entries.kept, e = d.settled content? := by
    intro e member
    obtain ⟨d, present, rfl⟩ := List.mem_map.mp member
    exact ⟨d, present, rfl⟩
  have keeps := CacheEntry.keeps_settled content?
  have referenced : ∀ e ∈ entries.kept.map (CacheEntry.settled content?), 0 < e.count := by
    intro e member
    obtain ⟨d, present, rfl⟩ := origin e member
    rw [(keeps d).count]
    exact (mem_kept.mp present).2
  refine ⟨rfl, referenced, ?_, ?_⟩
  · intro e member
    obtain ⟨d, present, rfl⟩ := origin e member
    have stale := sound.stale_settled present
    rw [(keeps d).source, (keeps d).path]
    cases made : content? d.source with
    | none => exact .inl ⟨by rw [stale, made]; rfl, rfl⟩
    | some content =>
      refine .inr ⟨by rw [stale, made]; rfl, by rw [settled_made made], ?_⟩
      exact fun missing => nomatch (passed.stored d present content made).symm.trans missing
  · intro path doomed
    obtain ⟨dead, pending | ⟨e, idle, _⟩ | ⟨e, used, left⟩⟩ := mem_doomed.mp doomed
    · cases pending
    · have unused : e.count = 0 := by simpa using (List.mem_filter.mp idle).2
      exact absurd (referenced e (List.mem_of_mem_filter idle)) (by omega)
    · obtain ⟨d, present, rfl⟩ := origin e (List.mem_of_mem_filter used)
      obtain ⟨there, stale, _⟩ := abandoned?_eq_some_iff.mp left
      rw [sound.stale_settled present] at stale
      rw [settled_failed (Option.isNone_iff_eq_none.mp stale)] at there
      have known := (mem_kept.mp present).1
      refine passed.removed path (sound.unstaged.place d known path there) ?_
        (.inr ⟨d, known, there⟩)
      refine fun alive => dead (mem_livePaths.mpr ?_)
      obtain ⟨c, present, rfl⟩ := mem_livePaths.mp alive
      have member := List.mem_map_of_mem (f := CacheEntry.settled content?) present
      exact ⟨_, mem_kept.mpr ⟨member, referenced _ member⟩, (keeps c).path⟩

end CacheEntries

/-! ## Histories over a store -/

open CacheEntry CacheEntries

/-- An entry has the source and the content of a requested asset. -/
theorem entrywise_requested (assets : List Asset) :
    Entrywise (· ∈ assets) fun e =>
      ∃ asset ∈ assets, asset.contentHash = e.contentHash ∧ asset.source = e.source := by
  constructor
  · exact fun asset asked => ⟨asset, asked, rfl, rfl⟩
  · exact fun asset e asked _ before => before
  · intro asset e asked _ before
    unfold CacheEntry.overwritten CacheEntry.replaceContent
    split
    · exact before
    · exact ⟨asset, asked, rfl, rfl⟩
  · exact fun e references before => before

/-- What a pass that has started with some entries and files ends with. -/
structure Converged (content? : AssetSource → Option C) (assets : List Asset)
    (before after : CacheEntries) (F G : Files C) : Prop where
  /-- The referenced entries stay, in their order, and no others. -/
  kept : List.Forall₂ Keeps before.kept after.list
  referenced : ∀ e ∈ after.list, 0 < e.count
  /-- What can be made is stored at its path. -/
  stored : ∀ e ∈ after.list, ∀ content, content? e.source = some content →
    G e.path = some content ∧ e.isMaterialized = true
  /-- That content is the one that was asked for. -/
  own : ∀ e ∈ after.list, (∃ asset ∈ assets, asset.contentHash = e.contentHash) ∧
    ∀ asset ∈ assets, asset.contentHash = e.contentHash → content? asset.source = content? e.source
  /-- No file is left on the way of a move. -/
  staged : ∀ path, G (stagingPath path) = none ∨ G (stagingPath path) = F (stagingPath path)

/-- The entries that count as materialized have their contents at their paths. -/
def Materialized (content? : AssetSource → Option C) (entries : CacheEntries) (F : Files C) :
    Prop :=
  ∀ e ∈ entries.list, e.isMaterialized = true →
    ∃ content, content? e.source = some content ∧ F e.path = some content

theorem isMaterialized_iff {e : CacheEntry} :
    e.isMaterialized = true ↔ e.stale = false ∧ e.onDisk = some e.path := by
  simp [isMaterialized]

theorem CacheEntries.Sound.materialized {entries : CacheEntries} {F : Files C}
    (sound : entries.Sound content? F) : Materialized content? entries F := by
  intro e member good
  obtain ⟨fresh, here⟩ := isMaterialized_iff.mp good
  obtain ⟨place, content, there, made, found⟩ := sound.stored e member fresh
  obtain rfl := Option.some.inj (here.symm.trans there)
  exact ⟨content, made, found⟩

/-- Entries at rest that can be made are materialized. -/
theorem CacheEntries.AtRest.isMaterialized {entries : CacheEntries} {F : Files C}
    (rest : entries.AtRest content? F) {e : CacheEntry} (member : e ∈ entries.list) {content : C}
    (made : content? e.source = some content) : e.isMaterialized = true := by
  rcases rest.settled e member with ⟨_, failed⟩ | ⟨good, here, _⟩
  · exact nomatch made.symm.trans failed
  · exact isMaterialized_iff.mpr ⟨good, here⟩

/-- A pass over sound entries converges, as far as files are concerned. -/
theorem CacheEntries.Sound.stored_pass {entries : CacheEntries} {F : Files C}
    (sound : entries.Sound content? F) {e : CacheEntry}
    (member : e ∈ ((entries.pass (.plain content?)).run F).1.list) {content : C}
    (made : content? e.source = some content) :
    ((entries.pass (.plain content?)).run F).2 e.path = some content ∧ e.isMaterialized = true := by
  have good := sound.atRest.isMaterialized member made
  obtain ⟨content', made', found⟩ := sound.pass.materialized e member good
  exact ⟨found.trans (made'.symm.trans made), good⟩

/-- What a history over a store, a pass after it and one more pass come to. -/
structure Converges (store : FileStore σ C) (s : σ) (steps : List CacheStep)
    (before after : Files C) : Prop where
  shownBefore : store.shows (Cache.after store.files s steps).2 before
  shownAfter : store.shows (Cache.after store.files s (steps ++ [.pass])).2 after
  /-- Before the pass, in whatever state the history has led to. -/
  materialized : Materialized store.content? (Cache.after store.files s steps).1.entries before
  /-- After the pass. -/
  converged : Converged store.content? (CacheStep.requests steps)
    (Cache.after store.files s steps).1.entries
    (Cache.after store.files s (steps ++ [.pass])).1.entries before after
  /-- One more pass changes neither the entries nor the files. -/
  again : (Cache.after store.files s (steps ++ [.pass, .pass])).1.entries =
    (Cache.after store.files s (steps ++ [.pass])).1.entries
  shownAgain : store.shows (Cache.after store.files s (steps ++ [.pass, .pass])).2 after

/-- Over any store and after any history that names paths which the store takes, materialized
entries have their files, a pass converges, and a second one right after it changes nothing. -/
theorem pass_converges (store : FileStore σ C) {s : σ} {F : Files C} (start : store.shows s F)
    {steps : List CacheStep} (takes : ∀ asset ∈ CacheStep.requests steps, store.Takes asset)
    (distinguished : ∀ a ∈ CacheStep.requests steps, ∀ b ∈ CacheStep.requests steps,
      a.contentHash = b.contentHash → store.content? a.source = store.content? b.source) :
    ∃ before after, Converges store s steps before after := by
  have split : steps ++ [.pass, .pass] = (steps ++ [.pass]) ++ [CacheStep.pass] := by simp
  have takesOne : ∀ asset ∈ CacheStep.requests (steps ++ [.pass]), store.Takes asset := by
    rwa [CacheStep.requests_pass]
  have takesTwo : ∀ asset ∈ CacheStep.requests ((steps ++ [.pass]) ++ [.pass]),
      store.Takes asset := by
    rwa [CacheStep.requests_pass]
  obtain ⟨same, related⟩ := FileStore.after_simulates start takes
  obtain ⟨sameOne, relatedOne⟩ := FileStore.after_simulates start takesOne
  obtain ⟨sameTwo, relatedTwo⟩ := FileStore.after_simulates start takesTwo
  have sound := sound_after store.content? F fun asset asked => (takes asset asked).unstaged
  have own := (entrywise_requested (CacheStep.requests (steps ++ [.pass]))).after
    (fun d e keeps before => by rwa [keeps.contentHash, keeps.source]) store.files s
    fun asset asked => asked
  have keeps := (pass_keeps store.files (Cache.after store.files s steps).1.entries
    (Cache.after store.files s steps).2).1
  obtain ⟨once, onceFiles⟩ := Cache.after_pass store.reference F steps
  obtain ⟨twice, twiceFiles⟩ := Cache.after_pass store.reference F (steps ++ [.pass])
  have again := sound.atRest.run_pass
  obtain ⟨_, runs, passed⟩ := run_pass sound
  refine ⟨_, _, related, relatedOne, ?_, ⟨?_, ?_, ?_, ?_, ?_⟩, ?_, ?_⟩
  · rw [same]
    exact sound.materialized
  · rw [(Cache.after_pass store.files s steps).1]
    exact keeps
  · rw [sameOne, once]
    exact sound.atRest.referenced
  · rw [sameOne, once, onceFiles]
    exact fun e member content made => sound.stored_pass member made
  · intro e member
    obtain ⟨asset, asked, hash, source⟩ := own e member
    rw [CacheStep.requests_pass] at asked
    refine ⟨⟨asset, asked, hash⟩, fun other asked' hash' => ?_⟩
    rw [← source]
    exact distinguished other asked' asset asked (hash'.trans hash.symm)
  · rw [onceFiles]
    exact runs ▸ passed.staged
  · rw [split, sameTwo, sameOne, twice, once, onceFiles]
    exact congrArg Prod.fst again
  · have unchanged : (Cache.after store.reference F ((steps ++ [.pass]) ++ [.pass])).2 =
        (Cache.after store.reference F (steps ++ [.pass])).2 := by
      rw [twiceFiles, once, onceFiles]
      exact congrArg Prod.snd again
    rw [split]
    exact unchanged ▸ relatedTwo

/-- A red square and a blue one swap their paths in a file tree. -/
theorem pass_converges_swap :
    let red : AssetSource := .solid 1 1 ⟨255, 0, 0, 255⟩
    let blue : AssetSource := .solid 1 1 ⟨0, 0, 255, 255⟩
    ∃ before after, Converges
      (FileStore.tree .fontless FileTree.plot_two ⟨[]⟩ FileTree.rectangle?) ⟨[]⟩
      [.apply [red.asset "a.png", blue.asset "b.png"], .pass,
        .apply [red.asset "b.png", blue.asset "a.png"]] before after := by
  intro red blue
  have different : red.key.contentHash ≠ blue.key.contentHash := by
    rw [AssetSource.key_solid_eq, AssetSource.key_solid_eq]
    decide +kernel
  refine pass_converges (FileStore.tree .fontless FileTree.plot_two ⟨[]⟩ FileTree.rectangle?)
    (FileTree.shows_empty FileTree.plot_two) ?_ ?_
  · simp [CacheStep.requests, CacheStep.requested, FileTree.takes_two, red, blue]
  · simp [CacheStep.requests, CacheStep.requested, AssetSource.asset, different, different.symm]

end Storyboard
