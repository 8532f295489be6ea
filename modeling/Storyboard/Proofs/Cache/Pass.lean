import Storyboard.Proofs.Cache.Actions

/-! # What a pass does to the files

A pass deletes, moves in two halves and makes files. In each of its loops the entries touch
different paths, so every entry can be followed from its old place to its path on its own.
-/

namespace Storyboard

variable {C : Type} {content? : AssetSource → Option C}

namespace CacheEntries

open CacheEntry

/-! ## The loops -/

/-- Entries with paths of their own, whose good files are at places of their own. -/
structure Orderly (entries : CacheEntries) : Prop where
  distinct : DistinctPaths entries.list
  anchored : Anchored entries.list
  unstaged : entries.Within Unstaged

theorem DistinctPaths.pairwise {list : List CacheEntry} (distinct : DistinctPaths list) :
    list.Pairwise fun d e => d.path ≠ e.path := List.pairwise_map.mp distinct

theorem Orderly.kept {entries : CacheEntries} (orderly : entries.Orderly) :
    Orderly { list := entries.kept } := by
  have part : ∀ e ∈ entries.kept, e ∈ entries.list := fun e member => List.mem_of_mem_filter member
  refine ⟨orderly.distinct.filter _, ⟨?_, ?_⟩, ⟨?_, ?_, nofun⟩⟩
  · exact fun e member => orderly.anchored.placed e (part e member)
  · exact fun d first e second => orderly.anchored.apart d (part d first) e (part e second)
  · exact fun e member => orderly.unstaged.path e (part e member)
  · exact fun e member => orderly.unstaged.place e (part e member)

variable {list : List CacheEntry}

/-- The first halves of two moves have no path in common. -/
theorem Orderly.disjoint_start (orderly : Orderly { list }) :
    list.Pairwise fun d e => ∀ path, StartTouches d path → ¬ StartTouches e path := by
  refine orderly.distinct.pairwise.imp_of_mem ?_
  rintro d e first second different path ⟨old, moves, place⟩ ⟨old', moves', place'⟩
  obtain ⟨there, good, _⟩ := moving?_eq_some_iff.mp moves
  obtain ⟨there', good', _⟩ := moving?_eq_some_iff.mp moves'
  have free := orderly.unstaged.place d first old there
  have free' := orderly.unstaged.place e second old' there'
  rcases place with rfl | rfl
  · rcases place' with rfl | same
    · have one := orderly.anchored.apart d first e second good good' (there.trans there'.symm)
      exact different (congrArg CacheEntry.path one)
    · exact free _ same
  · rcases place' with same | same
    · exact free' _ same.symm
    · exact different (stagingPath_injective same)

/-- The second halves of two moves have no path in common. -/
theorem disjoint_finish {list : List (CacheEntry × Bool)}
    (distinct : (list.map fun x => x.1.path).Nodup) (unstaged : ∀ x ∈ list, Unstaged x.1.path) :
    list.Pairwise fun x y => ∀ path, FinishTouches x path → ¬ FinishTouches y path := by
  refine (List.pairwise_map.mp distinct).imp_of_mem ?_
  rintro x y first second different path ⟨_, place⟩ ⟨_, place'⟩
  rcases place with rfl | rfl
  · rcases place' with same | same
    · exact different (stagingPath_injective same)
    · exact unstaged y second _ same.symm
  · rcases place' with same | same
    · exact unstaged x first _ same
    · exact different same

/-! ## Deletions and moves -/

/-- Removals leave exactly the other files. -/
theorem run_deletions (paths : List String) (F : Files C) :
    ((paths.mapM (AssetFiles.plain content?).remove).run F).2 =
      fun path => if path ∈ paths then none else F path := by
  induction paths generalizing F with
  | nil =>
    funext path
    rw [Traversal.run_mapM_nil, if_neg List.not_mem_nil]
  | cons first rest ih =>
    rw [Traversal.run_mapM_cons, ih, AssetFiles.run_remove]
    funext path
    by_cases same : path = first
    · simp [same]
    · simp [same]

/-- Both halves of all moves. -/
def moves {m : Type → Type} [Monad m] (files : AssetFiles m) (list : List CacheEntry) :
    m (List CacheEntry) := do
  let started ← list.mapM (CacheEntry.startMove files)
  started.mapM fun x => x.1.finishMove files x.2

/-- What both halves of all moves do to the files. -/
structure Moved (list : List CacheEntry) (F G : Files C) : Prop where
  /-- A file that moves arrives. -/
  arrived : ∀ e ∈ list, ∀ old content, e.moving? = some old → F old = some content →
    G e.path = some content
  /-- A good file that is in its place stays. -/
  stayed : ∀ e ∈ list, e.stale = false → e.onDisk = some e.path → G e.path = F e.path
  /-- A file that moves is gone where nothing arrives. -/
  gone : ∀ e ∈ list, ∀ old, e.moving? = some old → (∀ d ∈ list, d.path ≠ old) → G old = none
  /-- What neither moves nor is in the way of a move stays. -/
  untouched : ∀ path, Unstaged path → (∀ e ∈ list, e.path ≠ path ∧ e.moving? ≠ some path) →
    G path = F path
  /-- Nothing is left on the way. -/
  staged : ∀ path, G (stagingPath path) = none ∨ G (stagingPath path) = F (stagingPath path)

/-- A file that is found at its old place gets as far as the name in between. -/
theorem halfway_of_written {e : CacheEntry} {F M : Files C} {old : String} {content : C}
    (written : ∀ path, StartTouches e path →
      M path = ((e.startMove (.plain content?)).run F).2 path)
    (moves : e.moving? = some old) (found : F old = some content) :
    M (stagingPath e.path) = some content := by
  rw [written _ ⟨old, moves, .inr rfl⟩, startMove_found moves found]
  exact Function.update_self ..

/-- Two rounds of halves that stay out of each other's way make whole moves. -/
theorem moved_of_halves (orderly : Orderly { list }) {F M G : Files C}
    (written : ∀ e ∈ list, ∀ path, StartTouches e path →
      M path = ((e.startMove (.plain content?)).run F).2 path)
    (frame : ∀ path, (∀ e ∈ list, ¬ StartTouches e path) → M path = F path)
    (written' : ∀ x ∈ list.map (started F), ∀ path, FinishTouches x path →
      G path = ((x.1.finishMove (.plain content?) x.2).run M).2 path)
    (frame' : ∀ path, (∀ x ∈ list.map (started F), ¬ FinishTouches x path) → G path = M path) :
    Moved list F G := by
  have aside : ∀ e ∈ list, ∀ other, e.path ≠ stagingPath other := orderly.unstaged.path
  have landed : ∀ e ∈ list, ∀ old content, e.moving? = some old → F old = some content →
      G e.path = some content ∧ G (stagingPath e.path) = none := by
    intro e member old content moves found
    have present : (e, true) ∈ list.map (started F) :=
      List.mem_map.mpr ⟨e, member, started_found moves found⟩
    have halfway := halfway_of_written (written e member) moves found
    rw [written' _ present _ ⟨rfl, .inr rfl⟩, written' _ present _ ⟨rfl, .inl rfl⟩,
      finishMove_found halfway]
    refine ⟨Function.update_self .., ?_⟩
    simp only [Function.update_of_ne (aside e member e.path).symm, Function.update_self]
  have second : ∀ path, (∀ e ∈ list, ∀ old content, e.moving? = some old → F old = some content →
      path ≠ stagingPath e.path ∧ path ≠ e.path) → G path = M path := by
    intro path free
    refine frame' path fun x member touched => ?_
    obtain ⟨e, present, rfl⟩ := List.mem_map.mp member
    obtain ⟨going, place⟩ := touched
    obtain ⟨old, content, moves, found⟩ := started_eq_true going
    rw [path_started] at place
    exact place.elim (free e present old content moves found).1
      (free e present old content moves found).2
  constructor
  · exact fun e member old content moves found => (landed e member old content moves found).1
  · intro e member good there
    rw [second, frame]
    · rintro d present ⟨old, moves, rfl | same⟩
      · obtain ⟨there', good', elsewhere⟩ := moving?_eq_some_iff.mp moves
        obtain rfl := orderly.anchored.apart d present e member good' good (there'.trans there.symm)
        exact elsewhere rfl
      · exact aside e member _ same
    · intro d present old content moves _
      refine ⟨aside e member d.path, fun same => ?_⟩
      obtain rfl := orderly.distinct.eq_of_path member present same
      obtain ⟨there', _, elsewhere⟩ := moving?_eq_some_iff.mp moves
      exact elsewhere (Option.some.inj (there'.symm.trans there))
  · intro e member old moves free
    have unstaged := orderly.unstaged.place e member old (moving?_eq_some_iff.mp moves).1
    rw [second old fun d present _ _ _ _ => ⟨unstaged d.path, (free d present).symm⟩,
      written e member old ⟨old, moves, .inl rfl⟩]
    cases there : F old with
    | none => rwa [startMove_missing moves there]
    | some content =>
      simp only [startMove_found moves there, Function.update_of_ne (unstaged e.path),
        Function.update_self]
  · intro path unstaged free
    rw [second path fun d present _ _ _ _ => ⟨unstaged d.path, (free d present).1.symm⟩, frame]
    rintro e member ⟨old, moves, rfl | same⟩
    · exact (free e member).2 moves
    · exact unstaged _ same
  · intro path
    by_cases going : ∃ e ∈ list, e.path = path ∧ (e.started F).2 = true
    · obtain ⟨e, member, rfl, going⟩ := going
      obtain ⟨old, content, moves, found⟩ := started_eq_true going
      exact .inl (landed e member old content moves found).2
    · have still : ∀ e ∈ list, ∀ old content, e.moving? = some old → F old = some content →
          e.path ≠ path := by
        intro e member old content moves found same
        exact going ⟨e, member, same, by rw [started_found moves found]⟩
      rw [second]
      · by_cases touched : ∃ e ∈ list, StartTouches e (stagingPath path)
        · obtain ⟨e, member, old, moves, place⟩ := touched
          have unstaged := orderly.unstaged.place e member old (moving?_eq_some_iff.mp moves).1
          have same :=
            stagingPath_injective (place.resolve_left fun same => unstaged path same.symm)
          rw [written e member _ ⟨old, moves, place⟩]
          cases there : F old with
          | none =>
            rw [startMove_missing moves there]
            exact .inr rfl
          | some content => exact absurd same.symm (still e member old content moves there)
        · exact .inr (frame _ fun e member touch => touched ⟨e, member, touch⟩)
      · intro d present old content moves found
        refine ⟨fun same => still d present old content moves found ?_,
          (aside d present path).symm⟩
        exact (stagingPath_injective same).symm

/-- All moves together do what each one does alone, so entries can trade their places. -/
theorem run_moves (content? : AssetSource → Option C) (orderly : Orderly { list }) (F : Files C) :
    ∃ G, (moves (.plain content?) list).run F = (list.map (CacheEntry.moved F), G) ∧
      Moved list F G := by
  obtain ⟨first, written, frame⟩ := (startMove_local content?).run_mapM orderly.disjoint_start F
  simp only [fst_run_startMove] at first
  generalize middle : ((list.mapM (CacheEntry.startMove (.plain content?))).run F).2 = M
    at written frame
  have distinct : ((list.map (started F)).map fun x => x.1.path).Nodup := by
    have paths : (fun x : CacheEntry × Bool => x.1.path) ∘ started F = CacheEntry.path :=
      funext (path_started F)
    rw [List.map_map, paths]
    exact orderly.distinct
  have unstaged : ∀ x ∈ list.map (started F), Unstaged x.1.path := by
    intro x member
    obtain ⟨e, present, rfl⟩ := List.mem_map.mp member
    rw [path_started]
    exact orderly.unstaged.path e present
  obtain ⟨second, written', frame'⟩ :=
    (finishMove_local content?).run_mapM (disjoint_finish distinct unstaged) M
  have runs : (moves (.plain content?) list).run F = ((list.map (started F)).mapM
      fun x : CacheEntry × Bool => x.1.finishMove (.plain content?) x.2).run M := by
    rw [moves, Traversal.run_bind, first, middle]
  rw [runs]
  generalize ending : (((list.map (started F)).mapM
      fun x : CacheEntry × Bool => x.1.finishMove (.plain content?) x.2).run M).2 = G
    at written' frame'
  have halfway : ∀ e ∈ list, ∀ old content, e.moving? = some old → F old = some content →
      M (stagingPath e.path) = some content :=
    fun e member _ _ => halfway_of_written (written e member)
  refine ⟨G, Prod.ext ?_ ending, ?_⟩
  · rw [second, List.map_map]
    exact List.map_congr_left fun e member => fst_run_finishMove (halfway e member)
  · exact moved_of_halves orderly written frame written' frame'

/-! ## The whole pass -/

theorem pass_eq {m : Type → Type} [Monad m] [LawfulMonad m] (files : AssetFiles m)
    (entries : CacheEntries) : entries.pass files = (do
      let _ ← entries.doomed.mapM files.remove
      let moved ← moves files entries.kept
      let list ← moved.mapM (CacheEntry.refresh files)
      return { list }) := by
  simp [pass, moves]

/-- Every good entry has a file with the content of its source. -/
structure Sound (content? : AssetSource → Option C) (entries : CacheEntries) (F : Files C) : Prop
    extends Orderly entries where
  stored : ∀ e ∈ entries.list, e.stale = false → ∃ place content, e.onDisk = some place ∧
    content? e.source = some content ∧ F place = some content

/-- Whether the entries know of a file. -/
def Accounts (entries : CacheEntries) (path : String) : Prop :=
  path ∈ entries.pendingDeletes ∨ ∃ e ∈ entries.list, e.onDisk = some path

/-- What a pass does to the files. -/
structure Passed (content? : AssetSource → Option C) (entries : CacheEntries) (F G : Files C) :
    Prop where
  /-- What is referenced and can be made is stored. -/
  stored : ∀ e ∈ entries.kept, ∀ content, content? e.source = some content →
    G e.path = some content
  /-- A file that the entries know of is gone, unless its path is in use. -/
  removed : ∀ path, Unstaged path → path ∉ entries.livePaths → entries.Accounts path →
    G path = none
  /-- Other files stay. -/
  untouched : ∀ path, Unstaged path → path ∉ entries.livePaths → ¬ entries.Accounts path →
    G path = F path
  /-- Nothing is left on the way of a move. -/
  staged : ∀ path, G (stagingPath path) = none ∨ G (stagingPath path) = F (stagingPath path)

theorem mem_livePaths {entries : CacheEntries} {path : String} :
    path ∈ entries.livePaths ↔ ∃ e ∈ entries.kept, e.path = path := List.mem_map

theorem mem_doomed {entries : CacheEntries} {path : String} :
    path ∈ entries.doomed ↔ path ∉ entries.livePaths ∧ (path ∈ entries.pendingDeletes ∨
      (∃ e ∈ entries.evicted, e.onDisk = some path) ∨
        ∃ e ∈ entries.kept, e.abandoned? = some path) := by
  simp only [doomed, List.mem_filter, List.mem_append, List.mem_filterMap, Bool.not_eq_true',
    List.contains_eq_mem, decide_eq_false_iff_not, or_assoc]
  exact and_comm

/-- Files that the entries know of are deleted or move, unless their paths are in use. -/
theorem Accounts.doomed_or_moving {entries : CacheEntries} {path : String}
    (accounts : entries.Accounts path) (dead : path ∉ entries.livePaths) :
    path ∈ entries.doomed ∨ ∃ e ∈ entries.kept, e.moving? = some path := by
  rcases accounts with pending | ⟨e, member, there⟩
  · exact .inl (mem_doomed.mpr ⟨dead, .inl pending⟩)
  by_cases used : e ∈ entries.kept
  · have elsewhere : path ≠ e.path := fun same => dead (mem_livePaths.mpr ⟨e, used, same.symm⟩)
    cases fresh : e.stale with
    | true =>
      have left := abandoned?_eq_some_iff.mpr ⟨there, fresh, elsewhere⟩
      exact .inl (mem_doomed.mpr ⟨dead, .inr (.inr ⟨e, used, left⟩)⟩)
    | false => exact .inr ⟨e, used, moving?_eq_some_iff.mpr ⟨there, fresh, elsewhere⟩⟩
  · have idle : e ∈ entries.evicted := by
      simp only [kept, List.mem_filter, member, true_and, bne_iff_ne, not_not] at used
      simp [evicted, member, used]
    exact .inl (mem_doomed.mpr ⟨dead, .inr (.inl ⟨e, idle, there⟩)⟩)

theorem accounts_of_mem_doomed {entries : CacheEntries} {path : String}
    (member : path ∈ entries.doomed) : entries.Accounts path := by
  rcases (mem_doomed.mp member).2 with pending | ⟨e, idle, there⟩ | ⟨e, used, left⟩
  · exact .inl pending
  · exact .inr ⟨e, List.mem_of_mem_filter idle, there⟩
  · exact .inr ⟨e, List.mem_of_mem_filter used, (abandoned?_eq_some_iff.mp left).1⟩

theorem disjoint_refresh {list : List CacheEntry} (distinct : DistinctPaths list) :
    list.Pairwise fun d e => ∀ path, path = d.path → ¬ path = e.path := by
  refine distinct.pairwise.imp ?_
  rintro d e different path rfl same
  exact different same

/-- The files once the doomed ones are deleted. -/
def cleared (entries : CacheEntries) (F : Files C) : Files C := fun path =>
  if path ∈ entries.doomed then none else F path

/-- What the loops leave at a path that is not in use. -/
theorem unused_of_moved {entries : CacheEntries} {F M : Files C}
    (moved : Moved entries.kept (entries.cleared F) M)
    {path : String} (unstaged : Unstaged path) (dead : path ∉ entries.livePaths) :
    (entries.Accounts path → M path = none) ∧ (¬ entries.Accounts path → M path = F path) := by
  have free : ∀ e ∈ entries.kept, e.path ≠ path := fun e member same =>
    dead (mem_livePaths.mpr ⟨e, member, same⟩)
  constructor
  · intro accounts
    by_cases moving : ∃ e ∈ entries.kept, e.moving? = some path
    · obtain ⟨e, member, moves⟩ := moving
      exact moved.gone e member path moves free
    · have doomed := (accounts.doomed_or_moving dead).resolve_right moving
      rw [moved.untouched path unstaged fun e member =>
        ⟨free e member, fun moves => moving ⟨e, member, moves⟩⟩]
      exact if_pos doomed
  · intro unknown
    rw [moved.untouched path unstaged fun e member => ⟨free e member, fun moves => ?_⟩]
    · exact if_neg fun doomed => unknown (accounts_of_mem_doomed doomed)
    · exact unknown (.inr ⟨e, (mem_kept.mp member).1, (moving?_eq_some_iff.mp moves).1⟩)

/-- A good file is at its place, or is about to move and deleted. -/
theorem good_of_stored {entries : CacheEntries} {F : Files C} (sound : entries.Sound content? F)
    {e : CacheEntry} (member : e ∈ entries.kept) (good : e.stale = false) :
    ∃ place content, e.onDisk = some place ∧ content? e.source = some content ∧
      (place = e.path ∨ entries.cleared F place = none ∨
        entries.cleared F place = some content) := by
  obtain ⟨place, content, there, made, found⟩ := sound.stored e (mem_kept.mp member).1 good
  refine ⟨place, content, there, made, .inr ?_⟩
  unfold cleared
  split
  · exact .inl rfl
  · exact .inr found

/-- A good file that is already in its place is not touched by moves. -/
theorem stayed_of_moved {entries : CacheEntries} {F M : Files C}
    (sound : entries.Sound content? F)
    (moved : Moved entries.kept (entries.cleared F) M)
    {e : CacheEntry} (member : e ∈ entries.kept) (good : e.stale = false)
    (there : e.onDisk = some e.path) :
    ∃ content, M e.path = some content ∧ content? e.source = some content := by
  obtain ⟨place, content, there', made, found⟩ := sound.stored e (mem_kept.mp member).1 good
  obtain rfl := Option.some.inj (there.symm.trans there')
  have alive : e.path ∉ entries.doomed := fun doomed =>
    (mem_doomed.mp doomed).1 (mem_livePaths.mpr ⟨e, member, rfl⟩)
  refine ⟨content, ?_, made⟩
  rw [moved.stayed e member good there, cleared, if_neg alive, found]

/-- What a pass does, entry by entry and path by path. -/
theorem run_pass {entries : CacheEntries} {F : Files C} (sound : entries.Sound content? F) :
    ∃ G, (entries.pass (.plain content?)).run F =
        ({ list := entries.kept.map (CacheEntry.settled content?) }, G) ∧
      Passed content? entries F G := by
  have orderly := sound.toOrderly.kept
  have deleted : ((entries.doomed.mapM (AssetFiles.plain content?).remove).run F).2 =
      entries.cleared F := run_deletions entries.doomed F
  obtain ⟨M, runs, moved⟩ := run_moves content? orderly (entries.cleared F)
  have distinct : DistinctPaths (entries.kept.map (CacheEntry.moved (entries.cleared F))) :=
    DistinctPaths.map orderly.distinct (path_moved _)
  obtain ⟨results, written, frame⟩ :=
    (refresh_local content?).run_mapM (disjoint_refresh distinct) M
  generalize ending : (((entries.kept.map (CacheEntry.moved (entries.cleared F))).mapM
    (CacheEntry.refresh (.plain content?))).run M).2 = G at written frame
  have each := fun e (member : e ∈ entries.kept) => refresh_moved (good_of_stored sound member)
    (moved.arrived e member) (stayed_of_moved sound moved member)
  rw [List.map_map] at results
  have made : ((entries.kept.map (CacheEntry.moved (entries.cleared F))).mapM
      (CacheEntry.refresh (.plain content?))).run M =
      (entries.kept.map (CacheEntry.settled content?), G) :=
    Prod.ext (results.trans (List.map_congr_left fun e member => (each e member).1)) ending
  have aside : ∀ path, path ∉ entries.livePaths → G path = M path := by
    intro path dead
    refine frame path fun e member same => ?_
    obtain ⟨d, present, rfl⟩ := List.mem_map.mp member
    rw [path_moved] at same
    exact dead (mem_livePaths.mpr ⟨d, present, same.symm⟩)
  refine ⟨G, ?_, ?_⟩
  · rw [pass_eq, Traversal.run_bind, deleted, Traversal.run_bind, runs, Traversal.run_bind, made]
    rfl
  constructor
  · intro e member content makes
    have present := List.mem_map_of_mem (f := CacheEntry.moved (entries.cleared F)) member
    rw [written _ present e.path (path_moved _ e).symm]
    exact (each e member).2 content makes
  · intro path unstaged dead accounts
    rw [aside path dead]
    exact (unused_of_moved moved unstaged dead).1 accounts
  · intro path unstaged dead unknown
    rw [aside path dead]
    exact (unused_of_moved moved unstaged dead).2 unknown
  · intro path
    have dead : stagingPath path ∉ entries.livePaths := fun used => by
      obtain ⟨e, member, same⟩ := mem_livePaths.mp used
      exact orderly.unstaged.path e member path same
    rw [aside _ dead]
    rcases moved.staged path with gone | same
    · exact .inl gone
    · rw [same, cleared]
      split
      · exact .inl rfl
      · exact .inr rfl

end CacheEntries

end Storyboard
