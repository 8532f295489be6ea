import Mathlib.Tactic.SplitIfs
import Storyboard.Proofs.Cache.Files

/-! # What a pass does for one entry

The halves of a move and the making of a file, each by what it finds, and the paths that each of
them reads and writes.
-/

namespace Storyboard

variable {C : Type} {content? : AssetSource → Option C}

namespace CacheEntry

theorem stagingPath_injective : Function.Injective stagingPath := fun _ _ same =>
  (String.append_left_inj _).mp same

/-- A path that no file moves through. -/
def Unstaged (path : String) : Prop := ∀ other, path ≠ stagingPath other

/-- The name in between shows at its end. -/
theorem unstaged_of_end {path : String}
    (different : path.toList.reverse.take 7 ≠ ".moving".toList.reverse) : Unstaged path := by
  rintro other rfl
  simp [stagingPath] at different

/-! ## One entry -/

theorem startMove_still {e : CacheEntry} (still : e.moving? = none) (F : Files C) :
    (e.startMove (.plain content?)).run F = ((e, false), F) := by
  rw [startMove, still]
  rfl

theorem startMove_missing {e : CacheEntry} {old : String} (moves : e.moving? = some old)
    {F : Files C} (missing : F old = none) :
    (e.startMove (.plain content?)).run F = (({ e with stale := true }, false), F) := by
  simp only [startMove, moves, Traversal.run_bind, AssetFiles.run_rename_missing missing]
  rfl

theorem startMove_found {e : CacheEntry} {old : String} (moves : e.moving? = some old)
    {F : Files C} {content : C} (found : F old = some content) :
    (e.startMove (.plain content?)).run F =
      ((e, true), Function.update (Function.update F old none) (stagingPath e.path)
        (some content)) := by
  simp only [startMove, moves, Traversal.run_bind, AssetFiles.run_rename_found found]
  rfl

/-- An entry after the first half of its move, and whether its file is on the way. -/
def started (F : Files C) (e : CacheEntry) : CacheEntry × Bool :=
  match e.moving? with
  | some old => if (F old).isSome then (e, true) else ({ e with stale := true }, false)
  | none => (e, false)

theorem fst_run_startMove (content? : AssetSource → Option C) (e : CacheEntry) (F : Files C) :
    ((e.startMove (.plain content?)).run F).1 = e.started F := by
  unfold started
  cases moves : e.moving? with
  | none => rw [startMove_still moves]
  | some old =>
    cases there : F old with
    | none => simp [startMove_missing moves there, there]
    | some content => simp [startMove_found moves there, there]

theorem path_started (F : Files C) (e : CacheEntry) : (e.started F).1.path = e.path := by
  unfold started
  split
  · split <;> rfl
  · rfl

/-- A file that is on the way was at its old place. -/
theorem started_eq_true {F : Files C} {e : CacheEntry} (going : (e.started F).2 = true) :
    ∃ old content, e.moving? = some old ∧ F old = some content := by
  unfold started at going
  split at going
  · next old moves =>
    split_ifs at going with there
    obtain ⟨content, found⟩ := Option.isSome_iff_exists.mp there
    exact ⟨old, content, moves, found⟩
  · cases going

theorem started_found {F : Files C} {e : CacheEntry} {old : String} {content : C}
    (moves : e.moving? = some old) (found : F old = some content) : e.started F = (e, true) := by
  simp [started, moves, found]

theorem finishMove_skipped (e : CacheEntry) (F : Files C) :
    (e.finishMove (.plain content?) false).run F = (e, F) := rfl

theorem finishMove_missing {e : CacheEntry} {F : Files C}
    (missing : F (stagingPath e.path) = none) :
    (e.finishMove (.plain content?) true).run F =
      ({ e with stale := true }, Function.update F (stagingPath e.path) none) := by
  simp only [finishMove, if_pos, Traversal.run_bind, AssetFiles.run_rename_missing missing]
  rfl

theorem finishMove_found {e : CacheEntry} {F : Files C} {content : C}
    (found : F (stagingPath e.path) = some content) :
    (e.finishMove (.plain content?) true).run F =
      ({ e with onDisk := some e.path }, Function.update
        (Function.update F (stagingPath e.path) none) e.path (some content)) := by
  simp only [finishMove, if_pos, Traversal.run_bind, AssetFiles.run_rename_found found]
  rfl

theorem refresh_present {e : CacheEntry} {F : Files C} (good : e.stale = false)
    {content : C} (present : F e.path = some content) :
    (e.refresh (.plain content?)).run F = (e, F) := by
  simp only [refresh, Traversal.run_bind, AssetFiles.run_isFile, present, good]
  rfl

/-- An entry that needs its file gets it at its path and is good from then on. -/
theorem refresh_made {e : CacheEntry} {F : Files C} {content : C}
    (needed : e.stale = true ∨ F e.path = none) (made : content? e.source = some content) :
    (e.refresh (.plain content?)).run F =
      ({ e with onDisk := some e.path, stale := false },
        Function.update F e.path (some content)) := by
  have needed : (e.stale || !(F e.path).isSome) = true := by
    rcases needed with stale | missing
    · simp [stale]
    · simp [missing]
  have made : content? e.toAsset.source = some content := made
  rw [refresh, Traversal.run_bind, AssetFiles.run_isFile, if_pos needed, Traversal.run_bind,
    AssetFiles.run_make_made made]
  rfl

theorem refresh_failed {e : CacheEntry} {F : Files C} (failed : content? e.source = none) :
    (e.refresh (.plain content?)).run F = (e, F) := by
  have failed : content? e.toAsset.source = none := failed
  rw [refresh, Traversal.run_bind, AssetFiles.run_isFile]
  split
  · rw [Traversal.run_bind, AssetFiles.run_make_failed failed]
    rfl
  · rfl

/-- An entry after both halves of its move, by what was at its old place. -/
def moved (F : Files C) (e : CacheEntry) : CacheEntry :=
  match e.moving? with
  | some old =>
    if (F old).isSome then { e with onDisk := some e.path } else { e with stale := true }
  | none => e

theorem path_moved (F : Files C) (e : CacheEntry) : (e.moved F).path = e.path := by
  unfold moved
  split
  · split <;> rfl
  · rfl

/-- The second half of a move ends it, if the file is on the way. -/
theorem fst_run_finishMove {e : CacheEntry} {F M : Files C}
    (arrives : ∀ old content, e.moving? = some old → F old = some content →
      M (stagingPath e.path) = some content) :
    (((e.started F).1.finishMove (.plain content?) (e.started F).2).run M).1 = e.moved F := by
  cases moves : e.moving? with
  | none => simp [started, moved, moves, finishMove_skipped]
  | some old =>
    cases there : F old with
    | none => simp [started, moved, moves, there, finishMove_skipped]
    | some content =>
      have arrived := arrives old content moves there
      simp [started, moved, moves, there, finishMove_found arrived]

/-- An entry after a pass: if it can be made, its file is at its path. -/
def settled (content? : AssetSource → Option C) (e : CacheEntry) : CacheEntry :=
  if (content? e.source).isSome then { e with onDisk := some e.path, stale := false } else e

theorem settled_made {e : CacheEntry} {content : C} (made : content? e.source = some content) :
    e.settled content? = { e with onDisk := some e.path, stale := false } := by
  simp [settled, made]

theorem settled_failed {e : CacheEntry} (failed : content? e.source = none) :
    e.settled content? = e := by
  simp [settled, failed]

theorem keeps_settled (content? : AssetSource → Option C) (e : CacheEntry) :
    e.Keeps (e.settled content?) := by
  unfold settled
  split
  · exact ⟨rfl, rfl, rfl, rfl, .inr rfl⟩
  · exact .refl e

/-- Whether the move went well or not, making the file settles the entry. -/
theorem refresh_moved {e : CacheEntry} {F G : Files C}
    (good : e.stale = false → ∃ place content, e.onDisk = some place ∧
      content? e.source = some content ∧ (place = e.path ∨ F place = none ∨ F place = some content))
    (arrived : ∀ old content, e.moving? = some old → F old = some content →
      G e.path = some content)
    (stayed : e.stale = false → e.onDisk = some e.path → ∃ content, G e.path = some content ∧
      content? e.source = some content) :
    (((e.moved F).refresh (.plain content?)).run G).1 = e.settled content? ∧
      ∀ content, content? e.source = some content →
        (((e.moved F).refresh (.plain content?)).run G).2 e.path = some content := by
  cases fresh : e.stale with
  | true =>
    have still : e.moving? = none := Option.eq_none_iff_forall_ne_some.mpr fun old moves => by
      simp [(moving?_eq_some_iff.mp moves).2.1] at fresh
    have same : e.moved F = e := by simp [moved, still]
    rw [same]
    cases made : content? e.source with
    | none => simp [refresh_failed made, settled_failed made]
    | some content => simp [refresh_made (.inl fresh) made, settled_made made]
  | false =>
    obtain ⟨place, content, there, made, found⟩ := good fresh
    by_cases here : place = e.path
    · subst here
      have still : e.moving? = none := Option.eq_none_iff_forall_ne_some.mpr fun old moves => by
        obtain ⟨there', _, elsewhere⟩ := moving?_eq_some_iff.mp moves
        exact elsewhere (Option.some.inj (there'.symm.trans there))
      have same : e.moved F = e := by simp [moved, still]
      obtain ⟨content', present, made'⟩ := stayed fresh there
      obtain rfl := Option.some.inj (made.symm.trans made')
      rw [same, refresh_present fresh present, settled_made made, ← there, ← fresh]
      exact ⟨rfl, fun other made' => present.trans (made.symm.trans made')⟩
    · have moves : e.moving? = some place := moving?_eq_some_iff.mpr ⟨there, fresh, here⟩
      rcases found.resolve_left here with missing | found
      · have same : e.moved F = { e with stale := true } := by simp [moved, moves, missing]
        have made' : content? (e.moved F).source = some content := same ▸ made
        rw [refresh_made (.inl (by rw [same])) made', settled_made made, same]
        exact ⟨rfl, fun other made' => by simp [← made, made']⟩
      · have same : e.moved F = { e with onDisk := some e.path } := by simp [moved, moves, found]
        have present : G (e.moved F).path = some content := by
          rw [same]
          exact arrived place content moves found
        rw [refresh_present (by rw [same]; exact fresh) present, settled_made made, same, ← fresh]
        rw [same] at present
        exact ⟨rfl, fun other made' => present.trans (made.symm.trans made')⟩

/-! ## Which paths an entry touches -/

/-- The paths of the first half of a move. -/
def StartTouches (e : CacheEntry) (path : String) : Prop :=
  ∃ old, e.moving? = some old ∧ (path = old ∨ path = stagingPath e.path)

/-- The paths of the second half of a move. -/
def FinishTouches (x : CacheEntry × Bool) (path : String) : Prop :=
  x.2 = true ∧ (path = stagingPath x.1.path ∨ path = x.1.path)

/-- The first half of a move only sees and changes the old place and the name in between. -/
theorem startMove_local (content? : AssetSource → Option C) :
    Traversal.Local (startMove (.plain content?)) StartTouches := by
  constructor
  · intro e F path untouched
    cases moves : e.moving? with
    | none => rw [startMove_still moves]
    | some old =>
      cases there : F old with
      | none => rw [startMove_missing moves there]
      | some content =>
        have elsewhere : path ≠ old := fun same => untouched ⟨old, moves, .inl same⟩
        have aside : path ≠ stagingPath e.path := fun same => untouched ⟨old, moves, .inr same⟩
        simp only [startMove_found moves there, Function.update_of_ne aside,
          Function.update_of_ne elsewhere]
  · intro e F G agree
    cases moves : e.moving? with
    | none =>
      rw [startMove_still moves, startMove_still moves]
      exact ⟨rfl, agree⟩
    | some old =>
      have same := agree old ⟨old, moves, .inl rfl⟩
      cases there : F old with
      | none =>
        rw [startMove_missing moves there, startMove_missing moves (same ▸ there)]
        exact ⟨rfl, agree⟩
      | some content =>
        rw [startMove_found moves there, startMove_found moves (same ▸ there)]
        refine ⟨rfl, ?_⟩
        rintro path ⟨other, moves', place⟩
        obtain rfl := Option.some.inj (moves.symm.trans moves')
        rcases place with rfl | rfl <;> simp [Function.update_apply]

/-- The second half of a move only sees and changes the name in between and the path. -/
theorem finishMove_local (content? : AssetSource → Option C) : Traversal.Local
    (fun x : CacheEntry × Bool => x.1.finishMove (.plain content?) x.2) FinishTouches := by
  constructor
  · rintro ⟨e, started⟩ F path untouched
    cases started with
    | false => rw [finishMove_skipped]
    | true =>
      have aside : path ≠ stagingPath e.path := fun same => untouched ⟨rfl, .inl same⟩
      have elsewhere : path ≠ e.path := fun same => untouched ⟨rfl, .inr same⟩
      cases there : F (stagingPath e.path) with
      | none => simp only [finishMove_missing there, Function.update_of_ne aside]
      | some content =>
        simp only [finishMove_found there, Function.update_of_ne elsewhere,
          Function.update_of_ne aside]
  · rintro ⟨e, started⟩ F G agree
    cases started with
    | false => exact ⟨rfl, agree⟩
    | true =>
      have same := agree (stagingPath e.path) ⟨rfl, .inl rfl⟩
      cases there : F (stagingPath e.path) with
      | none =>
        rw [finishMove_missing there, finishMove_missing (same ▸ there)]
        refine ⟨rfl, fun path touched => ?_⟩
        simp [Function.update_apply, agree path touched]
      | some content =>
        rw [finishMove_found there, finishMove_found (same ▸ there)]
        refine ⟨rfl, fun path touched => ?_⟩
        simp [Function.update_apply, agree path touched]

/-- Making a file only sees and changes the path of the entry. -/
theorem refresh_local (content? : AssetSource → Option C) :
    Traversal.Local (refresh (.plain content?)) fun e path => path = e.path := by
  constructor
  · intro e F path elsewhere
    cases source : content? e.source with
    | none => rw [refresh_failed source]
    | some content =>
      by_cases needed : e.stale = true ∨ F e.path = none
      · simp only [refresh_made needed source, Function.update_of_ne elsewhere]
      · obtain ⟨good, present⟩ := not_or.mp needed
        obtain ⟨old, there⟩ := Option.ne_none_iff_exists'.mp present
        rw [refresh_present (Bool.eq_false_iff.mpr good) there]
  · intro e F G agree
    have same := agree e.path rfl
    cases source : content? e.source with
    | none =>
      rw [refresh_failed source, refresh_failed source]
      exact ⟨rfl, agree⟩
    | some content =>
      by_cases needed : e.stale = true ∨ F e.path = none
      · rw [refresh_made needed source, refresh_made (same ▸ needed) source]
        refine ⟨rfl, fun path here => ?_⟩
        simp only [here, Function.update_self]
      · obtain ⟨good, present⟩ := not_or.mp needed
        obtain ⟨old, there⟩ := Option.ne_none_iff_exists'.mp present
        rw [refresh_present (Bool.eq_false_iff.mpr good) there,
          refresh_present (Bool.eq_false_iff.mpr good) (same ▸ there)]
        exact ⟨rfl, agree⟩

end CacheEntry

end Storyboard
