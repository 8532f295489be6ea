import Mathlib.Data.List.Induction
import Mathlib.Data.List.Nodup
import Storyboard.Generation.Run
import Storyboard.Proofs.Generation.Tour

/-! # What scripts give together

The groups of all scripts that finished are merged by name: a merged group has the elements of all
groups of its name in turn, and the settings of the first one. Merged groups stand in the order in
which their names came up; a ranking moves those that it lists behind all others.
-/

namespace Storyboard

variable {R : Type}

namespace ScriptRun

/-- The groups that are merged: those of a script that finished. -/
def groups : ScriptRun R → List (Group R)
  | .done groups _ => groups
  | .faulted _ => []

/-- The assets that are taken over: those of a script that finished. -/
def assets : ScriptRun R → List Asset
  | .done _ assets => assets
  | .faulted _ => []

/-- Why the script failed, if it did. -/
def report? : ScriptRun R → Option String
  | .done _ _ => none
  | .faulted report => some report

end ScriptRun

namespace Harvest

/-- The scripts that failed, by name, and why. -/
def failed (runs : List (String × ScriptRun R)) : List (String × String) :=
  runs.filterMap fun (name, run) => run.report?.map fun report => (name, report)

/-- What came of scripts, part by part. -/
theorem foldl_add (runs : List (String × ScriptRun R)) (harvest : Harvest R) :
    runs.foldl (fun harvest (name, run) => harvest.add name run) harvest =
      { groups := Group.mergeAll harvest.groups (runs.flatMap fun run => run.2.groups)
        assets := harvest.assets ++ runs.flatMap fun run => run.2.assets
        faulted := harvest.faulted ++ (failed runs).map Prod.fst
        faults := harvest.faults ++
          (failed runs).map fun (name, report) => Failure.scriptFault name report } := by
  induction runs generalizing harvest with
  | nil => simp [failed, Group.mergeAll]
  | cons run rest ih =>
    obtain ⟨name, run⟩ := run
    rw [List.foldl_cons, ih]
    cases run <;>
      simp [add, failed, Group.mergeAll, ScriptRun.groups, ScriptRun.assets, ScriptRun.report?]

theorem groups_ofRuns (runs : List (String × ScriptRun R)) :
    (ofRuns runs).groups = Group.mergeAll [] (runs.flatMap fun run => run.2.groups) := by
  rw [ofRuns, foldl_add]

end Harvest

namespace Group

/-! ## Merging -/

variable {given merged : List (Group R)}

theorem merge_of_notMem {groups : List (Group R)} {incoming : Group R}
    (fresh : incoming.name ∉ names groups) : merge groups incoming = groups ++ [incoming] := by
  induction groups with
  | nil => rfl
  | cons g rest ih =>
    obtain ⟨other, fresh⟩ := not_or.mp fun member => fresh (List.mem_cons.mpr member)
    rw [merge, if_neg (Ne.symm other), ih fresh, List.cons_append]

/-- A group whose name is known is merged in place. -/
theorem merge_of_mem {groups : List (Group R)} (distinct : (names groups).Nodup)
    {incoming : Group R} (known : incoming.name ∈ names groups) :
    merge groups incoming = groups.map fun g =>
      if g.name = incoming.name then g.extend incoming.elements else g := by
  induction groups with
  | nil => cases known
  | cons g rest ih =>
    obtain ⟨fresh, distinct⟩ := List.nodup_cons.mp distinct
    rw [merge, List.map_cons]
    by_cases same : g.name = incoming.name
    · have others : ∀ h ∈ rest, h.name ≠ incoming.name := fun h member equal =>
        fresh (same ▸ equal ▸ List.mem_map_of_mem member)
      rw [if_pos same, if_pos same, List.map_congr_left (g := id), List.map_id]
      exact fun h member => if_neg (others h member)
    · have later : incoming.name ∈ names rest :=
        (List.mem_cons.mp known).resolve_left fun equal => same equal.symm
      rw [if_neg same, if_neg same, ih distinct later]

/-- What merging makes of groups that come in turn. -/
structure Merged (given merged : List (Group R)) : Prop where
  distinct : (names merged).Nodup
  same_names : ∀ name, name ∈ names merged ↔ name ∈ names given
  /-- A group has the elements of all groups of its name in turn. -/
  elements : ∀ g ∈ merged,
    g.elements = (given.filter fun h => h.name = g.name).flatMap Group.elements
  /-- A group has the settings of the first one of its name. -/
  settings : ∀ g ∈ merged, ∃ first, given.find? (fun h => h.name = g.name) = some first ∧
    g.target = first.target ∧ g.visible = first.visible

/-- One group came up before another one. -/
def CameBefore (given : List (Group R)) (g h : Group R) : Prop :=
  (names given).idxOf g.name < (names given).idxOf h.name

/-- Groups that a ranking does not list come first, as they came up; the others follow by the first
place of their names in the ranking. -/
def RankedBefore (listed : List String) (given : List (Group R)) (g h : Group R) : Prop :=
  g.name ∉ listed ∧ (h.name ∉ listed ∧ CameBefore given g h ∨ h.name ∈ listed) ∨
    g.name ∈ listed ∧ h.name ∈ listed ∧ listed.idxOf g.name < listed.idxOf h.name

/-- A group whose name has not come up stands at the end, as it is. -/
theorem Merged.merge_fresh (before : Merged given merged) {incoming : Group R}
    (fresh : incoming.name ∉ names merged) :
    Merged (given ++ [incoming]) (merge merged incoming) := by
  have absent : ∀ h ∈ given, h.name ≠ incoming.name := fun h member equal =>
    fresh ((before.same_names _).mpr (equal ▸ List.mem_map_of_mem member))
  have named : names (given ++ [incoming]) = names given ++ [incoming.name] := List.map_append
  have apart : ∀ g ∈ merged, incoming.name ≠ g.name := fun g member equal =>
    fresh (equal ▸ List.mem_map_of_mem member)
  rw [merge_of_notMem fresh]
  refine ⟨?_, ?_, ?_, ?_⟩
  · rw [names, List.map_append]
    exact List.nodup_append.mpr ⟨before.distinct, List.nodup_singleton _,
      fun name old new last equal => fresh (List.mem_singleton.mp last ▸ equal ▸ old)⟩
  · intro name
    rw [named, List.mem_append, ← before.same_names, ← List.mem_append]
    exact Iff.of_eq (congrArg (name ∈ ·) List.map_append)
  · intro g member
    rcases List.mem_append.mp member with old | new
    · rw [before.elements g old, List.filter_append,
        List.filter_cons_of_neg (by simpa using apart g old)]
      simp
    · obtain rfl := List.mem_singleton.mp new
      rw [List.filter_append, List.filter_eq_nil_iff.mpr (by simpa using absent)]
      simp
  · intro g member
    rcases List.mem_append.mp member with old | new
    · obtain ⟨first, found, settings⟩ := before.settings g old
      exact ⟨first, by rw [List.find?_append, found]; rfl, settings⟩
    · obtain rfl := List.mem_singleton.mp new
      refine ⟨g, ?_, rfl, rfl⟩
      rw [List.find?_append, List.find?_eq_none.mpr (by simpa using absent)]
      simp

/-- A group whose name has come up gives its elements away. -/
theorem Merged.merge_known (before : Merged given merged) {incoming : Group R}
    (known : incoming.name ∈ names merged) :
    Merged (given ++ [incoming]) (merge merged incoming) := by
  have kept : names (merge merged incoming) = names merged := by rw [names_merge, if_pos known]
  refine ⟨kept ▸ before.distinct, ?_, ?_, ?_⟩
  · intro name
    have given_known := (before.same_names _).mp known
    rw [kept, before.same_names, names, names, List.map_append, List.mem_append]
    refine ⟨.inl, fun member => member.elim id fun last => ?_⟩
    rwa [List.mem_singleton.mp last]
  · intro g member
    rw [merge_of_mem before.distinct known] at member
    obtain ⟨h, old, rfl⟩ := List.mem_map.mp member
    have elements := before.elements h old
    rw [List.filter_append, List.flatMap_append]
    split_ifs with same
    · rw [show (h.extend incoming.elements).name = h.name from rfl, ← elements]
      simp [extend, same]
    · rw [← elements, List.filter_cons_of_neg (by simpa using Ne.symm same)]
      simp
  · intro g member
    rw [merge_of_mem before.distinct known] at member
    obtain ⟨h, old, rfl⟩ := List.mem_map.mp member
    obtain ⟨first, found, settings⟩ := before.settings h old
    refine ⟨first, ?_, ?_⟩
    · rw [List.find?_append]
      split_ifs
      · rw [show (h.extend incoming.elements).name = h.name from rfl, found]
        rfl
      · rw [found]
        rfl
    · split_ifs <;> exact settings

theorem merged_mergeAll (given : List (Group R)) : Merged given (mergeAll [] given) := by
  induction given using List.reverseRecOn with
  | nil => exact ⟨List.nodup_nil, fun _ => Iff.rfl, nofun, nofun⟩
  | append_singleton earlier last ih =>
    rw [mergeAll, List.foldl_append]
    by_cases known : last.name ∈ names (mergeAll [] earlier)
    · exact ih.merge_known known
    · exact ih.merge_fresh known

/-- Merged groups stand as their names came up. -/
theorem pairwise_mergeAll (given : List (Group R)) :
    (mergeAll [] given).Pairwise (CameBefore given) := by
  suffices ordered : (names (mergeAll [] given)).Pairwise fun a b =>
      (names given).idxOf a < (names given).idxOf b from
    (List.pairwise_map (f := Group.name)).mp ordered
  induction given using List.reverseRecOn with
  | nil => exact .nil
  | append_singleton earlier last ih =>
    have same := (merged_mergeAll earlier).same_names
    have old : ∀ name ∈ names (mergeAll [] earlier),
        (names (earlier ++ [last])).idxOf name = (names earlier).idxOf name := fun name member => by
      rw [names, List.map_append]
      exact List.idxOf_append_of_mem ((same name).mp member)
    have before : (names (mergeAll [] earlier)).Pairwise fun a b =>
        (names (earlier ++ [last])).idxOf a < (names (earlier ++ [last])).idxOf b :=
      ih.imp_of_mem fun {a b} first second less => by rwa [old a first, old b second]
    rw [mergeAll, List.foldl_append]
    change (names (merge (mergeAll [] earlier) last)).Pairwise _
    rw [names_merge]
    split_ifs with known
    · exact before
    · refine List.pairwise_append.mpr ⟨before, List.pairwise_singleton _ _, ?_⟩
      intro name member _ new
      obtain rfl := List.mem_singleton.mp new
      have fresh : last.name ∉ names earlier := fun there => known ((same _).mpr there)
      rw [old name member]
      refine (List.idxOf_lt_length_iff.mpr ((same name).mp member)).trans_le ?_
      rw [show names (earlier ++ [last]) = names earlier ++ [last.name] from List.map_append,
        List.idxOf_append_of_notMem fresh]
      exact Nat.le_add_right _ _

/-! ## Ranking -/

/-- Names rank by their first place in the list, and before it if they are not listed. -/
theorem rank_eq (listed : List String) (name : String) :
    rank listed name = if name ∈ listed then (listed.idxOf name : Int) else -1 := by
  have place : listed.findIdx? (fun other => other == name) =
      if name ∈ listed then some (listed.idxOf name) else none := by
    rw [List.findIdx?_eq_guard_findIdx_lt]
    split_ifs with known
    · exact if_pos (decide_eq_true (List.idxOf_lt_length_iff.mpr known))
    · exact if_neg (by simpa using known)
  rw [rank, place]
  split_ifs <;> rfl

/-- Ranking keeps what merging has made of the groups. -/
theorem merged_ranked (order : Option (List String)) (given : List (Group R)) :
    Merged given (ranked order (mergeAll [] given)) := by
  have whole := merged_mergeAll given
  have perm : (ranked order (mergeAll [] given)).Perm (mergeAll [] given) := by
    cases order with
    | none => exact .refl _
    | some listed => exact List.mergeSort_perm _ _
  exact ⟨(perm.map Group.name).nodup_iff.mpr whole.distinct,
    fun name => (perm.map Group.name).mem_iff.trans (whole.same_names name),
    fun g member => whole.elements g (perm.mem_iff.mp member),
    fun g member => whole.settings g (perm.mem_iff.mp member)⟩

/-- Ranked groups stand by rank, and by their first mention where the rank is the same. -/
theorem pairwise_ranked (listed : List String) (given : List (Group R)) :
    (ranked (some listed) (mergeAll [] given)).Pairwise (RankedBefore listed given) := by
  have sorted := pairwise_mergeSort_stable
    (fun g h : Group R => decide (rank listed g.name ≤ rank listed h.name))
    (fun g h k => by simpa using Int.le_trans) (fun g h => by simpa using Int.le_total _ _)
    (pairwise_mergeAll given)
  refine sorted.imp fun {g h} ordered => ?_
  simp only [decide_eq_true_eq, rank_eq] at ordered
  obtain ⟨below, tied⟩ := ordered
  by_cases first : g.name ∈ listed <;> by_cases second : h.name ∈ listed <;>
    simp only [first, second, if_true, if_false] at below tied
  · refine .inr ⟨first, second, lt_of_le_of_ne (by omega) fun same => ?_⟩
    -- Two groups at one place of the ranking would have one name.
    have before := tied (by omega)
    rw [CameBefore, (List.idxOf_inj first).mp same] at before
    exact absurd before (lt_irrefl _)
  · omega
  · exact .inl ⟨first, .inr second⟩
  · exact .inl ⟨first, .inl ⟨second, tied le_rfl⟩⟩

/-- The order in which groups are handed to the pipeline. -/
def StandsBefore (order : Option (List String)) (given : List (Group R)) :
    Group R → Group R → Prop :=
  match order with
  | none => CameBefore given
  | some listed => RankedBefore listed given

theorem pairwise_standsBefore (order : Option (List String)) (given : List (Group R)) :
    (ranked order (mergeAll [] given)).Pairwise (StandsBefore order given) := by
  cases order with
  | none => exact pairwise_mergeAll given
  | some listed => exact pairwise_ranked listed given

end Group

/-- The pipeline starts from the groups of all scripts that finished, merged and ranked. -/
theorem Harvest.groups_toContext (runs : List (String × ScriptRun R))
    (order : Option (List String)) (before : StepContext R) :
    Group.Merged (runs.flatMap fun run => run.2.groups)
        ((ofRuns runs).toContext order before).groups ∧
      ((ofRuns runs).toContext order before).groups.Pairwise
        (Group.StandsBefore order (runs.flatMap fun run => run.2.groups)) := by
  rw [toContext, groups_ofRuns]
  exact ⟨Group.merged_ranked order _, Group.pairwise_standsBefore order _⟩

end Storyboard
