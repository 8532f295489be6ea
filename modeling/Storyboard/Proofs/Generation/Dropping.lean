import Storyboard.Proofs.Generation.Faults
import Storyboard.Proofs.Generation.Verdict
import Storyboard.Proofs.Sorting

/-! # Groups that are dropped

A group that a standard pipeline does not export leaves no trace in a run: its elements may be any,
or its name may never have come up. Merging and ranking treat names one by one, so whatever is left
out in the end can be left out of every script from the start.
-/

namespace Storyboard

variable {R : Type}

/-! ## Groups of some names -/

namespace Group

def named (keep : String → Bool) (groups : List (Group R)) : List (Group R) :=
  groups.filter fun g => keep g.name

variable (keep : String → Bool)

/-- Keeping the groups of some names goes through a merge. -/
theorem named_merge (groups : List (Group R)) (incoming : Group R) :
    named keep (merge groups incoming) =
      if keep incoming.name then merge (named keep groups) incoming else named keep groups := by
  induction groups with
  | nil => simp only [named, merge, List.filter_cons, List.filter_nil]
  | cons g rest ih =>
    simp only [named] at ih
    by_cases same : g.name = incoming.name
    · cases kept : keep incoming.name <;> simp [named, merge, extend, same, kept]
    · cases here : keep g.name <;> cases kept : keep incoming.name <;>
        simp [named, merge, same, here, kept, ih]

/-- Groups of some names merge as if no others were there. -/
theorem named_mergeAll (merged given : List (Group R)) :
    named keep (mergeAll merged given) = mergeAll (named keep merged) (named keep given) := by
  induction given generalizing merged with
  | nil => rfl
  | cons g rest ih =>
    refine (ih (merge merged g)).trans ?_
    rw [named_merge]
    cases kept : keep g.name <;> simp [mergeAll, named, kept]

theorem named_ranked (order : Option (List String)) (groups : List (Group R)) :
    named keep (ranked order groups) = ranked order (named keep groups) := by
  cases order with
  | none => rfl
  | some listed =>
    exact filter_mergeSort (fun g h k => by simpa using Int.le_trans)
      (fun g h => by simpa using Int.le_total _ _) _ groups

/-! ## What is dropped -/

/-- Groups with the same name and settings, and with the same elements unless their name is one that
does not count. -/
structure AlikeUnless (dropped : String → Bool) (g h : Group R) : Prop where
  name : g.name = h.name
  target : g.target = h.target
  visible : g.visible = h.visible
  elements : dropped g.name = false → g.elements = h.elements

variable (target : Option String) (includeHidden : Bool)

/-- Whether the groups of a name are merged into one that is not exported. -/
def isDropped (given : List (Group R)) (name : String) : Bool :=
  (mergeAll [] given).any fun g => g.name == name && !g.isExported target includeHidden

theorem isExported_congr {g h : Group R} (targets : g.target = h.target)
    (visible : g.visible = h.visible) :
    g.isExported target includeHidden = h.isExported target includeHidden := by
  simp only [isExported, targets, visible]

variable {target includeHidden}

/-- The first group of a name decides whether the name is dropped. -/
theorem isDropped_eq (given : List (Group R)) (name : String) :
    isDropped target includeHidden given name =
      (given.find? fun g => g.name = name).any fun first =>
        !first.isExported target includeHidden := by
  have merged := merged_mergeAll given
  rw [Bool.eq_iff_iff, isDropped, List.any_eq_true, Option.any_eq_true]
  simp only [Bool.and_eq_true, beq_iff_eq, Bool.not_eq_true']
  constructor
  · rintro ⟨g, member, rfl, out⟩
    obtain ⟨first, found, targets, visible⟩ := merged.settings g member
    exact ⟨first, found, (isExported_congr target includeHidden targets visible).symm.trans out⟩
  · rintro ⟨first, found, out⟩
    have there : name ∈ names given := by
      have same : first.name = name := by simpa using List.find?_some found
      exact same ▸ List.mem_map_of_mem (List.mem_of_find?_eq_some found)
    obtain ⟨g, member, rfl⟩ := List.mem_map.mp ((merged.same_names name).mpr there)
    obtain ⟨first', found', targets, visible⟩ := merged.settings g member
    obtain rfl : first = first' := Option.some.inj (found.symm.trans found')
    exact ⟨g, member, rfl, (isExported_congr target includeHidden targets visible).trans out⟩

/-- A merged group is exported unless its name is dropped. -/
theorem Merged.isExported_eq {given merged : List (Group R)} (whole : Merged given merged)
    {g : Group R} (member : g ∈ merged) :
    g.isExported target includeHidden = !isDropped target includeHidden given g.name := by
  obtain ⟨first, found, targets, visible⟩ := whole.settings g member
  rw [isDropped_eq, found, Option.any_some, Bool.not_not]
  exact isExported_congr target includeHidden targets visible

variable (target includeHidden) in
/-- The groups whose names are not dropped. -/
def undropped (given : List (Group R)) : List (Group R) :=
  named (fun name => !isDropped target includeHidden given name) given

/-- The groups that are exported are those that are merged from names that are not dropped. -/
theorem filter_isExported_ranked (order : Option (List String)) (given : List (Group R)) :
    (ranked order (mergeAll [] given)).filter (isExported target includeHidden) =
      ranked order (mergeAll [] (undropped target includeHidden given)) := by
  rw [undropped, ← show named _ ([] : List (Group R)) = [] from rfl, ← named_mergeAll,
    ← named_ranked]
  exact List.filter_congr fun g member => (merged_ranked order given).isExported_eq member

/-- Nothing is dropped of what is left. -/
theorem filter_isExported_undropped (order : Option (List String)) (given : List (Group R)) :
    (ranked order (mergeAll [] (undropped target includeHidden given))).filter
        (isExported target includeHidden) =
      ranked order (mergeAll [] (undropped target includeHidden given)) := by
  rw [← filter_isExported_ranked, List.filter_filter]
  simp only [Bool.and_self]

section Alike

variable {given given' : List (Group R)} {dropped : String → Bool}
  (alike : List.Forall₂ (AlikeUnless dropped) given given')
include alike

theorem names_eq_of_alike : names given = names given' :=
  (Traversal.map_eq_of_forall₂ (fun _ _ same => same.name.symm) alike).symm

/-- Whether a name is dropped is the same for groups that are alike. -/
theorem isDropped_eq_of_alike (name : String) :
    isDropped target includeHidden given name = isDropped target includeHidden given' name := by
  rw [isDropped_eq, isDropped_eq]
  induction alike with
  | nil => rfl
  | cons same _ ih =>
    rw [List.find?_cons, List.find?_cons, same.name]
    split
    · rw [Option.any_some, Option.any_some,
        isExported_congr target includeHidden same.target same.visible]
    · exact ih

/-- Where dropped names do not count, alike groups are the same but for what is dropped. -/
theorem named_eq_of_alike :
    named (fun name => !dropped name) given = named (fun name => !dropped name) given' := by
  induction alike with
  | nil => rfl
  | @cons g h _ _ same _ ih =>
    simp only [named] at ih
    cases out : dropped g.name with
    | true => simp [named, ← same.name, out, ih]
    | false =>
      obtain ⟨name, target, visible, elements⟩ := g
      obtain ⟨name', target', visible', elements'⟩ := h
      obtain ⟨rfl, rfl, rfl, elements⟩ := same
      obtain rfl := elements out
      simp [named, out, ih]

end Alike

theorem undropped_eq_of_alike {given given' : List (Group R)}
    (alike : List.Forall₂ (AlikeUnless (isDropped target includeHidden given)) given given') :
    undropped target includeHidden given = undropped target includeHidden given' := by
  rw [undropped, named_eq_of_alike alike, undropped]
  simp only [isDropped_eq_of_alike alike]

/-! ## Names alone -/

/-- The names after merges only depend on the names that are merged. -/
theorem names_mergeAll_congr {merged merged' given given' : List (Group R)}
    (before : names merged = names merged') (same : names given = names given') :
    names (mergeAll merged given) = names (mergeAll merged' given') := by
  induction given generalizing given' merged merged' with
  | nil =>
    obtain rfl := List.map_eq_nil_iff.mp same.symm
    exact before
  | cons g rest ih =>
    obtain ⟨h, rest', rfl, name, same⟩ := List.map_eq_cons_iff.mp same.symm
    have next : names (merge merged g) = names (merge merged' h) := by
      rw [names_merge, names_merge, before, name]
    change names (mergeAll (merge merged g) rest) = names (mergeAll (merge merged' h) rest')
    exact ih next same.symm

/-- The names after ranking only depend on the names before. -/
theorem names_ranked_congr (order : Option (List String)) {groups groups' : List (Group R)}
    (same : names groups = names groups') :
    names (ranked order groups) = names (ranked order groups') := by
  cases order with
  | none => exact same
  | some listed =>
    have sorted (groups : List (Group R)) : names (ranked (some listed) groups) =
        (names groups).mergeSort fun n k => decide (rank listed n ≤ rank listed k) :=
      List.map_mergeSort fun _ _ _ _ => rfl
    rw [sorted, sorted, same]

end Group

/-! ## Whole runs -/

/-- What a run shows of its outcome. -/
def Outcome.shown {Context Built : Type} (outcome : Outcome Context Built) :
    Context × List (ElementKey × Built) × List String × Bool :=
  (outcome.result, outcome.elements, outcome.groups, outcome.cancelled)

namespace IsolatedScript

variable {m : Type → Type} [Monad m]

/-- The groups that scripts give to a run, in turn. -/
def given (scripts : List (IsolatedScript m R)) : List (Group R) :=
  (runs scripts).flatMap fun run => run.2.groups

/-- The script without all groups but those of some names. -/
def onlyNamed (keep : String → Bool) (script : IsolatedScript m R) : IsolatedScript m R where
  script := ⟨script.script.name, ExceptT.mk fun _ =>
    pure (script.result, { script.output with groups := Group.named keep script.output.groups })⟩
  result := script.result
  output := { script.output with groups := Group.named keep script.output.groups }
  settled := rfl

theorem groups_ofRuns (scripts : List (IsolatedScript m R)) :
    (Harvest.ofRuns (runs scripts)).groups = Group.mergeAll [] (given scripts) :=
  Harvest.groups_ofRuns (runs scripts)

theorem given_onlyNamed (keep : String → Bool) (scripts : List (IsolatedScript m R)) :
    given (scripts.map (onlyNamed keep)) = Group.named keep (given scripts) := by
  have each (script : IsolatedScript m R) :
      (script.onlyNamed keep).run.groups = Group.named keep script.run.groups := by
    simp only [run, onlyNamed]
    cases script.result <;> rfl
  simp only [given, runs, List.flatMap_map, each, Group.named, List.filter_flatMap]

end IsolatedScript

section Runs

open Traversal StandardStep

variable {σ Context Built : Type} [Scalar R] {encoder : Encoder (StateM σ) R Context Built}
  {isCancelled : StateM σ Bool}

theorem run_encodeGroups_set {pipeline : Pipeline (StateM σ) R} {s s' : σ}
    (looked : isCancelled.run s = (true, s')) (context : StepContext R) (result : Context) :
    (encodeGroups pipeline encoder isCancelled context result).run.run s =
      (.ok (context, { context := result }, true), s') := by
  rw [encodeGroups, run_ok_bind (run_lift looked), if_pos rfl]
  rfl

theorem run_encodeGroups_unset {steps : List (StandardStep (StateM σ) R)} {s s' : σ}
    (looked : isCancelled.run s = (false, s')) (context : StepContext R) (result : Context) :
    (encodeGroups (pipeline steps) encoder isCancelled context result).run.run s =
      ((fun (walk, cancelled) =>
        ({ context with groups := prepared steps context.groups }, walk, cancelled)) <$>
        encoder.visit isCancelled (prepared steps context.groups) result).run.run s' := by
  rw [encodeGroups, run_ok_bind (run_lift looked), if_neg Bool.false_ne_true, runOn_preGenerate,
    pure_bind, runOn_postProcess, pure_bind, map_eq_pure_bind]
  rfl

variable {options : RunOptions} {steps : List (StandardStep (StateM σ) R)}

/-- Harvests of which the same is left show the same, as long as nobody looks at the names of groups
before some are dropped. -/
theorem map_run_generateFrom_congr {harvest harvest' : Harvest R}
    (named : ∀ s, (isCancelled.run s).1 = true →
      Group.names (Group.ranked options.groupOrder harvest.groups) =
        Group.names (Group.ranked options.groupOrder harvest'.groups))
    (left : prepared steps (Group.ranked options.groupOrder harvest.groups) =
      prepared steps (Group.ranked options.groupOrder harvest'.groups))
    (before : StepContext R) (s : σ) :
    ((generateFrom options (pipeline steps) encoder isCancelled before harvest).run.run s).1.map
        Outcome.shown =
      ((generateFrom options (pipeline steps) encoder isCancelled before harvest').run.run s).1.map
        Outcome.shown := by
  refine map_run_bind_congr (fun result s => ?_) s
  generalize looked : isCancelled.run s = look
  obtain ⟨cancelled, s₁⟩ := look
  cases cancelled with
  | true =>
    have names := named s (congrArg Prod.fst looked)
    rw [run_ok_bind (run_encodeGroups_set looked _ _),
      run_ok_bind (run_encodeGroups_set looked _ _)]
    refine map_run_bind_congr (fun result s => ?_) s₁
    simp only [if_true, pure_bind]
    exact congrArg (fun names => Except.ok (result, _, names, true)) names
  | false =>
    rw [run_bind_congr_left (run_encodeGroups_unset looked _ _),
      run_bind_congr_left (run_encodeGroups_unset looked _ _), bind_map_left, bind_map_left]
    have visited : prepared steps (harvest.toContext options.groupOrder before).groups =
        prepared steps (harvest'.toContext options.groupOrder before).groups := left
    rw [visited]
    refine map_run_bind_congr (fun (walk, stopped) s => ?_) s₁
    refine map_run_bind_congr (fun result s => ?_) s
    cases stopped with
    | true => rfl
    | false =>
      simp only [Bool.false_eq_true, if_false]
      rw [run_ok_bind (run_runOn_postGenerate _ _), run_ok_bind (run_runOn_postGenerate _ _)]
      rfl

variable {config : PipelineConfig} {store : Option (AssetStore (StateM σ))}

/-- What a standard pipeline leaves to an encoder comes from names that are not dropped. -/
theorem prepared_ofConfig (order : Option (List String)) (given : List (Group R)) :
    prepared (ofConfig config store) (Group.ranked order (Group.mergeAll [] given)) =
      redrawn (ofConfig config store) (Group.ranked order (Group.mergeAll []
        (Group.undropped config.exportTarget config.includeHidden given))) := by
  rw [prepared, exported_ofConfig, Group.filter_isExported_ranked]

/-- Runs show the same if they do from their harvests on. -/
theorem map_run_generate_congr {pipeline : Pipeline (StateM σ) R}
    {scripts scripts' : List (IsolatedScript (StateM σ) R)}
    (each : ∀ before s,
      ((generateFrom options pipeline encoder isCancelled before
          (.ofRuns (IsolatedScript.runs scripts))).run.run s).1.map Outcome.shown =
        ((generateFrom options pipeline encoder isCancelled before
          (.ofRuns (IsolatedScript.runs scripts'))).run.run s).1.map Outcome.shown) (s : σ) :
    ((generate options (scripts.map IsolatedScript.script) pipeline encoder isCancelled).run.run
        s).1.map Outcome.shown =
      ((generate options (scripts'.map IsolatedScript.script) pipeline encoder isCancelled).run.run
        s).1.map Outcome.shown := by
  rw [generate_eq, generate_eq]
  refine map_run_bind_congr (fun before s => ?_) s
  split_ifs
  · rfl
  · exact each before s

/-- What is dropped does not show. Scripts that give the same groups, but for the elements of those
that a standard pipeline drops, come to the same failure, or show the same, whatever the token does.
In a run that is not cancelled, the dropped groups might as well not have been given at all. -/
theorem shown_generate_dropped {pipeline : Pipeline (StateM σ) R}
    (standard : Pipeline.standard config store = .ok pipeline)
    {scripts scripts' : List (IsolatedScript (StateM σ) R)}
    (alike : List.Forall₂
      (Group.AlikeUnless (Group.isDropped config.exportTarget config.includeHidden
        (IsolatedScript.given scripts)))
      (IsolatedScript.given scripts) (IsolatedScript.given scripts'))
    (options : RunOptions) (encoder : Encoder (StateM σ) R Context Built) (s : σ) :
    let shown (scripts : List (IsolatedScript (StateM σ) R)) (isCancelled : StateM σ Bool) :=
      ((generate options (scripts.map IsolatedScript.script) pipeline encoder isCancelled).run.run
        s).1.map Outcome.shown
    (∀ isCancelled, shown scripts isCancelled = shown scripts' isCancelled) ∧
      shown scripts (pure false) =
        shown (scripts.map (IsolatedScript.onlyNamed fun name =>
          !Group.isDropped config.exportTarget config.includeHidden
            (IsolatedScript.given scripts) name)) (pure false) := by
  obtain rfl := eq_pipeline_of_standard standard
  constructor
  · intro isCancelled
    refine map_run_generate_congr (map_run_generateFrom_congr (fun _ _ => ?_) ?_) s
    · rw [IsolatedScript.groups_ofRuns, IsolatedScript.groups_ofRuns]
      exact Group.names_ranked_congr _
        (Group.names_mergeAll_congr rfl (Group.names_eq_of_alike alike))
    · rw [IsolatedScript.groups_ofRuns, IsolatedScript.groups_ofRuns, prepared_ofConfig,
        prepared_ofConfig, Group.undropped_eq_of_alike alike]
  · have unset (s : σ) : ((pure false : StateM σ Bool).run s).1 ≠ true := Bool.false_ne_true
    refine map_run_generate_congr
      (map_run_generateFrom_congr (fun s set => absurd set (unset s)) ?_) s
    rw [IsolatedScript.groups_ofRuns, IsolatedScript.groups_ofRuns, IsolatedScript.given_onlyNamed,
      prepared_ofConfig, prepared, exported_ofConfig]
    exact congrArg (redrawn _) (Group.filter_isExported_undropped _ _).symm

/-- A film in a group that is hidden by its first script, and other films in its place. -/
theorem shown_generate_dropped_hidden :
    let config : PipelineConfig := { exportTarget := some "wide" }
    let pipeline : Pipeline (StateM Nat) Double := Pipeline.ofConfig config none
    let song : Element Double := .sample ⟨"song.mp3", .overlay, ⟨0⟩, ⟨0⟩⟩
    let film : Element Double := .video ⟨"film.mp4", ⟨0⟩⟩
    let script (name : String) (groups : List (Group Double)) :
        IsolatedScript (StateM Nat) Double :=
      ⟨⟨name, ExceptT.mk fun _ => pure (.ok (), { groups })⟩, .ok (), { groups }, rfl⟩
    let front : Group Double := { name := "front", elements := [song, film] }
    let scripts := [script "back" [{ name := "back", visible := false, elements := [film] }],
      script "front" [{ name := "back", elements := [song] }, front]]
    let scripts' := [script "all" [{ name := "back", visible := false },
      { name := "back", elements := [film, film] }, front]]
    let shown (scripts : List (IsolatedScript (StateM Nat) Double)) :=
      ((generate {} (scripts.map IsolatedScript.script) pipeline Encoder.counting
        (pure false)).run.run 0).1.map Outcome.shown
    shown scripts = shown scripts' ∧
      shown scripts = shown [script "back" [], script "front" [front]] := by
  intro config pipeline song film script front scripts scripts' shown
  have alike : List.Forall₂
      (Group.AlikeUnless (Group.isDropped config.exportTarget config.includeHidden
        (IsolatedScript.given scripts)))
      (IsolatedScript.given scripts) (IsolatedScript.given scripts') :=
    .cons ⟨rfl, rfl, rfl, fun out => absurd out (by decide)⟩
      (.cons ⟨rfl, rfl, rfl, fun out => absurd out (by decide)⟩
        (.cons ⟨rfl, rfl, rfl, fun _ => rfl⟩ .nil))
  have standard : Pipeline.standard config none = .ok pipeline := rfl
  obtain ⟨same, left⟩ := shown_generate_dropped standard alike {} Encoder.counting 0
  exact ⟨same (pure false), left⟩

end Runs

end Storyboard
