import Storyboard.Asset.Digest
import Storyboard.Proofs.Generation.Delivery
import Storyboard.Proofs.Generation.Dropping

/-! # Scripts in another order

Scripts that share no group can run in any order, as long as a ranking lists all of their groups:
what is merged under a name comes from one script, and the ranking alone decides where it stands.
Only the assets and the report of failed scripts follow the order of the scripts.
-/

namespace Storyboard

variable {R : Type}

/-- Where at most one member of a list gives anything away, its order does not matter. -/
theorem flatMap_eq_of_perm {α β : Type} {f : α → List β} {list list' : List α}
    (perm : list.Perm list') (lone : list.Pairwise fun a b => f a = [] ∨ f b = []) :
    list.flatMap f = list'.flatMap f := by
  induction perm with
  | nil => rfl
  | cons a _ ih => rw [List.flatMap_cons, List.flatMap_cons, ih (List.pairwise_cons.mp lone).2]
  | swap a b rest =>
    have first := (List.pairwise_cons.mp lone).1 a List.mem_cons_self
    rcases first with blank | blank <;> simp [blank]
  | trans first _ ih ih' => exact (ih lone).trans (ih' (first.pairwise lone Or.symm))

namespace Group

variable {given given' : List (Group R)}
  (same : ∀ name, given.filter (fun g => g.name = name) = given'.filter fun g => g.name = name)
include same

theorem names_of_filter_eq (name : String) : name ∈ names given ↔ name ∈ names given' := by
  have there (groups : List (Group R)) :
      name ∈ names groups ↔ groups.filter (fun g => g.name = name) ≠ [] := by
    simp [names]
  rw [there, there, same]

/-- A merged group is what the groups of its name make of it. -/
theorem Merged.eq_of_name_eq {merged merged' : List (Group R)} (left : Merged given merged)
    (right : Merged given' merged') {g h : Group R} (first : g ∈ merged) (second : h ∈ merged')
    (name : g.name = h.name) : g = h := by
  obtain ⟨head, found, target, visible⟩ := left.settings g first
  obtain ⟨head', found', target', visible'⟩ := right.settings h second
  have elements := left.elements g first
  rw [← List.head?_filter, same, name, List.head?_filter, found'] at found
  obtain rfl := Option.some.inj found
  rw [same, name, ← right.elements h second] at elements
  obtain ⟨_, _, _, _⟩ := g
  obtain ⟨_, _, _, _⟩ := h
  simp_all

theorem Merged.subset {merged merged' : List (Group R)} (left : Merged given merged)
    (right : Merged given' merged') : merged ⊆ merged' := by
  intro g member
  have known : g.name ∈ names merged' := by
    rw [right.same_names, ← names_of_filter_eq same, ← left.same_names]
    exact List.mem_map_of_mem member
  obtain ⟨h, found, name⟩ := List.mem_map.mp known
  exact left.eq_of_name_eq same right member found name.symm ▸ found

/-- Merged groups do not depend on how groups of different names are mixed, but for their order. -/
theorem Merged.perm {merged merged' : List (Group R)} (left : Merged given merged)
    (right : Merged given' merged') : merged.Perm merged' :=
  (List.perm_ext_iff_of_nodup left.distinct.of_map right.distinct.of_map).mpr fun _ =>
    ⟨fun member => left.subset same right member,
      fun member => right.subset (fun name => (same name).symm) left member⟩

/-- A ranking that lists every name decides the order on its own. -/
theorem ranked_mergeAll_eq {order : Option (List String)}
    (listed : ∀ name ∈ names given, ∃ listed, order = some listed ∧ name ∈ listed) :
    ranked order (mergeAll [] given) = ranked order (mergeAll [] given') := by
  have left := merged_ranked order given
  have right := merged_ranked order given'
  have perm := left.perm same right
  cases order with
  | none =>
    have none_given (name : String) : name ∉ names given := fun member => by
      obtain ⟨_, impossible, _⟩ := listed name member
      cases impossible
    have empty : ranked none (mergeAll [] given) = [] :=
      List.eq_nil_iff_forall_not_mem.mpr fun g member =>
        none_given g.name ((left.same_names _).mp (List.mem_map_of_mem member))
    rw [empty] at perm ⊢
    exact perm.nil_eq
  | some listed' =>
    have ranks : ∀ g ∈ ranked (some listed') (mergeAll [] given), g.name ∈ listed' := by
      intro g member
      obtain ⟨_, only, there⟩ :=
        listed g.name ((left.same_names _).mp (List.mem_map_of_mem member))
      exact Option.some.inj only ▸ there
    -- Listed groups stand by the places of their names, in both rankings.
    have placed {given : List (Group R)} (merged : List (Group R))
        (known : ∀ g ∈ merged, g.name ∈ listed')
        (stands : merged.Pairwise (RankedBefore listed' given)) :
        merged.Pairwise fun g h => listed'.idxOf g.name < listed'.idxOf h.name :=
      stands.imp_of_mem fun {g h} first second before => by
        rcases before with ⟨unlisted, -⟩ | ⟨-, -, below⟩
        · exact absurd (known g first) unlisted
        · exact below
    exact perm.eq_of_pairwise (fun _ _ _ _ below above => absurd below above.asymm)
      (placed _ ranks (pairwise_ranked listed' given))
      (placed _ (fun g member => ranks g (perm.mem_iff.mpr member))
        (pairwise_ranked listed' given'))

end Group

namespace StandardStep

variable {m : Type → Type} [Monad m] [LawfulMonad m] [Scalar R] {steps : List (StandardStep m R)}

/-- The step has no store to hand assets to. -/
def isStoreless : StandardStep m R → Bool
  | assets _ => false
  | filter .. | widescreen _ | precision _ => true

omit [Scalar R] in
/-- Steps without a store do nothing at either end of a run. -/
theorem effects_of_storeless (storeless : ∀ step ∈ steps, step.isStoreless = true) :
    readyAll steps = pure () ∧ ∀ given, deliverAll steps given = pure () := by
  induction steps with
  | nil => exact ⟨rfl, fun _ => rfl⟩
  | cons step rest ih =>
    obtain ⟨first, later⟩ := List.forall_mem_cons.mp storeless
    obtain ⟨ready, deliver⟩ := ih later
    cases step with
    | assets store => cases first
    | filter _ _ | widescreen _ | precision _ =>
      exact ⟨(pure_bind _ _).trans ready, fun given => (pure_bind _ _).trans (deliver given)⟩

end StandardStep

section Runs

open StandardStep

variable {m : Type → Type} [Monad m] [LawfulMonad m] [Scalar R] {Context Built : Type}

/-- What a run shows that leaves some groups to the pipeline. -/
def shownOf (choose : List (Group R) → List (Group R)) (encoder : Encoder m R Context Built)
    (isCancelled : m Bool) (groups : List (Group R)) :
    ExceptT Failure m (Context × List (ElementKey × Built) × List String × Bool) := do
  let result ← (encoder.start : m Context)
  let (groups, walk, cancelled) ← encodeChosen choose encoder isCancelled groups result
  let result ← (encoder.finish walk.context : m Context)
  return (result, (walk.emitted.map fun e => (e.key, e.built)).mergeSort fun a b => a.1.le b.1,
    Group.names groups, cancelled)

/-- Without a store, a run shows what its pipeline and its encoder make of the ranked groups. -/
theorem shown_generate_of_storeless {steps : List (StandardStep m R)}
    (storeless : ∀ step ∈ steps, step.isStoreless = true) (options : RunOptions)
    (scripts : List (IsolatedScript m R)) (encoder : Encoder m R Context Built)
    (isCancelled : m Bool) :
    Outcome.shown <$> generate options (scripts.map IsolatedScript.script) (pipeline steps) encoder
        isCancelled =
      if options.threads = some 0 then throw threadsFailure
      else shownOf (prepared steps) encoder isCancelled (Group.ranked options.groupOrder
        (Group.mergeAll [] (IsolatedScript.given scripts))) := by
  obtain ⟨ready, deliver⟩ := effects_of_storeless storeless
  simp only [generate_eq_generateUndelivered_bind, generateUndelivered, ready, deliver, pure_bind,
    IsolatedScript.runScripts_eq_pure, map_bind, liftM_pure]
  split_ifs
  · exact ExceptT.ext (by simp)
  · simp only [shownOf, bind_assoc, pure_bind, ite_self, map_pure, Outcome.shown,
      IsolatedScript.groups_ofRuns]

/-- Scripts of which no two give a group of one name show the same in any order, if the ranking
lists all of their groups and no step has a store: they come to the same failure, or to outcomes
that differ at most in the assets and the report of failed scripts. -/
theorem shown_generate_perm {scripts scripts' : List (IsolatedScript m R)}
    (perm : scripts.Perm scripts')
    (apart : scripts.Pairwise fun script other =>
      ∀ name ∈ Group.names script.run.groups, name ∉ Group.names other.run.groups)
    {options : RunOptions}
    (listed : ∀ name ∈ Group.names (IsolatedScript.given scripts),
      ∃ listed, options.groupOrder = some listed ∧ name ∈ listed)
    {steps : List (StandardStep m R)} (storeless : ∀ step ∈ steps, step.isStoreless = true)
    (encoder : Encoder m R Context Built) (isCancelled : m Bool) :
    Outcome.shown <$> generate options (scripts.map IsolatedScript.script) (pipeline steps) encoder
        isCancelled =
      Outcome.shown <$> generate options (scripts'.map IsolatedScript.script) (pipeline steps)
        encoder isCancelled := by
  have same (name : String) :
      (IsolatedScript.given scripts).filter (fun g => g.name = name) =
        (IsolatedScript.given scripts').filter fun g => g.name = name := by
    simp only [IsolatedScript.given, IsolatedScript.runs, List.flatMap_map, List.filter_flatMap]
    refine flatMap_eq_of_perm perm (apart.imp fun {script other} disjoint => ?_)
    simp only [List.filter_eq_nil_iff, decide_eq_true_eq]
    by_cases there : name ∈ Group.names script.run.groups
    · exact .inr fun g member equal =>
        disjoint name there (equal ▸ List.mem_map_of_mem member)
    · exact .inl fun g member equal => there (equal ▸ List.mem_map_of_mem member)
  rw [shown_generate_of_storeless storeless, shown_generate_of_storeless storeless,
    Group.ranked_mergeAll_eq same listed]

/-- Of three scripts the first two trade places, and the ranking lists one name twice. -/
theorem shown_generate_perm_ranked :
    let steps : List (StandardStep (StateM Nat) Double) :=
      [.widescreen widescreenOffset, .filter none false, .precision ⟨0, 0, 0⟩]
    let song : Element Double := .sample ⟨"song.mp3", .overlay, ⟨0⟩, ⟨0⟩⟩
    let film : Element Double := .video ⟨"film.mp4", ⟨0⟩⟩
    let back : IsolatedScript (StateM Nat) Double :=
      ⟨DeclaredScript.toScript ⟨"back", [{ name := "back", elements := [film] }], []⟩ (pure false),
        _, _, rfl⟩
    let front : IsolatedScript (StateM Nat) Double :=
      ⟨DeclaredScript.toScript ⟨"front", [{ name := "front", elements := [film, song] }], []⟩
        (pure false), _, _, rfl⟩
    let broken : IsolatedScript (StateM Nat) Double :=
      ⟨⟨"broken", ExceptT.mk fun out => pure (.error (.aborted none), out.addElement "front" song)⟩,
        _, _, rfl⟩
    let shown (scripts : List (IsolatedScript (StateM Nat) Double)) :=
      Outcome.shown <$> generate { groupOrder := some ["front", "back", "front"] }
        (scripts.map IsolatedScript.script) (pipeline steps) Encoder.counting (pure false)
    shown [back, front, broken] = shown [front, back, broken] := by
  intro steps song film back front broken shown
  exact shown_generate_perm (.swap _ _ _) (by decide) (by decide) (by decide) Encoder.counting
    (pure false)

end Runs

end Storyboard
