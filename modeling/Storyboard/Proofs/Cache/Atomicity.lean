import Storyboard.CommandLine.Build
import Storyboard.Disk.Tree
import Storyboard.Proofs.Generation.Lifting

/-! # A run and its cache

A run over a cache touches it once, and last: whatever goes wrong before, and wherever the run is
cancelled, the cache stays as it is. Scripts, encoder and token know nothing of the cache.
-/

namespace Storyboard

open StandardStep

/-- The cache after a run: only a run that came to its end makes its assets those in use. -/
def Cache.afterRun {Context Built : Type} (cache : Cache) :
    Except Failure (Outcome Context Built) → Cache
  | .error _ => cache
  | .ok outcome => if outcome.cancelled then cache else cache.apply outcome.assets

section Equations

variable {m : Type → Type} [Monad m] {R α Context Built : Type} [Scalar R] {disk : Disk m}
  {root : String}

/-- Makes the asset root at the start of a run. -/
def makeRoot (disk : Disk m) (root : String) : ExceptT Failure m Unit := do
  let there ← (disk.makeDirectories root : m Bool)
  if there then return ()
  else throw ((Step.rootFailure root).inContext (Step.failureContext "assets" .preProcess))

variable [LawfulMonad m]

theorem run_liftWork (work : ExceptT Failure m α) (cache : Cache) :
    (liftWork work : ExceptT Failure (StateT Cache m) α).run.run cache =
      (fun result => (result, cache)) <$> work.run := by
  change (liftM work.run : StateT Cache m _).run cache = _
  simp

omit [Scalar R] in
theorem ready_store :
    (assets (Cache.store disk root) : StandardStep (StateT Cache m) R).ready =
      liftWork (makeRoot disk root) := by
  simp only [ready, makeRoot, liftWork_bind, liftWork_liftM]
  refine bind_congr fun there => ?_
  split_ifs
  · exact (liftWork_pure _).symm
  · exact (liftWork_throw _).symm

variable {config : PipelineConfig} {pipeline : Pipeline (StateT Cache m) R}

/-- A run does the same over every cache, and what it does to the cache depends on its result
alone. -/
theorem run_generate_store
    (standard : Pipeline.standard config (some (Cache.store disk root)) = .ok pipeline)
    (options : RunOptions) (scripts : List (Script m R)) (encoder : Encoder m R Context Built)
    (isCancelled : m Bool) (cache : Cache) :
    (generate options (scripts.map Script.lift) pipeline encoder.lift
        (liftM isCancelled)).run.run cache =
      (fun result => (result, cache.afterRun result)) <$>
        (generateUndelivered options (makeRoot disk root)
          (prepared (ofConfig config (some (Cache.store disk root)))) scripts encoder
          isCancelled).run := by
  obtain rfl := eq_pipeline_of_standard standard
  rw [generate_eq_generateUndelivered_bind, readyAll_ofConfig, ready_store,
    generateUndelivered_lift, ExceptT.run_bind, StateT.run_bind, run_liftWork, bind_map_left,
    map_eq_pure_bind]
  refine bind_congr fun result => ?_
  cases result with
  | error e => rfl
  | ok outcome =>
    simp only [deliverAll_ofConfig, Cache.afterRun]
    cases outcome.cancelled with
    | true => rfl
    | false =>
      change ((Except.ok <$> (modify fun cache => cache.apply outcome.assets : StateT Cache m Unit))
        >>= ExceptT.bindCont fun _ => pure outcome).run cache = _
      rw [StateT.run_bind, StateT.run_map, StateT.run_modify, map_pure, pure_bind]
      rfl

end Equations

section Runs

open Traversal

variable {σ R Context Built : Type} [Scalar R]

/-- A run hands over what the scripts that finished have asked for. -/
theorem assets_of_run_generateUndelivered {options : RunOptions}
    {ready : ExceptT Failure (StateM σ) Unit} {choose : List (Group R) → List (Group R)}
    {scripts : List (Script (StateM σ) R)}
    {encoder : Encoder (StateM σ) R Context Built} {isCancelled : StateM σ Bool}
    {outcome : Outcome Context Built} {s s' : σ}
    (ran : (generateUndelivered options ready choose scripts encoder isCancelled).run.run s =
      (.ok outcome, s')) :
    outcome.assets =
      ((runScripts scripts).run (ready.run.run s).2).1.flatMap fun run => run.2.assets := by
  obtain ⟨_, s₁, readies, ran⟩ := run_bind_eq_ok ran
  split_ifs at ran with refused
  · cases ran
  obtain ⟨runs, s₂, finished, ran⟩ := run_bind_eq_ok ran
  obtain ⟨first, s₃, -, ran⟩ := run_bind_eq_ok ran
  obtain ⟨⟨groups, walk, cancelled⟩, s₄, -, ran⟩ := run_bind_eq_ok ran
  obtain ⟨result, s₅, -, ran⟩ := run_bind_eq_ok ran
  cases ran
  rw [readies, run_eq_of_run_lift finished, Harvest.ofRuns, Harvest.foldl_add]
  rfl

theorem run_makeRoot (disk : Disk (StateM σ)) (root : String) (s : σ) :
    ((makeRoot disk root).run.run s).2 = ((disk.makeDirectories root).run s).2 := by
  generalize made : (disk.makeDirectories root).run s = result
  obtain ⟨there, s'⟩ := result
  rw [makeRoot, run_ok_bind (run_lift made)]
  cases there <;> rfl

/-- A run over a cache is all or nothing. If it fails or is cancelled, the cache is what it was; if
not, the assets of the outcome have been made those in use, once. These are the assets of all
scripts that finished, in turn, whatever became of their groups. -/
theorem cache_after_generate {disk : Disk (StateM σ)} {root : String} {config : PipelineConfig}
    {pipeline : Pipeline (StateT Cache (StateM σ)) R}
    (standard : Pipeline.standard config (some (Cache.store disk root)) = .ok pipeline)
    (options : RunOptions) (scripts : List (Script (StateM σ) R))
    (encoder : Encoder (StateM σ) R Context Built) (isCancelled : StateM σ Bool) (cache : Cache)
    (s : σ) :
    let ran := ((generate options (scripts.map Script.lift) pipeline encoder.lift
      (liftM isCancelled)).run.run cache).run s
    let ready := ((disk.makeDirectories root).run s).2
    (∀ e, ran.1.1 = .error e → ran.1.2 = cache) ∧
      ∀ outcome, ran.1.1 = .ok outcome →
        outcome.assets = ((runScripts scripts).run ready).1.flatMap (fun run => run.2.assets) ∧
          (outcome.cancelled = true → ran.1.2 = cache) ∧
          (outcome.cancelled = false → ran.1.2 = cache.apply outcome.assets) := by
  intro ran ready
  generalize plain : (generateUndelivered options (makeRoot disk root)
    (prepared (ofConfig config (some (Cache.store disk root)))) scripts encoder
    isCancelled).run.run s = last
  obtain ⟨result, s'⟩ := last
  have whole : ran = ((result, cache.afterRun result), s') := by
    simp only [ran, run_generate_store standard]
    exact congrArg (fun last : _ × σ => ((last.1, cache.afterRun last.1), last.2)) plain
  rw [whole]
  constructor
  · rintro e ⟨⟩
    rfl
  · rintro outcome ⟨⟩
    refine ⟨?_, fun stopped => if_pos stopped, fun through => ?_⟩
    · rw [assets_of_run_generateUndelivered plain, run_makeRoot]
    · exact if_neg (Bool.eq_false_iff.mp through)

/-- One script asks twice for a square, in a group that is hidden; another one breaks off. -/
theorem cache_after_generate_square :
    let disk : Disk (StateM FileTree) := FileTree.disk id fun tree _ => tree
    let pipeline : Pipeline (StateT Cache (StateM FileTree)) Double :=
      Pipeline.ofConfig {} (some (Cache.store disk "assets"))
    let square : Asset := ⟨"square.png", .solid 1 1 ⟨1, 2, 3, 4⟩, "square"⟩
    let hidden : Group Double := { name := "hidden", visible := false }
    let scripts : List (Script (StateM FileTree) Double) :=
      [⟨"hidden", ExceptT.mk fun _ =>
          pure (.ok (), { groups := [hidden], assets := [square, square] })⟩,
        ⟨"half", ExceptT.mk fun _ => pure (.error (.aborted none), { assets := [square] })⟩]
    let encoder : Encoder (StateM FileTree) Double _ _ := EventDocument.encoder
    let ran := ((generate {} (scripts.map Script.lift) pipeline encoder.lift
      (liftM (pure false : StateM FileTree Bool))).run.run {}).run {}
    (∀ e, ran.1.1 = .error e → ran.1.2 = {}) ∧
      ∀ outcome, ran.1.1 = .ok outcome →
        outcome.assets = [square, square] ∧
          (outcome.cancelled = true → ran.1.2 = {}) ∧
          (outcome.cancelled = false → ran.1.2 = Cache.apply {} outcome.assets) := by
  intro disk pipeline square hidden scripts encoder
  have standard : Pipeline.standard {} (some (Cache.store disk "assets")) = .ok pipeline := rfl
  have asked (tree : FileTree) : ((runScripts scripts).run tree).1.flatMap
      (fun run => run.2.assets) = [square, square] := rfl
  have whole := cache_after_generate standard {} scripts encoder (pure false) {} {}
  simp only [asked] at whole
  exact whole

end Runs

end Storyboard
