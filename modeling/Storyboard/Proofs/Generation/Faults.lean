import Storyboard.Events.Document
import Storyboard.Proofs.Generation.Harvest
import Storyboard.Proofs.Pipeline.Standard

/-! # Runs with scripts that fail

A script that fails, and one that gives neither groups nor assets, can be left out: the rest of the
run does the same, and only the report of failed scripts is different. The standard steps pass the
names of failed scripts on without looking at them.
-/

namespace Storyboard

variable {m : Type → Type} [Monad m] {R α β : Type}

/-- The context with other names of failed scripts. -/
def StepContext.withFaulted (names : List String) (context : StepContext R) : StepContext R :=
  { context with faulted := names }

open StepContext

/-! ## Hooks that overlook the names of failed scripts -/

/-- A hook neither looks at the names of failed scripts nor changes them. -/
def Overlooks (hook : HookM m R α) : Prop :=
  ∀ (names : List String) (context : StepContext R),
    hook.run.run (context.withFaulted names) =
      Prod.map id (withFaulted names) <$> hook.run.run context

section Overlooks

variable [LawfulMonad m]

theorem overlooks_pure (a : α) : Overlooks (pure a : HookM m R α) := by
  intro names context
  simp

theorem overlooks_throw (e : Failure) : Overlooks (throw e : HookM m R α) := by
  intro names context
  simp

theorem overlooks_lift (action : m α) : Overlooks (liftM action : HookM m R α) := by
  intro names context
  rw [HookM.run_liftM, HookM.run_liftM, Functor.map_map]
  rfl

theorem overlooks_modify {f : StepContext R → StepContext R}
    (commutes : ∀ names context, f (withFaulted names context) = withFaulted names (f context)) :
    Overlooks (m := m) (modify f) := by
  intro names context
  rw [HookM.run_modify, HookM.run_modify, commutes, map_pure]
  rfl

theorem Overlooks.bind {hook : HookM m R α} {next : α → HookM m R β} (first : Overlooks hook)
    (after : ∀ a, Overlooks (next a)) : Overlooks (hook >>= next) := by
  intro names context
  simp only [ExceptT.run_bind, StateT.run_bind, first names context, map_bind, bind_map_left]
  refine bind_congr fun (result, context) => ?_
  cases result with
  | error e => simp
  | ok a => exact after a names context

/-- Of the context that it gets, the rest of a hook must overlook the names, too. -/
theorem overlooks_get_bind {next : StepContext R → HookM m R α}
    (after : ∀ context, Overlooks (next context))
    (blind : ∀ names context, next (withFaulted names context) = next context) :
    Overlooks (get >>= next) := by
  intro names context
  rw [HookM.run_get_bind, HookM.run_get_bind, blind, after]

theorem Overlooks.adapt {hook : HookM m R α} (overlooks : Overlooks hook)
    (f : Failure → Failure) : Overlooks (ExceptT.adapt f hook) := by
  intro names context
  rw [HookM.run_adapt, HookM.run_adapt, overlooks, Functor.map_map, Functor.map_map]
  rfl

end Overlooks

/-! ## Standard steps -/

/-- The steps that a standard pipeline can be made of, with any settings. -/
inductive Step.IsStandard [Scalar R] : Step m R → Prop where
  | filter (target : Option String) (includeHidden : Bool) :
      IsStandard (Step.filter target includeHidden)
  | widescreen (offset : Vec2 R) : IsStandard (Step.widescreen offset)
  | precision (p : Precision) : IsStandard (Step.precision p)
  | assets (store : AssetStore m) : IsStandard (Step.assets store)

section Standard

variable [LawfulMonad m]

theorem overlooks_transform {name : String} {moment : Phase}
    {f : StepContext R → StepContext R}
    (commutes : ∀ names context, f (withFaulted names context) = withFaulted names (f context))
    (phase : Phase) : Overlooks ((Step.transform (m := m) name moment f).hook phase) := by
  change Overlooks (if phase = moment then modify f else pure ())
  split_ifs
  · exact overlooks_modify commutes
  · exact overlooks_pure ()

/-- The step that hands on assets does not look at the names of failed scripts. -/
theorem overlooks_assets [Scalar R] (store : AssetStore m) (phase : Phase) :
    Overlooks ((Step.assets (R := R) store).hook phase) := by
  cases phase with
  | preProcess =>
    refine (overlooks_lift store.prepare).bind fun ready => ?_
    split_ifs
    · exact overlooks_pure ()
    · exact overlooks_throw _
  | postGenerate =>
    exact overlooks_get_bind (fun context => overlooks_lift (store.apply context.assets))
      fun _ _ => rfl
  | preGenerate => exact overlooks_pure ()
  | postProcess => exact overlooks_pure ()

theorem Step.IsStandard.overlooks [Scalar R] {step : Step m R} (standard : step.IsStandard)
    (phase : Phase) : Overlooks (step.hook phase) := by
  cases standard with
  | filter => exact overlooks_transform (fun _ _ => rfl) phase
  | widescreen => exact overlooks_transform (fun _ _ => rfl) phase
  | precision => exact overlooks_transform (fun _ _ => rfl) phase
  | assets store => exact overlooks_assets store phase

variable [Scalar R] {pipeline : Pipeline m R} (standard : ∀ step ∈ pipeline, step.IsStandard)
include standard

theorem Pipeline.overlooks_run (phase : Phase) : Overlooks (pipeline.run phase) := by
  induction pipeline with
  | nil => exact overlooks_pure ()
  | cons step rest ih =>
    have first := (standard step List.mem_cons_self).overlooks phase
    exact (first.adapt _).bind fun _ =>
      ih fun later member => standard later (List.mem_cons_of_mem _ member)

theorem Pipeline.runOn_withFaulted (phase : Phase) (names : List String)
    (context : StepContext R) : pipeline.runOn phase (context.withFaulted names) =
      withFaulted names <$> pipeline.runOn phase context := by
  refine ExceptT.ext ?_
  simp only [runOn, ExceptT.run_mk, ExceptT.run_map, overlooks_run standard phase names context,
    bind_map_left, map_bind, map_pure]
  refine bind_congr fun run => ?_
  obtain ⟨result, context⟩ := run
  cases result <;> rfl

end Standard

/-! ## What is left of scripts -/

/-- The script finished with at least one group or asset. -/
def ScriptRun.isFruitful : ScriptRun R → Bool
  | .done groups assets => !(groups.isEmpty && assets.isEmpty)
  | .faulted _ => false

namespace Harvest

/-- Runs that failed give nothing, so it makes no difference to leave them out. -/
theorem flatMap_fruitful {part : ScriptRun R → List β}
    (barren : ∀ run : ScriptRun R, run.isFruitful = false → part run = [])
    (runs : List (String × ScriptRun R)) :
    (runs.filter fun run => run.2.isFruitful).flatMap (fun run => part run.2) =
      runs.flatMap fun run => part run.2 := by
  induction runs with
  | nil => rfl
  | cons run rest ih =>
    rw [List.filter_cons, List.flatMap_cons, ← ih]
    split_ifs with fruitful
    · rw [List.flatMap_cons]
    · rw [barren run.2 (by simpa using fruitful), List.nil_append]

/-- Scripts without groups and assets only add to the report of failed scripts. -/
theorem ofRuns_fruitful (runs : List (String × ScriptRun R)) :
    ofRuns runs =
      { ofRuns (runs.filter fun run => run.2.isFruitful) with
        faulted := (failed runs).map Prod.fst
        faults := (failed runs).map fun (name, report) => Failure.scriptFault name report } := by
  have groups : ∀ run : ScriptRun R, run.isFruitful = false → run.groups = [] := by
    rintro (⟨_ | _, _⟩ | _) barren <;> simp_all [ScriptRun.isFruitful, ScriptRun.groups]
  have assets : ∀ run : ScriptRun R, run.isFruitful = false → run.assets = [] := by
    rintro (⟨_, _ | _⟩ | _) barren <;> simp_all [ScriptRun.isFruitful, ScriptRun.assets]
  rw [ofRuns, ofRuns, foldl_add, foldl_add, flatMap_fruitful groups, flatMap_fruitful assets]
  rfl

end Harvest

/-! ## Whole runs -/

/-- The outcome with another report of failed scripts. -/
def Outcome.withFaults {Context Built : Type} (faulted : List String) (faults : List Failure)
    (outcome : Outcome Context Built) : Outcome Context Built :=
  { outcome with faulted, faults }

/-- A script that shares no state: how it ends, and what it has put out by then, does not depend on
anything else, and it changes nothing else. -/
structure IsolatedScript (m : Type → Type) [Monad m] (R : Type) where
  script : Script m R
  result : Except ScriptFailure Unit
  output : ScriptOutput R
  settled : script.body.run.run {} = pure (result, output)

namespace IsolatedScript

/-- What comes of the script: its output, unless it fails. -/
def run (script : IsolatedScript m R) : ScriptRun R :=
  match script.result with
  | .ok () => .done script.output.groups script.output.assets
  | .error e => .faulted e.report

/-- What comes of scripts, by name. -/
def runs (scripts : List (IsolatedScript m R)) : List (String × ScriptRun R) :=
  scripts.map fun script => (script.script.name, script.run)

theorem run_eq_pure [LawfulMonad m] (script : IsolatedScript m R) :
    script.script.run = pure script.run := by
  rw [Script.run, script.settled, pure_bind, run]
  cases script.result <;> rfl

theorem runScripts_eq_pure [LawfulMonad m] (scripts : List (IsolatedScript m R)) :
    runScripts (scripts.map script) = pure (runs scripts) := by
  induction scripts with
  | nil => rfl
  | cons first rest ih =>
    rw [List.map_cons, runScripts, run_eq_pure, pure_bind, ih, pure_bind]
    rfl

end IsolatedScript

section Whole

variable [LawfulMonad m] [Scalar R] {pipeline : Pipeline m R} {Context Built : Type}

def generateFrom (options : RunOptions) (pipeline : Pipeline m R)
    (encoder : Encoder m R Context Built) (isCancelled : m Bool) (before : StepContext R)
    (harvest : Harvest R) : ExceptT Failure m (Outcome Context Built) := do
  let result ← (encoder.start : m Context)
  let (context, walk, cancelled) ←
    encodeGroups pipeline encoder isCancelled (harvest.toContext options.groupOrder before) result
  let result ← (encoder.finish walk.context : m Context)
  let context ← if cancelled then pure context else pipeline.runOn .postGenerate context
  return {
    result
    elements := (walk.emitted.map fun e => (e.key, e.built)).mergeSort fun a b => a.1.le b.1
    groups := Group.names context.groups
    faulted := context.faulted
    faults := harvest.faults
    assets := context.assets
    cancelled }

/-- A run of scripts that can be told apart starts with its first hooks and goes on from the
harvest. -/
theorem generate_eq (options : RunOptions) (scripts : List (IsolatedScript m R))
    (encoder : Encoder m R Context Built) (isCancelled : m Bool) :
    generate options (scripts.map IsolatedScript.script) pipeline encoder isCancelled =
      pipeline.runOn .preProcess {} >>= fun before =>
        if options.threads = some 0 then throw threadsFailure
        else generateFrom options pipeline encoder isCancelled before
          (.ofRuns (IsolatedScript.runs scripts)) := by
  simp only [generate, IsolatedScript.runScripts_eq_pure]
  refine bind_congr fun before => ?_
  split_ifs
  · refine ExceptT.ext ?_
    simp
  · rw [liftM_pure, pure_bind]
    rfl

variable (standard : ∀ step ∈ pipeline, step.IsStandard)
include standard

/-- The walk over the groups does not see which scripts failed. -/
theorem encodeGroups_withFaulted (encoder : Encoder m R Context Built) (isCancelled : m Bool)
    (names : List String) (context : StepContext R) (result : Context) :
    encodeGroups pipeline encoder isCancelled (context.withFaulted names) result =
      Prod.map (withFaulted names) id <$>
        encodeGroups pipeline encoder isCancelled context result := by
  simp only [encodeGroups, map_bind, Pipeline.runOn_withFaulted standard, bind_map_left]
  refine bind_congr fun cancelled => ?_
  split_ifs
  · rw [map_pure]
    rfl
  · simp only [map_bind, map_pure]
    rfl

/-- Failed scripts only change the report of a run. -/
theorem generateFrom_withFaults (options : RunOptions) (encoder : Encoder m R Context Built)
    (isCancelled : m Bool) (before : StepContext R) (harvest : Harvest R) (faulted : List String)
    (faults : List Failure) :
    generateFrom options pipeline encoder isCancelled (before.withFaulted [])
        { harvest with faulted, faults } =
      Outcome.withFaults faulted faults <$>
        generateFrom options pipeline encoder isCancelled (before.withFaulted []) harvest := by
  have context : Harvest.toContext { harvest with faulted, faults } options.groupOrder
        (before.withFaulted []) =
      (harvest.toContext options.groupOrder (before.withFaulted [])).withFaulted faulted := rfl
  simp only [generateFrom, context, encodeGroups_withFaulted standard, map_bind, bind_map_left]
  refine bind_congr fun started => bind_congr fun (context, walk, cancelled) =>
    bind_congr fun result => ?_
  cases cancelled with
  | true =>
    simp only [Prod.map_fst, Prod.map_snd, id, if_true, pure_bind, map_pure]
    rfl
  | false =>
    simp only [Prod.map_fst, Prod.map_snd, id, Bool.false_eq_true, if_false, map_bind, map_pure,
      Pipeline.runOn_withFaulted standard, bind_map_left]
    rfl

/-- A run does the same as a run of the scripts that finished with at least one group or asset, down
to the failure or the outcome; only the report of failed scripts in the outcome is its own. -/
theorem generate_eq_map_fruitful (options : RunOptions) (scripts : List (IsolatedScript m R))
    (encoder : Encoder m R Context Built) (isCancelled : m Bool) :
    generate options (scripts.map IsolatedScript.script) pipeline encoder isCancelled =
      Outcome.withFaults ((Harvest.failed (IsolatedScript.runs scripts)).map Prod.fst)
          ((Harvest.failed (IsolatedScript.runs scripts)).map fun (name, report) =>
            .scriptFault name report) <$>
        generate options
          ((scripts.filter fun script => script.run.isFruitful).map IsolatedScript.script)
          pipeline encoder isCancelled := by
  -- Nothing before the scripts names failed ones.
  have unnamed : pipeline.runOn .preProcess {} =
      withFaulted [] <$> pipeline.runOn .preProcess {} := by
    rw [← Pipeline.runOn_withFaulted standard]
    rfl
  have left : (IsolatedScript.runs scripts).filter (fun run => run.2.isFruitful) =
      IsolatedScript.runs (scripts.filter fun script => script.run.isFruitful) := List.filter_map
  rw [generate_eq, generate_eq, unnamed, bind_map_left, bind_map_left, map_bind,
    Harvest.ofRuns_fruitful (IsolatedScript.runs scripts), left]
  refine bind_congr fun before => ?_
  split_ifs
  · exact ExceptT.ext (by simp)
  · exact generateFrom_withFaults standard options encoder isCancelled before _ _ _

end Whole

/-- Of four scripts one fails with work half done, one breaks off and one does nothing. -/
theorem generate_eq_map_fruitful_one :
    let store : AssetStore (StateM (List Asset)) := ⟨"assets", pure true, fun assets => set assets⟩
    let pipeline : Pipeline (StateM (List Asset)) Double :=
      [.filter none false, .widescreen ⟨⟨0⟩, ⟨0⟩⟩, .precision ⟨4, 4, 4⟩, .assets store]
    let song : Element Double := .sample ⟨"song.mp3", .overlay, ⟨0⟩, ⟨0⟩⟩
    let film : Element Double := .video ⟨"film.mp4", ⟨0⟩⟩
    let half : IsolatedScript (StateM (List Asset)) Double :=
      ⟨⟨"half", ExceptT.mk fun out =>
        pure (.error (.failed (.invalidState "lost")), out.addElement "back" film)⟩, _, _, rfl⟩
    let good : IsolatedScript (StateM (List Asset)) Double :=
      ⟨⟨"good", ExceptT.mk fun out => pure (.ok (), out.addElement "front" song)⟩, _, _, rfl⟩
    let broken : IsolatedScript (StateM (List Asset)) Double :=
      ⟨⟨"broken", ExceptT.mk fun out => pure (.error (.aborted none), out)⟩, _, _, rfl⟩
    let idle : IsolatedScript (StateM (List Asset)) Double :=
      ⟨⟨"idle", ExceptT.mk fun out => pure (.ok (), out)⟩, _, _, rfl⟩
    generate {} [half.script, good.script, broken.script, idle.script] pipeline
        EventDocument.encoder (pure false) =
      Outcome.withFaults ["half", "broken"]
          [.scriptFault "half" (Failure.invalidState "lost").fullMessage,
            .scriptFault "broken" "panicked"] <$>
        generate {} [good.script] pipeline EventDocument.encoder (pure false) := by
  intro store pipeline song film half good broken idle
  have standard : ∀ step ∈ pipeline, step.IsStandard := by
    simp only [pipeline, List.forall_mem_cons]
    exact ⟨.filter _ _, .widescreen _, .precision _, .assets store, nofun⟩
  exact generate_eq_map_fruitful standard {} [half, good, broken, idle] EventDocument.encoder
    (pure false)

end Storyboard
