import Mathlib.Tactic.SplitIfs
import Storyboard.Pipeline.Standard

/-! # What standard steps come to

Over all steps of a standard pipeline, each phase does one thing: groups are chosen, sprites are
drawn anew, assets are handed over. Nothing but making a store ready can fail, and steps that draw
sprites anew do nothing at any other phase.
-/

namespace Storyboard

variable {m : Type → Type} {R α : Type}

/-- A standard step by its settings. -/
inductive StandardStep (m : Type → Type) (R : Type) where
  | filter (target : Option String) (includeHidden : Bool)
  | widescreen (offset : Vec2 R)
  | precision (p : Precision)
  | assets (store : AssetStore m)

namespace StandardStep

/-- The step changes values in sprites, and nothing else. -/
def redraws : StandardStep m R → Bool
  | widescreen _ | precision _ => true
  | filter .. | assets _ => false

variable [Monad m] [Scalar R]

def step : StandardStep m R → Step m R
  | filter target includeHidden => .filter target includeHidden
  | widescreen offset => .widescreen offset
  | precision p => .precision p
  | assets store => .assets store

/-- Whether the step leaves a group in the export. -/
def keeps : StandardStep m R → Group R → Bool
  | filter target includeHidden => Group.isExported target includeHidden
  | widescreen _ | precision _ | assets _ => fun _ => true

def redraw : StandardStep m R → Sprite R → Sprite R
  | widescreen offset => Sprite.shift offset
  | precision p => Sprite.round p
  | filter .. | assets _ => id

def ready : StandardStep m R → ExceptT Failure m Unit
  | assets store => do
    let ready ← (store.prepare : m Bool)
    if ready then return ()
    else throw ((Step.rootFailure store.root).inContext (Step.failureContext "assets" .preProcess))
  | filter .. | widescreen _ | precision _ => return ()

def deliver : StandardStep m R → List Asset → m Unit
  | assets store => store.apply
  | filter .. | widescreen _ | precision _ => fun _ => return ()

/-- The groups that all steps leave in the export. -/
def exported (steps : List (StandardStep m R)) (groups : List (Group R)) : List (Group R) :=
  groups.filter fun group => steps.all fun step => step.keeps group

def redrawAll (steps : List (StandardStep m R)) (sprite : Sprite R) : Sprite R :=
  steps.foldl (fun sprite step => step.redraw sprite) sprite

/-- Groups as all steps in turn draw their sprites. -/
def redrawn (steps : List (StandardStep m R)) (groups : List (Group R)) : List (Group R) :=
  groups.map (Group.mapSprites (redrawAll steps))

/-- The groups that all steps leave to an encoder. -/
def prepared (steps : List (StandardStep m R)) (groups : List (Group R)) : List (Group R) :=
  redrawn steps (exported steps groups)

/-- The steps that do something besides drawing sprites. -/
def others (steps : List (StandardStep m R)) : List (StandardStep m R) :=
  steps.filter fun step => !step.redraws

end StandardStep

theorem Element.mapSprite_id (e : Element R) : e.mapSprite id = e := by cases e <;> rfl

theorem Element.mapSprite_mapSprite (f g : Sprite R → Sprite R) (e : Element R) :
    (e.mapSprite f).mapSprite g = e.mapSprite (g ∘ f) := by
  cases e <;> rfl

theorem Group.mapSprites_id : Group.mapSprites (R := R) id = id := by
  funext group
  have each : Element.mapSprite (R := R) id = id := funext Element.mapSprite_id
  simp [mapSprites, each]

theorem Group.mapSprites_mapSprites (f g : Sprite R → Sprite R) (group : Group R) :
    (group.mapSprites f).mapSprites g = group.mapSprites (g ∘ f) := by
  simp [mapSprites, Element.mapSprite_mapSprite]

/-! ## One step after another -/

variable [Monad m] [LawfulMonad m]

theorem HookM.run_modify (f : StepContext R → StepContext R) (context : StepContext R) :
    (modify f : HookM m R Unit).run.run context = pure (.ok (), f context) := by
  change (Except.ok <$> (modify f : StateT (StepContext R) m Unit)).run context = _
  simp

theorem HookM.run_get_bind {next : StepContext R → HookM m R α} (context : StepContext R) :
    (get >>= next).run.run context = (next context).run.run context := by
  have got : (get : HookM m R (StepContext R)).run.run context = pure (.ok context, context) := by
    change (Except.ok <$> (get : StateT (StepContext R) m _)).run context = _
    simp
  rw [ExceptT.run_bind, StateT.run_bind, got, pure_bind]

theorem HookM.run_liftM (action : m α) (context : StepContext R) :
    (liftM action : HookM m R α).run.run context = (fun a => (.ok a, context)) <$> action := by
  change (Except.ok <$> (StateT.lift action : StateT (StepContext R) m α)).run context = _
  simp

theorem HookM.run_adapt (f : Failure → Failure) (hook : HookM m R α) (context : StepContext R) :
    (ExceptT.adapt f hook).run.run context =
      Prod.map (Except.mapError f) id <$> hook.run.run context :=
  StateT.run_map (Except.mapError f) hook.run context

namespace Pipeline

variable {step : Step m R} {rest : Pipeline m R} {phase : Phase} {context context' : StepContext R}

/-- A hook that cannot fail is followed by the hooks of the other steps. -/
theorem run_cons_of_effect {effect : m α}
    (acts : (step.hook phase).run.run context = (fun _ => (.ok (), context')) <$> effect) :
    (run (step :: rest) phase).run.run context =
      effect >>= fun _ => (run rest phase).run.run context' := by
  have called : (step.call phase).run.run context = (fun _ => (.ok (), context')) <$> effect := by
    rw [Step.call, HookM.run_adapt, acts, Functor.map_map]
    rfl
  rw [run, ExceptT.run_bind, StateT.run_bind, called, bind_map_left]

theorem run_cons_of_pure
    (acts : (step.hook phase).run.run context = pure (.ok (), context')) :
    (run (step :: rest) phase).run.run context = (run rest phase).run.run context' := by
  have effect : (step.hook phase).run.run context =
      (fun _ : Unit => (.ok (), context')) <$> (pure () : m Unit) := by
    rw [acts, map_pure]
  rw [run_cons_of_effect effect, pure_bind]

theorem runOn_of_pure {pipeline : Pipeline m R}
    (ran : (pipeline.run phase).run.run context = pure (.ok (), context')) :
    pipeline.runOn phase context = pure context' := by
  rw [runOn, ran, pure_bind]
  rfl

end Pipeline

/-! ## Standard steps -/

namespace StandardStep

variable [Scalar R] (kind : StandardStep m R) (context : StepContext R)

/-- Before a run, steps only make their stores ready. -/
theorem run_call_preProcess :
    (kind.step.call .preProcess).run.run context =
      (fun result => (result, context)) <$> kind.ready.run := by
  rw [Step.call, HookM.run_adapt]
  cases kind with
  | filter _ _ | widescreen _ | precision _ => simp [step, ready, Step.filter, Step.widescreen,
      Step.precision, Step.transform, Except.mapError]
  | assets store =>
    change Prod.map _ id <$> ((liftM store.prepare >>= fun there : Bool =>
      if there then pure () else throw (Step.rootFailure store.root) : HookM m R Unit)).run.run
        context = _
    simp only [ready, ExceptT.run_bind, StateT.run_bind, HookM.run_liftM, ExceptT.run_liftM,
      bind_map_left, map_bind]
    refine bind_congr fun there => ?_
    cases there with
    | true => simp [Except.mapError]
    | false =>
      simp [Except.mapError]
      rfl

/-- Before the encoder starts, steps only choose groups. -/
theorem run_preGenerate :
    (kind.step.hook .preGenerate).run.run context =
      pure (.ok (), { context with groups := context.groups.filter kind.keeps }) := by
  have idle : context.groups.filter (fun _ => true) = context.groups :=
    List.filter_eq_self.mpr fun _ _ => rfl
  cases kind with
  | filter target includeHidden => exact HookM.run_modify _ context
  | widescreen _ | precision _ | assets _ =>
    rw [keeps, idle]
    rfl

/-- Before the walk, steps only redraw sprites. -/
theorem run_postProcess :
    (kind.step.hook .postProcess).run.run context =
      pure (.ok (), context.mapGroups (Group.mapSprites kind.redraw)) := by
  have idle : context.mapGroups (Group.mapSprites id) = context := by
    rw [Group.mapSprites_id, StepContext.mapGroups, List.map_id]
  cases kind with
  | widescreen offset => exact HookM.run_modify _ context
  | precision p => exact HookM.run_modify _ context
  | filter _ _ | assets _ =>
    rw [redraw, idle]
    rfl

theorem run_postGenerate :
    (kind.step.hook .postGenerate).run.run context =
      (fun _ => (.ok (), context)) <$> kind.deliver context.assets := by
  cases kind with
  | filter _ _ | widescreen _ | precision _ =>
    rw [deliver, map_pure]
    rfl
  | assets store => exact (HookM.run_get_bind context).trans (HookM.run_liftM _ context)

omit [LawfulMonad m] in
/-- A step that draws sprites anew does so after groups have been chosen, and nothing else. -/
theorem hook_of_redraws {phase : Phase} (redraws : kind.redraws = true)
    (other : phase ≠ .postProcess) : kind.step.hook phase = pure () := by
  cases kind with
  | widescreen offset => exact if_neg other
  | precision p => exact if_neg other
  | filter _ _ | assets _ => cases redraws

/-! ## Pipelines of standard steps -/

def pipeline (steps : List (StandardStep m R)) : Pipeline m R := steps.map step

section Settings

variable (config : PipelineConfig) (store : Option (AssetStore m))

/-- The standard steps that valid settings ask for. -/
def ofConfig : List (StandardStep m R) :=
  [.filter config.exportTarget config.includeHidden] ++
    (if config.widescreen then [.widescreen widescreenOffset] else []) ++
    (if config.round then
      [.precision ⟨config.movePrecision, config.alphaPrecision, config.rotationPrecision⟩]
    else []) ++
    store.toList.map .assets

omit [LawfulMonad m] in
theorem pipeline_ofConfig :
    pipeline (ofConfig config store) = Pipeline.ofConfig (R := R) config store := by
  simp only [pipeline, ofConfig, Pipeline.ofConfig, List.map_append, List.map_map]
  split_ifs <;> rfl

omit [LawfulMonad m] in
/-- A standard pipeline has the steps that its settings ask for. -/
theorem eq_pipeline_of_standard {config : PipelineConfig} {store : Option (AssetStore m)}
    {built : Pipeline m R} (valid : Pipeline.standard config store = .ok built) :
    built = pipeline (ofConfig config store) := by
  rw [Pipeline.standard] at valid
  cases checked : config.validate with
  | error e =>
    rw [checked] at valid
    cases valid
  | ok _ =>
    rw [checked] at valid
    cases valid
    exact (pipeline_ofConfig config store).symm

omit [Monad m] [LawfulMonad m] in
/-- Of the steps that settings ask for, the filter alone chooses groups. -/
theorem exported_ofConfig (groups : List (Group R)) :
    exported (ofConfig config store) groups =
      groups.filter (Group.isExported config.exportTarget config.includeHidden) := by
  refine List.filter_congr fun group _ => ?_
  have others : ((ofConfig config store).tail.all fun step => step.keeps group) = true := by
    cases store <;> simp only [ofConfig] <;> split_ifs <;> rfl
  exact (congrArg _ others).trans (Bool.and_true _)

end Settings

/-- Makes the stores of all steps ready in turn, up to the first one that is not there. -/
def readyAll : List (StandardStep m R) → ExceptT Failure m Unit
  | [] => return ()
  | kind :: rest => do
    kind.ready
    readyAll rest

/-- Hands assets to the stores of all steps in turn. -/
def deliverAll : List (StandardStep m R) → List Asset → m Unit
  | [], _ => return ()
  | kind :: rest, given => do
    kind.deliver given
    deliverAll rest given

theorem readyAll_ofConfig (config : PipelineConfig) (store : AssetStore m) :
    readyAll (ofConfig config (some store) : List (StandardStep m R)) =
      (StandardStep.assets store : StandardStep m R).ready := by
  simp only [ofConfig]
  split_ifs <;> simp [readyAll, ready]

theorem deliverAll_ofConfig (config : PipelineConfig) (store : AssetStore m) (given : List Asset) :
    deliverAll (ofConfig config (some store) : List (StandardStep m R)) given =
      store.apply given := by
  simp only [ofConfig]
  split_ifs <;> simp [deliverAll, deliver]

variable (steps : List (StandardStep m R))

/-- First of all stores are made ready. -/
theorem runOn_preProcess : (pipeline steps).runOn .preProcess context =
    (fun _ => context) <$> readyAll steps := by
  have ran : ((pipeline steps).run .preProcess).run.run context =
      (fun result => (result, context)) <$> (readyAll steps).run := by
    induction steps with
    | nil => exact (map_pure (fun result => (result, context)) (Except.ok ())).symm
    | cons kind rest ih =>
      change (kind.step.call .preProcess >>= fun _ =>
        (pipeline rest).run .preProcess).run.run context = _
      rw [ExceptT.run_bind, StateT.run_bind, run_call_preProcess, bind_map_left, readyAll,
        ExceptT.run_bind, map_bind]
      refine bind_congr fun result => ?_
      cases result with
      | error e => simp
      | ok _ => exact ih
  refine ExceptT.ext ?_
  simp [Pipeline.runOn, ran]

/-- Before elements are built, groups are chosen. -/
theorem runOn_preGenerate : (pipeline steps).runOn .preGenerate context =
    pure { context with groups := exported steps context.groups } := by
  refine Pipeline.runOn_of_pure ?_
  induction steps generalizing context with
  | nil =>
    have all : exported ([] : List (StandardStep m R)) context.groups = context.groups :=
      List.filter_eq_self.mpr fun _ _ => rfl
    rw [all]
    rfl
  | cons kind rest ih =>
    refine ((Pipeline.run_cons_of_pure (kind.run_preGenerate context)).trans (ih _)).trans ?_
    simp only [exported, List.filter_filter, List.all_cons, Bool.and_comm]

/-- Then their sprites are drawn anew. -/
theorem runOn_postProcess : (pipeline steps).runOn .postProcess context =
    pure { context with groups := redrawn steps context.groups } := by
  refine Pipeline.runOn_of_pure ?_
  induction steps generalizing context with
  | nil =>
    have all : redrawn ([] : List (StandardStep m R)) context.groups = context.groups := by
      change context.groups.map (Group.mapSprites id) = _
      rw [Group.mapSprites_id, List.map_id]
    rw [all]
    rfl
  | cons kind rest ih =>
    refine ((Pipeline.run_cons_of_pure (kind.run_postProcess context)).trans (ih _)).trans ?_
    simp only [redrawn, StepContext.mapGroups, List.map_map, Function.comp_def,
      Group.mapSprites_mapSprites]
    rfl

/-- In the end the assets are handed over, and nothing is changed. -/
theorem runOn_postGenerate : (pipeline steps).runOn .postGenerate context =
    liftM ((fun _ => context) <$> deliverAll steps context.assets) := by
  have ran : ((pipeline steps).run .postGenerate).run.run context =
      (fun _ => (.ok (), context)) <$> deliverAll steps context.assets := by
    induction steps with
    | nil => exact (map_pure (fun _ : Unit => (Except.ok (), context)) ()).symm
    | cons kind rest ih =>
      refine (Pipeline.run_cons_of_effect (kind.run_postGenerate context)).trans ?_
      rw [deliverAll, map_bind]
      exact bind_congr fun _ => ih
  refine ExceptT.ext ?_
  simp [Pipeline.runOn, ran]

/-- Steps that only draw sprites anew can be left out at all other phases. -/
theorem runOn_others {phase : Phase} (other : phase ≠ .postProcess) :
    (pipeline (others steps)).runOn phase context = (pipeline steps).runOn phase context := by
  have same : (pipeline (others steps)).run phase = (pipeline steps).run phase := by
    induction steps with
    | nil => rfl
    | cons kind rest ih =>
      cases redraws : kind.redraws with
      | false =>
        have stays : others (kind :: rest) = kind :: others rest := by simp [others, redraws]
        rw [stays]
        exact bind_congr fun _ => ih
      | true =>
        have goes : others (kind :: rest) = others rest := by simp [others, redraws]
        have idle (context : StepContext R) : (kind.step.hook phase).run.run context =
            pure (.ok (), context) := by
          rw [hook_of_redraws kind redraws other]
          rfl
        rw [goes, ih]
        exact ExceptT.ext (StateT.ext fun context =>
          (Pipeline.run_cons_of_pure (idle context)).symm)
  rw [Pipeline.runOn, Pipeline.runOn, same]

end StandardStep

end Storyboard
