import Storyboard.Proofs.Generation.Delivery

/-! # Runs in a larger monad

Scripts, encoders and tokens that know nothing of what a larger monad adds do in it what they do on
their own. So do the parts of a run that only they make up.
-/

namespace Storyboard

variable {m n : Type → Type} [Monad m] [Monad n] [MonadLiftT m n] {R α β Context Built : Type}

/-- Work that may fail, in a larger monad. -/
def liftWork (work : ExceptT Failure m α) : ExceptT Failure n α := ExceptT.mk (liftM work.run)

/-- The script in a larger monad. -/
def Script.lift (script : Script m R) : Script n R :=
  ⟨script.name, ExceptT.mk fun out => liftM (script.body.run.run out)⟩

/-- The encoder in a larger monad. -/
def Encoder.lift (encoder : Encoder m R Context Built) : Encoder n R Context Built where
  start := liftM encoder.start
  build element := liftWork (encoder.build element)
  emit context layer built := liftM (encoder.emit context layer built)
  finish context := liftM (encoder.finish context)

variable [LawfulMonadLiftT m n]

theorem liftWork_pure (a : α) :
    (liftWork (pure a : ExceptT Failure m α) : ExceptT Failure n α) = pure a :=
  ExceptT.ext (liftM_pure _)

theorem liftWork_throw (e : Failure) :
    (liftWork (throw e : ExceptT Failure m α) : ExceptT Failure n α) = throw e :=
  ExceptT.ext (liftM_pure _)

theorem liftWork_bind (work : ExceptT Failure m α) (next : α → ExceptT Failure m β) :
    (liftWork (work >>= next) : ExceptT Failure n β) =
      liftWork work >>= fun a => liftWork (next a) := by
  refine ExceptT.ext ?_
  simp only [liftWork, ExceptT.run_bind, ExceptT.run_mk, liftM_bind]
  refine bind_congr fun result => ?_
  cases result with
  | error e => exact liftM_pure _
  | ok a => rfl

theorem Script.run_lift (script : Script m R) :
    (script.lift : Script n R).run = liftM script.run := by
  rw [Script.run, Script.run, liftM_bind]
  refine bind_congr fun (result, out) => ?_
  cases result <;> exact (liftM_pure _).symm

theorem runScripts_lift (scripts : List (Script m R)) :
    runScripts (scripts.map Script.lift) = (liftM (runScripts scripts) : n _) := by
  induction scripts with
  | nil => exact (liftM_pure _).symm
  | cons script rest ih =>
    simp only [List.map_cons, runScripts, Script.run_lift, ih, liftM_bind, liftM_pure]
    rfl

theorem Encoder.emitAll_lift (encoder : Encoder m R Context Built) (staged : List (Emission Built))
    (context : Context) :
    encoder.lift.emitAll staged context = (liftM (encoder.emitAll staged context) : n _) := by
  induction staged generalizing context with
  | nil => exact (liftM_pure _).symm
  | cons emission rest ih =>
    rw [emitAll, emitAll, liftM_bind]
    exact bind_congr fun context => ih context

variable [LawfulMonad m] [LawfulMonad n]

theorem liftWork_liftM (action : m α) :
    (liftWork (liftM action : ExceptT Failure m α) : ExceptT Failure n α) =
      liftM (liftM action : n α) := by
  refine ExceptT.ext ?_
  simp [liftWork]

namespace Encoder

variable (encoder : Encoder m R Context Built) (isCancelled : m Bool)

/-- Building a group is the same work in a larger monad. -/
theorem buildStops_lift (place : Nat) (stops : List (Stop R)) (staging : Staging Built) :
    encoder.lift.buildStops (liftM isCancelled) place stops staging =
      (liftWork (encoder.buildStops isCancelled place stops staging) : ExceptT Failure n _) := by
  induction stops generalizing staging with
  | nil => exact (liftWork_pure _).symm
  | cons stop rest ih =>
    simp only [buildStops, liftWork_bind, liftWork_liftM]
    refine bind_congr fun cancelled => ?_
    split_ifs
    · exact (liftWork_pure _).symm
    · exact ih staging
    · rw [liftWork_bind]
      exact bind_congr fun built => ih _

variable [Scalar R]

/-- Walking over groups is the same work in a larger monad. -/
theorem visitFrom_lift (place : Nat) (groups : List (Group R)) (walk : Walk Context Built) :
    encoder.lift.visitFrom (liftM isCancelled) place groups walk =
      (liftWork (encoder.visitFrom isCancelled place groups walk) : ExceptT Failure n _) := by
  induction groups generalizing place walk with
  | nil => exact (liftWork_pure _).symm
  | cons group rest ih =>
    simp only [visitFrom, liftWork_bind, liftWork_liftM, buildStops_lift]
    refine bind_congr fun cancelled => ?_
    split_ifs
    · exact (liftWork_pure _).symm
    · rw [liftWork_bind]
      refine bind_congr fun staging => ?_
      cases staging with
      | none => exact (liftWork_pure _).symm
      | some staging =>
        simp only [emitAll_lift, liftWork_bind, liftWork_liftM]
        exact bind_congr fun context => ih _ _

theorem visit_lift (groups : List (Group R)) (context : Context) :
    encoder.lift.visit (liftM isCancelled) groups context =
      (liftWork (encoder.visit isCancelled groups context) : ExceptT Failure n _) :=
  visitFrom_lift encoder isCancelled 0 groups { context }

end Encoder

variable [Scalar R] (encoder : Encoder m R Context Built) (isCancelled : m Bool)

/-- What stands between the harvest and the result is the same work in a larger monad. -/
theorem encodeChosen_lift (choose : List (Group R) → List (Group R)) (groups : List (Group R))
    (result : Context) :
    encodeChosen choose encoder.lift (liftM isCancelled) groups result =
      (liftWork (encodeChosen choose encoder isCancelled groups result) :
        ExceptT Failure n _) := by
  simp only [encodeChosen, liftWork_bind, liftWork_liftM]
  refine bind_congr fun stopped => ?_
  split_ifs
  · exact (liftWork_pure _).symm
  · simp only [Encoder.visit_lift, liftWork_bind, liftWork_pure]

/-- A run does in a larger monad what it does on its own, up to the point where it would hand its
assets over. -/
theorem generateUndelivered_lift (options : RunOptions) (ready : ExceptT Failure m Unit)
    (choose : List (Group R) → List (Group R)) (scripts : List (Script m R)) :
    generateUndelivered options (liftWork ready) choose (scripts.map Script.lift) encoder.lift
        (liftM isCancelled) =
      (liftWork (generateUndelivered options ready choose scripts encoder isCancelled) :
        ExceptT Failure n _) := by
  simp only [generateUndelivered, liftWork_bind]
  refine bind_congr fun _ => ?_
  split_ifs
  · exact (liftWork_throw _).symm
  · simp only [runScripts_lift, encodeChosen_lift, liftWork_bind, liftWork_liftM, liftWork_pure]
    rfl

end Storyboard
