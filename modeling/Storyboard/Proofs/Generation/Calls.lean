import Storyboard.Generation.Run
import Storyboard.Proofs.Generation.Visiting
import Storyboard.Proofs.Pipeline.Standard

/-! # The calls of a run

Every call that a run makes of a hook, a script, an encoder or a token can be noted in a log beside
the state, together with what came of it. A plan lists the calls that there may be; what is noted
follows the plan up to the first call that fails, or the first look that sees the token set. Scripts
end nothing, whether they fail or not.
-/

namespace Storyboard

variable {σ R α β Context Built : Type}

/-- A call that a run makes. -/
inductive RunCall (R : Type) where
  /-- The hook of the step of a name at a place of the pipeline. -/
  | hook (phase : Phase) (place : Nat) (name : String)
  /-- The script of a name at a place of the list. -/
  | script (place : Nat) (name : String)
  /-- The encoder makes a context. -/
  | start
  /-- A look whether the token is set. -/
  | look
  | build (element : Element R)
  | emit (layer : Layer)
  /-- The encoder finishes its context. -/
  | finish
  deriving DecidableEq

/-- What came of a call, as far as it decides how the run goes on. -/
inductive CallResult where
  | fine
  /-- The script failed, which is only reported. -/
  | faulted (failure : ScriptFailure)
  /-- The look saw the token set. -/
  | set
  | failed (failure : Failure)
  deriving DecidableEq

/-- A call and what came of it. -/
structure RunEvent (R : Type) where
  call : RunCall R
  result : CallResult
  deriving DecidableEq

/-- How calls in a row end. -/
inductive Ending (R : Type) where
  /-- All were made. -/
  | through
  /-- A look saw the token set. -/
  | token
  /-- A call failed. -/
  | failed (call : RunCall R) (failure : Failure)

namespace RunCall

/-- Only hooks and builds can fail. -/
def mayFail : RunCall R → Bool
  | hook .. | build _ => true
  | _ => false

def report : RunCall R → Failure → Failure
  | hook phase _ name => Failure.inContext (Step.failureContext name phase)
  | _ => id

end RunCall

namespace CallResult

def ofExcept : Except Failure α → CallResult
  | .ok _ => fine
  | .error e => failed e

def ofScript : Except ScriptFailure α → CallResult
  | .ok _ => fine
  | .error e => faulted e

/-- Whether more calls follow one that came out like this. -/
def passes : CallResult → RunCall R → Bool
  | fine, _ => true
  | faulted _, .script .. => true
  | _, _ => false

end CallResult

/-- Events follow a plan: its calls are made in order, until one of them ends it. -/
inductive Follows : List (RunCall R) → List (RunEvent R) → Ending R → Prop where
  | done : Follows [] [] .through
  | next {plan : List (RunCall R)} {events : List (RunEvent R)} {ending : Ending R}
      (call : RunCall R) {result : CallResult} (passes : result.passes call = true)
      (rest : Follows plan events ending) :
      Follows (call :: plan) (⟨call, result⟩ :: events) ending
  | token (plan : List (RunCall R)) : Follows (.look :: plan) [⟨.look, .set⟩] .token
  | failed (call : RunCall R) (may : call.mayFail = true) (e : Failure) (plan : List (RunCall R)) :
      Follows (call :: plan) [⟨call, .failed e⟩] (.failed call e)

namespace Follows

variable {plan plan' : List (RunCall R)} {events events' : List (RunEvent R)} {ending : Ending R}

theorem append (first : Follows plan events .through) (second : Follows plan' events' ending) :
    Follows (plan ++ plan') (events ++ events') ending := by
  generalize through : Ending.through = before at first
  induction first with
  | done => exact second
  | next call passes _ ih => exact .next call passes (ih through)
  | token | failed => cases through

/-- A plan that was cut does not matter from there on. -/
theorem cut (first : Follows plan events ending) (early : ending ≠ .through)
    (plan' : List (RunCall R)) : Follows (plan ++ plan') events ending := by
  induction first with
  | done => exact absurd rfl early
  | next call passes _ ih => exact .next call passes (ih early)
  | token plan => exact .token _
  | failed call may e plan => exact .failed call may e _

/-- Where two plans follow each other, the first one is cut, or there is nothing left of it. -/
theorem split (follows : Follows (plan ++ plan') events ending) :
    (ending ≠ .through ∧ Follows plan events ending) ∨
      ∃ first second, events = first ++ second ∧ Follows plan first .through ∧
        Follows plan' second ending := by
  induction plan generalizing events with
  | nil => exact .inr ⟨[], events, rfl, .done, follows⟩
  | cons call plan ih =>
    cases follows with
    | next _ passes rest =>
      obtain ⟨early, rest⟩ | ⟨first, second, rfl, whole, rest⟩ := ih rest
      · exact .inl ⟨early, .next call passes rest⟩
      · exact .inr ⟨_, second, rfl, .next call passes whole, rest⟩
    | token => exact .inl ⟨nofun, .token plan⟩
    | failed _ may e => exact .inl ⟨nofun, .failed call may e plan⟩

end Follows

/-! ## Noting calls -/

/-- A state with a log of calls beside it. -/
abbrev Logged (σ R : Type) := σ × List (RunEvent R)

/-- An action that is noted in the log when it is over. -/
def noting (note : α → RunEvent R) (action : StateM σ α) : StateM (Logged σ R) α := do
  let (s, log) ← get
  let (a, s) := action.run s
  set (s, log ++ [note a])
  return a

/-- The step with its hooks noted. -/
def Step.logged (place : Nat) (step : Step (StateM σ) R) : Step (StateM (Logged σ R)) R where
  name := step.name
  hook phase := ExceptT.mk fun context =>
    noting (fun last => ⟨.hook phase place step.name, .ofExcept last.1⟩)
      ((step.hook phase).run.run context)

/-- The pipeline with all hooks noted. -/
def Pipeline.logged (pipeline : Pipeline (StateM σ) R) : Pipeline (StateM (Logged σ R)) R :=
  pipeline.zipIdx.map fun (step, place) => step.logged place

/-- The script with its run noted. -/
def Script.logged (place : Nat) (script : Script (StateM σ) R) :
    Script (StateM (Logged σ R)) R where
  name := script.name
  body := ExceptT.mk fun out =>
    noting (fun last => ⟨.script place script.name, .ofScript last.1⟩) (script.body.run.run out)

/-- The encoder with its calls noted. -/
def Encoder.logged (encoder : Encoder (StateM σ) R Context Built) :
    Encoder (StateM (Logged σ R)) R Context Built where
  start := noting (fun _ => ⟨.start, .fine⟩) encoder.start
  build element := ExceptT.mk <|
    noting (fun result => ⟨.build element, .ofExcept result⟩) (encoder.build element).run
  emit context layer built :=
    noting (fun _ => ⟨.emit layer, .fine⟩) (encoder.emit context layer built)
  finish context := noting (fun _ => ⟨.finish, .fine⟩) (encoder.finish context)

/-- The token with the looks at it noted. -/
def loggedLook (isCancelled : StateM σ Bool) : StateM (Logged σ R) Bool :=
  noting (fun cancelled => ⟨.look, if cancelled then .set else .fine⟩) isCancelled

theorem run_noting {action : StateM σ α} {a : α} {s s' : σ} (ran : action.run s = (a, s'))
    (note : α → RunEvent R) (log : List (RunEvent R)) :
    (noting note action).run (s, log) = (a, (s', log ++ [note a])) := by
  change ((action.run s).1, ((action.run s).2, log ++ [note (action.run s).1])) = _
  rw [ran]

theorem run_loggedLook {isCancelled : StateM σ Bool} {cancelled : Bool} {s s' : σ}
    (looked : isCancelled.run s = (cancelled, s')) (log : List (RunEvent R)) :
    (loggedLook isCancelled).run (s, log) =
      (cancelled, (s', log ++ [⟨.look, if cancelled then .set else .fine⟩])) :=
  run_noting looked _ log

/-! ## Work that follows a plan -/

/-- How work comes out when its calls end in a way: a call that fails gives its failure, and where a
look saw the token set, the result says that it stopped. -/
inductive Settles (stopped : α → Bool) : Ending R → Except Failure α → Prop where
  | through {a : α} (whole : stopped a = false) : Settles stopped .through (.ok a)
  | token {a : α} (stops : stopped a = true) : Settles stopped .token (.ok a)
  | failed (call : RunCall R) (e : Failure) :
      Settles stopped (.failed call e) (.error (call.report e))

/-- From a state on, work does the same with its calls noted, and the calls follow a plan. -/
def LogsAt (s : σ) (plan : List (RunCall R)) (stopped : α → Bool)
    (plain : ExceptT Failure (StateM σ) α) (logged : ExceptT Failure (StateM (Logged σ R)) α) :
    Prop :=
  ∀ log, ∃ (result : Except Failure α) (s' : σ) (events : List (RunEvent R)) (ending : Ending R),
    plain.run.run s = (result, s') ∧ logged.run.run (s, log) = (result, (s', log ++ events)) ∧
      Follows plan events ending ∧ Settles stopped ending result

section Hooks

variable {m : Type → Type} [Monad m] [LawfulMonad m] (step : Step m R) (phase : Phase)
  (context : StepContext R)

/-- A pipeline of one step calls its hook and puts its name around a failure. -/
theorem Pipeline.runOn_singleton : runOn [step] phase context =
    ExceptT.mk ((fun (result, context) =>
        (result.mapError (Failure.inContext (Step.failureContext step.name phase))).map
          fun _ => context) <$>
      (step.hook phase).run.run context) := by
  refine ExceptT.ext ?_
  simp only [runOn, run, Step.call, HookM.run_adapt, ExceptT.run_bind, StateT.run_bind,
    ExceptT.run_mk, bind_assoc, map_eq_pure_bind]
  refine bind_congr fun last => ?_
  obtain ⟨result, context⟩ := last
  cases result <;> simp [Except.mapError, Except.map]

end Hooks

namespace LogsAt

open Traversal

variable {s : σ} {plan plan' : List (RunCall R)} {stopped : α → Bool}

theorem pure {a : α} (whole : stopped a = false) :
    LogsAt (R := R) s [] stopped (pure a) (pure a) := fun log =>
  ⟨.ok a, s, [], .through, rfl, by rw [List.append_nil]; rfl, .done, .through whole⟩

/-- One piece of work follows another, unless the first one stops. -/
theorem bind {stops : β → Bool} {work : ExceptT Failure (StateM σ) α}
    {logged : ExceptT Failure (StateM (Logged σ R)) α} {next : α → ExceptT Failure (StateM σ) β}
    {logged' : α → ExceptT Failure (StateM (Logged σ R)) β}
    (first : LogsAt s plan stopped work logged)
    (early : ∀ a, stopped a = true → ∃ b, next a = Pure.pure b ∧ logged' a = Pure.pure b ∧
      stops b = true)
    (rest : ∀ a s', work.run.run s = (.ok a, s') → stopped a = false →
      LogsAt s' plan' stops (next a) (logged' a)) :
    LogsAt s (plan ++ plan') stops (work >>= next) (logged >>= logged') := by
  intro log
  obtain ⟨result, s₁, events, ending, ran, noted, follows, settles⟩ := first log
  cases settles with
  | @through a whole =>
    obtain ⟨result, s', events', ending, ran', noted', follows', settles⟩ :=
      rest a s₁ ran whole (log ++ events)
    refine ⟨result, s', events ++ events', ending, ?_, ?_, follows.append follows', settles⟩
    · rw [run_ok_bind ran, ran']
    · rw [run_ok_bind noted, noted', List.append_assoc]
  | @token a stop =>
    obtain ⟨b, ends, ends', stop'⟩ := early a stop
    refine ⟨.ok b, s₁, events, .token, ?_, ?_, follows.cut nofun plan', .token stop'⟩
    · rw [run_ok_bind ran, ends]
      rfl
    · rw [run_ok_bind noted, ends']
      rfl
  | failed call e =>
    exact ⟨.error (call.report e), s₁, events, .failed call e, run_error_bind ran,
      run_error_bind noted, follows.cut nofun plan', .failed call e⟩

/-- One piece of work that never stops follows another. -/
theorem andThen {stops : β → Bool} {work : ExceptT Failure (StateM σ) α}
    {logged : ExceptT Failure (StateM (Logged σ R)) α} {next : α → ExceptT Failure (StateM σ) β}
    {logged' : α → ExceptT Failure (StateM (Logged σ R)) β}
    (first : LogsAt s plan (fun _ => false) work logged)
    (rest : ∀ a s', work.run.run s = (.ok a, s') → LogsAt s' plan' stops (next a) (logged' a)) :
    LogsAt s (plan ++ plan') stops (work >>= next) (logged >>= logged') :=
  first.bind (fun _ => nofun) fun a s' ran _ => rest a s' ran

/-- The result of work may be changed if that does not hide whether the work stopped. -/
theorem map {stops : β → Bool} {work : ExceptT Failure (StateM σ) α}
    {logged : ExceptT Failure (StateM (Logged σ R)) α} (first : LogsAt s plan stopped work logged)
    {f : α → β} (same : ∀ a, stops (f a) = stopped a) :
    LogsAt s plan stops (work >>= fun a => Pure.pure (f a))
      (logged >>= fun a => Pure.pure (f a)) := by
  have whole := first.bind (fun a stop => ⟨f a, rfl, rfl, (same a).trans stop⟩)
    fun a s' _ unset => pure (R := R) (s := s') ((same a).trans unset)
  rwa [List.append_nil] at whole

/-- A call whose results all let the calls after it be made. -/
theorem passing (s : σ) (call : RunCall R) (come : α → CallResult)
    (passes : ∀ a, (come a).passes call = true) (action : StateM σ α) :
    LogsAt s [call] (fun _ => false) (liftM action)
      (liftM (noting (fun a => ⟨call, come a⟩) action)) := by
  intro log
  generalize ran : action.run s = last
  obtain ⟨a, s'⟩ := last
  exact ⟨.ok a, s', [⟨call, come a⟩], .through, run_lift ran, run_lift (run_noting ran _ log),
    .next call (passes a) .done, .through rfl⟩

/-- A call that always goes well. -/
theorem act (s : σ) (call : RunCall R) (action : StateM σ α) :
    LogsAt s [call] (fun _ => false) (liftM action)
      (liftM (noting (fun _ => ⟨call, .fine⟩) action)) :=
  passing s call (fun _ => .fine) (fun _ => rfl) action

theorem look (s : σ) (isCancelled : StateM σ Bool) :
    LogsAt (R := R) s [.look] id (liftM isCancelled) (liftM (loggedLook (R := R) isCancelled)) := by
  intro log
  generalize ran : isCancelled.run s = last
  obtain ⟨cancelled, s'⟩ := last
  have noted := run_loggedLook (R := R) ran log
  cases cancelled with
  | true => exact ⟨_, s', _, _, run_lift ran, run_lift noted, .token [], .token rfl⟩
  | false => exact ⟨_, s', _, _, run_lift ran, run_lift noted, .next .look rfl .done, .through rfl⟩

/-- The build of an element is logged as one call. -/
theorem build (s : σ) (encoder : Encoder (StateM σ) R Context Built) (element : Element R) :
    LogsAt s [.build element] (fun _ => false) (encoder.build element)
      (encoder.logged.build element) := by
  intro log
  generalize ran : (encoder.build element).run.run s = last
  obtain ⟨result, s'⟩ := last
  have noted := run_noting ran (fun result => ⟨.build element, .ofExcept result⟩) log
  cases result with
  | error e => exact ⟨_, s', _, _, rfl, noted, .failed _ rfl e [], .failed (.build element) e⟩
  | ok built => exact ⟨_, s', _, _, rfl, noted, .next _ rfl .done, .through rfl⟩

/-- A hook is logged as one call at its place in the pipeline. -/
theorem hook (s : σ) (place : Nat) (step : Step (StateM σ) R) (phase : Phase)
    (context : StepContext R) :
    LogsAt s [.hook phase place step.name] (fun _ => false)
      (Pipeline.runOn [step] phase context)
      (Pipeline.runOn [step.logged place] phase context) := by
  intro log
  generalize ran : ((step.hook phase).run.run context).run s = last
  obtain ⟨⟨result, context'⟩, s'⟩ := last
  have noted := run_noting ran
    (fun last => ⟨.hook phase place step.name, .ofExcept last.1⟩) log
  rw [Pipeline.runOn_singleton, Pipeline.runOn_singleton]
  cases result with
  | error e =>
    exact ⟨_, s', _, _, run_map ran _, run_map noted _, .failed _ rfl e [],
      .failed (.hook phase place step.name) e⟩
  | ok _ => exact ⟨_, s', _, _, run_map ran _, run_map noted _, .next _ rfl .done, .through rfl⟩

end LogsAt

end Storyboard
