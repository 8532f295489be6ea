import Storyboard.Generation.Run
import Storyboard.Proofs.Traversal

/-! # The trace of a run

What a run leaves behind besides its outcome: the groups that the pipeline handed on to the encoder,
and the elements in the order in which they were emitted. An outcome lists elements by key, so their
order is lost in it.
-/

namespace Storyboard

variable {R Context Built : Type}

/-- What a run has done that its outcome does not show. -/
structure Trace (R : Type) where
  /-- The groups as the pipeline left them to the encoder. -/
  visited : List (Group R)
  /-- The keys of the elements in the order in which they were emitted. -/
  order : List ElementKey

/-- The outcome without anything that was built. -/
def Outcome.bare (outcome : Outcome Context Built) : Outcome Unit Unit :=
  { outcome with result := (), elements := outcome.elements.map fun (key, _) => (key, ()) }

section Definitions

variable {m : Type → Type} [Monad m] [Scalar R]

def tracedFrom (options : RunOptions) (pipeline : Pipeline m R)
    (encoder : Encoder m R Context Built) (isCancelled : m Bool) (before : StepContext R)
    (harvest : Harvest R) : ExceptT Failure m (Outcome Context Built × Trace R) := do
  let result ← (encoder.start : m Context)
  let (context, walk, cancelled) ←
    encodeGroups pipeline encoder isCancelled (harvest.toContext options.groupOrder before) result
  let result ← (encoder.finish walk.context : m Context)
  let after ← (if cancelled then pure context else pipeline.runOn .postGenerate context)
  let outcome := {
    result
    elements := (walk.emitted.map fun e => (e.key, e.built)).mergeSort fun a b => a.1.le b.1
    groups := Group.names after.groups
    faulted := after.faulted
    faults := harvest.faults
    assets := after.assets
    cancelled }
  return (outcome, ⟨context.groups, walk.emitted.map Emission.key⟩)

def traced (options : RunOptions) (scripts : List (Script m R)) (pipeline : Pipeline m R)
    (encoder : Encoder m R Context Built) (isCancelled : m Bool) :
    ExceptT Failure m (Outcome Context Built × Trace R) := do
  let before ← pipeline.runOn .preProcess {}
  if options.threads = some 0 then throw threadsFailure
  else
    let runs ← (runScripts scripts : m _)
    tracedFrom options pipeline encoder isCancelled before (.ofRuns runs)

/-- A run does what the traced run does. -/
theorem generate_eq_map_traced [LawfulMonad m] (options : RunOptions) (scripts : List (Script m R))
    (pipeline : Pipeline m R) (encoder : Encoder m R Context Built) (isCancelled : m Bool) :
    generate options scripts pipeline encoder isCancelled =
      Prod.fst <$> traced options scripts pipeline encoder isCancelled := by
  simp only [generate, traced, tracedFrom, map_bind]
  refine bind_congr fun before => ?_
  split_ifs
  · exact ExceptT.ext (by simp)
  · simp only [map_bind]
    refine bind_congr fun runs => bind_congr fun started => bind_congr fun encoded =>
      bind_congr fun result => ?_
    split_ifs <;> simp

end Definitions

section Runs

open Traversal

variable {σ : Type} [Scalar R] {options : RunOptions} {scripts : List (Script (StateM σ) R)}
  {pipeline : Pipeline (StateM σ) R} {encoder : Encoder (StateM σ) R Context Built}
  {isCancelled : StateM σ Bool} {outcome : Outcome Context Built} {trace : Trace R}

/-- A run that succeeds has a trace. -/
theorem exists_trace_of_run_generate {s s' : σ}
    (runs : (generate options scripts pipeline encoder isCancelled).run.run s =
      (.ok outcome, s')) :
    ∃ trace, (traced options scripts pipeline encoder isCancelled).run.run s =
      (.ok (outcome, trace), s') := by
  rw [generate_eq_map_traced, ← bind_pure_comp] at runs
  obtain ⟨⟨outcome, trace⟩, s₁, runs, ends⟩ := run_bind_eq_ok runs
  cases ends
  exact ⟨trace, runs⟩

/-- A run whose steps are ready and whose scripts may run goes on from what came of them. -/
theorem run_traced_of_ready {before : StepContext R} {s s' : σ}
    (ready : (pipeline.runOn .preProcess {}).run.run s = (.ok before, s'))
    (allowed : options.threads ≠ some 0) :
    (traced options scripts pipeline encoder isCancelled).run.run s =
      (tracedFrom options pipeline encoder isCancelled before
        (.ofRuns ((runScripts scripts).run s').1)).run.run ((runScripts scripts).run s').2 := by
  rw [traced, run_ok_bind ready, if_neg allowed]
  exact run_ok_bind (run_lift rfl)

/-- A run that came to its end has walked over the groups of its trace, and the walk came to its
end, too. -/
theorem visit_of_run_traced {s s' : σ}
    (runs : (traced options scripts pipeline encoder isCancelled).run.run s =
      (.ok (outcome, trace), s'))
    (whole : outcome.cancelled = false) :
    ∃ (first : Context) (walk : Walk Context Built) (s₁ s₂ s₃ s₄ s₅ : σ),
      encoder.start.run s₁ = (first, s₂) ∧
      (encoder.visit isCancelled trace.visited first).run.run s₃ = (.ok (walk, false), s₄) ∧
      (encoder.finish walk.context).run s₄ = (outcome.result, s₅) ∧
      trace.order = walk.emitted.map Emission.key := by
  obtain ⟨before, s₁, -, runs⟩ := run_bind_eq_ok runs
  split_ifs at runs with refused
  · cases runs
  obtain ⟨given, s₂, -, runs⟩ := run_bind_eq_ok runs
  obtain ⟨first, s₃, starts, runs⟩ := run_bind_eq_ok runs
  obtain ⟨⟨context, walk, cancelled⟩, s₄, encodes, runs⟩ := run_bind_eq_ok runs
  obtain ⟨result, s₅, finishes, runs⟩ := run_bind_eq_ok runs
  obtain ⟨after, s₆, -, runs⟩ := run_bind_eq_ok runs
  cases runs
  obtain rfl : cancelled = false := whole
  obtain ⟨stopped, s₇, -, encodes⟩ := run_bind_eq_ok encodes
  cases stopped with
  | true => cases encodes
  | false =>
    rw [if_neg Bool.false_ne_true] at encodes
    obtain ⟨chosen, s₈, -, encodes⟩ := run_bind_eq_ok encodes
    obtain ⟨changed, s₉, -, encodes⟩ := run_bind_eq_ok encodes
    obtain ⟨⟨visited, stopped⟩, s₁₀, visits, encodes⟩ := run_bind_eq_ok encodes
    cases encodes
    exact ⟨first, walk, s₂, s₃, s₉, s₄, s₅, run_eq_of_run_lift starts, visits,
      run_eq_of_run_lift finishes, rfl⟩

end Runs

end Storyboard
