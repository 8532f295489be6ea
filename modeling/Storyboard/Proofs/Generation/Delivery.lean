import Mathlib.Tactic.SplitIfs
import Storyboard.Generation.Run
import Storyboard.Proofs.Generation.Harvest
import Storyboard.Proofs.Pipeline.Standard
import Storyboard.Proofs.Traversal

/-! # What a run hands over

A run of standard steps has its whole outcome before it hands any assets over: stores are made ready
before the first script, and get the assets after everything else, unless the run was cancelled. In
between, a pipeline only says which groups are left to the encoder, and how they are drawn.
-/

namespace Storyboard

open StandardStep

variable {m : Type → Type} [Monad m] {R Context Built : Type} [Scalar R]

/-- What an encoder makes of groups: those that are left in the end, the walk over them, and whether
it was cancelled. -/
def encodeChosen (choose : List (Group R) → List (Group R))
    (encoder : Encoder m R Context Built) (isCancelled : m Bool) (groups : List (Group R))
    (result : Context) : ExceptT Failure m (List (Group R) × Walk Context Built × Bool) := do
  if ← (isCancelled : m Bool) then return (groups, { context := result }, true)
  let (walk, cancelled) ← encoder.visit isCancelled (choose groups) result
  return (choose groups, walk, cancelled)

/-- A run up to the point where it would hand its assets over. -/
def generateUndelivered (options : RunOptions) (ready : ExceptT Failure m Unit)
    (choose : List (Group R) → List (Group R)) (scripts : List (Script m R))
    (encoder : Encoder m R Context Built) (isCancelled : m Bool) :
    ExceptT Failure m (Outcome Context Built) := do
  ready
  if options.threads = some 0 then throw threadsFailure
  else
    let runs ← (runScripts scripts : m _)
    let harvest := Harvest.ofRuns runs
    let result ← (encoder.start : m Context)
    let (groups, walk, cancelled) ← encodeChosen choose encoder isCancelled
      (Group.ranked options.groupOrder harvest.groups) result
    let result ← (encoder.finish walk.context : m Context)
    return {
      result
      elements := (walk.emitted.map fun e => (e.key, e.built)).mergeSort fun a b => a.1.le b.1
      groups := Group.names groups
      faulted := harvest.faulted
      faults := harvest.faults
      assets := harvest.assets
      cancelled }

section Equations

variable [LawfulMonad m] (steps : List (StandardStep m R)) (encoder : Encoder m R Context Built)
  (isCancelled : m Bool)

/-- Standard steps choose and draw the groups, and nothing else comes between them and the encoder.
-/
theorem encodeGroups_eq_map_encodeChosen (context : StepContext R) (result : Context) :
    encodeGroups (pipeline steps) encoder isCancelled context result =
      (fun (groups, walk, cancelled) => ({ context with groups }, walk, cancelled)) <$>
        encodeChosen (prepared steps) encoder isCancelled context.groups result := by
  simp only [encodeGroups, encodeChosen, map_bind]
  refine bind_congr fun stopped => ?_
  split_ifs
  · rw [map_pure]
  · rw [runOn_preGenerate, pure_bind, runOn_postProcess, pure_bind]
    simp only [map_bind, map_pure]
    rfl

/-- A run of standard steps ends with the assets, if it was not cancelled. -/
theorem generate_eq_generateUndelivered_bind (options : RunOptions) (scripts : List (Script m R)) :
    generate options scripts (pipeline steps) encoder isCancelled =
      generateUndelivered options (readyAll steps) (prepared steps) scripts encoder isCancelled
        >>= fun outcome => do
          if !outcome.cancelled then (deliverAll steps outcome.assets : m Unit)
          return outcome := by
  simp only [generate, generateUndelivered, runOn_preProcess, bind_map_left, bind_assoc]
  refine bind_congr fun _ => ?_
  split_ifs
  · exact ExceptT.ext (by simp)
  simp only [bind_assoc]
  refine bind_congr fun runs => bind_congr fun started => ?_
  rw [encodeGroups_eq_map_encodeChosen, bind_map_left]
  simp only [pure_bind]
  refine bind_congr fun (groups, walk, cancelled) => bind_congr fun result => ?_
  cases cancelled with
  | true => rfl
  | false =>
    simp only [Bool.false_eq_true, if_false, Bool.not_false, if_true, runOn_postGenerate,
      liftM_map, bind_map_left]
    rfl

end Equations

end Storyboard
