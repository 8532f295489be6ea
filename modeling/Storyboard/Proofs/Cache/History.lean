import Mathlib.Data.List.Induction
import Storyboard.Proofs.Cache.Merging
import Storyboard.Proofs.Traversal

/-! # Histories of a cache

A history is a list of changes and passes that starts with an empty cache. The files are behind an
arbitrary state, so that every outcome of every file operation is among the histories. What a
history keeps is shown for one step here, and for all of them by induction.
-/

namespace Storyboard

/-- The asset for a source at a path in normal form. -/
def AssetSource.asset [SeededDigest] (source : AssetSource) (path : String) : Asset :=
  ⟨path, source, source.key.contentHash⟩

/-- Something that happens to a cache. -/
inductive CacheStep where
  /-- One more reference is counted. -/
  | add (asset : Asset)
  /-- References are counted in turn, as one change. -/
  | addRange (assets : List Asset)
  /-- One reference is dropped. -/
  | remove (asset : Asset)
  /-- Assets become the complete set of those in use. -/
  | apply (assets : List Asset)
  /-- The disk is brought in line. -/
  | pass
  deriving DecidableEq

namespace CacheStep

/-- The assets that a step asks the cache to keep. -/
def requested : CacheStep → List Asset
  | .add asset => [asset]
  | .addRange assets => assets
  | .apply assets => assets
  | .remove _ => []
  | .pass => []

/-- The assets that a history asks for. -/
def requests (steps : List CacheStep) : List Asset := steps.flatMap requested

theorem requests_append (first second : List CacheStep) :
    requests (first ++ second) = requests first ++ requests second := List.flatMap_append

theorem requests_pass (steps : List CacheStep) : requests (steps ++ [.pass]) = requests steps := by
  rw [requests_append]
  exact List.append_nil _

theorem mem_requests {steps : List CacheStep} {next : CacheStep} (member : next ∈ steps)
    {asset : Asset} (asked : asset ∈ next.requested) : asset ∈ requests steps :=
  List.mem_flatMap.mpr ⟨next, member, asked⟩

/-- What a step does to the entries, apart from a pass. -/
def change : CacheStep → CacheEntries → CacheEntries
  | .add asset, entries => entries.merge asset
  | .addRange assets, entries => entries.mergeAll assets
  | .remove asset, entries => entries.release asset
  | .apply assets, entries => entries.apply assets
  | .pass, entries => entries

end CacheStep

namespace Cache

section
variable {m : Type → Type} [Monad m]

def step (files : AssetFiles m) (cache : Cache) : CacheStep → m Cache
  | .add asset => return cache.add asset
  | .addRange assets => return cache.addRange assets
  | .remove asset => return cache.remove asset
  | .apply assets => return cache.apply assets
  | .pass => cache.materializeNow files

/-- Takes steps in turn. -/
def run (files : AssetFiles m) (cache : Cache) (steps : List CacheStep) : m Cache :=
  steps.foldlM (step files) cache

end

variable {σ : Type}

/-- The cache and the state of the files after a history. -/
def after (files : AssetFiles (StateM σ)) (s : σ) (steps : List CacheStep) : Cache × σ :=
  ((run files {} steps).run s)

@[simp] theorem after_nil (files : AssetFiles (StateM σ)) (s : σ) :
    after files s [] = ({}, s) := rfl

theorem run_append (files : AssetFiles (StateM σ)) (cache : Cache) (first second : List CacheStep)
    (s : σ) : (run files cache (first ++ second)).run s =
      (run files ((run files cache first).run s).1 second).run
        ((run files cache first).run s).2 := by
  simp only [run, List.foldlM_append]
  rfl

/-- A history is taken on by one step at its end. -/
theorem after_snoc (files : AssetFiles (StateM σ)) (s : σ) (steps : List CacheStep)
    (next : CacheStep) :
    after files s (steps ++ [next]) =
      (step files (after files s steps).1 next).run (after files s steps).2 := by
  rw [after, run_append]
  rfl

theorem step_change (files : AssetFiles (StateM σ)) (cache : Cache) {next : CacheStep}
    (change : next ≠ .pass) (s : σ) :
    ((step files cache next).run s).1.entries = next.change cache.entries ∧
      ((step files cache next).run s).2 = s := by
  cases next with
  | pass => exact absurd rfl change
  | _ => exact ⟨rfl, rfl⟩

theorem after_pass (files : AssetFiles (StateM σ)) (s : σ) (steps : List CacheStep) :
    (after files s (steps ++ [.pass])).1.entries =
        (((after files s steps).1.entries.pass files).run (after files s steps).2).1 ∧
      (after files s (steps ++ [.pass])).2 =
        (((after files s steps).1.entries.pass files).run (after files s steps).2).2 := by
  rw [after_snoc]
  exact ⟨rfl, rfl⟩

/-- What holds of an empty cache, and is kept by every change and every pass, holds after every
history. -/
theorem after_induction {files : AssetFiles (StateM σ)} {s : σ}
    (holds : CacheEntries → σ → Prop) (start : holds {} s) (steps : List CacheStep)
    (changes : ∀ entries s, ∀ next ∈ steps, holds entries s → holds (next.change entries) s)
    (passes : ∀ entries s, holds entries s →
      holds ((entries.pass files).run s).1 ((entries.pass files).run s).2) :
    holds (after files s steps).1.entries (after files s steps).2 := by
  induction steps using List.reverseRecOn with
  | nil => exact start
  | append_singleton steps next ih =>
    have before := ih fun entries s other member =>
      changes entries s other (List.mem_append_left _ member)
    rw [after_snoc]
    by_cases pass : next = .pass
    · subst pass
      exact passes _ _ before
    · obtain ⟨entries, state⟩ :=
        step_change files (after files s steps).1 pass (after files s steps).2
      rw [entries, state]
      exact changes _ _ next (List.mem_append_right _ (List.mem_singleton_self _)) before

end Cache

end Storyboard
