import Storyboard.Proofs.Generation.Plain
import Storyboard.Proofs.Generation.Trace
import Storyboard.Proofs.Pipeline.Standard

/-! # Runs that elements decide

Where an element alone decides whether it can be built and how that fails, the elements decide how a
run ends: it fails with the first failure in the order of the tour, and otherwise emits the tour
without the extra videos. Neither the state nor anything that is built has a say in it.
-/

namespace Storyboard

variable {σ R Context Built : Type}

/-- What is said of visits in turn, up to the first failure. -/
def Visit.judge (verdict : Element R → Except Failure Unit) : List (Visit R) → Except Failure Unit
  | [] => .ok ()
  | visit :: rest => do
    verdict visit.element
    judge verdict rest

theorem Visit.judge_append (verdict : Element R → Except Failure Unit)
    (first second : List (Visit R)) :
    judge verdict (first ++ second) = judge verdict first >>= fun _ => judge verdict second := by
  induction first with
  | nil => rfl
  | cons visit rest ih => rw [List.cons_append, judge, judge, ih, bind_assoc]

theorem Visit.judge_eq_ok {verdict : Element R → Except Failure Unit} {visits : List (Visit R)}
    (good : ∀ visit ∈ visits, verdict visit.element = .ok ()) : judge verdict visits = .ok () := by
  induction visits with
  | nil => rfl
  | cons visit rest ih =>
    obtain ⟨here, later⟩ := List.forall_mem_cons.mp good
    rw [judge, here]
    exact ih later

namespace Encoder

open Traversal Visit

/-- How building an element ends is the verdict on the element, in whatever state. -/
def Judges (encoder : Encoder (StateM σ) R Context Built)
    (verdict : Element R → Except Failure Unit) : Prop :=
  ∀ element s, ((encoder.build element).run.run s).1.map (fun _ => ()) = verdict element

variable {encoder : Encoder (StateM σ) R Context Built} {verdict : Element R → Except Failure Unit}

theorem Plain.judges [Scalar R] {first : Context} {product : Element R → Built}
    {add : Context → Layer → Built → Context} (plain : encoder.Plain first product add) :
    encoder.Judges Element.check := by
  intro element s
  rw [plain.build]
  cases element.check <;> rfl

/-- A build fails as the verdict says, or succeeds as the verdict says. -/
theorem Judges.cases (judges : encoder.Judges verdict) (element : Element R) (s : σ) :
    (∃ e s', (encoder.build element).run.run s = (.error e, s') ∧ verdict element = .error e) ∨
      ∃ built s',
        (encoder.build element).run.run s = (.ok built, s') ∧ verdict element = .ok () := by
  have judged := judges element s
  generalize (encoder.build element).run.run s = result at judged
  obtain ⟨e | built, s'⟩ := result
  · exact .inl ⟨e, s', rfl, judged.symm⟩
  · exact .inr ⟨built, s', rfl, judged.symm⟩

/-- The work on a group ends as the first verdict on what is kept of it says. -/
theorem run_buildStops_judged (judges : encoder.Judges verdict) (place : Nat)
    (stops : List (Stop R)) (staging : Staging Built) (s : σ) :
    ((encoder.buildStops (pure false) place stops staging).run.run s).1.map
        (Option.map fun staging => (staging.staged.map Emission.key, staging.videoSeen)) =
      (judge verdict (keptFrom staging.videoSeen (stops.map (ofStop place)))).map fun _ =>
        some (staging.staged.map Emission.key ++
            (keptFrom staging.videoSeen (stops.map (ofStop place))).map key,
          staging.videoSeen || stops.any fun stop => stop.element.isVideo) := by
  induction stops generalizing staging s with
  | nil =>
    have ends : (encoder.buildStops (pure false) place [] staging).run.run s =
        (.ok (some staging), s) := rfl
    simp [ends, keptFrom, judge, Except.map]
  | cons stop rest ih =>
    have looks : (pure false : StateM σ Bool).run s = (false, s) := rfl
    have visited : (ofStop place stop).element = stop.element := rfl
    rw [buildStops, run_ok_bind (run_lift looks), if_neg Bool.false_ne_true, List.map_cons,
      keptFrom, visited]
    by_cases extra : (stop.element.isVideo && staging.videoSeen) = true
    · obtain ⟨_, seen⟩ := Bool.and_eq_true_iff.mp extra
      rw [if_pos extra, if_pos extra, ih, seen, Bool.true_or, Bool.true_or]
    · rw [if_neg extra, if_neg extra]
      rcases judges.cases stop.element s with ⟨e, s', builds, fails⟩ | ⟨built, s', builds, passes⟩
      · rw [run_error_bind builds, judge, visited, fails]
        rfl
      · rw [run_ok_bind builds, ih, judge, visited, passes, List.any_cons, Bool.or_assoc]
        simp [ofStop]
        rfl

variable [Scalar R]

/-- A walk ends as the first verdict on what is kept of it says, and otherwise emits all of that. -/
theorem run_visitFrom_judged (judges : encoder.Judges verdict) (place : Nat)
    (groups : List (Group R)) (walk : Walk Context Built) (s : σ) :
    ((encoder.visitFrom (pure false) place groups walk).run.run s).1.map
        (Prod.map (fun walk => walk.emitted.map Emission.key) id) =
      let visits := keptFrom walk.videoSeen
        ((groups.zipIdx place).flatMap fun (group, place) => tourOf place group)
      (judge verdict visits).map fun _ =>
        (walk.emitted.map Emission.key ++ visits.map key, false) := by
  induction groups generalizing place walk s with
  | nil =>
    have ends : (encoder.visitFrom (pure false) place [] walk).run.run s =
        (.ok (walk, false), s) := rfl
    simp [ends, keptFrom, judge, Except.map]
  | cons group rest ih =>
    have looks : (pure false : StateM σ Bool).run s = (false, s) := rfl
    have judged := run_buildStops_judged judges place (Stop.visiting group.elements)
      { videoSeen := walk.videoSeen } s
    generalize builds : (encoder.buildStops (pure false) place (Stop.visiting group.elements)
      { videoSeen := walk.videoSeen }).run.run s = result at judged
    obtain ⟨result, s₁⟩ := result
    simp only [List.zipIdx_cons, List.flatMap_cons, keptFrom_append, judge_append, tourOf]
    rcases cases_of_map_eq judged with ⟨e, rfl, fails⟩ | ⟨_ | staging, _, rfl, passes, same⟩
    · rw [fails, visitFrom, run_ok_bind (run_lift looks), if_neg Bool.false_ne_true,
        run_error_bind builds]
      rfl
    · cases same
    · obtain ⟨staged, seen⟩ := Prod.mk.inj (Option.some.inj same)
      generalize emits : (encoder.emitAll staging.staged walk.context).run s₁ = emitted
      obtain ⟨context, s₂⟩ := emitted
      rw [run_visitFrom_cons looks builds emits, ih, passes]
      simp only [List.map_append, staged, seen, List.map_nil, List.nil_append, List.append_assoc,
        List.any_map]
      rfl

/-- A walk fails with the first failure of the tour, or emits the tour without the extra videos. -/
theorem run_visit_judged (judges : encoder.Judges verdict) (groups : List (Group R))
    (context : Context) (s : σ) :
    ((encoder.visit (pure false) groups context).run.run s).1.map
        (Prod.map (fun walk => walk.emitted.map Emission.key) id) =
      (judge verdict (keptFrom false (tour groups))).map fun _ =>
        ((keptFrom false (tour groups)).map key, false) :=
  run_visitFrom_judged judges 0 groups { context } s

end Encoder

/-! ## Runs with standard steps -/

section Runs

open Traversal StandardStep

variable [Scalar R] {steps : List (StandardStep (StateM σ) R)}
  {encoder : Encoder (StateM σ) R Context Built}

theorem encodeGroups_pipeline (context : StepContext R) (result : Context) :
    encodeGroups (pipeline steps) encoder (pure false) context result =
      (fun (walk, cancelled) =>
        ({ context with groups := prepared steps context.groups }, walk, cancelled)) <$>
        encoder.visit (pure false) (prepared steps context.groups) result := by
  simp only [encodeGroups, liftM_pure, pure_bind, Bool.false_eq_true, if_false, runOn_preGenerate,
    runOn_postProcess, map_eq_pure_bind]
  rfl

theorem run_runOn_postGenerate (context : StepContext R) (s : σ) :
    ((pipeline steps).runOn .postGenerate context).run.run s =
      (.ok context, ((deliverAll steps context.assets).run s).2) := by
  rw [runOn_postGenerate]
  rfl

omit [Scalar R] in
theorem bare_elements (emitted : List (Emission Built)) :
    ((emitted.map fun e => (e.key, e.built)).mergeSort fun a b => a.1.le b.1).map
        (fun (key, _) => (key, ())) =
      ((emitted.map Emission.key).map fun key => (key, ())).mergeSort fun a b => a.1.le b.1 := by
  refine (List.map_mergeSort (s := fun a b : ElementKey × Unit => a.1.le b.1)
    fun _ _ _ _ => rfl).trans ?_
  rw [List.map_map, List.map_map]
  rfl

/-- Runs of the same scripts come to the same if they do from every harvest on: steps that only draw
sprites anew have no say before. -/
theorem map_run_traced_congr {Context' Built' δ : Type} {options : RunOptions}
    {scripts : List (Script (StateM σ) R)} {steps' : List (StandardStep (StateM σ) R)}
    {encoder' : Encoder (StateM σ) R Context' Built'} {p : Outcome Context Built × Trace R → δ}
    {q : Outcome Context' Built' × Trace R → δ} (same : others steps = others steps')
    (each : ∀ before harvest s,
      ((tracedFrom options (pipeline steps) encoder (pure false) before harvest).run.run
          s).1.map p =
        ((tracedFrom options (pipeline steps') encoder' (pure false) before harvest).run.run
          s).1.map q) (s : σ) :
    ((traced options scripts (pipeline steps) encoder (pure false)).run.run s).1.map p =
      ((traced options scripts (pipeline steps') encoder' (pure false)).run.run s).1.map q := by
  have ready : (pipeline steps).runOn .preProcess {} = (pipeline steps').runOn .preProcess {} := by
    have early : Phase.preProcess ≠ .postProcess := nofun
    rw [← runOn_others {} steps early, same, runOn_others {} steps' early]
  rw [traced, traced, ready]
  refine map_run_bind_congr (fun before s => ?_) s
  split_ifs
  · rfl
  · exact map_run_bind_congr (fun runs s => each before (.ofRuns runs) s) s

variable {verdict : Element R → Except Failure Unit}

/-- A run of standard steps, apart from what is built. -/
theorem run_tracedFrom_judged (judges : encoder.Judges verdict) (options : RunOptions)
    (steps : List (StandardStep (StateM σ) R)) (before : StepContext R) (harvest : Harvest R)
    (s : σ) :
    ((tracedFrom options (pipeline steps) encoder (pure false) before harvest).run.run s).1.map
        (Prod.map Outcome.bare id) =
      let groups := prepared steps (Group.ranked options.groupOrder harvest.groups)
      let visits := Visit.keptFrom false (Visit.tour groups)
      (Visit.judge verdict visits).map fun _ =>
        ({ result := ()
           elements := (visits.map fun visit => (visit.key, ())).mergeSort fun a b => a.1.le b.1
           groups := Group.names groups
           faulted := before.faulted ++ harvest.faulted
           faults := harvest.faults
           assets := before.assets ++ harvest.assets
           cancelled := false }, ⟨groups, visits.map Visit.key⟩) := by
  generalize chosen : prepared steps (Group.ranked options.groupOrder harvest.groups) = groups
  have context : prepared steps (harvest.toContext options.groupOrder before).groups = groups :=
    chosen
  generalize starts : encoder.start.run s = first
  obtain ⟨first, s₁⟩ := first
  rw [tracedFrom, run_ok_bind (run_lift starts), encodeGroups_pipeline, context, bind_map_left]
  have judged := Encoder.run_visit_judged judges groups first s₁
  generalize visits : (encoder.visit (pure false) groups first).run.run s₁ = result at judged
  obtain ⟨result, s₂⟩ := result
  rcases cases_of_map_eq judged with ⟨e, rfl, fails⟩ | ⟨⟨walk, cancelled⟩, _, rfl, passes, same⟩
  · rw [run_error_bind visits]
    simp only [fails]
    rfl
  · obtain ⟨order, rfl⟩ := Prod.mk.inj same
    rw [run_ok_bind visits]
    generalize finishes : (encoder.finish walk.context).run s₂ = last
    obtain ⟨last, s₃⟩ := last
    simp only [Bool.false_eq_true, if_false, passes]
    rw [run_ok_bind (run_lift finishes), run_ok_bind (run_runOn_postGenerate _ _)]
    have keys : walk.emitted.map Emission.key = (Visit.keptFrom false (Visit.tour groups)).map
        Visit.key := order
    have ends (outcome : Outcome Context Built) (trace : Trace R) (s : σ) :
        (pure (outcome, trace) : ExceptT Failure (StateM σ) _).run.run s =
          (.ok (outcome, trace), s) := rfl
    rw [ends]
    simp only [Except.map, Prod.map, Outcome.bare, bare_elements, id, keys, List.map_map]
    rfl

/-- A run of standard steps that are ready comes to its end if every verdict is good. -/
theorem exists_run_generate (judges : encoder.Judges verdict) {options : RunOptions}
    {scripts : List (Script (StateM σ) R)} {before : StepContext R} {s s' : σ}
    (ready : ((pipeline steps).runOn .preProcess {}).run.run s = (.ok before, s'))
    (allowed : options.threads ≠ some 0)
    (passes : Visit.judge verdict (Visit.keptFrom false (Visit.tour (prepared steps
      (Group.ranked options.groupOrder
        (Harvest.ofRuns ((runScripts scripts).run s').1).groups)))) = .ok ()) :
    ∃ outcome last, (generate options scripts (pipeline steps) encoder (pure false)).run.run s =
      (.ok outcome, last) ∧ outcome.cancelled = false := by
  have judged := run_tracedFrom_judged judges options steps before
    (.ofRuns ((runScripts scripts).run s').1) ((runScripts scripts).run s').2
  rw [← run_traced_of_ready ready allowed] at judged
  simp only [passes] at judged
  generalize runs : (traced options scripts (pipeline steps) encoder (pure false)).run.run s =
    result at judged
  obtain ⟨result, last⟩ := result
  rcases cases_of_map_eq judged with ⟨e, -, fails⟩ | ⟨⟨outcome, trace⟩, _, rfl, -, same⟩
  · cases fails
  · refine ⟨outcome, last, ?_, congrArg (fun result => result.1.cancelled) same⟩
    rw [generate_eq_map_traced, ← bind_pure_comp, run_ok_bind runs]
    rfl

end Runs

end Storyboard
