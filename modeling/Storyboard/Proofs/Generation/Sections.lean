import Storyboard.Proofs.Generation.Verdict

/-! # What sections hold

After a run that came to its end, every section of event text and every layer of a preview holds
what was built for its elements, in the order of the tour. The formats do not route alike: samples
have a section of their own in event text, and lie on their layers in a preview.
-/

namespace Storyboard

open Traversal

variable {σ R Context Built : Type} [Scalar R]

/-! ## Runs of plain encoders -/

/-- A run of a plain encoder that came to its end has built the tour without the extra videos. -/
theorem Encoder.Plain.run_generate {encoder : Encoder (StateM σ) R Context Built} {first : Context}
    {product : Element R → Built} {add : Context → Layer → Built → Context}
    (plain : encoder.Plain first product add) {options : RunOptions}
    {scripts : List (Script (StateM σ) R)} {pipeline : Pipeline (StateM σ) R}
    {isCancelled : StateM σ Bool} {outcome : Outcome Context Built} {s s' : σ}
    (runs : (generate options scripts pipeline encoder isCancelled).run.run s = (.ok outcome, s'))
    (whole : outcome.cancelled = false) :
    ∃ trace, (traced options scripts pipeline encoder isCancelled).run.run s =
        (.ok (outcome, trace), s') ∧
      let visits := Visit.keptFrom false (Visit.tour trace.visited)
      (∀ visit ∈ visits, visit.element.check = .ok ()) ∧ trace.order = visits.map Visit.key ∧
        outcome.result = visits.foldl
          (fun context visit => add context visit.element.layer (product visit.element)) first := by
  obtain ⟨trace, runs⟩ := exists_trace_of_run_generate runs
  obtain ⟨start, walk, s₁, s₂, s₃, s₄, s₅, starts, visits, finishes, order⟩ :=
    visit_of_run_traced runs whole
  rw [plain.start] at starts
  cases starts
  rw [plain.finish] at finishes
  obtain ⟨result, -⟩ := Prod.mk.inj finishes
  obtain ⟨checked, emitted, context⟩ := plain.run_visitFrom visits
  refine ⟨trace, runs, checked, ?_, result.symm.trans context⟩
  rw [order, emitted, List.nil_append, List.map_map]
  rfl

/-! ## Event text -/

def Element.isSample : Element R → Bool
  | .sample _ => true
  | _ => false

omit [Scalar R] in
theorem Element.section_eq_layer_iff {e : Element R} {layer : Layer} :
    e.section = .layer layer ↔ (e.sprite?.isSome && decide (e.layer = layer)) = true := by
  rw [Bool.and_eq_true_iff, decide_eq_true_iff]
  cases e <;> simp [Element.section, sprite?, Element.layer]

omit [Scalar R] in
theorem Element.section_eq_samples_iff {e : Element R} :
    e.section = .samples ↔ e.isSample = true := by
  cases e <;> simp [Element.section, isSample]

omit [Scalar R] in
theorem Element.section_eq_video_iff {e : Element R} : e.section = .video ↔ e.isVideo = true := by
  cases e <;> simp [Element.section, isVideo]

/-- The text of an element without commands is its line. -/
theorem Element.text_block_of_isSample_or_isVideo {e : Element R}
    (plain : e.isSample = true ∨ e.isVideo = true) : e.block.text = e.headerLine := by
  have spriteless : e.sprite? = none := by
    cases e with
    | sample _ | video _ => rfl
    | sprite _ | animation _ => rcases plain with sample | video <;> contradiction
  have text := e.headerLine_append_bodyText
  rw [spriteless] at text
  exact text.symm.trans String.append_empty

/-- A section is the join of the texts of the visits that belong to it. -/
theorem EventDocument.get_foldl_blocks (visits : List (Visit R)) (place : Section) :
    (visits.foldl (fun d visit => d.append visit.element.block) ({} : EventDocument)).get place =
      String.join ((visits.filter fun visit => visit.element.section = place).map
        fun visit => visit.element.block.text) := by
  have lines := EventDocument.get_foldl_append (visits.map Visit.element) {} place
  rw [List.foldl_map, Section.select, List.filter_map, List.filter_map] at lines
  simp only [Function.comp_def, Element.section_record] at lines
  have empty : ({} : EventDocument).get place = "" := by cases place <;> simp [get]
  have each (visit : Visit R) : visit.element.block.text = unlines visit.element.record.lines := rfl
  rw [lines, empty, String.empty_append, join_map_eq_unlines each]
  simp only [List.flatMap_map]

/-! ## Previews -/

omit [Scalar R] in
/-- A node other than a video goes to the end of its layer. -/
theorem PreviewGraph.get_add_node (graph : PreviewGraph R) (e : Element R) (layer other : Layer) :
    (graph.add layer e.node).layers.get other =
      graph.layers.get other ++ if !e.isVideo && layer = other then [e.node] else [] := by
  have appended (node : PreviewNode R) :
      (graph.layers.modify (fun nodes => nodes ++ [node]) layer).get other =
        graph.layers.get other ++ if layer = other then [node] else [] := by
    rw [PerLayer.get_modify]
    by_cases same : layer = other
    · rw [if_pos same, if_pos same.symm]
    · rw [if_neg same, if_neg (Ne.symm same), List.append_nil]
  cases e with
  | video v => simp [add, Element.node, Element.isVideo]
  | sample a => simpa [add, Element.node, Element.isVideo] using appended _
  | sprite s => simpa [add, Element.node, Element.isVideo] using appended _
  | animation a => simpa [add, Element.node, Element.isVideo] using appended _

omit [Scalar R] in
/-- A layer has the nodes of the visits to it, but for videos. -/
theorem PreviewGraph.get_foldl_add (visits : List (Visit R)) (graph : PreviewGraph R)
    (layer : Layer) :
    (visits.foldl (fun g visit => g.add visit.element.layer visit.element.node)
        graph).layers.get layer =
      graph.layers.get layer ++
        (visits.filter fun visit => !visit.element.isVideo && visit.element.layer = layer).map
          fun visit => visit.element.node := by
  induction visits generalizing graph with
  | nil => simp
  | cons visit rest ih =>
    rw [List.foldl_cons, ih, get_add_node, List.append_assoc, List.filter_cons]
    split_ifs <;> rfl

omit [Scalar R] in
/-- The video is the one that was added last. -/
theorem PreviewGraph.video_foldl_add (visits : List (Visit R)) (graph : PreviewGraph R) :
    (visits.foldl (fun g visit => g.add visit.element.layer visit.element.node) graph).video.map
        PreviewNode.video =
      ((visits.filter fun visit => visit.element.isVideo).getLast?.map
        fun visit => visit.element.node).or (graph.video.map .video) := by
  induction visits using List.reverseRecOn with
  | nil => simp
  | append_singleton earlier last ih =>
    rw [List.foldl_concat]
    cases here : last.element with
    | video v => simp [here, Element.node, add, Element.isVideo]
    | sample a => simpa [here, Element.node, add, Element.isVideo] using ih
    | sprite s => simpa [here, Element.node, add, Element.isVideo] using ih
    | animation a => simpa [here, Element.node, add, Element.isVideo] using ih

/-! ## Both formats -/

/-- Of a list that has at most one such element, the filter keeps the first one found. -/
theorem filter_eq_toList_find? {α : Type} {p : α → Bool} {list : List α}
    (one : list.countP p ≤ 1) : list.filter p = (list.find? p).toList := by
  rw [List.countP_eq_length_filter] at one
  rw [← List.head?_filter]
  generalize list.filter p = found at one
  cases found with
  | nil => rfl
  | cons a rest =>
    obtain rfl : rest = [] := List.eq_nil_of_length_eq_zero (by simpa using one)
    rfl

/-- The visits that a run makes to groups: all elements in order, but of the videos the first one
only. -/
structure Visit.Kept (groups : List (Group Double)) (visits : List (Visit Double)) : Prop where
  toured : visits = kept (tour groups)
  ordered : visits.Pairwise Precedes
  declared : ∀ visit ∈ visits, visit ∈ declared groups
  others : ∀ visit ∈ Visit.declared groups, visit.element.isVideo = false → visit ∈ visits
  videos : visits.countP (fun visit => visit.element.isVideo) =
    min 1 ((Visit.declared groups).countP fun visit => visit.element.isVideo)

/-- What is kept of a walk is in its order, with one video at most. -/
theorem Visit.kept_keptFrom (groups : List (Group Double)) :
    Kept groups (keptFrom false (tour groups)) := by
  have toured := keptFrom_false (nodup_keys_tour groups)
  have part : (kept (tour groups)).Sublist (tour groups) := List.filter_sublist
  have whole := perm_tour groups
  refine ⟨toured, ?_, ?_, ?_, ?_⟩
  · rw [toured]
    exact (pairwise_tour groups).sublist part
  · intro visit member
    exact whole.mem_iff.mp (mem_of_mem_keptFrom member)
  · intro visit member still
    rw [toured]
    refine List.mem_filter.mpr ⟨whole.mem_iff.mpr member, ?_⟩
    rw [still]
    rfl
  · rw [countP_keptFrom, if_neg Bool.false_ne_true, whole.countP_eq]

/-- A document holds the blocks of visits, each in its section and in their order. -/
structure EventDocument.Holds (document : EventDocument) (visits : List (Visit R)) : Prop where
  built : ∀ visit ∈ visits, visit.element.eventBlock = .ok visit.element.block
  /-- Where sections of layers are numbered in drawing order, each is the blocks of its sprites and
  animations. -/
  layers : ∀ layer : Layer, (Layer.all.map document.layers.get)[layer.index]? =
    some (String.join ((visits.filter fun visit =>
      visit.element.sprite?.isSome && visit.element.layer = layer).map
        fun visit => visit.element.block.text))
  samples : document.samples =
    String.join ((visits.filter fun visit => visit.element.isSample).map
      fun visit => visit.element.headerLine)
  video : document.video =
    ((visits.find? fun visit => visit.element.isVideo).map
      fun visit => visit.element.headerLine).getD ""

/-- A preview holds the nodes of visits, each on its layer and in their order. -/
structure PreviewGraph.Holds (graph : PreviewGraph R) (visits : List (Visit R)) : Prop where
  built : ∀ visit ∈ visits, visit.element.previewNode = .ok visit.element.node
  /-- Where layers are numbered in drawing order, each is the nodes of everything on it. -/
  layers : ∀ layer : Layer, (Layer.all.map graph.layers.get)[layer.index]? =
    some ((visits.filter fun visit =>
      !visit.element.isVideo && visit.element.layer = layer).map fun visit => visit.element.node)
  video : graph.video.map PreviewNode.video =
    (visits.find? fun visit => visit.element.isVideo).map fun visit => visit.element.node

theorem Layer.getElem?_map_all {α : Type} (f : Layer → α) (layer : Layer) :
    (all.map f)[layer.index]? = some (f layer) := by
  cases layer <;> rfl

variable {visits : List (Visit R)}
  (one : visits.countP (fun visit => visit.element.isVideo) ≤ 1)
  (checked : ∀ visit ∈ visits, visit.element.check = .ok ())
include one checked

/-- Appending the blocks of visits in turn gives a document that holds them. -/
theorem EventDocument.holds_foldl :
    (visits.foldl (fun d visit => d.append visit.element.block) ({} : EventDocument)).Holds
      visits := by
  have parts := get_foldl_blocks visits
  refine ⟨?_, ?_, ?_, ?_⟩
  · intro visit member
    rw [Element.eventBlock_eq, checked visit member]
    rfl
  · intro layer
    have part := parts (.layer layer)
    simp only [Element.section_eq_layer_iff, Bool.decide_eq_true] at part
    rw [Layer.getElem?_map_all, ← part]
    rfl
  · have part := parts .samples
    simp only [Element.section_eq_samples_iff, Bool.decide_eq_true] at part
    refine part.trans (congrArg String.join (List.map_congr_left fun visit member => ?_))
    exact Element.text_block_of_isSample_or_isVideo (.inl (List.mem_filter.mp member).2)
  · have part := parts .video
    simp only [Element.section_eq_video_iff, Bool.decide_eq_true,
      filter_eq_toList_find? one] at part
    refine part.trans ?_
    cases found : visits.find? fun visit => visit.element.isVideo with
    | none => rfl
    | some visit =>
      have video : visit.element.isVideo = true :=
        List.find?_some (p := fun visit : Visit R => visit.element.isVideo) found
      simp [Element.text_block_of_isSample_or_isVideo (.inr video)]

/-- Adding the nodes of visits in turn gives a graph that holds them. -/
theorem PreviewGraph.holds_foldl :
    (visits.foldl (fun g visit => g.add visit.element.layer visit.element.node)
      ({} : PreviewGraph R)).Holds visits := by
  refine ⟨?_, ?_, ?_⟩
  · intro visit member
    rw [Element.previewNode_eq, checked visit member]
    rfl
  · intro layer
    rw [Layer.getElem?_map_all, get_foldl_add]
    simp
  · rw [video_foldl_add, filter_eq_toList_find? one]
    cases visits.find? fun visit => visit.element.isVideo <;> rfl

omit one checked

/-- A run with either format that comes to its end visits the groups that are left, all elements in
order, and leaves a result that holds what was built of them, section by section. -/
theorem sections_of_generate (options : RunOptions) (scripts : List (Script (StateM σ) Double))
    (pipeline : Pipeline (StateM σ) Double) (isCancelled : StateM σ Bool) (s : σ) :
    (∀ outcome last,
        (generate options scripts pipeline EventDocument.encoder isCancelled).run.run s =
          (.ok outcome, last) →
        outcome.cancelled = false →
        ∃ trace visits,
          (traced options scripts pipeline EventDocument.encoder isCancelled).run.run s =
            (.ok (outcome, trace), last) ∧
          Visit.Kept trace.visited visits ∧ trace.order = visits.map Visit.key ∧
          outcome.result.Holds visits) ∧
      ∀ outcome last,
        (generate options scripts pipeline PreviewGraph.encoder isCancelled).run.run s =
          (.ok outcome, last) →
        outcome.cancelled = false →
        ∃ trace visits,
          (traced options scripts pipeline PreviewGraph.encoder isCancelled).run.run s =
            (.ok (outcome, trace), last) ∧
          Visit.Kept trace.visited visits ∧ trace.order = visits.map Visit.key ∧
          outcome.result.Holds visits := by
  have one (groups : List (Group Double)) :
      (Visit.keptFrom false (Visit.tour groups)).countP (fun visit => visit.element.isVideo) ≤ 1 :=
    (Visit.kept_keptFrom groups).videos.trans_le (min_le_left 1 _)
  constructor
  · intro outcome last runs whole
    obtain ⟨trace, runs, checked, order, result⟩ := EventDocument.plain.run_generate runs whole
    refine ⟨trace, _, runs, Visit.kept_keptFrom trace.visited, order, ?_⟩
    rw [result]
    exact EventDocument.holds_foldl (one trace.visited) checked
  · intro outcome last runs whole
    obtain ⟨trace, runs, checked, order, result⟩ := PreviewGraph.plain.run_generate runs whole
    refine ⟨trace, _, runs, Visit.kept_keptFrom trace.visited, order, ?_⟩
    rw [result]
    exact PreviewGraph.holds_foldl (one trace.visited) checked

/-- Two groups with a sprite and a sound on one layer, and with a video each. -/
theorem sections_of_generate_stage :
    let lamp : Element Double :=
      .sprite { path := "lamp.png", layer := .overlay, initialPosition := ⟨⟨0⟩, ⟨0⟩⟩ }
    let song : Element Double := .sample ⟨"song.mp3", .overlay, ⟨0⟩, ⟨0⟩⟩
    let film (path : String) : Element Double := .video ⟨path, ⟨0⟩⟩
    let groups : List (Group Double) :=
      [{ name := "front", elements := [song, film "one.mp4", lamp] },
        { name := "back", elements := [film "two.mp4"] }]
    let script : Script (StateM Unit) Double :=
      ⟨"stage", ExceptT.mk fun out => pure (.ok (), { out with groups })⟩
    let steps : List (StandardStep (StateM Unit) Double) := [.filter none false]
    (∃ (text : Outcome EventDocument EventBlock) (last : Unit) (visits : List (Visit Double)),
      (generate {} [script] (StandardStep.pipeline steps) EventDocument.encoder
        (pure false)).run.run () = (.ok text, last) ∧ text.result.Holds visits) ∧
      ∃ (preview : Outcome (PreviewGraph Double) (PreviewNode Double)) (last : Unit)
        (visits : List (Visit Double)),
        (generate {} [script] (StandardStep.pipeline steps) PreviewGraph.encoder
          (pure false)).run.run () = (.ok preview, last) ∧ preview.result.Holds visits := by
  intro lamp song film groups script steps
  have fine : ∀ e ∈ groups.flatMap Group.elements, e.check = .ok () := by
    have blank := List.forall_mem_nil fun e : Element Double => e.check = .ok ()
    simp only [groups, List.flatMap_cons, List.flatMap_nil, List.forall_mem_append,
      List.forall_mem_cons]
    exact ⟨⟨rfl, rfl, rfl, blank⟩, ⟨rfl, blank⟩, blank⟩
  have passes : Visit.judge Element.check (Visit.keptFrom false (Visit.tour groups)) = .ok () :=
    Visit.judge_eq_ok fun visit member =>
      fine _ ((Visit.map_element_tour_perm groups).mem_iff.mp
        (List.mem_map_of_mem (Visit.mem_of_mem_keptFrom member)))
  have ready : ((StandardStep.pipeline steps).runOn .preProcess {}).run.run () = (.ok {}, ()) := rfl
  have allowed : ({} : RunOptions).threads ≠ some 0 := nofun
  have left : StandardStep.prepared steps (Group.ranked ({} : RunOptions).groupOrder
      (Harvest.ofRuns ((runScripts [script]).run ()).1).groups) = groups := rfl
  rw [← left] at passes
  obtain ⟨sections, layers⟩ := sections_of_generate {} [script] (StandardStep.pipeline steps)
    (pure false) ()
  obtain ⟨text, last, runs, whole⟩ :=
    exists_run_generate EventDocument.plain.judges ready allowed passes
  obtain ⟨_, visits, -, -, -, holds⟩ := sections text last runs whole
  obtain ⟨preview, last', runs', whole'⟩ :=
    exists_run_generate PreviewGraph.plain.judges ready allowed passes
  obtain ⟨_, visits', -, -, -, holds'⟩ := layers preview last' runs' whole'
  exact ⟨⟨text, last, visits, runs, holds⟩, preview, last', visits', runs', holds'⟩

end Storyboard
