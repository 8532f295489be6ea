import Mathlib.Data.List.Forall2

/-! # Runs in a state

What actions in a row come to, with failures and without. Where the elements of a loop work on
different parts of a store, each of them finds its part as it was before the loop, so the loop is
described element by element.
-/

namespace Storyboard

namespace Traversal

variable {σ α β : Type}

theorem run_bind (x : StateM σ α) (f : α → StateM σ β) (s : σ) :
    (x >>= f).run s = (f (x.run s).1).run (x.run s).2 := rfl

theorem run_map {x : StateM σ α} {a : α} {s s' : σ} (ran : x.run s = (a, s')) (f : α → β) :
    (f <$> x).run s = (f a, s') := by
  change (f (x.run s).1, (x.run s).2) = _
  rw [ran]

theorem run_ok_bind {ε : Type} {x : ExceptT ε (StateM σ) α} {f : α → ExceptT ε (StateM σ) β} {a : α}
    {s s' : σ} (ran : x.run.run s = (.ok a, s')) : (x >>= f).run.run s = (f a).run.run s' := by
  change (ExceptT.bindCont f (x.run.run s).1).run (x.run.run s).2 = _
  rw [ran]
  rfl

theorem run_error_bind {ε : Type} {x : ExceptT ε (StateM σ) α} {f : α → ExceptT ε (StateM σ) β}
    {e : ε} {s s' : σ} (ran : x.run.run s = (.error e, s')) :
    (x >>= f).run.run s = (.error e, s') := by
  change (ExceptT.bindCont f (x.run.run s).1).run (x.run.run s).2 = _
  rw [ran]
  rfl

/-- A first part can stand for another one that comes to the same, from another state. -/
theorem run_bind_congr_left {ε : Type} {x y : ExceptT ε (StateM σ) α} {s s' : σ}
    (same : x.run.run s = y.run.run s') (f : α → ExceptT ε (StateM σ) β) :
    (x >>= f).run.run s = (y >>= f).run.run s' := by
  change (ExceptT.bindCont f (x.run.run s).1).run (x.run.run s).2 = _
  rw [same]
  rfl

/-- What is known of a whole that succeeded is that its parts did. -/
theorem run_bind_eq_ok {ε : Type} {x : ExceptT ε (StateM σ) α} {f : α → ExceptT ε (StateM σ) β}
    {b : β} {s s' : σ} (ran : (x >>= f).run.run s = (.ok b, s')) :
    ∃ a s₁, x.run.run s = (.ok a, s₁) ∧ (f a).run.run s₁ = (.ok b, s') := by
  generalize first : x.run.run s = result
  obtain ⟨failure | a, s₁⟩ := result
  · cases (run_error_bind first).symm.trans ran
  · exact ⟨a, s₁, rfl, (run_ok_bind first).symm.trans ran⟩

theorem run_lift {ε : Type} {x : StateM σ α} {a : α} {s s' : σ} (ran : x.run s = (a, s')) :
    (liftM x : ExceptT ε (StateM σ) α).run.run s = (.ok a, s') := by
  change (Except.ok (x.run s).1, (x.run s).2) = _
  rw [ran]

theorem run_eq_of_run_lift {ε : Type} {x : StateM σ α} {a : α} {s s' : σ}
    (ran : (liftM x : ExceptT ε (StateM σ) α).run.run s = (.ok a, s')) : x.run s = (a, s') := by
  change (Except.ok (x.run s).1, (x.run s).2) = _ at ran
  obtain ⟨result, state⟩ := Prod.mk.inj ran
  exact Prod.ext (Except.ok.inj result) state

/-- Results that agree when they are mapped are failures of one kind, or successes. -/
theorem cases_of_map_eq {ε γ : Type} {x : Except ε α} {y : Except ε β} {f : α → γ} {g : β → γ}
    (same : x.map f = y.map g) :
    (∃ e, x = .error e ∧ y = .error e) ∨ ∃ a b, x = .ok a ∧ y = .ok b ∧ f a = g b := by
  cases x with
  | error e =>
    cases y with
    | error e' =>
      cases same
      exact .inl ⟨e, rfl, rfl⟩
    | ok b => cases same
  | ok a =>
    cases y with
    | error e => cases same
    | ok b => exact .inr ⟨a, b, rfl, rfl, Except.ok.inj same⟩

/-- Wholes with one first part come to the same if their second parts do, in all states. -/
theorem map_run_bind_congr {ε γ δ : Type} {x : ExceptT ε (StateM σ) α}
    {f : α → ExceptT ε (StateM σ) β} {g : α → ExceptT ε (StateM σ) γ} {p : β → δ} {q : γ → δ}
    (each : ∀ a s, ((f a).run.run s).1.map p = ((g a).run.run s).1.map q) (s : σ) :
    ((x >>= f).run.run s).1.map p = ((x >>= g).run.run s).1.map q := by
  generalize ran : x.run.run s = result
  obtain ⟨e | a, s'⟩ := result
  · rw [run_error_bind ran, run_error_bind ran]
    rfl
  · rw [run_ok_bind ran, run_ok_bind ran, each]

theorem run_mapM_nil (f : α → StateM σ β) (s : σ) : ([].mapM f).run s = ([], s) := rfl

theorem run_mapM_cons (f : α → StateM σ β) (a : α) (rest : List α) (s : σ) :
    ((a :: rest).mapM f).run s =
      (((f a).run s).1 :: ((rest.mapM f).run ((f a).run s).2).1,
        ((rest.mapM f).run ((f a).run s).2).2) := by
  rw [List.mapM_cons]
  rfl

/-- A loop that never changes the state. -/
theorem run_mapM_still {f : α → StateM σ β} {g : α → β} {list : List α} {s : σ}
    (still : ∀ a ∈ list, (f a).run s = (g a, s)) : (list.mapM f).run s = (list.map g, s) := by
  induction list with
  | nil => rfl
  | cons a rest ih =>
    rw [run_mapM_cons, still a List.mem_cons_self,
      ih fun b member => still b (List.mem_cons_of_mem _ member), List.map_cons]

/-- What holds of every single result, in whatever state, holds of all results of a loop. -/
theorem forall₂_mapM {related : α → β → Prop} {f : α → StateM σ β}
    (each : ∀ a s, related a ((f a).run s).1) (list : List α) (s : σ) :
    List.Forall₂ related list ((list.mapM f).run s).1 := by
  induction list generalizing s with
  | nil => exact .nil
  | cons a rest ih =>
    rw [run_mapM_cons]
    exact .cons (each a s) (ih _)

/-- Two loops in a row relate what the second one yields to what the first one got. -/
theorem forall₂_chain {γ : Type} {first : α → β → Prop} {second : β → γ → Prop}
    {related : α → γ → Prop} (both : ∀ a b c, first a b → second b c → related a c)
    {as : List α} {bs : List β} {cs : List γ} (left : List.Forall₂ first as bs)
    (right : List.Forall₂ second bs cs) : List.Forall₂ related as cs := by
  induction left generalizing cs with
  | nil =>
    cases right
    exact .nil
  | cons head _ ih =>
    cases right with
    | cons head' rest => exact .cons (both _ _ _ head head') (ih rest)

/-- What a list holds comes from an element that it is related to. -/
theorem origin_of_forall₂ {related : α → β → Prop} {as : List α} {bs : List β}
    (each : List.Forall₂ related as bs) {b : β} (member : b ∈ bs) : ∃ a ∈ as, related a b := by
  induction each with
  | nil => cases member
  | cons head _ ih =>
    rcases List.mem_cons.mp member with rfl | later
    · exact ⟨_, List.mem_cons_self, head⟩
    · obtain ⟨a, present, same⟩ := ih later
      exact ⟨a, List.mem_cons_of_mem _ present, same⟩

theorem image_of_forall₂ {related : α → β → Prop} {as : List α} {bs : List β}
    (each : List.Forall₂ related as bs) {a : α} (member : a ∈ as) : ∃ b ∈ bs, related a b :=
  origin_of_forall₂ (List.Forall₂.flip each) member

/-- Every result of a loop is that of an element, in some state. -/
theorem origin_of_mapM {f : α → StateM σ β} {list : List α} {s : σ} {b : β}
    (member : b ∈ ((list.mapM f).run s).1) : ∃ a ∈ list, ∃ s, b = ((f a).run s).1 := by
  have each : List.Forall₂ (fun a b => ∃ s, b = ((f a).run s).1) list ((list.mapM f).run s).1 :=
    forall₂_mapM (fun _ s => ⟨s, rfl⟩) list s
  exact origin_of_forall₂ each member

theorem map_eq_of_forall₂ {γ : Type} {related : α → β → Prop} {f : α → γ} {g : β → γ}
    (same : ∀ a b, related a b → g b = f a) {as : List α} {bs : List β}
    (each : List.Forall₂ related as bs) : bs.map g = as.map f := by
  induction each with
  | nil => rfl
  | cons head _ ih => rw [List.map_cons, List.map_cons, same _ _ head, ih]

variable {K V : Type}

/-- An action on a store that reads and writes only what it touches. -/
structure Local (f : α → StateM (K → V) β) (touches : α → K → Prop) : Prop where
  /-- Nothing else is written. -/
  frame : ∀ a F k, ¬ touches a k → ((f a).run F).2 k = F k
  /-- Nothing else decides the result and what is written. -/
  determined : ∀ a F G, (∀ k, touches a k → F k = G k) →
    ((f a).run F).1 = ((f a).run G).1 ∧
      ∀ k, touches a k → ((f a).run F).2 k = ((f a).run G).2 k

/-- A loop whose elements touch different parts of the store: every element has the effect that it
has on its own, and what nobody touches stays. -/
theorem Local.run_mapM {f : α → StateM (K → V) β} {touches : α → K → Prop}
    (single : Local f touches) {list : List α}
    (disjoint : list.Pairwise fun a b => ∀ k, touches a k → ¬ touches b k) (F : K → V) :
    ((list.mapM f).run F).1 = list.map (fun a => ((f a).run F).1) ∧
      (∀ a ∈ list, ∀ k, touches a k → ((list.mapM f).run F).2 k = ((f a).run F).2 k) ∧
      ∀ k, (∀ a ∈ list, ¬ touches a k) → ((list.mapM f).run F).2 k = F k := by
  induction list generalizing F with
  | nil => exact ⟨rfl, fun _ member => absurd member List.not_mem_nil, fun _ _ => rfl⟩
  | cons a rest ih =>
    obtain ⟨apart, disjoint⟩ := List.pairwise_cons.mp disjoint
    obtain ⟨results, written, frame⟩ := ih disjoint ((f a).run F).2
    -- The first element leaves the parts of the others as they were.
    have before : ∀ b ∈ rest, ∀ k, touches b k → ((f a).run F).2 k = F k := fun b member k there =>
      single.frame a F k fun here => apart b member k here there
    rw [run_mapM_cons]
    refine ⟨?_, ?_, ?_⟩
    · simp only [results, List.map_cons, List.cons.injEq, true_and]
      exact List.map_congr_left fun b member => (single.determined b _ _ (before b member)).1
    · intro b member k there
      rcases List.mem_cons.mp member with rfl | member
      · exact frame k fun c later => apart c later k there
      · rw [written b member k there]
        exact (single.determined b _ _ (before b member)).2 k there
    · intro k untouched
      rw [frame k fun b member => untouched b (List.mem_cons_of_mem _ member)]
      exact single.frame a F k (untouched a List.mem_cons_self)

end Traversal

end Storyboard
