import Mathlib.Data.List.Nodup
import Storyboard.Proofs.Asset.Confinement
import Storyboard.Proofs.Script.Declaring

/-! # Outputs only grow

A script fills its output call by call. Every call appends: the groups, elements and assets that are
there stay at their places, and groups stand in the order in which they were first mentioned. The
first video that is set is the only one, and a single call that fails is as good as none. A declared
script that is not cancelled appends its groups whether or not its assets are refused.
-/

namespace Storyboard

variable {R : Type}

/-! ## Growing groups -/

namespace Group

/-- A change of groups that keeps their names and appends elements. -/
structure Appends (f : Group R → Group R) (added : List (Element R)) : Prop where
  name (g : Group R) : (f g).name = g.name
  elements (g : Group R) : (f g).elements = g.elements ++ added

theorem appends_extend (added : List (Element R)) :
    Appends (fun g : Group R => g.extend added) added :=
  ⟨fun _ => rfl, fun _ => rfl⟩

theorem appends_taking (declared : Group R) : Appends (taking declared) declared.elements :=
  ⟨name_taking declared, elements_taking declared⟩

/-- The groups are still at their places, with their elements at theirs. -/
def Grows (groups later : List (Group R)) : Prop :=
  ∀ (i : Nat) (g : Group R), groups[i]? = some g →
    ∃ g', later[i]? = some g' ∧ g'.name = g.name ∧ g.elements <+: g'.elements

theorem Grows.refl (groups : List (Group R)) : Grows groups groups :=
  fun _ g place => ⟨g, place, rfl, List.prefix_rfl⟩

theorem Grows.trans {groups later last : List (Group R)} (first : Grows groups later)
    (second : Grows later last) : Grows groups last := by
  intro i g place
  obtain ⟨g', place', name, elements⟩ := first i g place
  obtain ⟨g'', place'', name', elements'⟩ := second i g' place'
  exact ⟨g'', place'', name'.trans name, elements.trans elements'⟩

def elementsOf (groups : List (Group R)) (name : String) : List (Element R) :=
  ((groups.find? fun g => g.name = name).map Group.elements).getD []

theorem elementsOf_cons (g : Group R) (rest : List (Group R)) (name : String) :
    elementsOf (g :: rest) name = if g.name = name then g.elements else elementsOf rest name := by
  rw [elementsOf, List.find?_cons]
  by_cases same : g.name = name
  · rw [if_pos same, decide_eq_true same]
    rfl
  · rw [if_neg same, decide_eq_false same]
    rfl

section Update

variable {f : Group R → Group R} {added : List (Element R)} (appends : Appends f added)

include appends

/-- A change of a group that appends to it leaves every group at its place. -/
theorem grows_update (name : String) (groups : List (Group R)) :
    Grows groups (update name f groups) := by
  induction groups with
  | nil => exact fun _ _ place => nomatch place
  | cons g rest ih =>
    rw [update]
    split_ifs
    · rintro (_ | i) g' place
      · cases place
        exact ⟨f g, rfl, appends.name g, appends.elements g ▸ List.prefix_append _ added⟩
      · exact ⟨g', place, rfl, List.prefix_rfl⟩
    · rintro (_ | i) g' place
      · exact ⟨g', place, rfl, List.prefix_rfl⟩
      · exact ih i g' place

/-- A change of a group that appends to it adds to its elements alone. -/
theorem elementsOf_update (name other : String) (groups : List (Group R)) :
    elementsOf (update name f groups) other =
      elementsOf groups other ++ if name = other then added else [] := by
  induction groups with
  | nil =>
    rw [update, elementsOf_cons, appends.name, appends.elements]
    split_ifs <;> rfl
  | cons g rest ih =>
    rw [update, apply_ite (elementsOf · other), elementsOf_cons, elementsOf_cons, elementsOf_cons,
      appends.name, appends.elements, ih]
    split_ifs with same <;> simp_all

end Update

/-! ### Names -/

theorem eraseDups_append_singleton (names : List String) (name : String) :
    (names ++ [name]).eraseDups =
      if name ∈ names.eraseDups then names.eraseDups else names.eraseDups ++ [name] := by
  simp only [List.eraseDups_append, List.mem_eraseDups]
  split_ifs with known <;> simp [List.removeAll, List.eraseDups_cons, known]

theorem nodup_eraseDups (names : List String) : names.eraseDups.Nodup := by
  induction names using List.reverseRecOn with
  | nil => exact List.nodup_nil
  | append_singleton names name ih =>
    rw [eraseDups_append_singleton]
    split_ifs with known
    · exact ih
    · exact List.concat_eq_append ▸ ih.concat known

/-- A name that is mentioned comes after the names that were mentioned before. -/
theorem names_update_mentioned {f : Group R → Group R} {added : List (Element R)}
    (appends : Appends f added) {groups : List (Group R)} {mentioned : List String}
    (order : names groups = mentioned.eraseDups) (name : String) :
    names (update name f groups) = (mentioned ++ [name]).eraseDups := by
  rw [names_update name f groups appends.name, order, eraseDups_append_singleton]

/-! ### Declared groups -/

theorem grows_foldl_declare (given groups : List (Group R)) :
    Grows groups (given.foldl declare groups) := by
  induction given generalizing groups with
  | nil => exact .refl groups
  | cons g rest ih => exact (grows_update (appends_taking g) g.name groups).trans (ih _)

theorem names_foldl_declare {groups : List (Group R)} {mentioned : List String}
    (order : names groups = mentioned.eraseDups) (given : List (Group R)) :
    names (given.foldl declare groups) = (mentioned ++ names given).eraseDups := by
  induction given generalizing groups mentioned with
  | nil => exact order.trans (congrArg _ (List.append_nil mentioned).symm)
  | cons g rest ih =>
    have next := names_update_mentioned (appends_taking g) order g.name
    rw [List.foldl_cons, declare_eq_update, ih next, List.append_assoc]
    rfl

theorem elementsOf_foldl_declare (given groups : List (Group R)) (name : String) :
    elementsOf (given.foldl declare groups) name =
      elementsOf groups name ++ (declarations given name).flatMap Group.elements := by
  induction given generalizing groups with
  | nil => exact (List.append_nil _).symm
  | cons g rest ih =>
    rw [List.foldl_cons, ih, declare_eq_update, elementsOf_update (appends_taking g),
      List.append_assoc, declarations_cons]
    split_ifs <;> rfl

end Group

/-! ## Calls -/

namespace ScriptOutput

/-- Everything is still at its place. -/
structure Grows (out later : ScriptOutput R) : Prop where
  groups : Group.Grows out.groups later.groups
  assets : out.assets <+: later.assets

theorem Grows.refl (out : ScriptOutput R) : Grows out out := ⟨.refl _, List.prefix_rfl⟩

theorem Grows.trans {out later last : ScriptOutput R} (first : out.Grows later)
    (second : later.Grows last) : out.Grows last :=
  ⟨first.groups.trans second.groups, first.assets.trans second.assets⟩

end ScriptOutput

/-- What a script asks of its output. -/
inductive OutputCall (R : Type) where
  /-- Appends elements to the group of a name. -/
  | append (group : String) (elements : List (Element R))
  | setVideo (group path : String) (startTime : R)
  | requestAsset (path : String) (source : AssetSource)
  /-- Runs a declared script, which is cancelled when it has declared some number of groups. -/
  | declared (script : DeclaredScript R) (limit : Nat)

/-- The answer to a call: a failure, or the normal form of the path of a requested asset. -/
abbrev Answer := Except ScriptFailure (Option String)

/-- A look-up of cancellation that says no some number of times, and yes from then on. -/
def countdown : StateM Nat Bool := fun left => (decide (left = 0), left - 1)

namespace OutputCall

def isVideo : OutputCall R → Bool
  | setVideo .. => true
  | _ => false

def isDeclared : OutputCall R → Bool
  | declared .. => true
  | _ => false

/-- The groups that a call has mentioned when it has been answered. -/
def mentions : OutputCall R → Answer → List String
  | append group _, _ => [group]
  | setVideo group .., .ok _ => [group]
  | setVideo .., .error _ => []
  | requestAsset .., _ => []
  | declared script limit, _ => Group.names (script.groups.take limit)

/-- The answer to a call, and the output after it. -/
def attempt [SeededDigest] (call : OutputCall R) (out : ScriptOutput R) : Answer × ScriptOutput R :=
  match call with
  | append group elements => (.ok none, out.updateGroup group fun g => g.extend elements)
  | setVideo group path startTime =>
    match out.setVideo group path startTime with
    | .ok next => (.ok none, next)
    | .error e => (.error (.failed e), out)
  | requestAsset path source =>
    match out.requestAsset path source with
    | .ok (normal, next) => (.ok (some normal), next)
    | .error e => (.error (.failed e), out)
  | declared script limit =>
    let ((result, next), _) := ((script.body countdown).run.run out).run limit
    (result.map fun _ => none, next)

/-- The answers to calls, made in turn, and the output after them. -/
def run [SeededDigest] : List (OutputCall R) → ScriptOutput R → List Answer × ScriptOutput R
  | [], out => ([], out)
  | call :: rest, out =>
    let (answer, next) := call.attempt out
    let (answers, last) := run rest next
    (answer :: answers, last)

end OutputCall

/-! ### Assets -/

namespace ScriptOutput

def HasNormalPaths (out : ScriptOutput R) : Prop :=
  ∀ asset ∈ out.assets, AssetPath.normalize asset.path = .ok asset.path

/-- An asset is stored under its normal path unless the path is refused. -/
theorem requestAsset_cases [SeededDigest] (out : ScriptOutput R) (path : String)
    (source : AssetSource) :
    (∃ e, AssetPath.normalize path = .error e ∧ out.requestAsset path source = .error e) ∨
      ∃ asset, AssetPath.normalize path = .ok asset.path ∧
        out.requestAsset path source =
          .ok (asset.path, { out with assets := out.assets ++ [asset] }) := by
  cases normal : AssetPath.normalize path with
  | error e =>
    refine .inl ⟨e, rfl, ?_⟩
    rw [requestAsset, Asset.new, normal]
    rfl
  | ok normalPath =>
    refine .inr ⟨⟨normalPath, source, source.key.contentHash⟩, rfl, ?_⟩
    rw [requestAsset, Asset.new, normal]
    rfl

/-- Requests append assets of normal paths and change nothing else. -/
theorem exists_requestAll_eq [SeededDigest] (requests : List AssetRequest) (out : ScriptOutput R) :
    ∃ made : List Asset, (∀ asset ∈ made, AssetPath.normalize asset.path = .ok asset.path) ∧
      (out.requestAll requests).1 = { out with assets := out.assets ++ made } := by
  induction requests generalizing out with
  | nil => exact ⟨[], List.forall_mem_nil _, by rw [requestAll, List.append_nil]⟩
  | cons request rest ih =>
    rcases out.requestAsset_cases request.path request.source with
      ⟨e, -, refused⟩ | ⟨asset, normal, stored⟩
    · exact ⟨[], List.forall_mem_nil _, by simp only [requestAll, refused, List.append_nil]⟩
    · obtain ⟨made, normals, later⟩ := ih { out with assets := out.assets ++ [asset] }
      refine ⟨asset :: made,
        List.forall_mem_cons.mpr ⟨AssetPath.normalize_normal normal, normals⟩, ?_⟩
      simp only [requestAll, stored, later, List.append_assoc, List.singleton_append]

/-- Requests fail exactly if one of the paths is refused. -/
theorem requestAll_fails_iff [SeededDigest] (requests : List AssetRequest) (out : ScriptOutput R) :
    (out.requestAll requests).2.isSome ↔
      ∃ request ∈ requests, ∃ e, AssetPath.normalize request.path = .error e := by
  induction requests generalizing out with
  | nil => simp [requestAll]
  | cons request rest ih =>
    rcases out.requestAsset_cases request.path request.source with
      ⟨e, failure, refused⟩ | ⟨asset, normal, stored⟩
    · simp [requestAll, refused, failure]
    · simp [requestAll, stored, ih, normal]

end ScriptOutput

/-! ### Declared scripts -/

namespace DeclaredScript

/-- How a declared script ends once its groups are declared. -/
def settle [SeededDigest] (script : DeclaredScript R) (out : ScriptOutput R) :
    Except ScriptFailure Unit × ScriptOutput R :=
  (match (out.requestAll script.assets).2 with
    | none => .ok ()
    | some e => .error (.failed e),
  (out.requestAll script.assets).1)

theorem run_body [SeededDigest] {m : Type → Type} [Monad m] (script : DeclaredScript R)
    (isCancelled : m Bool) (out : ScriptOutput R) : (script.body isCancelled).run.run out =
      declareGroups isCancelled script.groups out >>= fun declared =>
        pure (script.settle declared) := by
  refine bind_congr fun declared => ?_
  unfold settle
  rcases declared.requestAll script.assets with ⟨last, _ | e⟩ <;> rfl

theorem settle_fails_iff [SeededDigest] (script : DeclaredScript R) (out : ScriptOutput R) :
    (∃ e, (script.settle out).1 = .error e) ↔
      ∃ request ∈ script.assets, ∃ e, AssetPath.normalize request.path = .error e := by
  rw [← ScriptOutput.requestAll_fails_iff script.assets out, settle]
  cases (out.requestAll script.assets).2 <;> simp

theorem groups_settle [SeededDigest] (script : DeclaredScript R) (out : ScriptOutput R) :
    (script.settle out).2.groups = out.groups := by
  obtain ⟨made, -, later⟩ := ScriptOutput.exists_requestAll_eq script.assets out
  rw [settle, later]

theorem run_declareGroups_cons {W : Type} (isCancelled : StateM W Bool) (g : Group R)
    (rest : List (Group R)) (out : ScriptOutput R) (world : W) :
    (declareGroups isCancelled (g :: rest) out).run world =
      match isCancelled.run world with
      | (true, next) => (out, next)
      | (false, next) => (declareGroups isCancelled rest (out.declare g)).run next := by
  rw [declareGroups, StateT.run_bind]
  rcases isCancelled.run world with ⟨_ | _, next⟩ <;> rfl

/-- However cancellation is looked up, some first groups are declared. -/
theorem exists_declareGroups_eq {W : Type} (isCancelled : StateM W Bool) (given : List (Group R))
    (out : ScriptOutput R) (world : W) : ∃ limit last,
      (declareGroups isCancelled given out).run world =
        ({ out with groups := (given.take limit).foldl Group.declare out.groups }, last) := by
  induction given generalizing out world with
  | nil => exact ⟨0, world, rfl⟩
  | cons g rest ih =>
    rw [run_declareGroups_cons]
    -- The look-up before a group decides whether this group is declared and a next one comes.
    rcases isCancelled.run world with ⟨_ | _, next⟩
    · obtain ⟨limit, last, later⟩ := ih (out.declare g) next
      exact ⟨limit + 1, last, later⟩
    · exact ⟨0, next, rfl⟩

/-- A script that is cancelled after some groups has declared exactly those. -/
theorem declareGroups_countdown (given : List (Group R)) (out : ScriptOutput R) (limit : Nat) :
    (declareGroups countdown given out).run limit =
      ({ out with groups := (given.take limit).foldl Group.declare out.groups },
        limit - given.length) := by
  induction given generalizing out limit with
  | nil => rw [List.take_nil]; rfl
  | cons g rest ih =>
    rw [run_declareGroups_cons]
    cases limit with
    | zero => rw [Nat.zero_sub]; rfl
    | succ limit =>
      change (declareGroups countdown rest (out.declare g)).run limit = _
      rw [ih, List.length_cons, Nat.add_sub_add_right]
      rfl

end DeclaredScript

/-! ## Steps -/

namespace OutputCall

theorem attempt_declared [SeededDigest] (script : DeclaredScript R) (limit : Nat)
    (out : ScriptOutput R) :
    (declared script limit).attempt out =
      let groups := (script.groups.take limit).foldl Group.declare out.groups
      let (result, last) := script.settle { out with groups }
      (result.map fun _ => none, last) := by
  rw [attempt, DeclaredScript.run_body, StateT.run_bind, DeclaredScript.declareGroups_countdown]
  rfl

/-- All that a call can come to. -/
inductive Outcome (out : ScriptOutput R) : OutputCall R → Answer → ScriptOutput R → Prop
  | appended (group : String) (elements : List (Element R)) :
    Outcome out (append group elements) (.ok none)
      (out.updateGroup group fun g => g.extend elements)
  | firstVideo (group path : String) (startTime : R) : out.hasVideo = false →
    Outcome out (setVideo group path startTime) (.ok none)
      ({ out with hasVideo := true }.addElement group (.video ⟨path, startTime⟩))
  | laterVideo (group path : String) (startTime : R) : out.hasVideo = true →
    Outcome out (setVideo group path startTime)
      (.error (.failed (.invalidState "a script can only set one video"))) out
  | stored (path : String) (source : AssetSource) (asset : Asset) :
    AssetPath.normalize path = .ok asset.path →
    Outcome out (requestAsset path source) (.ok (some asset.path))
      { out with assets := out.assets ++ [asset] }
  | refused (path : String) (source : AssetSource) (e : Failure) :
    AssetPath.normalize path = .error e →
    Outcome out (requestAsset path source) (.error (.failed e)) out
  | ran (script : DeclaredScript R) (limit : Nat) (answer : Answer) (made : List Asset) :
    (∀ asset ∈ made, AssetPath.normalize asset.path = .ok asset.path) →
    Outcome out (declared script limit) answer
      { out with
        groups := (script.groups.take limit).foldl Group.declare out.groups
        assets := out.assets ++ made }

/-- Every call comes to one of the outcomes. -/
theorem outcome_attempt [SeededDigest] (call : OutputCall R) (out : ScriptOutput R) :
    Outcome out call (call.attempt out).1 (call.attempt out).2 := by
  cases call with
  | append group elements => exact .appended group elements
  | setVideo group path startTime =>
    cases set : out.hasVideo with
    | false =>
      have done := Outcome.firstVideo group path startTime set
      simpa only [attempt, ScriptOutput.setVideo, set, Bool.false_eq_true, if_false] using done
    | true =>
      have failed := Outcome.laterVideo group path startTime set
      simpa only [attempt, ScriptOutput.setVideo, set, if_true] using failed
  | requestAsset path source =>
    rcases out.requestAsset_cases path source with ⟨e, failure, asked⟩ | ⟨asset, normal, asked⟩
    · simpa only [attempt, asked] using Outcome.refused path source e failure
    · simpa only [attempt, asked] using Outcome.stored path source asset normal
  | declared script limit =>
    rw [attempt_declared]
    obtain ⟨made, normals, last⟩ := ScriptOutput.exists_requestAll_eq script.assets
      { out with groups := (script.groups.take limit).foldl Group.declare out.groups }
    have ran (answer : Answer) : Outcome out (declared script limit) answer _ :=
      .ran script limit answer made normals
    simpa only [DeclaredScript.settle, last] using ran _

section Step

variable {out next : ScriptOutput R} {call : OutputCall R} {answer : Answer}

theorem Outcome.grows (outcome : Outcome out call answer next) : out.Grows next := by
  cases outcome with
  | appended group elements =>
    exact ⟨Group.grows_update (Group.appends_extend elements) group _, List.prefix_rfl⟩
  | firstVideo group =>
    exact ⟨Group.grows_update (Group.appends_extend _) group _, List.prefix_rfl⟩
  | laterVideo | refused => exact .refl out
  | stored => exact ⟨.refl _, List.prefix_append ..⟩
  | ran => exact ⟨Group.grows_foldl_declare _ _, List.prefix_append ..⟩

/-- A call adds the names that it mentions first, in the order in which it mentions them. -/
theorem Outcome.names (outcome : Outcome out call answer next) {mentioned : List String}
    (order : Group.names out.groups = mentioned.eraseDups) :
    Group.names next.groups = (mentioned ++ call.mentions answer).eraseDups := by
  cases outcome with
  | appended group elements =>
    exact Group.names_update_mentioned (Group.appends_extend elements) order group
  | firstVideo group =>
    exact Group.names_update_mentioned (Group.appends_extend _) order group
  | laterVideo | stored | refused =>
    exact order.trans (congrArg _ (List.append_nil mentioned).symm)
  | ran => exact Group.names_foldl_declare order _

theorem Outcome.hasNormalPaths (outcome : Outcome out call answer next)
    (normal : out.HasNormalPaths) : next.HasNormalPaths := by
  cases outcome with
  | appended | firstVideo | laterVideo | refused => exact normal
  | stored path source asset made =>
    exact List.forall_mem_append.mpr
      ⟨normal, List.forall_mem_singleton.mpr (AssetPath.normalize_normal made)⟩
  | ran script limit answer made normals => exact List.forall_mem_append.mpr ⟨normal, normals⟩

theorem Outcome.hasVideo (outcome : Outcome out call answer next) :
    next.hasVideo = (out.hasVideo || call.isVideo) := by
  cases outcome with
  | appended | stored | refused | ran => exact (Bool.or_false _).symm
  | firstVideo => exact (Bool.or_true _).symm
  | laterVideo _ _ _ set => rw [set, Bool.true_or]

theorem Outcome.eq_of_error {e : ScriptFailure} (outcome : Outcome out call (.error e) next)
    (single : call.isDeclared = false) : next = out := by
  cases outcome with
  | laterVideo | refused => rfl
  | ran => cases single

/-- The first video is appended to its group, and nothing else happens. -/
theorem Outcome.video {group path : String} {startTime : R}
    (outcome : Outcome out (setVideo group path startTime) answer next) :
    if out.hasVideo then
      answer = .error (.failed (.invalidState "a script can only set one video"))
    else
      answer = .ok none ∧ next.assets = out.assets ∧
        ∀ name, Group.elementsOf next.groups name = Group.elementsOf out.groups name ++
          if group = name then [.video ⟨path, startTime⟩] else [] := by
  cases outcome with
  | firstVideo _ _ _ unset =>
    rw [unset, if_neg Bool.false_ne_true]
    exact ⟨rfl, rfl, fun name =>
      Group.elementsOf_update (Group.appends_extend _) group name out.groups⟩
  | laterVideo _ _ _ set =>
    rw [set, if_pos rfl]

end Step

/-! ## Runs -/

theorem run_append [SeededDigest] (first second : List (OutputCall R)) (out : ScriptOutput R) :
    run (first ++ second) out =
      ((run first out).1 ++ (run second (run first out).2).1,
        (run second (run first out).2).2) := by
  induction first generalizing out with
  | nil => rfl
  | cons call rest ih => simp only [List.cons_append, run, ih]

theorem length_answers [SeededDigest] (calls : List (OutputCall R)) (out : ScriptOutput R) :
    (run calls out).1.length = calls.length := by
  induction calls generalizing out with
  | nil => rfl
  | cons call rest ih => exact congrArg Nat.succ (ih _)

theorem grows_run [SeededDigest] (calls : List (OutputCall R)) (out : ScriptOutput R) :
    out.Grows (run calls out).2 := by
  induction calls generalizing out with
  | nil => exact .refl out
  | cons call rest ih =>
    exact (call.outcome_attempt out).grows.trans (ih _)

/-- Calls leave groups in the order in which they were first mentioned. -/
theorem names_run [SeededDigest] {out : ScriptOutput R} {mentioned : List String}
    (order : Group.names out.groups = mentioned.eraseDups) (calls : List (OutputCall R)) :
    Group.names (run calls out).2.groups =
      (mentioned ++ (List.zipWith mentions calls (run calls out).1).flatten).eraseDups := by
  induction calls generalizing out mentioned with
  | nil => exact order.trans (congrArg _ (List.append_nil mentioned).symm)
  | cons call rest ih =>
    have next := (call.outcome_attempt out).names order
    have last := ih next
    rw [List.append_assoc] at last
    exact last

theorem hasNormalPaths_run [SeededDigest] {out : ScriptOutput R} (normal : out.HasNormalPaths)
    (calls : List (OutputCall R)) : (run calls out).2.HasNormalPaths := by
  induction calls generalizing out with
  | nil => exact normal
  | cons call rest ih => exact ih ((call.outcome_attempt out).hasNormalPaths normal)

theorem hasVideo_run [SeededDigest] (calls : List (OutputCall R)) (out : ScriptOutput R) :
    (run calls out).2.hasVideo = (out.hasVideo || calls.any isVideo) := by
  induction calls generalizing out with
  | nil => exact (Bool.or_false _).symm
  | cons call rest ih =>
    have last := ih (call.attempt out).2
    rw [(call.outcome_attempt out).hasVideo, Bool.or_assoc] at last
    exact last

/-- A call that changes nothing is as good as none, but for its answer. -/
theorem run_unchanged [SeededDigest] {before : List (OutputCall R)} {call : OutputCall R}
    {out : ScriptOutput R} (same : (call.attempt (run before out).2).2 = (run before out).2)
    (after : List (OutputCall R)) :
    run (before ++ after) out = ((run (before ++ call :: after) out).1.eraseIdx before.length,
      (run (before ++ call :: after) out).2) := by
  rw [run_append, run_append]
  simp only [run, same]
  rw [← length_answers before out, List.eraseIdx_append_of_length_le le_rfl, Nat.sub_self]
  rfl

/-- Calls on a new output append to it: its groups stand in the order of their first mention, each
once, the paths of its assets are normal, and what some calls have left is at its place after
further ones. The first video that is set is appended to its group, and every later one is refused.
A single call that fails leaves nothing behind. A declared script declares some first groups, and
without cancellation all of them, even where it fails because of a refused path. -/
theorem run_append_only [SeededDigest] :
    (∀ calls : List (OutputCall R),
      let answers := (run calls {}).1
      let out := (run calls {}).2
      Group.names out.groups = (List.zipWith mentions calls answers).flatten.eraseDups ∧
        (Group.names out.groups).Nodup ∧ out.HasNormalPaths ∧
        ∀ later, out.Grows (run (calls ++ later) {}).2) ∧
    (∀ (before after : List (OutputCall R)) (call : OutputCall R),
      let out := (run before {}).2
      let answer := (call.attempt out).1
      let next := (call.attempt out).2
      (∀ group path startTime, call = setVideo group path startTime →
        if before.any isVideo then
          answer = .error (.failed (.invalidState "a script can only set one video"))
        else
          answer = .ok none ∧ next.assets = out.assets ∧
            ∀ name, Group.elementsOf next.groups name = Group.elementsOf out.groups name ++
              if group = name then [.video ⟨path, startTime⟩] else []) ∧
      (call.isDeclared = false → (∃ e, answer = .error e) →
        next.groups = out.groups ∧ next.assets = out.assets ∧
          run (before ++ after) {} =
            ((run (before ++ call :: after) {}).1.eraseIdx before.length,
              (run (before ++ call :: after) {}).2))) ∧
    ∀ (script : DeclaredScript R) (out : ScriptOutput R),
      (∀ {W : Type} (isCancelled : StateM W Bool) (world : W), ∃ limit last,
        (((script.body isCancelled).run.run out).run world : (Except _ _ × _) × W) =
          ((((script.body countdown).run.run out).run limit).1, last)) ∧
      ∀ {m : Type → Type} [Monad m] [LawfulMonad m], ∃ result next,
        (script.body (pure false : m Bool)).run.run out = pure (result, next) ∧
          ((∃ e, result = .error e) ↔
            ∃ request ∈ script.assets, ∃ e, AssetPath.normalize request.path = .error e) ∧
          ∀ name, (name ∈ Group.names next.groups ↔
              name ∈ Group.names out.groups ∨ name ∈ Group.names script.groups) ∧
            Group.elementsOf next.groups name = Group.elementsOf out.groups name ++
              (Group.declarations script.groups name).flatMap Group.elements := by
  have start : Group.names ({} : ScriptOutput R).groups = ([] : List String).eraseDups := rfl
  refine ⟨fun calls => ⟨names_run start calls, ?distinct, ?normal, fun later => ?grows⟩,
    fun before after call => ⟨?video, fun single fails => ?single⟩,
    fun script out => ⟨fun isCancelled world => ?cancelled, ?uncancelled⟩⟩
  case distinct =>
    rw [names_run start calls]
    exact Group.nodup_eraseDups _
  case normal => exact hasNormalPaths_run (fun _ member => absurd member List.not_mem_nil) calls
  case grows =>
    rw [run_append]
    exact grows_run later _
  case video =>
    rintro group path startTime rfl
    have done := (outcome_attempt (setVideo group path startTime) (run before {}).2).video
    rwa [hasVideo_run, Bool.false_or] at done
  case single =>
    obtain ⟨e, failed⟩ := fails
    have outcome := call.outcome_attempt (run before {}).2
    rw [failed] at outcome
    have same := outcome.eq_of_error single
    exact ⟨congrArg _ same, congrArg _ same, run_unchanged same after⟩
  case cancelled =>
    obtain ⟨limit, last, declared⟩ :=
      DeclaredScript.exists_declareGroups_eq isCancelled script.groups out world
    refine ⟨limit, last, ?_⟩
    rw [DeclaredScript.run_body, DeclaredScript.run_body, StateT.run_bind, StateT.run_bind,
      declared, DeclaredScript.declareGroups_countdown]
    rfl
  case uncancelled =>
    intro m _ _
    let declared := { out with groups := script.groups.foldl Group.declare out.groups }
    have groups := script.groups_settle declared
    refine ⟨_, (script.settle declared).2, ?_, script.settle_fails_iff declared, fun name => ?_⟩
    · rw [DeclaredScript.run_body, DeclaredScript.declareGroups_eq, pure_bind]
    · rw [groups]
      exact ⟨Group.mem_names_foldl_declare script.groups out.groups name,
        Group.elementsOf_foldl_declare script.groups out.groups name⟩

/-- A second video is refused and leaves the request after it as it would be, and a declared script
with a path that climbs fails after its group. -/
theorem run_append_only_film :
    let film : OutputCall Nat := setVideo "back" "film.mp4" 0
    let other : OutputCall Nat := setVideo "front" "other.mp4" 5
    let request : OutputCall Nat := requestAsset "./lamp.png" (.solid 1 1 .white)
    let script : DeclaredScript Nat := ⟨"late", [{ name := "front", elements :=
      [.video ⟨"late.mp4", 9⟩] }], [⟨"../lamp.png", .solid 1 1 .white⟩]⟩
    (run [film] {}).2.Grows (run ([film] ++ [other, request]) {}).2 ∧
      (other.attempt (run [film] {}).2).1 =
        .error (.failed (.invalidState "a script can only set one video")) ∧
      run ([film] ++ [request]) {} = ((run ([film] ++ other :: [request]) {}).1.eraseIdx 1,
        (run ([film] ++ other :: [request]) {}).2) ∧
      ∃ result next, (script.body (pure false : Id Bool)).run.run {} = pure (result, next) ∧
        (∃ e, result = .error e) ∧ "front" ∈ Group.names next.groups := by
  intro film other request script
  obtain ⟨runs, steps, scripts⟩ := run_append_only (R := Nat)
  obtain ⟨video, single⟩ := steps [film] [request] other
  have refused := video "front" "other.mp4" 5 rfl
  have set : [film].any isVideo = true := rfl
  rw [if_pos set] at refused
  obtain ⟨result, next, ran, fails, names⟩ := (scripts script {}).2 (m := Id)
  exact ⟨(runs [film]).2.2.2 [other, request], refused, (single rfl ⟨_, refused⟩).2.2, result, next,
    ran, fails.mpr ⟨_, List.mem_singleton_self _, _, rfl⟩,
    (names "front").1.mpr (.inr (List.mem_singleton_self _))⟩

end OutputCall

end Storyboard
