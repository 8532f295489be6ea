import Mathlib.Data.String.Basic

/-! # Joining and cutting texts

Texts joined by a separator that stands in none of them are had back by cutting at the separator,
and no character gets in that stands neither in them nor in the separator. Numbers are written in
digits, so any other character separates them.
-/

namespace Storyboard

def cut (separator : Char) (text : String) : List String :=
  (text.split separator).toList.map fun part => part.copy

theorem cut_intercalate {separator : Char} {parts : List String}
    (apart : ∀ part ∈ parts, separator ∉ part.toList) (nonempty : parts ≠ []) :
    cut separator ((String.singleton separator).intercalate parts) = parts :=
  (String.toList_split_intercalate apart).trans (if_neg nonempty)

/-- A join has no characters but those of its parts and of the separator. -/
theorem notMem_intercalate {c : Char} {separator : String} (other : c ∉ separator.toList)
    {parts : List String} (apart : ∀ part ∈ parts, c ∉ part.toList) :
    c ∉ (separator.intercalate parts).toList := by
  induction parts with
  | nil => simp
  | cons part rest ih =>
    obtain ⟨here, later⟩ := List.forall_mem_cons.mp apart
    cases rest with
    | nil => simpa using here
    | cons next rest =>
      have after := ih later
      rw [String.intercalate_cons_cons]
      simp only [String.toList_append, List.mem_append, not_or]
      exact ⟨⟨here, other⟩, after⟩

/-- Digits stand for a number, and nothing else does. -/
theorem isDigit_of_mem_repr {n : Nat} {c : Char} (member : c ∈ n.repr.toList) : c.isDigit := by
  rw [Nat.toList_repr] at member
  exact Nat.isDigit_of_mem_toDigits (by decide) (by decide) member

/-- A separator of several characters is found by its first one. -/
theorem intercalate_inj {separator : String} {c : Char} {more : List Char}
    (starts : separator.toList = c :: more) {parts parts' : List String}
    (apart : ∀ part ∈ parts, c ∉ part.toList) (apart' : ∀ part ∈ parts', c ∉ part.toList)
    (nonempty : parts ≠ []) (nonempty' : parts' ≠ [])
    (same : separator.intercalate parts = separator.intercalate parts') : parts = parts' := by
  have longer (part next : String) (rest : List String) :
      (separator.intercalate (part :: next :: rest)).toList =
        part.toList ++ c :: (more ++ (separator.intercalate (next :: rest)).toList) := by
    simp [String.intercalate_cons_cons, starts]
  induction parts generalizing parts' with
  | nil => exact absurd rfl nonempty
  | cons part rest ih => cases parts' with
    | nil => exact absurd rfl nonempty'
    | cons part' rest' =>
      obtain ⟨here, later⟩ := List.forall_mem_cons.mp apart
      obtain ⟨here', later'⟩ := List.forall_mem_cons.mp apart'
      have texts := congrArg String.toList same
      cases rest with
      | nil => cases rest' with
        | nil =>
          rw [String.intercalate_singleton, String.intercalate_singleton] at same
          rw [same]
        | cons next' rest' =>
          rw [longer, String.intercalate_singleton] at texts
          exact absurd (texts ▸ by simp) here
      | cons next rest => cases rest' with
        | nil =>
          rw [longer, String.intercalate_singleton] at texts
          exact absurd (texts ▸ by simp) here'
        | cons next' rest' =>
          rw [longer, longer] at texts
          have cuts := congrArg (List.splitOn c) texts
          rw [List.splitOn_append_cons_self_of_not_mem here,
            List.splitOn_append_cons_self_of_not_mem here', List.cons.injEq] at cuts
          rw [cuts.1, List.append_cancel_left_eq, List.cons.injEq, List.append_cancel_left_eq,
            String.toList_inj] at texts
          rw [String.toList_injective cuts.1, ih later later' (by simp) (by simp) texts.2]

end Storyboard
