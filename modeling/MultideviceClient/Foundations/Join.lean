import Mathlib.Algebra.GroupWithZero.Nat
import Mathlib.Algebra.Order.BigOperators.Group.List
import Mathlib.Data.String.Basic

/-!
# Joining texts

`sep.intercalate parts` puts a separator between any two neighbours, empty or
not.  `intercalate_eq_empty_iff` says when the result is empty, and
`intercalate_filter_eq_iff` when it makes no difference to drop the empty parts
first.
-/

namespace Foundations

variable {sep : String}

/-- With one more separator at the end, every part has one of its own. -/
theorem length_intercalate (sep : String) {parts : List String} (h : parts ≠ []) :
    (sep.intercalate parts).length + sep.length =
      (parts.map fun part => part.length + sep.length).sum := by
  induction parts with
  | nil => exact absurd rfl h
  | cons part parts ih =>
      cases parts with
      | nil => simp
      | cons next parts =>
          rw [String.intercalate_cons_cons, List.map_cons, List.sum_cons, ← ih (by simp),
            String.length_append, String.length_append]
          omega

/-- A joined text is empty when there is nothing to separate. -/
theorem intercalate_eq_empty_iff (hsep : sep ≠ "") (parts : List String) :
    sep.intercalate parts = "" ↔ parts = [] ∨ parts = [""] := by
  rcases parts with _ | ⟨part, _ | ⟨next, parts⟩⟩
  · simp
  · simp
  · simp [hsep]

/-- An empty part costs at least its separator. -/
theorem sum_filter_add_le (sep : String) {parts : List String} (h : "" ∈ parts) :
    ((parts.filter (· ≠ "")).map fun part => part.length + sep.length).sum + sep.length ≤
      (parts.map fun part => part.length + sep.length).sum := by
  induction parts with
  | nil => cases h
  | cons part parts ih =>
      by_cases hpart : part = ""
      · subst hpart
        have hle : ((parts.filter (· ≠ "")).map fun part => part.length + sep.length).sum ≤
            (parts.map fun part => part.length + sep.length).sum :=
          (List.filter_sublist.map _).sum_le_sum fun _ _ => Nat.zero_le _
        simpa [Nat.add_comm] using hle
      · have hrest := ih ((List.mem_cons.mp h).resolve_left (Ne.symm hpart))
        rw [List.filter_cons_of_pos (by simpa using hpart), List.map_cons, List.map_cons,
          List.sum_cons, List.sum_cons]
        omega

/-- Dropping the empty parts makes no difference when there is none, or nothing
else. -/
theorem intercalate_filter_eq_iff (hsep : sep ≠ "") (parts : List String) :
    sep.intercalate (parts.filter (· ≠ "")) = sep.intercalate parts ↔
      "" ∉ parts ∨ parts = [""] := by
  constructor
  · intro hsame
    by_cases hmem : "" ∈ parts
    · right
      by_cases hnone : parts.filter (· ≠ "") = []
      · rw [hnone, String.intercalate_nil] at hsame
        rcases (intercalate_eq_empty_iff hsep parts).mp hsame.symm with hnil | hone
        · rw [hnil] at hmem
          cases hmem
        · exact hone
      · -- the separators of the dropped parts are missing
        have hpos : 0 < sep.length := by
          rw [Nat.pos_iff_ne_zero]
          simpa using hsep
        have hkept := length_intercalate sep hnone
        have hall := length_intercalate sep (List.ne_nil_of_mem hmem)
        have hle := sum_filter_add_le sep hmem
        rw [hsame] at hkept
        omega
    · exact .inl hmem
  · rintro (hnone | rfl)
    · rw [List.filter_eq_self.mpr]
      intro part hpart
      exact decide_eq_true fun hempty => hnone (hempty ▸ hpart)
    · simp

end Foundations
