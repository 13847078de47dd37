import Yaskkserv2.Framework.Occurrence

/-!
# The lexicographic order on lists

Three facts about the order in which a sorted map keeps strings.  The comparison function a map
is keyed by agrees with the order (`compare_eq_lt_iff`), a list is at least every prefix of it
(`le_of_isPrefix`), and the extensions of a list form an interval: everything between a list and
one of its extensions extends it (`prefix_of_le_of_le`).
-/

namespace Framework

variable {α : Type*}

section Compare

variable [Ord α] [LE α] [LT α] [Std.LawfulOrderOrd α] [Std.LawfulOrderLT α]
  [Std.LawfulEqOrd α]

/-- The comparison of two lists says "less" exactly when the first is before the second. -/
theorem compare_eq_lt_iff {l₁ l₂ : List α} : compare l₁ l₂ = .lt ↔ l₁ < l₂ := by
  induction l₁ generalizing l₂ with
  | nil => cases l₂ <;> simp
  | cons a l₁ ih =>
    cases l₂ with
    | nil => simp
    | cons b l₂ =>
      rw [List.compare_cons_cons, Ordering.then_eq_lt, ih, List.cons_lt_cons_iff,
        Std.compare_eq_lt, Std.compare_eq_iff_eq]

end Compare

section Prefix

variable [LE α] [LT α] [Std.IsLinearOrder α] [Std.LawfulOrderLT α]

/-- A list is at least every prefix of it. -/
theorem le_of_isPrefix {p l : List α} (h : p <+: l) : p ≤ l := by
  induction p generalizing l with
  | nil => exact List.nil_le l
  | cons a p ih =>
    obtain ⟨t, rfl⟩ := h
    rw [List.cons_append, List.cons_le_cons_iff]
    exact Or.inr ⟨rfl, ih (List.prefix_append p t)⟩

/-- The extensions of a list form an interval. -/
theorem prefix_of_le_of_le {p b c : List α} (hpb : p ≤ b) (hbc : b ≤ c) (hpc : p <+: c) :
    p <+: b := by
  induction p generalizing b c with
  | nil => exact List.nil_prefix
  | cons a p ih =>
    obtain ⟨t, rfl⟩ := hpc
    cases b with
    | nil => exact absurd hpb (by simp)
    | cons x b =>
      rw [List.cons_le_cons_iff] at hpb
      rw [List.cons_append, List.cons_le_cons_iff] at hbc
      have hax : a = x := by grind
      subst hax
      have hpb' : p ≤ b := by grind
      have hbc' : b ≤ p ++ t := by grind
      rw [List.cons_prefix_cons]
      exact ⟨rfl, ih hpb' hbc' (List.prefix_append p t)⟩

end Prefix

end Framework
