import Mathlib

/-!
# Choices from a list of lists

`choices ls` lists every way to take one element from each of `ls`, in the order of nested loops:
the choice from the first list varies slowest.  The choices are those at the positions, taken in
lexicographic order (`choices_eq_map_positions`, `pairwise_positions`).
-/

namespace Framework

variable {α β : Type*} {ls : List (List α)}

/-- Every choice of one element from each list. -/
def choices : List (List α) → List (List α)
  | [] => [[]]
  | l :: ls => l.flatMap fun a => (choices ls).map fun chosen => a :: chosen

/-- What a nest of loops visits. -/
lemma flatMap_choices_cons (l : List α) (ls : List (List α)) (visit : List α → List β) :
    (choices (l :: ls)).flatMap visit =
      l.flatMap fun a => (choices ls).flatMap fun chosen => visit (a :: chosen) := by
  simp only [choices, List.flatMap_assoc, List.flatMap_map]

lemma flatMap_choices_nil (visit : List α → List β) :
    (choices ([] : List (List α))).flatMap visit = visit [] := by
  simp only [choices, List.flatMap_singleton]

/-- A loop whose body pushes one text under a guard. -/
lemma flatMap_ite_singleton (l : List α) (p : α → Bool) (text : α → β) :
    (l.flatMap fun a => if p a then [text a] else []) = (l.filter p).map text := by
  induction l with
  | nil => rfl
  | cons a l ih =>
    rw [List.flatMap_cons, ih, List.filter_cons]
    split
    · rw [List.map_cons, List.singleton_append]
    · rw [List.nil_append]

/-- Texts that are continued in every given way stay as they are only when there are none, or the
one way to continue them is to add nothing. -/
lemma eq_flatMap_append_iff {texts ends : List (List β)} :
    texts = texts.flatMap (fun text => ends.map fun rest => text ++ rest) ↔
      texts = [] ∨ ends = [[]] := by
  constructor
  · intro h
    cases texts with
    | nil => exact Or.inl rfl
    | cons text texts =>
      have hlength := congrArg List.length h
      simp only [List.length_flatMap, List.length_map, List.map_const', List.sum_replicate,
        smul_eq_mul, List.length_cons] at hlength
      have hone : ends.length = 1 :=
        Nat.eq_of_mul_eq_mul_left texts.length.succ_pos (hlength.symm.trans (mul_one _).symm)
      obtain ⟨rest, rfl⟩ := List.length_eq_one_iff.mp hone
      rw [List.flatMap_cons, List.map_singleton, List.singleton_append, List.cons.injEq] at h
      rw [List.self_eq_append_right.mp h.1]
      exact Or.inr rfl
  · rintro (rfl | rfl)
    · rfl
    · simp only [List.map_singleton, List.append_nil, List.flatMap_singleton']

/-- A choice takes its elements from the lists, one from each. -/
lemma mem_choices {chosen : List α} :
    chosen ∈ choices ls ↔ List.Forall₂ (fun a l => a ∈ l) chosen ls := by
  induction ls generalizing chosen with
  | nil => simp [choices]
  | cons l ls ih =>
    simp only [choices, List.mem_flatMap, List.mem_map, List.forall₂_cons_right_iff]
    constructor
    · rintro ⟨a, ha, rest, hrest, rfl⟩
      exact ⟨a, rest, ha, ih.mp hrest, rfl⟩
    · rintro ⟨a, rest, ha, hrest, rfl⟩
      exact ⟨a, ha, rest, ih.mpr hrest, rfl⟩

/-- Choices whose elements all pass a test are choices from the elements that pass. -/
lemma filter_choices (p : α → Bool) :
    (choices ls).filter (fun chosen => chosen.all p) = choices (ls.map fun l => l.filter p) := by
  induction ls with
  | nil => rfl
  | cons l ls ih =>
    rw [List.map_cons, choices, choices, ← ih, List.filter_flatMap]
    induction l with
    | nil => rfl
    | cons a l ih' =>
      rw [List.flatMap_cons, ih', List.filter_map]
      by_cases ha : p a = true
      · rw [List.filter_cons_of_pos ha, List.flatMap_cons]
        congr 2
        exact List.filter_congr fun chosen _ => by simp [ha]
      · rw [List.filter_cons_of_neg ha, List.filter_eq_nil_iff.mpr]
        · rfl
        · simp [ha]

lemma length_of_mem_choices {chosen : List α} (h : chosen ∈ choices ls) :
    chosen.length = ls.length :=
  (mem_choices.mp h).length_eq

/-! ## Positions -/

/-- The positions of the choices from lists of the given lengths. -/
def positions (lengths : List ℕ) : List (List ℕ) := choices (lengths.map List.range)

lemma mem_positions {lengths p : List ℕ} :
    p ∈ positions lengths ↔ List.Forall₂ (· < ·) p lengths := by
  rw [positions, mem_choices, List.forall₂_map_right_iff]
  simp only [List.mem_range]

/-- Choices from increasing lists come in increasing lexicographic order. -/
lemma pairwise_choices [LinearOrder α] (h : ∀ l ∈ ls, l.Pairwise (· < ·)) :
    (choices ls).Pairwise (· < ·) := by
  induction ls with
  | nil => exact List.pairwise_singleton _ _
  | cons l ls ih =>
    have ih := ih fun l' hl' => h l' (List.mem_cons_of_mem l hl')
    rw [choices, List.pairwise_flatMap]
    constructor
    · intro a _
      rw [List.pairwise_map]
      exact ih.imp fun hlt => List.cons_lt_cons_iff.mpr (Or.inr ⟨rfl, hlt⟩)
    · refine (h l List.mem_cons_self).imp fun hab chosen hchosen chosen' hchosen' => ?_
      obtain ⟨rest, -, rfl⟩ := List.mem_map.mp hchosen
      obtain ⟨rest', -, rfl⟩ := List.mem_map.mp hchosen'
      exact List.cons_lt_cons_iff.mpr (Or.inl hab)

lemma pairwise_positions (lengths : List ℕ) : (positions lengths).Pairwise (· < ·) := by
  refine pairwise_choices fun l hl => ?_
  obtain ⟨n, -, rfl⟩ := List.mem_map.mp hl
  exact List.pairwise_lt_range

/-- The elements at the given positions, one in each list. -/
def pick [Inhabited α] (ls : List (List α)) (p : List ℕ) : List α :=
  List.zipWith (fun i l => l.getD i default) p ls

/-- The choices are the elements at the positions. -/
lemma choices_eq_map_positions [Inhabited α] :
    choices ls = (positions (ls.map List.length)).map (pick ls) := by
  induction ls with
  | nil => rfl
  | cons l ls ih =>
    have hl : l = (List.range l.length).map fun i => l.getD i default := by
      refine List.ext_getElem (by simp) fun i hi _ => ?_
      simp [hi]
    rw [positions, List.map_cons, List.map_cons, choices, choices, List.map_flatMap]
    conv_lhs => rw [hl, List.flatMap_map, ih]
    simp only [positions, List.map_map]
    rfl

end Framework
