import Mathlib.Data.List.Forall2
import Yaskkserv2.Framework.Split

/-!
# Correspondences of delimited texts

Two spellings of one text agree on its delimiters: where one of them is cut at a delimiter, so is
the other, and what stands before and behind corresponds (`Respects`).  Whatever looks at delimiters
only keeps such a correspondence: splitting, joining, and the part before the first delimiter.
-/

namespace Framework

variable {α : Type*}

/-- Where an element makes up the units that it is in, a concatenation is cut at it between
units. -/
lemma exists_of_flatten_eq_append_cons {us : List (List α)} {d : α} {x y : List α}
    (hd : ∀ u ∈ us, d ∈ u → u = [d]) (h : us.flatten = x ++ d :: y) :
    ∃ us₁ us₂, us = us₁ ++ [d] :: us₂ ∧ us₁.flatten = x ∧ us₂.flatten = y := by
  induction us generalizing x with
  | nil => simp at h
  | cons u us ih =>
    obtain ⟨hu, hus⟩ := List.forall_mem_cons.mp hd
    rw [List.flatten_cons] at h
    rcases List.append_eq_append_iff.mp h with ⟨x', rfl, hrest⟩ | ⟨u', rfl, hrest⟩
    · obtain ⟨us₁, us₂, rfl, rfl, rfl⟩ := ih hus hrest
      exact ⟨u :: us₁, us₂, rfl, rfl, rfl⟩
    · cases u' with
      | nil =>
        obtain ⟨us₁, us₂, rfl, hx, rfl⟩ := ih hus (x := []) hrest.symm
        exact ⟨x :: us₁, us₂, by simp, by simp [hx], rfl⟩
      | cons b u' =>
        -- the unit holds the element, so it is nothing else
        obtain ⟨rfl, rfl⟩ := List.cons_eq_cons.mp hrest
        have hsingle := hu (List.mem_append_right x List.mem_cons_self)
        rw [List.append_eq_singleton_iff] at hsingle
        rcases hsingle with ⟨rfl, hu'⟩ | ⟨-, hu'⟩
        · obtain rfl := (List.cons_eq_cons.mp hu').2
          exact ⟨[], us, rfl, rfl, rfl⟩
        · exact absurd hu' (List.cons_ne_nil _ _)

/-- A correspondence of texts that can be cut and joined at a delimiter. -/
structure Respects (R : List α → List α → Prop) (d : α) : Prop where
  nil : R [] []
  join {x x' y y' : List α} : R x y → R x' y' → R (x ++ d :: x') (y ++ d :: y')
  cut {x x' y : List α} : R (x ++ d :: x') y → ∃ z z', y = z ++ d :: z' ∧ R x z ∧ R x' z'
  cut_right {x y y' : List α} : R x (y ++ d :: y') → ∃ z z', x = z ++ d :: z' ∧ R z y ∧ R z' y'

namespace Respects

variable {R : List α → List α → Prop} {d : α} {x x' y y' : List α} {xs ys : List (List α)}

section

variable (h : Respects R d)

include h

lemma flip : Respects (flip R) d where
  nil := h.nil
  join hxy hxy' := h.join hxy hxy'
  cut hxy := h.cut_right hxy
  cut_right hxy := h.cut hxy

lemma mem_iff (hxy : R x y) : d ∈ x ↔ d ∈ y := by
  constructor
  · intro hd
    obtain ⟨u, v, rfl⟩ := List.append_of_mem hd
    obtain ⟨z, z', rfl, -⟩ := h.cut hxy
    exact List.mem_append_right z List.mem_cons_self
  · intro hd
    obtain ⟨u, v, rfl⟩ := List.append_of_mem hd
    obtain ⟨z, z', rfl, -⟩ := h.cut_right hxy
    exact List.mem_append_right z List.mem_cons_self

/-- The first delimiters stand in the same place. -/
lemma cut_first (hx : d ∉ x) (hxy : R (x ++ d :: x') y) :
    ∃ z z', y = z ++ d :: z' ∧ d ∉ z ∧ R x z ∧ R x' z' := by
  obtain ⟨z, z', rfl, hz, hz'⟩ := h.cut hxy
  exact ⟨z, z', rfl, mt (h.mem_iff hz).mpr hx, hz, hz'⟩

/-- The last delimiters stand in the same place. -/
lemma cut_last (hx' : d ∉ x') (hxy : R (x ++ d :: x') y) :
    ∃ z z', y = z ++ d :: z' ∧ d ∉ z' ∧ R x z ∧ R x' z' := by
  obtain ⟨z, z', rfl, hz, hz'⟩ := h.cut hxy
  exact ⟨z, z', rfl, mt (h.mem_iff hz').mpr hx', hz, hz'⟩

lemma cons (hxy : R x y) : R (d :: x) (d :: y) := h.join h.nil hxy

lemma concat (hxy : R x y) : R (x ++ [d]) (y ++ [d]) := h.join hxy h.nil

/-- What stands before the first delimiter corresponds. -/
lemma takeWhile [DecidableEq α] (hxy : R x y) :
    R (x.takeWhile (· ≠ d)) (y.takeWhile (· ≠ d)) := by
  have hself : ∀ {x : List α}, d ∉ x → x.takeWhile (· ≠ d) = x := by
    intro x hd
    refine List.takeWhile_eq_self_iff.mpr fun b hb => ?_
    simpa using fun heq : b = d => hd (heq ▸ hb)
  have hfirst : ∀ {x x' : List α}, d ∉ x → (x ++ d :: x').takeWhile (· ≠ d) = x := by
    intro x x' hd
    rw [List.takeWhile_append_of_pos fun b hb => ?_]
    · simp
    · simpa using fun heq : b = d => hd (heq ▸ hb)
  by_cases hd : d ∈ x
  · obtain ⟨u, v, rfl, hu⟩ := List.eq_append_cons_of_mem hd
    obtain ⟨z, z', rfl, hz, huz, -⟩ := h.cut_first hu hxy
    rwa [hfirst hu, hfirst hz]
  · rwa [hself hd, hself (mt (h.mem_iff hxy).mpr hd)]

/-- The pieces between the delimiters correspond. -/
lemma splitOn [DecidableEq α] (hxy : R x y) :
    List.Forall₂ R (x.splitOn d) (y.splitOn d) := by
  induction hn : x.length using Nat.strong_induction_on generalizing x y with
  | _ n ih =>
    by_cases hd : d ∈ x
    · obtain ⟨u, v, rfl, hu⟩ := List.eq_append_cons_of_mem hd
      obtain ⟨z, z', rfl, hz, huz, hvz⟩ := h.cut_first hu hxy
      rw [List.splitOn_append_cons_self_of_not_mem hu,
        List.splitOn_append_cons_self_of_not_mem hz]
      refine .cons huz (ih v.length ?_ hvz rfl)
      rw [← hn, List.length_append, List.length_cons]
      omega
    · rw [List.splitOn_eq_singleton hd, List.splitOn_eq_singleton (mt (h.mem_iff hxy).mpr hd)]
      exact .cons hxy .nil

/-- Texts joined of corresponding pieces correspond. -/
lemma intercalate (hxs : List.Forall₂ R xs ys) :
    R ([d].intercalate xs) ([d].intercalate ys) := by
  induction hxs with
  | nil => simpa using h.nil
  | @cons x y xs ys hxy hxs ih =>
    cases hxs with
    | nil => simpa using hxy
    | cons =>
      rw [List.intercalate_cons_cons, List.intercalate_cons_cons]
      simpa using h.join hxy ih

end

section Unique

variable (h : Respects R d) (hR : Relator.BiUnique R)

include h hR

lemma eq_nil_iff (hxy : R x y) : x = [] ↔ y = [] := by
  constructor
  · rintro rfl
    exact hR.2 hxy h.nil
  · rintro rfl
    exact hR.1 hxy h.nil

/-- A text and what corresponds to it begin with a delimiter together. -/
lemma eq_cons_of_eq_cons (hxy : R (d :: x) y) : ∃ z, y = d :: z ∧ R x z := by
  obtain ⟨z, z', rfl, hz, hz'⟩ := h.cut (show R ([] ++ d :: x) y from hxy)
  obtain rfl := (h.eq_nil_iff hR hz).mp rfl
  exact ⟨z', rfl, hz'⟩

lemma head?_iff (hxy : R x y) : x.head? = some d ↔ y.head? = some d := by
  constructor
  · intro hx
    obtain ⟨x, rfl⟩ := List.head?_eq_some_iff.mp hx
    obtain ⟨z, rfl, -⟩ := h.eq_cons_of_eq_cons hR hxy
    rfl
  · intro hy
    obtain ⟨y, rfl⟩ := List.head?_eq_some_iff.mp hy
    obtain ⟨z, z', rfl, hz, -⟩ := h.cut_right (show R x ([] ++ d :: y) from hxy)
    obtain rfl := (h.eq_nil_iff hR hz).mpr rfl
    rfl

/-- A text and what corresponds to it end with a delimiter together. -/
lemma eq_concat_of_eq_concat (hxy : R (x ++ [d]) y) : ∃ z, y = z ++ [d] ∧ R x z := by
  obtain ⟨z, z', rfl, hz, hz'⟩ := h.cut hxy
  obtain rfl := (h.eq_nil_iff hR hz').mp rfl
  exact ⟨z, rfl, hz⟩

lemma getLast?_iff (hxy : R x y) : x.getLast? = some d ↔ y.getLast? = some d := by
  constructor
  · intro hx
    obtain ⟨x, rfl⟩ := List.getLast?_eq_some_iff.mp hx
    obtain ⟨z, rfl, -⟩ := h.eq_concat_of_eq_concat hR hxy
    simp
  · intro hy
    obtain ⟨y, rfl⟩ := List.getLast?_eq_some_iff.mp hy
    obtain ⟨z, z', rfl, -, hz'⟩ := h.cut_right hxy
    obtain rfl := (h.eq_nil_iff hR hz').mpr rfl
    simp

end Unique

end Respects

end Framework
