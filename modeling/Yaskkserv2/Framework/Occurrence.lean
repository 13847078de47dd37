import Yaskkserv2.Framework.Outcome

/-!
# First and last occurrence of a pattern

`find p l` is the first position at which the pattern `p` occurs in the list `l`, `rfind p l`
the last one; both are executable, and both are characterised by the prefix relation on the
suffixes of `l` (`find_eq_some_iff`, `rfind_eq_some_iff`).

Most searches are for a single element, a delimiter.  For those the lemmas read the answer off a
decomposition of the list around an occurrence: `find_singleton` when the element does not occur
before it, `rfind_singleton` when it does not occur after it.
-/

namespace Framework

variable {α : Type*} [DecidableEq α]

/-- The first position at which `p` occurs in the list. -/
def find (p : List α) : List α → Option ℕ
  | [] => if p = [] then some 0 else none
  | x :: xs => if p <+: x :: xs then some 0 else (find p xs).map (· + 1)

/-- The last position at which `p` occurs in the list. -/
def rfind (p : List α) : List α → Option ℕ
  | [] => if p = [] then some 0 else none
  | x :: xs =>
    match rfind p xs with
    | some i => some (i + 1)
    | none => if p <+: x :: xs then some 0 else none

/-! ## The first occurrence -/

lemma find_eq_none_iff {p l : List α} :
    find p l = none ↔ ∀ j ≤ l.length, ¬ p <+: l.drop j := by
  induction l with
  | nil => simp [find]
  | cons x xs ih =>
    rw [find]
    split
    · rename_i h
      simp only [reduceCtorEq, false_iff, not_forall, not_not]
      exact ⟨0, Nat.zero_le _, h⟩
    · rename_i h
      rw [Option.map_eq_none_iff, ih]
      constructor
      · intro hxs j hj
        cases j with
        | zero => exact h
        | succ j => exact hxs j (by simpa using hj)
      · intro hall j hj
        exact hall (j + 1) (by simpa using hj)

lemma find_eq_none_iff_not_isInfix {p l : List α} : find p l = none ↔ ¬ p <:+: l := by
  rw [find_eq_none_iff]
  constructor
  · rintro h ⟨x, y, rfl⟩
    refine h x.length (by simp) ⟨y, ?_⟩
    simp
  · rintro h j - ⟨y, hy⟩
    refine h ⟨l.take j, y, ?_⟩
    rw [List.append_assoc, hy, List.take_append_drop]

lemma find_eq_some_iff {p l : List α} {i : ℕ} :
    find p l = some i ↔
      i ≤ l.length ∧ p <+: l.drop i ∧ ∀ j < i, ¬ p <+: l.drop j := by
  induction l generalizing i with
  | nil =>
    cases i with
    | zero => simp [find]
    | succ i => simp [find]
  | cons x xs ih =>
    rw [find]
    split
    · rename_i h
      constructor
      · rintro ⟨rfl⟩
        exact ⟨Nat.zero_le _, h, by omega⟩
      · rintro ⟨-, -, hmin⟩
        cases i with
        | zero => rfl
        | succ i => exact absurd h (hmin 0 (Nat.succ_pos i))
    · rename_i h
      rw [Option.map_eq_some_iff]
      constructor
      · rintro ⟨k, hk, rfl⟩
        obtain ⟨hle, hp, hmin⟩ := ih.mp hk
        refine ⟨by simpa using hle, hp, fun j hj => ?_⟩
        cases j with
        | zero => exact h
        | succ j => exact hmin j (by omega)
      · rintro ⟨hle, hp, hmin⟩
        cases i with
        | zero => exact absurd hp h
        | succ i =>
          exact ⟨i, ih.mpr ⟨by simpa using hle, hp, fun j hj => hmin (j + 1) (by omega)⟩, rfl⟩

/-- A pattern that occurs somewhere is found, at or before that place. -/
lemma find_singleton {c : α} {xs ys : List α} (h : c ∉ xs) :
    find [c] (xs ++ c :: ys) = some xs.length := by
  refine find_eq_some_iff.mpr ⟨by simp, by simp, fun j hj hp => h ?_⟩
  rw [List.drop_append_of_le_length hj.le, List.drop_eq_getElem_cons hj, List.cons_append,
    List.cons_prefix_cons] at hp
  rw [hp.1]
  exact List.getElem_mem hj

lemma find_singleton_eq_none {c : α} {xs : List α} (h : c ∉ xs) : find [c] xs = none := by
  refine find_eq_none_iff.mpr fun j _ hp => h ?_
  exact List.mem_of_mem_drop (hp.subset (List.mem_singleton_self c))

/-- Where a single element is found, the list splits around its first occurrence. -/
lemma find_singleton_eq_some {c : α} {l : List α} {i : ℕ} (h : find [c] l = some i) :
    ∃ xs ys, l = xs ++ c :: ys ∧ c ∉ xs ∧ xs.length = i := by
  by_cases hc : c ∈ l
  · obtain ⟨xs, ys, rfl, hxs⟩ := List.eq_append_cons_of_mem hc
    refine ⟨xs, ys, rfl, hxs, ?_⟩
    rw [find_singleton hxs] at h
    exact Option.some.inj h
  · rw [find_singleton_eq_none hc] at h
    exact absurd h (by simp)

lemma find_singleton_isSome {c : α} {l : List α} : (find [c] l).isSome ↔ c ∈ l := by
  constructor
  · intro h
    obtain ⟨i, hi⟩ := Option.isSome_iff_exists.mp h
    obtain ⟨xs, ys, rfl, -, -⟩ := find_singleton_eq_some hi
    simp
  · intro h
    obtain ⟨xs, ys, rfl, hxs⟩ := List.eq_append_cons_of_mem h
    rw [find_singleton hxs]
    rfl

/-- Where no occurrence begins in the first half of a text, the search goes on in the second. -/
lemma find_append_of_not_isPrefix {p xs ys : List α}
    (h : ∀ j < xs.length, ¬ p <+: (xs ++ ys).drop j) :
    find p (xs ++ ys) = (find p ys).map (· + xs.length) := by
  induction xs with
  | nil => simp
  | cons x xs ih =>
    have hzero : ¬ p <+: x :: (xs ++ ys) := h 0 (by simp)
    rw [List.cons_append, find, if_neg hzero, ih, Option.map_map]
    · congr 1
    · intro j hj
      exact h (j + 1) (by simpa using hj)

/-! ## The last occurrence -/

lemma rfind_eq_none_iff {p l : List α} :
    rfind p l = none ↔ ∀ j ≤ l.length, ¬ p <+: l.drop j := by
  induction l with
  | nil => simp [rfind]
  | cons x xs ih =>
    rw [rfind]
    cases h : rfind p xs with
    | some i =>
      simp only [reduceCtorEq, false_iff, not_forall, not_not]
      rw [h] at ih
      simp only [reduceCtorEq, false_iff, not_forall, not_not] at ih
      obtain ⟨j, hj, hp⟩ := ih
      exact ⟨j + 1, by simpa using hj, hp⟩
    | none =>
      have hxs := ih.mp h
      constructor
      · intro hif j hj
        cases j with
        | zero =>
          intro hp
          rw [List.drop_zero] at hp
          simp [hp] at hif
        | succ j => exact hxs j (by simpa using hj)
      · intro hall
        exact if_neg (hall 0 (Nat.zero_le _))

lemma rfind_eq_some_iff {p l : List α} {i : ℕ} :
    rfind p l = some i ↔
      i ≤ l.length ∧ p <+: l.drop i ∧ ∀ j, i < j → j ≤ l.length → ¬ p <+: l.drop j := by
  induction l generalizing i with
  | nil =>
    cases i with
    | zero =>
      simp only [rfind, List.length_nil, Nat.le_refl, List.drop_nil, List.prefix_nil, true_and]
      constructor
      · intro h
        refine ⟨?_, by omega⟩
        by_contra hp
        simp [hp] at h
      · rintro ⟨rfl, -⟩
        rfl
    | succ i => simp [rfind]
  | cons x xs ih =>
    rw [rfind]
    cases h : rfind p xs with
    | some k =>
      obtain ⟨hle, hp, hmax⟩ := ih.mp h
      simp only [Option.some.injEq]
      constructor
      · rintro rfl
        refine ⟨by simpa using hle, hp, fun j hj hlen => ?_⟩
        cases j with
        | zero => omega
        | succ j => exact hmax j (by omega) (by simpa using hlen)
      · rintro ⟨hle', hp', hmax'⟩
        cases i with
        | zero => exact absurd hp (hmax' (k + 1) (by omega) (by simpa using hle))
        | succ i =>
          have hi := ih.mpr ⟨by simpa using hle', hp', fun j hj hlen =>
            hmax' (j + 1) (by omega) (by simpa using hlen)⟩
          rw [h, Option.some.injEq] at hi
          omega
    | none =>
      have hnone := rfind_eq_none_iff.mp h
      constructor
      · intro hif
        obtain ⟨hp, rfl⟩ : p <+: x :: xs ∧ 0 = i := by
          by_cases hp : p <+: x :: xs
          · exact ⟨hp, by simpa [hp] using hif⟩
          · simp [hp] at hif
        refine ⟨Nat.zero_le _, hp, fun j hj hlen => ?_⟩
        cases j with
        | zero => omega
        | succ j => exact hnone j (by simpa using hlen)
      · rintro ⟨hle', hp', -⟩
        cases i with
        | zero => exact if_pos hp'
        | succ i => exact absurd hp' (hnone i (by simpa using hle'))

/-- What is found in the second half of a text is found last in the whole. -/
lemma rfind_append_of_eq_some {p l : List α} {i : ℕ} (h : rfind p l = some i) (pre : List α) :
    rfind p (pre ++ l) = some (pre.length + i) := by
  induction pre with
  | nil => simpa using h
  | cons x pre ih =>
    rw [List.cons_append, rfind, ih, List.length_cons]
    simp only [Option.some.injEq]
    omega

lemma rfind_singleton {c : α} {xs ys : List α} (h : c ∉ ys) :
    rfind [c] (xs ++ c :: ys) = some xs.length := by
  refine rfind_eq_some_iff.mpr ⟨by simp, by simp, fun j hj _ hp => h ?_⟩
  have hdrop : (xs ++ c :: ys).drop j = ys.drop (j - xs.length - 1) := by
    rw [List.drop_append, List.drop_eq_nil_of_le (by omega), List.nil_append]
    obtain ⟨k, hk⟩ : ∃ k, j - xs.length = k + 1 := ⟨j - xs.length - 1, by omega⟩
    rw [hk, List.drop_succ_cons]
    rfl
  rw [hdrop] at hp
  exact List.mem_of_mem_drop (hp.subset (List.mem_singleton_self c))

lemma rfind_singleton_eq_none {c : α} {xs : List α} (h : c ∉ xs) : rfind [c] xs = none := by
  refine rfind_eq_none_iff.mpr fun j _ hp => h ?_
  exact List.mem_of_mem_drop (hp.subset (List.mem_singleton_self c))

omit [DecidableEq α] in
/-- A list around the last occurrence of an element. -/
lemma exists_last_of_mem {c : α} {l : List α} (h : c ∈ l) :
    ∃ xs ys, l = xs ++ c :: ys ∧ c ∉ ys := by
  obtain ⟨ys, xs, hrev, hys⟩ := List.eq_append_cons_of_mem (List.mem_reverse.mpr h)
  refine ⟨xs.reverse, ys.reverse, ?_, by simpa using hys⟩
  rw [← List.reverse_reverse l, hrev]
  simp

end Framework
