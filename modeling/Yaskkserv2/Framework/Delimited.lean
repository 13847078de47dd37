import Yaskkserv2.Framework.Occurrence

/-!
# Delimited pieces

A text that puts a delimiter before, between and after its pieces, so that every piece stands
between two delimiters and two neighbouring texts share one.  `delimited d xs` is the text;
`fitting` counts the leading pieces that a window takes in whole, and `rfind_take_delimited` says
that the last delimiter inside a window is the one after exactly these.
-/

namespace Framework

variable {α : Type*}

/-- The pieces, each between two delimiters. -/
def delimited (d : α) (xs : List (List α)) : List α := d :: xs.flatMap (fun x => x ++ [d])

variable {d : α} {x : List α} {xs ys : List (List α)}

@[simp] lemma delimited_nil : delimited d [] = [d] := rfl

lemma delimited_cons : delimited d (x :: xs) = d :: (x ++ delimited d xs) := by
  simp [delimited]

lemma delimited_ne_nil : delimited d xs ≠ [] := List.cons_ne_nil _ _

lemma length_delimited_pos (d : α) (xs : List (List α)) : 0 < (delimited d xs).length :=
  Nat.succ_pos _

@[simp] lemma length_delimited_cons :
    (delimited d (x :: xs)).length = x.length + 1 + (delimited d xs).length := by
  simp only [delimited_cons, List.length_cons, List.length_append]
  omega

/-- Two texts share the delimiter between them. -/
lemma delimited_append (d : α) (xs ys : List (List α)) :
    delimited d (xs ++ ys) = (delimited d xs).dropLast ++ delimited d ys := by
  induction xs with
  | nil => simp
  | cons x xs ih =>
    rw [List.cons_append, delimited_cons, ih, delimited_cons, List.dropLast_cons_of_ne_nil
      (by simp [delimited_ne_nil]), List.dropLast_append_of_ne_nil delimited_ne_nil]
    simp

lemma delimited_eq_dropLast_append : delimited d xs = (delimited d xs).dropLast ++ [d] := by
  simpa using delimited_append d xs []

/-- The delimiters before the pieces, and the one behind the last of them. -/
lemma flatMap_cons_append (d : α) (xs : List (List α)) :
    (xs.flatMap fun x => d :: x) ++ [d] = delimited d xs := by
  induction xs with
  | nil => rfl
  | cons x xs ih => rw [List.flatMap_cons, List.append_assoc, ih, List.cons_append, delimited_cons]

/-- A transformation of texts that goes over the pieces one by one. -/
lemma map_delimited {β : Type*} {e : β} {f : List α → List β} (hend : f [d] = [e])
    (h : ∀ x ∈ xs, ∀ text, f (d :: (x ++ d :: text)) = e :: (f x ++ f (d :: text))) :
    f (delimited d xs) = delimited e (xs.map f) := by
  induction xs with
  | nil => exact hend
  | cons x xs ih =>
    have hrest : delimited d xs = d :: xs.flatMap (fun x => x ++ [d]) := rfl
    have htail := ih fun y hy => h y (List.mem_cons_of_mem x hy)
    rw [delimited_cons, hrest, h x List.mem_cons_self, ← hrest, htail, List.map_cons,
      delimited_cons]

/-! ## Up to a delimiter -/

/-- A text without the delimiter is a prefix of a text when it is one of what stands before the
delimiter there. -/
lemma prefix_append_cons_iff {p y rest : List α} (hp : d ∉ p) :
    p <+: y ++ d :: rest ↔ p <+: y := by
  constructor
  · intro h
    induction p generalizing y with
    | nil => exact List.nil_prefix
    | cons a p ih =>
      rw [List.mem_cons, not_or] at hp
      cases y with
      | nil =>
        rw [List.nil_append, List.cons_prefix_cons] at h
        exact absurd h.1.symm hp.1
      | cons b y =>
        rw [List.cons_append, List.cons_prefix_cons] at h
        rw [List.cons_prefix_cons]
        exact ⟨h.1, ih hp.2 h.2⟩
  · exact fun h => h.trans (List.prefix_append _ _)

/-- Two texts that end at the same delimiter are equal. -/
lemma eq_of_isPrefix_append_cons {p y rest rest' : List α} (hp : d ∉ p) (hy : d ∉ y)
    (h : p ++ d :: rest <+: y ++ d :: rest') : p = y := by
  obtain ⟨t, rfl⟩ := (prefix_append_cons_iff hp).mp ((List.prefix_append _ _).trans h)
  rw [List.append_assoc, List.prefix_append_right_inj] at h
  cases t with
  | nil => rw [List.append_nil]
  | cons b t =>
    rw [List.cons_append, List.cons_prefix_cons] at h
    exact absurd (by simp [h.1]) hy

/-- Pieces without the delimiter are told from their text. -/
lemma delimited_inj (hxs : ∀ x ∈ xs, d ∉ x) (hys : ∀ y ∈ ys, d ∉ y)
    (h : delimited d xs = delimited d ys) : xs = ys := by
  induction xs generalizing ys with
  | nil =>
    cases ys with
    | nil => rfl
    | cons y ys => simp [delimited] at h
  | cons x xs ih =>
    cases ys with
    | nil => simp [delimited] at h
    | cons y ys =>
      obtain ⟨hx, hxs⟩ := List.forall_mem_cons.mp hxs
      obtain ⟨hy, hys'⟩ := List.forall_mem_cons.mp hys
      rw [delimited_cons, delimited_cons] at h
      have htail : x ++ delimited d xs = y ++ delimited d ys := (List.cons.inj h).2
      have hprefix : x ++ delimited d xs <+: y ++ delimited d ys := by rw [htail]
      have hfirst : x = y := eq_of_isPrefix_append_cons hx hy hprefix
      rw [hfirst] at htail
      rw [hfirst, ih hxs hys' (List.append_cancel_left htail)]

/-! ## What fits into a window -/

/-- The number of leading pieces whose lengths, each with one delimiter, add up to at most
`budget`. -/
def fitting : ℕ → List (List α) → ℕ
  | _, [] => 0
  | budget, x :: xs =>
    if x.length + 1 ≤ budget then fitting (budget - (x.length + 1)) xs + 1 else 0

lemma fitting_le_length (budget : ℕ) (xs : List (List α)) : fitting budget xs ≤ xs.length := by
  induction xs generalizing budget with
  | nil => simp [fitting]
  | cons x xs ih =>
    rw [fitting]
    split
    · simpa using ih _
    · omega

lemma fitting_pos {budget : ℕ} (h : x.length + 1 ≤ budget) : 0 < fitting budget (x :: xs) := by
  rw [fitting, if_pos h]
  omega

lemma fitting_cons_eq_zero {budget : ℕ} :
    fitting budget (x :: xs) = 0 ↔ budget < x.length + 1 := by
  rw [fitting]
  split <;> omega

/-- The pieces that fit, with all their delimiters, are no longer than the window. -/
lemma length_delimited_take_fitting_le (budget : ℕ) (xs : List (List α)) :
    (delimited d (xs.take (fitting budget xs))).length ≤ budget + 1 := by
  induction xs generalizing budget with
  | nil => simp [fitting]
  | cons x xs ih =>
    rw [fitting]
    split
    · have htail := ih (budget - (x.length + 1))
      rw [List.take_succ_cons, length_delimited_cons]
      omega
    · simp

/-- Everything fits as soon as the whole text does. -/
lemma fitting_eq_length {budget : ℕ} (h : (delimited d xs).length ≤ budget + 1) :
    fitting budget xs = xs.length := by
  induction xs generalizing budget with
  | nil => rfl
  | cons x xs ih =>
    have hpos := length_delimited_pos d xs
    rw [length_delimited_cons] at h
    rw [fitting, if_pos (by omega), ih (by omega), List.length_cons]

/-- Not everything fits if the text is longer than the window. -/
lemma fitting_lt_length {budget : ℕ} (h : budget + 1 < (delimited d xs).length) :
    fitting budget xs < xs.length := by
  have hle := fitting_le_length budget xs
  refine lt_of_le_of_ne hle fun heq => ?_
  have hfits := length_delimited_take_fitting_le (d := d) budget xs
  rw [heq, List.take_length] at hfits
  omega

/-! ## Finding the delimiters -/

variable [DecidableEq α]

/-- A search that begins at a delimiter looks at the front of a piece, or goes on behind it. -/
lemma find_delimited_cons {q : List α} (hx : d ∉ x) :
    find (d :: q) (delimited d (x :: xs)) =
      if q <+: x ++ delimited d xs then some 0
      else (find (d :: q) (delimited d xs)).map (· + (x.length + 1)) := by
  have hhead : d :: q <+: d :: (x ++ delimited d xs) ↔ q <+: x ++ delimited d xs := by
    rw [List.cons_prefix_cons]
    exact and_iff_right rfl
  rw [delimited_cons, find]
  simp only [hhead]
  split
  · rfl
  · rw [find_append_of_not_isPrefix, Option.map_map]
    · rfl
    · intro j hj hstart
      rw [List.drop_append_of_le_length hj.le, List.drop_eq_getElem_cons hj, List.cons_append,
        List.cons_prefix_cons] at hstart
      exact hx (hstart.1 ▸ List.getElem_mem hj)

/-- **What a search that begins at a delimiter finds**: the first piece that goes on with the
rest of the pattern. -/
theorem find_delimited_eq_some {q : List α} (hq : q ≠ []) (hxs : ∀ x ∈ xs, d ∉ x) {i : ℕ}
    (h : find (d :: q) (delimited d xs) = some i) :
    ∃ pre x post, xs = pre ++ x :: post ∧ i + 1 = (delimited d pre).length ∧
      q <+: x ++ delimited d post ∧
      ∀ pre' y post', pre = pre' ++ y :: post' →
        ¬ q <+: y ++ delimited d (post' ++ x :: post) := by
  induction xs generalizing i with
  | nil => simp [find, hq] at h
  | cons x xs ih =>
    rw [find_delimited_cons (hxs x List.mem_cons_self)] at h
    split at h
    · rename_i hstart
      rw [Option.some.injEq] at h
      subst h
      exact ⟨[], x, xs, rfl, rfl, hstart, by simp⟩
    · rename_i hnot
      obtain ⟨k, hk, rfl⟩ := Option.map_eq_some_iff.mp h
      obtain ⟨pre, y, post, rfl, hlen, hstart, hfirst⟩ :=
        ih (fun z hz => hxs z (List.mem_cons_of_mem x hz)) hk
      refine ⟨x :: pre, y, post, rfl, ?_, hstart, ?_⟩
      · rw [length_delimited_cons]
        omega
      · intro pre' z post' hsplit
        cases pre' with
        | nil =>
          obtain ⟨rfl, rfl⟩ := List.cons.inj hsplit
          exact hnot
        | cons w pre' =>
          obtain ⟨rfl, hrest⟩ := List.cons.inj hsplit
          exact hfirst pre' z post' hrest

/-- Where the search finds nothing, no piece goes on with the rest of the pattern. -/
theorem find_delimited_eq_none {q : List α} (hxs : ∀ x ∈ xs, d ∉ x)
    (h : find (d :: q) (delimited d xs) = none) {pre post : List (List α)}
    (hsplit : xs = pre ++ x :: post) : ¬ q <+: x ++ delimited d post := by
  induction xs generalizing pre with
  | nil => simp at hsplit
  | cons y xs ih =>
    rw [find_delimited_cons (hxs y List.mem_cons_self)] at h
    split at h
    · simp at h
    · rename_i hnot
      rw [Option.map_eq_none_iff] at h
      cases pre with
      | nil =>
        obtain ⟨rfl, rfl⟩ := List.cons.inj hsplit
        exact hnot
      | cons z pre =>
        obtain ⟨rfl, hrest⟩ := List.cons.inj hsplit
        exact ih (fun w hw => hxs w (List.mem_cons_of_mem _ hw)) h hrest

/-- **The last delimiter in a window** is the one that ends the last piece that fits. -/
theorem rfind_take_delimited (hxs : ∀ x ∈ xs, d ∉ x) {window : ℕ} (hwindow : 0 < window) :
    rfind [d] ((delimited d xs).take window) =
      some ((delimited d (xs.take (fitting (window - 1) xs))).length - 1) := by
  induction xs generalizing window with
  | nil =>
    obtain ⟨w, rfl⟩ : ∃ w, window = w + 1 := ⟨window - 1, by omega⟩
    simp [fitting, rfind]
  | cons x xs ih =>
    obtain ⟨w, rfl⟩ : ∃ w, window = w + 1 := ⟨window - 1, by omega⟩
    rw [delimited_cons, List.take_succ_cons, fitting, Nat.add_sub_cancel]
    by_cases hfits : x.length + 1 ≤ w
    · have hrest : 0 < w - x.length := by omega
      have htail := ih (fun y hy => hxs y (List.mem_cons_of_mem x hy)) hrest
      have hpos := length_delimited_pos d (xs.take (fitting (w - (x.length + 1)) xs))
      rw [if_pos hfits, List.take_succ_cons, length_delimited_cons, List.take_append,
        List.take_of_length_le (by omega), ← List.cons_append]
      rw [Nat.sub_sub] at htail
      rw [rfind_append_of_eq_some htail, Option.some.injEq, List.length_cons]
      omega
    · have hshort : (x ++ delimited d xs).take w = x.take w :=
        List.take_append_of_le_length (by omega)
      have hd : d ∉ x.take w := fun hmem =>
        hxs x List.mem_cons_self (List.mem_of_mem_take hmem)
      have hfirst : rfind [d] ([] ++ d :: x.take w) = some 0 := rfind_singleton hd
      rw [if_neg hfits, hshort]
      exact hfirst

end Framework
