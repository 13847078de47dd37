import Yaskkserv2.Framework.Delimited

/-!
# Splitting at a delimiter

The pieces of a text between its delimiters (`List.splitOn`): they are parts of the text, none of
them holds the delimiter, and a text that puts a delimiter around its pieces is split into them
(`splitOn_delimited`), with an empty piece at either end.
-/

namespace Framework

variable {α : Type*} [DecidableEq α] {d : α} {text : List α} {x : List α} {xs : List (List α)}

lemma splitOn_cons_self : (d :: text).splitOn d = [] :: text.splitOn d := by
  rw [List.splitOn_cons_eq_if_modifyHead, if_pos (by simp)]

lemma splitOn_cons_of_ne {b : α} (h : b ≠ d) :
    (b :: text).splitOn d = (text.splitOn d).modifyHead (b :: ·) := by
  rw [List.splitOn_cons_eq_if_modifyHead, if_neg (by simpa using h)]

/-- No piece holds the delimiter. -/
lemma not_mem_of_mem_splitOn (h : x ∈ text.splitOn d) : d ∉ x := by
  induction text generalizing x with
  | nil => simp_all
  | cons b text ih =>
    by_cases hb : b = d
    · subst hb
      rw [splitOn_cons_self] at h
      rcases List.mem_cons.mp h with rfl | h
      · exact List.not_mem_nil
      · exact ih h
    · rw [splitOn_cons_of_ne hb] at h
      cases hsplit : text.splitOn d with
      | nil => exact absurd hsplit (List.splitOn_ne_nil d text)
      | cons y ys =>
        rw [hsplit, List.modifyHead_cons] at h
        rcases List.mem_cons.mp h with rfl | h
        · have hy := ih (hsplit ▸ List.mem_cons_self)
          simp [hy, Ne.symm hb]
        · exact ih (hsplit ▸ List.mem_cons_of_mem y h)

/-- What a piece holds the text holds. -/
lemma mem_of_mem_splitOn {b : α} (h : x ∈ text.splitOn d) (hb : b ∈ x) : b ∈ text := by
  induction text generalizing x with
  | nil => simp_all
  | cons c text ih =>
    by_cases hc : c = d
    · subst hc
      rw [splitOn_cons_self] at h
      rcases List.mem_cons.mp h with rfl | h
      · exact absurd hb List.not_mem_nil
      · exact List.mem_cons_of_mem _ (ih h hb)
    · rw [splitOn_cons_of_ne hc] at h
      cases hsplit : text.splitOn d with
      | nil => exact absurd hsplit (List.splitOn_ne_nil d text)
      | cons y ys =>
        rw [hsplit, List.modifyHead_cons] at h
        rcases List.mem_cons.mp h with rfl | h
        · rcases List.mem_cons.mp hb with rfl | hb
          · exact List.mem_cons_self
          · exact List.mem_cons_of_mem _ (ih (hsplit ▸ List.mem_cons_self) hb)
        · exact List.mem_cons_of_mem _ (ih (hsplit ▸ List.mem_cons_of_mem y h) hb)

omit [DecidableEq α] in
/-- Delimiters around the pieces are delimiters between them, and one at either end. -/
lemma delimited_eq_intercalate (h : xs ≠ []) :
    delimited d xs = d :: ([d].intercalate xs ++ [d]) := by
  induction xs with
  | nil => exact absurd rfl h
  | cons x xs ih =>
    cases xs with
    | nil => simp [delimited_cons]
    | cons y ys =>
      rw [delimited_cons, ih (List.cons_ne_nil y ys), List.intercalate_cons_cons]
      simp

/-- What stands before the first delimiter belongs to the first piece. -/
lemma splitOn_append (hx : d ∉ x) :
    (x ++ text).splitOn d = (text.splitOn d).modifyHead (x ++ ·) := by
  induction x with
  | nil => cases h : text.splitOn d <;> simp [h]
  | cons b x ih =>
    rw [List.mem_cons, not_or] at hx
    rw [List.cons_append, splitOn_cons_of_ne (Ne.symm hx.1), ih hx.2]
    cases text.splitOn d <;> rfl

/-- A text that puts a delimiter before each of its pieces is split into an empty piece and them. -/
lemma splitOn_flatMap_cons (hxs : ∀ x ∈ xs, d ∉ x) :
    (xs.flatMap (d :: ·)).splitOn d = [] :: xs := by
  induction xs with
  | nil => rfl
  | cons x xs ih =>
    have hrest := ih fun y hy => hxs y (List.mem_cons_of_mem x hy)
    rw [List.flatMap_cons, List.cons_append, splitOn_cons_self, splitOn_append (hxs x (by simp)),
      hrest, List.modifyHead_cons, List.append_nil]

/-- A text with delimiters around its pieces is split into them. -/
lemma splitOn_delimited (hxs : ∀ x ∈ xs, d ∉ x) :
    (delimited d xs).splitOn d = [] :: (xs ++ [[]]) := by
  induction xs with
  | nil => rw [delimited_nil, splitOn_cons_self, List.splitOn_nil, List.nil_append]
  | cons x xs ih =>
    obtain ⟨hx, hxs⟩ := List.forall_mem_cons.mp hxs
    have htail : delimited d xs = d :: xs.flatMap (fun x => x ++ [d]) := rfl
    have hsplit := ih hxs
    rw [htail, splitOn_cons_self, List.cons_inj_right] at hsplit
    rw [delimited_cons, splitOn_cons_self, htail, List.splitOn_append_cons_self_of_not_mem hx,
      hsplit, List.cons_append]

/-- A text between two delimiters that has no two of them in a row is pieces with delimiters around
them, and none of the pieces is empty. -/
lemma exists_delimited {mid : List α} (h : ¬ [d, d] <:+: d :: (mid ++ [d])) :
    d :: (mid ++ [d]) = delimited d (mid.splitOn d) ∧ ∀ x ∈ mid.splitOn d, x ≠ [] := by
  have hne : mid.splitOn d ≠ [] := List.splitOn_ne_nil d mid
  have htext : d :: (mid ++ [d]) = delimited d (mid.splitOn d) := by
    rw [delimited_eq_intercalate hne, List.intercalate_splitOn]
  refine ⟨htext, ?_⟩
  rintro x hx rfl
  -- an empty piece stands between two delimiters
  obtain ⟨pre, post, hsplit⟩ := List.append_of_mem hx
  obtain ⟨rest, hrest⟩ : ∃ rest, delimited d post = d :: rest := ⟨_, rfl⟩
  refine h ⟨(delimited d pre).dropLast, rest, ?_⟩
  rw [htext, hsplit, delimited_append, delimited_cons, List.nil_append, hrest]
  simp

/-- Pieces that are not empty keep their delimiters apart. -/
lemma find_pair_delimited (hne : ∀ x ∈ xs, x ≠ []) (hxs : ∀ x ∈ xs, d ∉ x) :
    find [d, d] (delimited d xs) = none := by
  induction xs with
  | nil => simp [find]
  | cons x xs ih =>
    obtain ⟨hx, hrest⟩ := List.forall_mem_cons.mp hxs
    obtain ⟨hxne, hrestne⟩ := List.forall_mem_cons.mp hne
    have hnot : ¬ [d] <+: x ++ delimited d xs := by
      obtain ⟨b, bs, rfl⟩ := List.exists_cons_of_ne_nil hxne
      rw [List.cons_append, List.cons_prefix_cons]
      rintro ⟨rfl, -⟩
      exact hx List.mem_cons_self
    rw [find_delimited_cons hx, if_neg hnot, ih hrestne hrest]
    rfl

end Framework
