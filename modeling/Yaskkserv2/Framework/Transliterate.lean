import Yaskkserv2.Framework.Outcome

/-!
# Left-to-right transliteration

A converter reads a buffer from the left: at each place it decides from what lies ahead what to
write and how many elements that accounts for.  `translit next` is that process as a function of
the remaining input, for any reader `next`; `loop_eq_translit` says that a cursor loop over a
buffer whose turns follow `next` computes it, and never runs out of fuel.

`readUnits next` keeps the units apart: they are consecutive pieces of the input, what is written
for them makes up the output, and the turns of the loop take them one by one
(`exists_readUnits_of_reaches`).
-/

namespace Framework

variable {α β : Type*}

/-- Converts a list unit by unit.  The reader `next` sees the whole remaining input and returns
what it writes with the number of elements it used up; a unit uses up at least one. -/
def translit (next : List α → List β × ℕ) : List α → List β
  | [] => []
  | x :: xs =>
    (next (x :: xs)).1 ++ translit next ((x :: xs).drop (max 1 (next (x :: xs)).2))
termination_by l => l.length
decreasing_by
  simp only [List.length_drop, List.length_cons]
  omega

@[simp] lemma translit_nil (next : List α → List β × ℕ) : translit next [] = [] := by
  rw [translit]

lemma translit_of_ne_nil {next : List α → List β × ℕ} {l : List α} (h : l ≠ [])
    (hpos : 1 ≤ (next l).2) :
    translit next l = (next l).1 ++ translit next (l.drop (next l).2) := by
  cases l with
  | nil => exact absurd rfl h
  | cons x xs => rw [translit, max_eq_right hpos]

/-- Where the next unit is known, the conversion goes on after it. -/
lemma translit_append {next : List α → List β × ℕ} {u rest : List α} {out : List β}
    (h : next (u ++ rest) = (out, u.length)) (hu : u ≠ []) :
    translit next (u ++ rest) = out ++ translit next rest := by
  have hlen : 1 ≤ u.length := List.length_pos_iff.mpr hu
  rw [translit_of_ne_nil (by simp [hu]) (by rw [h]; exact hlen), h]
  simp

/-- A cursor loop whose turns follow `next` computes the conversion of the rest of its buffer. -/
theorem loop_eq_translit {ε : Type*} {β : Type} {next : List α → List β × ℕ} {buffer : List α}
    {step : ℕ × List β → Outcome ε ((ℕ × List β) ⊕ List β)}
    (turn : ∀ i acc, i < buffer.length → step (i, acc) = .ok
      (if buffer.length ≤ i + (next (buffer.drop i)).2
        then .inr (acc ++ (next (buffer.drop i)).1)
        else .inl (i + (next (buffer.drop i)).2, acc ++ (next (buffer.drop i)).1)))
    (pos : ∀ l, l ≠ [] → 1 ≤ (next l).2)
    {fuel i : ℕ} (acc : List β) (hi : i < buffer.length) (hfuel : buffer.length ≤ i + fuel) :
    loop step fuel (i, acc) = .ok (acc ++ translit next (buffer.drop i)) := by
  induction fuel generalizing i acc with
  | zero => omega
  | succ fuel ih =>
    have hne : buffer.drop i ≠ [] := by
      rw [ne_eq, List.drop_eq_nil_iff]
      omega
    have hpos := pos _ hne
    have hturn := turn i acc hi
    rw [translit_of_ne_nil hne hpos, List.drop_drop]
    by_cases hend : buffer.length ≤ i + (next (buffer.drop i)).2
    · rw [if_pos hend] at hturn
      rw [loop_break hturn, List.drop_eq_nil_of_le hend, translit_nil, List.append_nil]
    · rw [if_neg hend] at hturn
      rw [loop_continue hturn, ih _ (by omega) (by omega), List.append_assoc]

/-- A reader that does not see past a delimiter converts what stands in front of it by itself. -/
lemma translit_append_cons {next : List α → List β × ℕ} {d : α}
    (pos : ∀ l, l ≠ [] → 1 ≤ (next l).2) (le_length : ∀ l, l ≠ [] → (next l).2 ≤ l.length)
    (cut : ∀ l rest, l ≠ [] → d ∉ l → next (l ++ d :: rest) = next l) {x : List α} (hx : d ∉ x)
    (rest : List α) :
    translit next (x ++ d :: rest) = translit next x ++ translit next (d :: rest) := by
  induction x using translit.induct next with
  | case1 => rw [List.nil_append, translit_nil, List.nil_append]
  | case2 b bs ih =>
    have hne := List.cons_ne_nil b bs
    have hcut := cut _ rest hne hx
    have hpos := pos _ hne
    have hrest : d ∉ (b :: bs).drop (next (b :: bs)).2 := fun h => hx (List.mem_of_mem_drop h)
    rw [max_eq_right hpos] at ih
    rw [translit_of_ne_nil (by simp) (by rw [hcut]; exact hpos), hcut,
      List.drop_append_of_le_length (le_length _ hne), ih hrest, translit_of_ne_nil hne hpos,
      List.append_assoc]

/-! ## The units -/

/-- The units of a conversion, each with what is written for it. -/
def readUnits (next : List α → List β × ℕ) : List α → List (List α × List β)
  | [] => []
  | x :: xs =>
    ((x :: xs).take (max 1 (next (x :: xs)).2), (next (x :: xs)).1) ::
      readUnits next ((x :: xs).drop (max 1 (next (x :: xs)).2))
termination_by l => l.length
decreasing_by
  simp only [List.length_drop, List.length_cons]
  omega

@[simp] lemma readUnits_nil (next : List α → List β × ℕ) : readUnits next [] = [] := by
  rw [readUnits]

lemma readUnits_of_ne_nil {next : List α → List β × ℕ} {l : List α} (h : l ≠ [])
    (hpos : 1 ≤ (next l).2) :
    readUnits next l =
      (l.take (next l).2, (next l).1) :: readUnits next (l.drop (next l).2) := by
  cases l with
  | nil => exact absurd rfl h
  | cons x xs => rw [readUnits, max_eq_right hpos]

/-- Every element of the input is in one unit. -/
lemma flatten_map_fst_readUnits (next : List α → List β × ℕ) (l : List α) :
    ((readUnits next l).map Prod.fst).flatten = l := by
  induction l using readUnits.induct next with
  | case1 => simp
  | case2 x xs ih =>
    rw [readUnits, List.map_cons, List.flatten_cons, ih, List.take_append_drop]

/-- The output is what is written for the units. -/
lemma flatten_map_snd_readUnits (next : List α → List β × ℕ) (l : List α) :
    ((readUnits next l).map Prod.snd).flatten = translit next l := by
  induction l using readUnits.induct next with
  | case1 => simp
  | case2 x xs ih => rw [readUnits, List.map_cons, List.flatten_cons, ih, translit]

/-- A unit is what the reader takes where it begins. -/
lemma exists_of_mem_readUnits {next : List α → List β × ℕ} (pos : ∀ l, l ≠ [] → 1 ≤ (next l).2)
    {l : List α} {p : List α × List β} (h : p ∈ readUnits next l) :
    ∃ rest, rest ≠ [] ∧ p = (rest.take (next rest).2, (next rest).1) := by
  induction l using readUnits.induct next with
  | case1 => simp at h
  | case2 x xs ih =>
    have hne := List.cons_ne_nil x xs
    rw [readUnits, List.mem_cons] at h
    rcases h with rfl | h
    · exact ⟨x :: xs, hne, by rw [max_eq_right (pos _ hne)]⟩
    · exact ih h

/-- **The turns of the loop take the units one by one**: at the beginning of a turn the cursor
stands behind the units that have been read, and what they are written as has been written. -/
theorem exists_readUnits_of_reaches {ε : Type*} {β : Type} {next : List α → List β × ℕ}
    {buffer : List α} {step : ℕ × List β → Outcome ε ((ℕ × List β) ⊕ List β)}
    (turn : ∀ i acc, i < buffer.length → step (i, acc) = .ok
      (if buffer.length ≤ i + (next (buffer.drop i)).2
        then .inr (acc ++ (next (buffer.drop i)).1)
        else .inl (i + (next (buffer.drop i)).2, acc ++ (next (buffer.drop i)).1)))
    (pos : ∀ l, l ≠ [] → 1 ≤ (next l).2) (hbuffer : buffer ≠ []) {s : ℕ × List β}
    (h : Relation.ReflTransGen (fun s s' => step s = .ok (.inl s')) (0, []) s) :
    s.1 < buffer.length ∧ ∃ done,
      readUnits next buffer = done ++ readUnits next (buffer.drop s.1) ∧
      (done.map Prod.fst).flatten = buffer.take s.1 ∧ (done.map Prod.snd).flatten = s.2 := by
  induction h with
  | refl => exact ⟨List.length_pos_iff.mpr hbuffer, [], by simp⟩
  | @tail s s' _ hstep ih =>
    obtain ⟨hcursor, done, hunits, hread, hwritten⟩ := ih
    obtain ⟨i, acc⟩ := s
    have hne : buffer.drop i ≠ [] := by
      rw [ne_eq, List.drop_eq_nil_iff]
      exact Nat.not_le.mpr hcursor
    rw [turn i acc hcursor, Outcome.ok.injEq] at hstep
    split at hstep
    · simp at hstep
    · next hgoes =>
      obtain rfl := Sum.inl.inj hstep
      refine ⟨Nat.not_le.mp hgoes,
        done ++ [((buffer.drop i).take (next (buffer.drop i)).2, (next (buffer.drop i)).1)], ?_, ?_,
        ?_⟩
      · rw [hunits, readUnits_of_ne_nil hne (pos _ hne), List.drop_drop, List.append_assoc,
          List.singleton_append]
      · rw [List.map_append, List.flatten_append, hread, List.take_add]
        simp
      · rw [List.map_append, List.flatten_append, hwritten]
        simp

end Framework
