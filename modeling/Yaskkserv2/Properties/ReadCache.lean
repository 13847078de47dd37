import Yaskkserv2.Server.DictionaryReader

/-!
# The read cache of the dictionary file

`DictionaryFile::read` keeps the bytes it read last under their position and length, and answers
the same request from them.  The key is noted before the file is read, so a read that fails leaves
its key over whatever it has left in the buffer, and the same request, made again at once, returns
that.  Every other read gives the bytes of the file: a run of reads is right where no failure is
repeated (`areRight_of_noneRepeatsFailure`).
-/

namespace Yaskkserv2

open Framework

namespace DictionaryFile

variable {f : DictionaryFile} {c : ℕ × ℕ}

/-- The call asks for something else than what the file is keyed by. -/
abbrev IsMiss (f : DictionaryFile) (c : ℕ × ℕ) : Prop := f.seekPosition ≠ c.1 ∨ f.readLength ≠ c.2

/-- The call goes to the file and fails there: at the seek or in the read, or because the file
ends. -/
def Fails (f : DictionaryFile) (c : ℕ × ℕ) : Prop :=
  f.IsMiss c ∧ (f.faults.head?.join.isSome ∨ ¬ c.2 ≤ f.file.length - c.1)

instance (f : DictionaryFile) (c : ℕ × ℕ) : Decidable (f.Fails c) :=
  inferInstanceAs (Decidable (_ ∧ _))

/-- If the call returns bytes, they are those of the file at its position. -/
def IsRight (f : DictionaryFile) (c : ℕ × ℕ) : Prop :=
  ∀ bytes, (f.read c.1 c.2).1 = .ok bytes → readExact f.file c.1 c.2 = .ok bytes

/-- Every call of a run is right. -/
def AreRight : DictionaryFile → List (ℕ × ℕ) → Prop
  | _, [] => True
  | f, c :: rest => f.IsRight c ∧ (f.read c.1 c.2).2.AreRight rest

/-- No call of a run that fails is made again at once, unless it reads nothing. -/
def NoneRepeatsFailure : DictionaryFile → List (ℕ × ℕ) → Prop
  | _, [] => True
  | f, c :: rest =>
    (f.Fails c → rest.head? = some c → c.2 = 0) ∧ (f.read c.1 c.2).2.NoneRepeatsFailure rest

/-- What is kept of the last read is what the file holds there. -/
structure IsKept (f : DictionaryFile) : Prop where
  readLength_le : f.readLength ≤ f.buffer.length
  bytes : readExact f.file f.seekPosition f.readLength = .ok (f.buffer.take f.readLength)

lemma readExact_of_le {file : Bytes} {position length : ℕ} (h : length ≤ file.length - position) :
    readExact file position length = .ok ((file.drop position).take length) := by
  apply if_pos
  rw [List.length_take, List.length_drop]
  omega

lemma readExact_of_not_le {file : Bytes} {position length : ℕ}
    (h : ¬ length ≤ file.length - position) : readExact file position length = .error .io := by
  apply if_neg
  rw [List.length_take, List.length_drop]
  omega

lemma isKept_new (file : Bytes) (bufferLength : ℕ) (faults : List (Option Bytes)) :
    IsKept { new file bufferLength with faults := faults } where
  readLength_le := Nat.zero_le _
  bytes := readExact_of_le (Nat.zero_le _)

/-- A read of nothing keeps what the file holds, also where it fails. -/
lemma isKept_of_readLength_eq_zero (h : f.readLength = 0) : f.IsKept where
  readLength_le := h ▸ Nat.zero_le _
  bytes := by
    rw [h, readExact_of_le (Nat.zero_le _), List.take_zero, List.take_zero]

/-- A call that fails says so, and leaves its key. -/
lemma read_of_fails (h : f.Fails c) :
    (f.read c.1 c.2).1 = .error .io ∧ (f.read c.1 c.2).2.file = f.file ∧
      (f.read c.1 c.2).2.seekPosition = c.1 ∧ (f.read c.1 c.2).2.readLength = c.2 := by
  obtain ⟨hmiss, hfails⟩ := h
  unfold read
  rw [if_pos hmiss]
  cases hfault : f.faults.head?.join with
  | some left => exact ⟨rfl, rfl, rfl, rfl⟩
  | none =>
    have hend : ¬ c.2 ≤ f.file.length - c.1 := by simpa [hfault] using hfails
    dsimp only
    rw [readExact_of_not_le hend]
    exact ⟨rfl, rfl, rfl, rfl⟩

/-- A call that goes to the file, or finds kept what the file holds, is right and keeps what it has
read, unless it fails. -/
lemma read_of_not_fails (hfails : ¬ f.Fails c) (hkept : f.IsMiss c ∨ f.IsKept) :
    (∃ bytes, (f.read c.1 c.2).1 = .ok bytes ∧ readExact f.file c.1 c.2 = .ok bytes) ∧
      (f.read c.1 c.2).2.file = f.file ∧ (f.read c.1 c.2).2.IsKept := by
  by_cases hmiss : f.IsMiss c
  · obtain ⟨hfault, hend⟩ := not_or.mp fun h => hfails ⟨hmiss, h⟩
    have hnone : f.faults.head?.join = none := by simpa using hfault
    have hread := readExact_of_le (not_not.mp hend)
    have hlength : ((f.file.drop c.1).take c.2).length = c.2 := by
      rw [List.length_take, List.length_drop]
      omega
    unfold read
    rw [if_pos hmiss]
    dsimp only
    rw [hnone]
    dsimp only
    rw [hread]
    refine ⟨⟨_, rfl, rfl⟩, rfl, ?_, ?_⟩
    · dsimp only
      rw [List.length_append, hlength]
      exact Nat.le_add_right _ _
    · dsimp only
      rw [hread, List.take_left' hlength]
  · obtain ⟨hle, hbytes⟩ := hkept.resolve_left hmiss
    obtain ⟨hposition, hlength⟩ := not_or.mp hmiss
    unfold read
    rw [if_neg hmiss, ← not_not.mp hposition, ← not_not.mp hlength, sliceTo_of_le hle]
    exact ⟨⟨_, rfl, hbytes⟩, rfl, hle, hbytes⟩

/-- A run is right from every file whose kept bytes are right, or not asked for first. -/
lemma areRight_of_head {calls : List (ℕ × ℕ)} (hcalls : f.NoneRepeatsFailure calls)
    (hhead : ∀ c ∈ calls.head?, f.IsMiss c ∨ f.IsKept) : f.AreRight calls := by
  induction calls generalizing f with
  | nil => trivial
  | cons c rest ih =>
    obtain ⟨hrepeat, hrest⟩ := hcalls
    have hclean := hhead c rfl
    by_cases hfails : f.Fails c
    · obtain ⟨herror, -, hposition, hlength⟩ := read_of_fails hfails
      refine ⟨fun bytes hbytes => ?_, ih hrest fun c' hc' => ?_⟩
      · rw [herror] at hbytes
        exact absurd hbytes (by simp)
      · -- what is asked for next is something else, or nothing
        by_cases heq : c' = c
        · subst heq
          exact .inr (isKept_of_readLength_eq_zero (hlength.trans (hrepeat hfails hc')))
        · refine .inl ?_
          rw [IsMiss, hposition, hlength]
          by_contra hsame
          obtain ⟨h1, h2⟩ := not_or.mp hsame
          exact heq (Prod.ext (not_not.mp h1).symm (not_not.mp h2).symm)
    · obtain ⟨⟨bytes, hok, hread⟩, -, hkept⟩ := read_of_not_fails hfails hclean
      refine ⟨fun bytes' hbytes => ?_, ih hrest fun _ _ => .inr hkept⟩
      rw [hok, Outcome.ok.injEq] at hbytes
      rw [hread, hbytes]

/-- **The read cache serves the bytes of the file** in every run in which no failure is repeated,
whatever fails and whatever is left in the buffer by it. -/
theorem areRight_of_noneRepeatsFailure {file : Bytes} {bufferLength : ℕ}
    {faults : List (Option Bytes)} {calls : List (ℕ × ℕ)}
    (h : NoneRepeatsFailure { new file bufferLength with faults := faults } calls) :
    AreRight { new file bufferLength with faults := faults } calls :=
  areRight_of_head h fun _ _ => .inr (isKept_new file bufferLength faults)

/-- A failed read of two bytes, another read, and the first one again. -/
theorem areRight_of_noneRepeatsFailure_three :
    AreRight { new (ascii "/ab/") 4 with faults := [some []] } [(1, 2), (0, 1), (1, 2)] := by
  apply areRight_of_noneRepeatsFailure
  refine ⟨?_, ?_, ?_, trivial⟩
  · intro _ h
    exact absurd h (by decide)
  · intro _ h
    exact absurd h (by decide)
  · intro _ h
    exact absurd h (by decide)

/-- A failed read of two bytes, made again at once: it returns two zeros. -/
theorem not_areRight_repeated :
    ¬ AreRight { new (ascii "/ab/") 4 with faults := [some []] } [(1, 2), (1, 2)] := by
  rintro ⟨-, hright, -⟩
  exact absurd (hright [0, 0] (by decide)) (by decide)

end DictionaryFile

end Yaskkserv2
