import Yaskkserv2.Server.DictionaryReader

/-!
# The search for the unit of a midashi

The units of a key are listed with descending midashi, so the unit that may hold a midashi is the
first whose own midashi is not above it: `unitIndex`.  The source starts a linear search for it at
a hint.  For few units the hint is a constant; for many it comes from a loop that halves its step
down to one and then walks on until the comparison turns round.

The hint is sound because it is never beyond the unit looked for.  While the step is being halved,
two steps in either direction stay inside the list; after that, what the walk has just passed is
not below the midashi.
-/

namespace Yaskkserv2

open Framework

namespace DictionaryReader

/-- The first unit whose midashi is not above the one looked for, or the number of units. -/
def unitIndex (midashi : Bytes) (informations : List DictionaryBlockInformation) : ℕ :=
  informations.findIdx fun v => v.midashi ≤ midashi

/-- Units listed with descending midashi. -/
abbrev IsDescending (informations : List DictionaryBlockInformation) : Prop :=
  informations.Pairwise fun v w => w.midashi < v.midashi

lemma unitIndex_cons (midashi : Bytes) (v : DictionaryBlockInformation)
    (vs : List DictionaryBlockInformation) :
    unitIndex midashi (v :: vs) = if v.midashi ≤ midashi then 0 else unitIndex midashi vs + 1 := by
  rw [unitIndex, List.findIdx_cons]
  by_cases h : v.midashi ≤ midashi <;> simp [h, unitIndex]

lemma skipAbove_eq (midashi : Bytes) (i : ℕ) (informations : List DictionaryBlockInformation) :
    skipAbove midashi i informations = i + unitIndex midashi informations := by
  induction informations generalizing i with
  | nil => rfl
  | cons v vs ih =>
    rw [skipAbove, unitIndex_cons, ih]
    split <;> omega

lemma unitIndex_le (midashi : Bytes) (informations : List DictionaryBlockInformation) :
    unitIndex midashi informations ≤ informations.length := List.findIdx_le_length

section Search

variable {midashi : Bytes} {informations : List DictionaryBlockInformation}

/-- The units before the one looked for are above the midashi. -/
lemma lt_midashi_of_lt_unitIndex {i : ℕ} (h : i < unitIndex midashi informations)
    (hi : i < informations.length) : midashi < informations[i].midashi := by
  have hnot := List.not_of_lt_findIdx h
  simpa using hnot

/-- The unit looked for is not above the midashi. -/
lemma midashi_unitIndex_le (h : unitIndex midashi informations < informations.length) :
    informations[unitIndex midashi informations].midashi ≤ midashi := by
  have hfound := List.findIdx_getElem (w := h)
  rwa [decide_eq_true_eq] at hfound

/-- Searching on from a unit that is not beyond the one looked for finds it. -/
lemma skipAbove_drop {hint : ℕ} (h : hint ≤ unitIndex midashi informations) :
    skipAbove midashi hint (informations.drop hint) = unitIndex midashi informations := by
  rw [skipAbove_eq]
  induction hint generalizing informations with
  | zero => rw [List.drop_zero, Nat.zero_add]
  | succ hint ih =>
    cases informations with
    | nil => simp [unitIndex] at h
    | cons v vs =>
      rw [unitIndex_cons] at h ⊢
      by_cases hv : v.midashi ≤ midashi
      · rw [if_pos hv] at h
        omega
      · rw [if_neg hv] at h ⊢
        have hvs := ih (show hint ≤ unitIndex midashi vs by omega)
        rw [List.drop_succ_cons]
        omega

/-- A unit that is not below the midashi is not beyond the one looked for. -/
lemma le_unitIndex_of_le (hdesc : IsDescending informations) {i : ℕ} (hi : i < informations.length)
    (h : midashi ≤ informations[i].midashi) : i ≤ unitIndex midashi informations := by
  by_contra hlt
  have hlen : unitIndex midashi informations < informations.length := by omega
  have hle := midashi_unitIndex_le hlen
  have hdescending := List.pairwise_iff_getElem.mp hdesc _ i hlen hi (by omega)
  grind

/-- A unit that is not above the midashi is not before the one looked for. -/
lemma unitIndex_le_of_le {i : ℕ} (hi : i < informations.length)
    (h : informations[i].midashi ≤ midashi) : unitIndex midashi informations ≤ i := by
  by_contra hlt
  have habove := lt_midashi_of_lt_unitIndex (Nat.lt_of_not_le hlt) hi
  exact absurd h (List.not_le.mpr habove)

/-! ## The hint -/

/-- The invariant of the hint search. -/
structure HintState.Holds (midashi : Bytes) (informations : List DictionaryBlockInformation)
    (s : HintState) : Prop where
  index_nonneg : 0 ≤ s.index
  index_lt : s.index < informations.length
  diff_pos : 1 ≤ s.diff
  direction : s.previousDirection = 0 ∨ s.previousDirection = 1
  /-- while the step is being halved, two steps stay inside the list -/
  halving : s.diffZeroCount = 0 →
    0 ≤ s.index - 2 * s.diff ∧ s.index + 2 * s.diff ≤ informations.length
  /-- after that the step is one -/
  stepping : 1 ≤ s.diffZeroCount → s.diff = 1
  /-- and what a walk upwards has passed is not beyond the unit looked for -/
  passed : 1 ≤ s.diffZeroCount → s.previousDirection = 1 →
    1 ≤ s.index ∧ s.index - 1 ≤ unitIndex midashi informations
  /-- nor is what a walk downwards has passed before it -/
  sunk : 1 ≤ s.diffZeroCount → s.previousDirection = 0 →
    (unitIndex midashi informations : ℤ) ≤ s.index + 1

/-- How many turns of the hint search are left at most. -/
def HintState.turnsLeft (informations : List DictionaryBlockInformation) (s : HintState) : ℕ :=
  if s.diffZeroCount = 0 then s.diff.toNat + informations.length + 1
  else if s.previousDirection = 0 then s.index.toNat
  else (informations.length - s.index).toNat

lemma toI32_of_lt {n : ℕ} (h : n < 2 ^ 31) : toI32 n = n := by
  have hlow : -(((2 ^ 32 : ℕ) : ℤ) / 2) ≤ n := by norm_num
  have hhigh : (n : ℤ) < (((2 ^ 32 : ℕ) : ℤ) + 1) / 2 := by
    norm_num
    omega
  exact Int.bmod_eq_of_le hlow hhigh

/-- A length that an `i32` does not hold comes out below zero. -/
lemma toI32_neg {n : ℕ} (hlow : 2 ^ 31 ≤ n) (hhigh : n < 2 ^ 32) : toI32 n < 0 := by
  have hwrap : ((n : ℤ) - (2 ^ 32 : ℕ)).bmod (2 ^ 32) = n - (2 ^ 32 : ℕ) := by
    apply Int.bmod_eq_of_le
    · norm_num
      omega
    · norm_num
      omega
  have heq : toI32 n = n - (2 ^ 32 : ℕ) := (Int.sub_bmod_right _ _).symm.trans hwrap
  omega

/-- A turn that has compared the midashi with the unit of its index. -/
lemma hintTurn_eq {s : HintState} (hlen : informations.length < 2 ^ 31) (hnonneg : 0 ≤ s.index)
    (hi : s.index.toNat < informations.length) :
    hintTurn midashi informations s =
      let below := informations[s.index.toNat].midashi < midashi
      let direction : ℤ := if below then 0 else 1
      let next := if below then s.index - s.diff else s.index + s.diff
      .ok (
        if direction = 0 ∧ next < 0 then .inr 0
        else if direction = 1 ∧ next ≥ informations.length then
          .inr ((informations.length - 1 : ℕ) : ℤ)
        else if s.diff / 2 = 0 then
          if s.diffZeroCount ≥ 1 ∧ direction ≠ s.previousDirection then .inr (max 0 (next - 1))
          else .inl ⟨next, 1, direction, s.diffZeroCount + 1⟩
        else .inl ⟨next, s.diff / 2, direction, s.diffZeroCount⟩) := by
  have hneg : ¬ s.index < 0 := by omega
  unfold hintTurn
  have hlast : informations.length - 1 < 2 ^ 31 := by omega
  simp only [toI32_of_lt hlen, toI32_of_lt hlast, hneg, if_false, index_of_lt hi,
    Outcome.ok_bind, Outcome.pure_eq,
    gt_iff_lt, apply_ite Outcome.ok]

/-- While the step is being halved, a turn in either direction keeps the invariant. -/
lemma HintState.Holds.halve {s : HintState} (hs : s.Holds midashi informations)
    (hzero : s.diffZeroCount = 0) {next direction : ℤ}
    (hturn : direction = 0 ∧ next = s.index - s.diff ∧
        (unitIndex midashi informations : ℤ) ≤ s.index ∨
      direction = 1 ∧ next = s.index + s.diff ∧ s.index ≤ unitIndex midashi informations) :
    ∃ s', (if s.diff / 2 = 0 then
        if s.diffZeroCount ≥ 1 ∧ direction ≠ s.previousDirection then .inr (max 0 (next - 1))
        else .inl ⟨next, 1, direction, s.diffZeroCount + 1⟩
      else .inl ⟨next, s.diff / 2, direction, s.diffZeroCount⟩ : HintState ⊕ ℤ) = .inl s' ∧
      s'.Holds midashi informations ∧ s'.turnsLeft informations < s.turnsLeft informations := by
  obtain ⟨hnonneg, hlt, hdiff, -, hhalving, -, -, -⟩ := hs
  obtain ⟨hlow, hhigh⟩ := hhalving hzero
  have hdirection : direction = 0 ∨ direction = 1 := hturn.imp And.left And.left
  by_cases hone : s.diff / 2 = 0
  · refine ⟨⟨next, 1, direction, s.diffZeroCount + 1⟩, ?_,
      ⟨?_, ?_, le_rfl, hdirection, ?_, ?_, ?_, ?_⟩, ?_⟩
    · rw [if_pos hone, if_neg (by omega)]
    · dsimp only
      omega
    · dsimp only
      omega
    · dsimp only
      omega
    · exact fun _ => rfl
    · intro _ hup
      dsimp only at hup ⊢
      omega
    · intro _ hdown
      dsimp only at hdown ⊢
      omega
    · simp only [HintState.turnsLeft, hzero, Nat.zero_add, one_ne_zero, if_false, if_true]
      split <;> omega
  · refine ⟨⟨next, s.diff / 2, direction, s.diffZeroCount⟩, if_neg hone,
      ⟨?_, ?_, ?_, hdirection, ?_, ?_, ?_, ?_⟩, ?_⟩
    · dsimp only
      omega
    · dsimp only
      omega
    · dsimp only
      omega
    · dsimp only
      omega
    · dsimp only
      omega
    · dsimp only
      omega
    · dsimp only
      omega
    · simp only [HintState.turnsLeft, hzero, if_true]
      omega

/-- **A turn of the hint search** goes on with the invariant and fewer turns left, or breaks at a
place that is not beyond the unit looked for, and at most two units before it. -/
lemma hintTurn_holds (hlen : informations.length < 2 ^ 31) (hdesc : IsDescending informations)
    {s : HintState} (hs : s.Holds midashi informations) :
    (∃ s', hintTurn midashi informations s = .ok (.inl s') ∧ s'.Holds midashi informations ∧
      s'.turnsLeft informations < s.turnsLeft informations) ∨
    ∃ b, hintTurn midashi informations s = .ok (.inr b) ∧ 0 ≤ b ∧
      b ≤ unitIndex midashi informations ∧ unitIndex midashi informations ≤ b + 2 := by
  have hlow := hs.index_nonneg
  have hhigh := hs.index_lt
  have hi : s.index.toNat < informations.length := by omega
  have hle := unitIndex_le midashi informations
  rw [hintTurn_eq hlen hlow hi]
  by_cases hbelow : informations[s.index.toNat].midashi < midashi
  · -- the walk goes down, and what it passes is not above the midashi
    have hsunk : (unitIndex midashi informations : ℤ) ≤ s.index := by
      have := unitIndex_le_of_le hi (List.le_of_lt hbelow)
      omega
    simp only [hbelow, if_true, true_and, zero_ne_one, false_and, if_false]
    rcases Nat.eq_zero_or_pos s.diffZeroCount with hzero | hcount
    · have hhalving := hs.halving hzero
      have hdiff := hs.diff_pos
      obtain ⟨s', heq, hholds⟩ := hs.halve hzero (.inl ⟨rfl, rfl, hsunk⟩)
      rw [if_neg (by omega), heq]
      exact .inl ⟨s', rfl, hholds⟩
    · have hstep := hs.stepping hcount
      rw [hstep]
      by_cases hend : s.index - 1 < 0
      · rw [if_pos hend]
        exact .inr ⟨0, rfl, le_rfl, by omega, by omega⟩
      · rw [if_neg hend, if_pos (by norm_num)]
        rcases hs.direction with hdown | hup
        · rw [if_neg (by omega)]
          refine .inl ⟨_, rfl, ⟨by dsimp only; omega, by dsimp only; omega, le_rfl, .inl rfl,
            by dsimp only; omega, fun _ => rfl, fun _ h => absurd h (by norm_num),
            fun _ _ => by dsimp only; omega⟩, ?_⟩
          simp only [HintState.turnsLeft, hdown, hcount.ne', Nat.succ_ne_zero, if_true, if_false]
          omega
        · have hpassed := hs.passed hcount hup
          rw [if_pos (by omega)]
          exact .inr ⟨_, rfl, le_max_left _ _, by omega, by omega⟩
  · -- the walk goes up, and what it passes is not below the midashi
    have hpass : s.index ≤ unitIndex midashi informations := by
      have hnot := List.not_lt.mp hbelow
      have := le_unitIndex_of_le hdesc hi hnot
      omega
    simp only [hbelow, if_false, true_and, one_ne_zero, false_and]
    rcases Nat.eq_zero_or_pos s.diffZeroCount with hzero | hcount
    · have hhalving := hs.halving hzero
      have hdiff := hs.diff_pos
      obtain ⟨s', heq, hholds⟩ := hs.halve hzero (.inr ⟨rfl, rfl, hpass⟩)
      rw [if_neg (by omega), heq]
      exact .inl ⟨s', rfl, hholds⟩
    · have hstep := hs.stepping hcount
      rw [hstep]
      by_cases hend : s.index + 1 ≥ informations.length
      · rw [if_pos hend]
        exact .inr ⟨_, rfl, by omega, by omega, by omega⟩
      · rw [if_neg hend, if_pos (by norm_num)]
        rcases hs.direction with hdown | hup
        · have hpassed := hs.sunk hcount hdown
          rw [if_pos (by omega)]
          exact .inr ⟨_, rfl, le_max_left _ _, by omega, by omega⟩
        · rw [if_neg (by omega)]
          refine .inl ⟨_, rfl, ⟨by dsimp only; omega, by dsimp only; omega, le_rfl, .inr rfl,
            by dsimp only; omega, fun _ => rfl, fun _ _ => by dsimp only; omega,
            fun _ h => absurd h (by norm_num)⟩, ?_⟩
          simp only [HintState.turnsLeft, hup, hcount.ne', Nat.succ_ne_zero, one_ne_zero,
            if_false]
          omega

/-- The binary stage breaks at most two units before the one looked for, and not beyond it. -/
lemma binaryStage_eq (hlen : informations.length < 2 ^ 31) (hdesc : IsDescending informations)
    (hmany : BINARY_SEARCH_THRESHOLD ≤ informations.length) :
    ∃ found : ℕ, binaryStage midashi informations = .ok found ∧
      found ≤ unitIndex midashi informations ∧ unitIndex midashi informations ≤ found + 2 := by
  rw [BINARY_SEARCH_THRESHOLD] at hmany
  have hstart : toI32 (informations.length / 2) = ((informations.length / 2 : ℕ) : ℤ) :=
    toI32_of_lt (by omega)
  have hholds : HintState.Holds midashi informations
      ⟨(informations.length / 2 : ℕ), ((informations.length / 2 : ℕ) : ℤ) / 2, 0, 0⟩ :=
    ⟨by dsimp only; omega, by dsimp only; omega, by dsimp only; omega, .inl rfl,
      fun _ => by dsimp only; omega, fun h => absurd h (by norm_num),
      fun h => absurd h (by norm_num), fun h => absurd h (by norm_num)⟩
  have hfuel : HintState.turnsLeft informations
      ⟨(informations.length / 2 : ℕ), ((informations.length / 2 : ℕ) : ℤ) / 2, 0, 0⟩ <
        2 * informations.length + 3 := by
    simp only [HintState.turnsLeft, if_true]
    omega
  obtain ⟨b, hloop, hnonneg, hle, hnear⟩ := loop_total
    (fun s => HintState.Holds midashi informations s)
    (fun b : ℤ => 0 ≤ b ∧ b ≤ unitIndex midashi informations ∧
      unitIndex midashi informations ≤ b + 2) (·.turnsLeft informations)
    (fun s hs => hintTurn_holds hlen hdesc hs) hholds hfuel
  refine ⟨b.toNat, ?_, by omega, by omega⟩
  rw [binaryStage, hstart, hloop, Int.toNat_of_nonneg hnonneg]

/-- The place where the linear search starts is not beyond the unit looked for. -/
theorem getBlockInformationsLoopStartHintIndex_le (midashi : Bytes)
    (hlen : informations.length < 2 ^ 31) (hdesc : IsDescending informations) :
    ∃ hint ≤ unitIndex midashi informations,
      getBlockInformationsLoopStartHintIndex midashi informations = .ok hint := by
  unfold getBlockInformationsLoopStartHintIndex
  split
  · exact ⟨0, Nat.zero_le _, rfl⟩
  rename_i hten
  rw [RETURN_ZERO_THRESHOLD] at hten
  split
  · have hhalf : informations.length / 2 < informations.length := by omega
    dsimp only
    rw [index_of_lt hhalf, Outcome.ok_bind]
    refine ⟨_, ?_, rfl⟩
    split
    · exact Nat.zero_le _
    · rename_i hnot
      exact le_unitIndex_of_le hdesc hhalf (List.not_lt.mp hnot)
  · rename_i hmany
    obtain ⟨found, hfound, hle, -⟩ := binaryStage_eq hlen hdesc (Nat.le_of_not_lt hmany)
    rw [hfound, Outcome.ok_bind, if_neg (by omega), Int.toNat_natCast, skipAbove_drop hle]
    exact ⟨_, le_rfl, rfl⟩

/-- **The search finds the first unit whose midashi is not above the one looked for.** -/
theorem getBlockInformationsIndex_eq (midashi : Bytes) (hlen : informations.length < 2 ^ 31)
    (hdesc : IsDescending informations) :
    getBlockInformationsIndex midashi informations = .ok (unitIndex midashi informations) := by
  obtain ⟨hint, hle, hhint⟩ := getBlockInformationsLoopStartHintIndex_le midashi hlen hdesc
  have hlength := unitIndex_le midashi informations
  rw [getBlockInformationsIndex, hhint, Outcome.ok_bind, sliceFrom_of_le (by omega),
    Outcome.ok_bind, skipAbove_drop hle]
  rfl

/-- What the hinted search does for a linear scan: the hint is not beyond the unit looked for, the
binary stage stops at most two units before it, and the search finds it. -/
structure IsLinearScan (midashi : Bytes) (informations : List DictionaryBlockInformation) :
    Prop where
  hint : ∃ hint ≤ unitIndex midashi informations,
    getBlockInformationsLoopStartHintIndex midashi informations = .ok hint
  binary : BINARY_SEARCH_THRESHOLD ≤ informations.length →
    ∃ found : ℕ, binaryStage midashi informations = .ok found ∧
      found ≤ unitIndex midashi informations ∧ unitIndex midashi informations ≤ found + 2
  search : getBlockInformationsIndex midashi informations = .ok (unitIndex midashi informations)

/-- **The hinted search is a linear scan** of every list whose length is an `i32`, as the search
computes with its indices. -/
theorem isLinearScan (midashi : Bytes) (hlen : informations.length < 2 ^ 31)
    (hdesc : IsDescending informations) : IsLinearScan midashi informations where
  hint := getBlockInformationsLoopStartHintIndex_le midashi hlen hdesc
  binary := binaryStage_eq hlen hdesc
  search := getBlockInformationsIndex_eq midashi hlen hdesc

end Search

/-- Forty units. -/
theorem isLinearScan_forty : IsLinearScan [17]
    ((List.range 40).map fun i => ⟨[(39 - i).toUInt8], 0, 0⟩) := by
  apply isLinearScan
  · simp
  · decide +kernel

/-! ## Lists that an `i32` cannot count -/

/-- The four bytes of a number, the highest first. -/
def fourBytes (n : ℕ) : Bytes :=
  [(n / 2 ^ 24).toUInt8, (n / 2 ^ 16).toUInt8, (n / 2 ^ 8).toUInt8, n.toUInt8]

lemma fourBytes_lt {m n : ℕ} (h : m < n) (hn : n < 2 ^ 32) : fourBytes m < fourBytes n := by
  have hdigits : ∀ k < 2 ^ 32, k = 2 ^ 24 * (k / 2 ^ 24 % 2 ^ 8) + 2 ^ 16 * (k / 2 ^ 16 % 2 ^ 8) +
      2 ^ 8 * (k / 2 ^ 8 % 2 ^ 8) + k % 2 ^ 8 := by
    intro k hk
    omega
  have hm := hdigits m (by omega)
  have hn := hdigits n hn
  simp only [fourBytes, List.cons_lt_cons_iff, UInt8.lt_iff_toNat_lt, ← UInt8.toNat_inj,
    UInt8.toNat_ofNat', Nat.toUInt8, List.lt_irrefl, and_false, or_false]
  have hlt : ∀ k : ℕ, k % 2 ^ 8 < 2 ^ 8 := fun k => Nat.mod_lt k (by norm_num)
  have h0 := hlt m
  have h1 := hlt (m / 2 ^ 8)
  have h2 := hlt (m / 2 ^ 16)
  have h0' := hlt n
  have h1' := hlt (n / 2 ^ 8)
  have h2' := hlt (n / 2 ^ 16)
  omega

/-- As many units as an `i32` cannot count, with descending midashi. -/
def manyUnits : List DictionaryBlockInformation :=
  (List.range (2 ^ 31)).map fun i => ⟨fourBytes (2 ^ 31 - 1 - i), 0, 0⟩

lemma length_manyUnits : manyUnits.length = 2 ^ 31 := by
  rw [manyUnits, List.length_map, List.length_range]

lemma getElem_manyUnits {i : ℕ} (hi : i < manyUnits.length) :
    manyUnits[i].midashi = fourBytes (2 ^ 31 - 1 - i) := by
  simp only [manyUnits, List.getElem_map, List.getElem_range]

lemma isDescending_manyUnits : IsDescending manyUnits := by
  rw [IsDescending, List.pairwise_iff_getElem]
  intro i j hi hj hij
  rw [getElem_manyUnits, getElem_manyUnits]
  rw [length_manyUnits] at hj
  exact fourBytes_lt (by omega) (by omega)

/-- Where the first step goes up and past the wrapped length, the binary stage breaks at the wrapped
last unit. -/
lemma binaryStage_of_le {midashi : Bytes} {informations : List DictionaryBlockInformation} {i : ℕ}
    (hstart : toI32 (informations.length / 2) = i) (hi : i < informations.length)
    (hunit : midashi ≤ informations[i].midashi)
    (hpassed : (i : ℤ) + (i : ℤ) / 2 ≥ toI32 informations.length) :
    binaryStage midashi informations = .ok (toI32 (informations.length - 1)) := by
  have hlow : ¬ (i : ℤ) < 0 := by omega
  have hnot : ¬ midashi > informations[i].midashi := List.not_lt.mpr hunit
  rw [binaryStage, hstart]
  apply loop_break
  unfold hintTurn
  dsimp only
  rw [if_neg hlow, Int.toNat_natCast, index_of_lt hi, Outcome.ok_bind]
  simp only [hnot, if_false, hpassed, one_ne_zero, false_and, and_self, if_true, Outcome.pure_eq]

lemma unitIndex_manyUnits : unitIndex (fourBytes (2 ^ 30 - 1)) manyUnits = 2 ^ 30 := by
  have hi : 2 ^ 30 < manyUnits.length := by
    rw [length_manyUnits]
    norm_num
  have hunit : manyUnits[2 ^ 30].midashi = fourBytes (2 ^ 30 - 1) := by
    rw [getElem_manyUnits hi]
    norm_num
  apply Nat.le_antisymm
  · exact unitIndex_le_of_le hi (hunit ▸ List.le_refl _)
  · exact le_unitIndex_of_le isDescending_manyUnits hi (hunit ▸ List.le_refl _)

/-- Of 2^31 units the search finds the last one, where it looks for the one in the middle. -/
theorem not_isLinearScan_manyUnits :
    manyUnits ≠ [] ∧ IsDescending manyUnits ∧
      ¬ IsLinearScan (fourBytes (2 ^ 30 - 1)) manyUnits := by
  have hlength := length_manyUnits
  have hi : 2 ^ 30 < manyUnits.length := by omega
  have hstart : toI32 (manyUnits.length / 2) = (2 ^ 30 : ℕ) := by
    rw [hlength, toI32_of_lt (by norm_num)]
    norm_num
  have hwrapped := toI32_neg (n := manyUnits.length) (by omega) (by omega)
  have hlast : toI32 (manyUnits.length - 1) = 2 ^ 31 - 1 := by
    rw [hlength, toI32_of_lt (by norm_num)]
    norm_num
  have hunit : fourBytes (2 ^ 30 - 1) ≤ manyUnits[2 ^ 30].midashi := by
    rw [getElem_manyUnits hi]
    norm_num
  have hpassed : ((2 ^ 30 : ℕ) : ℤ) + ((2 ^ 30 : ℕ) : ℤ) / 2 ≥ toI32 manyUnits.length := by
    generalize 2 ^ 30 = n
    omega
  have hbreak := binaryStage_of_le hstart hi hunit hpassed
  refine ⟨List.ne_nil_of_length_pos (by omega), isDescending_manyUnits, fun h => ?_⟩
  obtain ⟨found, hfound, hle, -⟩ := h.binary (by rw [BINARY_SEARCH_THRESHOLD]; omega)
  rw [hbreak, hlast, Outcome.ok.injEq] at hfound
  rw [unitIndex_manyUnits] at hle
  omega

end DictionaryReader

end Yaskkserv2
