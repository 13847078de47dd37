import Yaskkserv2.Properties.BlockLayout

/-!
# `get_dictionary_block_informations` cuts a block into units

The loop sees of the block only what lies ahead of its offset, and that is again the layout of a
list of entries.  `turn_layout` says what a turn does with it, and `WalkEndsAt` is the walk that the
turns take: as many whole entries at a time as fit into a window of `DICTIONARY_BLOCK_UNIT_LENGTH`
bytes, or, where not one does, into a window of the longest entry.

The widened window is the weak point.  The source slices it without looking at how much of the
block is left, so the walk can go on only while more is left than the window takes.
-/

namespace Yaskkserv2

open Framework

namespace DictionaryCreator

/-! ## The longest entry -/

lemma getMaxEntryLengthTurn_layout (pre : Bytes) (e : Entry) (rest : List Entry) (m : ℕ) :
    getMaxEntryLengthTurn (pre ++ layout (e :: rest)) (pre.length, m) = .ok
      (if rest = [] then .inr (max m (e.text.length + 2))
        else .inl (pre.length + e.text.length + 1, max m (e.text.length + 2))) := by
  have hsplit : pre ++ layout (e :: rest) = (pre ++ [LF]) ++ (e.text ++ layout rest) := by
    rw [layout_cons, List.append_assoc, List.singleton_append]
  have htail : (sliceFrom (pre ++ layout (e :: rest)) (pre.length + 1) : Result Bytes) =
      .ok (e.text ++ layout rest) := by
    have hlen : pre.length + 1 = (pre ++ [LF]).length := by simp
    rw [hsplit, hlen, sliceFrom_append]
  have hfind : find [LF] (e.text ++ layout rest) = some e.text.length :=
    find_singleton e.lf_not_mem_text
  have hmax : (if m < 1 + e.text.length + 1 then 1 + e.text.length + 1 else m) =
      max m (e.text.length + 2) := by
    split <;> omega
  have hend : 1 + pre.length + e.text.length + 1 = (pre ++ layout (e :: rest)).length ↔
      rest = [] := by
    rw [List.length_append, length_layout_cons]
    constructor
    · intro h
      by_contra hrest
      have := two_lt_length_layout hrest
      omega
    · rintro rfl
      simp only [layout_nil, List.length_singleton]
      omega
  rw [getMaxEntryLengthTurn, htail, Outcome.ok_bind, hfind]
  simp only [hmax, hend]
  split <;> rfl

/-- `get_max_entry_length` returns the length of the longest entry. -/
theorem getMaxEntryLength_layout {es : List Entry} (hes : es ≠ []) :
    getMaxEntryLength (layout es) = .ok (longest es) := by
  have hrun : ∃ m, getMaxEntryLength (layout es) = .ok m ∧ m = longest es := by
    refine loop_total
      (fun s => ∃ pre e rest, layout es = pre ++ layout (e :: rest) ∧ s.1 = pre.length ∧
        max s.2 (longest (e :: rest)) = longest es)
      (fun m => m = longest es) (fun s => (layout es).length - s.1) ?_ ?_ (by dsimp only; omega)
    · rintro ⟨offset, m⟩ ⟨pre, e, rest, hsplit, rfl, hmax⟩
      have hturn := getMaxEntryLengthTurn_layout pre e rest m
      rw [← hsplit] at hturn
      rcases rest with _ | ⟨f, rest⟩
      · refine .inr ⟨_, hturn, ?_⟩
        simpa [longest] using hmax
      · refine .inl ⟨_, hturn, ⟨pre ++ LF :: e.text, f, rest, ?_, ?_, ?_⟩, ?_⟩
        · rw [hsplit, layout_cons]
          simp
        · simp only [List.length_append, List.length_cons]
          omega
        · rw [← hmax, longest]
          exact max_assoc _ _ _
        · have hlen := congrArg List.length hsplit
          rw [List.length_append, length_layout_cons] at hlen
          have hpos := length_layout_pos (f :: rest)
          dsimp only
          omega
    · obtain ⟨e, rest, rfl⟩ := List.exists_cons_of_ne_nil hes
      exact ⟨[], e, rest, rfl, rfl, Nat.zero_max _⟩
  obtain ⟨m, hm, rfl⟩ := hrun
  exact hm

/-! ## Padding -/

lemma toNat_block_padding (k : UInt32) :
    (BLOCK_ALIGNMENT_LENGTH - k % BLOCK_ALIGNMENT_LENGTH).toNat = 16 - k.toNat % 16 := by
  have hmod : (k % BLOCK_ALIGNMENT_LENGTH).toNat = k.toNat % 16 := UInt32.toNat_mod _ _
  have hle : k % BLOCK_ALIGNMENT_LENGTH ≤ BLOCK_ALIGNMENT_LENGTH := by
    rw [UInt32.le_iff_toNat_le, hmod]
    exact (Nat.mod_lt _ (by omega)).le
  rw [UInt32.toNat_sub_of_le _ _ hle, hmod]
  rfl

lemma getBlockAlignedLength_of_lt {n : ℕ} (h : n + 16 < 2 ^ 32) :
    ∃ k, getBlockAlignedLength n.toUInt32 = .ok k ∧ k.toNat = n + (16 - n % 16) := by
  have hn : n.toUInt32.toNat = n := toNat_toUInt32_of_lt (by omega)
  have hpad := toNat_block_padding n.toUInt32
  rw [hn] at hpad
  obtain ⟨k, hk, hval⟩ := addU32_of_lt (a := n.toUInt32)
    (b := BLOCK_ALIGNMENT_LENGTH - n.toUInt32 % BLOCK_ALIGNMENT_LENGTH)
    (by rw [hn, hpad]; omega)
  exact ⟨k, hk, by rw [hval, hn, hpad]⟩

lemma padAlignedBlock_of_lt {alignedBlock : Bytes} (h : alignedBlock.length + 16 < 2 ^ 32) :
    padAlignedBlock alignedBlock =
      .ok (alignedBlock ++ List.replicate (16 - alignedBlock.length % 16) 0x58) := by
  obtain ⟨k, hk, hval⟩ := getBlockAlignedLength_of_lt h
  have hsub : checkedSub k.toNat alignedBlock.length =
      .ok (16 - alignedBlock.length % 16) := by
    rw [checkedSub, if_pos (by omega), hval]
    congr 1
    omega
  rw [padAlignedBlock, hk, Outcome.ok_bind, hsub]
  rfl

/-- A block that fills the range of `u32` cannot be padded. -/
lemma padAlignedBlock_of_le {alignedBlock : Bytes} (h : 2 ^ 32 ≤ alignedBlock.length + 16) :
    padAlignedBlock alignedBlock = .panic := by
  set n := alignedBlock.length with hn
  have hpad := toNat_block_padding n.toUInt32
  have hval : n.toUInt32.toNat = n % 2 ^ 32 := rfl
  rw [hval] at hpad
  rw [padAlignedBlock, getBlockAlignedLength, addU32, ← hn, hpad, hval]
  split
  · have hsum : (n.toUInt32 + (BLOCK_ALIGNMENT_LENGTH -
        n.toUInt32 % BLOCK_ALIGNMENT_LENGTH)).toNat < n := by
      rw [UInt32.toNat_add, hpad, hval]
      omega
    rw [Outcome.ok_bind, checkedSub, if_neg (by omega)]
    rfl
  · rfl

/-! ## One turn -/

/-- The window of a turn that is not the last: a unit, or the longest entry of the block where not
even the next entry fits into a unit. -/
def unitLengthAt (m : ℕ) (rest : List Entry) : ℕ :=
  if fitting (DICTIONARY_BLOCK_UNIT_LENGTH - 1) (rest.map Entry.text) = 0 then m
  else DICTIONARY_BLOCK_UNIT_LENGTH

/-- The number of entries that a window takes in whole. -/
def takenAt (window : ℕ) (rest : List Entry) : ℕ := fitting (window - 1) (rest.map Entry.text)

/-- What the index keeps of a unit. -/
def informationAt (blocksLen position : ℕ) (u : List Entry) : DictionaryBlockInformation :=
  ⟨firstMidashi u, (blocksLen + position).toUInt32, (layout u).length.toUInt32⟩

lemma rfind_window (pre : Bytes) (rest : List Entry) {window : ℕ} (h : 0 < window) :
    rfind [LF] (pre ++ (layout rest).take window) =
      some (pre.length + ((layout (rest.take (takenAt window rest))).length - 1)) := by
  have hrfind := rfind_take_delimited (lf_not_mem_of_mem_texts rest) h
  rw [← List.map_take] at hrfind
  exact rfind_append_of_eq_some hrfind pre

lemma sliceTo_window (pre : Bytes) (rest : List Entry) {window : ℕ}
    (h : window ≤ (layout rest).length) :
    (sliceTo (pre ++ layout rest) (pre.length + window) : Result Bytes) =
      .ok (pre ++ (layout rest).take window) := by
  rw [sliceTo_of_le (by rw [List.length_append]; omega), List.take_append,
    List.take_of_length_le (by omega), Nat.add_sub_cancel_left]

/-- The next entry does not fit exactly when the last LF of the window is the one it starts at. -/
lemma rfind_window_eq_iff (pre : Bytes) {rest : List Entry} (hrest : rest ≠ []) (window : ℕ)
    (h : 0 < window) :
    rfind [LF] (pre ++ (layout rest).take window) = some pre.length ↔
      takenAt window rest = 0 := by
  rw [rfind_window pre rest h, Option.some.injEq]
  constructor
  · intro heq
    by_contra hne
    have htake : rest.take (takenAt window rest) ≠ [] := by
      simp [hne, hrest]
    have := two_lt_length_layout htake
    omega
  · intro heq
    rw [heq]
    simp

/-- The window of the last turn is what is left of the block. -/
lemma getUnitLength_of_le (pre : Bytes) {rest : List Entry} (hrest : rest ≠ []) (m : ℕ)
    (h : (layout rest).length ≤ DICTIONARY_BLOCK_UNIT_LENGTH) :
    getUnitLength (pre ++ layout rest) m pre.length = .ok ((layout rest).length, true) := by
  have hpos := length_layout_pos rest
  have htaken : takenAt (layout rest).length rest = rest.length := by
    rw [takenAt, fitting_eq_length (d := LF) (by rw [← layout]; omega), List.length_map]
  have hlast : (pre ++ layout rest).length ≤ pre.length + DICTIONARY_BLOCK_UNIT_LENGTH := by
    rw [List.length_append]
    omega
  have hsub : checkedSub (pre ++ layout rest).length pre.length = .ok (layout rest).length := by
    rw [checkedSub, if_pos (by simp), List.length_append, Nat.add_sub_cancel_left]
  have hfound : rfind [LF] (pre ++ (layout rest).take (layout rest).length) ≠
      some pre.length := by
    rw [ne_eq, rfind_window_eq_iff pre hrest _ hpos, htaken, List.length_eq_zero_iff]
    exact hrest
  rw [getUnitLength]
  simp only [ge_iff_le, hlast, decide_true, if_true, hsub, Outcome.ok_bind,
    sliceTo_window pre rest le_rfl, if_neg hfound, Outcome.pure_eq]

lemma getUnitLength_of_lt (pre : Bytes) {rest : List Entry} (hrest : rest ≠ []) (m : ℕ)
    (h : DICTIONARY_BLOCK_UNIT_LENGTH < (layout rest).length) :
    getUnitLength (pre ++ layout rest) m pre.length =
      .ok (unitLengthAt m rest,
        takenAt DICTIONARY_BLOCK_UNIT_LENGTH rest == 0 && (pre ++ layout rest).length == m) := by
  have hlast : ¬ (pre ++ layout rest).length ≤ pre.length + DICTIONARY_BLOCK_UNIT_LENGTH := by
    rw [List.length_append]
    omega
  have hfound := rfind_window_eq_iff pre hrest DICTIONARY_BLOCK_UNIT_LENGTH (by decide)
  rw [getUnitLength]
  simp only [ge_iff_le, hlast, decide_false, Bool.false_eq_true, if_false, Outcome.pure_eq,
    Outcome.ok_bind, sliceTo_window pre rest h.le, hfound, unitLengthAt, takenAt,
    Bool.false_or]
  split
  · rename_i hzero
    simp [hzero]
  · rename_i hpos
    simp [hpos]

/-- **What a turn does**, once its window is known to lie in the block and to take in an entry. -/
lemma turn_layout (pre : Bytes) {rest : List Entry} (blocksLen m : ℕ)
    (alignedBlock : Bytes) (informations : List DictionaryBlockInformation) {window : ℕ}
    {last : Bool}
    (hunit : getUnitLength (pre ++ layout rest) m pre.length = .ok (window, last))
    (hwindow : window ≤ (layout rest).length) (htaken : 0 < takenAt window rest) :
    getDictionaryBlockInformationsTurn (pre ++ layout rest) blocksLen m
        ⟨pre.length, alignedBlock, informations⟩ =
      let u := rest.take (takenAt window rest)
      let informations := informations ++ [informationAt blocksLen pre.length u]
      if last then do
        let alignedBlock ← padAlignedBlock (alignedBlock ++ layout u)
        return .inr (alignedBlock, informations)
      else .ok (.inl ⟨pre.length + ((layout u).length - 1),
        alignedBlock ++ (layout u).dropLast, informations⟩) := by
  obtain ⟨e, rest, rfl⟩ : ∃ e es, rest = e :: es := by
    refine List.exists_cons_of_ne_nil ?_
    rintro rfl
    simp [takenAt, fitting] at htaken
  have hpos : 0 < window := by
    rcases Nat.eq_zero_or_pos window with rfl | h
    · simp [takenAt, fitting] at htaken
    · exact h
  set u := (e :: rest).take (takenAt window (e :: rest)) with hu
  have hmidashi : firstMidashi u = e.midashi := by
    obtain ⟨n, hn⟩ : ∃ n, takenAt window (e :: rest) = n + 1 := ⟨_, (Nat.succ_pred htaken.ne').symm⟩
    rw [hu, hn]
    rfl
  have hsplit : layout (e :: rest) =
      (layout u).dropLast ++ layout ((e :: rest).drop (takenAt window (e :: rest))) := by
    rw [← layout_append, hu, List.take_append_drop]
  have hlenu := length_layout_pos u
  have hfind : find [SP] (layout (e :: rest)) = some (e.midashi.length + 1) := by
    have hlf : SP ∉ LF :: e.midashi := by
      have hne : SP ≠ LF := by decide
      simp [hne, e.space_not_mem]
    have hsp : find [SP] (LF :: e.midashi ++ SP :: (e.candidates ++ layout rest)) = _ :=
      find_singleton hlf
    rw [layout_cons, Entry.text]
    simpa using hsp
  have hpiece : (slice (pre ++ layout (e :: rest)) pre.length
      (pre.length + ((layout u).length - 1)) : Result Bytes) = .ok (layout u).dropLast := by
    rw [hsplit, ← List.length_dropLast, slice_append]
  have hslice : (slice (pre ++ layout (e :: rest)) (pre.length + 1)
      (pre.length + (e.midashi.length + 1)) : Result Bytes) = .ok e.midashi := by
    have hpre : pre ++ layout (e :: rest) =
        (pre ++ [LF]) ++ (e.midashi ++ (SP :: e.candidates ++ layout rest)) := by
      rw [layout_cons, Entry.text]
      simp
    have hlen : pre.length + 1 = (pre ++ [LF]).length := by simp
    have hlen' : pre.length + (e.midashi.length + 1) =
        (pre ++ [LF]).length + e.midashi.length := by
      rw [← hlen]
      omega
    rw [hpre, hlen, hlen', slice_append]
  have hlength : pre.length + ((layout u).length - 1) + 1 - pre.length = (layout u).length := by
    omega
  rw [getDictionaryBlockInformationsTurn]
  simp only [sliceFrom_append, Outcome.ok_bind, hfind, hunit,
    sliceTo_window pre (e :: rest) hwindow, rfind_window pre (e :: rest) hpos, ← hu, hpiece,
    hslice, hlength, informationAt, hmidashi, List.append_assoc,
    ← layout_eq_dropLast_append, Outcome.pure_eq]

/-! ## The walk of the turns -/

/-- The walk of the loop over the entries ahead of it: it ends where what is left fits into a unit,
and goes on only while its window takes less than what is left.  The number is how far from here
the last unit begins. -/
inductive WalkEndsAt (m : ℕ) : List Entry → ℕ → Prop
  | last {rest : List Entry} (fits : (layout rest).length ≤ DICTIONARY_BLOCK_UNIT_LENGTH) :
      WalkEndsAt m rest 0
  | next {rest : List Entry} {p : ℕ}
      (long : DICTIONARY_BLOCK_UNIT_LENGTH < (layout rest).length)
      (more : unitLengthAt m rest < (layout rest).length)
      (tail : WalkEndsAt m (rest.drop (takenAt (unitLengthAt m rest) rest)) p) :
      WalkEndsAt m rest ((layout (rest.take (takenAt (unitLengthAt m rest) rest))).length - 1 + p)

/-- What the index keeps of consecutive units. -/
def informationsAt (blocksLen : ℕ) : ℕ → List (List Entry) → List DictionaryBlockInformation
  | _, [] => []
  | position, u :: us =>
    informationAt blocksLen position u ::
      informationsAt blocksLen (position + ((layout u).length - 1)) us

/-- Every turn takes in at least one entry. -/
lemma takenAt_unitLengthAt_pos {m : ℕ} {rest : List Entry} (hrest : rest ≠ [])
    (hm : ∀ e ∈ rest, e.text.length + 2 ≤ m) : 0 < takenAt (unitLengthAt m rest) rest := by
  obtain ⟨e, rest, rfl⟩ := List.exists_cons_of_ne_nil hrest
  unfold unitLengthAt
  split
  · have he := hm e List.mem_cons_self
    exact fitting_pos (by omega)
  · rename_i hne
    exact Nat.pos_of_ne_zero hne

lemma takenAt_lt_length {m : ℕ} {rest : List Entry} (hpos : 0 < unitLengthAt m rest)
    (h : unitLengthAt m rest < (layout rest).length) :
    takenAt (unitLengthAt m rest) rest < rest.length := by
  have hlong : unitLengthAt m rest - 1 + 1 < (delimited LF (rest.map Entry.text)).length := by
    rw [← layout]
    omega
  have hlt := fitting_lt_length hlong
  rwa [List.length_map] at hlt

lemma unitLengthAt_pos {m : ℕ} {rest : List Entry} (hrest : rest ≠ [])
    (hm : ∀ e ∈ rest, e.text.length + 2 ≤ m) : 0 < unitLengthAt m rest := by
  obtain ⟨e, rest, rfl⟩ := List.exists_cons_of_ne_nil hrest
  have he := hm e List.mem_cons_self
  unfold unitLengthAt
  split
  · omega
  · decide

section Turns

variable {m : ℕ} {pre : Bytes} {rest : List Entry} (blocksLen : ℕ) (alignedBlock : Bytes)
  (informations : List DictionaryBlockInformation)

/-- The turn in which all that is left becomes the last unit. -/
lemma turn_last (hrest : rest ≠ []) {window : ℕ}
    (hunit : getUnitLength (pre ++ layout rest) m pre.length = .ok (window, true))
    (hwindow : window = (layout rest).length) :
    getDictionaryBlockInformationsTurn (pre ++ layout rest) blocksLen m
        ⟨pre.length, alignedBlock, informations⟩ = (do
      let alignedBlock ← padAlignedBlock (alignedBlock ++ layout rest)
      return .inr (alignedBlock, informations ++ [informationAt blocksLen pre.length rest])) := by
  have hpos := length_layout_pos rest
  have htaken : takenAt window rest = rest.length := by
    rw [takenAt, fitting_eq_length (d := LF) (by rw [← layout]; omega), List.length_map]
  have hlen : 0 < rest.length := List.length_pos_iff.mpr hrest
  rw [turn_layout pre blocksLen m alignedBlock informations hunit hwindow.le
    (by rw [htaken]; exact hlen), htaken, List.take_length]
  rfl

/-- A turn that is not the last moves on to the entries that its unit has not taken in. -/
lemma turn_next (hrest : rest ≠ []) (hm : ∀ e ∈ rest, e.text.length + 2 ≤ m)
    (hmany : (pre ++ layout rest).length ≠ m)
    (long : DICTIONARY_BLOCK_UNIT_LENGTH < (layout rest).length)
    (more : unitLengthAt m rest ≤ (layout rest).length) :
    getDictionaryBlockInformationsTurn (pre ++ layout rest) blocksLen m
        ⟨pre.length, alignedBlock, informations⟩ =
      let u := rest.take (takenAt (unitLengthAt m rest) rest)
      .ok (.inl ⟨(pre ++ (layout u).dropLast).length, alignedBlock ++ (layout u).dropLast,
        informations ++ [informationAt blocksLen pre.length u]⟩) := by
  have hunit := getUnitLength_of_lt pre hrest m long
  have hbreak : (takenAt DICTIONARY_BLOCK_UNIT_LENGTH rest == 0 &&
      (pre ++ layout rest).length == m) = false := by
    simp only [Bool.and_eq_false_iff, beq_eq_false_iff_ne]
    exact .inr hmany
  rw [hbreak] at hunit
  rw [turn_layout pre blocksLen m alignedBlock informations hunit more
    (takenAt_unitLengthAt_pos hrest hm)]
  simp only [Bool.false_eq_true, if_false, List.length_append, List.length_dropLast]

/-- The window of the longest entry may end beyond the block. -/
lemma turn_panic (hrest : rest ≠ [])
    (long : DICTIONARY_BLOCK_UNIT_LENGTH < (layout rest).length)
    (short : (layout rest).length < unitLengthAt m rest) :
    getDictionaryBlockInformationsTurn (pre ++ layout rest) blocksLen m
        ⟨pre.length, alignedBlock, informations⟩ = .panic ∨
    getDictionaryBlockInformationsTurn (pre ++ layout rest) blocksLen m
        ⟨pre.length, alignedBlock, informations⟩ = .error .jisyoRead := by
  have hunit := getUnitLength_of_lt pre hrest m long
  have hslice : (sliceTo (pre ++ layout rest) (pre.length + unitLengthAt m rest) :
      Result Bytes) = .panic := sliceTo_of_lt (by rw [List.length_append]; omega)
  rw [getDictionaryBlockInformationsTurn, sliceFrom_append, Outcome.ok_bind]
  cases hfind : find [SP] (layout rest) with
  | none => exact .inr rfl
  | some found =>
    refine .inl ?_
    simp only [hunit, Outcome.ok_bind, hslice, Outcome.panic_bind]

/-- No entry is left, and the loop does not know: it looks for the space of the next one. -/
lemma turn_nil :
    getDictionaryBlockInformationsTurn (pre ++ layout []) blocksLen m
        ⟨pre.length, alignedBlock, informations⟩ = .error .jisyoRead := by
  have hfind : find [SP] (layout []) = none := find_singleton_eq_none (by decide)
  rw [getDictionaryBlockInformationsTurn, sliceFrom_append, Outcome.ok_bind, hfind]

/-- What a turn leaves behind it is a longer prefix of the same block. -/
lemma append_layout_take_drop (pre : Bytes) (rest : List Entry) (n : ℕ) :
    pre ++ layout rest = (pre ++ (layout (rest.take n)).dropLast) ++ layout (rest.drop n) := by
  rw [List.append_assoc, ← layout_append, List.take_append_drop]

end Turns

/-- **A walk that ends is what the loop does**: it cuts what is left into the units of the walk. -/
theorem loop_of_walkEndsAt {m p : ℕ} {rest : List Entry} (hwalk : WalkEndsAt m rest p)
    (hrest : rest ≠ []) (hm : ∀ e ∈ rest, e.text.length + 2 ≤ m) (pre : Bytes)
    (hmany : (pre ++ layout rest).length ≠ m ∨
      (layout rest).length ≤ DICTIONARY_BLOCK_UNIT_LENGTH)
    (blocksLen : ℕ) (alignedBlock : Bytes) (informations : List DictionaryBlockInformation)
    (fuel : ℕ) (hfuel : rest.length < fuel) :
    ∃ units : List (List Entry), units.flatten = rest ∧ (∀ u ∈ units, u ≠ []) ∧
      (∃ w ∈ unitWindows blocksLen pre.length units, w.2.1 = blocksLen + pre.length + p) ∧
      (∀ w ∈ unitWindows blocksLen pre.length units, w.2.1 ≤ blocksLen + pre.length + p) ∧
      loop (getDictionaryBlockInformationsTurn (pre ++ layout rest) blocksLen m) fuel
          ⟨pre.length, alignedBlock, informations⟩ = (do
        let alignedBlock ← padAlignedBlock (alignedBlock ++ layout rest)
        return (alignedBlock, informations ++ informationsAt blocksLen pre.length units)) := by
  induction hwalk generalizing pre alignedBlock informations fuel with
  | @last rest fits =>
    obtain ⟨fuel, rfl⟩ : ∃ n, fuel = n + 1 := ⟨fuel - 1, by omega⟩
    have hturn := turn_last blocksLen alignedBlock informations hrest
      (getUnitLength_of_le pre hrest m fits) rfl
    refine ⟨[rest], by simp, by simpa using hrest, ⟨_, List.mem_singleton_self _, by
      rw [unitWindow, Nat.add_zero]⟩, ?_, ?_⟩
    · intro w hw
      rw [unitWindows, unitWindows, List.mem_singleton] at hw
      rw [hw, unitWindow, Nat.add_zero]
    · rw [loop, hturn]
      cases padAlignedBlock (alignedBlock ++ layout rest) <;> rfl
  | @next rest p long more tail ih =>
    obtain ⟨fuel, rfl⟩ : ∃ n, fuel = n + 1 := ⟨fuel - 1, by omega⟩
    have hmany : (pre ++ layout rest).length ≠ m := hmany.resolve_right (by omega)
    have hpos := takenAt_unitLengthAt_pos hrest hm
    have hlt := takenAt_lt_length (unitLengthAt_pos hrest hm) more
    have hturn := turn_next blocksLen alignedBlock informations hrest hm hmany long more.le
    have hblock := append_layout_take_drop pre rest (takenAt (unitLengthAt m rest) rest)
    set n := takenAt (unitLengthAt m rest) rest with hn
    set u := rest.take n with hu
    have hmany' : ((pre ++ (layout u).dropLast) ++ layout (rest.drop n)).length ≠ m := by
      rwa [← hblock]
    have hlenpre : (pre ++ (layout u).dropLast).length = pre.length + ((layout u).length - 1) := by
      rw [List.length_append, List.length_dropLast]
    obtain ⟨units, hflatten, hne, ⟨w, hw, hwp⟩, hle, hloop⟩ :=
      ih (by simpa using hlt) (fun e he => hm e (List.mem_of_mem_drop he))
        (pre ++ (layout u).dropLast) (.inl hmany') (alignedBlock ++ (layout u).dropLast)
        (informations ++ [informationAt blocksLen pre.length u]) fuel
        (by rw [List.length_drop]; omega)
    rw [hlenpre] at hw hwp hle
    refine ⟨u :: units, ?_, ?_, ⟨w, List.mem_cons_of_mem _ hw, by rw [hwp]; omega⟩, ?_, ?_⟩
    · rw [List.flatten_cons, hflatten, hu, List.take_append_drop]
    · intro v hv
      rcases List.mem_cons.mp hv with rfl | hv
      · simp [hu, hpos.ne', hrest]
      · exact hne v hv
    · intro v hv
      rcases List.mem_cons.mp hv with rfl | hv
      · dsimp only [unitWindow]
        omega
      · have := hle v hv
        omega
    · rw [loop_continue hturn, hblock, hloop, hlenpre, List.append_assoc, ← layout_append, hu,
        List.take_append_drop, informationsAt, List.append_assoc, List.singleton_append]

/-- Where the loop returns, its walk ends. -/
theorem walkEndsAt_of_loop {m blocksLen fuel : ℕ} {rest : List Entry} (pre : Bytes)
    {alignedBlock : Bytes} {informations : List DictionaryBlockInformation}
    {r : Bytes × List DictionaryBlockInformation} (hrest : rest ≠ [])
    (hm : ∀ e ∈ rest, e.text.length + 2 ≤ m) (hmany : (pre ++ layout rest).length ≠ m)
    (h : loop (getDictionaryBlockInformationsTurn (pre ++ layout rest) blocksLen m) fuel
      ⟨pre.length, alignedBlock, informations⟩ = .ok r) :
    ∃ p, WalkEndsAt m rest p := by
  induction fuel generalizing rest pre alignedBlock informations with
  | zero => simp [loop] at h
  | succ fuel ih =>
    by_cases long : DICTIONARY_BLOCK_UNIT_LENGTH < (layout rest).length
    swap
    · exact ⟨0, .last (by omega)⟩
    rcases Nat.lt_trichotomy (unitLengthAt m rest) (layout rest).length with more | heq | short
    · rw [loop_continue (turn_next _ _ _ hrest hm hmany long more.le)] at h
      have hblock := append_layout_take_drop pre rest (takenAt (unitLengthAt m rest) rest)
      rw [hblock] at h
      have hlt := takenAt_lt_length (unitLengthAt_pos hrest hm) more
      obtain ⟨p, hp⟩ := ih _ (by simpa using hlt) (fun e he => hm e (List.mem_of_mem_drop he))
        (by rwa [← hblock]) h
      exact ⟨_, .next long more hp⟩
    · -- the window takes in all that is left, and the next turn finds nothing to cut
      have htaken : takenAt (unitLengthAt m rest) rest = rest.length := by
        have hpos := length_layout_pos rest
        rw [takenAt, fitting_eq_length (d := LF) (by rw [← layout]; omega), List.length_map]
      have hturn := turn_next blocksLen alignedBlock informations hrest hm hmany long heq.le
      have hblock := append_layout_take_drop pre rest rest.length
      rw [htaken] at hturn
      rw [loop_continue hturn, hblock, List.drop_length] at h
      cases fuel with
      | zero => simp [loop] at h
      | succ fuel =>
        rw [loop_error (turn_nil _ _ _)] at h
        simp at h
    · rcases turn_panic blocksLen alignedBlock informations hrest long short with hturn | hturn
      · rw [loop_panic hturn] at h
        simp at h
      · rw [loop_error hturn] at h
        simp at h

/-! ## The whole function -/

/-- **When the source can cut a block**: it holds a single entry, or the walk over it ends; and the
offsets and the padded length fit into `u32`. -/
def CanCut (es : List Entry) (blocksLen : ℕ) : Prop :=
  (∃ p, (es.length = 1 ∧ p = 0 ∨ WalkEndsAt (longest es) es p) ∧ blocksLen + p < 2 ^ 32) ∧
    (layout es).length + 16 < 2 ^ 32

lemma length_layout_ne_longest {es : List Entry} (hes : es ≠ []) (hone : es.length ≠ 1) :
    (layout es).length ≠ longest es := by
  rcases es with _ | ⟨e, _ | ⟨f, es⟩⟩
  · exact absurd rfl hes
  · exact absurd rfl hone
  · exact longest_lt_length_layout.ne'

/-- A block of one entry is one unit, however long the entry is. -/
lemma loop_singleton (e : Entry) (blocksLen : ℕ) (alignedBlock : Bytes) {fuel : ℕ}
    (hfuel : 0 < fuel) :
    loop (getDictionaryBlockInformationsTurn (layout [e]) blocksLen (longest [e])) fuel
        ⟨0, alignedBlock, []⟩ = (do
      let alignedBlock ← padAlignedBlock (alignedBlock ++ layout [e])
      return (alignedBlock, informationsAt blocksLen 0 [[e]])) := by
  obtain ⟨fuel, rfl⟩ : ∃ n, fuel = n + 1 := ⟨fuel - 1, by omega⟩
  have hlongest : longest [e] = (layout [e]).length := by
    rw [longest, longest, length_layout_cons, layout_nil, List.length_singleton]
    omega
  obtain ⟨window, hunit, hwindow⟩ : ∃ window, getUnitLength ([] ++ layout [e]) (longest [e])
      ([] : Bytes).length = .ok (window, true) ∧ window = (layout [e]).length := by
    by_cases h : (layout [e]).length ≤ DICTIONARY_BLOCK_UNIT_LENGTH
    · exact ⟨_, getUnitLength_of_le [] (by simp) _ h, rfl⟩
    · have hzero : takenAt DICTIONARY_BLOCK_UNIT_LENGTH [e] = 0 := by
        have hlen : (layout [e]).length = e.text.length + 2 := by simp
        rw [takenAt, List.map_singleton, fitting_cons_eq_zero]
        omega
      have hunit := getUnitLength_of_lt [] (List.cons_ne_nil e []) (longest [e]) (by omega)
      refine ⟨unitLengthAt (longest [e]) [e], ?_, ?_⟩
      · rw [hunit, hzero, List.nil_append, hlongest]
        simp
      · rw [unitLengthAt, ← takenAt, hzero, if_pos rfl, hlongest]
  have hturn := turn_last blocksLen alignedBlock [] (by simp) hunit hwindow
  rw [List.nil_append, List.length_nil] at hturn
  rw [loop, hturn]
  cases padAlignedBlock (alignedBlock ++ layout [e]) <;> rfl

/-- What the function does with a block that it can walk through. -/
theorem getDictionaryBlockInformations_of_walk {es : List Entry} (hes : es ≠ []) {p : ℕ}
    (hwalk : es.length = 1 ∧ p = 0 ∨ WalkEndsAt (longest es) es p) (blocksLen : ℕ)
    (alignedBlock : Bytes) :
    ∃ units : List (List Entry), units.flatten = es ∧ (∀ u ∈ units, u ≠ []) ∧
      (∃ w ∈ unitWindows blocksLen 0 units, w.2.1 = blocksLen + p) ∧
      (∀ w ∈ unitWindows blocksLen 0 units, w.2.1 ≤ blocksLen + p) ∧
      getDictionaryBlockInformations (layout es) blocksLen alignedBlock = (do
        let alignedBlock ← padAlignedBlock (alignedBlock ++ layout es)
        return (alignedBlock, (informationsAt blocksLen 0 units).reverse)) := by
  have hlen : es.length < (layout es).length + 1 := by
    have hle : ∀ fs : List Entry, fs.length ≤ (layout fs).length := by
      intro fs
      induction fs with
      | nil => simp
      | cons f fs ih =>
        rw [length_layout_cons, List.length_cons]
        omega
    exact Nat.lt_succ_of_le (hle es)
  rw [getDictionaryBlockInformations, getMaxEntryLength_layout hes, Outcome.ok_bind]
  by_cases hone : es.length = 1
  · obtain ⟨e, rfl⟩ := List.length_eq_one_iff.mp hone
    have hp : p = 0 := by
      rcases hwalk with ⟨-, hp⟩ | hwalk
      · exact hp
      · cases hwalk with
        | last _ => rfl
        | next long more tail =>
          -- a window that leaves something out takes no entry of a single one
          have hlt := takenAt_lt_length (unitLengthAt_pos hes
            (fun f hf => length_text_le_longest hf)) more
          have hpos := takenAt_unitLengthAt_pos hes (fun f hf => length_text_le_longest hf)
          rw [List.length_singleton] at hlt
          omega
    subst hp
    refine ⟨[[e]], rfl, by simp, ⟨_, List.mem_singleton_self _, rfl⟩, ?_, ?_⟩
    · intro w hw
      rw [unitWindows, unitWindows, List.mem_singleton] at hw
      rw [hw, unitWindow]
    · rw [loop_singleton e blocksLen alignedBlock (Nat.succ_pos _)]
      cases padAlignedBlock (alignedBlock ++ layout [e]) <;> rfl
  · have hwalk := hwalk.resolve_left (fun h => hone h.1)
    obtain ⟨units, hflatten, hne, hlast, hle, hloop⟩ := loop_of_walkEndsAt hwalk hes
      (fun e he => length_text_le_longest he) []
      (.inl (by rw [List.nil_append]; exact length_layout_ne_longest hes hone)) blocksLen
      alignedBlock [] _ hlen
    refine ⟨units, hflatten, hne, hlast, hle, ?_⟩
    rw [List.nil_append, List.length_nil] at hloop
    rw [hloop]
    cases padAlignedBlock (alignedBlock ++ layout es) <;> rfl

/-- Where the function returns, the block holds one entry or its walk ends, and its length fits. -/
theorem walk_of_getDictionaryBlockInformations {es : List Entry} (hes : es ≠ []) {blocksLen : ℕ}
    {r : Bytes × List DictionaryBlockInformation}
    (h : getDictionaryBlockInformations (layout es) blocksLen [] = .ok r) :
    (∃ p, es.length = 1 ∧ p = 0 ∨ WalkEndsAt (longest es) es p) ∧
      (layout es).length + 16 < 2 ^ 32 := by
  have hwalk : ∃ p, es.length = 1 ∧ p = 0 ∨ WalkEndsAt (longest es) es p := by
    by_cases hone : es.length = 1
    · exact ⟨0, .inl ⟨hone, rfl⟩⟩
    · have hrun := h
      rw [getDictionaryBlockInformations, getMaxEntryLength_layout hes, Outcome.ok_bind,
        Outcome.bind_eq_ok] at hrun
      obtain ⟨s, hloop, -⟩ := hrun
      obtain ⟨p, hp⟩ := walkEndsAt_of_loop [] hes
        (fun e he => length_text_le_longest he)
        (by rw [List.nil_append]; exact length_layout_ne_longest hes hone) hloop
      exact ⟨p, .inr hp⟩
  refine ⟨hwalk, ?_⟩
  obtain ⟨p, hp⟩ := hwalk
  obtain ⟨units, -, -, -, -, hrun⟩ := getDictionaryBlockInformations_of_walk hes hp blocksLen []
  by_contra hbig
  rw [hrun, List.nil_append, padAlignedBlock_of_le (by omega)] at h
  simp at h

/-! ## The partition -/

lemma map_window_informationsAt {blocksLen position : ℕ} {units : List (List Entry)}
    (h : ∀ w ∈ unitWindows blocksLen position units, w.2.1 < 2 ^ 32 ∧ w.2.2 < 2 ^ 32) :
    (informationsAt blocksLen position units).map (·.window) =
      unitWindows blocksLen position units := by
  induction units generalizing position with
  | nil => rfl
  | cons u us ih =>
    obtain ⟨hoffset, hlength⟩ := h _ List.mem_cons_self
    rw [informationsAt, List.map_cons, unitWindows,
      ih (fun w hw => h w (List.mem_cons_of_mem _ hw))]
    have hoffset' : (blocksLen + position).toUInt32.toNat = blocksLen + position :=
      toNat_toUInt32_of_lt hoffset
    have hlength' : (layout u).length.toUInt32.toNat = (layout u).length :=
      toNat_toUInt32_of_lt hlength
    rw [informationAt, DictionaryBlockInformation.window, unitWindow, hoffset', hlength']

lemma map_midashi_informationsAt (blocksLen position : ℕ) (units : List (List Entry)) :
    (informationsAt blocksLen position units).map (·.midashi) = units.map firstMidashi := by
  induction units generalizing position with
  | nil => rfl
  | cons u us ih => rw [informationsAt, List.map_cons, ih, List.map_cons, informationAt]

/-- A unit is no longer than its block. -/
lemma length_le_of_mem_unitWindows {blocksLen position : ℕ} {units : List (List Entry)}
    {w : Bytes × ℕ × ℕ} (hw : w ∈ unitWindows blocksLen position units) :
    w.2.2 ≤ (layout units.flatten).length := by
  induction units generalizing position with
  | nil => simp [unitWindows] at hw
  | cons u us ih =>
    have hu := length_layout_pos u
    have hus := length_layout_pos us.flatten
    have happend : (layout (u ++ us.flatten)).length + 1 =
        (layout u).length + (layout us.flatten).length := by
      rw [layout_append, List.length_append, List.length_dropLast]
      omega
    rw [List.flatten_cons]
    rcases List.mem_cons.mp hw with rfl | hw
    · dsimp only [unitWindow]
      omega
    · have := ih hw
      omega

/-- The places of consecutive units depend on their lengths alone. -/
lemma map_offset_unitWindows_congr {blocksLen position : ℕ} {units vnits : List (List Entry)}
    (h : (unitWindows blocksLen position units).map (·.2.2) =
      (unitWindows blocksLen position vnits).map (·.2.2)) :
    (unitWindows blocksLen position units).map (·.2.1) =
      (unitWindows blocksLen position vnits).map (·.2.1) := by
  induction units generalizing position vnits with
  | nil =>
    cases vnits with
    | nil => rfl
    | cons v vs => simp [unitWindows] at h
  | cons u us ih =>
    cases vnits with
    | nil => simp [unitWindows] at h
    | cons v vs =>
      simp only [unitWindows, List.map_cons, List.cons.injEq, unitWindow] at h ⊢
      obtain ⟨hlen, htail⟩ := h
      rw [← hlen] at htail ⊢
      exact ⟨trivial, ih htail⟩

/-- **A block that can be cut is cut into units.** -/
theorem isBlockPartition_of_canCut {es : List Entry} (hes : es ≠ [])
    (hsorted : es.Pairwise fun e f => e.midashi < f.midashi) {blocksLen : ℕ}
    (hcut : CanCut es blocksLen) :
    ∃ alignedBlock informations units,
      getDictionaryBlockInformations (layout es) blocksLen [] =
        .ok (alignedBlock, informations) ∧
      IsBlockPartition es blocksLen units alignedBlock informations := by
  obtain ⟨⟨p, hwalk, hp⟩, hlen⟩ := hcut
  obtain ⟨units, hflatten, hne, -, hle, hrun⟩ :=
    getDictionaryBlockInformations_of_walk hes hwalk blocksLen []
  rw [List.nil_append, padAlignedBlock_of_lt hlen, Outcome.ok_bind] at hrun
  have hwindows : (informationsAt blocksLen 0 units).map (·.window) =
      unitWindows blocksLen 0 units := by
    refine map_window_informationsAt fun w hw => ⟨(hle w hw).trans_lt hp, ?_⟩
    have := length_le_of_mem_unitWindows hw
    rw [hflatten] at this
    omega
  refine ⟨_, _, units, hrun, hflatten, hne, ?_, ?_, ?_, ⟨_, rfl⟩, ?_⟩
  · rw [List.reverse_reverse, hwindows]
  · have hfirst : (units.map firstMidashi).Pairwise (· < ·) := by
      rw [List.pairwise_map]
      exact pairwise_firstMidashi (by rwa [hflatten]) hne
    rw [← map_midashi_informationsAt blocksLen 0, List.pairwise_map] at hfirst
    rwa [List.pairwise_reverse]
  · intro v hv
    have hmem : v.window ∈ unitWindows blocksLen ([] : Bytes).length units := by
      rw [List.length_nil, ← hwindows]
      exact List.mem_map_of_mem (List.mem_reverse.mp hv)
    obtain ⟨u, hu, hwindow⟩ := exists_of_forall₂_of_mem (forall₂_unitWindows _ _ _) hmem
    have hwhole := hwindow.whole
    rw [List.nil_append, hflatten] at hwhole
    exact ⟨u, hu, hwindow.midashi, hwindow.offset_le, hwhole⟩
  · rw [List.length_append, List.length_replicate]
    exact ⟨(layout es).length / 16 + 1, by
      rw [show BLOCK_ALIGNMENT_LENGTH.toNat = 16 from rfl]
      omega⟩

/-- A block that is cut into units can be cut. -/
theorem canCut_of_isBlockPartition {es : List Entry} (hes : es ≠ []) {blocksLen : ℕ}
    {alignedBlock : Bytes} {informations : List DictionaryBlockInformation}
    {units : List (List Entry)}
    (h : getDictionaryBlockInformations (layout es) blocksLen [] =
      .ok (alignedBlock, informations))
    (hpart : IsBlockPartition es blocksLen units alignedBlock informations) :
    CanCut es blocksLen := by
  obtain ⟨⟨p, hwalk⟩, hlen⟩ := walk_of_getDictionaryBlockInformations hes h
  refine ⟨⟨p, hwalk, ?_⟩, hlen⟩
  obtain ⟨vnits, hflatten, -, ⟨w, hw, hwp⟩, -, hrun⟩ :=
    getDictionaryBlockInformations_of_walk hes hwalk blocksLen []
  rw [hrun, List.nil_append, padAlignedBlock_of_lt hlen, Outcome.ok_bind, Outcome.pure_eq,
    Outcome.ok.injEq, Prod.mk.injEq] at h
  have hwindows := hpart.windows
  rw [← h.2, List.reverse_reverse] at hwindows
  -- the lengths of the units of the walk are the lengths that the index keeps
  have hlengths : (unitWindows blocksLen 0 vnits).map (·.2.2) =
      (unitWindows blocksLen 0 units).map (·.2.2) := by
    rw [← hwindows, List.map_map]
    have hall : ∀ w ∈ unitWindows blocksLen 0 vnits, w.2.2 < 2 ^ 32 := by
      intro w hw
      have := length_le_of_mem_unitWindows hw
      rw [hflatten] at this
      omega
    clear hw hwp hwindows h hrun hflatten
    generalize 0 = position at hall ⊢
    induction vnits generalizing position with
    | nil => rfl
    | cons v vs ih =>
      have hv := hall _ List.mem_cons_self
      rw [unitWindows, informationsAt, List.map_cons, List.map_cons,
        ih _ (fun w hw => hall w (List.mem_cons_of_mem _ hw))]
      congr 1
      exact (toNat_toUInt32_of_lt hv).symm
  have hoffset : blocksLen + p ∈ (unitWindows blocksLen 0 units).map (·.2.1) := by
    rw [← map_offset_unitWindows_congr hlengths, ← hwp]
    exact List.mem_map_of_mem hw
  rw [← hwindows, List.map_map] at hoffset
  obtain ⟨v, -, hv⟩ := List.mem_map.mp hoffset
  rw [← hv]
  exact v.offset.toNat_lt

/-- **`get_dictionary_block_informations` cuts a block into units exactly where it can walk through
it.**  It comes back with a partition of the entries for a single entry of any length, and
otherwise for the blocks in which no window of the longest entry reaches the end. -/
theorem getDictionaryBlockInformations_isBlockPartition_iff {es : List Entry} (hes : es ≠ [])
    (hsorted : es.Pairwise fun e f => e.midashi < f.midashi) (blocksLen : ℕ) :
    (∃ alignedBlock informations units,
      getDictionaryBlockInformations (layout es) blocksLen [] =
        .ok (alignedBlock, informations) ∧
      IsBlockPartition es blocksLen units alignedBlock informations) ↔
    CanCut es blocksLen := by
  constructor
  · rintro ⟨alignedBlock, informations, units, h, hpart⟩
    exact canCut_of_isBlockPartition hes h hpart
  · exact isBlockPartition_of_canCut hes hsorted

/-- `a /b/`. -/
def shortEntry : Entry where
  midashi := [0x61]
  candidates := [SLASH, 0x62, SLASH]
  space_not_mem := by decide
  lf_not_mem_midashi := by decide
  lf_not_mem_candidates := by decide

/-- `aa /x..x/`, with that many `x`. -/
def longEntry (n : ℕ) : Entry where
  midashi := [0x61, 0x61]
  candidates := SLASH :: (List.replicate n 0x78 ++ [SLASH])
  space_not_mem := by decide
  lf_not_mem_midashi := by decide
  lf_not_mem_candidates := by
    have hslash : LF ≠ SLASH := by decide
    have hx : LF ≠ 0x78 := by decide
    simp [hslash, hx]

lemma length_text_longEntry (n : ℕ) : (longEntry n).text.length = n + 5 := by
  rw [Entry.length_text]
  simp only [longEntry, List.length_cons, List.length_append, List.length_replicate,
    List.length_nil]
  omega

/-- `ab /y/`. -/
def lastEntry : Entry where
  midashi := [0x61, 0x62]
  candidates := [SLASH, 0x79, SLASH]
  space_not_mem := by decide
  lf_not_mem_midashi := by decide
  lf_not_mem_candidates := by decide

/-- The first two entries fill a unit, and the last one is left for another. -/
lemma canCut_threeEntries : CanCut [shortEntry, longEntry 2030, lastEntry] 0 := by
  have hshort : shortEntry.text.length = 5 := rfl
  have hlast : lastEntry.text.length = 6 := rfl
  have htaken :
      takenAt DICTIONARY_BLOCK_UNIT_LENGTH [shortEntry, longEntry 2030, lastEntry] = 2 := by
    simp [takenAt, fitting, hshort, hlast, length_text_longEntry, DICTIONARY_BLOCK_UNIT_LENGTH]
  have hunit : unitLengthAt (longest [shortEntry, longEntry 2030, lastEntry])
      [shortEntry, longEntry 2030, lastEntry] = DICTIONARY_BLOCK_UNIT_LENGTH := by
    rw [unitLengthAt, ← takenAt, htaken, if_neg (by omega)]
  have hlength : (layout [shortEntry, longEntry 2030, lastEntry]).length = 2050 := by
    simp [hshort, hlast, length_text_longEntry]
  have hrest : (layout [lastEntry]).length ≤ DICTIONARY_BLOCK_UNIT_LENGTH := by
    simp [hlast, DICTIONARY_BLOCK_UNIT_LENGTH]
  have hwalk : WalkEndsAt (longest [shortEntry, longEntry 2030, lastEntry])
      [shortEntry, longEntry 2030, lastEntry] _ :=
    .next (by rw [hlength]; decide) (by rw [hunit, hlength]; decide)
      (by rw [hunit, htaken]; exact .last hrest)
  refine ⟨⟨_, .inr hwalk, ?_⟩, ?_⟩
  · rw [hunit, htaken]
    simp [hshort, length_text_longEntry]
  · rw [hlength]
    norm_num

theorem getDictionaryBlockInformations_isBlockPartition_iff_threeEntries :
    (∃ alignedBlock informations units,
      getDictionaryBlockInformations (layout [shortEntry, longEntry 2030, lastEntry]) 0 [] =
        .ok (alignedBlock, informations) ∧
      IsBlockPartition [shortEntry, longEntry 2030, lastEntry] 0 units alignedBlock informations) ∧
    CanCut [shortEntry, longEntry 2030, lastEntry] 0 := by
  have hsorted : [shortEntry, longEntry 2030, lastEntry].Pairwise
      fun e f => e.midashi < f.midashi := by
    simp only [List.pairwise_cons, List.mem_cons, List.not_mem_nil, or_false, forall_eq_or_imp,
      forall_eq, false_imp_iff, implies_true, List.Pairwise.nil, and_true]
    exact ⟨⟨by decide, by decide⟩, by decide⟩
  exact ⟨(getDictionaryBlockInformations_isBlockPartition_iff (List.cons_ne_nil _ _) hsorted 0).mpr
    canCut_threeEntries, canCut_threeEntries⟩

lemma not_walkEndsAt_long :
    ¬ ∃ p, WalkEndsAt (longest [shortEntry, longEntry 2100]) [shortEntry, longEntry 2100] p := by
  have hshort : shortEntry.text.length = 5 := rfl
  have hlongest : longest [shortEntry, longEntry 2100] = 2107 := by
    simp [longest, hshort, length_text_longEntry]
  have hlen : (layout [longEntry 2100]).length = 2107 := by simp [length_text_longEntry]
  have htaken : takenAt DICTIONARY_BLOCK_UNIT_LENGTH [shortEntry, longEntry 2100] = 1 := by
    simp [takenAt, fitting, hshort, length_text_longEntry, DICTIONARY_BLOCK_UNIT_LENGTH]
  have hzero : takenAt DICTIONARY_BLOCK_UNIT_LENGTH [longEntry 2100] = 0 := by
    simp [takenAt, fitting, length_text_longEntry, DICTIONARY_BLOCK_UNIT_LENGTH]
  have hfirst : unitLengthAt 2107 [shortEntry, longEntry 2100] = DICTIONARY_BLOCK_UNIT_LENGTH := by
    rw [unitLengthAt, ← takenAt, htaken, if_neg (by omega)]
  have hsecond : unitLengthAt 2107 [longEntry 2100] = 2107 := by
    rw [unitLengthAt, ← takenAt, hzero, if_pos rfl]
  rw [hlongest]
  rintro ⟨p, hwalk⟩
  cases hwalk with
  | last fits =>
    rw [length_layout_cons, hlen, DICTIONARY_BLOCK_UNIT_LENGTH] at fits
    omega
  | next long more tail =>
    rw [hfirst, htaken] at tail
    cases tail with
    | last fits =>
      rw [List.drop_succ_cons, List.drop_zero, hlen, DICTIONARY_BLOCK_UNIT_LENGTH] at fits
      omega
    | next long more tail =>
      rw [List.drop_succ_cons, List.drop_zero, hsecond, hlen] at more
      omega

/-- A last entry that is the longest and does not fit into a unit makes the source fail. -/
theorem not_isBlockPartition_long :
    [shortEntry, longEntry 2100] ≠ [] ∧
    [shortEntry, longEntry 2100].Pairwise (fun e f => e.midashi < f.midashi) ∧
    ¬ ∃ alignedBlock informations units,
      getDictionaryBlockInformations (layout [shortEntry, longEntry 2100]) 0 [] =
        .ok (alignedBlock, informations) ∧
      IsBlockPartition [shortEntry, longEntry 2100] 0 units alignedBlock informations := by
  have hlt : shortEntry.midashi < (longEntry 2100).midashi := by decide
  refine ⟨List.cons_ne_nil _ _, by simpa using hlt, ?_⟩
  rintro ⟨alignedBlock, informations, units, h, hpart⟩
  obtain ⟨⟨p, hp, -⟩, -⟩ := canCut_of_isBlockPartition (List.cons_ne_nil _ _) h hpart
  rcases hp with ⟨hone, -⟩ | hwalk
  · simp at hone
  · exact not_walkEndsAt_long ⟨p, hwalk⟩

end DictionaryCreator

end Yaskkserv2
