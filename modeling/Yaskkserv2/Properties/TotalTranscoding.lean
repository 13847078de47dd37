import Yaskkserv2.EncodingSimple.Euc

/-!
# Transcoding of arbitrary bytes

`decode_eq` and `encode_eq` say that both converters return for every buffer.  Here is what they
do on the way: at the beginning of every turn the cursor is in the buffer, the turn moves it on and
not past the end, and the units that the turns take are consecutive pieces of the buffer, each of
which a table lists or an escape reports (`decode_isTotal`, `encode_isTotal`).

The indices into the two vectors are computed by subtractions of unsigned numbers.
`euc2ToUtf8VecIndexChecked` and `utf83ToEucVecIndexChecked` are the same computations with every
subtraction checked: none of them is ever below zero.
-/

namespace Yaskkserv2

open Framework

/-! ## The indices -/

/-- `Decoder::get_euc_2_to_utf8_vec_index` with checked subtractions. -/
def euc2ToUtf8VecIndexChecked (high low : UInt8) : Result ℕ :=
  if low < 0xa1 ∨ high < 0x8e then .ok Decoder.EUC_2_TO_UTF8_VEC_INDEX_EMPTY
  else do
    let high ← checkedSub high.toNat 0x8e
    let low ← checkedSub low.toNat 0xa1
    let result := (low <<< 8) ||| high
    if result > Decoder.EUC_2_TO_UTF8_VEC_INDEX_MAXIMUM then
      return Decoder.EUC_2_TO_UTF8_VEC_INDEX_EMPTY
    return result

/-- The gap that `get_utf8_3_to_euc_vec_index` folds away. -/
def foldRawIndexChecked (rawIndex : ℕ) : Result ℕ :=
  if rawIndex > 0xdade then checkedSub rawIndex (0xdade - 0x8165) else .ok rawIndex

/-- `Encoder::get_utf8_3_to_euc_vec_index` with checked subtractions. -/
def utf83ToEucVecIndexChecked (utf8₀ utf8₁ utf8₂ : UInt8) : Result ℕ :=
  if utf8₀ < 0xe0 ∨ utf8₁ < 0x80 ∨ utf8₂ < 0x80 then .ok Encoder.UTF8_3_TO_EUC_VEC_INDEX_EMPTY
  else do
    let utf8A ← checkedSub utf8₀.toNat 0xe0
    let utf8B ← checkedSub utf8₁.toNat 0x80
    let utf8C ← checkedSub utf8₂.toNat 0x80
    let rawIndex ← foldRawIndexChecked ((utf8A <<< 12) ||| (utf8B <<< 6) ||| utf8C)
    if rawIndex < Encoder.UTF8_3_TO_EUC_VEC_INDEX_RAW_MINIMUM then
      return Encoder.UTF8_3_TO_EUC_VEC_INDEX_EMPTY
    let result ← checkedSub rawIndex Encoder.UTF8_3_TO_EUC_VEC_INDEX_RAW_MINIMUM
    if result > Encoder.UTF8_3_TO_EUC_VEC_INDEX_MAXIMUM then
      return Encoder.UTF8_3_TO_EUC_VEC_INDEX_EMPTY
    return result

lemma checkedSub_of_le {a b : ℕ} (h : b ≤ a) : checkedSub a b = .ok (a - b) := if_pos h

lemma checkedSub_toNat {a b : UInt8} (h : ¬ a < b) :
    checkedSub a.toNat b.toNat = .ok (a - b).toNat := by
  have hle : b ≤ a := UInt8.not_lt.mp h
  rw [checkedSub_of_le (UInt8.le_iff_toNat_le.mp hle), UInt8.toNat_sub_of_le _ _ hle]

lemma euc2ToUtf8VecIndexChecked_eq (high low : UInt8) :
    euc2ToUtf8VecIndexChecked high low = .ok (Decoder.getEuc2ToUtf8VecIndex high low) := by
  rw [euc2ToUtf8VecIndexChecked, Decoder.getEuc2ToUtf8VecIndex]
  by_cases hrange : low < 0xa1 ∨ high < 0x8e
  · rw [if_pos hrange, if_pos hrange]
  · rw [if_neg hrange, if_neg hrange]
    obtain ⟨hlow, hhigh⟩ := not_or.mp hrange
    have hor : (low - 0xa1).toNat <<< 8 ||| (high - 0x8e).toNat =
        (low - 0xa1).toNat * 256 + (high - 0x8e).toNat := by
      rw [← Nat.shiftLeft_add_eq_or_of_lt (high - 0x8e).toNat_lt, Nat.shiftLeft_eq]
    have hsubHigh : checkedSub high.toNat 0x8e = .ok (high - 0x8e).toNat := checkedSub_toNat hhigh
    have hsubLow : checkedSub low.toNat 0xa1 = .ok (low - 0xa1).toNat := checkedSub_toNat hlow
    rw [hsubHigh, Outcome.ok_bind, hsubLow, Outcome.ok_bind, hor]
    dsimp only
    split <;> rfl

lemma utf83ToEucVecIndexChecked_eq (utf8₀ utf8₁ utf8₂ : UInt8) :
    utf83ToEucVecIndexChecked utf8₀ utf8₁ utf8₂ =
      .ok (Encoder.getUtf83ToEucVecIndex utf8₀ utf8₁ utf8₂) := by
  rw [utf83ToEucVecIndexChecked, Encoder.getUtf83ToEucVecIndex]
  by_cases hrange : utf8₀ < 0xe0 ∨ utf8₁ < 0x80 ∨ utf8₂ < 0x80
  · rw [if_pos hrange, if_pos hrange]
  · rw [if_neg hrange, if_neg hrange]
    obtain ⟨h0, h12⟩ := not_or.mp hrange
    obtain ⟨h1, h2⟩ := not_or.mp h12
    have hsub0 : checkedSub utf8₀.toNat 0xe0 = .ok (utf8₀ - 0xe0).toNat := checkedSub_toNat h0
    have hsub1 : checkedSub utf8₁.toNat 0x80 = .ok (utf8₁ - 0x80).toNat := checkedSub_toNat h1
    have hsub2 : checkedSub utf8₂.toNat 0x80 = .ok (utf8₂ - 0x80).toNat := checkedSub_toNat h2
    rw [hsub0, Outcome.ok_bind, hsub1, Outcome.ok_bind, hsub2, Outcome.ok_bind]
    dsimp only
    generalize (utf8₀ - 0xe0).toNat <<< 12 ||| (utf8₁ - 0x80).toNat <<< 6 |||
      (utf8₂ - 0x80).toNat = rawIndex
    have hfold : foldRawIndexChecked rawIndex =
        .ok (if rawIndex > 0xdade then rawIndex - (0xdade - 0x8165) else rawIndex) := by
      rw [foldRawIndexChecked]
      split
      · exact checkedSub_of_le (by omega)
      · rfl
    rw [hfold, Outcome.ok_bind]
    generalize (if rawIndex > 0xdade then rawIndex - (0xdade - 0x8165) else rawIndex) = folded
    by_cases hlow : folded < Encoder.UTF8_3_TO_EUC_VEC_INDEX_RAW_MINIMUM
    · rw [if_pos hlow, if_pos hlow]
      rfl
    · rw [if_neg hlow, if_neg hlow, checkedSub_of_le (Nat.not_lt.mp hlow), Outcome.ok_bind]
      split <;> rfl

namespace Euc

variable (t : EncodingTables)

/-! ## The units of `decode` -/

/-- What `decode` writes for a unit: its ASCII byte, what a table lists for the unit, or an escape
with the bytes of the unit. -/
inductive IsDecodedUnit : Bytes → Bytes → Prop
  | ascii {b : UInt8} (h : b ≤ 0x7f) : IsDecodedUnit [b] [b]
  | vector {b₀ b₁ : UInt8} {utf8 : Bytes} (hlead : IsLead2 b₀)
      (h : t.euc2ToUtf8Vec.get (Decoder.getEuc2ToUtf8VecIndex b₀ b₁) = .ok utf8)
      (hne : utf8 ≠ [0, 0, 0, 0]) : IsDecodedUnit [b₀, b₁] (Decoder.pushToBufferUtf8 utf8)
  | combination {b₀ b₁ : UInt8} {v : Bytes} (hlead : IsLead2 b₀)
      (h : t.combineEucToUtf8Map [b₀, b₁, 0] = some v) :
      IsDecodedUnit [b₀, b₁]
        (Decoder.pushToBufferUtf8 (v.take 4) ++ Decoder.pushToBufferUtf8 (v.drop 4))
  | threeBytes {b₁ b₂ : UInt8} {v : Bytes} (h : t.euc3ToUtf8Map [0x8f, b₁, b₂] = some v) :
      IsDecodedUnit [0x8f, b₁, b₂] (Decoder.pushToBufferUtf8 v)
  | escaped (u : Bytes) : IsDecodedUnit u (escape u)

lemma isDecodedUnit_decode2 {b₀ b₁ : UInt8} (hlead : IsLead2 b₀) :
    IsDecodedUnit t [b₀, b₁] (decode2 t b₀ b₁) := by
  have hget := LookupVec.get_of_le t.euc2ToUtf8Vec (Decoder.getEuc2ToUtf8VecIndex_le b₀ b₁)
  rw [decode2]
  split
  · next hne => exact .vector hlead hget hne
  · split
    · next v hv => exact .combination hlead hv
    · exact .escaped _

lemma isDecodedUnit_decode3 {b₁ b₂ : UInt8} :
    IsDecodedUnit t [0x8f, b₁, b₂] (decode3 t 0x8f b₁ b₂) := by
  rw [decode3]
  split
  · next v hv => exact .threeBytes hv
  · exact .escaped _

/-- A turn of `decode` takes a unit, and it does not take more than there is. -/
lemma isDecodedUnit_decodeNext {l : Bytes} (hl : l ≠ []) :
    IsDecodedUnit t (l.take (decodeNext t l).2) (decodeNext t l).1 ∧
      (decodeNext t l).2 ≤ l.length := by
  obtain ⟨b₀, rest, rfl⟩ := List.exists_cons_of_ne_nil hl
  unfold decodeNext
  by_cases h2 : IsLead2 b₀
  · simp only [if_pos h2]
    rcases rest with _ | ⟨b₁, rest⟩
    · exact ⟨.escaped _, le_rfl⟩
    · exact ⟨isDecodedUnit_decode2 t h2, by simp⟩
  simp only [if_neg h2]
  by_cases h1 : b₀ ≤ 0x7f
  · simp only [if_pos h1]
    exact ⟨.ascii h1, by simp⟩
  simp only [if_neg h1]
  by_cases h3 : b₀ = 0x8f
  · subst h3
    rcases rest with _ | ⟨b₁, _ | ⟨b₂, rest⟩⟩
    · exact ⟨.escaped _, le_rfl⟩
    · exact ⟨.escaped _, le_rfl⟩
    · exact ⟨isDecodedUnit_decode3 t, by simp⟩
  · simp only [if_neg h3]
    exact ⟨.escaped _, by simp⟩

/-! ## The units of `encode` -/

/-- What `encode` writes for a unit. -/
inductive IsEncodedUnit : Bytes → Bytes → Prop
  | ascii {b : UInt8} (h : b ≤ 0x7f) : IsEncodedUnit [b] [b]
  | vector {b₀ b₁ b₂ : UInt8} {euc : Bytes}
      (h : t.utf83ToEucVec.get (Encoder.getUtf83ToEucVecIndex b₀ b₁ b₂) = .ok euc)
      (hne : euc ≠ [0, 0, 0]) : IsEncodedUnit [b₀, b₁, b₂] (Encoder.pushToBufferEuc euc)
  | map {u euc : Bytes} (hu : u.length = 2 ∨ u.length = 4)
      (h : t.utf824ToEucMap (u ++ List.replicate (4 - u.length) 0) = some euc) :
      IsEncodedUnit u (Encoder.pushToBufferEuc euc)
  | combination4 {u euc : Bytes} (hu : u.length = 4) (h : t.combineUtf84ToEucMap u = some euc) :
      IsEncodedUnit u (Encoder.pushToBufferEuc euc)
  | combination6 {u euc : Bytes} (hu : u.length = 6) (h : t.combineUtf86ToEucMap u = some euc) :
      IsEncodedUnit u (Encoder.pushToBufferEuc euc)
  | escaped (u : Bytes) : IsEncodedUnit u (escape u)

lemma isEncodedUnit_encode3 (b₀ b₁ b₂ : UInt8) :
    IsEncodedUnit t [b₀, b₁, b₂] (encode3 t b₀ b₁ b₂) := by
  have hget := LookupVec.get_of_le t.utf83ToEucVec (Encoder.getUtf83ToEucVecIndex_le b₀ b₁ b₂)
  rw [encode3]
  split
  · next hne => exact .vector hget hne
  · exact .escaped _

lemma isEncodedUnit_encode24 {u : Bytes} (hu : u.length = 2 ∨ u.length = 4) :
    IsEncodedUnit t u (encode24 t u) := by
  rw [encode24]
  split
  · next euc h => exact .map hu h
  · exact .escaped u

lemma isEncodedUnit_combine6 {l euc : Bytes} (h : combine6 t l = some euc) :
    IsEncodedUnit t (l.take 6) (Encoder.pushToBufferEuc euc) := by
  unfold combine6 at h
  split at h
  · next hlong => exact .combination6 (by rw [List.length_take]; omega) h
  · simp at h

lemma isEncodedUnit_combine4 {l euc : Bytes} (h : combine4 t l = some euc) :
    IsEncodedUnit t (l.take 4) (Encoder.pushToBufferEuc euc) := by
  unfold combine4 at h
  split at h
  · next hlong => exact .combination4 (by rw [List.length_take]; omega) h
  · simp at h

/-- A turn of `encode` takes a unit. -/
lemma isEncodedUnit_encodeNext {l : Bytes} (hl : l ≠ []) :
    IsEncodedUnit t (l.take (encodeNext t l).2) (encodeNext t l).1 := by
  obtain ⟨b₀, rest, rfl⟩ := List.exists_cons_of_ne_nil hl
  simp only [encodeNext]
  rw [List.getD_cons_zero]
  by_cases h3 : (0xe0 ≤ b₀ ∧ b₀ ≤ 0xef) ∧ isUtf83Bytes (b₀ :: rest) 0
  · rw [if_pos h3]
    cases heuc : combine6 t (b₀ :: rest) with
    | some euc => exact isEncodedUnit_combine6 t heuc
    | none =>
      have hlong : 3 ≤ (b₀ :: rest).length := by simpa using h3.2.1
      rcases rest with _ | ⟨b₁, _ | ⟨b₂, rest⟩⟩
      · simp at hlong
      · simp at hlong
      · exact isEncodedUnit_encode3 t b₀ b₁ b₂
  rw [if_neg h3]
  by_cases h1 : b₀ ≤ 0x7f
  · rw [if_pos h1]
    exact .ascii h1
  rw [if_neg h1]
  by_cases h2 : (0xc2 ≤ b₀ ∧ b₀ ≤ 0xdf) ∧ isUtf82Bytes (b₀ :: rest) 0
  · rw [if_pos h2]
    cases heuc : combine4 t (b₀ :: rest) with
    | some euc => exact isEncodedUnit_combine4 t heuc
    | none =>
      have hlong : ((b₀ :: rest).take 2).length = 2 := by
        rw [List.length_take, min_eq_left (by simpa using h2.2.1)]
      exact isEncodedUnit_encode24 t (Or.inl hlong)
  rw [if_neg h2]
  by_cases h4 : (0xf0 ≤ b₀ ∧ b₀ ≤ 0xf7) ∧ isUtf84Bytes (b₀ :: rest) 0
  · rw [if_pos h4]
    have hlong : ((b₀ :: rest).take 4).length = 4 := by
      rw [List.length_take, min_eq_left (by simpa using h4.2.1)]
    exact isEncodedUnit_encode24 t (Or.inr hlong)
  · rw [if_neg h4]
    exact .escaped _

/-! ## Runs -/

/-- The states at the beginning of a turn of a loop over a buffer. -/
def Reaches (turn : ℕ × Bytes → Result ((ℕ × Bytes) ⊕ Bytes)) (s : ℕ × Bytes) : Prop :=
  Relation.ReflTransGen (fun s s' => turn s = .ok (.inl s')) (0, []) s

/-- **A converter is total on a buffer**: it returns what is written for some units, these are
consecutive pieces of the buffer, and the turns take them one by one with the cursor in the buffer.
`move` is the cursor that a turn leaves, if it does not break. -/
structure IsTotalOn (IsUnit : Bytes → Bytes → Prop)
    (turn : ℕ × Bytes → Result ((ℕ × Bytes) ⊕ Bytes)) (move : ℕ → Result (Option ℕ))
    (buffer : Bytes) (result : Result Bytes) (units : List (Bytes × Bytes)) : Prop where
  result_eq : result = .ok (units.map Prod.snd).flatten
  flatten_eq : (units.map Prod.fst).flatten = buffer
  isUnit : ∀ p ∈ units, p.1 ≠ [] ∧ IsUnit p.1 p.2
  cursor_lt : buffer ≠ [] → ∀ s, Reaches turn s → s.1 < buffer.length
  taken : buffer ≠ [] → ∀ s, Reaches turn s → ∃ done rest, units = done ++ rest ∧
    (done.map Prod.fst).flatten = buffer.take s.1 ∧ (done.map Prod.snd).flatten = s.2
  move_eq : buffer ≠ [] → ∀ s, Reaches turn s → ∃ cursor, move s.1 = .ok cursor ∧
    ∀ i, cursor = some i → s.1 < i ∧ i ≤ buffer.length

/-- The `match` of `decode` at a cursor in the buffer. -/
lemma decodeMatch_eq {buffer : Bytes} {i : ℕ} (hi : i < buffer.length) :
    ∃ cursor, decodeMatch t buffer i = .ok ((decodeNext t (buffer.drop i)).1, cursor) ∧
      ∀ j, cursor = some j → i < j ∧ j ≤ buffer.length := by
  have hne : buffer.drop i ≠ [] := by
    rw [ne_eq, List.drop_eq_nil_iff]
    exact Nat.not_le.mpr hi
  have hpos := decodeNext_pos t (buffer.drop i)
  have hle := (isDecodedUnit_decodeNext t hne).2
  obtain ⟨cursor, hmatch, hcursor⟩ :=
    decodeMatch_append t (buffer.take i) buffer[i] (buffer.drop (i + 1))
  have htake : (buffer.take i).length = i := by rw [List.length_take, min_eq_left hi.le]
  rw [← List.drop_eq_getElem_cons hi] at hmatch hcursor
  rw [List.take_append_drop, htake] at hmatch
  rw [htake] at hcursor
  refine ⟨cursor, hmatch, ?_⟩
  rintro j rfl
  rw [List.length_drop] at hle
  rcases hcursor with hcursor | ⟨hnone, -⟩
  · obtain rfl := Option.some.inj hcursor
    omega
  · simp at hnone

/-- The `match` of `encode` at a cursor in the buffer. -/
lemma encodeMatch_eq {buffer : Bytes} {i : ℕ} (hi : i < buffer.length) :
    ∃ j, encodeMatch t buffer i = .ok ((encodeNext t (buffer.drop i)).1, j) ∧
      i < j ∧ j ≤ buffer.length := by
  have hne : buffer.drop i ≠ [] := by
    rw [ne_eq, List.drop_eq_nil_iff]
    exact Nat.not_le.mpr hi
  have hpos := encodeNext_pos t (buffer.drop i)
  have hle := encodeNext_le t hne
  have hmatch := encodeMatch_append t (buffer.take i) hne
  rw [List.take_append_drop, List.length_take, min_eq_left hi.le] at hmatch
  rw [List.length_drop] at hle
  exact ⟨_, hmatch, by omega, by omega⟩

theorem decode_isTotalOn (buffer : Bytes) :
    IsTotalOn (IsDecodedUnit t) (decodeTurn t buffer)
      (fun i => do
        let r ← decodeMatch t buffer i
        return r.2) buffer (decode t buffer) (readUnits (decodeNext t) buffer) where
  result_eq := by rw [decode_eq, decoded, flatten_map_snd_readUnits]
  flatten_eq := flatten_map_fst_readUnits _ _
  isUnit p hp := by
    obtain ⟨rest, hne, rfl⟩ := exists_of_mem_readUnits (fun l _ => decodeNext_pos t l) hp
    refine ⟨?_, (isDecodedUnit_decodeNext t hne).1⟩
    have hpos := decodeNext_pos t rest
    rw [ne_eq, List.take_eq_nil_iff, not_or]
    exact ⟨by omega, hne⟩
  cursor_lt hbuffer s hs := (exists_readUnits_of_reaches (fun i acc hi => decodeTurn_eq t acc hi)
    (fun l _ => decodeNext_pos t l) hbuffer hs).1
  taken hbuffer s hs := by
    obtain ⟨-, done, hunits, hread, hwritten⟩ := exists_readUnits_of_reaches
      (fun i acc hi => decodeTurn_eq t acc hi) (fun l _ => decodeNext_pos t l) hbuffer hs
    exact ⟨done, _, hunits, hread, hwritten⟩
  move_eq hbuffer s hs := by
    have hcursor := (exists_readUnits_of_reaches (fun i acc hi => decodeTurn_eq t acc hi)
      (fun l _ => decodeNext_pos t l) hbuffer hs).1
    obtain ⟨cursor, hmatch, hmove⟩ := decodeMatch_eq t hcursor
    exact ⟨cursor, by rw [hmatch]; rfl, hmove⟩

theorem encode_isTotalOn (buffer : Bytes) :
    IsTotalOn (IsEncodedUnit t) (encodeTurn t buffer)
      (fun i => do
        let r ← encodeMatch t buffer i
        return some r.2) buffer (encode t buffer) (readUnits (encodeNext t) buffer) where
  result_eq := by rw [encode_eq, encoded, flatten_map_snd_readUnits]
  flatten_eq := flatten_map_fst_readUnits _ _
  isUnit p hp := by
    obtain ⟨rest, hne, rfl⟩ := exists_of_mem_readUnits (fun l _ => encodeNext_pos t l) hp
    refine ⟨?_, isEncodedUnit_encodeNext t hne⟩
    have hpos := encodeNext_pos t rest
    rw [ne_eq, List.take_eq_nil_iff, not_or]
    exact ⟨by omega, hne⟩
  cursor_lt hbuffer s hs := (exists_readUnits_of_reaches (fun i acc hi => encodeTurn_eq t acc hi)
    (fun l _ => encodeNext_pos t l) hbuffer hs).1
  taken hbuffer s hs := by
    obtain ⟨-, done, hunits, hread, hwritten⟩ := exists_readUnits_of_reaches
      (fun i acc hi => encodeTurn_eq t acc hi) (fun l _ => encodeNext_pos t l) hbuffer hs
    exact ⟨done, _, hunits, hread, hwritten⟩
  move_eq hbuffer s hs := by
    have hcursor := (exists_readUnits_of_reaches (fun i acc hi => encodeTurn_eq t acc hi)
      (fun l _ => encodeNext_pos t l) hbuffer hs).1
    obtain ⟨j, hmatch, hmove⟩ := encodeMatch_eq t hcursor
    refine ⟨some j, by rw [hmatch]; rfl, ?_⟩
    rintro i hi
    obtain rfl := Option.some.inj hi
    exact hmove

/-- **Transcoding is total and stays inside its tables**: on every buffer both converters return,
with every byte of it in one unit; and for all bytes the indices into the vectors are computed
without an overflow and lie in them. -/
theorem transcoding_isTotal (buffer : Bytes) :
    (∃ units, IsTotalOn (IsDecodedUnit t) (decodeTurn t buffer)
      (fun i => do
        let r ← decodeMatch t buffer i
        return r.2) buffer (decode t buffer) units) ∧
    (∃ units, IsTotalOn (IsEncodedUnit t) (encodeTurn t buffer)
      (fun i => do
        let r ← encodeMatch t buffer i
        return some r.2) buffer (encode t buffer) units) ∧
    (∀ b₀ b₁, ∃ i, euc2ToUtf8VecIndexChecked b₀ b₁ = .ok i ∧
      Decoder.getEuc2ToUtf8VecIndex b₀ b₁ = i ∧ i ≤ Decoder.EUC_2_TO_UTF8_VEC_INDEX_MAXIMUM) ∧
    ∀ b₀ b₁ b₂, ∃ i, utf83ToEucVecIndexChecked b₀ b₁ b₂ = .ok i ∧
      Encoder.getUtf83ToEucVecIndex b₀ b₁ b₂ = i ∧
      i ≤ Encoder.UTF8_3_TO_EUC_VEC_INDEX_MAXIMUM :=
  ⟨⟨_, decode_isTotalOn t buffer⟩, ⟨_, encode_isTotalOn t buffer⟩,
    fun b₀ b₁ => ⟨_, euc2ToUtf8VecIndexChecked_eq b₀ b₁, rfl,
      Decoder.getEuc2ToUtf8VecIndex_le b₀ b₁⟩,
    fun b₀ b₁ b₂ => ⟨_, utf83ToEucVecIndexChecked_eq b₀ b₁ b₂, rfl,
      Encoder.getUtf83ToEucVecIndex_le b₀ b₁ b₂⟩⟩

end Euc

end Yaskkserv2
