import Yaskkserv2.Properties.ShippedTable

/-!
# Rows of the shipped table, and their slots

Every row is well formed (`rowShape`).  The setup writes a row into slots of the tables; a slot of
the vectors is an index that the converters compute from a code or from a character.  No two rows
have a slot in common, so that the order of the rows does not matter.
-/

namespace Yaskkserv2

open Framework

/-! ## Shapes -/

lemma IsTrail.ne_zero {b : UInt8} (h : IsTrail b) : b ≠ 0 := by
  rintro rfl
  exact absurd h.1 (by decide)

lemma isContinuation_iff {b : UInt8} : isContinuation b = true ↔ 0x80 ≤ b ∧ b ≤ 0xbf := by
  rw [isContinuation, Bool.and_eq_true, decide_eq_true_eq, decide_eq_true_eq]

lemma ne_zero_of_isContinuation {b : UInt8} (h : isContinuation b = true) : b ≠ 0 := by
  rintro rfl
  exact absurd h (by decide)

lemma IsCode.cases {e : Bytes} (h : IsCode e) :
    (∃ b₀ b₁, e = [b₀, b₁] ∧ Euc.IsLead2 b₀ ∧ IsTrail b₁) ∨
      ∃ b₁ b₂, e = [0x8f, b₁, b₂] ∧ IsTrail b₁ ∧ IsTrail b₂ := by
  match e, h with
  | [b₀, b₁], h => exact .inl ⟨b₀, b₁, rfl, h⟩
  | [_, b₁, b₂], ⟨rfl, h⟩ => exact .inr ⟨b₁, b₂, rfl, h⟩

lemma IsMultibyte.cases {c : Bytes} (h : IsMultibyte c) :
    (∃ b₀ b₁, c = [b₀, b₁] ∧ (0xc2 ≤ b₀ ∧ b₀ ≤ 0xdf) ∧ isContinuation b₁) ∨
    (∃ b₀ b₁ b₂, c = [b₀, b₁, b₂] ∧ (0xe0 ≤ b₀ ∧ b₀ ≤ 0xef) ∧ isContinuation b₁ ∧
      isContinuation b₂) ∨
    ∃ b₀ b₁ b₂ b₃, c = [b₀, b₁, b₂, b₃] ∧ (0xf0 ≤ b₀ ∧ b₀ ≤ 0xf7) ∧ isContinuation b₁ ∧
      isContinuation b₂ ∧ isContinuation b₃ := by
  match c, h with
  | [b₀, b₁], h => exact .inl ⟨b₀, b₁, rfl, h⟩
  | [b₀, b₁, b₂], h => exact .inr (.inl ⟨b₀, b₁, b₂, rfl, h⟩)
  | [b₀, b₁, b₂, b₃], h => exact .inr (.inr ⟨b₀, b₁, b₂, b₃, rfl, h⟩)

lemma unpad_pad_of_ne_zero {bytes : Bytes} {length : ℕ} (hne : bytes ≠ [])
    (h : ∀ b ∈ bytes, b ≠ 0) : unpad (pad length bytes) = bytes := by
  rcases bytes with _ | ⟨b, bytes⟩
  · exact absurd rfl hne
  have hbytes : ∀ c ∈ bytes, decide (c ≠ 0) = true := fun c hc =>
    decide_eq_true (h c (List.mem_cons_of_mem b hc))
  rw [pad, List.cons_append, unpad, List.takeWhile_append_of_pos hbytes]
  simp

lemma IsCode.unpad_pad {e : Bytes} (h : IsCode e) : unpad (pad 3 e) = e := by
  rcases h.cases with ⟨b₀, b₁, rfl, h0, h1⟩ | ⟨b₁, b₂, rfl, h1, h2⟩
  · have h0 : b₀ ≠ 0 := by
      rintro rfl
      exact absurd h0 (by decide)
    exact unpad_pad_of_ne_zero (by simp) (by simp [h0, h1.ne_zero])
  · exact unpad_pad_of_ne_zero (by simp) (by simp [h1.ne_zero, h2.ne_zero])

lemma ne_zero_of_le {b low : UInt8} (hb : low ≤ b) (hlow : 0 < low) : b ≠ 0 := by
  rintro rfl
  exact absurd (UInt8.lt_of_lt_of_le hlow hb) (by decide)

lemma IsMultibyte.unpad_pad {c : Bytes} (h : IsMultibyte c) : unpad (pad 4 c) = c := by
  rcases h.cases with ⟨b₀, b₁, rfl, h0, h1⟩ | ⟨b₀, b₁, b₂, rfl, h0, h1, h2⟩ |
    ⟨b₀, b₁, b₂, b₃, rfl, h0, h1, h2, h3⟩
  · exact unpad_pad_of_ne_zero (by simp)
      (by simp [ne_zero_of_le h0.1, ne_zero_of_isContinuation h1])
  · exact unpad_pad_of_ne_zero (by simp)
      (by simp [ne_zero_of_le h0.1, ne_zero_of_isContinuation h1, ne_zero_of_isContinuation h2])
  · exact unpad_pad_of_ne_zero (by simp)
      (by simp [ne_zero_of_le h0.1, ne_zero_of_isContinuation h1, ne_zero_of_isContinuation h2,
        ne_zero_of_isContinuation h3])

/-- What is pushed for a padded code is the code. -/
lemma IsCode.pushToBufferEuc_pad {e : Bytes} (h : IsCode e) :
    Encoder.pushToBufferEuc (pad 3 e) = e := by
  rcases h.cases with ⟨b₀, b₁, rfl, h0, -⟩ | ⟨b₁, b₂, rfl, -, -⟩
  · have h8f : b₀ ≠ 0x8f := by
      rintro rfl
      exact absurd h0 (by decide)
    have h80 : b₀ ≥ 0x80 := by
      rcases h0 with ⟨h0, -⟩ | rfl
      · exact UInt8.le_trans (by decide) h0
      · decide
    change (if b₀ = 0x8f then _ else if b₀ ≥ 0x80 then _ else _) = _
    rw [if_neg h8f, if_pos h80]
    rfl
  · rfl

/-- What is pushed for a padded character is the character. -/
lemma IsMultibyte.pushToBufferUtf8_pad {c : Bytes} (h : IsMultibyte c) :
    Decoder.pushToBufferUtf8 (pad 4 c) = c := by
  rcases h.cases with ⟨b₀, b₁, rfl, h0, h1⟩ | ⟨b₀, b₁, b₂, rfl, h0, h1, h2⟩ |
    ⟨b₀, b₁, b₂, b₃, rfl, h0, h1, h2, h3⟩
  · change (if b₀ ≥ 0xf0 then _ else if b₀ ≥ 0xe0 then _ else if b₀ ≥ 0xc2 then _ else _) = _
    rw [if_neg (fun hc => absurd (UInt8.le_trans hc h0.2) (by decide)),
      if_neg (fun hc => absurd (UInt8.le_trans hc h0.2) (by decide)), if_pos h0.1]
    rfl
  · change (if b₀ ≥ 0xf0 then _ else if b₀ ≥ 0xe0 then _ else _) = _
    rw [if_neg (fun hc => absurd (UInt8.le_trans hc h0.2) (by decide)), if_pos h0.1]
    rfl
  · change (if b₀ ≥ 0xf0 then _ else _) = _
    rw [if_pos h0.1]
    rfl

/-! ## The vector of two-byte codes -/

lemma toNat_of_isLead2 {b : UInt8} (h : Euc.IsLead2 b) :
    0xa1 ≤ b.toNat ∧ b.toNat ≤ 0xfe ∨ b.toNat = 0x8e := by
  rcases h with h | rfl
  · exact .inl ⟨UInt8.le_iff_toNat_le.mp h.1, UInt8.le_iff_toNat_le.mp h.2⟩
  · exact .inr rfl

lemma toNat_of_isTrail {b : UInt8} (h : IsTrail b) : 0xa1 ≤ b.toNat ∧ b.toNat ≤ 0xfe :=
  ⟨UInt8.le_iff_toNat_le.mp h.1, UInt8.le_iff_toNat_le.mp h.2⟩

/-- The index that the decoder computes for a code of two bytes. -/
lemma getEuc2ToUtf8VecIndex_eq {b₀ b₁ : UInt8} (h0 : Euc.IsLead2 b₀) (h1 : IsTrail b₁) :
    Decoder.getEuc2ToUtf8VecIndex b₀ b₁ = (b₁.toNat - 0xa1) * 256 + (b₀.toNat - 0x8e) := by
  have hb₀ := toNat_of_isLead2 h0
  have hb₁ := toNat_of_isTrail h1
  have h8e : (0x8e : UInt8) ≤ b₀ := UInt8.le_iff_toNat_le.mpr (show 0x8e ≤ b₀.toNat by omega)
  have hno : ¬ (b₁ < 0xa1 ∨ b₀ < 0x8e) := by
    rintro (h | h)
    · exact absurd h1.1 (UInt8.not_le.mpr h)
    · exact absurd h8e (UInt8.not_le.mpr h)
  have hmax : ¬ (b₁ - 0xa1).toNat * 256 + (b₀ - 0x8e).toNat >
      Decoder.EUC_2_TO_UTF8_VEC_INDEX_MAXIMUM := by
    rw [UInt8.toNat_sub_of_le _ _ h1.1, UInt8.toNat_sub_of_le _ _ h8e]
    change ¬ (b₁.toNat - 0xa1) * 256 + (b₀.toNat - 0x8e) > 0x5d70
    omega
  unfold Decoder.getEuc2ToUtf8VecIndex
  rw [if_neg hno]
  dsimp only
  rw [if_neg hmax, UInt8.toNat_sub_of_le _ _ h1.1, UInt8.toNat_sub_of_le _ _ h8e]
  rfl

lemma getEuc2ToUtf8VecIndex_of_lt {b₀ b₁ : UInt8} (h : b₁ < 0xa1) :
    Decoder.getEuc2ToUtf8VecIndex b₀ b₁ = 1 := by
  unfold Decoder.getEuc2ToUtf8VecIndex
  rw [if_pos (.inl h)]
  rfl

/-- Every byte that is no trail byte takes the decoder to the slot for what is out of range. -/
lemma getEuc2ToUtf8VecIndex_of_not_isTrail {b₀ b₁ : UInt8} (h0 : Euc.IsLead2 b₀)
    (h1 : ¬ IsTrail b₁) : Decoder.getEuc2ToUtf8VecIndex b₀ b₁ = 1 := by
  by_cases hlow : b₁ < 0xa1
  · exact getEuc2ToUtf8VecIndex_of_lt hlow
  have hff : b₁ = 0xff := by
    have hle := UInt8.not_lt.mp hlow
    have hgt : ¬ b₁ ≤ 0xfe := fun hc => h1 ⟨hle, hc⟩
    have hgt' := UInt8.lt_iff_toNat_lt.mp (UInt8.not_le.mp hgt)
    have hlt := b₁.toNat_lt
    rw [← UInt8.toNat_inj]
    simp only [UInt8.toNat_ofNat] at hgt' ⊢
    omega
  subst hff
  have hb₀ := toNat_of_isLead2 h0
  have h8e : (0x8e : UInt8) ≤ b₀ := UInt8.le_iff_toNat_le.mpr (show 0x8e ≤ b₀.toNat by omega)
  have hno : ¬ ((0xff : UInt8) < 0xa1 ∨ b₀ < 0x8e) := by
    rintro (h | h)
    · exact absurd h (by decide)
    · exact absurd h8e (UInt8.not_le.mpr h)
  have hmax : (0xff - 0xa1 : UInt8).toNat * 256 + (b₀ - 0x8e).toNat >
      Decoder.EUC_2_TO_UTF8_VEC_INDEX_MAXIMUM := by
    change 0x5d70 < 0x5e * 256 + (b₀ - 0x8e).toNat
    omega
  unfold Decoder.getEuc2ToUtf8VecIndex
  rw [if_neg hno]
  dsimp only
  rw [if_pos hmax]
  rfl

/-! ## The vector of three-byte characters -/

/-- Three digits to the base 64 side by side. -/
lemma shiftLeft_or_or {a b c : ℕ} (hb : b < 64) (hc : c < 64) :
    (a <<< 12) ||| (b <<< 6) ||| c = a * 4096 + b * 64 + c := by
  have hb' : b <<< 6 < 2 ^ 12 := by
    rw [Nat.shiftLeft_eq]
    omega
  have hhigh : (a <<< 12) ||| (b <<< 6) = (a * 64 + b) <<< 6 := by
    rw [← Nat.shiftLeft_add_eq_or_of_lt hb', Nat.shiftLeft_eq, Nat.shiftLeft_eq, Nat.shiftLeft_eq]
    ring
  rw [hhigh, ← Nat.shiftLeft_add_eq_or_of_lt (show c < 2 ^ 6 from hc), Nat.shiftLeft_eq]
  ring

/-- The code point of a character of three bytes. -/
def codePoint (b₀ b₁ b₂ : UInt8) : ℕ := b₀.toNat * 4096 + b₁.toNat * 64 + b₂.toNat - 0xe2080

/-- The index that the encoder computes for a character of three bytes. -/
lemma getUtf83ToEucVecIndex_eq {b₀ b₁ b₂ : UInt8} (h0 : 0xe0 ≤ b₀ ∧ b₀ ≤ 0xef)
    (h1 : isContinuation b₁ = true) (h2 : isContinuation b₂ = true) :
    Encoder.getUtf83ToEucVecIndex b₀ b₁ b₂ =
      if codePoint b₀ b₁ b₂ < 0x1e3e then 2
      else if codePoint b₀ b₁ b₂ ≤ 0xa626 then codePoint b₀ b₁ b₂ - 0x1e3e
      else if codePoint b₀ b₁ b₂ ≤ 0xdade then 2
      else if codePoint b₀ b₁ b₂ ≤ 0xff9f then codePoint b₀ b₁ b₂ - 0x77b7
      else 2 := by
  obtain ⟨h1, h1'⟩ := isContinuation_iff.mp h1
  obtain ⟨h2, h2'⟩ := isContinuation_iff.mp h2
  have hb₀ := UInt8.le_iff_toNat_le.mp h0.1
  have hb₁ := UInt8.le_iff_toNat_le.mp h1
  have hb₂ := UInt8.le_iff_toNat_le.mp h2
  have hb₁' := UInt8.le_iff_toNat_le.mp h1'
  have hb₂' := UInt8.le_iff_toNat_le.mp h2'
  simp only [UInt8.toNat_ofNat] at hb₀ hb₁ hb₂ hb₁' hb₂'
  have hraw : ((b₀ - 0xe0).toNat <<< 12) ||| ((b₁ - 0x80).toNat <<< 6) ||| (b₂ - 0x80).toNat =
      codePoint b₀ b₁ b₂ := by
    have hx : (b₀ - 0xe0).toNat = b₀.toNat - 224 := UInt8.toNat_sub_of_le _ _ h0.1
    have hy : (b₁ - 0x80).toNat = b₁.toNat - 128 := UInt8.toNat_sub_of_le _ _ h1
    have hz : (b₂ - 0x80).toNat = b₂.toNat - 128 := UInt8.toNat_sub_of_le _ _ h2
    have hb : (b₁ - 0x80).toNat < 64 := by omega
    have hc : (b₂ - 0x80).toNat < 64 := by omega
    rw [shiftLeft_or_or hb hc]
    unfold codePoint
    omega
  have hno : ¬ (b₀ < 0xe0 ∨ b₁ < 0x80 ∨ b₂ < 0x80) := by
    rintro (h | h | h)
    · exact absurd h0.1 (UInt8.not_le.mpr h)
    · exact absurd h1 (UInt8.not_le.mpr h)
    · exact absurd h2 (UInt8.not_le.mpr h)
  have hfold : ∀ p : ℕ, (if (if p > 0xdade then p - (0xdade - 0x8165) else p) < 0x1e3e then 2
      else if (if p > 0xdade then p - (0xdade - 0x8165) else p) - 0x1e3e >
          0xff9f - 0x1e3e - (0xdade - 0x8165) then 2
      else (if p > 0xdade then p - (0xdade - 0x8165) else p) - 0x1e3e) =
        if p < 0x1e3e then 2 else if p ≤ 0xa626 then p - 0x1e3e else if p ≤ 0xdade then 2
        else if p ≤ 0xff9f then p - 0x77b7 else 2 := by
    intro p
    split_ifs <;> omega
  unfold Encoder.getUtf83ToEucVecIndex
  rw [if_neg hno, ← hraw, ← hfold]
  rfl
/-! ## The rows -/

namespace EncodingTable

lemma rowShape_of_isSingleByteRow {n : ℕ} (h : isSingleByteRow n = true) :
    RowShape (euc3 n) (utf8 n) := by
  simp only [isSingleByteRow, Bool.and_eq_true, Bool.or_eq_true, Nat.beq_eq, Nat.ble_eq,
    isWithin_iff] at h
  obtain ⟨⟨⟨⟨h5, h4⟩, h1⟩, h0⟩, ⟨⟨h6, h3⟩, h2⟩ | ⟨⟨h6, h3⟩, h2⟩⟩ := h
  all_goals
    rw [euc3_eq, utf8_eq, show byteAt n 5 = 0 from byteAt_eq_iff.mpr h5,
      show byteAt n 4 = 0 from byteAt_eq_iff.mpr h4, show byteAt n 1 = 0 from byteAt_eq_iff.mpr h1,
      show byteAt n 0 = 0 from byteAt_eq_iff.mpr h0]
  · rw [show byteAt n 3 = byteAt n 6 from byteAt_eq_iff.mpr (h3.trans (toNat_byteAt n 6).symm),
      show byteAt n 2 = 0 from byteAt_eq_iff.mpr h2]
    exact .ascii (byteAt_le_iff.mpr h6)
  · rw [show byteAt n 3 = 0xc2 from byteAt_eq_iff.mpr h3,
      show byteAt n 2 = byteAt n 6 from byteAt_eq_iff.mpr (h2.trans (toNat_byteAt n 6).symm)]
    exact .c1Control ⟨le_byteAt_iff.mpr h6.1, byteAt_le_iff.mpr h6.2⟩

lemma exists_code_of_isCodeRow {n : ℕ} (h : isCodeRow n = true) :
    ∃ e, IsCode e ∧ euc3 n = pad 3 e := by
  simp only [isCodeRow, Bool.and_eq_true, Bool.or_eq_true, Nat.beq_eq, isWithin_iff] at h
  obtain ⟨h5, ⟨h6, h4⟩ | ⟨h6, h4⟩⟩ := h
  · refine ⟨[byteAt n 6, byteAt n 5], ⟨?_, le_byteAt_iff.mpr h5.1, byteAt_le_iff.mpr h5.2⟩, ?_⟩
    · rcases h6 with h6 | h6
      · exact .inl ⟨le_byteAt_iff.mpr h6.1, byteAt_le_iff.mpr h6.2⟩
      · exact .inr (byteAt_eq_iff.mpr h6)
    · rw [euc3_eq, show byteAt n 4 = 0 from byteAt_eq_iff.mpr h4]
      rfl
  · refine ⟨[byteAt n 6, byteAt n 5, byteAt n 4], ⟨byteAt_eq_iff.mpr h6,
      ⟨le_byteAt_iff.mpr h5.1, byteAt_le_iff.mpr h5.2⟩, le_byteAt_iff.mpr h4.1,
      byteAt_le_iff.mpr h4.2⟩, ?_⟩
    rw [euc3_eq]
    rfl

lemma isContinuation_byteAt {n k : ℕ} (h : 0x80 ≤ digit n k ∧ digit n k ≤ 0xbf) :
    isContinuation (byteAt n k) = true :=
  isContinuation_iff.mpr ⟨le_byteAt_iff.mpr h.1, byteAt_le_iff.mpr h.2⟩

lemma isCharacter2Row_iff {n : ℕ} : isCharacter2Row n = true ↔
    ((((0xc2 ≤ digit n 3 ∧ digit n 3 ≤ 0xdf) ∧ 0x80 ≤ digit n 2 ∧ digit n 2 ≤ 0xbf) ∧
      digit n 1 = 0) ∧ digit n 0 = 0) ∧ (0xc3 ≤ digit n 3 ∨ 0xa0 ≤ digit n 2) := by
  simp only [isCharacter2Row, Bool.and_eq_true, Bool.or_eq_true, Nat.beq_eq, Nat.ble_eq,
    isWithin_iff]

lemma isCharacter3Row_iff {n : ℕ} : isCharacter3Row n = true ↔
    (((((0xe0 ≤ digit n 3 ∧ digit n 3 ≤ 0xef) ∧ 0x80 ≤ digit n 2 ∧ digit n 2 ≤ 0xbf) ∧
      0x80 ≤ digit n 1 ∧ digit n 1 ≤ 0xbf) ∧ digit n 0 = 0) ∧
      ((0xe3ebe ≤ number3 n ∧ number3 n ≤ 0xec6a6) ∨
        (0xefb5f ≤ number3 n ∧ number3 n ≤ 0xf201f))) ∧ number3 n ≠ 0xe3ec0 := by
  simp only [isCharacter3Row, Bool.and_eq_true, Bool.or_eq_true, Nat.beq_eq, isWithin_iff,
    Bool.not_eq_true', ← Bool.not_eq_true]

lemma isCharacter4Row_iff {n : ℕ} : isCharacter4Row n = true ↔
    ((digit n 3 = 0xf0 ∧ 0xa0 ≤ digit n 2 ∧ digit n 2 ≤ 0xbf) ∧
      0x80 ≤ digit n 1 ∧ digit n 1 ≤ 0xbf) ∧ 0x80 ≤ digit n 0 ∧ digit n 0 ≤ 0xbf := by
  simp only [isCharacter4Row, Bool.and_eq_true, Nat.beq_eq, isWithin_iff]

lemma exists_character_of_isMultibyteRow {n : ℕ} (h : isMultibyteRow n = true) :
    ∃ c, IsMultibyte c ∧ ¬ IsC1Control c ∧ utf8 n = pad 4 c := by
  rw [isMultibyteRow, Bool.or_eq_true, Bool.or_eq_true] at h
  rcases h with (h | h) | h
  · obtain ⟨⟨⟨⟨h3, h2⟩, h1⟩, h0⟩, hpast⟩ := isCharacter2Row_iff.mp h
    refine ⟨[byteAt n 3, byteAt n 2], ⟨⟨le_byteAt_iff.mpr h3.1, byteAt_le_iff.mpr h3.2⟩,
      isContinuation_byteAt h2⟩, ?_, ?_⟩
    · rintro ⟨b, hb, hle⟩
      obtain ⟨hb3, hb2⟩ := List.cons_eq_cons.mp hb
      have h3' := byteAt_eq_iff.mp hb3
      have h2' := byteAt_le_iff.mp ((List.cons_eq_cons.mp hb2).1 ▸ hle)
      simp only [UInt8.toNat_ofNat] at h3' h2'
      omega
    · rw [utf8_eq, show byteAt n 1 = 0 from byteAt_eq_iff.mpr h1,
        show byteAt n 0 = 0 from byteAt_eq_iff.mpr h0]
      rfl
  · obtain ⟨⟨⟨⟨⟨h3, h2⟩, h1⟩, h0⟩, -⟩, -⟩ := isCharacter3Row_iff.mp h
    refine ⟨[byteAt n 3, byteAt n 2, byteAt n 1],
      ⟨⟨le_byteAt_iff.mpr h3.1, byteAt_le_iff.mpr h3.2⟩, isContinuation_byteAt h2,
        isContinuation_byteAt h1⟩, ?_, ?_⟩
    · rintro ⟨b, hb, -⟩
      simp at hb
    · rw [utf8_eq, show byteAt n 0 = 0 from byteAt_eq_iff.mpr h0]
      rfl
  · obtain ⟨⟨⟨h3, h2⟩, h1⟩, h0⟩ := isCharacter4Row_iff.mp h
    have h3 : byteAt n 3 = 0xf0 := byteAt_eq_iff.mpr h3
    refine ⟨[byteAt n 3, byteAt n 2, byteAt n 1, byteAt n 0], ⟨?_, ?_, isContinuation_byteAt h1,
      isContinuation_byteAt h0⟩, ?_, rfl⟩
    · rw [h3]
      decide
    · exact isContinuation_byteAt ⟨by omega, h2.2⟩
    · rintro ⟨b, hb, -⟩
      simp at hb

/-- A row is one of the single bytes, or passes the check of a code and of a character. -/
lemma row_cases {n : ℕ} (hn : n ∈ eucUtf8) :
    isSingleByteRow n = true ∨ isCodeRow n = true ∧ isMultibyteRow n = true := by
  rw [← List.take_append_drop 160 eucUtf8, List.mem_append] at hn
  rcases hn with hn | hn
  · exact .inl (List.all_eq_true.mp isSingleByteRow_take n hn)
  · exact .inr (Bool.and_eq_true_iff.mp (List.all_eq_true.mp isMultibyteRow_drop n hn))

/-- **Every row of the shipped table is well formed.** -/
theorem rowShape {n : ℕ} (hn : n ∈ eucUtf8) : RowShape (euc3 n) (utf8 n) := by
  rcases row_cases hn with h | ⟨hcode, hcharacter⟩
  · exact rowShape_of_isSingleByteRow h
  · obtain ⟨e, he, heuc⟩ := exists_code_of_isCodeRow hcode
    obtain ⟨c, hc, hc1, hutf8⟩ := exists_character_of_isMultibyteRow hcharacter
    rw [heuc, hutf8]
    exact .multibyte he hc hc1

end EncodingTable

namespace EncodingTables

/-! ## The slots of a row -/

/-- The slot of a row in the vector of two-byte codes. -/
def euc2Slot (euc3 : Bytes) : Option (Fin (Decoder.EUC_2_TO_UTF8_VEC_INDEX_MAXIMUM + 1)) :=
  if euc3.headD 0 = 0x8f then none
  else if euc3.headD 0 = 0x8e ∨ 0xa0 ≤ euc3.headD 0 then
    some ⟨Decoder.getEuc2ToUtf8VecIndex (euc3.headD 0) (euc3.getD 1 0),
      Decoder.getEuc2ToUtf8VecIndex_lt _ _⟩
  else none

/-- The slot of a row in the map of three-byte codes. -/
def euc3Slot (euc3 : Bytes) : Option Bytes := if euc3.headD 0 = 0x8f then some euc3 else none

/-- The slot of a row in the vector of three-byte characters. -/
def utf83Slot (utf8 : Bytes) : Option (Fin (Encoder.UTF8_3_TO_EUC_VEC_INDEX_MAXIMUM + 1)) :=
  if utf8.headD 0 ≤ 0x7f then none
  else if 0xe0 ≤ utf8.headD 0 ∧ utf8.headD 0 ≤ 0xef then
    some ⟨Encoder.getUtf83ToEucVecIndex (utf8.headD 0) (utf8.getD 1 0) (utf8.getD 2 0),
      Encoder.getUtf83ToEucVecIndex_lt _ _ _⟩
  else none

/-- The slot of a row in the map of two- and four-byte characters. -/
def utf824Slot (utf8 : Bytes) : Option Bytes :=
  if utf8.headD 0 ≤ 0x7f then none
  else if 0xe0 ≤ utf8.headD 0 ∧ utf8.headD 0 ≤ 0xef then none
  else some utf8

variable (t : EncodingTables) (euc3 utf8 : Bytes)

lemma LookupVec.set_eq_update {maximum i : ℕ} (v : LookupVec maximum) (h : i < maximum + 1)
    (value : Bytes) : v.set i value = Function.update v ⟨i, h⟩ value := by
  funext j
  rw [LookupVec.set, Function.update_apply]
  simp only [Fin.ext_iff]

lemma insertRow_euc2ToUtf8Vec : (insertRow t euc3 utf8).euc2ToUtf8Vec =
    assign (euc2Slot euc3) utf8 t.euc2ToUtf8Vec := by
  have hleft : (insertRow t euc3 utf8).euc2ToUtf8Vec =
      if euc3.headD 0 = 0x8f then t.euc2ToUtf8Vec
      else if euc3.headD 0 = 0x8e ∨ 0xa0 ≤ euc3.headD 0 then
        t.euc2ToUtf8Vec.set (Decoder.getEuc2ToUtf8VecIndex (euc3.headD 0) (euc3.getD 1 0)) utf8
      else t.euc2ToUtf8Vec := by
    unfold insertRow
    split_ifs <;> rfl
  rw [hleft, euc2Slot]
  split_ifs
  · rfl
  · exact LookupVec.set_eq_update _ _ _
  · rfl

lemma insertRow_euc3ToUtf8Map : (insertRow t euc3 utf8).euc3ToUtf8Map =
    assign (euc3Slot euc3) (some utf8) t.euc3ToUtf8Map := by
  unfold insertRow euc3Slot
  split_ifs <;> rfl

lemma insertRow_utf83ToEucVec : (insertRow t euc3 utf8).utf83ToEucVec =
    assign (utf83Slot utf8) euc3 t.utf83ToEucVec := by
  have hleft : (insertRow t euc3 utf8).utf83ToEucVec =
      if utf8.headD 0 ≤ 0x7f then t.utf83ToEucVec
      else if 0xe0 ≤ utf8.headD 0 ∧ utf8.headD 0 ≤ 0xef then
        t.utf83ToEucVec.set (Encoder.getUtf83ToEucVecIndex (utf8.headD 0) (utf8.getD 1 0)
          (utf8.getD 2 0)) euc3
      else t.utf83ToEucVec := by
    unfold insertRow
    split_ifs <;> rfl
  rw [hleft, utf83Slot]
  split_ifs
  · rfl
  · exact LookupVec.set_eq_update _ _ _
  · rfl

lemma insertRow_utf824ToEucMap : (insertRow t euc3 utf8).utf824ToEucMap =
    assign (utf824Slot utf8) (some euc3) t.utf824ToEucMap := by
  unfold insertRow utf824Slot
  split_ifs <;> rfl

lemma insertRow_combineEucToUtf8Map :
    (insertRow t euc3 utf8).combineEucToUtf8Map = t.combineEucToUtf8Map := by
  unfold insertRow
  split_ifs <;> rfl

lemma insertRow_combineUtf84ToEucMap :
    (insertRow t euc3 utf8).combineUtf84ToEucMap = t.combineUtf84ToEucMap := by
  unfold insertRow
  split_ifs <;> rfl

lemma insertRow_combineUtf86ToEucMap :
    (insertRow t euc3 utf8).combineUtf86ToEucMap = t.combineUtf86ToEucMap := by
  unfold insertRow
  split_ifs <;> rfl

end EncodingTables

namespace EncodingTable

/-! ## The slots of the rows are distinct -/

lemma euc3_digits {n n' : ℕ} (h : euc3 n = euc3 n') :
    digit n 6 = digit n' 6 ∧ digit n 5 = digit n' 5 ∧ digit n 4 = digit n' 4 := by
  rw [euc3_eq, euc3_eq] at h
  simp only [List.cons.injEq, and_true, byteAt_eq_iff, toNat_byteAt] at h
  exact h

lemma utf8_digits {n n' : ℕ} (h : utf8 n = utf8 n') :
    digit n 3 = digit n' 3 ∧ digit n 2 = digit n' 2 ∧ digit n 1 = digit n' 1 ∧
      digit n 0 = digit n' 0 := by
  rw [utf8_eq, utf8_eq] at h
  simp only [List.cons.injEq, and_true, byteAt_eq_iff, toNat_byteAt] at h
  exact h

lemma codeNumber_congr {n n' : ℕ} (h : euc3 n = euc3 n') : codeNumber n = codeNumber n' := by
  obtain ⟨h6, h5, h4⟩ := euc3_digits h
  rw [codeNumber, codeNumber, h6, h5, h4]

lemma characterNumber_congr {n n' : ℕ} (h : utf8 n = utf8 n') :
    characterNumber n = characterNumber n' := by
  obtain ⟨h3, h2, h1, h0⟩ := utf8_digits h
  simp only [characterNumber, number3, h3, h2, h1, h0]

lemma nodup_codeNumber : (eucUtf8.map codeNumber).Nodup := by
  have h := nodup_of_areDistinct areDistinct_codeNumber
  rw [List.map_append] at h
  exact h.of_append_right

lemma nodup_characterNumber : (eucUtf8.map characterNumber).Nodup :=
  nodup_of_areDistinct areDistinct_characterNumber

lemma nodup_euc3Slot :
    (eucUtf8.filterMap fun n => EncodingTables.euc3Slot (euc3 n)).Nodup := by
  refine nodup_filterMap_of_map nodup_codeNumber fun n _ n' _ k h h' => codeNumber_congr ?_
  unfold EncodingTables.euc3Slot at h h'
  split at h
  · split at h'
    · exact Option.some_injective _ (h.trans h'.symm)
    · exact absurd h' (Option.some_ne_none k).symm
  · exact absurd h (Option.some_ne_none k).symm

lemma nodup_utf824Slot :
    (eucUtf8.filterMap fun n => EncodingTables.utf824Slot (utf8 n)).Nodup := by
  refine nodup_filterMap_of_map nodup_characterNumber fun n _ n' _ k h h' =>
    characterNumber_congr ?_
  have hsome : ∀ bytes, EncodingTables.utf824Slot bytes = some k → bytes = k := by
    intro bytes hbytes
    unfold EncodingTables.utf824Slot at hbytes
    split_ifs at hbytes
    exact Option.some_injective _ hbytes
  exact (hsome _ h).trans (hsome _ h').symm

lemma cond_ble {a b x y : ℕ} : (bif Nat.ble a b then x else y) = if a ≤ b then x else y := by
  by_cases h : a ≤ b
  · rw [if_pos h, Nat.ble_eq_true_of_le h, cond_true]
  · have hfalse : Nat.ble a b = false := Bool.eq_false_iff.mpr (mt Nat.le_of_ble_eq_true h)
    rw [if_neg h, hfalse, cond_false]

/-- The row of a character that has the lead byte of three bytes. -/
lemma isCharacter3Row_of_lead {n : ℕ} (hn : n ∈ eucUtf8)
    (hlead : 0xe0 ≤ digit n 3 ∧ digit n 3 ≤ 0xef) : isCharacter3Row n = true := by
  rcases row_cases hn with h | ⟨-, h⟩
  · simp only [isSingleByteRow, Bool.and_eq_true, Bool.or_eq_true, Nat.beq_eq, Nat.ble_eq,
      isWithin_iff] at h
    omega
  · rw [isMultibyteRow, Bool.or_eq_true, Bool.or_eq_true] at h
    rcases h with (h | h) | h
    · have h2 := isCharacter2Row_iff.mp h
      omega
    · exact h
    · have h4 := isCharacter4Row_iff.mp h
      omega

/-- What a row has in the vector of three-byte characters: the slot that its code point is folded
to, and never the slot for what is out of range. -/
lemma utf83Slot_cases {n : ℕ} (hn : n ∈ eucUtf8)
    {k : Fin (Encoder.UTF8_3_TO_EUC_VEC_INDEX_MAXIMUM + 1)}
    (h : EncodingTables.utf83Slot (utf8 n) = some k) :
    ∃ b₀ b₁ b₂, utf8 n = [b₀, b₁, b₂, 0] ∧ IsMultibyte [b₀, b₁, b₂] ∧ k.val ≠ 2 ∧
      (codePoint b₀ b₁ b₂ ≤ 0xa626 ∧ codePoint b₀ b₁ b₂ = k.val + 0x1e3e ∨
        0xdade < codePoint b₀ b₁ b₂ ∧ codePoint b₀ b₁ b₂ = k.val + 0x77b7) := by
  rw [utf8_eq] at h ⊢
  unfold EncodingTables.utf83Slot at h
  split_ifs at h with hascii hlead
  have hk : Encoder.getUtf83ToEucVecIndex (byteAt n 3) (byteAt n 2) (byteAt n 1) = k.val :=
    congrArg Fin.val (Option.some_injective _ h)
  have hlead : 0xe0 ≤ byteAt n 3 ∧ byteAt n 3 ≤ 0xef := hlead
  have hlead' : 0xe0 ≤ digit n 3 ∧ digit n 3 ≤ 0xef :=
    ⟨le_byteAt_iff.mp hlead.1, byteAt_le_iff.mp hlead.2⟩
  obtain ⟨⟨⟨⟨⟨-, h2⟩, h1⟩, h0⟩, hrange⟩, hempty⟩ :=
    isCharacter3Row_iff.mp (isCharacter3Row_of_lead hn hlead')
  have h2 := isContinuation_byteAt h2
  have h1 := isContinuation_byteAt h1
  have hcode : codePoint (byteAt n 3) (byteAt n 2) (byteAt n 1) = number3 n - 0xe2080 := by
    unfold codePoint number3
    rw [toNat_byteAt, toNat_byteAt, toNat_byteAt]
  rw [getUtf83ToEucVecIndex_eq hlead h2 h1] at hk
  refine ⟨byteAt n 3, byteAt n 2, byteAt n 1, ?_, ⟨hlead, h2, h1⟩, ?_⟩
  · rw [show byteAt n 0 = 0 from byteAt_eq_iff.mpr h0]
  · generalize codePoint (byteAt n 3) (byteAt n 2) (byteAt n 1) = p at hk hcode ⊢
    split_ifs at hk <;> omega

/-- The number of a character of three bytes is its slot. -/
lemma characterNumber_of_utf83Slot {n : ℕ} (hn : n ∈ eucUtf8)
    {k : Fin (Encoder.UTF8_3_TO_EUC_VEC_INDEX_MAXIMUM + 1)}
    (h : EncodingTables.utf83Slot (utf8 n) = some k) : characterNumber n = k.val + 0x4000 := by
  obtain ⟨b₀, b₁, b₂, hbytes, hchar, -, hpoint⟩ := utf83Slot_cases hn h
  rw [utf8_eq] at hbytes
  simp only [List.cons.injEq, and_true, byteAt_eq_iff] at hbytes
  obtain ⟨h3, h2, h1, -⟩ := hbytes
  have hlead : 0xe0 ≤ b₀.toNat ∧ b₀.toNat ≤ 0xef :=
    ⟨UInt8.le_iff_toNat_le.mp hchar.1.1, UInt8.le_iff_toNat_le.mp hchar.1.2⟩
  have hnumber : number3 n - 0xe2080 = codePoint b₀ b₁ b₂ := by
    unfold number3 codePoint
    rw [h3, h2, h1]
  have hdf : ¬ b₀.toNat ≤ 0xdf := by omega
  rw [characterNumber, h3, cond_ble, if_neg hdf, cond_ble, if_pos hlead.2, cond_ble]
  generalize codePoint b₀ b₁ b₂ = p at hnumber hpoint
  by_cases hlow : number3 n ≤ 0xefb5e
  · rw [if_pos hlow]
    omega
  · rw [if_neg hlow]
    omega

lemma nodup_utf83Slot :
    (eucUtf8.filterMap fun n => EncodingTables.utf83Slot (utf8 n)).Nodup := by
  refine nodup_filterMap_of_map nodup_characterNumber fun n hn n' hn' k h h' => ?_
  rw [characterNumber_of_utf83Slot hn h, characterNumber_of_utf83Slot hn' h']

/-- What a row has in the vector of two-byte codes: the slot of its code, or, for the single byte
0x8e, the slot for what is out of range. -/
lemma euc2Slot_cases {n : ℕ} (hn : n ∈ eucUtf8)
    {k : Fin (Decoder.EUC_2_TO_UTF8_VEC_INDEX_MAXIMUM + 1)}
    (h : EncodingTables.euc2Slot (euc3 n) = some k) :
    (euc3 n = [0x8e, 0, 0] ∧ utf8 n = [0xc2, 0x8e, 0, 0] ∧ k.val = 1) ∨
    ∃ b₀ b₁, euc3 n = [b₀, b₁, 0] ∧ Euc.IsLead2 b₀ ∧ IsTrail b₁ ∧
      k.val = (b₁.toNat - 0xa1) * 256 + (b₀.toNat - 0x8e) := by
  have hshape := rowShape hn
  generalize euc3 n = e at h hshape ⊢
  generalize utf8 n = c at hshape ⊢
  cases hshape with
  | @ascii b hb =>
    exfalso
    unfold EncodingTables.euc2Slot at h
    split_ifs at h with h8f hlead
    rcases hlead with hlead | hlead
    · exact absurd (show b = 0x8e from hlead) (by rintro rfl; exact absurd hb (by decide))
    · exact absurd (UInt8.le_trans hlead hb) (by decide)
  | @c1Control b hb =>
    unfold EncodingTables.euc2Slot at h
    split_ifs at h with h8f hlead
    have h8e : b = 0x8e := by
      rcases hlead with hlead | hlead
      · exact hlead
      · exact absurd (UInt8.le_trans hlead hb.2) (by decide)
    subst h8e
    exact .inl ⟨rfl, rfl, (congrArg Fin.val (Option.some_injective _ h)).symm⟩
  | multibyte he hc hc1 =>
    rcases he.cases with ⟨b₀, b₁, rfl, h0, h1⟩ | ⟨b₁, b₂, rfl, h1, h2⟩
    · refine .inr ⟨b₀, b₁, rfl, h0, h1, ?_⟩
      unfold EncodingTables.euc2Slot at h
      split_ifs at h
      exact (congrArg Fin.val (Option.some_injective _ h)).symm.trans
        (getEuc2ToUtf8VecIndex_eq h0 h1)
    · exact absurd h (Option.some_ne_none k).symm

lemma code_of_index {a b k : ℕ} (ha : 0xa1 ≤ a ∧ a ≤ 0xfe ∨ a = 0x8e) (hb : 0xa1 ≤ b ∧ b ≤ 0xfe)
    (hk : k = (b - 0xa1) * 256 + (a - 0x8e)) :
    a * 256 + b = if k = 1 then 0x8e00 else (k % 256 + 0x8e) * 256 + (k / 256 + 0xa1) := by
  have hmod : k % 256 = a - 0x8e := by omega
  have hdiv : k / 256 = b - 0xa1 := by omega
  have h1 : k ≠ 1 := by omega
  rw [if_neg h1, hmod, hdiv, Nat.sub_add_cancel (by omega), Nat.sub_add_cancel (by omega)]

/-- A slot of the vector of two-byte codes determines the code. -/
lemma codeNumber_of_euc2Slot {n : ℕ} (hn : n ∈ eucUtf8)
    {k : Fin (Decoder.EUC_2_TO_UTF8_VEC_INDEX_MAXIMUM + 1)}
    (h : EncodingTables.euc2Slot (euc3 n) = some k) :
    codeNumber n =
      if k.val = 1 then 0x8e00 else (k.val % 256 + 0x8e) * 256 + (k.val / 256 + 0xa1) := by
  have hnumber : ∀ {b₀ b₁ : UInt8}, euc3 n = [b₀, b₁, 0] →
      codeNumber n = b₀.toNat * 256 + b₁.toNat := by
    intro b₀ b₁ hbytes
    rw [euc3_eq] at hbytes
    simp only [List.cons.injEq, and_true, byteAt_eq_iff] at hbytes
    obtain ⟨h6, h5, h4⟩ := hbytes
    rw [codeNumber, h6, h5, h4]
    rfl
  rcases euc2Slot_cases hn h with ⟨hbytes, -, hk⟩ | ⟨b₀, b₁, hbytes, h0, h1, hk⟩
  · rw [hnumber hbytes, if_pos hk]
    rfl
  · rw [hnumber hbytes]
    exact code_of_index (toNat_of_isLead2 h0) (toNat_of_isTrail h1) hk

lemma nodup_euc2Slot :
    (eucUtf8.filterMap fun n => EncodingTables.euc2Slot (euc3 n)).Nodup := by
  refine nodup_filterMap_of_map nodup_codeNumber fun n hn n' hn' k h h' => ?_
  rw [codeNumber_of_euc2Slot hn h, codeNumber_of_euc2Slot hn' h']

end EncodingTable

end Yaskkserv2
