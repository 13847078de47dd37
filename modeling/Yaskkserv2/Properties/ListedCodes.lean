import Yaskkserv2.Properties.TableSetup

/-!
# The converters on one code, one character and one combination

With the tables of the shipped table, what the converters write for a single code or character is
what the table lists for it, and the escape of its bytes where the table lists nothing, but for
two slips.  A two-byte code with a second byte outside 0xa1–0xfe is decoded to U+008E, whatever
its first byte (`decode2_of_not_isTrail`): the row of the single byte 0x8e is written into the slot
for what is out of range.  A character that the table does not list, and that the encoder folds
onto the slot of a listed one, is encoded to the code of that one (`encode3_of_areFolded`).
-/

namespace Yaskkserv2

open Framework

namespace EncodingTable

/-! ## Listed codes -/

lemma mem_singles_cases {e c : Bytes} (h : (e, c) ∈ singles) :
    (∃ b ≤ 0x7f, e = [b] ∧ c = [b]) ∨
    (∃ b, (0x80 ≤ b ∧ b ≤ 0x9f) ∧ e = [b] ∧ c = [0xc2, b]) ∨
    ∃ n ∈ eucUtf8, IsCode e ∧ IsMultibyte c ∧ ¬ IsC1Control c ∧ euc3 n = pad 3 e ∧
      utf8 n = pad 4 c := by
  obtain ⟨n, hn, hrow⟩ := List.mem_map.mp h
  obtain ⟨rfl, rfl⟩ := Prod.mk.inj hrow
  have hshape := rowShape hn
  generalize heuc : euc3 n = e at hshape ⊢
  generalize hutf8 : utf8 n = c at hshape ⊢
  cases hshape with
  | @ascii b hb => exact .inl ⟨b, hb, rfl, rfl⟩
  | @c1Control b hb =>
    refine .inr (.inl ⟨b, hb, rfl, ?_⟩)
    change unpad (pad 4 [0xc2, b]) = [0xc2, b]
    exact unpad_pad_of_ne_zero (List.cons_ne_nil 0xc2 [b]) (by simp [ne_zero_of_le hb.1])
  | multibyte he hc hc1 =>
    rw [he.unpad_pad, hc.unpad_pad]
    exact .inr (.inr ⟨n, hn, he, hc, hc1, heuc, hutf8⟩)

/-- A listed code of two or three bytes has a row. -/
lemma row_of_mem_singles {e c : Bytes} (h : (e, c) ∈ singles) (he : IsCode e) :
    ∃ n ∈ eucUtf8, IsMultibyte c ∧ ¬ IsC1Control c ∧ euc3 n = pad 3 e ∧ utf8 n = pad 4 c := by
  rcases mem_singles_cases h with ⟨b, -, rfl, -⟩ | ⟨b, -, rfl, -⟩ | ⟨n, hn, -, hrow⟩
  · exact he.elim
  · exact he.elim
  · exact ⟨n, hn, hrow⟩

/-- A listed character of two to four bytes has a row, unless it is a control character. -/
lemma row_of_mem_singles' {e c : Bytes} (h : (e, c) ∈ singles) (hc : IsMultibyte c)
    (hc1 : ¬ IsC1Control c) :
    ∃ n ∈ eucUtf8, IsCode e ∧ euc3 n = pad 3 e ∧ utf8 n = pad 4 c := by
  rcases mem_singles_cases h with ⟨b, -, -, rfl⟩ | ⟨b, hb, -, rfl⟩ | ⟨n, hn, he, -, -, hrow⟩
  · exact hc.elim
  · exact absurd ⟨b, rfl, hb.2⟩ hc1
  · exact ⟨n, hn, he, hrow⟩

/-- What the rows of the combining characters are. -/
def CombinationShape (n : ℕ) : Prop :=
  (Euc.IsLead2 (byteAt n 10) ∧ IsTrail (byteAt n 9) ∧ byteAt n 8 = 0) ∧
  (IsMultibyte [byteAt n 7, byteAt n 6] ∧ IsMultibyte [byteAt n 3, byteAt n 2] ∧
      (byteAt n 3 = 0xcc ∨ byteAt n 3 = 0xcb) ∧
      byteAt n 5 = 0 ∧ byteAt n 4 = 0 ∧ byteAt n 1 = 0 ∧ byteAt n 0 = 0 ∨
    IsMultibyte [byteAt n 7, byteAt n 6, byteAt n 5] ∧
      byteAt n 3 = 0xe3 ∧ byteAt n 2 = 0x82 ∧ byteAt n 1 = 0x9a ∧ byteAt n 4 = 0 ∧
      byteAt n 0 = 0)

instance : DecidablePred CombinationShape := fun n => by
  unfold CombinationShape IsMultibyte
  infer_instance

lemma combinationShape : ∀ n ∈ eucUtf8Combine, CombinationShape n := by
  decide +kernel

/-- A code of two bytes with two characters that it can combine: two characters of two bytes, the
second in U+02C0–U+033F, or a character of three bytes with U+309A. -/
structure IsCombination (e c c' : Bytes) : Prop where
  code : ∃ b₀ b₁, e = [b₀, b₁] ∧ Euc.IsLead2 b₀ ∧ IsTrail b₁
  first : IsMultibyte c
  second : IsMultibyte c'
  bytes : (∃ a₀ a₁ a₂ a₃, c = [a₀, a₁] ∧ c' = [a₂, a₃] ∧ (a₂ = 0xcc ∨ a₂ = 0xcb)) ∨
    ((∃ a₀ a₁ a₂, c = [a₀, a₁, a₂]) ∧ c' = [0xe3, 0x82, 0x9a])

/-- The parts of a row of the combining characters. -/
structure IsRowOf (n : ℕ) (e c c' : Bytes) : Prop where
  mem : n ∈ eucUtf8Combine
  code : euc3 (n >>> 32) = pad 3 e
  first : utf8 (n >>> 32) = pad 4 c
  second : utf8 n = pad 4 c'

lemma IsCombination.isCode {e c c' : Bytes} (h : IsCombination e c c') : IsCode e := by
  obtain ⟨b₀, b₁, rfl, h0, h1⟩ := h.code
  exact ⟨h0, h1⟩

/-- Every row of the combining characters is of a combination. -/
lemma exists_isRowOf {n : ℕ} (hn : n ∈ eucUtf8Combine) :
    ∃ e c c', IsCombination e c c' ∧ IsRowOf n e c c' := by
  have heuc : euc3 (n >>> 32) = [byteAt n 10, byteAt n 9, byteAt n 8] := by
    rw [euc3_eq, byteAt_shiftRight, byteAt_shiftRight, byteAt_shiftRight]
  have hfirst : utf8 (n >>> 32) = [byteAt n 7, byteAt n 6, byteAt n 5, byteAt n 4] := by
    rw [utf8_eq, byteAt_shiftRight, byteAt_shiftRight, byteAt_shiftRight, byteAt_shiftRight]
  obtain ⟨⟨h10, h9, h8⟩, hchars⟩ := combinationShape n hn
  rw [h8] at heuc
  rcases hchars with ⟨hc, hc', hmark, h5, h4, h1, h0⟩ | ⟨hc, h3, h2, h1, h4, h0⟩
  · rw [h5, h4] at hfirst
    have hsecond : utf8 n = [byteAt n 3, byteAt n 2, 0, 0] := by
      rw [utf8_eq, h1, h0]
    exact ⟨_, _, _, ⟨⟨_, _, rfl, h10, h9⟩, hc, hc', .inl ⟨_, _, _, _, rfl, rfl, hmark⟩⟩,
      hn, heuc, hfirst, hsecond⟩
  · rw [h4] at hfirst
    have hsecond : utf8 n = [0xe3, 0x82, 0x9a, 0] := by
      rw [utf8_eq, h3, h2, h1, h0]
    have hc' : IsMultibyte [0xe3, 0x82, 0x9a] := ⟨by decide, by decide⟩
    exact ⟨_, _, _, ⟨⟨_, _, rfl, h10, h9⟩, hc, hc', .inr ⟨⟨_, _, _, rfl⟩, rfl⟩⟩,
      hn, heuc, hfirst, hsecond⟩

lemma IsRowOf.mem_combinations {n : ℕ} {e c c' : Bytes} (h : IsRowOf n e c c')
    (hcombination : IsCombination e c c') : (e, c, c') ∈ combinations := by
  refine List.mem_map.mpr ⟨n, h.mem, ?_⟩
  rw [h.code, h.first, h.second, hcombination.isCode.unpad_pad, hcombination.first.unpad_pad,
    hcombination.second.unpad_pad]

lemma row_of_mem_combinations {e c c' : Bytes} (h : (e, c, c') ∈ combinations) :
    ∃ n, IsCombination e c c' ∧ IsRowOf n e c c' := by
  obtain ⟨n, hn, hrow⟩ := List.mem_map.mp h
  obtain ⟨e₁, c₁, c₁', hcombination, hparts⟩ := exists_isRowOf hn
  rw [hparts.code, hparts.first, hparts.second, hcombination.isCode.unpad_pad,
    hcombination.first.unpad_pad, hcombination.second.unpad_pad] at hrow
  obtain ⟨rfl, rfl, rfl⟩ : e₁ = e ∧ c₁ = c ∧ c₁' = c' := by simpa using hrow
  exact ⟨n, hcombination, hparts⟩

/-- No code is listed both for a character and for a combination. -/
lemma euc3_ne_of_mem_combine {m n : ℕ} (hm : m ∈ eucUtf8Combine) (hn : n ∈ eucUtf8) :
    euc3 n ≠ euc3 (m >>> 32) := by
  have h := nodup_of_areDistinct areDistinct_codeNumber
  rw [List.map_append, List.map_map] at h
  intro heq
  exact (List.disjoint_of_nodup_append h) (List.mem_map_of_mem hm)
    (List.mem_map.mpr ⟨n, hn, codeNumber_congr heq⟩)

end EncodingTable

namespace Euc

open EncodingTable EncodingTables

/-! ## Decoding a code -/

/-- The slot of a code of two bytes. -/
abbrev index2 (b₀ b₁ : UInt8) : Fin (Decoder.EUC_2_TO_UTF8_VEC_INDEX_MAXIMUM + 1) :=
  ⟨Decoder.getEuc2ToUtf8VecIndex b₀ b₁, Decoder.getEuc2ToUtf8VecIndex_lt b₀ b₁⟩

lemma euc2Slot_of_isLead2 {b₀ : UInt8} (h0 : IsLead2 b₀) (b₁ : UInt8) :
    euc2Slot [b₀, b₁, 0] = some (index2 b₀ b₁) := by
  have h8f : b₀ ≠ 0x8f := by
    rintro rfl
    exact absurd h0 (by decide)
  have hlead : b₀ = 0x8e ∨ 0xa0 ≤ b₀ :=
    h0.symm.imp_right fun h => UInt8.le_trans (by decide) h.1
  exact (if_neg h8f).trans (if_pos hlead)

/-- The row that has the slot of a code of two bytes is the row of that code. -/
lemma euc3_of_euc2Slot {n : ℕ} (hn : n ∈ eucUtf8) {b₀ b₁ : UInt8} (h0 : IsLead2 b₀)
    (h1 : IsTrail b₁) (h : euc2Slot (euc3 n) = some (index2 b₀ b₁)) : euc3 n = [b₀, b₁, 0] := by
  have hindex : (index2 b₀ b₁).val = (b₁.toNat - 0xa1) * 256 + (b₀.toNat - 0x8e) :=
    getEuc2ToUtf8VecIndex_eq h0 h1
  have hb₀ := toNat_of_isLead2 h0
  have hb₁ := toNat_of_isTrail h1
  rcases euc2Slot_cases hn h with ⟨-, -, hk⟩ | ⟨a₀, a₁, hbytes, ha₀, ha₁, hk⟩
  · omega
  · have ha₀ := toNat_of_isLead2 ha₀
    have ha₁ := toNat_of_isTrail ha₁
    rw [hbytes, UInt8.toNat_inj.mp (show a₀.toNat = b₀.toNat by omega),
      UInt8.toNat_inj.mp (show a₁.toNat = b₁.toNat by omega)]

lemma decode2_of_ne {b₀ b₁ : UInt8} {utf8 : Bytes}
    (h : shippedTables.euc2ToUtf8Vec (index2 b₀ b₁) = utf8) (hne : utf8 ≠ [0, 0, 0, 0]) :
    decode2 shippedTables b₀ b₁ = Decoder.pushToBufferUtf8 utf8 := by
  subst h
  exact if_pos hne

lemma decode2_of_eq {b₀ b₁ : UInt8}
    (h : shippedTables.euc2ToUtf8Vec (index2 b₀ b₁) = [0, 0, 0, 0]) :
    decode2 shippedTables b₀ b₁ = match shippedTables.combineEucToUtf8Map [b₀, b₁, 0] with
      | some v => Decoder.pushToBufferUtf8 (v.take 4) ++ Decoder.pushToBufferUtf8 (v.drop 4)
      | none => escape [b₀, b₁] :=
  if_neg (not_not.mpr h)

lemma pad_ne_zero {c : Bytes} (hc : IsMultibyte c) : pad 4 c ≠ [0, 0, 0, 0] := by
  intro h
  have hc' := hc.unpad_pad
  rw [h] at hc'
  rw [← hc'] at hc
  exact hc

/-- A listed code of two bytes is decoded to its character. -/
theorem decode2_of_mem {b₀ b₁ : UInt8} {c : Bytes} (h : ([b₀, b₁], c) ∈ singles)
    (he : IsCode [b₀, b₁]) : decode2 shippedTables b₀ b₁ = c := by
  obtain ⟨n, hn, hc, -, heuc, hutf8⟩ := row_of_mem_singles h he
  have hslot : euc2Slot (euc3 n) = some (index2 b₀ b₁) := by
    rw [heuc]
    exact euc2Slot_of_isLead2 he.1 b₁
  rw [decode2_of_ne ((euc2ToUtf8Vec_of_row hn hslot).trans hutf8) (pad_ne_zero hc),
    hc.pushToBufferUtf8_pad]

/-- A listed code of a combination is decoded to its two characters. -/
theorem decode2_of_mem_combinations {b₀ b₁ : UInt8} {c c' : Bytes}
    (h : ([b₀, b₁], c, c') ∈ combinations) : decode2 shippedTables b₀ b₁ = c ++ c' := by
  obtain ⟨n, ⟨⟨a₀, a₁, hcode, h0, h1⟩, hc, hc', -⟩, ⟨hn, heuc, hfirst, hsecond⟩⟩ :=
    row_of_mem_combinations h
  obtain ⟨rfl, rfl⟩ : b₀ = a₀ ∧ b₁ = a₁ := by simpa using hcode
  have hempty : shippedTables.euc2ToUtf8Vec (index2 b₀ b₁) = [0, 0, 0, 0] :=
    euc2ToUtf8Vec_of_forall fun m hm hslot =>
      euc3_ne_of_mem_combine hn hm ((euc3_of_euc2Slot hm h0 h1 hslot).trans heuc.symm)
  have hmap := combineEucToUtf8Map_of_row hn
  rw [heuc, hfirst, hsecond] at hmap
  have hlen : (pad 4 c).length = 4 := by
    rcases hc.cases with ⟨_, _, rfl, -⟩ | ⟨_, _, _, rfl, -⟩ | ⟨_, _, _, _, rfl, -⟩ <;> rfl
  have hmap : shippedTables.combineEucToUtf8Map [b₀, b₁, 0] = some (pad 4 c ++ pad 4 c') := hmap
  rw [decode2_of_eq hempty, hmap]
  dsimp only
  rw [List.take_left' hlen, List.drop_left' hlen, hc.pushToBufferUtf8_pad,
    hc'.pushToBufferUtf8_pad]

/-- A code of two bytes that is not listed is escaped. -/
theorem decode2_of_not_mem {b₀ b₁ : UInt8} (h0 : IsLead2 b₀) (h1 : IsTrail b₁)
    (hsingle : ∀ c, ([b₀, b₁], c) ∉ singles)
    (hcombination : ∀ c c', ([b₀, b₁], c, c') ∉ combinations) :
    decode2 shippedTables b₀ b₁ = escape [b₀, b₁] := by
  have he : IsCode [b₀, b₁] := ⟨h0, h1⟩
  have hempty : shippedTables.euc2ToUtf8Vec (index2 b₀ b₁) = [0, 0, 0, 0] :=
    euc2ToUtf8Vec_of_forall fun n hn hslot =>
      hsingle (unpad (utf8 n)) (List.mem_map.mpr ⟨n, hn, by
        rw [euc3_of_euc2Slot hn h0 h1 hslot]
        exact congrArg (·, _) he.unpad_pad⟩)
  have hmap : shippedTables.combineEucToUtf8Map [b₀, b₁, 0] = none :=
    combineEucToUtf8Map_of_forall fun n hn heuc =>
      hcombination _ _ (List.mem_map.mpr ⟨n, hn, by
        rw [heuc]
        exact congrArg (·, _) he.unpad_pad⟩)
  rw [decode2_of_eq hempty, hmap]

/-- The row of the single byte 0x8e. -/
lemma mem_eucUtf8_8e : 0x8e0000c28e0000 ∈ eucUtf8.take 160 := by
  decide +kernel

/-- A second byte that is no trail byte makes a code of two bytes U+008E. -/
theorem decode2_of_not_isTrail {b₀ b₁ : UInt8} (h0 : IsLead2 b₀) (h1 : ¬ IsTrail b₁) :
    decode2 shippedTables b₀ b₁ = [0xc2, 0x8e] := by
  have hslot : euc2Slot (euc3 0x8e0000c28e0000) = some (index2 b₀ b₁) := by
    have hindex : index2 b₀ b₁ = index2 0x8e 0 := Fin.ext
      ((getEuc2ToUtf8VecIndex_of_not_isTrail h0 h1).trans (by decide))
    rw [hindex]
    rfl
  have hvalue := euc2ToUtf8Vec_of_row (List.mem_of_mem_take mem_eucUtf8_8e) hslot
  rw [decode2_of_ne hvalue (by decide)]
  rfl

/-- A listed code of three bytes is decoded to its character. -/
theorem decode3_of_mem {b₁ b₂ : UInt8} {c : Bytes} (h : ([0x8f, b₁, b₂], c) ∈ singles)
    (he : IsCode [0x8f, b₁, b₂]) : decode3 shippedTables 0x8f b₁ b₂ = c := by
  obtain ⟨n, hn, hc, -, heuc, hutf8⟩ := row_of_mem_singles h he
  have hslot : euc3Slot (euc3 n) = some [0x8f, b₁, b₂] := by
    rw [heuc]
    rfl
  rw [decode3, euc3ToUtf8Map_of_row hn hslot, hutf8]
  exact hc.pushToBufferUtf8_pad

/-- The row that has the slot of a code of three bytes. -/
lemma euc3_of_euc3Slot {n : ℕ} {k : Bytes} (h : euc3Slot (euc3 n) = some k) : euc3 n = k := by
  unfold euc3Slot at h
  split_ifs at h
  exact Option.some_injective _ h

/-- A code of three bytes that is not listed is escaped, but for 0x8f with two zeros. -/
theorem decode3_of_not_mem {b₁ b₂ : UInt8} (hzero : ¬ (b₁ = 0 ∧ b₂ = 0))
    (hsingle : ∀ c, ([0x8f, b₁, b₂], c) ∉ singles) :
    decode3 shippedTables 0x8f b₁ b₂ = escape [0x8f, b₁, b₂] := by
  have hnone : shippedTables.euc3ToUtf8Map [0x8f, b₁, b₂] = none := by
    refine euc3ToUtf8Map_of_forall fun n hn hslot => ?_
    have hbytes := euc3_of_euc3Slot hslot
    have hmem : (unpad (euc3 n), unpad (EncodingTable.utf8 n)) ∈ singles :=
      List.mem_map.mpr ⟨n, hn, rfl⟩
    have hshape := rowShape hn
    generalize euc3 n = e at hbytes hmem hshape
    generalize EncodingTable.utf8 n = c at hmem hshape
    cases hshape with
    | ascii hb =>
      obtain ⟨-, rfl, rfl⟩ : _ ∧ 0 = b₁ ∧ 0 = b₂ := by simpa using hbytes
      exact hzero ⟨rfl, rfl⟩
    | c1Control hb =>
      obtain ⟨-, rfl, rfl⟩ : _ ∧ 0 = b₁ ∧ 0 = b₂ := by simpa using hbytes
      exact hzero ⟨rfl, rfl⟩
    | multibyte he hc hc1 =>
      rcases he.cases with ⟨a₀, a₁, rfl, h0, -⟩ | ⟨a₁, a₂, rfl, -⟩
      · obtain ⟨rfl, -⟩ := List.cons_eq_cons.mp hbytes
        exact absurd h0 (by decide)
      · have hbytes : [0x8f, a₁, a₂] = [0x8f, b₁, b₂] := hbytes
        rw [he.unpad_pad, hbytes] at hmem
        exact hsingle _ hmem
  rw [decode3, hnone]

/-- The row of the single byte 0x8f. -/
lemma mem_eucUtf8_8f : 0x8f0000c28f0000 ∈ eucUtf8.take 160 := by
  decide +kernel

/-- The byte 0x8f with two zeros is decoded to U+008F. -/
theorem decode3_zero : decode3 shippedTables 0x8f 0 0 = [0xc2, 0x8f] := by
  have hslot : euc3Slot (euc3 0x8f0000c28f0000) = some [0x8f, 0, 0] := by decide
  rw [decode3, euc3ToUtf8Map_of_row (List.mem_of_mem_take mem_eucUtf8_8f) hslot]
  rfl

/-- A character of three bytes is determined by its code point. -/
lemma codePoint_injective {b₀ b₁ b₂ d₀ d₁ d₂ : UInt8} (hb : IsMultibyte [b₀, b₁, b₂])
    (hd : IsMultibyte [d₀, d₁, d₂]) (h : codePoint b₀ b₁ b₂ = codePoint d₀ d₁ d₂) :
    b₀ = d₀ ∧ b₁ = d₁ ∧ b₂ = d₂ := by
  obtain ⟨hb₀, hb₁, hb₂⟩ := hb
  obtain ⟨hd₀, hd₁, hd₂⟩ := hd
  rw [isContinuation_iff, UInt8.le_iff_toNat_le, UInt8.le_iff_toNat_le] at hb₁ hb₂ hd₁ hd₂
  rw [UInt8.le_iff_toNat_le, UInt8.le_iff_toNat_le] at hb₀ hd₀
  simp only [UInt8.toNat_ofNat] at hb₀ hb₁ hb₂ hd₀ hd₁ hd₂
  unfold codePoint at h
  rw [← UInt8.toNat_inj, ← UInt8.toNat_inj, ← UInt8.toNat_inj]
  omega

/-! ## Encoding a character -/

/-- The slot of a character of three bytes. -/
abbrev index3 (b₀ b₁ b₂ : UInt8) : Fin (Encoder.UTF8_3_TO_EUC_VEC_INDEX_MAXIMUM + 1) :=
  ⟨Encoder.getUtf83ToEucVecIndex b₀ b₁ b₂, Encoder.getUtf83ToEucVecIndex_lt b₀ b₁ b₂⟩

lemma utf83Slot_of_lead {b₀ : UInt8} (h0 : 0xe0 ≤ b₀ ∧ b₀ ≤ 0xef) (b₁ b₂ : UInt8) :
    utf83Slot [b₀, b₁, b₂, 0] = some (index3 b₀ b₁ b₂) := by
  have hascii : ¬ b₀ ≤ 0x7f := fun h => absurd (UInt8.le_trans h0.1 h) (by decide)
  exact (if_neg hascii).trans (if_pos h0)

lemma encode3_of_ne {b₀ b₁ b₂ : UInt8} {e : Bytes} (he : IsCode e)
    (h : shippedTables.utf83ToEucVec (index3 b₀ b₁ b₂) = pad 3 e) :
    encode3 shippedTables b₀ b₁ b₂ = e := by
  have hne : pad 3 e ≠ [0, 0, 0] := by
    intro hzero
    have he' := he.unpad_pad
    rw [hzero] at he'
    rw [← he'] at he
    exact he
  have hencode : encode3 shippedTables b₀ b₁ b₂ = Encoder.pushToBufferEuc (pad 3 e) := by
    rw [← h] at hne ⊢
    exact if_pos hne
  rw [hencode, he.pushToBufferEuc_pad]

/-- A listed character of three bytes is encoded to its code. -/
theorem encode3_of_mem {b₀ b₁ b₂ : UInt8} {e : Bytes} (h : (e, [b₀, b₁, b₂]) ∈ singles)
    (hc : IsMultibyte [b₀, b₁, b₂]) : encode3 shippedTables b₀ b₁ b₂ = e := by
  have hc1 : ¬ IsC1Control [b₀, b₁, b₂] := by
    rintro ⟨b, hb, -⟩
    simp at hb
  obtain ⟨n, hn, he, heuc, hutf8⟩ := row_of_mem_singles' h hc hc1
  have hslot : utf83Slot (EncodingTable.utf8 n) = some (index3 b₀ b₁ b₂) := by
    rw [hutf8]
    exact utf83Slot_of_lead hc.1 b₁ b₂
  exact encode3_of_ne he ((utf83ToEucVec_of_row hn hslot).trans heuc)

/-- The slot of a character of three bytes, by its code point. -/
lemma index3_eq {b₀ b₁ b₂ : UInt8} (hc : IsMultibyte [b₀, b₁, b₂]) {k : ℕ} (hk : k ≠ 2) :
    (index3 b₀ b₁ b₂).val = k ↔
      codePoint b₀ b₁ b₂ = k + 0x1e3e ∧ codePoint b₀ b₁ b₂ ≤ 0xa626 ∨
      codePoint b₀ b₁ b₂ = k + 0x77b7 ∧ 0xdade < codePoint b₀ b₁ b₂ ∧
        codePoint b₀ b₁ b₂ ≤ 0xff9f := by
  change Encoder.getUtf83ToEucVecIndex b₀ b₁ b₂ = k ↔ _
  rw [getUtf83ToEucVecIndex_eq hc.1 hc.2.1 hc.2.2]
  generalize codePoint b₀ b₁ b₂ = p
  split_ifs <;> omega

/-- Two code points that the encoder folds onto one slot. -/
def AreFolded (p q : ℕ) : Prop :=
  (p ≤ 0xdade ∧ 0xdade < q ∧ q = p + 0x5979) ∨ (q ≤ 0xdade ∧ 0xdade < p ∧ p = q + 0x5979)

/-- A character that is folded onto a listed one is encoded to the code of that one. -/
theorem encode3_of_areFolded {b₀ b₁ b₂ d₀ d₁ d₂ : UInt8} {e : Bytes}
    (h : (e, [d₀, d₁, d₂]) ∈ singles) (hc : IsMultibyte [b₀, b₁, b₂])
    (hd : IsMultibyte [d₀, d₁, d₂])
    (hfold : AreFolded (codePoint b₀ b₁ b₂) (codePoint d₀ d₁ d₂)) :
    encode3 shippedTables b₀ b₁ b₂ = e := by
  have hd1 : ¬ IsC1Control [d₀, d₁, d₂] := by
    rintro ⟨b, hb, -⟩
    simp at hb
  obtain ⟨n, hn, he, heuc, hutf8⟩ := row_of_mem_singles' h hd hd1
  have hslot : utf83Slot (EncodingTable.utf8 n) = some (index3 d₀ d₁ d₂) := by
    rw [hutf8]
    exact utf83Slot_of_lead hd.1 d₁ d₂
  obtain ⟨a₀, a₁, a₂, hbytes, -, hk, hpoint⟩ := utf83Slot_cases hn hslot
  obtain ⟨rfl, rfl, rfl⟩ : d₀ = a₀ ∧ d₁ = a₁ ∧ d₂ = a₂ := by
    have hbytes : [d₀, d₁, d₂, 0] = [a₀, a₁, a₂, 0] := hutf8.symm.trans hbytes
    simpa using hbytes
  have hlt : (index3 d₀ d₁ d₂).val ≤ 0x87e8 := Nat.le_of_lt_succ (index3 d₀ d₁ d₂).isLt
  have hindex : index3 b₀ b₁ b₂ = index3 d₀ d₁ d₂ := by
    refine Fin.ext ((index3_eq hc hk).mpr ?_)
    unfold AreFolded at hfold
    omega
  rw [← hindex] at hslot
  exact encode3_of_ne he ((utf83ToEucVec_of_row hn hslot).trans heuc)

/-- A character of three bytes that is neither listed nor folded onto a listed one is escaped. -/
theorem encode3_of_not_mem {b₀ b₁ b₂ : UInt8} (hc : IsMultibyte [b₀, b₁, b₂])
    (hsingle : ∀ e, (e, [b₀, b₁, b₂]) ∉ singles)
    (hfold : ∀ e d₀ d₁ d₂, (e, [d₀, d₁, d₂]) ∈ singles →
      ¬ AreFolded (codePoint b₀ b₁ b₂) (codePoint d₀ d₁ d₂)) :
    encode3 shippedTables b₀ b₁ b₂ = escape [b₀, b₁, b₂] := by
  have hempty : shippedTables.utf83ToEucVec (index3 b₀ b₁ b₂) = [0, 0, 0] := by
    refine utf83ToEucVec_of_forall fun n hn hslot => ?_
    obtain ⟨d₀, d₁, d₂, hutf8, hd, hk, hpoint⟩ := utf83Slot_cases hn hslot
    have hmem : (unpad (euc3 n), [d₀, d₁, d₂]) ∈ singles :=
      List.mem_map.mpr ⟨n, hn, by
        rw [hutf8]
        exact congrArg _ hd.unpad_pad⟩
    have hb := (index3_eq hc hk).mp rfl
    by_cases hsame : codePoint b₀ b₁ b₂ = codePoint d₀ d₁ d₂
    · obtain ⟨rfl, rfl, rfl⟩ := codePoint_injective hc hd hsame
      exact hsingle _ hmem
    · refine hfold _ d₀ d₁ d₂ hmem ?_
      unfold AreFolded
      omega
  exact if_neg (not_not.mpr hempty)

lemma utf824Slot_pad {c : Bytes} (hc : IsMultibyte c) (hlen : c.length ≠ 3) :
    utf824Slot (pad 4 c) = some (pad 4 c) := by
  rcases hc.cases with ⟨b₀, b₁, rfl, h0, -⟩ | ⟨b₀, b₁, b₂, rfl, -⟩ |
    ⟨b₀, b₁, b₂, b₃, rfl, h0, -⟩
  · have hascii : ¬ b₀ ≤ 0x7f := fun h => absurd (UInt8.le_trans h0.1 h) (by decide)
    have hlead : ¬ (0xe0 ≤ b₀ ∧ b₀ ≤ 0xef) := fun h =>
      absurd (UInt8.le_trans h.1 h0.2) (by decide)
    exact (if_neg hascii).trans (if_neg hlead)
  · exact absurd rfl hlen
  · have hascii : ¬ b₀ ≤ 0x7f := fun h => absurd (UInt8.le_trans h0.1 h) (by decide)
    have hlead : ¬ (0xe0 ≤ b₀ ∧ b₀ ≤ 0xef) := fun h =>
      absurd (UInt8.le_trans h0.1 h.2) (by decide)
    exact (if_neg hascii).trans (if_neg hlead)

/-- A listed character of two or four bytes is encoded to its code. -/
theorem encode24_of_mem {e c : Bytes} (h : (e, c) ∈ singles) (hc : IsMultibyte c)
    (hc1 : ¬ IsC1Control c) (hlen : c.length ≠ 3) : encode24 shippedTables c = e := by
  obtain ⟨n, hn, he, heuc, hutf8⟩ := row_of_mem_singles' h hc hc1
  have hslot : utf824Slot (EncodingTable.utf8 n) = some (pad 4 c) := by
    rw [hutf8]
    exact utf824Slot_pad hc hlen
  have hmap : shippedTables.utf824ToEucMap (c ++ List.replicate (4 - c.length) 0) =
      some (pad 3 e) := by
    rw [← heuc]
    exact utf824ToEucMap_of_row hn hslot
  rw [encode24, hmap]
  exact he.pushToBufferEuc_pad

/-- A character of two or four bytes that is not listed is escaped. -/
theorem encode24_of_not_mem {c : Bytes} (hc : IsMultibyte c)
    (hsingle : ∀ e, (e, c) ∉ singles) : encode24 shippedTables c = escape c := by
  have hmap : shippedTables.utf824ToEucMap (c ++ List.replicate (4 - c.length) 0) = none := by
    refine utf824ToEucMap_of_forall fun n hn hslot => ?_
    have hbytes : EncodingTable.utf8 n = pad 4 c := by
      unfold utf824Slot at hslot
      split_ifs at hslot
      exact Option.some_injective _ hslot
    refine hsingle (unpad (euc3 n)) (List.mem_map.mpr ⟨n, hn, ?_⟩)
    rw [hbytes, hc.unpad_pad]
  rw [encode24, hmap]

/-! ## Encoding a combination -/

/-- What a row of a combination has in the maps of combinations. -/
lemma combineSlots_eq {n : ℕ} {e c c' : Bytes} (hrow : IsRowOf n e c c')
    (h : IsCombination e c c') :
    combine4Slot n = (if c.length = 2 then some (c ++ c') else none) ∧
    combine6Slot n = (if c.length = 2 then none else some (c ++ c')) := by
  have hfirst : [byteAt n 7, byteAt n 6, byteAt n 5, byteAt n 4] = pad 4 c := by
    rw [← hrow.first, utf8_eq, byteAt_shiftRight, byteAt_shiftRight, byteAt_shiftRight,
      byteAt_shiftRight]
  have hsecond : [byteAt n 3, byteAt n 2, byteAt n 1, byteAt n 0] = pad 4 c' := by
    rw [← hrow.second, utf8_eq]
  rcases h.bytes with ⟨a₀, a₁, a₂, a₃, rfl, rfl, -⟩ | ⟨⟨a₀, a₁, a₂, rfl⟩, rfl⟩
  · simp [pad] at hfirst hsecond
    have hlead := h.first.1
    simp [combine4Slot, combine6Slot, hfirst, hsecond, hlead]
  · simp [pad] at hfirst hsecond
    have hlead : ¬ (0xc2 ≤ a₀ ∧ a₀ ≤ 0xdf) := fun hc =>
      absurd (UInt8.le_trans h.first.1.1 hc.2) (by decide)
    simp [combine4Slot, combine6Slot, hfirst, hsecond, hlead]

/-- The map of combinations of two-byte characters lists what the table lists. -/
lemma combineUtf84ToEucMap_eq_some_iff {k v : Bytes} :
    shippedTables.combineUtf84ToEucMap k = some v ↔
      ∃ e c c', (e, c, c') ∈ combinations ∧ c.length = 2 ∧ k = c ++ c' ∧ v = pad 3 e := by
  constructor
  · intro h
    by_contra hno
    have hnone : shippedTables.combineUtf84ToEucMap k = none := by
      refine combineUtf84ToEucMap_of_forall fun n hn hslot => hno ?_
      obtain ⟨e, c, c', hcombination, hrow⟩ := exists_isRowOf hn
      have hvalue := combineUtf84ToEucMap_of_row hn hslot
      rw [(combineSlots_eq hrow hcombination).1] at hslot
      split_ifs at hslot with hlen
      rw [h, hrow.code] at hvalue
      exact ⟨e, c, c', hrow.mem_combinations hcombination, hlen,
        (Option.some_injective _ hslot).symm, Option.some_injective _ hvalue⟩
    rw [hnone] at h
    exact absurd h (Option.some_ne_none v).symm
  · rintro ⟨e, c, c', hmem, hlen, rfl, rfl⟩
    obtain ⟨n, hcombination, hrow⟩ := row_of_mem_combinations hmem
    have hslot := (combineSlots_eq hrow hcombination).1
    rw [if_pos hlen] at hslot
    rw [combineUtf84ToEucMap_of_row hrow.mem hslot, hrow.code]

/-- The map of combinations of three-byte characters lists what the table lists. -/
lemma combineUtf86ToEucMap_eq_some_iff {k v : Bytes} :
    shippedTables.combineUtf86ToEucMap k = some v ↔
      ∃ e c c', (e, c, c') ∈ combinations ∧ c.length ≠ 2 ∧ k = c ++ c' ∧ v = pad 3 e := by
  constructor
  · intro h
    by_contra hno
    have hnone : shippedTables.combineUtf86ToEucMap k = none := by
      refine combineUtf86ToEucMap_of_forall fun n hn hslot => hno ?_
      obtain ⟨e, c, c', hcombination, hrow⟩ := exists_isRowOf hn
      have hvalue := combineUtf86ToEucMap_of_row hn hslot
      rw [(combineSlots_eq hrow hcombination).2] at hslot
      split_ifs at hslot with hlen
      rw [h, hrow.code] at hvalue
      exact ⟨e, c, c', hrow.mem_combinations hcombination, hlen,
        (Option.some_injective _ hslot).symm, Option.some_injective _ hvalue⟩
    rw [hnone] at h
    exact absurd h (Option.some_ne_none v).symm
  · rintro ⟨e, c, c', hmem, hlen, rfl, rfl⟩
    obtain ⟨n, hcombination, hrow⟩ := row_of_mem_combinations hmem
    have hslot := (combineSlots_eq hrow hcombination).2
    rw [if_neg hlen] at hslot
    rw [combineUtf86ToEucMap_of_row hrow.mem hslot, hrow.code]

end Euc

end Yaskkserv2
