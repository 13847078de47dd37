import Yaskkserv2.Properties.DecodeReference
import Yaskkserv2.Properties.EncodeReference
import Yaskkserv2.Properties.OkuriAri
import Yaskkserv2.Properties.Quoting
import Yaskkserv2.Properties.TotalTranscoding

/-!
# Delimiters under encoding

`Euc::encode` leaves an ASCII byte as it is, and no table and no escape makes up a slash, a
semicolon or a line end.  A unit of `encode` never reaches over such a byte either, not even a
truncated character or the beginning of a combination.  So a text is encoded piece by piece between
its delimiters (`encoded_append_cons`), and it has none that it did not have before
(`not_mem_encoded`).

`Euc::decode` is another matter: a truncated character takes the delimiter behind it for its second
byte.  A text of whole characters is decoded on its own, quoted or not (`decoded_quote_append`).
-/

namespace Yaskkserv2

open Framework EncodingTable EncodingTables

namespace Euc

/-- An ASCII byte that no escape is written with. -/
def IsSeparator (d : UInt8) : Prop :=
  d ≤ 0x7f ∧ d ≠ 0 ∧ d ∉ [0x26, 0x23, 0x78] ∧ ¬ (0x30 ≤ d ∧ d ≤ 0x39) ∧ ¬ (0x61 ≤ d ∧ d ≤ 0x66)

instance : DecidablePred IsSeparator := fun _ => by
  unfold IsSeparator
  infer_instance

lemma isSeparator_slash : IsSeparator SLASH := by decide

lemma isSeparator_semicolon : IsSeparator SEMICOLON := by decide

lemma isSeparator_space : IsSeparator SP := by decide

lemma isSeparator_lf : IsSeparator LF := by decide

lemma isSeparator_cr : IsSeparator CR := by decide

/-! ## What is written for a unit -/

lemma mem_hexByte {b d : UInt8} (h : d ∈ hexByte b) :
    (0x30 ≤ d ∧ d ≤ 0x39) ∨ (0x61 ≤ d ∧ d ≤ 0x66) := by
  have hdigit : ∀ n < 16, ∀ d : UInt8,
      d = (if n < 10 then UInt8.ofNat (0x30 + n) else UInt8.ofNat (0x57 + n)) →
        (0x30 ≤ d ∧ d ≤ 0x39) ∨ (0x61 ≤ d ∧ d ≤ 0x66) := by
    rintro n hn d rfl
    revert n
    decide
  have hb := b.toNat_lt
  exact (List.mem_pair.mp h).elim (hdigit _ (by omega) d) (hdigit _ (by omega) d)

lemma IsSeparator.not_mem_escape {d : UInt8} (hd : IsSeparator d) (bs : Bytes) : d ∉ escape bs := by
  obtain ⟨-, -, hfront, hdigit, hletter⟩ := hd
  rw [escape, List.mem_append, List.mem_flatMap]
  rintro (h | ⟨b, -, h⟩)
  · exact hfront h
  · exact (mem_hexByte h).elim hdigit hletter

lemma mem_of_mem_pushToBufferEuc {euc : Bytes} {b : UInt8}
    (h : b ∈ Encoder.pushToBufferEuc euc) : b ∈ euc := by
  unfold Encoder.pushToBufferEuc at h
  split_ifs at h <;> exact List.mem_of_mem_take h

lemma le_of_mem_code {e : Bytes} (he : IsCode e) {b : UInt8} (hb : b ∈ e) : 0x80 ≤ b := by
  have htrail : ∀ {b : UInt8}, IsTrail b → 0x80 ≤ b :=
    fun h => UInt8.le_trans (by decide) h.1
  rcases he.cases with ⟨b₀, b₁, rfl, h0, h1⟩ | ⟨b₁, b₂, rfl, h1, h2⟩
  · rcases List.mem_pair.mp hb with rfl | rfl
    · rcases h0 with h0 | rfl
      · exact UInt8.le_trans (by decide) h0.1
      · decide
    · exact htrail h1
  · simp only [List.mem_cons, List.not_mem_nil, or_false] at hb
    rcases hb with rfl | rfl | rfl
    · decide
    · exact htrail h1
    · exact htrail h2

lemma le_of_mem_multibyte {c : Bytes} (hc : IsMultibyte c) {b : UInt8} (hb : b ∈ c) : 0x80 ≤ b := by
  have hcontinuation : ∀ {b : UInt8}, isContinuation b = true → 0x80 ≤ b :=
    fun h => (isContinuation_iff.mp h).1
  rcases hc.cases with ⟨b₀, b₁, rfl, h0, h1⟩ | ⟨b₀, b₁, b₂, rfl, h0, h1, h2⟩ |
    ⟨b₀, b₁, b₂, b₃, rfl, h0, h1, h2, h3⟩
  all_goals
    simp only [List.mem_cons, List.not_mem_nil, or_false] at hb
    have hlead : 0x80 ≤ b₀ := UInt8.le_trans (by decide) h0.1
    grind

lemma mem_pad {length : ℕ} {e : Bytes} {b : UInt8} (h : b ∈ pad length e) : b ∈ e ∨ b = 0 := by
  rcases List.mem_append.mp h with h | h
  · exact .inl h
  · exact .inr (List.eq_of_mem_replicate h)

/-- The code of a row whose character is not ASCII. -/
lemma le_of_mem_row {n : ℕ} (hn : n ∈ eucUtf8) (hutf8 : ¬ (utf8 n).headD 0 ≤ 0x7f) {b : UInt8}
    (hb : b ∈ Encoder.pushToBufferEuc (euc3 n)) : 0x80 ≤ b ∨ b = 0 := by
  have hmem := mem_of_mem_pushToBufferEuc hb
  have hshape := rowShape hn
  revert hshape hmem hutf8
  generalize euc3 n = euc
  generalize utf8 n = utf8
  intro hutf8 hmem hshape
  cases hshape with
  | ascii hascii => exact absurd hascii hutf8
  | c1Control hcontrol =>
    simp only [List.mem_cons, List.not_mem_nil, or_false, or_self] at hmem
    rcases hmem with rfl | rfl
    · exact .inl hcontrol.1
    · exact .inr rfl
  | multibyte he => exact (mem_pad hmem).imp_left (le_of_mem_code he)

lemma escape_ne_nil (bs : Bytes) : escape bs ≠ [] := List.append_ne_nil_of_left_ne_nil (by decide) _

lemma pushToBufferEuc_ne_nil {euc : Bytes} (h : euc ≠ []) : Encoder.pushToBufferEuc euc ≠ [] := by
  obtain ⟨b, rest, rfl⟩ := List.exists_cons_of_ne_nil h
  unfold Encoder.pushToBufferEuc
  split_ifs <;> exact List.cons_ne_nil _ _

lemma euc3_ne_nil (n : ℕ) : euc3 n ≠ [] := by
  rw [euc3_eq]
  exact List.cons_ne_nil _ _

/-- What is written for a unit is its ASCII byte, or the escape of the unit, or something that has
no byte of ASCII but zeros. -/
lemma isEncodedUnit_cases {u w : Bytes} (h : IsEncodedUnit shippedTables u w) :
    (∃ b, u = [b] ∧ w = [b]) ∨ w = escape u ∨ w ≠ [] ∧ ∀ b ∈ w, 0x80 ≤ b ∨ b = 0 := by
  have hcode : ∀ {e : Bytes}, IsCode e → Encoder.pushToBufferEuc (pad 3 e) ≠ [] ∧
      ∀ b ∈ Encoder.pushToBufferEuc (pad 3 e), 0x80 ≤ b ∨ b = 0 := fun he =>
    ⟨pushToBufferEuc_ne_nil (List.append_ne_nil_of_left_ne_nil (by
        rcases he.cases with ⟨b₀, b₁, rfl, -⟩ | ⟨b₁, b₂, rfl, -⟩ <;> exact List.cons_ne_nil _ _) _),
      fun b hb => (mem_pad (mem_of_mem_pushToBufferEuc hb)).imp_left (le_of_mem_code he)⟩
  cases h with
  | ascii h => exact .inl ⟨_, rfl, rfl⟩
  | escaped => exact .inr (.inl rfl)
  | @vector b₀ b₁ b₂ euc h hne =>
    rw [LookupVec.get_of_le _ (Encoder.getUtf83ToEucVecIndex_le b₀ b₁ b₂), Outcome.ok.injEq] at h
    -- the slot was written by a row
    obtain ⟨n, hn, hslot⟩ : ∃ n ∈ eucUtf8, utf83Slot (utf8 n) = some (index3 b₀ b₁ b₂) := by
      by_contra hno
      push Not at hno
      exact hne (h.symm.trans (utf83ToEucVec_of_forall hno))
    have hrow : euc = euc3 n := h.symm.trans (utf83ToEucVec_of_row hn hslot)
    rw [hrow]
    refine .inr (.inr ⟨pushToBufferEuc_ne_nil (euc3_ne_nil n), fun b hb => le_of_mem_row hn ?_ hb⟩)
    intro hascii
    rw [utf83Slot, if_pos hascii] at hslot
    simp at hslot
  | @map _ euc hu h =>
    obtain ⟨n, hn, hslot⟩ : ∃ n ∈ eucUtf8,
        utf824Slot (utf8 n) = some (u ++ List.replicate (4 - u.length) 0) := by
      by_contra hno
      push Not at hno
      rw [utf824ToEucMap_of_forall hno] at h
      simp at h
    have hrow : euc = euc3 n := by
      rw [utf824ToEucMap_of_row hn hslot, Option.some.injEq] at h
      exact h.symm
    rw [hrow]
    refine .inr (.inr ⟨pushToBufferEuc_ne_nil (euc3_ne_nil n), fun b hb => le_of_mem_row hn ?_ hb⟩)
    intro hascii
    rw [utf824Slot, if_pos hascii] at hslot
    simp at hslot
  | combination4 hu h =>
    obtain ⟨e, c, c', hmem, -, -, rfl⟩ := combineUtf84ToEucMap_eq_some_iff.mp h
    exact .inr (.inr (hcode (row_of_mem_combinations hmem).choose_spec.1.isCode))
  | combination6 hu h =>
    obtain ⟨e, c, c', hmem, -, -, rfl⟩ := combineUtf86ToEucMap_eq_some_iff.mp h
    exact .inr (.inr (hcode (row_of_mem_combinations hmem).choose_spec.1.isCode))

/-- Encoding loses no text as a whole. -/
lemma encoded_ne_nil {x : Bytes} (hx : x ≠ []) : encoded shippedTables x ≠ [] := by
  have hunit := isEncodedUnit_encodeNext shippedTables hx
  have hw : (encodeNext shippedTables x).1 ≠ [] := by
    rcases isEncodedUnit_cases hunit with ⟨b, -, hb⟩ | hescape | ⟨hne, -⟩
    · rw [hb]
      exact List.cons_ne_nil _ _
    · rw [hescape]
      exact escape_ne_nil _
    · exact hne
  rw [encoded, translit_of_ne_nil hx (encodeNext_pos _ x)]
  exact List.append_ne_nil_of_left_ne_nil hw _

/-- **Encoding makes up no delimiter.** -/
theorem not_mem_encoded {d : UInt8} (hd : IsSeparator d) {x : Bytes} (hx : d ∉ x) :
    d ∉ encoded shippedTables x := by
  intro h
  rw [encoded, ← flatten_map_snd_readUnits, List.mem_flatten] at h
  obtain ⟨w, hw, hdw⟩ := h
  obtain ⟨p, hp, rfl⟩ := List.mem_map.mp hw
  obtain ⟨rest, hne, hpair⟩ := exists_of_mem_readUnits (fun l _ => encodeNext_pos _ l) hp
  have hunit := isEncodedUnit_encodeNext shippedTables hne
  rcases isEncodedUnit_cases hunit with ⟨b, hu, hb⟩ | hescape | ⟨-, hhigh⟩
  · rw [hpair, hb] at hdw
    obtain rfl := List.mem_singleton.mp hdw
    refine hx ?_
    rw [← flatten_map_fst_readUnits (encodeNext shippedTables) x]
    exact List.mem_flatten.mpr ⟨p.1, List.mem_map_of_mem hp, by rw [hpair, hu]; simp⟩
  · rw [hpair, hescape] at hdw
    exact hd.not_mem_escape _ hdw
  · rw [hpair] at hdw
    rcases hhigh d hdw with hlow | hzero
    · exact absurd (UInt8.le_trans hlow hd.1) (by decide)
    · exact hd.2.1 hzero

/-! ## Where a unit ends -/

section Cut

variable {d : UInt8} (hd : d ≤ 0x7f) {l : Bytes}

include hd

lemma isUtf8Bytes_append_cons {n : ℕ} (hl : l ≠ []) (rest : Bytes) :
    isUtf8Bytes n (l ++ d :: rest) 0 ↔ isUtf8Bytes n l 0 := by
  by_cases hn : n ≤ l.length
  · obtain ⟨b, bs, rfl⟩ := List.exists_cons_of_ne_nil hl
    have hlength : n - 1 ≤ bs.length := by
      rw [List.length_cons] at hn
      omega
    have hlong : n ≤ (b :: bs ++ d :: rest).length := by
      rw [List.length_append]
      omega
    simp only [isUtf8Bytes, Nat.zero_add, List.cons_append, List.drop_succ_cons, List.drop_zero,
      List.take_append_of_le_length hlength]
    exact and_congr_left fun _ => iff_of_true hlong hn
  · refine iff_of_false ?_ fun h => hn (by simpa using h.1)
    rintro ⟨hlength, hall⟩
    obtain ⟨b, bs, rfl⟩ := List.exists_cons_of_ne_nil hl
    -- the delimiter is among the bytes that should be continuation bytes
    have hmem : d ∈ (((b :: bs) ++ d :: rest).drop (0 + 1)).take (n - 1) := by
      rw [Nat.zero_add, List.cons_append, List.drop_succ_cons, List.drop_zero]
      rw [List.length_cons] at hn
      rw [List.take_append, List.mem_append]
      right
      obtain ⟨k, hk⟩ : ∃ k, n - 1 - bs.length = k + 1 := ⟨n - 1 - bs.length - 1, by omega⟩
      rw [hk, List.take_succ_cons]
      exact List.mem_cons_self
    have hcontinuation := List.all_eq_true.mp hall d hmem
    exact absurd (UInt8.le_trans (isContinuation_iff.mp hcontinuation).1 hd) (by decide)

/-- A listed combination has no ASCII byte. -/
lemma not_mem_combination {e c c' : Bytes} (h : (e, c, c') ∈ combinations) : d ∉ c ++ c' := by
  obtain ⟨-, hcombination, -⟩ := row_of_mem_combinations h
  intro hmem
  have hle : 0x80 ≤ d := by
    rcases List.mem_append.mp hmem with hmem | hmem
    · exact le_of_mem_multibyte hcombination.first hmem
    · exact le_of_mem_multibyte hcombination.second hmem
  exact absurd (UInt8.le_trans hle hd) (by decide)

omit hd in
lemma mem_take_append_cons {n : ℕ} (h : l.length < n) (rest : Bytes) :
    d ∈ (l ++ d :: rest).take n := by
  obtain ⟨k, hk⟩ : ∃ k, n - l.length = k + 1 := ⟨n - l.length - 1, by omega⟩
  rw [List.take_append, hk, List.take_succ_cons]
  simp

lemma combine6_append_cons (rest : Bytes) :
    combine6 shippedTables (l ++ d :: rest) = combine6 shippedTables l := by
  rw [combine6, combine6]
  by_cases hlength : 6 ≤ l.length
  · have hlong : 6 ≤ (l ++ d :: rest).length := by
      rw [List.length_append]
      omega
    rw [List.take_append_of_le_length hlength]
    simp only [hlong, hlength, true_and,
      List.getD_append _ _ _ _ (show 4 < l.length by omega),
      List.getD_append _ _ _ _ (show 5 < l.length by omega)]
  · have hnone : shippedTables.combineUtf86ToEucMap ((l ++ d :: rest).take 6) = none := by
      refine Option.eq_none_iff_forall_ne_some.mpr fun v hv => ?_
      obtain ⟨e, c, c', hmem, -, hkey, -⟩ := combineUtf86ToEucMap_eq_some_iff.mp hv
      exact not_mem_combination hd hmem (hkey ▸ mem_take_append_cons (by omega) rest)
    rw [hnone, if_neg (fun h : _ ∧ _ => hlength h.1), ite_self]

lemma combine4_append_cons (rest : Bytes) :
    combine4 shippedTables (l ++ d :: rest) = combine4 shippedTables l := by
  rw [combine4, combine4]
  by_cases hlength : 4 ≤ l.length
  · have hlong : 4 ≤ (l ++ d :: rest).length := by
      rw [List.length_append]
      omega
    rw [List.take_append_of_le_length hlength]
    simp only [hlong, hlength, true_and,
      List.getD_append _ _ _ _ (show 2 < l.length by omega)]
  · have hnone : shippedTables.combineUtf84ToEucMap ((l ++ d :: rest).take 4) = none := by
      refine Option.eq_none_iff_forall_ne_some.mpr fun v hv => ?_
      obtain ⟨e, c, c', hmem, -, hkey, -⟩ := combineUtf84ToEucMap_eq_some_iff.mp hv
      exact not_mem_combination hd hmem (hkey ▸ mem_take_append_cons (by omega) rest)
    rw [hnone, if_neg (fun h : _ ∧ _ => hlength h.1), ite_self]

/-- **A turn of `encode` does not see past an ASCII byte.** -/
lemma encodeNext_append_cons (hl : l ≠ []) (rest : Bytes) :
    encodeNext shippedTables (l ++ d :: rest) = encodeNext shippedTables l := by
  have hfirst : (l ++ d :: rest).getD 0 0 = l.getD 0 0 :=
    List.getD_append _ _ _ _ (List.length_pos_iff.mpr hl)
  have h2 := isUtf8Bytes_append_cons (n := 2) hd hl rest
  have h3 := isUtf8Bytes_append_cons (n := 3) hd hl rest
  have h4 := isUtf8Bytes_append_cons (n := 4) hd hl rest
  simp only [encodeNext, hfirst, combine6_append_cons hd, combine4_append_cons hd, isUtf82Bytes,
    isUtf83Bytes, isUtf84Bytes, h2, h3, h4]
  split_ifs with hthree hascii htwo hfour
  · have hlength : 3 ≤ l.length := by simpa using hthree.2.1
    rw [List.getD_append _ _ _ _ (show 1 < l.length by omega),
      List.getD_append _ _ _ _ (show 2 < l.length by omega)]
  · rfl
  · have hlength : 2 ≤ l.length := by simpa using htwo.2.1
    rw [List.take_append_of_le_length hlength]
  · have hlength : 4 ≤ l.length := by simpa using hfour.2.1
    rw [List.take_append_of_le_length hlength]
  · rfl

end Cut

/-! ## A text -/

/-- **A text is encoded piece by piece** between its delimiters. -/
theorem encoded_append_cons {d : UInt8} (hd : d ≤ 0x7f) {x : Bytes} (hx : d ∉ x) (rest : Bytes) :
    encoded shippedTables (x ++ d :: rest) =
      encoded shippedTables x ++ d :: encoded shippedTables rest := by
  have hcut : encoded shippedTables (x ++ d :: rest) =
      encoded shippedTables x ++ encoded shippedTables (d :: rest) :=
    translit_append_cons (fun l _ => encodeNext_pos _ l) (fun l hl => encodeNext_le _ hl)
      (fun l rest hl _ => encodeNext_append_cons hd hl rest) hx rest
  have hread : encodeNext shippedTables ([d] ++ rest) = ([d], [d].length) := by
    have hlead : ¬ 0xe0 ≤ d := fun hc => absurd (UInt8.le_trans hc hd) (by decide)
    simp [encodeNext, hlead, hd]
  rw [hcut]
  exact congrArg _ (translit_append hread (List.cons_ne_nil _ _))

lemma encoded_intercalate {d : UInt8} (hd : d ≤ 0x7f) {xs : List Bytes} (hxs : ∀ x ∈ xs, d ∉ x) :
    encoded shippedTables ([d].intercalate xs) =
      [d].intercalate (xs.map (encoded shippedTables)) := by
  induction xs with
  | nil => exact translit_nil _
  | cons x xs ih =>
    obtain ⟨hx, hxs⟩ := List.forall_mem_cons.mp hxs
    cases xs with
    | nil => simp
    | cons y ys =>
      rw [List.intercalate_cons_cons, List.append_assoc, List.singleton_append,
        encoded_append_cons hd hx, ih hxs, List.map_cons, List.map_cons, List.map_cons,
        List.intercalate_cons_cons, List.append_assoc, List.singleton_append]

/-! ## Whole characters -/

lemma le_of_lt_high {b : UInt8} (h : b < 0x80) : b ≤ 0x7f := by
  revert b
  decide +kernel

lemma isLead2_of_isEucByte {lead : UInt8} (h : lead = 0x8e ∨ IsEucByte lead) : IsLead2 lead :=
  h.symm

/-- A whole character is decoded on its own. -/
lemma decoded_character_append (t : EncodingTables) {c : Bytes} (h : IsEucCharacter c)
    (rest : Bytes) : decoded t (c ++ rest) = decoded t c ++ decoded t rest := by
  have hnil : decoded t [] = [] := translit_nil _
  cases h with
  | @single b hb =>
    have hle : b ≤ 0x7f := le_of_lt_high hb
    rw [List.singleton_append, decoded_ascii t hle, decoded_ascii t hle, hnil]
    rfl
  | double hlead =>
    have hlead2 := isLead2_of_isEucByte hlead
    have hrest := decoded_two t hlead2
    rw [List.cons_append, List.singleton_append, hrest, hrest, hnil, List.append_nil]
  | triple =>
    have hrest := decoded_three t
    rw [List.cons_append, List.cons_append, List.singleton_append, hrest, hrest, hnil,
      List.append_nil]

lemma ne_nil_of_isMultibyte {c : Bytes} (hc : IsMultibyte c) : c ≠ [] := by
  rintro rfl
  rcases hc.cases with ⟨b₀, b₁, h, -⟩ | ⟨b₀, b₁, b₂, h, -⟩ | ⟨b₀, b₁, b₂, b₃, h, -⟩
  all_goals exact List.cons_ne_nil _ _ h.symm

/-- What a listed code stands for has no byte of ASCII. -/
lemma le_of_mem_referenceCode {code : Bytes} (hlength : code.length ≠ 1) :
    referenceCode code = escape code ∨
      referenceCode code ≠ [] ∧ ∀ b ∈ referenceCode code, 0x80 ≤ b := by
  rw [referenceCode_of_length hlength]
  rcases textOf?_cases code with ⟨c, hc, hsome⟩ | ⟨c, c', hc, hsome⟩ | ⟨-, -, hnone⟩
  · rw [hsome, Option.getD_some]
    rcases mem_singles_cases hc with ⟨b, -, rfl, -⟩ | ⟨b, -, rfl, -⟩ | ⟨-, -, -, hmultibyte, -⟩
    · exact absurd rfl hlength
    · exact absurd rfl hlength
    · exact .inr ⟨ne_nil_of_isMultibyte hmultibyte, fun b hb => le_of_mem_multibyte hmultibyte hb⟩
  · obtain ⟨-, hcombination, -⟩ := row_of_mem_combinations hc
    rw [hsome, Option.getD_some]
    refine .inr ⟨List.append_ne_nil_of_left_ne_nil (ne_nil_of_isMultibyte hcombination.first) _,
      fun b hb => ?_⟩
    rcases List.mem_append.mp hb with hb | hb
    · exact le_of_mem_multibyte hcombination.first hb
    · exact le_of_mem_multibyte hcombination.second hb
  · rw [hnone]
    exact .inl rfl

/-- What a whole character is decoded to: itself where it is ASCII, or its escape, or something
without a byte of ASCII. -/
lemma decoded_character_cases {c : Bytes} (h : IsEucCharacter c) :
    (∃ b, c = [b] ∧ decoded shippedTables c = [b]) ∨ decoded shippedTables c = escape c ∨
      decoded shippedTables c ≠ [] ∧ ∀ b ∈ decoded shippedTables c, 0x80 ≤ b := by
  have hnil : decoded shippedTables [] = [] := translit_nil _
  cases h with
  | @single b hb =>
    refine .inl ⟨b, rfl, ?_⟩
    rw [decoded_ascii _ (le_of_lt_high hb), hnil]
  | double hlead htrail =>
    have hlead2 := isLead2_of_isEucByte hlead
    rw [decoded_two _ hlead2, hnil, List.append_nil, decode2_eq_referenceCode hlead2 htrail]
    exact .inr (le_of_mem_referenceCode (by simp))
  | @triple middle trail hmiddle =>
    have hzero : ¬ (middle = 0 ∧ trail = 0) := fun hboth => IsTrail.ne_zero hmiddle hboth.1
    rw [decoded_three, hnil, List.append_nil, decode3_eq_referenceCode hzero]
    exact .inr (le_of_mem_referenceCode (by simp))

lemma decoded_character_ne_nil {c : Bytes} (h : IsEucCharacter c) :
    decoded shippedTables c ≠ [] := by
  rcases decoded_character_cases h with ⟨b, -, hb⟩ | hescape | ⟨hne, -⟩
  · rw [hb]
    exact List.cons_ne_nil _ _
  · rw [hescape]
    exact escape_ne_nil _
  · exact hne

lemma not_mem_decoded_character {d : UInt8} (hd : IsSeparator d) {c : Bytes} (h : IsEucCharacter c)
    (hc : d ∉ c) : d ∉ decoded shippedTables c := by
  rcases decoded_character_cases h with ⟨b, hcb, hb⟩ | hescape | ⟨-, hhigh⟩
  · rw [hb, ← hcb]
    exact hc
  · rw [hescape]
    exact hd.not_mem_escape c
  · exact fun hmem => absurd (UInt8.le_trans (hhigh d hmem) hd.1) (by decide)

/-! ## Quoted characters -/

lemma quoteByte_of_high {b : UInt8} (h : 0x80 ≤ b) : Candidates.quoteByte b = [b] := by
  have hne : ∀ {d : UInt8}, d < 0x80 → b ≠ d := by
    rintro d hd rfl
    exact absurd (UInt8.lt_of_lt_of_le hd h) (UInt8.lt_irrefl _)
  rw [Candidates.quoteByte, if_neg (not_or.mpr ⟨hne (by decide), hne (by decide)⟩),
    if_neg (hne (by decide)), if_neg (hne (by decide)), if_neg (hne (by decide)),
    if_neg (hne (by decide))]

lemma isEucCharacter_of_mem_quoteByte {b : UInt8} (h : b < 0x80) {x : UInt8}
    (hx : x ∈ Candidates.quoteByte b) : IsEucCharacter [x] := by
  have hall : ∀ x ∈ ascii "(concat \"\\073\")" ++ ascii "(concat \"\\057\")", x < 0x80 := by
    decide +kernel
  refine .single ?_
  unfold Candidates.quoteByte at hx
  split_ifs at hx
  · exact absurd hx List.not_mem_nil
  · simp only [List.mem_cons, List.not_mem_nil, or_false, or_self] at hx
    rw [hx]
    decide
  · rcases List.mem_pair.mp hx with rfl | rfl <;> decide
  · exact hall x (List.mem_append_left _ hx)
  · exact hall x (List.mem_append_right _ hx)
  · exact List.mem_singleton.mp hx ▸ h

/-- Quoted, whole characters are whole characters. -/
lemma exists_characters_quote {c : Bytes} (h : IsEucCharacter c) :
    ∃ ds : List Bytes, Candidates.quote c = ds.flatten ∧ ∀ d ∈ ds, IsEucCharacter d := by
  have hhigh : ∀ {b : UInt8}, IsEucByte b → Candidates.quoteByte b = [b] := fun hb =>
    quoteByte_of_high (UInt8.le_trans (by decide) hb.1)
  have hlead : ∀ {b : UInt8}, b = 0x8e ∨ IsEucByte b → Candidates.quoteByte b = [b] := by
    rintro b (rfl | hb)
    · exact quoteByte_of_high (by decide)
    · exact hhigh hb
  have hnil : Candidates.quote [] = [] := rfl
  cases h with
  | @single b hb =>
    refine ⟨(Candidates.quoteByte b).map ([·]), ?_, fun d hd => ?_⟩
    · rw [Candidates.quote_cons, hnil, List.append_nil]
      exact (List.flatMap_singleton' _).symm
    · obtain ⟨x, hx, rfl⟩ := List.mem_map.mp hd
      exact isEucCharacter_of_mem_quoteByte hb hx
  | @double lead trail hl ht =>
    refine ⟨[[lead, trail]], ?_, fun d hd => List.mem_singleton.mp hd ▸ .double hl ht⟩
    rw [Candidates.quote_cons, Candidates.quote_cons, hnil, hlead hl, hhigh ht]
    rfl
  | @triple middle trail hm ht =>
    refine ⟨[[0x8f, middle, trail]], ?_, fun d hd => List.mem_singleton.mp hd ▸ .triple hm ht⟩
    have hfirst : Candidates.quoteByte 0x8f = [0x8f] := quoteByte_of_high (by decide)
    rw [Candidates.quote_cons, Candidates.quote_cons, Candidates.quote_cons, hnil, hfirst, hhigh hm,
      hhigh ht]
    rfl

/-- A text of whole characters. -/
def IsEucText (x : Bytes) : Prop := ∃ cs : List Bytes, x = cs.flatten ∧ ∀ c ∈ cs, IsEucCharacter c

lemma IsEucText.quote {x : Bytes} (h : IsEucText x) : IsEucText (Candidates.quote x) := by
  obtain ⟨cs, rfl, hcs⟩ := h
  induction cs with
  | nil => exact ⟨[], rfl, by simp⟩
  | cons c cs ih =>
    obtain ⟨hc, hcs⟩ := List.forall_mem_cons.mp hcs
    obtain ⟨ds, hds, hall⟩ := exists_characters_quote hc
    obtain ⟨es, hes, hall'⟩ := ih hcs
    refine ⟨ds ++ es, ?_, fun d hd => (List.mem_append.mp hd).elim (hall d) (hall' d)⟩
    have happend : Candidates.quote (c ++ cs.flatten) =
        Candidates.quote c ++ Candidates.quote cs.flatten := List.flatMap_append
    rw [List.flatten_cons, happend, hds, hes, List.flatten_append]

/-- **A text of whole characters is decoded on its own**, whatever is behind it. -/
lemma IsEucText.decoded_append {x : Bytes} (h : IsEucText x) (t : EncodingTables) (rest : Bytes) :
    decoded t (x ++ rest) = decoded t x ++ decoded t rest := by
  obtain ⟨cs, rfl, hcs⟩ := h
  induction cs with
  | nil =>
    have hnil : decoded t [] = [] := translit_nil _
    rw [List.flatten_nil, List.nil_append, hnil, List.nil_append]
  | cons c cs ih =>
    obtain ⟨hc, hcs⟩ := List.forall_mem_cons.mp hcs
    rw [List.flatten_cons, List.append_assoc, decoded_character_append t hc,
      decoded_character_append t hc, ih hcs, List.append_assoc]

/-- ASCII is made of whole characters, and stays as it is. -/
lemma isEucText_of_ascii {x : Bytes} (h : ∀ b ∈ x, b < 0x80) : IsEucText x :=
  ⟨x.map ([·]), (List.flatMap_singleton' x).symm, fun c hc => by
    obtain ⟨b, hb, rfl⟩ := List.mem_map.mp hc
    exact .single (h b hb)⟩

lemma decoded_of_ascii (t : EncodingTables) {x : Bytes} (h : ∀ b ∈ x, b < 0x80) :
    decoded t x = x := by
  induction x with
  | nil => exact translit_nil _
  | cons b x ih =>
    obtain ⟨hb, hx⟩ := List.forall_mem_cons.mp h
    rw [decoded_ascii t (le_of_lt_high hb), ih hx]

lemma encoded_of_ascii {x : Bytes} (h : ∀ b ∈ x, b < 0x80) : encoded shippedTables x = x := by
  induction x with
  | nil => exact translit_nil _
  | cons b x ih =>
    obtain ⟨hb, hx⟩ := List.forall_mem_cons.mp h
    have hcons := encoded_append_cons (le_of_lt_high hb) List.not_mem_nil x
    rw [List.nil_append, ih hx] at hcons
    rw [hcons]
    exact congrArg (· ++ b :: x) (translit_nil _)

/-- Decoding makes up no delimiter in a text of whole characters, and loses no text as a whole. -/
lemma IsEucText.not_mem_decoded {d : UInt8} (hd : IsSeparator d) {x : Bytes} (h : IsEucText x)
    (hx : d ∉ x) : d ∉ decoded shippedTables x := by
  obtain ⟨cs, rfl, hcs⟩ := h
  induction cs with
  | nil =>
    have hnil : decoded shippedTables [] = [] := translit_nil _
    rw [List.flatten_nil, hnil]
    exact List.not_mem_nil
  | cons c cs ih =>
    obtain ⟨hc, hcs⟩ := List.forall_mem_cons.mp hcs
    rw [List.flatten_cons, List.mem_append, not_or] at hx
    rw [List.flatten_cons, decoded_character_append _ hc, List.mem_append, not_or]
    exact ⟨not_mem_decoded_character hd hc hx.1, ih hcs hx.2⟩

lemma IsEucText.decoded_ne_nil {x : Bytes} (h : IsEucText x) (hx : x ≠ []) :
    decoded shippedTables x ≠ [] := by
  obtain ⟨cs, rfl, hcs⟩ := h
  cases cs with
  | nil => exact absurd rfl hx
  | cons c cs =>
    have hc := hcs c List.mem_cons_self
    rw [List.flatten_cons, decoded_character_append _ hc]
    exact List.append_ne_nil_of_left_ne_nil (decoded_character_ne_nil hc) _

end Euc

end Yaskkserv2
