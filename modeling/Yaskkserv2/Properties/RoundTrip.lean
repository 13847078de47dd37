import Yaskkserv2.Properties.DecodeReference
import Yaskkserv2.Properties.EncodeReference

/-!
# Decoding undoes encoding

On texts made of listed characters and listed combinations `Euc::decode` undoes `Euc::encode`
(`decode_encode`).  The texts of listed codes are in `CodeTexts`.
-/

namespace Yaskkserv2

open Framework EncodingTable EncodingTables

/-! ## Decoding a listed code -/

lemma decoded_of_mem_singles {e c : Bytes} (h : (e, c) ∈ singles) (hc1 : ¬ IsC1Control c)
    (rest : Bytes) :
    Euc.decoded shippedTables (e ++ rest) = c ++ Euc.decoded shippedTables rest := by
  rcases mem_singles_cases h with ⟨b, hb, rfl, rfl⟩ | ⟨b, hb, -, rfl⟩ | ⟨-, -, he, -⟩
  · exact Euc.decoded_ascii shippedTables hb rest
  · exact absurd ⟨b, rfl, hb.2⟩ hc1
  · rcases he.cases with ⟨b₀, b₁, rfl, h0, -⟩ | ⟨b₁, b₂, rfl, -⟩
    · rw [← Euc.decode2_of_mem h he]
      exact Euc.decoded_two shippedTables h0 b₁ rest
    · rw [← Euc.decode3_of_mem h he]
      exact Euc.decoded_three shippedTables b₁ b₂ rest

lemma decoded_of_mem_combinations {e c c' : Bytes} (h : (e, c, c') ∈ combinations)
    (rest : Bytes) :
    Euc.decoded shippedTables (e ++ rest) = c ++ c' ++ Euc.decoded shippedTables rest := by
  obtain ⟨-, ⟨⟨b₀, b₁, rfl, h0, -⟩, -⟩, -⟩ := row_of_mem_combinations h
  rw [← Euc.decode2_of_mem_combinations h]
  exact Euc.decoded_two shippedTables h0 b₁ rest

/-! ## Texts over the repertoire -/

/-- A text that is a concatenation of listed characters, but for the control characters of
U+0080–U+009F, and of listed combinations. -/
inductive IsRepertoireText : List Bytes → Prop
  | nil : IsRepertoireText []
  | character {e c : Bytes} {cs : List Bytes} (h : (e, c) ∈ singles) (hc1 : ¬ IsC1Control c)
      (hcs : IsRepertoireText cs) : IsRepertoireText (c :: cs)
  | combination {e c c' : Bytes} {cs : List Bytes} (h : (e, c, c') ∈ combinations)
      (hcs : IsRepertoireText cs) : IsRepertoireText (c :: c' :: cs)

lemma isCharacter_of_mem_singles {e c : Bytes} (h : (e, c) ∈ singles) (hc1 : ¬ IsC1Control c) :
    IsCharacter c := by
  rcases mem_singles_cases h with ⟨b, hb, -, rfl⟩ | ⟨b, hb, -, rfl⟩ | ⟨-, -, -, hc, -⟩
  · exact .inl ⟨b, hb, rfl⟩
  · exact absurd ⟨b, rfl, hb.2⟩ hc1
  · exact .inr hc

lemma not_isFolded_of_mem_singles {e c : Bytes} (h : (e, c) ∈ singles) : ¬ IsFolded c :=
  fun hfold => hfold.1 e h

/-- The characters of a combination are no control characters. -/
lemma not_isC1Control_of_mem_combinations {e c c' : Bytes} (h : (e, c, c') ∈ combinations) :
    ¬ IsC1Control c ∧ ¬ IsC1Control c' := by
  have hlead : ∀ n ∈ eucUtf8Combine, byteAt n 7 ≠ 0xc2 ∧ byteAt n 3 ≠ 0xc2 := by
    decide +kernel
  obtain ⟨n, hcombination, hrow⟩ := row_of_mem_combinations h
  obtain ⟨h7, h3⟩ := hlead n hrow.mem
  have hfirst := hrow.first
  have hsecond := hrow.second
  rw [utf8_eq, byteAt_shiftRight] at hfirst
  rw [utf8_eq] at hsecond
  constructor
  · rintro ⟨b, rfl, -⟩
    exact h7 (List.cons_eq_cons.mp hfirst).1
  · rintro ⟨b, rfl, -⟩
    exact h3 (List.cons_eq_cons.mp hsecond).1

/-- The characters of a text over the repertoire are neither control characters nor folded. -/
lemma IsRepertoireText.forall {cs : List Bytes} (h : IsRepertoireText cs) :
    ∀ c ∈ cs, (IsCharacter c ∧ ¬ IsC1Control c) ∧ ¬ IsFolded c := by
  induction h with
  | nil => simp
  | character h hc1 hcs ih =>
    exact List.forall_mem_cons.mpr
      ⟨⟨⟨isCharacter_of_mem_singles h hc1, hc1⟩, not_isFolded_of_mem_singles h⟩, ih⟩
  | combination h hcs ih =>
    obtain ⟨-, hcombination, -⟩ := row_of_mem_combinations h
    obtain ⟨hc1, hc1'⟩ := not_isC1Control_of_mem_combinations h
    obtain ⟨hfold, hfold'⟩ := not_isFolded_of_mem_combinations h
    exact List.forall_mem_cons.mpr ⟨⟨⟨.inr hcombination.first, hc1⟩, hfold⟩,
      List.forall_mem_cons.mpr ⟨⟨⟨.inr hcombination.second, hc1'⟩, hfold'⟩, ih⟩⟩

lemma IsRepertoireText.encoded_eq {cs : List Bytes} (h : IsRepertoireText cs) :
    Euc.encoded shippedTables cs.flatten = referenceEncode cs :=
  (encoded_eq_referenceEncode_iff fun c hc => (h.forall c hc).1).mpr fun c hc => (h.forall c hc).2

/-- The rows of the tone marks U+02E5 and U+02E9. -/
lemma mem_eucUtf8_tone : ∀ n ∈ [0xabe000cba50000, 0xabe400cba90000], n ∈ eucUtf8.take 1200 := by
  decide +kernel

/-- The second character of a combination is the first one of another only where the second one of
that is listed by itself. -/
lemma exists_mem_singles_of_mem_combinations {e e' c c' d : Bytes}
    (h : (e, c, c') ∈ combinations) (h' : (e', c', d) ∈ combinations) :
    ∃ e'', (e'', d) ∈ singles := by
  have htone : ∀ m ∈ eucUtf8Combine, ∀ n ∈ eucUtf8Combine, utf8 m = utf8 (n >>> 32) →
      unpad (utf8 n) = [0xcb, 0xa5] ∨ unpad (utf8 n) = [0xcb, 0xa9] := by
    decide +kernel
  obtain ⟨m, -, hrow⟩ := row_of_mem_combinations h
  obtain ⟨n, hcombination, hrow'⟩ := row_of_mem_combinations h'
  have hd := htone m hrow.mem n hrow'.mem (hrow.second.trans hrow'.first.symm)
  rw [hrow'.second, hcombination.second.unpad_pad] at hd
  have hmem : ∀ n ∈ [0xabe000cba50000, 0xabe400cba90000],
      (unpad (euc3 n), unpad (utf8 n)) ∈ singles := fun n hn =>
    List.mem_map.mpr ⟨n, List.mem_of_mem_take (mem_eucUtf8_tone n hn), rfl⟩
  rcases hd with rfl | rfl
  · exact ⟨_, hmem 0xabe000cba50000 (by simp)⟩
  · exact ⟨_, hmem 0xabe400cba90000 (by simp)⟩

/-- What follows a combination is a text over the repertoire, whichever way the text was put
together. -/
lemma IsRepertoireText.of_combination {e c c' : Bytes} {cs : List Bytes}
    (h : IsRepertoireText (c :: c' :: cs)) (hpair : (e, c, c') ∈ combinations) :
    IsRepertoireText cs := by
  cases h with
  | character _ _ hcs =>
    cases hcs with
    | character _ _ hcs => exact hcs
    | combination h' hcs =>
      obtain ⟨e'', hd⟩ := exists_mem_singles_of_mem_combinations hpair h'
      exact .character hd (not_isC1Control_of_mem_combinations h').2 hcs
  | combination _ hcs => exact hcs

lemma referenceCharacter_of_mem {c : Bytes} (h : ∃ e, (e, c) ∈ singles) :
    (referenceCharacter c, c) ∈ singles := by
  rcases codeOf?_cases c with ⟨e, he, hsome⟩ | ⟨hnone, -⟩
  · rwa [referenceCharacter, hsome]
  · obtain ⟨e, he⟩ := h
    exact absurd he (hnone e)

/-- A character that makes no combination with the next one stands for itself in a text over the
repertoire. -/
lemma IsRepertoireText.of_eq_none {c : Bytes} {cs : List Bytes} (h : IsRepertoireText (c :: cs))
    (hnone : codeOfNext? c cs = none) :
    (∃ e, (e, c) ∈ singles) ∧ ¬ IsC1Control c ∧ IsRepertoireText cs := by
  cases h with
  | character h hc1 hcs => exact ⟨⟨_, h⟩, hc1, hcs⟩
  | combination h hcs => exact absurd h (codeOfPair?_eq_none hnone _)

/-- The reference encoding of a text over the repertoire is decoded to the text. -/
lemma decoded_referenceEncode {cs : List Bytes} (h : IsRepertoireText cs) :
    Euc.decoded shippedTables (referenceEncode cs) = cs.flatten := by
  induction cs using referenceEncode.induct with
  | case1 => simp [referenceEncode, Euc.decoded]
  | case2 c =>
    obtain ⟨hlisted, hc1, -⟩ := h.of_eq_none rfl
    have hdecode := decoded_of_mem_singles (referenceCharacter_of_mem hlisted) hc1 []
    simpa [referenceEncode, Euc.decoded] using hdecode
  | case3 c c' cs e he ih =>
    have hmem := codeOfPair?_eq_some he
    rw [referenceEncode]
    simp only [he]
    rw [decoded_of_mem_combinations hmem, ih (h.of_combination hmem)]
    simp
  | case4 c c' cs he ih =>
    obtain ⟨hlisted, hc1, hcs⟩ := h.of_eq_none he
    rw [referenceEncode]
    simp only [he]
    rw [decoded_of_mem_singles (referenceCharacter_of_mem hlisted) hc1, ih hcs]
    rfl

/-- **Decoding undoes encoding on the repertoire**: on every concatenation of listed characters and
listed combinations. -/
theorem decode_encode {cs : List Bytes} (h : IsRepertoireText cs) :
    (do
      let t ← setup EncodingTable.get
      let e ← Euc.encode t cs.flatten
      Euc.decode t e) = .ok cs.flatten := by
  rw [setup_get, Outcome.ok_bind, Euc.encode_eq, Outcome.ok_bind, Euc.decode_eq, h.encoded_eq,
    decoded_referenceEncode h]

/-- The text of `a` and of U+304B with U+309A. -/
theorem decode_encode_kana :
    (do
      let t ← setup EncodingTable.get
      let e ← Euc.encode t [[0x61], [0xe3, 0x81, 0x8b], [0xe3, 0x82, 0x9a]].flatten
      Euc.decode t e) = .ok [[0x61], [0xe3, 0x81, 0x8b], [0xe3, 0x82, 0x9a]].flatten := by
  have hpair : (([0xa4, 0xf7], [0xe3, 0x81, 0x8b], [0xe3, 0x82, 0x9a]) : Bytes × Bytes × Bytes) ∈
      combinations :=
    List.mem_map.mpr ⟨0xa4f700e3818b00e3829a00, by decide, by decide⟩
  exact decode_encode (.character (mem_singles_ascii (by decide)) (by simp [IsC1Control])
    (.combination hpair .nil))

end Yaskkserv2
