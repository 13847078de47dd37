import Yaskkserv2.Properties.RoundTrip

/-!
# Texts of listed codes

What an EUC dictionary holds is a concatenation of ASCII bytes and of codes that the table lists.
`Euc::decode` writes the characters of each code, and `Euc::encode` looks at two characters at a
time: where the character of a code and the first one of the next code are a listed combination,
they come back as the one code of the combination.  The text comes back as it was exactly where no
two neighbours are so fused (`encode_decode_iff`).
-/

namespace Yaskkserv2

open Framework EncodingTable EncodingTables

/-! ## Codes and their characters -/

/-- A code and the characters that the table lists for it. -/
inductive IsCodeOf : Bytes → List Bytes → Prop
  | ascii {b : UInt8} (hb : b ≤ 0x7f) : IsCodeOf [b] [[b]]
  | character {e c : Bytes} (he : IsCode e) (h : (e, c) ∈ singles) : IsCodeOf e [c]
  | combination {e c c' : Bytes} (h : (e, c, c') ∈ combinations) : IsCodeOf e [c, c']

/-- An ASCII byte, or a code of two or three bytes that the table lists. -/
def IsListedCode (e : Bytes) : Prop := ∃ cs, IsCodeOf e cs

/-- The code of a single character stands before one whose first character makes a listed
combination with it. -/
def IsFused (e e' : Bytes) : Prop :=
  ∃ c c' cs' e'', IsCodeOf e [c] ∧ IsCodeOf e' (c' :: cs') ∧ (e'', c, c') ∈ combinations

/-- The character of a code is no control character of U+0080–U+009F. -/
lemma IsCode.not_isC1Control {e c : Bytes} (he : IsCode e) (h : (e, c) ∈ singles) :
    ¬ IsC1Control c :=
  (row_of_mem_singles h he).choose_spec.2.2.1

section Code

variable {e : Bytes} {cs : List Bytes}

/-- A code of a single character is in the rows of these. -/
lemma IsCodeOf.mem_singles {c : Bytes} (h : IsCodeOf e [c]) :
    (e, c) ∈ singles ∧ ¬ IsC1Control c := by
  cases h with
  | ascii hb => exact ⟨mem_singles_ascii hb, by simp [IsC1Control]⟩
  | character he h => exact ⟨h, he.not_isC1Control h⟩

lemma IsCodeOf.exists_cons (h : IsCodeOf e cs) : ∃ c cs', cs = c :: cs' := by
  cases h <;> exact ⟨_, _, rfl⟩

/-- A code is decoded to its characters. -/
lemma IsCodeOf.decoded_append (h : IsCodeOf e cs) (rest : Bytes) :
    Euc.decoded shippedTables (e ++ rest) = cs.flatten ++ Euc.decoded shippedTables rest := by
  cases h with
  | ascii hb => exact Euc.decoded_ascii shippedTables hb rest
  | character he h =>
    rw [decoded_of_mem_singles h (he.not_isC1Control h), List.flatten_singleton]
  | combination h =>
    rw [decoded_of_mem_combinations h]
    simp

lemma IsCodeOf.decoded_eq (h : IsCodeOf e cs) : Euc.decoded shippedTables e = cs.flatten := by
  have hdecoded := h.decoded_append []
  have hnil : Euc.decoded shippedTables [] = [] := translit_nil _
  rwa [List.append_nil, hnil, List.append_nil] at hdecoded

/-- The characters of a code are in the repertoire. -/
lemma IsCodeOf.isRepertoireText_append (h : IsCodeOf e cs) {rest : List Bytes}
    (hrest : IsRepertoireText rest) : IsRepertoireText (cs ++ rest) := by
  cases h with
  | ascii hb => exact .character (mem_singles_ascii hb) (by simp [IsC1Control]) hrest
  | character he h => exact .character h (he.not_isC1Control h) hrest
  | combination h => exact .combination h hrest

lemma IsCodeOf.isCharacter (h : IsCodeOf e cs) : ∀ c ∈ cs, IsCharacter c := by
  intro c hc
  have htext := h.isRepertoireText_append .nil
  exact (htext.forall c (List.mem_append_left _ hc)).1.1

/-- The first character of a code is determined by the code. -/
lemma IsCodeOf.head_unique {c c' : Bytes} {cs cs' : List Bytes} (h : IsCodeOf e (c :: cs))
    (h' : IsCodeOf e (c' :: cs')) : c = c' := by
  have htext := h.decoded_eq.symm.trans h'.decoded_eq
  rw [List.flatten_cons, List.flatten_cons] at htext
  exact ((h.isCharacter c List.mem_cons_self).append_inj
    (h'.isCharacter c' List.mem_cons_self) htext).1

/-- No code of a combination is one of a single character. -/
lemma not_isCodeOf_of_mem_combinations {c c' d : Bytes} (h : (e, c, c') ∈ combinations) :
    ¬ IsCodeOf e [d] := by
  intro hcode
  obtain ⟨n, hcombination, hrow⟩ := row_of_mem_combinations h
  cases hcode with
  | ascii hb => exact hcombination.isCode.elim
  | character he hd =>
    obtain ⟨m, hm, -, -, heuc, -⟩ := row_of_mem_singles hd he
    exact euc3_ne_of_mem_combine hrow.mem hm (heuc.trans hrow.code.symm)

/-- A listed character has no other code. -/
lemma referenceCharacter_of_isCodeOf {c : Bytes} (h : IsCodeOf e [c]) :
    referenceCharacter c = e := by
  obtain ⟨hmem, hc1⟩ := h.mem_singles
  have hc : IsCharacter c := h.isCharacter c List.mem_cons_self
  rw [← encodeCharacter_eq hc hc1 (not_isFolded_of_mem_singles hmem)]
  cases h with
  | ascii hb => rfl
  | character he hmem =>
    obtain ⟨-, -, hmultibyte, -⟩ := row_of_mem_singles hmem he
    rcases hmultibyte.cases with ⟨b₀, b₁, rfl, -⟩ | ⟨b₀, b₁, b₂, rfl, -⟩ |
      ⟨b₀, b₁, b₂, b₃, rfl, -⟩
    · exact Euc.encode24_of_mem hmem hmultibyte hc1 (by simp)
    · exact Euc.encode3_of_mem hmem hmultibyte
    · exact Euc.encode24_of_mem hmem hmultibyte hc1 (by simp)

/-- A listed combination has no other code. -/
lemma codeOfPair?_of_mem {c c' : Bytes} (h : (e, c, c') ∈ combinations) :
    codeOfPair? c c' = some e := by
  cases hcode : codeOfPair? c c' with
  | none => exact absurd h (codeOfPair?_eq_none hcode e)
  | some d =>
    have hd := codeOfPair?_eq_some hcode
    have hpad : pad 3 d = pad 3 e := by
      by_cases hlen : c.length = 2
      · have he' := Euc.combineUtf84ToEucMap_eq_some_iff.mpr ⟨e, c, c', h, hlen, rfl, rfl⟩
        have hd' := Euc.combineUtf84ToEucMap_eq_some_iff.mpr ⟨d, c, c', hd, hlen, rfl, rfl⟩
        exact Option.some.inj (hd'.symm.trans he')
      · have he' := Euc.combineUtf86ToEucMap_eq_some_iff.mpr ⟨e, c, c', h, hlen, rfl, rfl⟩
        have hd' := Euc.combineUtf86ToEucMap_eq_some_iff.mpr ⟨d, c, c', hd, hlen, rfl, rfl⟩
        exact Option.some.inj (hd'.symm.trans he')
    have hunpad := congrArg unpad hpad
    rw [(isCode_of_mem_combinations hd).unpad_pad, (isCode_of_mem_combinations h).unpad_pad]
      at hunpad
    rw [hunpad]

/-- The first byte of a code tells its length, so a text begins with one code only. -/
lemma IsCodeOf.append_inj {e' rest rest' : Bytes} {cs' : List Bytes} (h : IsCodeOf e cs)
    (h' : IsCodeOf e' cs') (heq : e ++ rest = e' ++ rest') : e = e' := by
  have hcases : ∀ {e cs}, IsCodeOf e cs → (∃ b ≤ 0x7f, e = [b]) ∨ IsCode e := by
    intro e cs h
    cases h with
    | ascii hb => exact .inl ⟨_, hb, rfl⟩
    | character he _ => exact .inr he
    | combination h => exact .inr (isCode_of_mem_combinations h)
  have h8f : ¬ Euc.IsLead2 0x8f := by decide
  have hlead : ∀ {b : UInt8}, b ≤ 0x7f → ¬ Euc.IsLead2 b ∧ b ≠ 0x8f := by decide +kernel
  rcases hcases h with ⟨b, hb, rfl⟩ | he <;> rcases hcases h' with ⟨b', hb', rfl⟩ | he'
  · rw [(List.cons_eq_cons.mp heq).1]
  · rcases he'.cases with ⟨b₀, b₁, rfl, h0, -⟩ | ⟨b₁, b₂, rfl, -⟩
    · exact absurd ((List.cons_eq_cons.mp heq).1 ▸ h0) (hlead hb).1
    · exact absurd (List.cons_eq_cons.mp heq).1 (hlead hb).2
  · rcases he.cases with ⟨b₀, b₁, rfl, h0, -⟩ | ⟨b₁, b₂, rfl, -⟩
    · exact absurd ((List.cons_eq_cons.mp heq).1 ▸ h0) (hlead hb').1
    · exact absurd (List.cons_eq_cons.mp heq).1.symm (hlead hb').2
  · rcases he.cases with ⟨b₀, b₁, rfl, h0, -⟩ | ⟨b₁, b₂, rfl, -⟩ <;>
      rcases he'.cases with ⟨d₀, d₁, rfl, h0', -⟩ | ⟨d₁, d₂, rfl, -⟩
    · simp only [List.cons_append, List.nil_append, List.cons.injEq] at heq
      rw [heq.1, heq.2.1]
    · exact absurd ((List.cons_eq_cons.mp heq).1 ▸ h0) h8f
    · exact absurd ((List.cons_eq_cons.mp heq).1 ▸ h0') h8f
    · simp only [List.cons_append, List.nil_append, List.cons.injEq] at heq
      rw [heq.2.1, heq.2.2.1]

end Code

/-! ## Texts -/

section Text

variable {es : List Bytes} {css : List (List Bytes)}

lemma exists_forall₂_isCodeOf (h : ∀ e ∈ es, IsListedCode e) :
    ∃ css, List.Forall₂ IsCodeOf es css := by
  induction es with
  | nil => exact ⟨[], .nil⟩
  | cons e es ih =>
    obtain ⟨⟨cs, hcs⟩, hes⟩ := List.forall_mem_cons.mp h
    obtain ⟨css, hcss⟩ := ih hes
    exact ⟨cs :: css, .cons hcs hcss⟩

lemma decoded_flatten (h : List.Forall₂ IsCodeOf es css) :
    Euc.decoded shippedTables es.flatten = css.flatten.flatten := by
  induction h with
  | nil => exact translit_nil _
  | cons h hs ih =>
    rw [List.flatten_cons, h.decoded_append, ih, List.flatten_cons, List.flatten_append]

lemma isRepertoireText_flatten (h : List.Forall₂ IsCodeOf es css) :
    IsRepertoireText css.flatten := by
  induction h with
  | nil => exact .nil
  | cons h hs ih => exact h.isRepertoireText_append ih

/-- A code is fused with the next one exactly where its character makes a combination with what
follows. -/
lemma not_isFused_head_iff {e c : Bytes} (h : IsCodeOf e [c]) (hs : List.Forall₂ IsCodeOf es css) :
    (∀ e' ∈ es.head?, ¬ IsFused e e') ↔ codeOfNext? c css.flatten = none := by
  cases hs with
  | nil => simp [codeOfNext?]
  | @cons e' cs' es css h' hs =>
    obtain ⟨c', cs', rfl⟩ := h'.exists_cons
    have hnext : codeOfNext? c ((c' :: cs') :: css).flatten = codeOfPair? c c' := rfl
    rw [hnext]
    simp only [List.head?_cons, Option.mem_some_iff, forall_eq']
    constructor
    · intro hnot
      refine Option.eq_none_iff_forall_ne_some.mpr fun e'' he'' => ?_
      exact hnot ⟨c, c', cs', e'', h, h', codeOfPair?_eq_some he''⟩
    · rintro hnone ⟨d, d', ds, e'', hd, hd', hmem⟩
      obtain rfl := h.head_unique hd
      obtain rfl := h'.head_unique hd'
      exact codeOfPair?_eq_none hnone e'' hmem

lemma referenceEncode_of_eq_none {c : Bytes} {cs : List Bytes} (h : codeOfNext? c cs = none) :
    referenceEncode (c :: cs) = referenceCharacter c ++ referenceEncode cs := by
  cases cs with
  | nil => simp [referenceEncode]
  | cons c' cs =>
    have hpair : codeOfPair? c c' = none := h
    rw [referenceEncode]
    simp only [hpair]

lemma referenceEncode_of_eq_some {c c' e : Bytes} (cs : List Bytes)
    (h : codeOfPair? c c' = some e) :
    referenceEncode (c :: c' :: cs) = e ++ referenceEncode cs := by
  rw [referenceEncode]
  simp only [h]

/-- The characters of codes are encoded to these codes exactly where no two of them are fused. -/
lemma referenceEncode_flatten_iff (h : List.Forall₂ IsCodeOf es css) :
    referenceEncode css.flatten = es.flatten ↔ es.IsChain fun e e' => ¬ IsFused e e' := by
  induction h with
  | nil => simp [referenceEncode]
  | @cons e cs es css hcode hs ih =>
    rw [List.isChain_cons, List.flatten_cons, List.flatten_cons, ← ih]
    have hsingle : ∀ {c}, IsCodeOf e [c] →
        (referenceEncode (c :: css.flatten) = e ++ es.flatten ↔
          (∀ e' ∈ es.head?, ¬ IsFused e e') ∧ referenceEncode css.flatten = es.flatten) := by
      intro c hc
      rw [not_isFused_head_iff hc hs]
      cases hnext : codeOfNext? c css.flatten with
      | none =>
        rw [referenceEncode_of_eq_none hnext, referenceCharacter_of_isCodeOf hc]
        simp
      | some d =>
        obtain ⟨c', cs', hcss, hd⟩ := Euc.codeOfNext?_eq_some hnext
        rw [hcss, referenceEncode_of_eq_some cs' (codeOfPair?_of_mem hd)]
        refine iff_of_false (fun heq => ?_) (by simp)
        obtain rfl := (IsCodeOf.combination hd).append_inj hc heq
        exact not_isCodeOf_of_mem_combinations hd hc
    cases hcode with
    | ascii hb => exact hsingle (.ascii hb)
    | character he h => exact hsingle (.character he h)
    | combination h =>
      have halone : ∀ e' ∈ es.head?, ¬ IsFused e e' := by
        rintro e' - ⟨d, -, -, -, hd, -⟩
        exact not_isCodeOf_of_mem_combinations h hd
      rw [List.cons_append, List.cons_append, List.nil_append,
        referenceEncode_of_eq_some _ (codeOfPair?_of_mem h), List.append_cancel_left_eq,
        and_iff_right halone]

/-- What a text of listed codes is decoded to is encoded to the text exactly where no two codes are
fused. -/
lemma encoded_decoded_iff (h : ∀ e ∈ es, IsListedCode e) :
    Euc.encoded shippedTables (Euc.decoded shippedTables es.flatten) = es.flatten ↔
      es.IsChain fun e e' => ¬ IsFused e e' := by
  obtain ⟨css, hcss⟩ := exists_forall₂_isCodeOf h
  rw [decoded_flatten hcss, (isRepertoireText_flatten hcss).encoded_eq,
    referenceEncode_flatten_iff hcss]

/-- **Encoding undoes decoding exactly on the texts of listed codes where no two are fused**; so
two such texts with the same characters are the same. -/
theorem encode_decode_iff (h : ∀ e ∈ es, IsListedCode e) :
    ((do
      let t ← setup EncodingTable.get
      let text ← Euc.decode t es.flatten
      Euc.encode t text) = .ok es.flatten ↔ es.IsChain fun e e' => ¬ IsFused e e') ∧
    ∀ es' : List Bytes, (∀ e ∈ es', IsListedCode e) →
      (es.IsChain fun e e' => ¬ IsFused e e') → (es'.IsChain fun e e' => ¬ IsFused e e') →
      (do
        let t ← setup EncodingTable.get
        Euc.decode t es.flatten) = (do
        let t ← setup EncodingTable.get
        Euc.decode t es'.flatten) → es.flatten = es'.flatten := by
  simp only [setup_get, Outcome.ok_bind, Euc.decode_eq, Euc.encode_eq, Outcome.ok.injEq]
  refine ⟨encoded_decoded_iff h, fun es' h' hchain hchain' heq => ?_⟩
  rw [← (encoded_decoded_iff h).mpr hchain, ← (encoded_decoded_iff h').mpr hchain', heq]

end Text

/-- The rows of U+00E6 and U+0300. -/
lemma mem_eucUtf8_ae : ∀ n ∈ [0xa9dc00c3a60000, 0xabdc00cc800000], n ∈ eucUtf8.take 1200 := by
  decide +kernel

lemma isCodeOf_ae :
    IsCodeOf [0xa9, 0xdc] [[0xc3, 0xa6]] ∧ IsCodeOf [0xab, 0xdc] [[0xcc, 0x80]] := by
  have hmem : ∀ n ∈ [0xa9dc00c3a60000, 0xabdc00cc800000],
      (unpad (euc3 n), unpad (utf8 n)) ∈ singles := fun n hn =>
    List.mem_map.mpr ⟨n, List.mem_of_mem_take (mem_eucUtf8_ae n hn), rfl⟩
  constructor
  · exact .character ⟨by decide, by decide⟩ (hmem 0xa9dc00c3a60000 (by simp))
  · exact .character ⟨by decide, by decide⟩ (hmem 0xabdc00cc800000 (by simp))

/-- The code of U+00E6 before that of U+0300, whose combination is listed as 0xabc4. -/
lemma isFused_ae : IsFused [0xa9, 0xdc] [0xab, 0xdc] := by
  have hpair : (([0xab, 0xc4], [0xc3, 0xa6], [0xcc, 0x80]) : Bytes × Bytes × Bytes) ∈
      combinations :=
    List.mem_map.mpr ⟨0xabc400c3a60000cc800000, by decide, by decide⟩
  exact ⟨_, _, [], _, isCodeOf_ae.1, isCodeOf_ae.2, hpair⟩

/-- The text of `a` and of U+00E6. -/
theorem encode_decode_iff_ae :
    ((do
      let t ← setup EncodingTable.get
      let text ← Euc.decode t [[0x61], [0xa9, 0xdc]].flatten
      Euc.encode t text) = .ok [[0x61], [0xa9, 0xdc]].flatten ↔
        ([[0x61], [0xa9, 0xdc]] : List Bytes).IsChain fun e e' => ¬ IsFused e e') ∧
    ∀ es' : List Bytes, (∀ e ∈ es', IsListedCode e) →
      (([[0x61], [0xa9, 0xdc]] : List Bytes).IsChain fun e e' => ¬ IsFused e e') →
      (es'.IsChain fun e e' => ¬ IsFused e e') →
      (do
        let t ← setup EncodingTable.get
        Euc.decode t [[0x61], [0xa9, 0xdc]].flatten) = (do
        let t ← setup EncodingTable.get
        Euc.decode t es'.flatten) → [[0x61], [0xa9, 0xdc]].flatten = es'.flatten :=
  encode_decode_iff (List.forall_mem_cons.mpr ⟨⟨_, .ascii (by decide)⟩,
    List.forall_mem_singleton.mpr ⟨_, isCodeOf_ae.1⟩⟩)

/-- The codes of U+00E6 and U+0300 do not come back. -/
theorem not_encode_decode_ae :
    ¬ ∀ es : List Bytes, (∀ e ∈ es, IsListedCode e) →
      (do
        let t ← setup EncodingTable.get
        let text ← Euc.decode t es.flatten
        Euc.encode t text) = .ok es.flatten := by
  intro h
  have hlisted : ∀ e ∈ ([[0xa9, 0xdc], [0xab, 0xdc]] : List Bytes), IsListedCode e :=
    List.forall_mem_cons.mpr ⟨⟨_, isCodeOf_ae.1⟩,
      List.forall_mem_singleton.mpr ⟨_, isCodeOf_ae.2⟩⟩
  have hcode := h _ hlisted
  rw [setup_get, Outcome.ok_bind, Euc.decode_eq, Outcome.ok_bind, Euc.encode_eq,
    Outcome.ok.injEq, encoded_decoded_iff hlisted, List.isChain_pair] at hcode
  exact hcode isFused_ae

end Yaskkserv2
