import Yaskkserv2.Framework.Correspondence
import Yaskkserv2.Properties.CodeTexts

/-!
# A text and its transcoding

A text of listed codes, no two of them fused, and the UTF-8 text that `Euc::decode` makes of it
determine each other (`isTranscoding_biUnique`).  ASCII is the same in both, and no byte of another
code or character is ASCII, so the two can be cut and joined at every ASCII byte
(`isTranscoding_respects`).
-/

namespace Yaskkserv2

open Framework EncodingTable EncodingTables

/-! ## Codes of more than one byte -/

/-- Neither a code of more than one byte nor its characters hold an ASCII byte. -/
lemma IsListedCode.cases {e : Bytes} (h : IsListedCode e) :
    (∃ b ≤ 0x7f, e = [b] ∧ Euc.decoded shippedTables e = [b]) ∨
    (2 ≤ e.length ∧ ∀ b ∈ e, 0x7f < b) ∧ 2 ≤ (Euc.decoded shippedTables e).length ∧
      ∀ b ∈ Euc.decoded shippedTables e, 0x7f < b := by
  have hcode : ∀ {e : Bytes}, IsCode e → 2 ≤ e.length ∧ ∀ b ∈ e, 0x7f < b := by
    have hlead : ∀ b : UInt8, Euc.IsLead2 b → 0x7f < b := by decide +kernel
    have htrail : ∀ b : UInt8, IsTrail b → 0x7f < b := by decide +kernel
    intro e he
    rcases he.cases with ⟨b₀, b₁, rfl, h0, h1⟩ | ⟨b₁, b₂, rfl, h1, h2⟩
    · exact ⟨le_rfl, by simp [hlead _ h0, htrail _ h1]⟩
    · exact ⟨by simp, by simp [htrail _ h1, htrail _ h2]⟩
  have hcharacter : ∀ {c : Bytes}, IsMultibyte c → 2 ≤ c.length ∧ ∀ b ∈ c, 0x7f < b := by
    have hlead : ∀ b : UInt8, 0xc2 ≤ b → 0x7f < b := by decide +kernel
    have hnext : ∀ b : UInt8, isContinuation b = true → 0x7f < b := by decide +kernel
    intro c hc
    rcases hc.cases with ⟨b₀, b₁, rfl, h0, h1⟩ | ⟨b₀, b₁, b₂, rfl, h0, h1, h2⟩ |
      ⟨b₀, b₁, b₂, b₃, rfl, h0, h1, h2, h3⟩
    · exact ⟨le_rfl, by simp [hlead _ h0.1, hnext _ h1]⟩
    · have hlow := hlead b₀ (UInt8.le_trans (by decide) h0.1)
      exact ⟨by simp, by simp [hlow, hnext _ h1, hnext _ h2]⟩
    · have hlow := hlead b₀ (UInt8.le_trans (by decide) h0.1)
      exact ⟨by simp, by simp [hlow, hnext _ h1, hnext _ h2, hnext _ h3]⟩
  obtain ⟨cs, h⟩ := h
  have hdecoded := h.decoded_eq
  cases h with
  | ascii hb => exact .inl ⟨_, hb, rfl, hdecoded⟩
  | character he hmem =>
    obtain ⟨-, -, hc, -⟩ := row_of_mem_singles hmem he
    rw [hdecoded, List.flatten_singleton]
    exact .inr ⟨hcode he, hcharacter hc⟩
  | combination hmem =>
    obtain ⟨-, hcombination, -⟩ := row_of_mem_combinations hmem
    obtain ⟨hlen, hfirst⟩ := hcharacter hcombination.first
    obtain ⟨-, hsecond⟩ := hcharacter hcombination.second
    refine .inr ⟨hcode hcombination.isCode, ?_⟩
    rw [hdecoded]
    constructor
    · simp only [List.flatten_cons, List.length_append]
      omega
    · simp only [List.flatten_cons, List.flatten_nil, List.append_nil, List.mem_append]
      rintro b (hb | hb)
      · exact hfirst b hb
      · exact hsecond b hb

/-- An ASCII byte makes up the code that it is in, and the text of that code. -/
lemma IsListedCode.eq_singleton {e : Bytes} (h : IsListedCode e) {b : UInt8} (hb : b ≤ 0x7f) :
    (b ∈ e → e = [b]) ∧ (b ∈ Euc.decoded shippedTables e → e = [b]) := by
  rcases h.cases with ⟨c, -, rfl, hdecoded⟩ | ⟨⟨-, he⟩, -, hdecoded⟩
  · rw [hdecoded]
    constructor <;>
    · intro hmem
      rw [List.mem_singleton.mp hmem]
  · exact ⟨fun hmem => absurd (he b hmem) (UInt8.not_lt.mpr hb),
      fun hmem => absurd (hdecoded b hmem) (UInt8.not_lt.mpr hb)⟩

/-- An ASCII byte is fused with nothing. -/
lemma not_isFused_ascii {b : UInt8} (hb : b ≤ 0x7f) (e : Bytes) :
    ¬ IsFused [b] e ∧ ¬ IsFused e [b] := by
  have hmultibyte : ¬ IsMultibyte [b] := fun h => h
  have hascii : ∀ {c cs}, IsCodeOf [b] (c :: cs) → c = [b] := fun h =>
    h.head_unique (.ascii hb)
  constructor
  · rintro ⟨c, c', cs', e'', hc, -, hmem⟩
    obtain ⟨-, hcombination, -⟩ := row_of_mem_combinations hmem
    exact hmultibyte (hascii hc ▸ hcombination.first)
  · rintro ⟨c, c', cs', e'', -, hc', hmem⟩
    obtain ⟨-, hcombination, -⟩ := row_of_mem_combinations hmem
    exact hmultibyte (hascii hc' ▸ hcombination.second)

/-! ## The correspondence -/

/-- A text of listed codes, no two of them fused. -/
structure IsCodeText (es : List Bytes) : Prop where
  listed : ∀ e ∈ es, IsListedCode e
  chain : es.IsChain fun e e' => ¬ IsFused e e'

/-- A text of codes and what it is decoded to. -/
def IsTranscoding (x y : Bytes) : Prop :=
  ∃ es, IsCodeText es ∧ es.flatten = x ∧ (es.map (Euc.decoded shippedTables)).flatten = y

lemma flatten_map_decoded {es : List Bytes} (h : ∀ e ∈ es, IsListedCode e) :
    (es.map (Euc.decoded shippedTables)).flatten = Euc.decoded shippedTables es.flatten := by
  induction es with
  | nil => exact (translit_nil _).symm
  | cons e es ih =>
    obtain ⟨⟨cs, hcs⟩, hes⟩ := List.forall_mem_cons.mp h
    rw [List.map_cons, List.flatten_cons, List.flatten_cons, hcs.decoded_append, ih hes,
      hcs.decoded_eq]

lemma IsTranscoding.decoded_eq {x y : Bytes} (h : IsTranscoding x y) :
    Euc.decoded shippedTables x = y := by
  obtain ⟨es, hes, rfl, rfl⟩ := h
  exact (flatten_map_decoded hes.listed).symm

lemma IsTranscoding.encoded_eq {x y : Bytes} (h : IsTranscoding x y) :
    Euc.encoded shippedTables y = x := by
  have hdecoded := h.decoded_eq
  obtain ⟨es, hes, rfl, -⟩ := h
  rw [← hdecoded]
  exact (encoded_decoded_iff hes.listed).mpr hes.chain

/-- A text of listed codes that decoding and encoding leave unchanged. -/
lemma isTranscoding_decoded {es : List Bytes} (h : ∀ e ∈ es, IsListedCode e)
    (hunchanged : Euc.encoded shippedTables (Euc.decoded shippedTables es.flatten) = es.flatten) :
    IsTranscoding es.flatten (Euc.decoded shippedTables es.flatten) :=
  ⟨es, ⟨h, (encoded_decoded_iff h).mp hunchanged⟩, rfl, flatten_map_decoded h⟩

/-- **A text and its transcoding determine each other.** -/
theorem isTranscoding_biUnique : Relator.BiUnique IsTranscoding := by
  constructor
  · intro x x' y h h'
    rw [← h.encoded_eq, ← h'.encoded_eq]
  · intro x y y' h h'
    rw [← h.decoded_eq, ← h'.decoded_eq]

lemma IsCodeText.append_cons {b : UInt8} (hb : b ≤ 0x7f) {es es' : List Bytes}
    (h : IsCodeText es) (h' : IsCodeText es') : IsCodeText (es ++ [b] :: es') := by
  constructor
  · intro e he
    rcases List.mem_append.mp he with he | he
    · exact h.listed e he
    · rcases List.mem_cons.mp he with rfl | he
      · exact ⟨_, .ascii hb⟩
      · exact h'.listed e he
  · rw [List.isChain_append, List.isChain_cons]
    refine ⟨h.chain, ⟨fun e _ => (not_isFused_ascii hb e).1, h'.chain⟩, fun e _ e' he' => ?_⟩
    rw [List.head?_cons, Option.mem_some_iff] at he'
    exact he' ▸ (not_isFused_ascii hb e).2

lemma IsCodeText.of_append_cons {e : Bytes} {es es' : List Bytes}
    (h : IsCodeText (es ++ e :: es')) : IsCodeText es ∧ IsCodeText es' := by
  obtain ⟨hlisted, hchain⟩ := h
  rw [List.isChain_append, List.isChain_cons] at hchain
  exact ⟨⟨fun d hd => hlisted d (List.mem_append_left _ hd), hchain.1⟩,
    ⟨fun d hd => hlisted d (List.mem_append_right _ (List.mem_cons_of_mem e hd)), hchain.2.1.2⟩⟩

/-- **The correspondence respects every ASCII byte.** -/
theorem isTranscoding_respects {b : UInt8} (hb : b ≤ 0x7f) : Respects IsTranscoding b := by
  have hdecoded : Euc.decoded shippedTables [b] = [b] := (IsCodeOf.ascii hb).decoded_eq
  constructor
  case nil => exact ⟨[], ⟨nofun, .nil⟩, rfl, rfl⟩
  case join =>
    rintro - - - - ⟨es, hes, rfl, rfl⟩ ⟨es', hes', rfl, rfl⟩
    refine ⟨es ++ [b] :: es', hes.append_cons hb hes', ?_, ?_⟩
    · simp
    · simp [hdecoded]
  case cut =>
    rintro x x' - ⟨es, hes, hx, rfl⟩
    obtain ⟨es₁, es₂, rfl, rfl, rfl⟩ := exists_of_flatten_eq_append_cons
      (fun e he => ((hes.listed e he).eq_singleton hb).1) hx
    obtain ⟨h₁, h₂⟩ := hes.of_append_cons
    exact ⟨_, _, by simp [hdecoded], ⟨es₁, h₁, rfl, rfl⟩, ⟨es₂, h₂, rfl, rfl⟩⟩
  case cut_right =>
    rintro - y y' ⟨es, hes, rfl, hy⟩
    have hsingle : ∀ d ∈ es.map (Euc.decoded shippedTables), b ∈ d → d = [b] := by
      intro d hd hmem
      obtain ⟨e, he, rfl⟩ := List.mem_map.mp hd
      rw [((hes.listed e he).eq_singleton hb).2 hmem, hdecoded]
    obtain ⟨ds₁, ds₂, hds, rfl, rfl⟩ := exists_of_flatten_eq_append_cons hsingle hy
    obtain ⟨es₁, es', rfl, rfl, hes'⟩ := List.map_eq_append_iff.mp hds
    obtain ⟨e, es₂, rfl, he, rfl⟩ := List.map_eq_cons_iff.mp hes'
    obtain rfl : e = [b] := by
      have hlisted := hes.listed e (List.mem_append_right _ List.mem_cons_self)
      exact (hlisted.eq_singleton hb).2 (he ▸ List.mem_singleton_self b)
    obtain ⟨h₁, h₂⟩ := hes.of_append_cons
    exact ⟨_, _, by simp, ⟨es₁, h₁, rfl, rfl⟩, ⟨es₂, h₂, rfl, rfl⟩⟩

/-- A text of two bytes or more has two or more in both encodings. -/
lemma IsTranscoding.two_le_length_iff {x y : Bytes} (h : IsTranscoding x y) :
    2 ≤ x.length ↔ 2 ≤ y.length := by
  have hpos : ∀ {e : Bytes}, IsListedCode e →
      1 ≤ e.length ∧ 1 ≤ (Euc.decoded shippedTables e).length := by
    intro e he
    rcases he.cases with ⟨b, -, rfl, hb⟩ | ⟨⟨hlen, -⟩, hlen', -⟩
    · rw [hb]
      exact ⟨le_rfl, le_rfl⟩
    · omega
  obtain ⟨es, hes, rfl, rfl⟩ := h
  match es, hes.listed with
  | [], _ => rfl
  | [e], hlisted =>
    rcases (hlisted e List.mem_cons_self).cases with ⟨b, -, rfl, hb⟩ | ⟨⟨hlen, -⟩, hlen', -⟩
    · simp [hb]
    · simp [hlen, hlen']
  | e :: e' :: es, hlisted =>
    have he := hpos (hlisted e List.mem_cons_self)
    have he' := hpos (hlisted e' (List.mem_cons_of_mem e List.mem_cons_self))
    simp only [List.flatten_cons, List.map_cons, List.length_append]
    omega

/-- A correspondence of texts that agree on ASCII. -/
structure IsSpelling (R : Bytes → Bytes → Prop) : Prop where
  biUnique : Relator.BiUnique R
  respects {b : UInt8} (hb : b ≤ 0x7f) : Respects R b
  two_le_length_iff {x y : Bytes} (h : R x y) : 2 ≤ x.length ↔ 2 ≤ y.length

lemma IsSpelling.flip {R : Bytes → Bytes → Prop} (h : IsSpelling R) : IsSpelling (flip R) where
  biUnique := ⟨fun _ _ _ hxy hxy' => h.biUnique.2 hxy hxy', h.biUnique.1.flip⟩
  respects hb := (h.respects hb).flip
  two_le_length_iff hxy := (h.two_le_length_iff hxy).symm

theorem isSpelling_isTranscoding : IsSpelling IsTranscoding :=
  ⟨isTranscoding_biUnique, isTranscoding_respects, IsTranscoding.two_le_length_iff⟩

/-! ## The transcoding is UTF-8 -/

/-- A row whose character is no overlong form, no surrogate and not past the last plane. -/
def isUtf8Row (n : ℕ) : Bool :=
  !Nat.beq (digit n 3) 0xe0 && !Nat.beq (digit n 3) 0xed && Nat.ble (digit n 3) 0xf0 &&
    (!Nat.beq (digit n 3) 0xf0 || Nat.ble 0x90 (digit n 2))

theorem isUtf8Row_eucUtf8 : eucUtf8.all isUtf8Row = true := by
  decide +kernel

lemma isUtf8Character_of_isMultibyte {c : Bytes} (hc : IsMultibyte c) (he0 : c.headD 0 ≠ 0xe0)
    (hed : c.headD 0 ≠ 0xed) (hlast : c.headD 0 ≤ 0xf0)
    (hf0 : c.headD 0 = 0xf0 → 0x90 ≤ c.getD 1 0) : IsUtf8Character c := by
  rcases hc.cases with ⟨b₀, b₁, rfl, h0, h1⟩ | ⟨b₀, b₁, b₂, rfl, h0, h1, h2⟩ |
    ⟨b₀, b₁, b₂, b₃, rfl, h0, h1, h2, h3⟩
  · exact ⟨h0, h1⟩
  · exact ⟨h0, h1, h2, .inl he0, .inl hed⟩
  · obtain rfl : b₀ = 0xf0 := UInt8.le_antisymm hlast h0.1
    exact ⟨⟨by decide, by decide⟩, h1, h2, h3, .inr (hf0 rfl), .inl (by decide)⟩

lemma isUtf8Character_of_mem_singles {e c : Bytes} (he : IsCode e) (h : (e, c) ∈ singles) :
    IsUtf8Character c := by
  obtain ⟨n, hn, hc, -, -, hutf8⟩ := row_of_mem_singles h he
  have hrow := List.all_eq_true.mp isUtf8Row_eucUtf8 n hn
  have hbytes : byteAt n 3 = c.headD 0 ∧ byteAt n 2 = c.getD 1 0 := by
    rw [utf8_eq] at hutf8
    rcases hc.cases with ⟨b₀, b₁, rfl, -⟩ | ⟨b₀, b₁, b₂, rfl, -⟩ | ⟨b₀, b₁, b₂, b₃, rfl, -⟩ <;>
    · simp only [pad, List.cons_append, List.cons.injEq] at hutf8
      exact ⟨hutf8.1, hutf8.2.1⟩
  simp only [isUtf8Row, Bool.and_eq_true, Bool.or_eq_true, Bool.not_eq_true',
    ← Bool.not_eq_true, Nat.beq_eq, Nat.ble_eq] at hrow
  obtain ⟨⟨⟨he0, hed⟩, hlast⟩, hf0⟩ := hrow
  refine isUtf8Character_of_isMultibyte hc ?_ ?_ ?_ ?_ <;> rw [← hbytes.1]
  · exact mt byteAt_eq_iff.mp he0
  · exact mt byteAt_eq_iff.mp hed
  · exact byteAt_le_iff.mpr hlast
  · intro heq
    rw [← hbytes.2]
    exact le_byteAt_iff.mpr (hf0.resolve_left (not_not.mpr (byteAt_eq_iff.mp heq)))

lemma isUtf8Character_of_mem_combinations {e c c' : Bytes} (h : (e, c, c') ∈ combinations) :
    IsUtf8Character c ∧ IsUtf8Character c' := by
  have hlead : ∀ n ∈ eucUtf8Combine, byteAt n 7 ≠ 0xe0 ∧ byteAt n 7 ≠ 0xed := by decide +kernel
  obtain ⟨n, hcombination, hrow⟩ := row_of_mem_combinations h
  rcases hcombination.bytes with ⟨a₀, a₁, a₂, a₃, rfl, rfl, -⟩ | ⟨⟨a₀, a₁, a₂, rfl⟩, rfl⟩
  · exact ⟨hcombination.first, hcombination.second⟩
  · obtain ⟨he0, hed⟩ := hlead n hrow.mem
    have hfirst := hrow.first
    rw [utf8_eq, byteAt_shiftRight] at hfirst
    rw [(List.cons_eq_cons.mp hfirst).1] at he0 hed
    obtain ⟨h0, h1, h2⟩ := hcombination.first
    exact ⟨⟨h0, h1, h2, .inl he0, .inl hed⟩, by simp [IsUtf8Character, isContinuation]⟩

/-- **A text of listed codes is decoded to UTF-8.** -/
theorem IsTranscoding.isUtf8 {x y : Bytes} (h : IsTranscoding x y) : isUtf8 y = true := by
  obtain ⟨es, ⟨hlisted, -⟩, -, rfl⟩ := h
  induction es with
  | nil => rfl
  | cons e es ih =>
    obtain ⟨⟨cs, hcs⟩, hes⟩ := List.forall_mem_cons.mp hlisted
    rw [List.map_cons, List.flatten_cons, hcs.decoded_eq]
    cases hcs with
    | ascii hb =>
      rw [List.flatten_singleton, isUtf8_append (show IsUtf8Character [_] from hb), ih hes]
    | character he hmem =>
      rw [List.flatten_singleton, isUtf8_append (isUtf8Character_of_mem_singles he hmem), ih hes]
    | combination hmem =>
      obtain ⟨hc, hc'⟩ := isUtf8Character_of_mem_combinations hmem
      rw [List.flatten_cons, List.flatten_singleton, List.append_assoc, isUtf8_append hc,
        isUtf8_append hc', ih hes]

end Yaskkserv2
