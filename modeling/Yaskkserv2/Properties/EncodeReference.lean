import Yaskkserv2.Properties.ListedCodes

/-!
# `Euc::encode` against the table

The reference encoder goes through the characters of a text from left to right and writes the code
of a listed combination, else the code of a listed character, else the escape of the character.
`encode_eq_referenceEncode_iff` says when `Euc::encode` writes the same: when no character of the
text is folded onto a listed one, without being listed itself.  The vector of three-byte
characters leaves out a gap; the two sides of the gap overlap once the minimum is subtracted.
-/

namespace Yaskkserv2

open Framework EncodingTable EncodingTables

/-! ## Characters -/

/-- The well-formed byte sequences of one character. -/
def IsUtf8Character : Bytes → Prop
  | [b₀] => b₀ ≤ 0x7f
  | [b₀, b₁] => (0xc2 ≤ b₀ ∧ b₀ ≤ 0xdf) ∧ isContinuation b₁
  | [b₀, b₁, b₂] =>
    (0xe0 ≤ b₀ ∧ b₀ ≤ 0xef) ∧ isContinuation b₁ ∧ isContinuation b₂ ∧
      (b₀ ≠ 0xe0 ∨ 0xa0 ≤ b₁) ∧ (b₀ ≠ 0xed ∨ b₁ ≤ 0x9f)
  | [b₀, b₁, b₂, b₃] =>
    (0xf0 ≤ b₀ ∧ b₀ ≤ 0xf4) ∧ isContinuation b₁ ∧ isContinuation b₂ ∧ isContinuation b₃ ∧
      (b₀ ≠ 0xf0 ∨ 0x90 ≤ b₁) ∧ (b₀ ≠ 0xf4 ∨ b₁ ≤ 0x8f)
  | _ => False

/-- A character as `Euc::encode` splits a text: an ASCII byte, or a lead byte with its
continuation bytes. -/
def IsCharacter (c : Bytes) : Prop := (∃ b ≤ 0x7f, c = [b]) ∨ IsMultibyte c

lemma IsUtf8Character.isCharacter {c : Bytes} (h : IsUtf8Character c) : IsCharacter c := by
  match c, h with
  | [b], h => exact .inl ⟨b, h, rfl⟩
  | [_, _], h => exact .inr h
  | [_, _, _], h => exact .inr ⟨h.1, h.2.1, h.2.2.1⟩
  | [_, _, _, _], h =>
    exact .inr ⟨⟨h.1.1, UInt8.le_trans h.1.2 (by decide)⟩, h.2.1, h.2.2.1, h.2.2.2.1⟩

/-- A character in front of a text does not change whether it is UTF-8. -/
lemma isUtf8_append {c : Bytes} (h : IsUtf8Character c) (rest : Bytes) :
    isUtf8 (c ++ rest) = isUtf8 rest := by
  match c, h with
  | [b], h =>
    have hb : ∀ b' ∈ [b], b' ≤ 0x7f := fun b' hb' => List.mem_singleton.mp hb' ▸ h
    exact isUtf8_append_ascii hb
  | [b₀, b₁], ⟨h0, h1⟩ =>
    have hascii : ¬ b₀ ≤ 0x7f := fun hc => absurd (UInt8.le_trans h0.1 hc) (by decide)
    change isUtf8 (b₀ :: b₁ :: rest) = _
    rw [isUtf8.eq_def]
    simp [hascii, h0, h1]
  | [b₀, b₁, b₂], ⟨h0, h1, h2, h3, h4⟩ =>
    have hascii : ¬ b₀ ≤ 0x7f := fun hc => absurd (UInt8.le_trans h0.1 hc) (by decide)
    have htwo : ¬ (0xc2 ≤ b₀ ∧ b₀ ≤ 0xdf) := fun hc =>
      absurd (UInt8.le_trans h0.1 hc.2) (by decide)
    change isUtf8 (b₀ :: b₁ :: b₂ :: rest) = _
    rw [isUtf8.eq_def]
    simp [hascii, htwo, h0, h1, h2, h3, h4]
  | [b₀, b₁, b₂, b₃], ⟨h0, h1, h2, h3, h4, h5⟩ =>
    have hascii : ¬ b₀ ≤ 0x7f := fun hc => absurd (UInt8.le_trans h0.1 hc) (by decide)
    have htwo : ¬ (0xc2 ≤ b₀ ∧ b₀ ≤ 0xdf) := fun hc =>
      absurd (UInt8.le_trans h0.1 hc.2) (by decide)
    have hthree : ¬ (0xe0 ≤ b₀ ∧ b₀ ≤ 0xef) := fun hc =>
      absurd (UInt8.le_trans h0.1 hc.2) (by decide)
    change isUtf8 (b₀ :: b₁ :: b₂ :: b₃ :: rest) = _
    rw [isUtf8.eq_def]
    simp [hascii, htwo, hthree, h0, h1, h2, h3, h4, h5]

/-! ## The reference -/

/-- The code that the table lists for a character. -/
def codeOf? (c : Bytes) : Option Bytes := (singles.find? fun r => r.2 = c).map (·.1)

/-- The code that the table lists for a combination. -/
def codeOfPair? (c c' : Bytes) : Option Bytes :=
  (combinations.find? fun r => r.2 = (c, c')).map (·.1)

/-- What the reference writes for a character by itself. -/
def referenceCharacter (c : Bytes) : Bytes := (codeOf? c).getD (escape c)

/-- The reference encoder, on the characters of a text. -/
def referenceEncode : List Bytes → Bytes
  | [] => []
  | [c] => referenceCharacter c
  | c :: c' :: cs =>
    match codeOfPair? c c' with
    | some e => e ++ referenceEncode cs
    | none => referenceCharacter c ++ referenceEncode (c' :: cs)

/-- A character of three bytes that the table does not list, and that the encoder folds onto a
listed one. -/
def IsFolded (c : Bytes) : Prop :=
  (∀ e, (e, c) ∉ singles) ∧
    ∃ b₀ b₁ b₂ e d₀ d₁ d₂, c = [b₀, b₁, b₂] ∧ (e, [d₀, d₁, d₂]) ∈ singles ∧
      Euc.AreFolded (codePoint b₀ b₁ b₂) (codePoint d₀ d₁ d₂)

/-! ## A step of the source on a text -/

lemma IsCharacter.ne_nil {c : Bytes} (h : IsCharacter c) : c ≠ [] := by
  rintro rfl
  rcases h with ⟨b, -, hb⟩ | h
  · exact absurd hb (by simp)
  · exact h

/-- The number of bytes of the character that a byte leads. -/
def characterLength (b : UInt8) : ℕ :=
  if b ≤ 0x7f then 1 else if b ≤ 0xdf then 2 else if b ≤ 0xef then 3 else 4

lemma IsCharacter.length_eq {c : Bytes} (h : IsCharacter c) :
    c.length = characterLength (c.headD 0) := by
  rcases h with ⟨b, hb, rfl⟩ | h
  · exact (if_pos hb).symm
  rcases h.cases with ⟨b₀, b₁, rfl, h0, -⟩ | ⟨b₀, b₁, b₂, rfl, h0, -⟩ |
    ⟨b₀, b₁, b₂, b₃, rfl, h0, -⟩
  · have hascii : ¬ b₀ ≤ 0x7f := fun hc => absurd (UInt8.le_trans h0.1 hc) (by decide)
    simp [characterLength, hascii, h0.2]
  · have hascii : ¬ b₀ ≤ 0x7f := fun hc => absurd (UInt8.le_trans h0.1 hc) (by decide)
    have htwo : ¬ b₀ ≤ 0xdf := fun hc => absurd (UInt8.le_trans h0.1 hc) (by decide)
    simp [characterLength, hascii, htwo, h0.2]
  · have hascii : ¬ b₀ ≤ 0x7f := fun hc => absurd (UInt8.le_trans h0.1 hc) (by decide)
    have htwo : ¬ b₀ ≤ 0xdf := fun hc => absurd (UInt8.le_trans h0.1 hc) (by decide)
    have hthree : ¬ b₀ ≤ 0xef := fun hc => absurd (UInt8.le_trans h0.1 hc) (by decide)
    simp [characterLength, hascii, htwo, hthree]

/-- No character is the beginning of another one. -/
lemma IsCharacter.append_inj {c d r r' : Bytes} (hc : IsCharacter c) (hd : IsCharacter d)
    (h : c ++ r = d ++ r') : c = d ∧ r = r' := by
  have hhead : c.headD 0 = d.headD 0 := by
    have hhead := congrArg (List.headD · 0) h
    rcases c with _ | ⟨a, c⟩
    · exact absurd rfl hc.ne_nil
    rcases d with _ | ⟨b, d⟩
    · exact absurd rfl hd.ne_nil
    exact hhead
  exact List.append_inj h (by rw [hc.length_eq, hd.length_eq, hhead])

lemma codeOfPair?_eq_some {c c' e : Bytes} (h : codeOfPair? c c' = some e) :
    (e, c, c') ∈ combinations := by
  obtain ⟨r, hr, rfl⟩ := Option.map_eq_some_iff.mp h
  have hpair : r.2 = (c, c') := by simpa using List.find?_some hr
  have hmem := List.mem_of_find?_eq_some hr
  rwa [← hpair]

lemma codeOfPair?_eq_none {c c' : Bytes} (h : codeOfPair? c c' = none) (e : Bytes) :
    (e, c, c') ∉ combinations := by
  intro hmem
  have hfind := Option.map_eq_none_iff.mp h
  simpa using List.find?_eq_none.mp hfind (e, c, c') hmem

/-- The code of the combination that a character makes with the first one of a text. -/
def codeOfNext? (c : Bytes) (cs : List Bytes) : Option Bytes := cs.head?.bind (codeOfPair? c)

namespace Euc

variable {c : Bytes} {cs : List Bytes}

lemma codeOfNext?_eq_some {e : Bytes} (h : codeOfNext? c cs = some e) :
    ∃ c' cs', cs = c' :: cs' ∧ (e, c, c') ∈ combinations := by
  cases cs with
  | nil => exact absurd h (by simp [codeOfNext?])
  | cons c' cs' => exact ⟨c', cs', rfl, codeOfPair?_eq_some h⟩

/-- Where the text goes on with a character that makes no combination, no listed combination
begins it. -/
lemma codeOfNext?_eq_none (h : codeOfNext? c cs = none) (hc : IsCharacter c)
    (hcs : ∀ c ∈ cs, IsCharacter c) {e d d' rest : Bytes} (hmem : (e, d, d') ∈ combinations) :
    c ++ cs.flatten ≠ (d ++ d') ++ rest := by
  intro heq
  obtain ⟨-, hcombination, -⟩ := row_of_mem_combinations hmem
  have hd : IsCharacter d := .inr hcombination.first
  have hd' : IsCharacter d' := .inr hcombination.second
  rw [List.append_assoc] at heq
  obtain ⟨rfl, hrest⟩ := hc.append_inj hd heq
  cases cs with
  | nil => exact hd'.ne_nil (List.append_eq_nil_iff.mp hrest.symm).1
  | cons c' cs =>
    obtain ⟨rfl, -⟩ := (hcs c' List.mem_cons_self).append_inj hd' hrest
    exact codeOfPair?_eq_none h e hmem

lemma combine6_flatten (hlen : c.length = 3) (hc : IsCharacter c)
    (hcs : ∀ c ∈ cs, IsCharacter c) :
    combine6 shippedTables (c ++ cs.flatten) = (codeOfNext? c cs).map (pad 3) := by
  cases h : codeOfNext? c cs with
  | some e =>
    obtain ⟨c', cs', rfl, hmem⟩ := codeOfNext?_eq_some h
    obtain ⟨-, hcombination, -⟩ := row_of_mem_combinations hmem
    have hmap : shippedTables.combineUtf86ToEucMap (c ++ c') = some (pad 3 e) :=
      combineUtf86ToEucMap_eq_some_iff.mpr ⟨e, c, c', hmem, by omega, rfl, rfl⟩
    rcases hcombination.bytes with ⟨_, _, _, _, rfl, -⟩ | ⟨⟨a₀, a₁, a₂, rfl⟩, rfl⟩
    · exact absurd hlen (by simp)
    · have hmark : 6 ≤ ([a₀, a₁, a₂] ++ ([0xe3, 0x82, 0x9a] :: cs').flatten).length ∧
          ([a₀, a₁, a₂] ++ ([0xe3, 0x82, 0x9a] :: cs').flatten).getD 4 0 = 0x82 ∧
          ([a₀, a₁, a₂] ++ ([0xe3, 0x82, 0x9a] :: cs').flatten).getD 5 0 = 0x9a := by
        refine ⟨?_, rfl, rfl⟩
        simp
      have hkey : ([a₀, a₁, a₂] ++ ([0xe3, 0x82, 0x9a] :: cs').flatten).take 6 =
          [a₀, a₁, a₂] ++ [0xe3, 0x82, 0x9a] := rfl
      rw [combine6, if_pos hmark, hkey, hmap, Option.map_some]
  | none =>
    refine Option.eq_none_iff_forall_ne_some.mpr fun v hv => ?_
    unfold combine6 at hv
    split_ifs at hv with hmark
    obtain ⟨e, d, d', hmem, -, hkey, -⟩ := combineUtf86ToEucMap_eq_some_iff.mp hv
    exact codeOfNext?_eq_none h hc hcs hmem
      ((List.take_append_drop 6 _).symm.trans (congrArg (· ++ _) hkey))

lemma combine4_flatten (hlen : c.length = 2) (hc : IsCharacter c)
    (hcs : ∀ c ∈ cs, IsCharacter c) :
    combine4 shippedTables (c ++ cs.flatten) = (codeOfNext? c cs).map (pad 3) := by
  cases h : codeOfNext? c cs with
  | some e =>
    obtain ⟨c', cs', rfl, hmem⟩ := codeOfNext?_eq_some h
    obtain ⟨-, hcombination, -⟩ := row_of_mem_combinations hmem
    have hmap : shippedTables.combineUtf84ToEucMap (c ++ c') = some (pad 3 e) :=
      combineUtf84ToEucMap_eq_some_iff.mpr ⟨e, c, c', hmem, hlen, rfl, rfl⟩
    rcases hcombination.bytes with ⟨a₀, a₁, a₂, a₃, rfl, rfl, hsecond⟩ | ⟨⟨a₀, a₁, a₂, rfl⟩, -⟩
    · have hmark : 4 ≤ ([a₀, a₁] ++ ([a₂, a₃] :: cs').flatten).length ∧
          (([a₀, a₁] ++ ([a₂, a₃] :: cs').flatten).getD 2 0 = 0xcc ∨
            ([a₀, a₁] ++ ([a₂, a₃] :: cs').flatten).getD 2 0 = 0xcb) := by
        refine ⟨?_, hsecond⟩
        simp
      have hkey : ([a₀, a₁] ++ ([a₂, a₃] :: cs').flatten).take 4 = [a₀, a₁] ++ [a₂, a₃] := rfl
      rw [combine4, if_pos hmark, hkey, hmap, Option.map_some]
    · exact absurd hlen (by simp)
  | none =>
    refine Option.eq_none_iff_forall_ne_some.mpr fun v hv => ?_
    unfold combine4 at hv
    split_ifs at hv with hmark
    obtain ⟨e, d, d', hmem, -, hkey, -⟩ := combineUtf84ToEucMap_eq_some_iff.mp hv
    exact codeOfNext?_eq_none h hc hcs hmem
      ((List.take_append_drop 4 _).symm.trans (congrArg (· ++ _) hkey))

variable {c : Bytes} {cs : List Bytes}

/-- What `Euc::encode` writes for a character that makes no combination with the next one. -/
def encodeCharacter (t : EncodingTables) (c : Bytes) : Bytes :=
  match c with
  | [b] => [b]
  | [b₀, b₁, b₂] => encode3 t b₀ b₁ b₂
  | c => encode24 t c

/-- A turn of `Euc::encode` at a character that makes no combination. -/
lemma encodeNext_of_eq_none (hc : IsCharacter c) (hcs : ∀ c ∈ cs, IsCharacter c)
    (h : codeOfNext? c cs = none) :
    encodeNext shippedTables (c ++ cs.flatten) = (encodeCharacter shippedTables c, c.length) := by
  have hc' := hc
  rcases hc with ⟨b, hb, rfl⟩ | hc
  · have hlead : ¬ 0xe0 ≤ b := fun hc => absurd (UInt8.le_trans hc hb) (by decide)
    simp [encodeNext, hlead, hb, encodeCharacter]
  rcases hc.cases with ⟨b₀, b₁, rfl, h0, h1⟩ | ⟨b₀, b₁, b₂, rfl, h0, h1, h2⟩ |
    ⟨b₀, b₁, b₂, b₃, rfl, h0, h1, h2, h3⟩
  · have hcombine := combine4_flatten rfl hc' hcs
    rw [h, Option.map_none] at hcombine
    have hthree : ¬ 0xe0 ≤ b₀ := fun hc => absurd (UInt8.le_trans hc h0.2) (by decide)
    have hascii : ¬ b₀ ≤ 0x7f := fun hc => absurd (UInt8.le_trans h0.1 hc) (by decide)
    rw [encodeNext, hcombine]
    simp [hthree, hascii, h0, h1, encodeCharacter]
  · have hcombine := combine6_flatten rfl hc' hcs
    rw [h, Option.map_none] at hcombine
    rw [encodeNext, hcombine]
    simp [h0, h1, h2, encodeCharacter]
  · have hthree : ¬ b₀ ≤ 0xef := fun hc => absurd (UInt8.le_trans h0.1 hc) (by decide)
    have hascii : ¬ b₀ ≤ 0x7f := fun hc => absurd (UInt8.le_trans h0.1 hc) (by decide)
    have htwo : ¬ b₀ ≤ 0xdf := fun hc => absurd (UInt8.le_trans h0.1 hc) (by decide)
    simp [encodeNext, hthree, hascii, htwo, h0, h1, h2, h3, encodeCharacter]

/-- A turn of `Euc::encode` at a combination. -/
lemma encodeNext_of_mem {c' e : Bytes} (hcs : ∀ c ∈ cs, IsCharacter c)
    (h : codeOfPair? c c' = some e) :
    encodeNext shippedTables (c ++ (c' ++ cs.flatten)) = (e, (c ++ c').length) := by
  have hmem := codeOfPair?_eq_some h
  obtain ⟨-, hcombination, -⟩ := row_of_mem_combinations hmem
  have hc : IsCharacter c := .inr hcombination.first
  have hall : ∀ d ∈ c' :: cs, IsCharacter d :=
    List.forall_mem_cons.mpr ⟨.inr hcombination.second, hcs⟩
  have hnext : codeOfNext? c (c' :: cs) = some e := h
  have hpush := hcombination.isCode.pushToBufferEuc_pad
  rcases hcombination.bytes with ⟨a₀, a₁, a₂, a₃, rfl, rfl, -⟩ | ⟨⟨a₀, a₁, a₂, rfl⟩, rfl⟩
  · have hcombine := combine4_flatten rfl hc hall
    rw [hnext, List.flatten_cons] at hcombine
    obtain ⟨h0, h1⟩ := hcombination.first
    have hthree : ¬ 0xe0 ≤ a₀ := fun hc => absurd (UInt8.le_trans hc h0.2) (by decide)
    have hascii : ¬ a₀ ≤ 0x7f := fun hc => absurd (UInt8.le_trans h0.1 hc) (by decide)
    rw [encodeNext, hcombine]
    simp [hthree, hascii, h0, h1, hpush]
  · have hcombine := combine6_flatten rfl hc hall
    rw [hnext, List.flatten_cons] at hcombine
    obtain ⟨h0, h1, h2⟩ := hcombination.first
    rw [encodeNext, hcombine]
    simp [h0, h1, h2, hpush]

lemma encoded_cons (hc : IsCharacter c) (hcs : ∀ c ∈ cs, IsCharacter c)
    (h : codeOfNext? c cs = none) :
    encoded shippedTables (c :: cs).flatten =
      encodeCharacter shippedTables c ++ encoded shippedTables cs.flatten :=
  translit_append (encodeNext_of_eq_none hc hcs h) hc.ne_nil

lemma encoded_cons_cons {c' e : Bytes} (hcs : ∀ c ∈ cs, IsCharacter c)
    (h : codeOfPair? c c' = some e) :
    encoded shippedTables (c :: c' :: cs).flatten = e ++ encoded shippedTables cs.flatten := by
  have hne : c ++ c' ≠ [] := by
    obtain ⟨-, hcombination, -⟩ := row_of_mem_combinations (codeOfPair?_eq_some h)
    have hfirst : IsCharacter c := .inr hcombination.first
    exact fun hnil => hfirst.ne_nil (List.append_eq_nil_iff.mp hnil).1
  have hnext := encodeNext_of_mem hcs h
  rw [← List.append_assoc] at hnext
  rw [List.flatten_cons, List.flatten_cons, ← List.append_assoc]
  exact translit_append hnext hne

end Euc

/-! ## The comparison -/

lemma codeOf?_cases (c : Bytes) :
    (∃ e, (e, c) ∈ singles ∧ codeOf? c = some e) ∨ (∀ e, (e, c) ∉ singles) ∧ codeOf? c = none := by
  rw [codeOf?]
  cases hs : singles.find? (fun r => r.2 = c) with
  | some r =>
    have hc : r.2 = c := by simpa using List.find?_some hs
    exact .inl ⟨r.1, hc ▸ List.mem_of_find?_eq_some hs, rfl⟩
  | none =>
    refine .inr ⟨fun e he => ?_, rfl⟩
    simpa using List.find?_eq_none.mp hs (e, c) he

/-- Every ASCII byte has its row. -/
lemma mem_eucUtf8_ascii : ∀ b < 128, b <<< 48 ||| b <<< 24 ∈ eucUtf8.take 160 := by
  decide +kernel

lemma mem_singles_ascii {b : UInt8} (hb : b ≤ 0x7f) : ([b], [b]) ∈ singles := by
  have hlt : b.toNat < 128 := Nat.lt_succ_of_le (UInt8.le_iff_toNat_le.mp hb)
  have hrows : ∀ n < 128, (unpad (euc3 (n <<< 48 ||| n <<< 24)),
      unpad (utf8 (n <<< 48 ||| n <<< 24))) = ([UInt8.ofNat n], [UInt8.ofNat n]) := by
    decide +kernel
  refine List.mem_map.mpr ⟨_, List.mem_of_mem_take (mem_eucUtf8_ascii _ hlt), ?_⟩
  rw [hrows _ hlt, UInt8.ofNat_toNat]

/-- A character that is not folded is written as the reference writes it. -/
lemma encodeCharacter_eq {c : Bytes} (hc : IsCharacter c) (hc1 : ¬ IsC1Control c)
    (h : ¬ IsFolded c) : Euc.encodeCharacter shippedTables c = referenceCharacter c := by
  rw [referenceCharacter]
  rcases hc with ⟨b, hb, rfl⟩ | hc
  · rcases codeOf?_cases [b] with ⟨e, he, hsome⟩ | ⟨hnone, -⟩
    · rcases mem_singles_cases he with ⟨b', -, rfl, hb'⟩ | ⟨b', -, -, hb'⟩ | ⟨-, -, -, hc, -⟩
      · obtain rfl : b = b' := by simpa using hb'
        rw [hsome]
        rfl
      · simp at hb'
      · exact hc.elim
    · exact absurd (mem_singles_ascii hb) (hnone [b])
  have hlisted : ∀ e, (e, c) ∈ singles → Euc.encodeCharacter shippedTables c = e := by
    intro e he
    rcases hc.cases with ⟨b₀, b₁, rfl, -⟩ | ⟨b₀, b₁, b₂, rfl, -⟩ | ⟨b₀, b₁, b₂, b₃, rfl, -⟩
    · exact Euc.encode24_of_mem he hc hc1 (by simp)
    · exact Euc.encode3_of_mem he hc
    · exact Euc.encode24_of_mem he hc hc1 (by simp)
  rcases codeOf?_cases c with ⟨e, he, hsome⟩ | ⟨hsingle, hnone⟩
  · rw [hsome, hlisted e he]
    rfl
  rw [hnone, Option.getD_none]
  rcases hc.cases with ⟨b₀, b₁, rfl, -⟩ | ⟨b₀, b₁, b₂, rfl, -⟩ | ⟨b₀, b₁, b₂, b₃, rfl, -⟩
  · exact Euc.encode24_of_not_mem hc hsingle
  · refine Euc.encode3_of_not_mem hc hsingle fun e d₀ d₁ d₂ hd hfold => h ⟨hsingle, ?_⟩
    exact ⟨b₀, b₁, b₂, e, d₀, d₁, d₂, rfl, hd, hfold⟩
  · exact Euc.encode24_of_not_mem hc hsingle

/-- For a folded character a code is written, and an escape by the reference. -/
lemma encodeCharacter_append_ne {c : Bytes} (hc : IsCharacter c) (h : IsFolded c)
    (rest rest' : Bytes) :
    Euc.encodeCharacter shippedTables c ++ rest ≠ referenceCharacter c ++ rest' := by
  obtain ⟨hsingle, b₀, b₁, b₂, e, d₀, d₁, d₂, rfl, hd, hfold⟩ := h
  have hreference : referenceCharacter [b₀, b₁, b₂] = escape [b₀, b₁, b₂] := by
    rcases codeOf?_cases [b₀, b₁, b₂] with ⟨e, he, -⟩ | ⟨-, hnone⟩
    · exact absurd he (hsingle e)
    · rw [referenceCharacter, hnone]
      rfl
  have hc : IsMultibyte [b₀, b₁, b₂] := by
    rcases hc with ⟨b, -, hb⟩ | hc
    · simp at hb
    · exact hc
  rcases mem_singles_cases hd with ⟨b, -, -, hb⟩ | ⟨b, -, -, hb⟩ | ⟨-, -, he, hd', -⟩
  · simp at hb
  · simp at hb
  have hencode : Euc.encodeCharacter shippedTables [b₀, b₁, b₂] = e :=
    Euc.encode3_of_areFolded hd hc hd' hfold
  rw [hencode, hreference]
  intro heq
  have hhead := congrArg (List.headD · 0) heq
  rcases he.cases with ⟨a₀, a₁, rfl, h0, -⟩ | ⟨a₁, a₂, rfl, -⟩
  · have ha₀ : a₀ = 0x26 := hhead
    subst ha₀
    exact absurd h0 (by decide)
  · have h8f : (0x8f : UInt8) = 0x26 := hhead
    exact absurd h8f (by decide)

/-- The characters of a combination are not folded. -/
lemma not_isFolded_of_mem_combinations {e c c' : Bytes} (h : (e, c, c') ∈ combinations) :
    ¬ IsFolded c ∧ ¬ IsFolded c' := by
  have hlow : ∀ n ∈ eucUtf8Combine,
      codePoint (byteAt n 7) (byteAt n 6) (byteAt n 5) ≤ 0x8165 := by
    decide +kernel
  have hapart : ∀ {p q : ℕ}, p ≤ 0x8165 → ¬ Euc.AreFolded p q := by
    intro p q hp hfold
    unfold Euc.AreFolded at hfold
    omega
  obtain ⟨n, hcombination, hrow⟩ := row_of_mem_combinations h
  rcases hcombination.bytes with ⟨a₀, a₁, a₂, a₃, rfl, rfl, -⟩ | ⟨⟨a₀, a₁, a₂, rfl⟩, rfl⟩
  · constructor <;>
    · rintro ⟨-, b₀, b₁, b₂, e, d₀, d₁, d₂, hbytes, -⟩
      simp at hbytes
  · have hfirst : [byteAt n 7, byteAt n 6, byteAt n 5, byteAt n 4] = [a₀, a₁, a₂, 0] := by
      have hutf8 : utf8 (n >>> 32) = [a₀, a₁, a₂, 0] := hrow.first
      rw [← hutf8, utf8_eq, byteAt_shiftRight, byteAt_shiftRight, byteAt_shiftRight,
        byteAt_shiftRight]
    have hpoint := hlow n hrow.mem
    obtain ⟨h7, h6, h5, -⟩ : byteAt n 7 = a₀ ∧ byteAt n 6 = a₁ ∧ byteAt n 5 = a₂ ∧ _ := by
      simpa using hfirst
    rw [h7, h6, h5] at hpoint
    constructor
    · rintro ⟨-, b₀, b₁, b₂, e, d₀, d₁, d₂, hbytes, -, hfold⟩
      obtain ⟨rfl, rfl, rfl⟩ : a₀ = b₀ ∧ a₁ = b₁ ∧ a₂ = b₂ := by simpa using hbytes
      exact hapart hpoint hfold
    · rintro ⟨-, b₀, b₁, b₂, e, d₀, d₁, d₂, hbytes, -, hfold⟩
      obtain ⟨rfl, rfl, rfl⟩ : 0xe3 = b₀ ∧ 0x82 = b₁ ∧ 0x9a = b₂ := by simpa using hbytes
      exact hapart (by decide) hfold

/-- The conversion of the source and the reference agree exactly where no character is folded. -/
theorem encoded_eq_referenceEncode_iff {cs : List Bytes}
    (hcs : ∀ c ∈ cs, IsCharacter c ∧ ¬ IsC1Control c) :
    Euc.encoded shippedTables cs.flatten = referenceEncode cs ↔ ∀ c ∈ cs, ¬ IsFolded c := by
  induction cs using referenceEncode.induct with
  | case1 => simp [referenceEncode, Euc.encoded]
  | case2 c =>
    obtain ⟨hc, hc1⟩ := hcs c (by simp)
    have hcons : Euc.encoded shippedTables [c].flatten =
        Euc.encodeCharacter shippedTables c ++
          Euc.encoded shippedTables ([] : List Bytes).flatten :=
      Euc.encoded_cons hc (by simp) rfl
    have hnil : Euc.encoded shippedTables ([] : List Bytes).flatten = [] := translit_nil _
    rw [hcons, hnil, List.append_nil, referenceEncode]
    by_cases h : IsFolded c
    · have hne := encodeCharacter_append_ne hc h [] []
      rw [List.append_nil, List.append_nil] at hne
      exact iff_of_false hne (by simp [h])
    · exact iff_of_true (encodeCharacter_eq hc hc1 h) (by simp [h])
  | case3 c c' cs e he ih =>
    have hrest : ∀ c ∈ cs, IsCharacter c ∧ ¬ IsC1Control c := fun d hd =>
      hcs d (by simp [hd])
    obtain ⟨h, h'⟩ := not_isFolded_of_mem_combinations (codeOfPair?_eq_some he)
    rw [Euc.encoded_cons_cons (fun d hd => (hrest d hd).1) he, referenceEncode]
    simp only [he]
    rw [List.append_cancel_left_eq, ih hrest]
    simp [h, h']
  | case4 c c' cs he ih =>
    obtain ⟨hc, hc1⟩ := hcs c (by simp)
    have hrest : ∀ d ∈ c' :: cs, IsCharacter d ∧ ¬ IsC1Control d := fun d hd =>
      hcs d (List.mem_cons_of_mem c hd)
    rw [Euc.encoded_cons hc (fun d hd => (hrest d hd).1) he, referenceEncode]
    simp only [he]
    rw [List.forall_mem_cons]
    by_cases h : IsFolded c
    · exact iff_of_false (encodeCharacter_append_ne hc h _ _) (fun hno => hno.1 h)
    · rw [encodeCharacter_eq hc hc1 h, List.append_cancel_left_eq, ih hrest]
      simp [h]

/-- **`Euc::encode` follows the table exactly on the texts without a folded character.** -/
theorem encode_eq_referenceEncode_iff {cs : List Bytes}
    (hcs : ∀ c ∈ cs, IsUtf8Character c ∧ ¬ IsC1Control c) :
    (do
      let t ← setup EncodingTable.get
      Euc.encode t cs.flatten) = .ok (referenceEncode cs) ↔ ∀ c ∈ cs, ¬ IsFolded c := by
  rw [setup_get, Outcome.ok_bind, Euc.encode_eq, Outcome.ok.injEq]
  exact encoded_eq_referenceEncode_iff fun c hc => ⟨(hcs c hc).1.isCharacter, (hcs c hc).2⟩

/-- The text of U+3042 and of U+304B with U+309A. -/
theorem encode_eq_referenceEncode_iff_kana :
    (do
      let t ← setup EncodingTable.get
      Euc.encode t [[0xe3, 0x81, 0x82], [0xe3, 0x81, 0x8b], [0xe3, 0x82, 0x9a]].flatten) =
        .ok (referenceEncode [[0xe3, 0x81, 0x82], [0xe3, 0x81, 0x8b], [0xe3, 0x82, 0x9a]]) ↔
      ∀ c ∈ [[0xe3, 0x81, 0x82], [0xe3, 0x81, 0x8b], [0xe3, 0x82, 0x9a]], ¬ IsFolded c :=
  encode_eq_referenceEncode_iff (by simp [IsUtf8Character, IsC1Control, isContinuation])

/-- The row of U+FF01, which U+A588 is folded onto. -/
lemma mem_eucUtf8_ff01 : 0xa1aa00efbc8100 ∈ eucUtf8.take 200 := by
  decide +kernel

/-- No row has the character U+A588. -/
lemma number3_ne_a588 :
    eucUtf8.all (fun n => !Nat.beq (number3 n) (0xea * 4096 + 0x96 * 64 + 0x88)) = true := by
  decide +kernel

lemma isFolded_a588 : IsFolded [0xea, 0x96, 0x88] := by
  have hmem : (([0xa1, 0xaa], [0xef, 0xbc, 0x81]) : Bytes × Bytes) ∈ singles :=
    List.mem_map.mpr ⟨_, List.mem_of_mem_take mem_eucUtf8_ff01, by decide⟩
  have hfold : Euc.AreFolded (codePoint 0xea 0x96 0x88) (codePoint 0xef 0xbc 0x81) :=
    .inl (by decide)
  refine ⟨fun e he => ?_, 0xea, 0x96, 0x88, _, 0xef, 0xbc, 0x81, rfl, hmem, hfold⟩
  have hc : IsMultibyte [0xea, 0x96, 0x88] := ⟨by decide, by decide, by decide⟩
  obtain ⟨n, hn, -, -, hutf8⟩ := row_of_mem_singles' he hc (by simp [IsC1Control])
  have hbytes : [byteAt n 3, byteAt n 2, byteAt n 1, byteAt n 0] = [0xea, 0x96, 0x88, 0] := hutf8
  simp only [List.cons.injEq, and_true, byteAt_eq_iff] at hbytes
  obtain ⟨h3, h2, h1, -⟩ := hbytes
  have hno := List.all_eq_true.mp number3_ne_a588 n hn
  rw [number3, h3, h2, h1] at hno
  exact absurd hno (by decide)

/-- U+A588 is written as the code of U+FF01, and not escaped. -/
theorem encode_ne_referenceEncode_a588 :
    (do
      let t ← setup EncodingTable.get
      Euc.encode t [[0xea, 0x96, 0x88]].flatten) ≠
        .ok (referenceEncode [[0xea, 0x96, 0x88]]) := by
  have hc : IsMultibyte [0xea, 0x96, 0x88] := ⟨by decide, by decide, by decide⟩
  rw [setup_get, Outcome.ok_bind, Euc.encode_eq, Ne, Outcome.ok.injEq,
    encoded_eq_referenceEncode_iff (by simp [IsCharacter, hc, IsC1Control])]
  exact fun h => h [0xea, 0x96, 0x88] (by simp) isFolded_a588

end Yaskkserv2
