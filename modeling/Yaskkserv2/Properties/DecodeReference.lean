import Yaskkserv2.Properties.ListedCodes

/-!
# `Euc::decode` against the table

The reference decoder splits a byte string into codes and writes for each what the table lists,
or its escape.  `decode_eq_referenceDecode_iff` says when `Euc::decode` writes the same: when no
code read is a two-byte code with a second byte outside 0xa1–0xfe, or 0x8f with two zeros.  The
rows of the single bytes 0x8e and 0x8f stand in the way of these: the first fills the slot for
what is out of range, the second is in the map of three-byte codes.
-/

namespace Yaskkserv2

open Framework EncodingTable EncodingTables

/-! ## The reference -/

/-- The codes of a byte string, from left to right: a lead byte of two-byte codes with the next
byte, 0x8f with the next two, as far as there are any, and any other byte by itself. -/
def codes : Bytes → List Bytes
  | [] => []
  | b₀ :: rest =>
    if Euc.IsLead2 b₀ then
      match rest with
      | [] => [[b₀]]
      | b₁ :: rest => [b₀, b₁] :: codes rest
    else if b₀ = 0x8f then
      match rest with
      | [] => [[b₀]]
      | [b₁] => [[b₀, b₁]]
      | b₁ :: b₂ :: rest => [b₀, b₁, b₂] :: codes rest
    else [b₀] :: codes rest

/-- What the table lists for a code of two or three bytes: a character or a combination. -/
def textOf? (code : Bytes) : Option Bytes :=
  match singles.find? (fun r => r.1 = code) with
  | some r => some r.2
  | none => (combinations.find? fun r => r.1 = code).map fun r => r.2.1 ++ r.2.2

/-- What the reference writes for a code.  A single byte past ASCII is a stray byte. -/
def referenceCode : Bytes → Bytes
  | [b] => if b ≤ 0x7f then [b] else escape [b]
  | code => (textOf? code).getD (escape code)

/-- The reference decoder. -/
def referenceDecode (eucBuffer : Bytes) : Bytes := (codes eucBuffer).flatMap referenceCode

/-- A code that `Euc::decode` takes for the single byte 0x8e or 0x8f: a two-byte code with a second
byte that is no trail byte, or 0x8f with two zeros. -/
def IsMisread (code : Bytes) : Prop :=
  (∃ b₀ b₁, code = [b₀, b₁] ∧ Euc.IsLead2 b₀ ∧ ¬ IsTrail b₁) ∨ code = [0x8f, 0, 0]

/-! ## The code of the source, a code at a time -/

namespace Euc

variable (t : EncodingTables)

lemma decoded_two {b₀ : UInt8} (h : IsLead2 b₀) (b₁ : UInt8) (rest : Bytes) :
    decoded t (b₀ :: b₁ :: rest) = decode2 t b₀ b₁ ++ decoded t rest :=
  translit_append (u := [b₀, b₁]) (by simp [decodeNext, h]) (List.cons_ne_nil _ _)

lemma decoded_three (b₁ b₂ : UInt8) (rest : Bytes) :
    decoded t (0x8f :: b₁ :: b₂ :: rest) = decode3 t 0x8f b₁ b₂ ++ decoded t rest :=
  translit_append (u := [0x8f, b₁, b₂]) rfl (List.cons_ne_nil _ _)

lemma decoded_stray {b : UInt8} (h2 : ¬ IsLead2 b) (h3 : b ≠ 0x8f) (rest : Bytes) :
    decoded t (b :: rest) = (if b ≤ 0x7f then [b] else escape [b]) ++ decoded t rest := by
  refine translit_append (u := [b]) ?_ (List.cons_ne_nil _ _)
  simp only [List.singleton_append, decodeNext, if_neg h2, if_neg h3]
  split <;> rfl

/-- At the end of the buffer an unfinished code is escaped. -/
lemma decoded_unfinished {code : Bytes} (h : (∃ b, code = [b] ∧ (IsLead2 b ∨ b = 0x8f)) ∨
    ∃ b, code = [0x8f, b]) : decoded t code = escape code := by
  rcases h with ⟨b, rfl, h | rfl⟩ | ⟨b, rfl⟩
  · have hnext : decodeNext t ([b] ++ []) = (escape [b], 1) := by simp [decodeNext, h]
    simpa [decoded] using translit_append hnext (List.cons_ne_nil _ _)
  · have hnext : decodeNext t ([0x8f] ++ []) = (escape [0x8f], 1) := rfl
    simpa [decoded] using translit_append hnext (List.cons_ne_nil _ _)
  · have hnext : decodeNext t ([0x8f, b] ++ []) = (escape [0x8f, b], 2) := rfl
    simpa [decoded] using translit_append hnext (List.cons_ne_nil _ _)

end Euc

/-! ## The codes that are listed -/

/-- A code is listed for a character, for a combination, or not at all. -/
lemma textOf?_cases (code : Bytes) :
    (∃ c, (code, c) ∈ singles ∧ textOf? code = some c) ∨
    (∃ c c', (code, c, c') ∈ combinations ∧ textOf? code = some (c ++ c')) ∨
    (∀ c, (code, c) ∉ singles) ∧ (∀ c c', (code, c, c') ∉ combinations) ∧
      textOf? code = none := by
  rw [textOf?]
  cases hs : singles.find? (fun r => r.1 = code) with
  | some r =>
    have hcode : r.1 = code := by simpa using List.find?_some hs
    exact .inl ⟨r.2, hcode ▸ List.mem_of_find?_eq_some hs, rfl⟩
  | none =>
    have hsingle : ∀ c, (code, c) ∉ singles := fun c hc => by
      simpa using List.find?_eq_none.mp hs (code, c) hc
    cases hp : combinations.find? (fun r => r.1 = code) with
    | some r =>
      have hcode : r.1 = code := by simpa using List.find?_some hp
      exact .inr (.inl ⟨r.2.1, r.2.2, hcode ▸ List.mem_of_find?_eq_some hp, rfl⟩)
    | none =>
      refine .inr (.inr ⟨hsingle, fun c c' hc => ?_, rfl⟩)
      simpa using List.find?_eq_none.mp hp (code, c, c') hc

/-- A listed code is well formed, or a single byte. -/
lemma isCode_of_mem_singles {e c : Bytes} (h : (e, c) ∈ singles) (hlen : e.length ≠ 1) :
    IsCode e := by
  rcases mem_singles_cases h with ⟨b, -, rfl, -⟩ | ⟨b, -, rfl, -⟩ | ⟨-, -, he, -⟩
  · exact absurd rfl hlen
  · exact absurd rfl hlen
  · exact he

lemma isCode_of_mem_combinations {e c c' : Bytes} (h : (e, c, c') ∈ combinations) : IsCode e :=
  (row_of_mem_combinations h).choose_spec.1.isCode

lemma referenceCode_of_length {code : Bytes} (h : code.length ≠ 1) :
    referenceCode code = (textOf? code).getD (escape code) := by
  match code, h with
  | [], _ => rfl
  | _ :: _ :: _, _ => rfl

/-- A code that is not well formed is escaped. -/
lemma referenceCode_of_not_isCode {code : Bytes} (hlen : code.length ≠ 1) (h : ¬ IsCode code) :
    referenceCode code = escape code := by
  rw [referenceCode_of_length hlen]
  rcases textOf?_cases code with ⟨c, hc, -⟩ | ⟨c, c', hc, -⟩ | ⟨-, -, hnone⟩
  · exact absurd (isCode_of_mem_singles hc hlen) h
  · exact absurd (isCode_of_mem_combinations hc) h
  · rw [hnone]
    rfl

lemma decode2_eq_referenceCode {b₀ b₁ : UInt8} (h0 : Euc.IsLead2 b₀) (h1 : IsTrail b₁) :
    Euc.decode2 shippedTables b₀ b₁ = referenceCode [b₀, b₁] := by
  rw [referenceCode_of_length (by simp)]
  rcases textOf?_cases [b₀, b₁] with ⟨c, hc, hsome⟩ | ⟨c, c', hc, hsome⟩ | ⟨hs, hp, hnone⟩
  · rw [hsome, Euc.decode2_of_mem hc ⟨h0, h1⟩]
    rfl
  · rw [hsome, Euc.decode2_of_mem_combinations hc]
    rfl
  · rw [hnone, Euc.decode2_of_not_mem h0 h1 hs hp]
    rfl

lemma decode3_eq_referenceCode {b₁ b₂ : UInt8} (h : ¬ (b₁ = 0 ∧ b₂ = 0)) :
    Euc.decode3 shippedTables 0x8f b₁ b₂ = referenceCode [0x8f, b₁, b₂] := by
  rw [referenceCode_of_length (by simp)]
  rcases textOf?_cases [0x8f, b₁, b₂] with ⟨c, hc, hsome⟩ | ⟨c, c', hc, -⟩ | ⟨hs, -, hnone⟩
  · rw [hsome, Euc.decode3_of_mem hc (isCode_of_mem_singles hc (by simp))]
    rfl
  · obtain ⟨-, ⟨⟨a₀, a₁, hcode, -⟩, -⟩, -⟩ := row_of_mem_combinations hc
    simp at hcode
  · rw [hnone, Euc.decode3_of_not_mem h hs]
    rfl

/-- What is written for a misread code begins with 0xc2, and its escape with `&`. -/
lemma cons_ne_escape (b : UInt8) (code rest rest' : Bytes) :
    [0xc2, b] ++ rest ≠ escape code ++ rest' := by
  intro h
  exact absurd (List.cons_eq_cons.mp h).1 (by decide)

/-! ## The comparison -/

lemma isMisread_one (b : UInt8) : ¬ IsMisread [b] := by
  simp [IsMisread]

lemma isMisread_two {b₀ b₁ : UInt8} :
    IsMisread [b₀, b₁] ↔ Euc.IsLead2 b₀ ∧ ¬ IsTrail b₁ := by
  constructor
  · rintro (⟨a₀, a₁, hcode, h⟩ | hcode)
    · obtain ⟨rfl, rfl⟩ : b₀ = a₀ ∧ b₁ = a₁ := by simpa using hcode
      exact h
    · simp at hcode
  · exact fun h => .inl ⟨b₀, b₁, rfl, h⟩

lemma isMisread_three {b₁ b₂ : UInt8} : IsMisread [0x8f, b₁, b₂] ↔ b₁ = 0 ∧ b₂ = 0 := by
  simp [IsMisread]

lemma not_isLead2_8f : ¬ Euc.IsLead2 0x8f := by
  decide

lemma referenceCode_lead {b : UInt8} (h : Euc.IsLead2 b ∨ b = 0x8f) :
    referenceCode [b] = escape [b] := by
  have hb : ¬ b ≤ 0x7f := by
    rcases h with (h | rfl) | rfl
    · exact fun hc => absurd (UInt8.le_trans h.1 hc) (by decide)
    · decide
    · decide
  exact if_neg hb

/-- The conversion of the source and the reference agree exactly where no code is misread. -/
theorem decoded_eq_referenceDecode_iff (eucBuffer : Bytes) :
    Euc.decoded shippedTables eucBuffer = referenceDecode eucBuffer ↔
      ∀ code ∈ codes eucBuffer, ¬ IsMisread code := by
  unfold referenceDecode
  induction eucBuffer using codes.induct with
  | case1 => simp [codes, Euc.decoded]
  | case2 b₀ h =>
    have hcodes : codes [b₀] = [[b₀]] := by simp [codes, h]
    rw [hcodes, Euc.decoded_unfinished _ (.inl ⟨b₀, rfl, .inl h⟩)]
    simp [referenceCode_lead (.inl h), isMisread_one]
  | case3 b₀ h b₁ rest ih =>
    have hcodes : codes (b₀ :: b₁ :: rest) = [b₀, b₁] :: codes rest := by simp [codes, h]
    rw [hcodes, List.flatMap_cons, Euc.decoded_two _ h, List.forall_mem_cons, isMisread_two]
    by_cases h1 : IsTrail b₁
    · rw [decode2_eq_referenceCode h h1, List.append_cancel_left_eq, ih]
      simp [h1]
    · have hescape : referenceCode [b₀, b₁] = escape [b₀, b₁] :=
        referenceCode_of_not_isCode (by simp) fun hc => h1 hc.2
      rw [hescape, Euc.decode2_of_not_isTrail h h1]
      exact iff_of_false (cons_ne_escape _ _ _ _) fun hc => hc.1 ⟨h, h1⟩
  | case4 h =>
    have hcodes : codes [0x8f] = [[0x8f]] := by simp [codes, not_isLead2_8f]
    rw [hcodes, Euc.decoded_unfinished _ (.inl ⟨0x8f, rfl, .inr rfl⟩)]
    simp [referenceCode_lead (.inr rfl), isMisread_one]
  | case5 b₁ h =>
    have hcodes : codes [0x8f, b₁] = [[0x8f, b₁]] := by simp [codes, not_isLead2_8f]
    have hescape : referenceCode [0x8f, b₁] = escape [0x8f, b₁] :=
      referenceCode_of_not_isCode (by simp) fun hc => not_isLead2_8f hc.1
    rw [hcodes, Euc.decoded_unfinished _ (.inr ⟨b₁, rfl⟩)]
    simp [hescape, isMisread_two, not_isLead2_8f]
  | case6 b₁ b₂ rest h ih =>
    have hcodes : codes (0x8f :: b₁ :: b₂ :: rest) = [0x8f, b₁, b₂] :: codes rest := by
      simp [codes, not_isLead2_8f]
    rw [hcodes, List.flatMap_cons, Euc.decoded_three, List.forall_mem_cons, isMisread_three]
    by_cases hzero : b₁ = 0 ∧ b₂ = 0
    · obtain ⟨rfl, rfl⟩ := hzero
      have hescape : referenceCode [0x8f, 0, 0] = escape [0x8f, 0, 0] :=
        referenceCode_of_not_isCode (by simp) fun hc => hc.2.1.ne_zero rfl
      rw [hescape, Euc.decode3_zero]
      exact iff_of_false (cons_ne_escape _ _ _ _) fun hc => hc.1 ⟨rfl, rfl⟩
    · rw [decode3_eq_referenceCode hzero, List.append_cancel_left_eq, ih]
      simp [hzero]
  | case7 b₀ rest h h' ih =>
    have hcodes : codes (b₀ :: rest) = [b₀] :: codes rest := by
      rw [codes.eq_def]
      simp [h, h']
    rw [hcodes, List.flatMap_cons, Euc.decoded_stray _ h h', List.forall_mem_cons]
    simp [referenceCode, isMisread_one, ih]

/-- **`Euc::decode` follows the table exactly on the byte strings without a misread code**: no
two-byte code read from left to right has a second byte outside 0xa1–0xfe, and none is 0x8f with
two zeros. -/
theorem decode_eq_referenceDecode_iff (eucBuffer : Bytes) :
    (do
      let t ← setup EncodingTable.get
      Euc.decode t eucBuffer) = .ok (referenceDecode eucBuffer) ↔
      ∀ code ∈ codes eucBuffer, ¬ IsMisread code := by
  rw [setup_get, Outcome.ok_bind, Euc.decode_eq, Outcome.ok.injEq]
  exact decoded_eq_referenceDecode_iff eucBuffer

/-- The bytes 0xa4 0x20 are decoded to U+008E, and not escaped. -/
theorem decode_ne_referenceDecode_a420 :
    (do
      let t ← setup EncodingTable.get
      Euc.decode t [0xa4, 0x20]) ≠ .ok (referenceDecode [0xa4, 0x20]) := by
  have hlead : Euc.IsLead2 0xa4 := by decide
  have htrail : ¬ IsTrail 0x20 := by decide
  rw [setup_get, Outcome.ok_bind, Euc.decode_eq, Ne, Outcome.ok.injEq]
  intro h
  have hmisread := (decoded_eq_referenceDecode_iff [0xa4, 0x20]).mp h [0xa4, 0x20]
    (by simp [codes, hlead])
  exact hmisread (isMisread_two.mpr ⟨hlead, htrail⟩)

end Yaskkserv2
