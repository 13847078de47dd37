import Yaskkserv2.EncodingSimple.Tables
import Yaskkserv2.EncodingSimple.Utility
import Yaskkserv2.Framework.Transliterate

/-!
# `Euc::decode` and `Euc::encode`

Both converters move a cursor over a buffer; a turn pushes some bytes and either moves the cursor
on or breaks.  `is_error_exit` is the constant `false` in the source, so its branches are left
out.

The turns read only what lies ahead of the cursor.  `decodeNext` and `encodeNext` say what they
do as functions of that suffix, and `decode_eq` and `encode_eq` say that the two loops are the
left-to-right transliterations by these readers: they return `Ok` for every buffer, no look-ahead
and no table index of theirs is ever out of range.
-/

namespace Yaskkserv2

open Framework

/-- `format!("{:>02x}")` of one byte. -/
def hexByte (b : UInt8) : Bytes :=
  let digit := fun n : ℕ => if n < 10 then UInt8.ofNat (0x30 + n) else UInt8.ofNat (0x57 + n)
  [digit (b.toNat / 16), digit (b.toNat % 16)]

/-- A byte after the first of an EUC character. -/
abbrev IsTrail (b : UInt8) : Prop := 0xa1 ≤ b ∧ b ≤ 0xfe

/-- The escape of bytes that no table lists: `&#x` and their hex digits. -/
def escape (bs : Bytes) : Bytes := [0x26, 0x23, 0x78] ++ bs.flatMap hexByte

namespace Euc

variable (t : EncodingTables)

/-! ## The loops of the source -/

/-- `Euc::decode_a1_fe_8e`: what is pushed, and the cursor it leaves (`none` is `Break`). -/
def decodeA1Fe8e (eucBuffer : Bytes) (eucI : ℕ) : Result (Bytes × Option ℕ) := do
  let b₀ ← index eucBuffer eucI
  if ¬ isEnough2Bytes eucBuffer.length eucI then return (escape [b₀], none)
  let b₁ ← index eucBuffer (eucI + 1)
  let utf8 ← t.euc2ToUtf8Vec.get (Decoder.getEuc2ToUtf8VecIndex b₀ b₁)
  if utf8 ≠ [0, 0, 0, 0] then return (Decoder.pushToBufferUtf8 utf8, some (eucI + 2))
  match t.combineEucToUtf8Map [b₀, b₁, 0] with
  | some v =>
    return (Decoder.pushToBufferUtf8 (v.take 4) ++ Decoder.pushToBufferUtf8 (v.drop 4),
      some (eucI + 2))
  | none => return (escape [b₀, b₁], some (eucI + 2))

/-- `Euc::decode_8f`. -/
def decode8f (eucBuffer : Bytes) (eucI : ℕ) : Result (Bytes × Option ℕ) := do
  let b₀ ← index eucBuffer eucI
  if ¬ isEnough3Bytes eucBuffer.length eucI then
    if eucI + 1 ≥ eucBuffer.length then return (escape [b₀], none)
    let b₁ ← index eucBuffer (eucI + 1)
    return (escape [b₀, b₁], none)
  let key3 ← slice eucBuffer eucI (eucI + 3)
  match t.euc3ToUtf8Map key3 with
  | some v => return (Decoder.pushToBufferUtf8 v, some (eucI + 3))
  | none => return (escape key3, some (eucI + 3))

/-- The `match` on the byte at the cursor in the loop of `Euc::decode`. -/
def decodeMatch (eucBuffer : Bytes) (eucI : ℕ) : Result (Bytes × Option ℕ) := do
  let b ← index eucBuffer eucI
  if (0xa1 ≤ b ∧ b ≤ 0xfe) ∨ b = 0x8e then decodeA1Fe8e t eucBuffer eucI
  else if b ≤ 0x7f then pure ([b], some (eucI + 1))
  else if b = 0x8f then decode8f t eucBuffer eucI
  else pure (escape [b], some (eucI + 1))

/-- A turn of the loop of `Euc::decode`. -/
def decodeTurn (eucBuffer : Bytes) (s : ℕ × Bytes) : Result ((ℕ × Bytes) ⊕ Bytes) := do
  let r ← decodeMatch t eucBuffer s.1
  match r.2 with
  | none => return .inr (s.2 ++ r.1)
  | some eucI =>
    if eucBuffer.length ≤ eucI then return .inr (s.2 ++ r.1) else return .inl (eucI, s.2 ++ r.1)

/-- `Euc::decode`. -/
def decode (eucBuffer : Bytes) : Result Bytes :=
  if eucBuffer = [] then .ok []
  else loop (decodeTurn t eucBuffer) eucBuffer.length (0, [])

/-- `Euc::encode_e0_ef_encode_3`. -/
def encodeE0EfEncode3 (utf8Buffer : Bytes) (utf8I : ℕ) : Result (Bytes × ℕ) := do
  let b₀ ← index utf8Buffer utf8I
  let b₁ ← index utf8Buffer (utf8I + 1)
  let b₂ ← index utf8Buffer (utf8I + 2)
  let euc ← t.utf83ToEucVec.get (Encoder.getUtf83ToEucVecIndex b₀ b₁ b₂)
  if euc ≠ [0, 0, 0] then return (Encoder.pushToBufferEuc euc, utf8I + 3)
  return (escape [b₀, b₁, b₂], utf8I + 3)

/-- `Euc::encode_e0_ef`. -/
def encodeE0Ef (utf8Buffer : Bytes) (utf8I : ℕ) : Result (Bytes × ℕ) := do
  if isEnough6Bytes utf8Buffer.length utf8I then
    let b₄ ← index utf8Buffer (utf8I + 4)
    let b₅ ← index utf8Buffer (utf8I + 5)
    if b₄ = 0x82 ∧ b₅ = 0x9a then
      match t.combineUtf86ToEucMap (← slice utf8Buffer utf8I (utf8I + 6)) with
      | some euc => return (Encoder.pushToBufferEuc euc, utf8I + 6)
      | none => pure ()
  encodeE0EfEncode3 t utf8Buffer utf8I

/-- `Euc::encode_c2_df`. -/
def encodeC2Df (utf8Buffer : Bytes) (utf8I : ℕ) : Result (Bytes × ℕ) := do
  if isEnough4Bytes utf8Buffer.length utf8I then
    let b₂ ← index utf8Buffer (utf8I + 2)
    if b₂ = 0xcc ∨ b₂ = 0xcb then
      match t.combineUtf84ToEucMap (← slice utf8Buffer utf8I (utf8I + 4)) with
      | some euc => return (Encoder.pushToBufferEuc euc, utf8I + 4)
      | none => pure ()
  let b₀ ← index utf8Buffer utf8I
  let b₁ ← index utf8Buffer (utf8I + 1)
  match t.utf824ToEucMap [b₀, b₁, 0, 0] with
  | some euc => return (Encoder.pushToBufferEuc euc, utf8I + 2)
  | none => return (escape [b₀, b₁], utf8I + 2)

/-- `Euc::encode_f0_f7`. -/
def encodeF0F7 (utf8Buffer : Bytes) (utf8I : ℕ) : Result (Bytes × ℕ) := do
  let key ← slice utf8Buffer utf8I (utf8I + 4)
  match t.utf824ToEucMap key with
  | some euc => return (Encoder.pushToBufferEuc euc, utf8I + 4)
  | none => return (escape key, utf8I + 4)

/-- What `is_utf8_2_bytes` and its siblings check: the cursor has `n` bytes ahead of it, all but
the first continuation bytes. -/
abbrev isUtf8Bytes (n : ℕ) (utf8Buffer : Bytes) (utf8I : ℕ) : Prop :=
  utf8I + n ≤ utf8Buffer.length ∧ ((utf8Buffer.drop (utf8I + 1)).take (n - 1)).all isContinuation

/-- `Encoder::is_utf8_2_bytes`. -/
abbrev isUtf82Bytes := isUtf8Bytes 2

/-- `Encoder::is_utf8_3_bytes`. -/
abbrev isUtf83Bytes := isUtf8Bytes 3

/-- `Encoder::is_utf8_4_bytes`. -/
abbrev isUtf84Bytes := isUtf8Bytes 4

/-- The `match` on the byte at the cursor in the loop of `Euc::encode`. -/
def encodeMatch (utf8Buffer : Bytes) (utf8I : ℕ) : Result (Bytes × ℕ) := do
  let b ← index utf8Buffer utf8I
  if (0xe0 ≤ b ∧ b ≤ 0xef) ∧ isUtf83Bytes utf8Buffer utf8I then encodeE0Ef t utf8Buffer utf8I
  else if b ≤ 0x7f then pure ([b], utf8I + 1)
  else if (0xc2 ≤ b ∧ b ≤ 0xdf) ∧ isUtf82Bytes utf8Buffer utf8I then
    encodeC2Df t utf8Buffer utf8I
  else if (0xf0 ≤ b ∧ b ≤ 0xf7) ∧ isUtf84Bytes utf8Buffer utf8I then
    encodeF0F7 t utf8Buffer utf8I
  else pure (escape [b], utf8I + 1)

/-- A turn of the loop of `Euc::encode`.  The `assert!` on the cursor is a panic. -/
def encodeTurn (utf8Buffer : Bytes) (s : ℕ × Bytes) : Result ((ℕ × Bytes) ⊕ Bytes) := do
  let r ← encodeMatch t utf8Buffer s.1
  if utf8Buffer.length < r.2 then .panic
  else if utf8Buffer.length ≤ r.2 then return .inr (s.2 ++ r.1)
  else return .inl (r.2, s.2 ++ r.1)

/-- `Euc::encode`. -/
def encode (utf8Buffer : Bytes) : Result Bytes :=
  if utf8Buffer = [] then .ok []
  else loop (encodeTurn t utf8Buffer) utf8Buffer.length (0, [])

/-! ## What is written for one code -/

/-- A lead byte of a two-byte EUC code. -/
abbrev IsLead2 (b : UInt8) : Prop := (0xa1 ≤ b ∧ b ≤ 0xfe) ∨ b = 0x8e

/-- What `decode` writes for a two-byte code. -/
def decode2 (b₀ b₁ : UInt8) : Bytes :=
  let utf8 := t.euc2ToUtf8Vec ⟨Decoder.getEuc2ToUtf8VecIndex b₀ b₁,
    Decoder.getEuc2ToUtf8VecIndex_lt b₀ b₁⟩
  if utf8 ≠ [0, 0, 0, 0] then Decoder.pushToBufferUtf8 utf8
  else match t.combineEucToUtf8Map [b₀, b₁, 0] with
    | some v => Decoder.pushToBufferUtf8 (v.take 4) ++ Decoder.pushToBufferUtf8 (v.drop 4)
    | none => escape [b₀, b₁]

/-- What `decode` writes for a three-byte code. -/
def decode3 (b₀ b₁ b₂ : UInt8) : Bytes :=
  match t.euc3ToUtf8Map [b₀, b₁, b₂] with
  | some v => Decoder.pushToBufferUtf8 v
  | none => escape [b₀, b₁, b₂]

/-- What `encode` writes for a three-byte character. -/
def encode3 (b₀ b₁ b₂ : UInt8) : Bytes :=
  let euc := t.utf83ToEucVec ⟨Encoder.getUtf83ToEucVecIndex b₀ b₁ b₂,
    Encoder.getUtf83ToEucVecIndex_lt b₀ b₁ b₂⟩
  if euc ≠ [0, 0, 0] then Encoder.pushToBufferEuc euc else escape [b₀, b₁, b₂]

/-- What `encode` writes for the character of these bytes, by the map of two- and four-byte
characters. -/
def encode24 (bytes : Bytes) : Bytes :=
  match t.utf824ToEucMap (bytes ++ List.replicate (4 - bytes.length) 0) with
  | some euc => Encoder.pushToBufferEuc euc
  | none => escape bytes

/-- The combination of two three-byte characters ahead of the cursor, if a table lists it. -/
def combine6 (l : Bytes) : Option Bytes :=
  if 6 ≤ l.length ∧ l.getD 4 0 = 0x82 ∧ l.getD 5 0 = 0x9a then t.combineUtf86ToEucMap (l.take 6)
  else none

/-- The combination of two two-byte characters ahead of the cursor, if a table lists it. -/
def combine4 (l : Bytes) : Option Bytes :=
  if 4 ≤ l.length ∧ (l.getD 2 0 = 0xcc ∨ l.getD 2 0 = 0xcb) then t.combineUtf84ToEucMap (l.take 4)
  else none

/-! ## The converters as transliterations -/

/-- What one turn of `decode` does with the bytes ahead of the cursor. -/
def decodeNext : Bytes → Bytes × ℕ
  | [] => ([], 1)
  | b₀ :: rest =>
    if IsLead2 b₀ then
      match rest with
      | [] => (escape [b₀], 1)
      | b₁ :: _ => (decode2 t b₀ b₁, 2)
    else if b₀ ≤ 0x7f then ([b₀], 1)
    else if b₀ = 0x8f then
      match rest with
      | [] => (escape [b₀], 1)
      | [b₁] => (escape [b₀, b₁], 2)
      | b₁ :: b₂ :: _ => (decode3 t b₀ b₁ b₂, 3)
    else (escape [b₀], 1)

/-- What one turn of `encode` does with the bytes ahead of the cursor. -/
def encodeNext (l : Bytes) : Bytes × ℕ :=
  let b₀ := l.getD 0 0
  if (0xe0 ≤ b₀ ∧ b₀ ≤ 0xef) ∧ isUtf83Bytes l 0 then
    match combine6 t l with
    | some euc => (Encoder.pushToBufferEuc euc, 6)
    | none => (encode3 t b₀ (l.getD 1 0) (l.getD 2 0), 3)
  else if b₀ ≤ 0x7f then ([b₀], 1)
  else if (0xc2 ≤ b₀ ∧ b₀ ≤ 0xdf) ∧ isUtf82Bytes l 0 then
    match combine4 t l with
    | some euc => (Encoder.pushToBufferEuc euc, 4)
    | none => (encode24 t (l.take 2), 2)
  else if (0xf0 ≤ b₀ ∧ b₀ ≤ 0xf7) ∧ isUtf84Bytes l 0 then (encode24 t (l.take 4), 4)
  else (escape [b₀], 1)

/-- `Euc::decode` as a total function. -/
def decoded : Bytes → Bytes := translit (decodeNext t)

/-- `Euc::encode` as a total function. -/
def encoded : Bytes → Bytes := translit (encodeNext t)

lemma decodeNext_pos (l : Bytes) : 1 ≤ (decodeNext t l).2 := by
  unfold decodeNext
  repeat' split
  all_goals simp

lemma encodeNext_pos (l : Bytes) : 1 ≤ (encodeNext t l).2 := by
  unfold encodeNext
  dsimp only
  repeat' split
  all_goals simp

/-! ### The helpers of `decode` -/

lemma decodeA1Fe8e_append (pre : Bytes) (b₀ b₁ : UInt8) (rest : Bytes) :
    decodeA1Fe8e t (pre ++ b₀ :: b₁ :: rest) pre.length =
      .ok (decode2 t b₀ b₁, some (pre.length + 2)) := by
  have hget := LookupVec.get_of_le t.euc2ToUtf8Vec (Decoder.getEuc2ToUtf8VecIndex_le b₀ b₁)
  have henough : isEnough2Bytes (pre ++ b₀ :: b₁ :: rest).length pre.length := by
    simp [isEnough2Bytes]
  have hb₁ : (index (b₀ :: b₁ :: rest) 1 : Result UInt8) = .ok b₁ := rfl
  rw [decodeA1Fe8e, index_append_length, index_append_add, index_cons_zero, hb₁, Outcome.ok_bind,
    if_neg (not_not.mpr henough), Outcome.ok_bind, hget, Outcome.ok_bind, decode2]
  split
  · rfl
  · cases t.combineEucToUtf8Map [b₀, b₁, 0] <;> rfl

lemma decodeA1Fe8e_end (pre : Bytes) (b₀ : UInt8) :
    decodeA1Fe8e t (pre ++ [b₀]) pre.length = .ok (escape [b₀], none) := by
  have hshort : ¬ isEnough2Bytes (pre ++ [b₀]).length pre.length := by
    simp [isEnough2Bytes]
  rw [decodeA1Fe8e, index_append_length, index_cons_zero, Outcome.ok_bind, if_pos hshort]
  rfl

lemma decode8f_append (pre : Bytes) (b₀ b₁ b₂ : UInt8) (rest : Bytes) :
    decode8f t (pre ++ b₀ :: b₁ :: b₂ :: rest) pre.length =
      .ok (decode3 t b₀ b₁ b₂, some (pre.length + 3)) := by
  have henough : isEnough3Bytes (pre ++ b₀ :: b₁ :: b₂ :: rest).length pre.length := by
    simp [isEnough3Bytes]
  have hkey : (slice (b₀ :: b₁ :: b₂ :: rest) 0 3 : Result Bytes) = .ok [b₀, b₁, b₂] :=
    slice_of_le (by omega) (by simp)
  rw [decode8f, index_append_length, index_cons_zero, Outcome.ok_bind,
    if_neg (not_not.mpr henough), slice_append_length, hkey, decode3]
  dsimp only [Outcome.ok_bind]
  cases t.euc3ToUtf8Map [b₀, b₁, b₂] <;> rfl

lemma decode8f_end_one (pre : Bytes) (b₀ : UInt8) :
    decode8f t (pre ++ [b₀]) pre.length = .ok (escape [b₀], none) := by
  have hshort : ¬ isEnough3Bytes (pre ++ [b₀]).length pre.length := by
    simp [isEnough3Bytes]
  rw [decode8f, index_append_length, index_cons_zero, Outcome.ok_bind, if_pos hshort,
    if_pos (by simp)]
  rfl

lemma decode8f_end_two (pre : Bytes) (b₀ b₁ : UInt8) :
    decode8f t (pre ++ [b₀, b₁]) pre.length = .ok (escape [b₀, b₁], none) := by
  have hshort : ¬ isEnough3Bytes (pre ++ [b₀, b₁]).length pre.length := by
    simp [isEnough3Bytes]
  have hb₁ : (index [b₀, b₁] 1 : Result UInt8) = .ok b₁ := rfl
  rw [decode8f, index_append_length, index_cons_zero, Outcome.ok_bind, if_pos hshort,
    if_neg (by simp), index_append_add, hb₁]
  rfl

/-- The `match` follows `decodeNext`; it breaks only where that reaches the end. -/
lemma decodeMatch_append (pre : Bytes) (b₀ : UInt8) (rest : Bytes) :
    ∃ cursor, decodeMatch t (pre ++ b₀ :: rest) pre.length =
        .ok ((decodeNext t (b₀ :: rest)).1, cursor) ∧
      (cursor = some (pre.length + (decodeNext t (b₀ :: rest)).2) ∨
        cursor = none ∧ (b₀ :: rest).length ≤ (decodeNext t (b₀ :: rest)).2) := by
  simp only [decodeMatch, decodeNext, index_append_length, index_cons_zero, Outcome.ok_bind]
  by_cases h2 : IsLead2 b₀
  · simp only [if_pos h2]
    rcases rest with _ | ⟨b₁, rest⟩
    · exact ⟨_, decodeA1Fe8e_end t pre b₀, .inr ⟨rfl, le_rfl⟩⟩
    · exact ⟨_, decodeA1Fe8e_append t pre b₀ b₁ rest, .inl rfl⟩
  simp only [if_neg h2]
  by_cases h1 : b₀ ≤ 0x7f
  · simp only [if_pos h1]
    exact ⟨_, rfl, .inl rfl⟩
  simp only [if_neg h1]
  by_cases h3 : b₀ = 0x8f
  · simp only [if_pos h3]
    rcases rest with _ | ⟨b₁, _ | ⟨b₂, rest⟩⟩
    · exact ⟨_, decode8f_end_one t pre b₀, .inr ⟨rfl, le_rfl⟩⟩
    · exact ⟨_, decode8f_end_two t pre b₀ b₁, .inr ⟨rfl, le_rfl⟩⟩
    · exact ⟨_, decode8f_append t pre b₀ b₁ b₂ rest, .inl rfl⟩
  · simp only [if_neg h3]
    exact ⟨_, rfl, .inl rfl⟩

lemma decodeTurn_append (pre : Bytes) (b₀ : UInt8) (rest acc : Bytes) :
    decodeTurn t (pre ++ b₀ :: rest) (pre.length, acc) = .ok
      (if (pre ++ b₀ :: rest).length ≤ pre.length + (decodeNext t (b₀ :: rest)).2
        then .inr (acc ++ (decodeNext t (b₀ :: rest)).1)
        else .inl (pre.length + (decodeNext t (b₀ :: rest)).2,
          acc ++ (decodeNext t (b₀ :: rest)).1)) := by
  obtain ⟨cursor, hmatch, rfl | ⟨rfl, hend⟩⟩ := decodeMatch_append t pre b₀ rest
  · rw [decodeTurn, hmatch, Outcome.ok_bind]
    dsimp only
    split <;> rfl
  · rw [decodeTurn, hmatch, Outcome.ok_bind, if_pos (by rw [List.length_append]; omega)]
    rfl

/-! ### The helpers of `encode` -/

lemma index_append_getD (pre l : Bytes) {k : ℕ} (h : k < l.length) :
    (index (pre ++ l) (pre.length + k) : Result UInt8) = .ok (l.getD k 0) := by
  rw [index_append_add, index_of_lt h]
  simp [h]

lemma slice_append_take (pre l : Bytes) {k : ℕ} (h : k ≤ l.length) :
    (slice (pre ++ l) pre.length (pre.length + k) : Result Bytes) = .ok (l.take k) := by
  rw [slice_append_length, slice_of_le (Nat.zero_le k) h, List.drop_zero]

lemma isUtf8Bytes_append (n : ℕ) (pre l : Bytes) :
    isUtf8Bytes n (pre ++ l) pre.length ↔ isUtf8Bytes n l 0 := by
  have hdrop : (pre ++ l).drop (pre.length + 1) = l.drop (0 + 1) := by
    rw [List.drop_append, List.drop_eq_nil_of_le (by omega), List.nil_append,
      Nat.add_sub_cancel_left, Nat.zero_add]
  rw [isUtf8Bytes, isUtf8Bytes, hdrop, List.length_append, Nat.add_le_add_iff_left,
    Nat.zero_add n]

lemma encodeE0EfEncode3_append (pre : Bytes) {l : Bytes} (h : 3 ≤ l.length) :
    encodeE0EfEncode3 t (pre ++ l) pre.length =
      .ok (encode3 t (l.getD 0 0) (l.getD 1 0) (l.getD 2 0), pre.length + 3) := by
  have h0 := index_append_getD pre l (show 0 < l.length by omega)
  have h1 := index_append_getD pre l (show 1 < l.length by omega)
  have h2 := index_append_getD pre l (show 2 < l.length by omega)
  have hget := LookupVec.get_of_le t.utf83ToEucVec
    (Encoder.getUtf83ToEucVecIndex_le (l.getD 0 0) (l.getD 1 0) (l.getD 2 0))
  rw [Nat.add_zero] at h0
  rw [encodeE0EfEncode3, h0, h1, h2]
  simp only [Outcome.ok_bind, hget, encode3]
  split <;> rfl

lemma encodeE0Ef_append (pre : Bytes) {l : Bytes} (h : 3 ≤ l.length) :
    encodeE0Ef t (pre ++ l) pre.length = .ok (match combine6 t l with
      | some euc => (Encoder.pushToBufferEuc euc, pre.length + 6)
      | none => (encode3 t (l.getD 0 0) (l.getD 1 0) (l.getD 2 0), pre.length + 3)) := by
  have henough : isEnough6Bytes (pre ++ l).length pre.length ↔ 6 ≤ l.length := by
    simp [isEnough6Bytes]
  have h3 := encodeE0EfEncode3_append t pre h
  rw [encodeE0Ef, combine6]
  by_cases h6 : 6 ≤ l.length
  · rw [if_pos (henough.mpr h6), index_append_getD pre l (show 4 < l.length by omega),
      index_append_getD pre l (show 5 < l.length by omega)]
    simp only [Outcome.ok_bind, slice_append_take pre l h6]
    by_cases hmark : l.getD 4 0 = 0x82 ∧ l.getD 5 0 = 0x9a
    · rw [if_pos hmark, if_pos ⟨h6, hmark⟩]
      cases t.combineUtf86ToEucMap (l.take 6) with
      | none => simpa using h3
      | some euc => rfl
    · rw [if_neg hmark, if_neg (fun hc => hmark hc.2)]
      simpa using h3
  · rw [if_neg (fun hc => h6 (henough.mp hc)), if_neg (fun hc => h6 hc.1)]
    simpa using h3

lemma encodeC2Df_append (pre : Bytes) {l : Bytes} (h : 2 ≤ l.length) :
    encodeC2Df t (pre ++ l) pre.length = .ok (match combine4 t l with
      | some euc => (Encoder.pushToBufferEuc euc, pre.length + 4)
      | none => (encode24 t (l.take 2), pre.length + 2)) := by
  have henough : isEnough4Bytes (pre ++ l).length pre.length ↔ 4 ≤ l.length := by
    simp [isEnough4Bytes]
  have htwo : l.take 2 = [l.getD 0 0, l.getD 1 0] := by
    rcases l with _ | ⟨b₀, _ | ⟨b₁, rest⟩⟩ <;> simp at h ⊢
  have hsingle : (do
      let b₀ ← index (pre ++ l) pre.length
      let b₁ ← index (pre ++ l) (pre.length + 1)
      match t.utf824ToEucMap [b₀, b₁, 0, 0] with
      | some euc => return (Encoder.pushToBufferEuc euc, pre.length + 2)
      | none => return (escape [b₀, b₁], pre.length + 2) : Result (Bytes × ℕ)) =
        .ok (encode24 t (l.take 2), pre.length + 2) := by
    have h0 := index_append_getD pre l (show 0 < l.length by omega)
    rw [Nat.add_zero] at h0
    rw [h0, index_append_getD pre l (show 1 < l.length by omega), htwo]
    simp only [Outcome.ok_bind, encode24, List.length_cons, List.length_nil, List.replicate,
      List.cons_append, List.nil_append]
    cases t.utf824ToEucMap [l.getD 0 0, l.getD 1 0, 0, 0] <;> rfl
  rw [encodeC2Df, combine4]
  by_cases h4 : 4 ≤ l.length
  · rw [if_pos (henough.mpr h4), index_append_getD pre l (show 2 < l.length by omega)]
    simp only [Outcome.ok_bind, slice_append_take pre l h4]
    by_cases hmark : l.getD 2 0 = 0xcc ∨ l.getD 2 0 = 0xcb
    · rw [if_pos hmark, if_pos ⟨h4, hmark⟩]
      cases t.combineUtf84ToEucMap (l.take 4) with
      | none => simpa using hsingle
      | some euc => rfl
    · rw [if_neg hmark, if_neg (fun hc => hmark hc.2)]
      simpa using hsingle
  · rw [if_neg (fun hc => h4 (henough.mp hc)), if_neg (fun hc => h4 hc.1)]
    simpa using hsingle

lemma encodeF0F7_append (pre : Bytes) {l : Bytes} (h : 4 ≤ l.length) :
    encodeF0F7 t (pre ++ l) pre.length = .ok (encode24 t (l.take 4), pre.length + 4) := by
  rw [encodeF0F7, slice_append_take pre l h, Outcome.ok_bind, encode24]
  have hlen : (l.take 4).length = 4 := by
    rw [List.length_take]
    omega
  rw [hlen, Nat.sub_self, List.replicate_zero, List.append_nil]
  cases t.utf824ToEucMap (l.take 4) <;> rfl

/-- A reader never reads past the end of the buffer. -/
lemma encodeNext_le {l : Bytes} (h : l ≠ []) : (encodeNext t l).2 ≤ l.length := by
  have hpos : 0 < l.length := List.length_pos_iff.mpr h
  unfold encodeNext
  simp only [combine6, combine4]
  split
  · rename_i h3
    split
    · rename_i heq
      split at heq
      · rename_i h6
        exact h6.1
      · simp at heq
    · omega
  · split
    · exact hpos
    · split
      · rename_i h2
        split
        · rename_i heq
          split at heq
          · rename_i h4
            exact h4.1
          · simp at heq
        · omega
      · split
        · rename_i h4
          simpa using h4.2.1
        · exact hpos

lemma encodeMatch_append (pre : Bytes) {l : Bytes} (hl : l ≠ []) :
    encodeMatch t (pre ++ l) pre.length =
      .ok ((encodeNext t l).1, pre.length + (encodeNext t l).2) := by
  have h0 := index_append_getD pre l (List.length_pos_iff.mpr hl)
  rw [Nat.add_zero] at h0
  rw [encodeMatch, h0, Outcome.ok_bind, encodeNext]
  simp only [isUtf83Bytes, isUtf82Bytes, isUtf84Bytes, isUtf8Bytes_append]
  split
  · rename_i h3
    rw [encodeE0Ef_append t pre (by simpa using h3.2.1)]
    cases combine6 t l <;> rfl
  · split
    · rfl
    · split
      · rename_i h2
        rw [encodeC2Df_append t pre (by simpa using h2.2.1)]
        cases combine4 t l <;> rfl
      · split
        · rename_i h4
          exact encodeF0F7_append t pre (by simpa using h4.2.1)
        · rfl

lemma encodeTurn_append (pre : Bytes) {l : Bytes} (hl : l ≠ []) (acc : Bytes) :
    encodeTurn t (pre ++ l) (pre.length, acc) = .ok
      (if (pre ++ l).length ≤ pre.length + (encodeNext t l).2
        then .inr (acc ++ (encodeNext t l).1)
        else .inl (pre.length + (encodeNext t l).2, acc ++ (encodeNext t l).1)) := by
  have hle := encodeNext_le t hl
  have hbound : ¬ (pre ++ l).length < pre.length + (encodeNext t l).2 := by
    rw [List.length_append]
    omega
  rw [encodeTurn, encodeMatch_append t pre hl, Outcome.ok_bind, if_neg hbound]
  split <;> rfl

/-! ## Both converters are total -/

/-- A turn of `decode` at a cursor in the buffer. -/
lemma decodeTurn_eq {buffer : Bytes} {i : ℕ} (acc : Bytes) (hi : i < buffer.length) :
    decodeTurn t buffer (i, acc) = .ok
      (if buffer.length ≤ i + (decodeNext t (buffer.drop i)).2
        then .inr (acc ++ (decodeNext t (buffer.drop i)).1)
        else .inl (i + (decodeNext t (buffer.drop i)).2,
          acc ++ (decodeNext t (buffer.drop i)).1)) := by
  have hturn := decodeTurn_append t (buffer.take i) buffer[i] (buffer.drop (i + 1)) acc
  rwa [← List.drop_eq_getElem_cons hi, List.take_append_drop, List.length_take,
    min_eq_left hi.le] at hturn

/-- A turn of `encode` at a cursor in the buffer. -/
lemma encodeTurn_eq {buffer : Bytes} {i : ℕ} (acc : Bytes) (hi : i < buffer.length) :
    encodeTurn t buffer (i, acc) = .ok
      (if buffer.length ≤ i + (encodeNext t (buffer.drop i)).2
        then .inr (acc ++ (encodeNext t (buffer.drop i)).1)
        else .inl (i + (encodeNext t (buffer.drop i)).2,
          acc ++ (encodeNext t (buffer.drop i)).1)) := by
  have hne : buffer.drop i ≠ [] := by
    rw [ne_eq, List.drop_eq_nil_iff]
    omega
  have hturn := encodeTurn_append t (buffer.take i) hne acc
  rwa [List.take_append_drop, List.length_take, min_eq_left hi.le] at hturn

/-- **`Euc::decode` is total**: it returns the transliteration by `decodeNext` of any buffer. -/
theorem decode_eq (buffer : Bytes) : decode t buffer = .ok (decoded t buffer) := by
  rw [decode, decoded]
  split
  · rename_i h
    rw [h, translit_nil]
  · rename_i h
    have hloop := loop_eq_translit (fun i acc hi => decodeTurn_eq t acc hi)
      (fun l _ => decodeNext_pos t l) [] (List.length_pos_iff.mpr h) (Nat.le_add_left _ _)
    simpa using hloop

/-- **`Euc::encode` is total**: it returns the transliteration by `encodeNext` of any buffer, and
its `assert!` holds. -/
theorem encode_eq (buffer : Bytes) : encode t buffer = .ok (encoded t buffer) := by
  rw [encode, encoded]
  split
  · rename_i h
    rw [h, translit_nil]
  · rename_i h
    have hloop := loop_eq_translit (fun i acc hi => encodeTurn_eq t acc hi)
      (fun l _ => encodeNext_pos t l) [] (List.length_pos_iff.mpr h) (Nat.le_add_left _ _)
    simpa using hloop

/-- An ASCII byte is decoded to itself. -/
lemma decoded_ascii {b : UInt8} (h : b ≤ 0x7f) (rest : Bytes) :
    decoded t (b :: rest) = b :: decoded t rest := by
  have hlead : ¬ IsLead2 b := by
    rintro (⟨h1, -⟩ | rfl)
    · exact absurd (UInt8.le_trans h1 h) (by decide)
    · exact absurd h (by decide)
  have hnext : decodeNext t ([b] ++ rest) = ([b], [b].length) := by
    rw [List.singleton_append]
    unfold decodeNext
    dsimp only
    rw [if_neg hlead, if_pos h]
    rfl
  exact translit_append hnext (List.cons_ne_nil b [])

end Euc

end Yaskkserv2
