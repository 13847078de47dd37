import Yaskkserv2.Framework.Occurrence
import Yaskkserv2.Skk

/-!
# Looking at bytes

The helpers of `Utility`: how many bytes are left ahead of a cursor, and `detect_encoding`, which
guesses the encoding of a jisyo from its first bytes.  `isUtf8` is the check that
`String::from_utf8` makes.
-/

namespace Yaskkserv2

open Framework

/-! ## The bytes ahead of a cursor -/

def isEnough2Bytes (bufferLength index : ℕ) : Prop := index + 2 ≤ bufferLength
def isEnough3Bytes (bufferLength index : ℕ) : Prop := index + 3 ≤ bufferLength
def isEnough4Bytes (bufferLength index : ℕ) : Prop := index + 4 ≤ bufferLength
def isEnough6Bytes (bufferLength index : ℕ) : Prop := index + 6 ≤ bufferLength

instance (n i : ℕ) : Decidable (isEnough2Bytes n i) := inferInstanceAs (Decidable (_ ≤ _))
instance (n i : ℕ) : Decidable (isEnough3Bytes n i) := inferInstanceAs (Decidable (_ ≤ _))
instance (n i : ℕ) : Decidable (isEnough4Bytes n i) := inferInstanceAs (Decidable (_ ≤ _))
instance (n i : ℕ) : Decidable (isEnough6Bytes n i) := inferInstanceAs (Decidable (_ ≤ _))

/-! ## `String::from_utf8` -/

/-- A continuation byte of UTF-8. -/
def isContinuation (b : UInt8) : Bool := 0x80 ≤ b && b ≤ 0xbf

/-- Whether `String::from_utf8` accepts the bytes: the well-formed byte sequences of Unicode, so no
overlong form, no surrogate, and nothing above U+10FFFF. -/
def isUtf8 : Bytes → Bool
  | [] => true
  | b₀ :: rest =>
    if b₀ ≤ 0x7f then isUtf8 rest
    else
      match rest with
      | [] => false
      | b₁ :: rest =>
        if 0xc2 ≤ b₀ ∧ b₀ ≤ 0xdf then isContinuation b₁ && isUtf8 rest
        else
          match rest with
          | [] => false
          | b₂ :: rest =>
            if 0xe0 ≤ b₀ ∧ b₀ ≤ 0xef then
              isContinuation b₁ && isContinuation b₂ && (b₀ ≠ 0xe0 || 0xa0 ≤ b₁) &&
                (b₀ ≠ 0xed || b₁ ≤ 0x9f) && isUtf8 rest
            else
              match rest with
              | [] => false
              | b₃ :: rest =>
                0xf0 ≤ b₀ && b₀ ≤ 0xf4 && isContinuation b₁ && isContinuation b₂ &&
                  isContinuation b₃ && (b₀ ≠ 0xf0 || 0x90 ≤ b₁) && (b₀ ≠ 0xf4 || b₁ ≤ 0x8f) &&
                  isUtf8 rest

/-- An ASCII text is UTF-8. -/
lemma isUtf8_of_ascii {bytes : Bytes} (h : ∀ b ∈ bytes, b ≤ 0x7f) : isUtf8 bytes = true := by
  induction bytes with
  | nil => rfl
  | cons b bytes ih =>
    rw [isUtf8.eq_def]
    dsimp only
    rw [if_pos (h b List.mem_cons_self)]
    exact ih fun c hc => h c (List.mem_cons_of_mem b hc)

/-- ASCII in front of a text does not change whether it is UTF-8. -/
lemma isUtf8_append_ascii {bytes rest : Bytes} (h : ∀ b ∈ bytes, b ≤ 0x7f) :
    isUtf8 (bytes ++ rest) = isUtf8 rest := by
  induction bytes with
  | nil => rfl
  | cons b bytes ih =>
    rw [List.cons_append, isUtf8.eq_def]
    dsimp only
    rw [if_pos (h b List.mem_cons_self)]
    exact ih fun c hc => h c (List.mem_cons_of_mem b hc)

/-! ## `Utility::detect_encoding` -/

/-- What a turn of the scan does with the four bytes at its place: how far it moves, and what it
adds to the counts of valid and of invalid characters. -/
def scanUtf8 (buffer₀ buffer₁ buffer₂ buffer₃ : UInt8) : ℕ × ℤ × ℤ :=
  if (0xc2 ≤ buffer₀ ∧ buffer₀ ≤ 0xdf) ∧ isContinuation buffer₁ then (2, 1, 0)
  else if (0xe0 ≤ buffer₀ ∧ buffer₀ ≤ 0xef) ∧ isContinuation buffer₁ ∧ isContinuation buffer₂ then
    (3, 1, 0)
  else if (0xf0 ≤ buffer₀ ∧ buffer₀ ≤ 0xf7) ∧ isContinuation buffer₁ ∧ isContinuation buffer₂ ∧
      isContinuation buffer₃ then (4, 1, 0)
  else if 0x01 ≤ buffer₀ ∧ buffer₀ ≤ 0x7f then (1, 0, 0)
  else (1, 0, 1)

/-- The loop of the scan: while `i < buffer.len() - 3`. -/
def detectLoop (buffer : Bytes) : ℕ → ℕ → ℤ → ℤ → Result (ℤ × ℤ)
  | 0, _, _, _ => .diverge
  | fuel + 1, i, utf8ValidCount, utf8InvalidCount => do
    if i < buffer.length - 3 then
      let buffer₀ ← index buffer i
      let buffer₁ ← index buffer (i + 1)
      let buffer₂ ← index buffer (i + 2)
      let buffer₃ ← index buffer (i + 3)
      let (length, valid, invalid) := scanUtf8 buffer₀ buffer₁ buffer₂ buffer₃
      detectLoop buffer fuel (i + length) (utf8ValidCount + valid) (utf8InvalidCount + invalid)
    else return (utf8ValidCount, utf8InvalidCount)

/-- `Utility::detect_encoding`.  With fewer than three bytes `buffer.len() - 3` underflows. -/
def detectEncoding (buffer : Bytes) : Result (Encoding × EncodingOptions) := do
  if 3 < buffer.length ∧ buffer.take 3 = [0xef, 0xbb, 0xbf] then return (.Utf8, .Bom)
  let _ ← checkedSub buffer.length 3
  let (utf8ValidCount, utf8InvalidCount) ← detectLoop buffer (buffer.length + 1) 0 0 0
  let ambiguousThreshold : ℤ := buffer.length / 100
  if |utf8ValidCount - utf8InvalidCount| < ambiguousThreshold then
    if (find (ascii "coding: euc-") buffer).isSome then return (.Euc, .None)
    if (find (ascii "coding: utf-8") buffer).isSome then return (.Utf8, .None)
    let nearZeroThreshold : ℤ := min 1000 (buffer.length / 1000)
    if utf8ValidCount ≤ nearZeroThreshold ∧ utf8InvalidCount ≤ nearZeroThreshold then
      return (.Euc, .None)
    .error .encoding
  else if utf8ValidCount > utf8InvalidCount then return (.Utf8, .None)
  else return (.Euc, .None)

end Yaskkserv2
