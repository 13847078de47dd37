import Yaskkserv2.EncodingSimple.EncodingTableGet
import Yaskkserv2.EncodingSimple.Euc
import Yaskkserv2.Framework.Assignment

/-!
# What the rows of the shipped table are

The encoding table pairs EUC codes with characters.  `singles` and `combinations` are its rows as
such pairs, without the padding.  A row of a single character is an ASCII byte with itself, a
control character of U+0080–U+009F with a single byte, or a code of two or three bytes with a
character of two to four bytes (`rowShape`); no code stands in two rows, and no two characters
have the same number in the tables of the encoder.

These are facts about 11431 rows, computed by the kernel.  The checks are written on the digits of
the rows, with the functions on `ℕ` that the kernel computes directly.
-/

namespace Yaskkserv2

open Framework

/-! ## Codes and characters -/

/-- An EUC code of two or three bytes. -/
def IsCode : Bytes → Prop
  | [b₀, b₁] => Euc.IsLead2 b₀ ∧ IsTrail b₁
  | [b₀, b₁, b₂] => b₀ = 0x8f ∧ IsTrail b₁ ∧ IsTrail b₂
  | _ => False

/-- The bytes of a character of more than one byte: a lead byte and continuation bytes. -/
def IsMultibyte : Bytes → Prop
  | [b₀, b₁] => (0xc2 ≤ b₀ ∧ b₀ ≤ 0xdf) ∧ isContinuation b₁
  | [b₀, b₁, b₂] => (0xe0 ≤ b₀ ∧ b₀ ≤ 0xef) ∧ isContinuation b₁ ∧ isContinuation b₂
  | [b₀, b₁, b₂, b₃] =>
    (0xf0 ≤ b₀ ∧ b₀ ≤ 0xf7) ∧ isContinuation b₁ ∧ isContinuation b₂ ∧ isContinuation b₃
  | _ => False

/-- A control character of U+0080–U+009F. -/
def IsC1Control (c : Bytes) : Prop := ∃ b, c = [0xc2, b] ∧ b ≤ 0x9f

/-- Bytes filled up with zeros. -/
def pad (length : ℕ) (bytes : Bytes) : Bytes := bytes ++ List.replicate (length - bytes.length) 0

/-- Bytes without the zeros that fill them up.  The first byte is no filling. -/
def unpad : Bytes → Bytes
  | [] => []
  | b :: bytes => b :: bytes.takeWhile (· ≠ 0)

namespace EncodingTable

/-! ## The rows as pairs -/

/-- The EUC code of a row. -/
def euc3 (n : ℕ) : Bytes := bigEndian 3 (n >>> 32)

/-- The character of a row. -/
def utf8 (n : ℕ) : Bytes := bigEndian 4 n

/-- The rows of single characters: a code and its character. -/
def singles : List (Bytes × Bytes) := eucUtf8.map fun n => (unpad (euc3 n), unpad (utf8 n))

/-- The rows of combining characters: a code and its two characters. -/
def combinations : List (Bytes × Bytes × Bytes) :=
  eucUtf8Combine.map fun n => (unpad (euc3 (n >>> 32)), unpad (utf8 (n >>> 32)), unpad (utf8 n))

/-- What a row of a single character can be, with the padding. -/
inductive RowShape : Bytes → Bytes → Prop
  | ascii {b : UInt8} (hb : b ≤ 0x7f) : RowShape [b, 0, 0] [b, 0, 0, 0]
  | c1Control {b : UInt8} (hb : 0x80 ≤ b ∧ b ≤ 0x9f) : RowShape [b, 0, 0] [0xc2, b, 0, 0]
  | multibyte {e c : Bytes} (he : IsCode e) (hc : IsMultibyte c) (hc1 : ¬ IsC1Control c) :
    RowShape (pad 3 e) (pad 4 c)

/-! ## The digits of a row -/

/-- The value of a byte of a row. -/
def digit (n k : ℕ) : ℕ := n >>> (8 * k) % 256

lemma toNat_byteAt (n k : ℕ) : (byteAt n k).toNat = digit n k := by
  simp [byteAt, digit]

lemma byteAt_eq_iff {n k : ℕ} {b : UInt8} : byteAt n k = b ↔ digit n k = b.toNat := by
  rw [← UInt8.toNat_inj, toNat_byteAt]

lemma le_byteAt_iff {n k : ℕ} {b : UInt8} : b ≤ byteAt n k ↔ b.toNat ≤ digit n k := by
  rw [UInt8.le_iff_toNat_le, toNat_byteAt]

lemma byteAt_le_iff {n k : ℕ} {b : UInt8} : byteAt n k ≤ b ↔ digit n k ≤ b.toNat := by
  rw [UInt8.le_iff_toNat_le, toNat_byteAt]

lemma byteAt_shiftRight (n k : ℕ) : byteAt (n >>> 32) k = byteAt n (k + 4) := by
  rw [byteAt, byteAt, ← Nat.shiftRight_add]
  congr 2
  omega

lemma euc3_eq (n : ℕ) : euc3 n = [byteAt n 6, byteAt n 5, byteAt n 4] := by
  change [byteAt (n >>> 32) 2, byteAt (n >>> 32) 1, byteAt (n >>> 32) 0] = _
  rw [byteAt_shiftRight, byteAt_shiftRight, byteAt_shiftRight]

lemma utf8_eq (n : ℕ) : utf8 n = [byteAt n 3, byteAt n 2, byteAt n 1, byteAt n 0] := rfl

lemma bigEndian_seven (n : ℕ) : bigEndian 7 n = euc3 n ++ utf8 n := by
  rw [euc3_eq]
  rfl

/-! ## The checks -/

def isWithin (low high d : ℕ) : Bool := Nat.ble low d && Nat.ble d high

lemma isWithin_iff {low high d : ℕ} : isWithin low high d = true ↔ low ≤ d ∧ d ≤ high := by
  rw [isWithin, Bool.and_eq_true, Nat.ble_eq, Nat.ble_eq]

/-- A row of an ASCII byte, or of a control character of U+0080–U+009F. -/
def isSingleByteRow (n : ℕ) : Bool :=
  Nat.beq (digit n 5) 0 && Nat.beq (digit n 4) 0 && Nat.beq (digit n 1) 0 &&
    Nat.beq (digit n 0) 0 &&
    (Nat.ble (digit n 6) 0x7f && Nat.beq (digit n 3) (digit n 6) && Nat.beq (digit n 2) 0 ||
      isWithin 0x80 0x9f (digit n 6) && Nat.beq (digit n 3) 0xc2 &&
        Nat.beq (digit n 2) (digit n 6))

/-- A row of a code of two or three bytes. -/
def isCodeRow (n : ℕ) : Bool :=
  isWithin 0xa1 0xfe (digit n 5) &&
    ((isWithin 0xa1 0xfe (digit n 6) || Nat.beq (digit n 6) 0x8e) && Nat.beq (digit n 4) 0 ||
      Nat.beq (digit n 6) 0x8f && isWithin 0xa1 0xfe (digit n 4))

/-- A row of a character of two bytes, past the control characters. -/
def isCharacter2Row (n : ℕ) : Bool :=
  isWithin 0xc2 0xdf (digit n 3) && isWithin 0x80 0xbf (digit n 2) && Nat.beq (digit n 1) 0 &&
    Nat.beq (digit n 0) 0 && (Nat.ble 0xc3 (digit n 3) || Nat.ble 0xa0 (digit n 2))

/-- The three bytes of a character as one number; it is `0xe2080` above the code point. -/
def number3 (n : ℕ) : ℕ := digit n 3 * 4096 + digit n 2 * 64 + digit n 1

/-- A row of a character of three bytes, with a slot of its own in the vector of the encoder. -/
def isCharacter3Row (n : ℕ) : Bool :=
  isWithin 0xe0 0xef (digit n 3) && isWithin 0x80 0xbf (digit n 2) &&
    isWithin 0x80 0xbf (digit n 1) && Nat.beq (digit n 0) 0 &&
    (isWithin 0xe3ebe 0xec6a6 (number3 n) || isWithin 0xefb5f 0xf201f (number3 n)) &&
    !Nat.beq (number3 n) 0xe3ec0

/-- A row of a character of four bytes; all of them are on one plane. -/
def isCharacter4Row (n : ℕ) : Bool :=
  Nat.beq (digit n 3) 0xf0 && isWithin 0xa0 0xbf (digit n 2) && isWithin 0x80 0xbf (digit n 1) &&
    isWithin 0x80 0xbf (digit n 0)

def isMultibyteRow (n : ℕ) : Bool :=
  isCharacter2Row n || isCharacter3Row n || isCharacter4Row n

/-- A number for the code of a row, one for each code. -/
def codeNumber (n : ℕ) : ℕ :=
  bif Nat.beq (digit n 4) 0 then digit n 6 * 256 + digit n 5
  else (digit n 5 - 0x80) * 128 + (digit n 4 - 0x80)

/-- A number for the character of a row; for a character of three bytes it is its slot in the
vector of the encoder, after those of the shorter ones. -/
def characterNumber (n : ℕ) : ℕ :=
  bif Nat.ble (digit n 3) 0xdf then digit n 3 * 64 + digit n 2
  else bif Nat.ble (digit n 3) 0xef then
    bif Nat.ble (number3 n) 0xefb5e then number3 n - 0xe3ebe + 0x4000
    else number3 n - 0xe9837 + 0x4000
  else 0xc800 + (digit n 2 - 0xa0) * 4096 + (digit n 1 - 0x80) * 64 + (digit n 0 - 0x80)

/-- The rows computed through, one check after the other: the kernel holds the terms of one check at
a time. -/
lemma checkedRows :
    (eucUtf8.take 160).all isSingleByteRow = true ∧
    (eucUtf8.drop 160).all (fun n => isCodeRow n && isMultibyteRow n) = true ∧
    areDistinct ((eucUtf8Combine.map (· >>> 32) ++ eucUtf8).map codeNumber) 0 = true ∧
    areDistinct (eucUtf8.map characterNumber) 0 = true := by
  refine ⟨?_, ?_, ?_, ?_⟩
  · decide +kernel
  · rw [← List.take_append_drop 5600 (eucUtf8.drop 160), List.all_append, Bool.and_eq_true]
    constructor
    · decide +kernel
    · decide +kernel
  · decide +kernel
  · decide +kernel

theorem isSingleByteRow_take : (eucUtf8.take 160).all isSingleByteRow = true := checkedRows.1

theorem isMultibyteRow_drop :
    (eucUtf8.drop 160).all (fun n => isCodeRow n && isMultibyteRow n) = true := checkedRows.2.1

/-- No code stands in two rows, of whichever kind. -/
theorem areDistinct_codeNumber :
    areDistinct ((eucUtf8Combine.map (· >>> 32) ++ eucUtf8).map codeNumber) 0 = true :=
  checkedRows.2.2.1

/-- No character stands in two rows, and none is folded onto another by the encoder. -/
theorem areDistinct_characterNumber : areDistinct (eucUtf8.map characterNumber) 0 = true :=
  checkedRows.2.2.2

end EncodingTable

end Yaskkserv2
