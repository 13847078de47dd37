import Yaskkserv2.Framework.LexOrder
import Yaskkserv2.Framework.LittleEndian

/-!
# Shared data of the server and the dictionary builder

The constants, enumerations and records of `src/skk.rs`, with the raw memory images in which the
records of the dictionary file are written and read.

A `u32` field is a `UInt32`, and `as u32` is `Nat.toUInt32`, which wraps as the cast does.  A
`[u8; 4]` key and a `[u8; 20]` digest are vectors, so their length is part of the type.  Memory
images are little-endian, the byte order of the shipped encoding table.
-/

namespace Yaskkserv2

open Framework

/-- A buffer of raw bytes. -/
abbrev Bytes := List UInt8

/-- A byte string literal. -/
def ascii (s : String) : Bytes := s.toList.map fun c => c.toNat.toUInt8

/-! ## Bytes with a meaning -/

abbrev LF : UInt8 := 0x0a
abbrev CR : UInt8 := 0x0d
abbrev TAB : UInt8 := 0x09
abbrev SP : UInt8 := 0x20
abbrev SLASH : UInt8 := 0x2f
abbrev SEMICOLON : UInt8 := 0x3b

/-! ## Constants -/

def DICTIONARY_FIXED_HEADER_AREA_LENGTH : ℕ := 256
def DICTIONARY_VERSION : UInt32 := 1
def JISYO_MAXIMUM_LINE_LENGTH : ℕ := 128 * 1024
def JISYO_MINIMUM_LINE_LENGTH : ℕ := 5
def JISYO_MINIMUM_CANDIDATES_LENGTH : ℕ := 3
def PROTOCOL_RESULT_ERROR : Bytes := [0x30, LF]
def INDEX_ASCII_HIRAGANA_VEC_LENGTH : ℕ := 256

/-! ## Enumerations -/

/-- `SkkError`, without the payloads of the wrapped foreign errors. -/
inductive SkkError where
  | io
  | parse
  | reqwest
  | string
  | json
  | bincode
  | jisyoRead
  | brokenCache
  | cacheOpen
  | brokenDictionary
  | commandLine
  | encoding
  | request
  deriving DecidableEq, Repr

/-- A call of the program. -/
abbrev Result (α : Type) := Outcome SkkError α

/-- `a + b` on `u32`.  An overflow stops the program, as it does with overflow checks. -/
def addU32 (a b : UInt32) : Result UInt32 :=
  if a.toNat + b.toNat < 2 ^ 32 then .ok (a + b) else .panic

lemma toNat_toUInt32_of_lt {n : ℕ} (h : n < 2 ^ 32) : n.toUInt32.toNat = n :=
  UInt32.toNat_ofNat_of_lt' h

lemma addU32_of_lt {a b : UInt32} (h : a.toNat + b.toNat < 2 ^ 32) :
    ∃ c, addU32 a b = .ok c ∧ c.toNat = a.toNat + b.toNat := by
  refine ⟨a + b, if_pos h, ?_⟩
  rw [UInt32.toNat_add, Nat.mod_eq_of_lt h]

/-- `a - b` on an unsigned type. -/
def checkedSub (a b : ℕ) : Result ℕ := if b ≤ a then .ok (a - b) else .panic

inductive Encoding where
  | Euc
  | Utf8
  deriving DecidableEq, Repr

inductive EncodingOptions where
  | None
  | Bom
  deriving DecidableEq, Repr

/-- `encoding as u32`. -/
def Encoding.toU32 : Encoding → UInt32
  | .Euc => 0
  | .Utf8 => 1

/-- `Encoding::from_u32`. -/
def Encoding.fromU32 (value : UInt32) : Result Encoding :=
  if value = 0 then .ok .Euc else if value = 1 then .ok .Utf8 else .panic

@[simp] lemma Encoding.fromU32_toU32 (e : Encoding) : Encoding.fromU32 e.toU32 = .ok e := by
  cases e <;> rfl

inductive GoogleTiming where
  | NotFound
  | Disable
  | Last
  | First
  deriving DecidableEq, Repr

/-- The settings that the modelled functions read. -/
structure Config where
  maxConnections : ℕ := 16
  hostnameAndIpAddressForProtocol3 : Bytes := ascii "localhost:127.0.0.1"
  googleTiming : GoogleTiming := .NotFound
  googleCacheEntries : ℕ := 1024
  googleCacheExpireSeconds : ℕ := 30 * 24 * 60 * 60
  maxServerCompletions : ℕ := 64
  isGoogleCacheEnabled : Bool := false
  isGoogleSuggestEnabled : Bool := false
  isMidashiUtf8 : Bool := false
  encoding : Encoding := .Euc

/-! ## Keys -/

/-- The first character of a midashi, padded with zeros. -/
abbrev DictionaryMidashiKey := Vector UInt8 4

/-- The order of `[u8; 4]`. -/
def keyCompare (a b : DictionaryMidashiKey) : Ordering := compare a.toList b.toList

instance : Std.TransCmp keyCompare :=
  inferInstanceAs (Std.TransCmp (compareOn Vector.toList))

instance : Std.LawfulEqCmp keyCompare where
  eq_of_compare {a b} h := by
    rw [keyCompare, Std.LawfulEqOrd.compare_eq_iff_eq] at h
    exact Vector.toList_inj.mp h

/-- Where the units of one key lie: the first midashi of the unit, and its place in the blocks. -/
structure DictionaryBlockInformation where
  midashi : Bytes
  offset : UInt32
  length : UInt32
  deriving DecidableEq, Repr

/-- `FxHashMap<DictionaryMidashiKey, Vec<DictionaryBlockInformation>>`. -/
abbrev IndexMap :=
  Std.ExtTreeMap DictionaryMidashiKey (List DictionaryBlockInformation) keyCompare

/-- `Vec<Vec<DictionaryBlockInformation>>`. -/
abbrev IndexAsciiHiraganaVec := List (List DictionaryBlockInformation)

/-! ## Records of the dictionary file -/

/-- `std::ptr::read_unaligned` of a record of `size` bytes: reading past the buffer is undefined,
and counts as a panic. -/
def readUnaligned {α : Type} (size : ℕ) (bytes : Bytes) (read : Bytes → α) : Result α :=
  if size ≤ bytes.length then .ok (read bytes) else .panic

lemma readUnaligned_of_le {α : Type} {size : ℕ} {bytes : Bytes} (h : size ≤ bytes.length)
    (read : Bytes → α) : readUnaligned size bytes read = .ok (read bytes) := if_pos h

/-- The `[u8; n]` at the front of a buffer, filled up with zeros. -/
def arrayAt (n : ℕ) (bytes : Bytes) : Vector UInt8 n := Vector.ofFn fun i => bytes.getD i 0

lemma arrayAt_append {n : ℕ} (v : Vector UInt8 n) (rest : Bytes) :
    arrayAt n (v.toList ++ rest) = v := by
  ext i hi
  rw [arrayAt, Vector.getElem_ofFn]
  simp [List.getElem?_append, hi]

structure DictionaryBlockHeads where
  informationLength : UInt32
  informationMidashiLength : UInt32
  dictionaryMidashiKey : DictionaryMidashiKey
  deriving DecidableEq

namespace DictionaryBlockHeads

def size : ℕ := 12

def toNeBytes (h : DictionaryBlockHeads) : Bytes :=
  leU32 h.informationLength ++ (leU32 h.informationMidashiLength ++
    h.dictionaryMidashiKey.toList)

def fromNeBytes (bytes : Bytes) : Result DictionaryBlockHeads :=
  readUnaligned size bytes fun bytes =>
    { informationLength := ofLeU32 bytes
      informationMidashiLength := ofLeU32 (bytes.drop 4)
      dictionaryMidashiKey := arrayAt 4 (bytes.drop 8) }

@[simp] lemma length_toNeBytes (h : DictionaryBlockHeads) : h.toNeBytes.length = size := by
  simp [toNeBytes, size]

@[simp] lemma fromNeBytes_append (h : DictionaryBlockHeads) (rest : Bytes) :
    fromNeBytes (h.toNeBytes ++ rest) = .ok h := by
  rw [fromNeBytes, readUnaligned_of_le (by simp)]
  simp [toNeBytes, List.drop_append, arrayAt_append, List.drop_eq_nil_of_le]

end DictionaryBlockHeads

structure BlockInformationOffsetLength where
  offset : UInt32
  length : UInt32
  deriving DecidableEq

namespace BlockInformationOffsetLength

def size : ℕ := 8

def toNeBytes (h : BlockInformationOffsetLength) : Bytes := leU32 h.offset ++ leU32 h.length

def fromNeBytes (bytes : Bytes) : Result BlockInformationOffsetLength :=
  readUnaligned size bytes fun bytes =>
    { offset := ofLeU32 bytes
      length := ofLeU32 (bytes.drop 4) }

@[simp] lemma length_toNeBytes (h : BlockInformationOffsetLength) :
    h.toNeBytes.length = size := by
  simp [toNeBytes, size]

@[simp] lemma fromNeBytes_append (h : BlockInformationOffsetLength) (rest : Bytes) :
    fromNeBytes (h.toNeBytes ++ rest) = .ok h := by
  rw [fromNeBytes, readUnaligned_of_le (by simp)]
  simp [toNeBytes]

end BlockInformationOffsetLength

structure IndexDataHeader where
  blockBufferLength : UInt32 := 0
  blockHeaderLength : UInt32 := 0
  deriving DecidableEq

namespace IndexDataHeader

def size : ℕ := 8

def toNeBytes (h : IndexDataHeader) : Bytes :=
  leU32 h.blockBufferLength ++ leU32 h.blockHeaderLength

def fromNeBytes (bytes : Bytes) : Result IndexDataHeader :=
  readUnaligned size bytes fun bytes =>
    { blockBufferLength := ofLeU32 bytes
      blockHeaderLength := ofLeU32 (bytes.drop 4) }

@[simp] lemma length_toNeBytes (h : IndexDataHeader) : h.toNeBytes.length = size := by
  simp [toNeBytes, size]

@[simp] lemma fromNeBytes_append (h : IndexDataHeader) (rest : Bytes) :
    fromNeBytes (h.toNeBytes ++ rest) = .ok h := by
  rw [fromNeBytes, readUnaligned_of_le (by simp)]
  simp [toNeBytes]

end IndexDataHeader

structure IndexDataHeaderBlockHeader where
  offset : UInt32
  length : UInt32
  unitLength : UInt32
  deriving DecidableEq

namespace IndexDataHeaderBlockHeader

def size : ℕ := 12

def toNeBytes (h : IndexDataHeaderBlockHeader) : Bytes :=
  leU32 h.offset ++ (leU32 h.length ++ leU32 h.unitLength)

def fromNeBytes (bytes : Bytes) : Result IndexDataHeaderBlockHeader :=
  readUnaligned size bytes fun bytes =>
    { offset := ofLeU32 bytes
      length := ofLeU32 (bytes.drop 4)
      unitLength := ofLeU32 (bytes.drop 8) }

@[simp] lemma length_toNeBytes (h : IndexDataHeaderBlockHeader) :
    h.toNeBytes.length = size := by
  simp [toNeBytes, size]

@[simp] lemma fromNeBytes_append (h : IndexDataHeaderBlockHeader) (rest : Bytes) :
    fromNeBytes (h.toNeBytes ++ rest) = .ok h := by
  rw [fromNeBytes, readUnaligned_of_le (by simp)]
  simp [toNeBytes, List.drop_append, List.drop_eq_nil_of_le]

end IndexDataHeaderBlockHeader

/-- A SHA-1 digest. -/
abbrev Digest := Vector UInt8 20

def SHA1SUM_ZERO : Digest := Vector.replicate 20 0

structure DictionaryFixedHeader where
  dictionaryVersion : UInt32 := DICTIONARY_VERSION
  encodingTableOffset : UInt32 := 0
  encodingTableLength : UInt32 := 0
  indexDataHeaderOffset : UInt32 := 0
  indexDataHeaderLength : UInt32 := 0
  indexDataOffset : UInt32 := 0
  indexDataLength : UInt32 := 0
  blocksOffset : UInt32 := 0
  blocksLength : UInt32 := 0
  dictionaryLength : UInt32 := 0
  encoding : UInt32 := 0
  sha1sum : Digest := SHA1SUM_ZERO
  deriving DecidableEq

namespace DictionaryFixedHeader

def size : ℕ := 64

def toNeBytes (h : DictionaryFixedHeader) : Bytes :=
  leU32 h.dictionaryVersion ++ (leU32 h.encodingTableOffset ++ (leU32 h.encodingTableLength ++
  (leU32 h.indexDataHeaderOffset ++ (leU32 h.indexDataHeaderLength ++
  (leU32 h.indexDataOffset ++ (leU32 h.indexDataLength ++ (leU32 h.blocksOffset ++
  (leU32 h.blocksLength ++ (leU32 h.dictionaryLength ++ (leU32 h.encoding ++
  h.sha1sum.toList))))))))))

def fromNeBytes (bytes : Bytes) : Result DictionaryFixedHeader :=
  readUnaligned size bytes fun bytes =>
    { dictionaryVersion := ofLeU32 bytes
      encodingTableOffset := ofLeU32 (bytes.drop 4)
      encodingTableLength := ofLeU32 (bytes.drop 8)
      indexDataHeaderOffset := ofLeU32 (bytes.drop 12)
      indexDataHeaderLength := ofLeU32 (bytes.drop 16)
      indexDataOffset := ofLeU32 (bytes.drop 20)
      indexDataLength := ofLeU32 (bytes.drop 24)
      blocksOffset := ofLeU32 (bytes.drop 28)
      blocksLength := ofLeU32 (bytes.drop 32)
      dictionaryLength := ofLeU32 (bytes.drop 36)
      encoding := ofLeU32 (bytes.drop 40)
      sha1sum := arrayAt 20 (bytes.drop 44) }

@[simp] lemma length_toNeBytes (h : DictionaryFixedHeader) : h.toNeBytes.length = size := by
  simp [toNeBytes, size]

@[simp] lemma fromNeBytes_append (h : DictionaryFixedHeader) (rest : Bytes) :
    fromNeBytes (h.toNeBytes ++ rest) = .ok h := by
  rw [fromNeBytes, readUnaligned_of_le (by simp)]
  simp [toNeBytes, List.drop_append, arrayAt_append, List.drop_eq_nil_of_le]

end DictionaryFixedHeader

/-- What the server keeps of a dictionary. -/
structure OnMemory where
  dictionaryFixedHeader : DictionaryFixedHeader
  indexMap : IndexMap
  indexAsciiHiraganaVec : IndexAsciiHiraganaVec

/-- `OnMemory::get_ascii_hiragana_vec_index`: an ASCII key has the slot of its byte, a key of the
hiragana row the slot of its second byte. -/
def getAsciiHiraganaVecIndex (key : DictionaryMidashiKey) : Option ℕ :=
  if key[0] ≤ 0x7f then some key[0].toNat
  else if key[0] = 0xa4 then some key[1].toNat
  else none

end Yaskkserv2
