import Yaskkserv2.EncodingSimple.Tables
import Yaskkserv2.Framework.Occurrence

/-!
# Loading a dictionary

`src/skk/dictionary.rs`: the key of a midashi, the split of a jisyo line, and `Dictionary::setup`
with the loader of the index.  A file is its bytes; the reader of the source is a position in
them, so `seek` is an argument and `read_exact` fails where the file ends too early.

SHA-1 is an arbitrary function from bytes to digests, and a hasher is what it has been fed.
-/

namespace Yaskkserv2

open Framework

/-- `seek` to `position` and `read_exact` of `length` bytes. -/
def readExact (file : Bytes) (position length : ℕ) : Result Bytes :=
  let read := (file.drop position).take length
  if read.length = length then .ok read else .error .io

namespace Dictionary

/-! ## Keys and lines -/

/-- `Dictionary::get_dictionary_midashi_key`. -/
def getDictionaryMidashiKey (eucBuffer : Bytes) : Result DictionaryMidashiKey := do
  let b₀ ← index eucBuffer 0
  if (0xa1 ≤ b₀ ∧ b₀ ≤ 0xfe) ∨ b₀ = 0x8e then
    let b₁ ← index eucBuffer 1
    return #v[b₀, b₁, 0, 0]
  else if b₀ ≤ 0x7f then return #v[b₀, 0, 0, 0]
  else if b₀ = 0x8f then
    let b₁ ← index eucBuffer 1
    let b₂ ← index eucBuffer 2
    return #v[b₀, b₁, b₂, 0]
  else .error .encoding

/-- `Dictionary::get_midashi_candidates`: what stands before the first space, and what stands
between it and the last slash. -/
def getMidashiCandidates (buffer : Bytes) : Result (Bytes × Bytes) :=
  match find [SP] buffer with
  | none => .error .jisyoRead
  | some space =>
    match rfind [SLASH] buffer with
    | none => .error .jisyoRead
    | some lastSlash => do
      let midashi ← sliceTo buffer space
      let candidates ← slice buffer (space + 1) (lastSlash + 1)
      return (midashi, candidates)

/-! ## The loader of the index -/

/-- `Dictionary::get_joined_midashi`. -/
def getJoinedMidashi (buffer : Bytes)
    (bufferOffset dictionaryBlockInformationsLength joinedMidashiLength : ℕ) :
    Result (List Bytes) := do
  let joinedMidashiOffset := bufferOffset + DictionaryBlockHeads.size +
    dictionaryBlockInformationsLength * BlockInformationOffsetLength.size
  let joined ← slice buffer joinedMidashiOffset (joinedMidashiOffset + joinedMidashiLength)
  return joined.splitOn SP

/-- The `i`-th `DictionaryBlockInformation` of a unit, whose midashi is already at hand. -/
def readBlockInformation (buffer : Bytes) (bufferOffset i : ℕ) (midashi : Bytes) :
    Result DictionaryBlockInformation := do
  let bytes ← sliceFrom buffer (bufferOffset + DictionaryBlockHeads.size +
    i * BlockInformationOffsetLength.size)
  let offsetLength ← BlockInformationOffsetLength.fromNeBytes bytes
  return ⟨midashi, offsetLength.offset, offsetLength.length⟩

/-- The `for` loop over the joined midashi of a unit, from the `i`-th on. -/
def readBlockInformations (buffer : Bytes) (bufferOffset : ℕ) :
    ℕ → List Bytes → Result (List DictionaryBlockInformation)
  | _, [] => .ok []
  | i, midashi :: rest => do
    let information ← readBlockInformation buffer bufferOffset i midashi
    let informations ← readBlockInformations buffer bufferOffset (i + 1) rest
    return information :: informations

/-- The two tables that the loader fills. -/
structure Index where
  indexMap : IndexMap := ∅
  indexAsciiHiraganaVec : IndexAsciiHiraganaVec :=
    List.replicate INDEX_ASCII_HIRAGANA_VEC_LENGTH []

/-- Puts the units of a key where `get_ascii_hiragana_vec_index` says. -/
def Index.insert (t : Index) (key : DictionaryMidashiKey)
    (informations : List DictionaryBlockInformation) : Result Index :=
  match getAsciiHiraganaVecIndex key with
  | some i =>
    if i < t.indexAsciiHiraganaVec.length then
      .ok { t with indexAsciiHiraganaVec := t.indexAsciiHiraganaVec.set i informations }
    else .panic
  | none => .ok { t with indexMap := t.indexMap.insert key informations }

/-- A turn of the loop of `Dictionary::update_index_map_and_index_ascii_hiragana_vec`: one unit
of the index data, and where the next one begins. -/
def readIndexUnit (buffer : Bytes) (bufferOffset : ℕ) (t : Index) : Result (ℕ × Index) := do
  let heads ← DictionaryBlockHeads.fromNeBytes (← sliceFrom buffer bufferOffset)
  let joinedMidashi ← getJoinedMidashi buffer bufferOffset heads.informationLength.toNat
    heads.informationMidashiLength.toNat
  if joinedMidashi.length ≠ heads.informationLength.toNat then .panic
  else
    let informations ← readBlockInformations buffer bufferOffset 0 joinedMidashi
    let t ← t.insert heads.dictionaryMidashiKey informations
    return (bufferOffset + DictionaryBlockHeads.size +
      heads.informationLength.toNat * BlockInformationOffsetLength.size +
      heads.informationMidashiLength.toNat, t)

/-- The loop of `Dictionary::update_index_map_and_index_ascii_hiragana_vec`, with that many units
to go. -/
def updateIndexFrom (buffer : Bytes) : ℕ → ℕ → Index → Result Index
  | 0, _, t => .ok t
  | n + 1, bufferOffset, t => do
    let (bufferOffset, t) ← readIndexUnit buffer bufferOffset t
    updateIndexFrom buffer n bufferOffset t

/-- `Dictionary::update_index_map_and_index_ascii_hiragana_vec`. -/
def updateIndexMapAndIndexAsciiHiraganaVec (header : IndexDataHeaderBlockHeader) (buffer : Bytes)
    (t : Index) : Result Index :=
  updateIndexFrom buffer header.unitLength.toNat 0 t

def BLOCK_BUFFER_LENGTH_LIMIT : ℕ := 2 * 1024 * 1024

/-- `read_exact(&mut buffer[..length])`: the front of the buffer is overwritten. -/
def readExactInto (buffer file : Bytes) (position length : ℕ) : Result Bytes := do
  let _ ← sliceTo buffer length
  let read ← readExact file position length
  return read ++ buffer.drop length

/-- A turn of the loop over the block headers: the buffer is kept from turn to turn. -/
def readIndexBlock (indexDataOffset : UInt32) (file headerBuffer : Bytes) (i : ℕ)
    (s : Bytes × Index) : Result (Bytes × Index) := do
  let header ← IndexDataHeaderBlockHeader.fromNeBytes (← sliceFrom headerBuffer
    (IndexDataHeader.size + i * IndexDataHeaderBlockHeader.size))
  let position ← addU32 indexDataOffset header.offset
  let buffer ← readExactInto s.1 file position.toNat header.length.toNat
  let t ← updateIndexMapAndIndexAsciiHiraganaVec header buffer s.2
  return (buffer, t)

/-- The loop over the block headers, from the `i`-th on with that many to go. -/
def readIndexBlocks (indexDataOffset : UInt32) (file headerBuffer : Bytes) :
    ℕ → ℕ → Bytes × Index → Result (Bytes × Index)
  | 0, _, s => .ok s
  | n + 1, i, s => do
    let s ← readIndexBlock indexDataOffset file headerBuffer i s
    readIndexBlocks indexDataOffset file headerBuffer n (i + 1) s

/-- `Dictionary::create_index_map_and_index_ascii_hiragana_vec`. -/
def createIndexMapAndIndexAsciiHiraganaVec (indexDataOffset : UInt32) (file headerBuffer : Bytes) :
    Result Index := do
  let header ← IndexDataHeader.fromNeBytes headerBuffer
  if header.blockBufferLength.toNat < BLOCK_BUFFER_LENGTH_LIMIT then
    let buffer := List.replicate header.blockBufferLength.toNat 0
    let s ← readIndexBlocks indexDataOffset file headerBuffer header.blockHeaderLength.toNat 0
      (buffer, {})
    return s.2
  else .panic

/-! ## `Dictionary::setup` -/

/-- The bytes that a hasher is fed by the loop of `validate_except_dictionary_fixed_header`: reads
of at most `readLength` bytes each from `position` on, until nothing is left of the first
`dictionaryLength` bytes. -/
def scanFile (file : Bytes) (readLength dictionaryLength : ℕ) : ℕ → ℕ → Bytes → Result (ℕ × Bytes)
  | 0, _, _ => .diverge
  | fuel + 1, position, hasher =>
    let read := ((file.take dictionaryLength).drop position).take readLength
    if read = [] then .ok (position, hasher)
    else scanFile file readLength dictionaryLength fuel (position + read.length) (hasher ++ read)

/-- `Dictionary::validate_except_dictionary_fixed_header`. -/
def validateExceptDictionaryFixedHeader (sha1 : Bytes → Digest) (sha1ReadBufferLength : ℕ)
    (file hasher : Bytes) (dictionaryLength : ℕ) (sha1sum : Digest) : Result Unit := do
  let _ ← checkedSub dictionaryLength DICTIONARY_FIXED_HEADER_AREA_LENGTH
  let (totalScanLength, hasher) ← scanFile file sha1ReadBufferLength dictionaryLength
    (file.length + 1) DICTIONARY_FIXED_HEADER_AREA_LENGTH hasher
  if totalScanLength ≠ dictionaryLength then .error .brokenDictionary
  else if sha1sum ≠ sha1 hasher then .error .brokenDictionary
  else return ()

/-- `Dictionary::setup`, with the static tables as they are before and after it. -/
def setup (sha1 : Bytes → Digest) (sha1ReadBufferLength : ℕ) (initialized : Option EncodingTables)
    (file : Bytes) : Result (OnMemory × EncodingTables) := do
  let buffer ← readExact file 0 DICTIONARY_FIXED_HEADER_AREA_LENGTH
  let header ← DictionaryFixedHeader.fromNeBytes buffer
  let sha1sum := header.sha1sum
  let header := { header with sha1sum := SHA1SUM_ZERO }
  let buffer := header.toNeBytes ++ buffer.drop DictionaryFixedHeader.size
  validateExceptDictionaryFixedHeader sha1 sha1ReadBufferLength file buffer
    header.dictionaryLength.toNat sha1sum
  let encodingTable ← readExact file header.encodingTableOffset.toNat
    header.encodingTableLength.toNat
  let tables ← onceInitEncodingTable initialized encodingTable
  let buffer ← readExact file header.indexDataHeaderOffset.toNat
    header.indexDataHeaderLength.toNat
  let t ← createIndexMapAndIndexAsciiHiraganaVec header.indexDataOffset file buffer
  return (⟨header, t.indexMap, t.indexAsciiHiraganaVec⟩, tables)

end Dictionary

end Yaskkserv2
