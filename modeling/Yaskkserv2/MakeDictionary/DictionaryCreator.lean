import Yaskkserv2.Dictionary

/-!
# `DictionaryCreator`

From the entries of the merged jisyo to the bytes of a dictionary file: the blocks (one for each
key, cut into units of about two kilobytes), the index over their units, the fixed header, and
the file.

A `Vec` that a function of the source appends to is passed to it and returned, and the writer of
the file is the bytes written so far.
-/

namespace Yaskkserv2

open Framework

def HEADER_ALIGNMENT_LENGTH : UInt32 := 4 * 1024
def BLOCK_ALIGNMENT_LENGTH : UInt32 := 16
def INDEX_DATA_BLOCK_LENGTH : ℕ := 64 * 1024
def DICTIONARY_BLOCK_UNIT_LENGTH : ℕ := 2 * 1024

/-- `BTreeMap<Vec<u8>, Vec<u8>>`: midashi to candidates. -/
abbrev JisyoEntriesMap := Std.ExtTreeMap Bytes Bytes

/-- `BTreeMap<DictionaryMidashiKey, Vec<u8>>`: key to block. -/
abbrev TemporaryBlockMap := Std.ExtTreeMap DictionaryMidashiKey Bytes keyCompare

structure CreateIndexDataResult where
  indexDataHeader : Bytes
  indexData : Bytes
  blocks : Bytes
  deriving DecidableEq

namespace DictionaryCreator

/-! ## Cutting a block into units -/

/-- A turn of the loop of `get_max_entry_length`: `offset` and the maximum so far. -/
def getMaxEntryLengthTurn (buffer : Bytes) (s : ℕ × ℕ) : Result ((ℕ × ℕ) ⊕ ℕ) := do
  let tail ← sliceFrom buffer (s.1 + 1)
  match find [LF] tail with
  | none => .error .jisyoRead
  | some found =>
    let length := 1 + found + 1
    let maxEntryLength := if s.2 < length then length else s.2
    if 1 + s.1 + found + 1 = buffer.length then return .inr maxEntryLength
    else return .inl (s.1 + found + 1, maxEntryLength)

/-- `DictionaryCreator::get_max_entry_length`. -/
def getMaxEntryLength (buffer : Bytes) : Result ℕ :=
  loop (getMaxEntryLengthTurn buffer) (buffer.length + 1) (0, 0)

/-- `DictionaryCreator::get_block_aligned_length`. -/
def getBlockAlignedLength (length : UInt32) : Result UInt32 :=
  addU32 length (BLOCK_ALIGNMENT_LENGTH - length % BLOCK_ALIGNMENT_LENGTH)

/-- `DictionaryCreator::get_header_aligned_length`. -/
def getHeaderAlignedLength (length : UInt32) : Result UInt32 :=
  addU32 length (HEADER_ALIGNMENT_LENGTH - length % HEADER_ALIGNMENT_LENGTH)

/-- What the loop of `get_dictionary_block_informations` carries. -/
structure BlockState where
  offset : ℕ := 0
  alignedBlock : Bytes
  dictionaryBlockInformations : List DictionaryBlockInformation := []

/-- The padding that ends an aligned block. -/
def padAlignedBlock (alignedBlock : Bytes) : Result Bytes := do
  let alignedLength ← getBlockAlignedLength alignedBlock.length.toUInt32
  let paddingLength ← checkedSub alignedLength.toNat alignedBlock.length
  return alignedBlock ++ List.replicate paddingLength 0x58

/-- The length of the window of a turn, and whether the turn is the last: a unit at most, or what
is left, or the longest entry where nothing ends within a unit. -/
def getUnitLength (blockBuffer : Bytes) (maxEntryLength offset : ℕ) : Result (ℕ × Bool) := do
  let blockBufferLength := blockBuffer.length
  let shouldBreak := decide (offset + DICTIONARY_BLOCK_UNIT_LENGTH ≥ blockBufferLength)
  let unitLength ←
    if shouldBreak then checkedSub blockBufferLength offset else pure DICTIONARY_BLOCK_UNIT_LENGTH
  let window ← sliceTo blockBuffer (offset + unitLength)
  if rfind [LF] window = some offset then
    return (maxEntryLength, shouldBreak || blockBufferLength == maxEntryLength)
  else return (unitLength, shouldBreak)

/-- A turn of the loop of `get_dictionary_block_informations`. -/
def getDictionaryBlockInformationsTurn (blockBuffer : Bytes) (blocksLen maxEntryLength : ℕ)
    (s : BlockState) : Result (BlockState ⊕ (Bytes × List DictionaryBlockInformation)) := do
  let tail ← sliceFrom blockBuffer s.offset
  match find [SP] tail with
  | none => .error .jisyoRead
  | some found =>
    let (unitLength, shouldBreak) ← getUnitLength blockBuffer maxEntryLength s.offset
    let window ← sliceTo blockBuffer (s.offset + unitLength)
    match rfind [LF] window with
    | none => .error .jisyoRead
    | some rfound => do
      let piece ← slice blockBuffer s.offset rfound
      let midashi ← slice blockBuffer (s.offset + 1) (s.offset + found)
      let alignedBlock := s.alignedBlock ++ piece
      let dictionaryBlockInformations := s.dictionaryBlockInformations ++
        [⟨midashi, (blocksLen + s.offset).toUInt32, (rfound + 1 - s.offset).toUInt32⟩]
      if shouldBreak then
        let alignedBlock ← padAlignedBlock (alignedBlock ++ [LF])
        return .inr (alignedBlock, dictionaryBlockInformations)
      else return .inl ⟨rfound, alignedBlock, dictionaryBlockInformations⟩

/-- `DictionaryCreator::get_dictionary_block_informations`.  The turns after which the loop goes on
move `offset` forward, so it takes no more turns than the buffer has bytes. -/
def getDictionaryBlockInformations (blockBuffer : Bytes) (blocksLen : ℕ) (alignedBlock : Bytes) :
    Result (Bytes × List DictionaryBlockInformation) := do
  let maxEntryLength ← getMaxEntryLength blockBuffer
  let (alignedBlock, dictionaryBlockInformations) ←
    loop (getDictionaryBlockInformationsTurn blockBuffer blocksLen maxEntryLength)
      (blockBuffer.length + 1) { alignedBlock := alignedBlock }
  return (alignedBlock, dictionaryBlockInformations.reverse)

/-! ## Grouping the entries by key -/

/-- The line of an entry in a block. -/
def entryLine (midashi candidates : Bytes) : Bytes := midashi ++ [SP] ++ candidates ++ [LF]

/-- A turn of the loop of `create_temporary_block_map`. -/
def insertJisyoLine (temporaryBlockMap : TemporaryBlockMap) (jisyoLine : Bytes × Bytes) :
    Result TemporaryBlockMap := do
  let key ← Dictionary.getDictionaryMidashiKey jisyoLine.1
  let entry := entryLine jisyoLine.1 jisyoLine.2
  return temporaryBlockMap.insert key (temporaryBlockMap.getD key [LF] ++ entry)

/-- `DictionaryCreator::create_temporary_block_map`, from the merged entries on. -/
def createTemporaryBlockMap (jisyoEntriesMap : JisyoEntriesMap) : Result TemporaryBlockMap :=
  jisyoEntriesMap.toList.foldlM insertJisyoLine ∅

/-! ## The index and the blocks -/

/-- What the loop of `create_index_data` carries. -/
structure IndexDataState where
  indexDataHeader : Bytes := (({} : IndexDataHeader)).toNeBytes
  blockHeaderLength : ℕ := 0
  blockOffset : ℕ := 0
  blockLength : ℕ := 0
  blockUnitLength : ℕ := 0
  previousLength : ℕ := 0
  indexData : Bytes := []
  blocks : Bytes := []

/-- `join(&b' ')` of the midashi of the units. -/
def joinedMidashi (informations : List DictionaryBlockInformation) : Bytes :=
  [SP].intercalate (informations.map (·.midashi))

/-- The record of a key in the index data. -/
def indexRecord (key : DictionaryMidashiKey) (informations : List DictionaryBlockInformation) :
    Bytes :=
  let heads : DictionaryBlockHeads :=
    { informationLength := informations.length.toUInt32
      informationMidashiLength := (joinedMidashi informations).length.toUInt32
      dictionaryMidashiKey := key }
  heads.toNeBytes ++
    informations.flatMap (fun v => BlockInformationOffsetLength.toNeBytes ⟨v.offset, v.length⟩) ++
    joinedMidashi informations

/-- Writes the header of the block of index data that is complete. -/
def IndexDataState.pushBlockHeader (s : IndexDataState) : IndexDataState :=
  let header : IndexDataHeaderBlockHeader :=
    ⟨s.blockOffset.toUInt32, s.blockLength.toUInt32, s.blockUnitLength.toUInt32⟩
  { s with
    blockHeaderLength := s.blockHeaderLength + 1
    indexDataHeader := s.indexDataHeader ++ header.toNeBytes }

/-- Counts a record of the index data: it joins the current block, or begins a new one where the
current one would reach `INDEX_DATA_BLOCK_LENGTH`. -/
def IndexDataState.pushRecord (s : IndexDataState) (record : Bytes) : IndexDataState :=
  let indexData := s.indexData ++ record
  let currentIndexDataLength := indexData.length - s.previousLength
  if s.blockLength + currentIndexDataLength ≥ INDEX_DATA_BLOCK_LENGTH then
    { s.pushBlockHeader with
      indexData := indexData
      previousLength := indexData.length
      blockOffset := indexData.length - currentIndexDataLength
      blockLength := currentIndexDataLength
      blockUnitLength := 1 }
  else
    { s with
      indexData := indexData
      previousLength := indexData.length
      blockLength := s.blockLength + currentIndexDataLength
      blockUnitLength := s.blockUnitLength + 1 }

/-- A turn of the loop of `create_index_data`. -/
def pushBlock (s : IndexDataState) (keyAndBlock : DictionaryMidashiKey × Bytes) :
    Result IndexDataState := do
  let (alignedBlock, informations) ←
    getDictionaryBlockInformations keyAndBlock.2 s.blocks.length []
  let s := s.pushRecord (indexRecord keyAndBlock.1 informations)
  return { s with blocks := s.blocks ++ alignedBlock }

/-- What follows the loop of `create_index_data`: the last block header, and the header in front
of them, whose length is known only now. -/
def IndexDataState.finish (s : IndexDataState) : CreateIndexDataResult :=
  let s := if s.blockLength > 0 then s.pushBlockHeader else s
  let header : IndexDataHeader :=
    ⟨INDEX_DATA_BLOCK_LENGTH.toUInt32, s.blockHeaderLength.toUInt32⟩
  { indexDataHeader := header.toNeBytes ++ s.indexDataHeader.drop IndexDataHeader.size
    indexData := s.indexData
    blocks := s.blocks }

/-- `DictionaryCreator::create_index_data`, from the merged entries on. -/
def createIndexData (jisyoEntriesMap : JisyoEntriesMap) : Result CreateIndexDataResult := do
  let temporaryBlockMap ← createTemporaryBlockMap jisyoEntriesMap
  let s ← temporaryBlockMap.toList.foldlM pushBlock {}
  return s.finish

/-! ## The file -/

/-- `DictionaryCreator::create_dictionary_fixed_header`. -/
def createDictionaryFixedHeader
    (encodingTableLength indexDataHeaderLength indexDataLength blocksLength : ℕ)
    (encoding : Encoding) : Result (DictionaryFixedHeader × UInt32) := do
  let rawBlocksOffset := (DICTIONARY_FIXED_HEADER_AREA_LENGTH + encodingTableLength +
    indexDataHeaderLength + indexDataLength).toUInt32
  let alignedBlocksOffset ← getHeaderAlignedLength rawBlocksOffset
  let blocksPaddingLength := alignedBlocksOffset - rawBlocksOffset
  let encodingTableOffset := DICTIONARY_FIXED_HEADER_AREA_LENGTH
  let indexDataHeaderOffset := encodingTableOffset + encodingTableLength
  let indexDataOffset := indexDataHeaderOffset + indexDataHeaderLength
  let dictionaryLength := alignedBlocksOffset.toNat + blocksLength
  return (
    { dictionaryVersion := DICTIONARY_VERSION
      encodingTableOffset := encodingTableOffset.toUInt32
      encodingTableLength := encodingTableLength.toUInt32
      indexDataHeaderOffset := indexDataHeaderOffset.toUInt32
      indexDataHeaderLength := indexDataHeaderLength.toUInt32
      indexDataOffset := indexDataOffset.toUInt32
      indexDataLength := indexDataLength.toUInt32
      blocksOffset := alignedBlocksOffset
      blocksLength := blocksLength.toUInt32
      dictionaryLength := dictionaryLength.toUInt32
      encoding := encoding.toU32
      sha1sum := SHA1SUM_ZERO },
    blocksPaddingLength)

/-- What `write_and_calculate_hash` writes, and hashes in the same order. -/
def dictionaryBytes (fixedHeaderArea encodingTable : Bytes) (r : CreateIndexDataResult)
    (blocksPaddingLength : UInt32) : Bytes :=
  fixedHeaderArea ++ encodingTable ++ r.indexDataHeader ++ r.indexData ++
    List.replicate blocksPaddingLength.toNat 0 ++ r.blocks

/-- `DictionaryCreator::create`: the file it leaves.  `write_hash` opens the file again and writes
the header anew over its first bytes, now with the digest. -/
def create (sha1 : Bytes → Digest) (encoding : Encoding) (encodingTable : Bytes)
    (jisyoEntriesMap : JisyoEntriesMap) : Result Bytes := do
  let r ← createIndexData jisyoEntriesMap
  let (header, blocksPaddingLength) ← createDictionaryFixedHeader encodingTable.length
    r.indexDataHeader.length r.indexData.length r.blocks.length encoding
  let fixedHeaderArea := header.toNeBytes ++
    List.replicate (DICTIONARY_FIXED_HEADER_AREA_LENGTH - DictionaryFixedHeader.size) 0
  let bytes := dictionaryBytes fixedHeaderArea encodingTable r blocksPaddingLength
  let header := { header with sha1sum := sha1 bytes }
  return header.toNeBytes ++ bytes.drop DictionaryFixedHeader.size

end DictionaryCreator

end Yaskkserv2
