import Yaskkserv2.Properties.BlockUnits
import Yaskkserv2.Properties.LoadedIndex

/-!
# A created dictionary file is set up again

`create` writes the fixed header, the encoding table, the index data header, the index data and the
blocks one after the other, and `setup` finds them by the offsets and lengths of the fixed header.
`IsFileOf` says that these denote what was written.

The one thing that can go wrong is the buffer of the index loader: it holds the record of every key
or the program stops.
-/

namespace Yaskkserv2

open Framework DictionaryCreator DictionaryReader

namespace Dictionary

/-! ## The fixed header -/

/-- The fixed header of sections of these lengths, with that much padding in front of the blocks. -/
structure IsHeaderOf (tableLen headerLen dataLen blocksLen padding : ℕ) (encoding : Encoding)
    (h : DictionaryFixedHeader) : Prop where
  encodingTableOffset : h.encodingTableOffset.toNat = DICTIONARY_FIXED_HEADER_AREA_LENGTH
  encodingTableLength : h.encodingTableLength.toNat = tableLen
  indexDataHeaderOffset : h.indexDataHeaderOffset.toNat =
    DICTIONARY_FIXED_HEADER_AREA_LENGTH + tableLen
  indexDataHeaderLength : h.indexDataHeaderLength.toNat = headerLen
  indexDataOffset : h.indexDataOffset.toNat =
    DICTIONARY_FIXED_HEADER_AREA_LENGTH + tableLen + headerLen
  indexDataLength : h.indexDataLength.toNat = dataLen
  blocksOffset : h.blocksOffset.toNat =
    DICTIONARY_FIXED_HEADER_AREA_LENGTH + tableLen + headerLen + dataLen + padding
  blocksLength : h.blocksLength.toNat = blocksLen
  dictionaryLength : h.dictionaryLength.toNat = h.blocksOffset.toNat + blocksLen
  encoding : h.encoding = encoding.toU32
  sha1sum : h.sha1sum = SHA1SUM_ZERO
  aligned : HEADER_ALIGNMENT_LENGTH.toNat ∣ h.blocksOffset.toNat

lemma toNat_header_padding (k : UInt32) :
    (HEADER_ALIGNMENT_LENGTH - k % HEADER_ALIGNMENT_LENGTH).toNat = 4096 - k.toNat % 4096 := by
  have hmod : (k % HEADER_ALIGNMENT_LENGTH).toNat = k.toNat % 4096 := UInt32.toNat_mod _ _
  have hle : k % HEADER_ALIGNMENT_LENGTH ≤ HEADER_ALIGNMENT_LENGTH := by
    rw [UInt32.le_iff_toNat_le, hmod]
    exact (Nat.mod_lt _ (by omega)).le
  rw [UInt32.toNat_sub_of_le _ _ hle, hmod]
  rfl

lemma getHeaderAlignedLength_eq_ok {k l : UInt32} (h : getHeaderAlignedLength k = .ok l) :
    l.toNat = k.toNat + (4096 - k.toNat % 4096) ∧ (l - k).toNat = 4096 - k.toNat % 4096 := by
  have hpad := toNat_header_padding k
  rw [getHeaderAlignedLength, addU32] at h
  split at h
  · rename_i hlt
    rw [Outcome.ok.injEq] at h
    have hl : l.toNat = k.toNat + (4096 - k.toNat % 4096) := by
      rw [← h, UInt32.toNat_add, Nat.mod_eq_of_lt hlt, hpad]
    have hkl : k ≤ l := by
      rw [UInt32.le_iff_toNat_le, hl]
      omega
    refine ⟨hl, ?_⟩
    rw [UInt32.toNat_sub_of_le _ _ hkl, hl]
    omega
  · simp at h

lemma isHeaderOf_of_createDictionaryFixedHeader {a b c d : ℕ} {encoding : Encoding}
    {h : DictionaryFixedHeader} {padding : UInt32}
    (hcreate : createDictionaryFixedHeader a b c d encoding = .ok (h, padding))
    (hlen : DICTIONARY_FIXED_HEADER_AREA_LENGTH + a + b + c + padding.toNat + d < 2 ^ 32) :
    IsHeaderOf a b c d padding.toNat encoding h := by
  rw [DICTIONARY_FIXED_HEADER_AREA_LENGTH] at hlen
  have hvalue : ∀ n < 2 ^ 32, n.toUInt32.toNat = n := fun _ => toNat_toUInt32_of_lt
  rw [createDictionaryFixedHeader, DICTIONARY_FIXED_HEADER_AREA_LENGTH] at hcreate
  dsimp only at hcreate
  rw [Outcome.bind_eq_ok] at hcreate
  obtain ⟨alignedBlocksOffset, haligned, hcreate⟩ := hcreate
  rw [Outcome.pure_eq, Outcome.ok.injEq, Prod.mk.injEq] at hcreate
  obtain ⟨rfl, rfl⟩ := hcreate
  obtain ⟨hoffset, hpadding⟩ := getHeaderAlignedLength_eq_ok haligned
  rw [hvalue _ (by omega)] at hoffset hpadding
  rw [hpadding] at hlen
  constructor <;> dsimp only [DICTIONARY_FIXED_HEADER_AREA_LENGTH]
  · rfl
  · exact hvalue _ (by omega)
  · exact hvalue _ (by omega)
  · exact hvalue _ (by omega)
  · exact hvalue _ (by omega)
  · exact hvalue _ (by omega)
  · rw [hoffset, hpadding]
  · exact hvalue _ (by omega)
  · exact hvalue _ (by omega)
  · have halign : HEADER_ALIGNMENT_LENGTH.toNat = 4096 := rfl
    rw [hoffset, halign]
    omega

/-! ## The sections of a file -/

/-- The part of a file that an offset and a length of the fixed header denote. -/
def fileSection (file : Bytes) (offset length : UInt32) : Bytes :=
  (file.drop offset.toNat).take length.toNat

/-- **The fixed header denotes what was written**: the sections hold the encoding table and the
result of `create_index_data`, they lie behind the area of the fixed header in this order without
an overlap, the blocks begin at a multiple of `HEADER_ALIGNMENT_LENGTH`, and the last section ends
with the file. -/
structure IsFileOf (encodingTable : Bytes) (r : CreateIndexDataResult) (file : Bytes)
    (h : DictionaryFixedHeader) : Prop where
  encodingTable : fileSection file h.encodingTableOffset h.encodingTableLength = encodingTable
  indexDataHeader :
    fileSection file h.indexDataHeaderOffset h.indexDataHeaderLength = r.indexDataHeader
  indexData : fileSection file h.indexDataOffset h.indexDataLength = r.indexData
  blocks : fileSection file h.blocksOffset h.blocksLength = r.blocks
  area : DICTIONARY_FIXED_HEADER_AREA_LENGTH ≤ h.encodingTableOffset.toNat
  encodingTable_end : h.encodingTableOffset.toNat + h.encodingTableLength.toNat ≤
    h.indexDataHeaderOffset.toNat
  indexDataHeader_end : h.indexDataHeaderOffset.toNat + h.indexDataHeaderLength.toNat ≤
    h.indexDataOffset.toNat
  indexData_end : h.indexDataOffset.toNat + h.indexDataLength.toNat ≤ h.blocksOffset.toNat
  blocks_end : h.blocksOffset.toNat + h.blocksLength.toNat = file.length
  aligned : HEADER_ALIGNMENT_LENGTH.toNat ∣ h.blocksOffset.toNat

lemma drop_dictionaryBytes (h : DictionaryFixedHeader) (zeros encodingTable : Bytes)
    (r : CreateIndexDataResult) (padding : UInt32) :
    (dictionaryBytes (h.toNeBytes ++ zeros) encodingTable r padding).drop
        DictionaryFixedHeader.size =
      zeros ++ (encodingTable ++ (r.indexDataHeader ++ (r.indexData ++
        (List.replicate padding.toNat 0 ++ r.blocks)))) := by
  rw [← DictionaryFixedHeader.length_toNeBytes h]
  simp only [dictionaryBytes, List.append_assoc, List.drop_left]

/-- A file that `create` left, taken apart. -/
lemma create_eq_ok {sha1 : Bytes → Digest} {encoding : Encoding} {encodingTable file : Bytes}
    {m : JisyoEntriesMap} (hcreate : create sha1 encoding encodingTable m = .ok file) :
    ∃ r h padding, createIndexData m = .ok r ∧
      createDictionaryFixedHeader encodingTable.length r.indexDataHeader.length r.indexData.length
        r.blocks.length encoding = .ok (h, padding) ∧
      file = ({ h with sha1sum := sha1 (dictionaryBytes (h.toNeBytes ++
          List.replicate (DICTIONARY_FIXED_HEADER_AREA_LENGTH - DictionaryFixedHeader.size) 0)
          encodingTable r padding) } : DictionaryFixedHeader).toNeBytes ++
        (List.replicate (DICTIONARY_FIXED_HEADER_AREA_LENGTH - DictionaryFixedHeader.size) 0 ++
          (encodingTable ++ (r.indexDataHeader ++ (r.indexData ++
            (List.replicate padding.toNat 0 ++ r.blocks))))) := by
  rw [create, Outcome.bind_eq_ok] at hcreate
  obtain ⟨r, hr, hcreate⟩ := hcreate
  rw [Outcome.bind_eq_ok] at hcreate
  obtain ⟨⟨h, padding⟩, hh, hcreate⟩ := hcreate
  dsimp only at hcreate
  rw [Outcome.pure_eq, Outcome.ok.injEq] at hcreate
  rw [drop_dictionaryBytes] at hcreate
  exact ⟨r, h, padding, hr, hh, hcreate.symm⟩

/-- A map whose sections are short enough leaves a file. -/
lemma exists_create (sha1 : Bytes → Digest) (encoding : Encoding) {encodingTable : Bytes}
    {m : JisyoEntriesMap} {r : CreateIndexDataResult} (hr : createIndexData m = .ok r)
    (hlen : DICTIONARY_FIXED_HEADER_AREA_LENGTH + encodingTable.length +
      r.indexDataHeader.length + r.indexData.length + 4096 + r.blocks.length < 2 ^ 32) :
    ∃ file, create sha1 encoding encodingTable m = .ok file ∧ file.length < 2 ^ 32 := by
  set raw := DICTIONARY_FIXED_HEADER_AREA_LENGTH + encodingTable.length +
    r.indexDataHeader.length + r.indexData.length with hraw
  have hvalue : raw.toUInt32.toNat = raw := toNat_toUInt32_of_lt (by omega)
  have hpad := toNat_header_padding raw.toUInt32
  obtain ⟨k, hk, -⟩ := addU32_of_lt (a := raw.toUInt32)
    (b := HEADER_ALIGNMENT_LENGTH - raw.toUInt32 % HEADER_ALIGNMENT_LENGTH)
    (by rw [hpad, hvalue]; omega)
  have hkpad := (getHeaderAlignedLength_eq_ok hk).2
  rw [create, hr, Outcome.ok_bind, createDictionaryFixedHeader]
  dsimp only
  rw [← hraw, getHeaderAlignedLength, hk]
  refine ⟨_, rfl, ?_⟩
  rw [drop_dictionaryBytes]
  simp only [List.length_append, DictionaryFixedHeader.length_toNeBytes, List.length_replicate,
    hkpad, DictionaryFixedHeader.size, DICTIONARY_FIXED_HEADER_AREA_LENGTH] at hraw hlen ⊢
  omega

/-! ## Reading the file -/

/-- The hasher is fed all that lies behind the area of the fixed header. -/
lemma scanFile_of_le {file : Bytes} {readLength dictionaryLength : ℕ} (hread : 0 < readLength)
    (hlen : dictionaryLength ≤ file.length) {fuel position : ℕ} (hasher : Bytes)
    (hposition : position ≤ dictionaryLength) (hfuel : dictionaryLength - position < fuel) :
    scanFile file readLength dictionaryLength fuel position hasher =
      .ok (dictionaryLength, hasher ++ (file.take dictionaryLength).drop position) := by
  induction fuel generalizing position hasher with
  | zero => omega
  | succ fuel ih =>
    have hrest : ((file.take dictionaryLength).drop position).length =
        dictionaryLength - position := by
      rw [List.length_drop, List.length_take, Nat.min_eq_left hlen]
    set rest := (file.take dictionaryLength).drop position with hrestDef
    rw [scanFile, ← hrestDef]
    by_cases hend : rest.take readLength = []
    · have hnil : rest = [] := by
        rcases List.take_eq_nil_iff.mp hend with h | h
        · omega
        · exact h
      have heq : position = dictionaryLength := by
        rw [hnil, List.length_nil] at hrest
        omega
      rw [if_pos hend, hnil, List.append_nil, heq]
    · have hpos : 0 < (rest.take readLength).length := List.length_pos_iff.mpr hend
      have hle : (rest.take readLength).length ≤ dictionaryLength - position := by
        rw [← hrest]
        exact List.length_take_le' _ _
      have hdrop : (file.take dictionaryLength).drop (position + (rest.take readLength).length) =
          rest.drop readLength := by
        rw [← List.drop_drop, ← hrestDef, List.length_take]
        rcases Nat.le_total readLength rest.length with h | h
        · rw [Nat.min_eq_left h]
        · rw [Nat.min_eq_right h, List.drop_length, List.drop_eq_nil_of_le h]
      rw [if_neg hend, ih (hasher ++ rest.take readLength) (by omega) (by omega), hdrop,
        List.append_assoc, List.take_append_drop]

/-- A file that fits its header passes the check of its digest. -/
lemma validateExceptDictionaryFixedHeader_of_eq {sha1 : Bytes → Digest} {n : ℕ} (hn : 0 < n)
    {area rest hasher : Bytes} {sha1sum : Digest} {dictionaryLength : ℕ}
    (harea : area.length = DICTIONARY_FIXED_HEADER_AREA_LENGTH)
    (hlen : dictionaryLength = (area ++ rest).length) (hsha1 : sha1sum = sha1 (hasher ++ rest)) :
    validateExceptDictionaryFixedHeader sha1 n (area ++ rest) hasher dictionaryLength sha1sum =
      .ok () := by
  have hle : DICTIONARY_FIXED_HEADER_AREA_LENGTH ≤ dictionaryLength := by
    rw [hlen, List.length_append]
    omega
  have hscan := scanFile_of_le hn hlen.le hasher hle
    (show dictionaryLength - DICTIONARY_FIXED_HEADER_AREA_LENGTH < (area ++ rest).length + 1 by
      omega)
  rw [hlen, List.take_length, ← harea, List.drop_left] at hscan
  rw [validateExceptDictionaryFixedHeader, checkedSub, if_pos hle, Outcome.ok_bind, hlen, ← harea,
    hscan, Outcome.ok_bind]
  dsimp only
  rw [if_neg (by simp), if_neg (by simp [hsha1])]
  rfl

lemma fileSection_append {pre bytes post : Bytes} {offset length : UInt32}
    (hoffset : offset.toNat = pre.length) (hlength : length.toNat = bytes.length) :
    fileSection (pre ++ (bytes ++ post)) offset length = bytes := by
  rw [fileSection, hoffset, hlength, List.drop_left, List.take_left]

section Create

variable {sha1 : Bytes → Digest} {encoding : Encoding} {encodingTable file : Bytes}
  {m : JisyoEntriesMap}

/-- **What `setup` makes of a created file**: its header denotes what was written, and the rest is
up to the loader of the index. -/
theorem setup_of_create {n : ℕ} (hn : 0 < n) {t : EncodingTables}
    {initialized : Option EncodingTables}
    (htable : onceInitEncodingTable initialized encodingTable = .ok t)
    (hcreate : create sha1 encoding encodingTable m = .ok file) (hfile : file.length < 2 ^ 32) :
    ∃ r h pre post, createIndexData m = .ok r ∧ IsFileOf encodingTable r file h ∧
      h.encoding = encoding.toU32 ∧ h.indexDataOffset.toNat = pre.length ∧
      file = pre ++ (r.indexData ++ post) ∧
      setup sha1 n initialized file = (do
        let index ← createIndexMapAndIndexAsciiHiraganaVec h.indexDataOffset file r.indexDataHeader
        return (⟨h, index.indexMap, index.indexAsciiHiraganaVec⟩, t)) := by
  obtain ⟨r, h, padding, hr, hheader, hfileEq⟩ := create_eq_ok hcreate
  set zeros := List.replicate (DICTIONARY_FIXED_HEADER_AREA_LENGTH - DictionaryFixedHeader.size)
    (0 : UInt8) with hzeros
  have hzerosLength : zeros.length = DICTIONARY_FIXED_HEADER_AREA_LENGTH -
      DictionaryFixedHeader.size := List.length_replicate
  set sum := sha1 (dictionaryBytes (h.toNeBytes ++ zeros) encodingTable r padding) with hsum
  set written : DictionaryFixedHeader := { h with sha1sum := sum } with hwritten
  have harea : (written.toNeBytes ++ zeros).length = DICTIONARY_FIXED_HEADER_AREA_LENGTH := by
    rw [List.length_append, DictionaryFixedHeader.length_toNeBytes, hzerosLength]
    rfl
  set tail := encodingTable ++ (r.indexDataHeader ++ (r.indexData ++
    (List.replicate padding.toNat 0 ++ r.blocks))) with htail
  have hfileArea : file = (written.toNeBytes ++ zeros) ++ tail := by
    rw [hfileEq, List.append_assoc]
  have hlength : file.length = DICTIONARY_FIXED_HEADER_AREA_LENGTH + encodingTable.length +
      r.indexDataHeader.length + r.indexData.length + padding.toNat + r.blocks.length := by
    rw [hfileArea, List.length_append, harea, htail]
    simp only [List.length_append, List.length_replicate]
    omega
  have hspec := isHeaderOf_of_createDictionaryFixedHeader hheader (by omega)
  have hbytes : dictionaryBytes (h.toNeBytes ++ zeros) encodingTable r padding =
      (h.toNeBytes ++ zeros) ++ tail := by
    simp only [dictionaryBytes, htail, List.append_assoc]
  -- where each section lies
  have htableAt : file = (written.toNeBytes ++ zeros) ++ (encodingTable ++
      (r.indexDataHeader ++ (r.indexData ++ (List.replicate padding.toNat 0 ++ r.blocks)))) :=
    hfileArea
  have hheaderAt : file = (written.toNeBytes ++ zeros ++ encodingTable) ++ (r.indexDataHeader ++
      (r.indexData ++ (List.replicate padding.toNat 0 ++ r.blocks))) := by
    rw [htableAt]
    simp only [List.append_assoc]
  have hdataAt : file = (written.toNeBytes ++ zeros ++ encodingTable ++ r.indexDataHeader) ++
      (r.indexData ++ (List.replicate padding.toNat 0 ++ r.blocks)) := by
    rw [htableAt]
    simp only [List.append_assoc]
  have hblocksAt : file = (written.toNeBytes ++ zeros ++ encodingTable ++ r.indexDataHeader ++
      r.indexData ++ List.replicate padding.toNat 0) ++ (r.blocks ++ []) := by
    rw [htableAt]
    simp only [List.append_assoc, List.append_nil]
  have htableOffset : h.encodingTableOffset.toNat = (written.toNeBytes ++ zeros).length := by
    rw [hspec.encodingTableOffset, harea]
  have hheaderOffset : h.indexDataHeaderOffset.toNat =
      (written.toNeBytes ++ zeros ++ encodingTable).length := by
    rw [hspec.indexDataHeaderOffset, List.length_append, harea]
  have hdataOffset : h.indexDataOffset.toNat =
      (written.toNeBytes ++ zeros ++ encodingTable ++ r.indexDataHeader).length := by
    rw [hspec.indexDataOffset, List.length_append, List.length_append, harea]
  have hblocksOffset : h.blocksOffset.toNat = (written.toNeBytes ++ zeros ++ encodingTable ++
      r.indexDataHeader ++ r.indexData ++ List.replicate padding.toNat 0).length := by
    rw [hspec.blocksOffset]
    simp only [List.length_append, List.length_replicate] at harea ⊢
    omega
  refine ⟨r, h, written.toNeBytes ++ zeros ++ encodingTable ++ r.indexDataHeader,
    List.replicate padding.toNat 0 ++ r.blocks, hr, ?_, hspec.encoding, hdataOffset, hdataAt, ?_⟩
  · constructor
    · rw [htableAt, fileSection_append htableOffset hspec.encodingTableLength]
    · rw [hheaderAt, fileSection_append hheaderOffset hspec.indexDataHeaderLength]
    · rw [hdataAt, fileSection_append hdataOffset hspec.indexDataLength]
    · rw [hblocksAt, fileSection_append hblocksOffset hspec.blocksLength]
    · exact hspec.encodingTableOffset.ge
    · rw [hspec.encodingTableOffset, hspec.encodingTableLength, hspec.indexDataHeaderOffset]
    · rw [hspec.indexDataHeaderOffset, hspec.indexDataHeaderLength, hspec.indexDataOffset]
    · rw [hspec.indexDataOffset, hspec.indexDataLength, hspec.blocksOffset]
      omega
    · rw [hspec.blocksOffset, hspec.blocksLength, hlength]
    · exact hspec.aligned
  · have hfixed : readExact file 0 DICTIONARY_FIXED_HEADER_AREA_LENGTH =
        .ok (written.toNeBytes ++ zeros) := by
      rw [hfileArea, ← harea]
      exact readExact_append [] _ tail
    have hzero : ({ written with sha1sum := SHA1SUM_ZERO } : DictionaryFixedHeader) = h := by
      rw [hwritten, ← hspec.sha1sum]
    have hdrop : (written.toNeBytes ++ zeros).drop DictionaryFixedHeader.size = zeros := by
      rw [← DictionaryFixedHeader.length_toNeBytes written, List.drop_left]
    have hvalid : validateExceptDictionaryFixedHeader sha1 n file (h.toNeBytes ++ zeros)
        h.dictionaryLength.toNat sum = .ok () := by
      rw [hfileArea]
      refine validateExceptDictionaryFixedHeader_of_eq hn harea ?_ ?_
      · rw [← hfileArea, hspec.dictionaryLength, hspec.blocksOffset, hlength]
      · rw [hsum, hbytes]
    have hreadTable : readExact file h.encodingTableOffset.toNat h.encodingTableLength.toNat =
        .ok encodingTable := by
      rw [htableOffset, hspec.encodingTableLength, htableAt, readExact_append]
    have hreadHeader : readExact file h.indexDataHeaderOffset.toNat
        h.indexDataHeaderLength.toNat = .ok r.indexDataHeader := by
      rw [hheaderOffset, hspec.indexDataHeaderLength, hheaderAt, readExact_append]
    rw [setup, hfixed, Outcome.ok_bind, DictionaryFixedHeader.fromNeBytes_append, Outcome.ok_bind]
    dsimp only
    rw [hdrop, hzero, hvalid, Outcome.ok_bind, hreadTable, Outcome.ok_bind, htable,
      Outcome.ok_bind, hreadHeader, Outcome.ok_bind]

/-- **A created file is loaded back**: the header denotes what was written, the aligned blocks of
the keys follow one another, and a look-up of a key gives the units that were built for it, or
nothing where none were. -/
def IsLoadedBack (encoding : Encoding) (encodingTable : Bytes) (m : JisyoEntriesMap)
    (t : EncodingTables) (file : Bytes) (loaded : Result (OnMemory × EncodingTables)) : Prop :=
  ∃ onMemory r blockMap built, loaded = .ok (onMemory, t) ∧
    createIndexData m = .ok r ∧ createTemporaryBlockMap m = .ok blockMap ∧
    buildBlocks 0 blockMap.toList = .ok built ∧
    IsFileOf encodingTable r file onMemory.dictionaryFixedHeader ∧
    onMemory.dictionaryFixedHeader.encoding = encoding.toU32 ∧
    r.blocks = built.flatMap (·.alignedBlock) ∧
    (∀ b ∈ built, BLOCK_ALIGNMENT_LENGTH.toNat ∣ b.alignedBlock.length) ∧
    ∀ key, IsEucKey key → getBlockInformationVectors onMemory key = .ok (unitsOfBuilt built key)

/-- **A created file is loaded back, or stops the program**, as the records of its keys fit into the
buffer of the loader or not. -/
theorem setup_create {n : ℕ} (hn : 0 < n) {initialized : Option EncodingTables}
    {t : EncodingTables} (htable : onceInitEncodingTable initialized encodingTable = .ok t)
    (hm : ∀ midashi ∈ m, StartsWithEucChar midashi)
    (hcreate : create sha1 encoding encodingTable m = .ok file) (hfile : file.length < 2 ^ 32) :
    ∃ blockMap, createTemporaryBlockMap m = .ok blockMap ∧
      ((∀ p ∈ blockMap.toList, RecordFits p.2) →
        IsLoadedBack encoding encodingTable m t file (setup sha1 n initialized file)) ∧
      (¬ (∀ p ∈ blockMap.toList, RecordFits p.2) → setup sha1 n initialized file = .panic) := by
  obtain ⟨r, h, pre, post, hr, hfileOf, hencoding, hoffset, hdata, hsetup⟩ :=
    setup_of_create hn htable hcreate hfile
  obtain ⟨blockMap, built, groups, hmap, hbuilt, hgroups⟩ := createIndexData_spec hr
  have hend : pre.length + r.indexData.length < 2 ^ 32 := by
    rw [hdata] at hfile
    simp only [List.length_append] at hfile
    omega
  have hreadable := isReadable_of_buildBlocks hbuilt (by
    rw [← List.flatMap_map, ← groupBytes, ← indexData_eq hgroups]
    omega)
  have hload := createIndexMapAndIndexAsciiHiraganaVec_of_indexDataOf hgroups hreadable pre post
    hoffset hend
  rw [← hdata] at hload
  rw [hload] at hsetup
  have hrecords := length_recordBytes_le_iff_of_buildBlocks hbuilt
  refine ⟨blockMap, hmap, fun hfits => ?_, fun hfits => ?_⟩
  · rw [if_pos (hrecords.mpr hfits), Outcome.ok_bind] at hsetup
    refine ⟨_, r, blockMap, built, hsetup, hr, hmap, hbuilt, hfileOf, hencoding, hgroups.blocks,
      dvd_length_of_buildBlocks hbuilt, fun key hkey => ?_⟩
    rw [getBlockInformationVectors_eq (Index.isSized_ofBuilt built),
      Index.unitsOf_ofBuilt hm hmap hbuilt (fun b hb => (hreadable b hb).ne_nil) hkey]
  · rw [hsetup, if_neg (mt hrecords.mp hfits)]
    rfl

/-- **A created file is loaded back exactly when the index record of every key fits into the buffer
of the loader.** -/
theorem setup_create_isLoadedBack_iff {n : ℕ} (hn : 0 < n) {initialized : Option EncodingTables}
    {t : EncodingTables} (htable : onceInitEncodingTable initialized encodingTable = .ok t)
    (hm : ∀ midashi ∈ m, StartsWithEucChar midashi)
    (hcreate : create sha1 encoding encodingTable m = .ok file) (hfile : file.length < 2 ^ 32) :
    IsLoadedBack encoding encodingTable m t file (setup sha1 n initialized file) ↔
      ∀ blockMap, createTemporaryBlockMap m = .ok blockMap →
        ∀ p ∈ blockMap.toList, RecordFits p.2 := by
  obtain ⟨blockMap, hmap, hfits, hpanic⟩ :=
    setup_create hn htable hm hcreate hfile
  constructor
  · rintro ⟨onMemory, -, -, -, hloaded, -⟩ blockMap' hmap'
    rw [hmap, Outcome.ok.injEq] at hmap'
    subst hmap'
    by_contra hnot
    rw [hpanic hnot] at hloaded
    simp at hloaded
  · exact fun hall => hfits (hall blockMap hmap)

end Create

/-! ## A small dictionary -/

/-- An encoding table without rows. -/
def emptyTable : Bytes := [0, 0, 0, 0, 16, 0, 0, 0, 0, 0, 0, 0, 0, 0, 0, 0]

lemma onceInit_emptyTable : onceInitEncodingTable none emptyTable = .ok .empty := rfl

/-- A candidate that fills a unit. -/
def longCandidates : Bytes := [SLASH] ++ List.replicate 2040 0x78 ++ [SLASH]

/-- Entries of two keys, one of which makes two units: the prefix `aa` lies in the first of them,
its only extension in the second. -/
def straddlingEntries : JisyoEntriesMap :=
  (((∅ : JisyoEntriesMap).insert (ascii "a") longCandidates).insert (ascii "aab")
    (ascii "/y/z/")).insert [0xa4, 0xa2] (ascii "/b/")

lemma toList_straddlingEntries : straddlingEntries.toList =
    [(ascii "a", longCandidates), (ascii "aab", ascii "/y/z/"), ([0xa4, 0xa2], ascii "/b/")] := rfl

lemma getElem?_straddlingEntries {midashi text : Bytes}
    (h : straddlingEntries[midashi]? = some text) :
    midashi = ascii "a" ∧ text = longCandidates ∨
      midashi = ascii "aab" ∧ text = ascii "/y/z/" ∨
        midashi = [0xa4, 0xa2] ∧ text = ascii "/b/" := by
  have hp := Std.ExtTreeMap.mem_toList_iff_getElem?_eq_some.mpr h
  simpa [toList_straddlingEntries] using hp

lemma mem_straddlingEntries {midashi : Bytes} (h : midashi ∈ straddlingEntries) :
    midashi = ascii "a" ∨ midashi = ascii "aab" ∨ midashi = [0xa4, 0xa2] :=
  (getElem?_straddlingEntries (Std.ExtTreeMap.getElem?_eq_some_getElem h)).imp And.left
    (Or.imp And.left And.left)

lemma startsWithEucChar_of_mem_straddlingEntries :
    ∀ midashi ∈ straddlingEntries, StartsWithEucChar midashi := by
  intro midashi h
  rcases mem_straddlingEntries h with rfl | rfl | rfl
  · exact .ascii (by decide)
  · exact .ascii (by decide)
  · exact .two (.inl ⟨by decide, by decide⟩) ⟨by decide, by decide⟩

/-- The block of the first two entries. -/
def straddlingBlock : Bytes := ascii "\na " ++ longCandidates ++ ascii "\naab /y/z/\n"

/-- The block of the last one. -/
def kanaBlock : Bytes := [LF, 0xa4, 0xa2] ++ ascii " /b/\n"

def straddlingBlockMap : TemporaryBlockMap :=
  ((∅ : TemporaryBlockMap).insert #v[0x61, 0, 0, 0] straddlingBlock).insert
    #v[0xa4, 0xa2, 0, 0] kanaBlock

lemma toList_straddlingBlockMap : straddlingBlockMap.toList =
    [(#v[0x61, 0, 0, 0], straddlingBlock), (#v[0xa4, 0xa2, 0, 0], kanaBlock)] := rfl

set_option maxRecDepth 100000 in
lemma createTemporaryBlockMap_straddlingEntries :
    createTemporaryBlockMap straddlingEntries = .ok straddlingBlockMap := rfl

def straddlingUnits : List DictionaryBlockInformation :=
  [⟨ascii "aab", 2045, 11⟩, ⟨ascii "a", 0, 2046⟩]

set_option maxRecDepth 100000 in
lemma getDictionaryBlockInformations_straddlingBlock :
    ∃ alignedBlock, getDictionaryBlockInformations straddlingBlock 0 [] =
      .ok (alignedBlock, straddlingUnits) ∧ alignedBlock.length = 2064 := by
  have hcut : (do
      let built ← getDictionaryBlockInformations straddlingBlock 0 []
      return (built.2, decide (built.1.length = 2064))) = Outcome.ok (straddlingUnits, true) := by
    decide +kernel
  rw [Outcome.bind_eq_ok] at hcut
  obtain ⟨⟨alignedBlock, informations⟩, hblock, hcut⟩ := hcut
  dsimp only at hcut
  rw [Outcome.pure_eq, Outcome.ok.injEq, Prod.mk.injEq, decide_eq_true_eq] at hcut
  exact ⟨alignedBlock, by rw [hblock, hcut.1], hcut.2⟩

/-- The block of one unit begins behind the padding of the block before it. -/
lemma getDictionaryBlockInformations_kanaBlock :
    getDictionaryBlockInformations kanaBlock 2064 [] =
      .ok (kanaBlock ++ List.replicate 8 0x58, [⟨[0xa4, 0xa2], 2064, 8⟩]) := rfl

lemma recordFits_straddlingEntries :
    ∀ blockMap, createTemporaryBlockMap straddlingEntries = .ok blockMap →
      ∀ p ∈ blockMap.toList, RecordFits p.2 := by
  intro blockMap h p hp alignedBlock informations hblock
  rw [createTemporaryBlockMap_straddlingEntries, Outcome.ok.injEq] at h
  subst h
  rw [toList_straddlingBlockMap, List.mem_pair] at hp
  rcases hp with rfl | rfl
  · obtain ⟨aligned, hcut, -⟩ := getDictionaryBlockInformations_straddlingBlock
    rw [hcut, Outcome.ok.injEq, Prod.mk.injEq] at hblock
    rw [← hblock.2]
    decide
  · have hcut : getDictionaryBlockInformations kanaBlock 0 [] =
        .ok (kanaBlock ++ List.replicate 8 0x58, [⟨[0xa4, 0xa2], 0, 8⟩]) := rfl
    rw [hcut, Outcome.ok.injEq, Prod.mk.injEq] at hblock
    rw [← hblock.2]
    decide

/-- What is built of the blocks. -/
lemma buildBlocks_straddlingBlockMap :
    ∃ aligned, buildBlocks 0 straddlingBlockMap.toList =
      .ok [⟨(#v[0x61, 0, 0, 0], straddlingUnits), aligned⟩,
        ⟨(#v[0xa4, 0xa2, 0, 0], [⟨[0xa4, 0xa2], 2064, 8⟩]), kanaBlock ++ List.replicate 8 0x58⟩] ∧
      aligned.length = 2064 := by
  obtain ⟨aligned, hcut, hlength⟩ := getDictionaryBlockInformations_straddlingBlock
  refine ⟨aligned, ?_, hlength⟩
  rw [toList_straddlingBlockMap, buildBlocks, hcut, Outcome.ok_bind]
  dsimp only
  rw [hlength, buildBlocks, Nat.zero_add, getDictionaryBlockInformations_kanaBlock]
  rfl

/-- The index of the blocks. -/
def straddlingIndex : IndexDataState :=
  (IndexDataState.push {} ⟨(#v[0x61, 0, 0, 0], straddlingUnits), []⟩).push
    ⟨(#v[0xa4, 0xa2, 0, 0], [⟨[0xa4, 0xa2], 2064, 8⟩]), kanaBlock ++ List.replicate 8 0x58⟩

lemma exists_create_straddlingEntries (encoding : Encoding) :
    ∃ file, create (fun _ => SHA1SUM_ZERO) encoding emptyTable straddlingEntries = .ok file ∧
      file.length < 2 ^ 32 := by
  obtain ⟨aligned, hbuilt, hlength⟩ := buildBlocks_straddlingBlockMap
  have hindex : createIndexData straddlingEntries = .ok ((IndexDataState.push
      (IndexDataState.push {} ⟨(#v[0x61, 0, 0, 0], straddlingUnits), aligned⟩)
      ⟨(#v[0xa4, 0xa2, 0, 0], [⟨[0xa4, 0xa2], 2064, 8⟩]),
        kanaBlock ++ List.replicate 8 0x58⟩).finish) := by
    rw [createIndexData, createTemporaryBlockMap_straddlingEntries, Outcome.ok_bind,
      foldlM_pushBlock]
    change (buildBlocks 0 straddlingBlockMap.toList >>= _) >>= _ = _
    rw [hbuilt]
    rfl
  refine exists_create _ _ hindex ?_
  -- only the blocks depend on the padded block
  have hfirst : IndexDataState.push {} ⟨(#v[0x61, 0, 0, 0], straddlingUnits), aligned⟩ =
      { IndexDataState.push {} ⟨(#v[0x61, 0, 0, 0], straddlingUnits), []⟩ with
        blocks := aligned } := rfl
  rw [hfirst, IndexDataState.push_withBlocks, IndexDataState.finish_withBlocks]
  have hrest : DICTIONARY_FIXED_HEADER_AREA_LENGTH + emptyTable.length +
      straddlingIndex.finish.indexDataHeader.length + straddlingIndex.finish.indexData.length +
        4096 < 2 ^ 16 := by
    decide
  have hpadded : (aligned ++ (kanaBlock ++ List.replicate 8 0x58)).length = 2080 := by
    rw [List.length_append, hlength]
    rfl
  dsimp only
  rw [hpadded]
  exact Nat.lt_trans (Nat.add_lt_add_right hrest _) (by norm_num)

theorem setup_create_isLoadedBack_straddlingEntries :
    ∃ file, create (fun _ => SHA1SUM_ZERO) .Euc emptyTable straddlingEntries = .ok file ∧
      IsLoadedBack .Euc emptyTable straddlingEntries .empty file
        (setup (fun _ => SHA1SUM_ZERO) 1024 none file) := by
  obtain ⟨file, hcreate, hfile⟩ := exists_create_straddlingEntries .Euc
  exact ⟨file, hcreate, (setup_create_isLoadedBack_iff (by decide) onceInit_emptyTable
    startsWithEucChar_of_mem_straddlingEntries hcreate hfile).mpr recordFits_straddlingEntries⟩

/-! ## A midashi that is too long -/

/-- The entries of a jisyo of one line. -/
def oneLine (e : Entry) : JisyoEntriesMap := (∅ : JisyoEntriesMap).insert e.midashi e.candidates

lemma createTemporaryBlockMap_oneLine {e : Entry} {key : DictionaryMidashiKey}
    (hkey : getDictionaryMidashiKey e.midashi = .ok key) :
    createTemporaryBlockMap (oneLine e) =
      .ok ((∅ : TemporaryBlockMap).insert key (layout [e])) := by
  have hlist : (oneLine e).toList = [(e.midashi, e.candidates)] := rfl
  have hline : [LF] ++ entryLine e.midashi e.candidates = layout [e] := by
    simp [entryLine, layout, delimited, Entry.text]
  rw [createTemporaryBlockMap, hlist, List.foldlM_cons, insertJisyoLine, hkey, Outcome.ok_bind]
  dsimp only
  rw [Std.ExtTreeMap.getD_empty, hline]
  rfl

/-- The block of a single entry is one unit. -/
lemma getDictionaryBlockInformations_singleton (e : Entry) (blocksLen : ℕ)
    (hlen : (layout [e]).length + 16 < 2 ^ 32) :
    getDictionaryBlockInformations (layout [e]) blocksLen [] =
      .ok (layout [e] ++ List.replicate (16 - (layout [e]).length % 16) 0x58,
        informationsAt blocksLen 0 [[e]]) := by
  rw [getDictionaryBlockInformations, getMaxEntryLength_layout (List.cons_ne_nil _ _),
    Outcome.ok_bind, loop_singleton e blocksLen [] (Nat.succ_pos _), List.nil_append,
    padAlignedBlock_of_lt hlen]
  rfl

/-- The record of the only entry of a jisyo. -/
lemma recordFits_singleton_iff (e : Entry) (hlen : (layout [e]).length + 16 < 2 ^ 32) :
    RecordFits (layout [e]) ↔ 20 + e.midashi.length ≤ INDEX_DATA_BLOCK_LENGTH := by
  have hmidashi : (joinedMidashi (informationsAt 0 0 [[e]])).length = e.midashi.length := by
    simp [joinedMidashi, informationsAt, informationAt, firstMidashi]
  have hone : (informationsAt 0 0 [[e]]).length = 1 := rfl
  unfold RecordFits
  rw [getDictionaryBlockInformations_singleton e 0 hlen]
  constructor
  · intro h
    have hle := h _ _ rfl
    rw [hmidashi, hone, DictionaryBlockHeads.size, BlockInformationOffsetLength.size] at hle
    omega
  · intro h alignedBlock informations heq
    rw [Outcome.ok.injEq, Prod.mk.injEq] at heq
    obtain ⟨-, rfl⟩ := heq
    rw [hmidashi, hone, DictionaryBlockHeads.size, BlockInformationOffsetLength.size]
    omega

lemma exists_create_oneLine {e : Entry} {key : DictionaryMidashiKey}
    (hkey : getDictionaryMidashiKey e.midashi = .ok key) (hlen : e.text.length < 2 ^ 20) :
    ∃ file, create (fun _ => SHA1SUM_ZERO) .Euc emptyTable (oneLine e) = .ok file ∧
      file.length < 2 ^ 32 := by
  have hlayout : (layout [e]).length = e.text.length + 2 := by simp
  have hlist : ((∅ : TemporaryBlockMap).insert key (layout [e])).toList = [(key, layout [e])] := rfl
  have hbuild := getDictionaryBlockInformations_singleton e 0 (by omega)
  obtain ⟨r, hr⟩ : ∃ r, createIndexData (oneLine e) = .ok r := by
    rw [createIndexData, createTemporaryBlockMap_oneLine hkey, Outcome.ok_bind, hlist,
      foldlM_pushBlock, buildBlocks, List.length_nil, hbuild]
    exact ⟨_, rfl⟩
  obtain ⟨blockMap, built, groups, hmap, hbuilt, hdata⟩ := createIndexData_spec hr
  obtain rfl := Outcome.ok.inj ((createTemporaryBlockMap_oneLine hkey).symm.trans hmap)
  rw [hlist, buildBlocks, hbuild] at hbuilt
  obtain rfl := (Outcome.ok.inj hbuilt).symm
  have hmidashi : e.midashi.length ≤ e.text.length := by
    rw [Entry.length_text]
    omega
  have hgroups := hdata.length_groups
  refine exists_create _ _ hr ?_
  have hrecord : (recordBytes (key, informationsAt 0 0 [[e]])).length = 20 + e.midashi.length := by
    rw [length_recordBytes]
    simp [joinedMidashi, informationsAt, informationAt, firstMidashi, DictionaryBlockHeads.size,
      BlockInformationOffsetLength.size]
  have hheader : r.indexDataHeader.length ≤ 32 := by
    rw [hdata.indexDataHeader, List.length_append, IndexDataHeader.length_toNeBytes,
      List.length_flatMap]
    simp only [IndexDataHeaderBlockHeader.length_toNeBytes, List.map_const', List.sum_replicate,
      length_blockHeaders, smul_eq_mul, IndexDataHeader.size, IndexDataHeaderBlockHeader.size]
    rw [List.length_singleton] at hgroups
    omega
  have hindex : r.indexData.length = 20 + e.midashi.length := by
    rw [indexData_eq hdata, List.map_singleton, groupBytes, List.flatMap_singleton, hrecord]
  have hblocks : r.blocks.length ≤ e.text.length + 18 := by
    rw [hdata.blocks, List.flatMap_singleton, List.length_append, List.length_replicate, hlayout]
    omega
  have htable : emptyTable.length = 16 := rfl
  rw [htable, hindex, DICTIONARY_FIXED_HEADER_AREA_LENGTH]
  omega

/-- `a..a /b/`, with that many `a`. -/
def longMidashi (n : ℕ) : Entry where
  midashi := List.replicate n 0x61
  candidates := ascii "/b/"
  space_not_mem := by
    have hspace : SP ≠ 0x61 := by decide
    simp [hspace]
  lf_not_mem_midashi := by
    have hlf : LF ≠ 0x61 := by decide
    simp [hlf]
  lf_not_mem_candidates := by decide

/-- The record of a midashi of 70000 bytes does not fit into the buffer of the loader. -/
theorem setup_create_longMidashi :
    (∀ midashi ∈ oneLine (longMidashi 70000), StartsWithEucChar midashi) ∧
    ∃ file, create (fun _ => SHA1SUM_ZERO) .Euc emptyTable (oneLine (longMidashi 70000)) =
        .ok file ∧ file.length < 2 ^ 32 ∧
      setup (fun _ => SHA1SUM_ZERO) 1024 none file = .panic ∧
      ¬ IsLoadedBack .Euc emptyTable (oneLine (longMidashi 70000)) .empty file
        (setup (fun _ => SHA1SUM_ZERO) 1024 none file) := by
  have hmidashi : (longMidashi 70000).midashi = 0x61 :: List.replicate 69999 0x61 := rfl
  have hlength : (longMidashi 70000).midashi.length = 70000 := List.length_replicate
  have htext : (longMidashi 70000).text.length = 70004 := by
    rw [Entry.length_text, hlength]
    rfl
  have hkey : getDictionaryMidashiKey (longMidashi 70000).midashi = .ok #v[0x61, 0, 0, 0] := by
    rw [hmidashi]
    exact getDictionaryMidashiKey_ascii (by decide) _
  have hstarts : ∀ midashi ∈ oneLine (longMidashi 70000), StartsWithEucChar midashi := by
    intro midashi hmem
    rw [oneLine, Std.ExtTreeMap.mem_insert] at hmem
    rcases hmem with heq | hempty
    · rw [← Std.LawfulEqCmp.eq_of_compare heq, hmidashi]
      exact .ascii (by decide)
    · exact absurd hempty Std.ExtTreeMap.not_mem_empty
  have hlayout : (layout [longMidashi 70000]).length = 70006 := by
    rw [length_layout_cons, htext]
    rfl
  obtain ⟨file, hcreate, hfile⟩ := exists_create_oneLine hkey (by rw [htext]; norm_num)
  obtain ⟨blockMap, hmap, -, hpanic⟩ :=
    setup_create (n := 1024) (by norm_num) onceInit_emptyTable hstarts hcreate hfile
  have hnot : ¬ ∀ p ∈ blockMap.toList, RecordFits p.2 := by
    obtain rfl := Outcome.ok.inj ((createTemporaryBlockMap_oneLine hkey).symm.trans hmap)
    intro hfits
    have hfit := hfits (_, layout [longMidashi 70000]) (List.mem_singleton_self _)
    rw [recordFits_singleton_iff _ (by rw [hlayout]; norm_num), hlength,
      INDEX_DATA_BLOCK_LENGTH] at hfit
    omega
  refine ⟨hstarts, file, hcreate, hfile, hpanic hnot, ?_⟩
  rintro ⟨onMemory, -, -, -, hloaded, -⟩
  exact absurd ((hpanic hnot).symm.trans hloaded) (by simp)

end Dictionary

end Yaskkserv2
