import Yaskkserv2.MakeDictionary.DictionaryCreator

/-!
# The index is read back record by record

The writer of the index appends one record a key and closes a block of records before it would
reach `INDEX_DATA_BLOCK_LENGTH`; the loader reads a block at a time into a buffer of that length
and takes it apart again.  Here is the part of the loader: from a record it reads the units that
were written, and from a list of blocks it fills the tables with all their records, unless a block
is longer than the buffer.
-/

namespace Yaskkserv2

open Framework DictionaryCreator

/-- The units of a key. -/
abbrev IndexRecord := DictionaryMidashiKey × List DictionaryBlockInformation

/-- The bytes of a record. -/
def recordBytes (r : IndexRecord) : Bytes := indexRecord r.1 r.2

/-- The units of a key can be told apart again: there is one, no midashi holds the separator, and
the lengths fit into their fields. -/
structure IsReadable (r : IndexRecord) : Prop where
  ne_nil : r.2 ≠ []
  space_not_mem : ∀ v ∈ r.2, SP ∉ v.midashi
  length_lt : (recordBytes r).length < 2 ^ 32

lemma length_flatMap_toNeBytes (informations : List DictionaryBlockInformation) :
    (informations.flatMap fun v =>
      BlockInformationOffsetLength.toNeBytes ⟨v.offset, v.length⟩).length =
      informations.length * BlockInformationOffsetLength.size := by
  induction informations with
  | nil => rfl
  | cons v vs ih =>
    rw [List.flatMap_cons, List.length_append, ih, List.length_cons,
      BlockInformationOffsetLength.length_toNeBytes]
    ring

/-- The length of a record, by which the writer decides where a block ends. -/
lemma length_recordBytes (r : IndexRecord) :
    (recordBytes r).length = DictionaryBlockHeads.size +
      r.2.length * BlockInformationOffsetLength.size + (joinedMidashi r.2).length := by
  simp only [recordBytes, indexRecord, List.length_append, DictionaryBlockHeads.length_toNeBytes,
    length_flatMap_toNeBytes]

lemma length_recordBytes_pos (r : IndexRecord) : 0 < (recordBytes r).length := by
  rw [length_recordBytes, DictionaryBlockHeads.size]
  omega

lemma splitOn_joinedMidashi {r : IndexRecord} (hr : IsReadable r) :
    (joinedMidashi r.2).splitOn SP = r.2.map (·.midashi) := by
  refine List.splitOn_intercalate SP ?_ (by simpa using hr.ne_nil)
  intro l hl
  obtain ⟨v, hv, rfl⟩ := List.mem_map.mp hl
  exact hr.space_not_mem v hv

namespace Dictionary

/-! ## One record -/

lemma readBlockInformations_append (pre post : Bytes) (bufferOffset i : ℕ)
    (informations : List DictionaryBlockInformation)
    (hpre : bufferOffset + DictionaryBlockHeads.size + i * BlockInformationOffsetLength.size =
      pre.length) :
    readBlockInformations
        (pre ++ (informations.flatMap (fun v =>
          BlockInformationOffsetLength.toNeBytes ⟨v.offset, v.length⟩) ++ post))
        bufferOffset i (informations.map (·.midashi)) = .ok informations := by
  induction informations generalizing pre i with
  | nil => rfl
  | cons v vs ih =>
    have hbytes : pre ++ ((v :: vs).flatMap (fun v =>
          BlockInformationOffsetLength.toNeBytes ⟨v.offset, v.length⟩) ++ post) =
        (pre ++ BlockInformationOffsetLength.toNeBytes ⟨v.offset, v.length⟩) ++
          (vs.flatMap (fun v => BlockInformationOffsetLength.toNeBytes ⟨v.offset, v.length⟩) ++
            post) := by
      rw [List.flatMap_cons, List.append_assoc, List.append_assoc]
    have hnext := ih (pre ++ BlockInformationOffsetLength.toNeBytes ⟨v.offset, v.length⟩) (i + 1)
      (by
        rw [List.length_append, BlockInformationOffsetLength.length_toNeBytes, ← hpre]
        ring)
    have hfirst : readBlockInformation (pre ++ ((v :: vs).flatMap (fun v =>
          BlockInformationOffsetLength.toNeBytes ⟨v.offset, v.length⟩) ++ post))
        bufferOffset i v.midashi = .ok v := by
      rw [readBlockInformation, hpre, sliceFrom_append, Outcome.ok_bind, List.flatMap_cons,
        List.append_assoc, BlockInformationOffsetLength.fromNeBytes_append]
      rfl
    rw [List.map_cons, readBlockInformations, hfirst, Outcome.ok_bind, hbytes, hnext]
    rfl

/-- **A record is read back**: the loader hands its key and its units to the tables, and moves on
to the byte behind it. -/
theorem readIndexUnit_recordBytes (pre post : Bytes) {r : IndexRecord} (hr : IsReadable r)
    (t : Index) :
    readIndexUnit (pre ++ (recordBytes r ++ post)) pre.length t = (do
      let t ← t.insert r.1 r.2
      return ((pre ++ recordBytes r).length, t)) := by
  obtain ⟨key, informations⟩ := r
  have hlength := hr.length_lt
  rw [length_recordBytes, BlockInformationOffsetLength.size] at hlength
  have hinformations : informations.length.toUInt32.toNat = informations.length :=
    toNat_toUInt32_of_lt (by dsimp only at hlength; omega)
  have hjoined : (joinedMidashi informations).length.toUInt32.toNat =
      (joinedMidashi informations).length :=
    toNat_toUInt32_of_lt (by dsimp only at hlength; omega)
  set heads : DictionaryBlockHeads :=
    { informationLength := informations.length.toUInt32
      informationMidashiLength := (joinedMidashi informations).length.toUInt32
      dictionaryMidashiKey := key } with hheads
  set body := informations.flatMap fun v =>
    BlockInformationOffsetLength.toNeBytes ⟨v.offset, v.length⟩ with hbody
  have hbytes : recordBytes (key, informations) =
      heads.toNeBytes ++ body ++ joinedMidashi informations := rfl
  have hbodyLength : body.length = informations.length * BlockInformationOffsetLength.size :=
    length_flatMap_toNeBytes informations
  have hheadsRead : (sliceFrom (pre ++ (recordBytes (key, informations) ++ post)) pre.length :
      Result Bytes) = .ok (heads.toNeBytes ++ (body ++ joinedMidashi informations ++ post)) := by
    rw [sliceFrom_append, hbytes]
    simp only [List.append_assoc]
  have hjoinedRead : getJoinedMidashi (pre ++ (recordBytes (key, informations) ++ post)) pre.length
      informations.length (joinedMidashi informations).length =
        .ok (informations.map (·.midashi)) := by
    have hsplit : pre ++ (recordBytes (key, informations) ++ post) =
        (pre ++ heads.toNeBytes ++ body) ++ (joinedMidashi informations ++ post) := by
      rw [hbytes]
      simp only [List.append_assoc]
    have hoffset : pre.length + DictionaryBlockHeads.size +
        informations.length * BlockInformationOffsetLength.size =
          (pre ++ heads.toNeBytes ++ body).length := by
      simp only [List.length_append, DictionaryBlockHeads.length_toNeBytes, hbodyLength]
    rw [getJoinedMidashi, hsplit, hoffset, slice_append, Outcome.ok_bind,
      splitOn_joinedMidashi hr]
    rfl
  have hinformationsRead : readBlockInformations
      (pre ++ (recordBytes (key, informations) ++ post)) pre.length 0
        (informations.map (·.midashi)) = .ok informations := by
    have hread := readBlockInformations_append (pre ++ heads.toNeBytes)
      (joinedMidashi informations ++ post) pre.length 0 informations (by simp)
    rw [hbytes]
    simpa only [List.append_assoc] using hread
  rw [readIndexUnit, hheadsRead, Outcome.ok_bind, DictionaryBlockHeads.fromNeBytes_append,
    Outcome.ok_bind]
  dsimp only [hheads]
  rw [hinformations, hjoined, hjoinedRead, Outcome.ok_bind,
    if_neg (not_not.mpr (List.length_map _)), hinformationsRead, Outcome.ok_bind,
    List.length_append, length_recordBytes, ← Nat.add_assoc, ← Nat.add_assoc]

/-! ## The tables -/

/-- Puts the units of a key into the tables. -/
def Index.put (t : Index) (r : IndexRecord) : Index :=
  match getAsciiHiraganaVecIndex r.1 with
  | some i => { t with indexAsciiHiraganaVec := t.indexAsciiHiraganaVec.set i r.2 }
  | none => { t with indexMap := t.indexMap.insert r.1 r.2 }

/-- The vector has a slot for every byte. -/
def Index.IsSized (t : Index) : Prop :=
  t.indexAsciiHiraganaVec.length = INDEX_ASCII_HIRAGANA_VEC_LENGTH

lemma Index.isSized_empty : Index.IsSized {} := List.length_replicate

lemma Index.IsSized.put {t : Index} (ht : t.IsSized) (r : IndexRecord) : (t.put r).IsSized := by
  unfold Index.put
  split
  · simpa [Index.IsSized] using ht
  · exact ht

lemma Index.IsSized.foldl_put {t : Index} (ht : t.IsSized) (rs : List IndexRecord) :
    (rs.foldl Index.put t).IsSized := by
  induction rs generalizing t with
  | nil => exact ht
  | cons r rs ih => exact ih (ht.put r)

lemma getAsciiHiraganaVecIndex_lt {key : DictionaryMidashiKey} {i : ℕ}
    (h : getAsciiHiraganaVecIndex key = some i) : i < INDEX_ASCII_HIRAGANA_VEC_LENGTH := by
  unfold getAsciiHiraganaVecIndex at h
  have h0 := key[0].toNat_lt
  have h1 := key[1].toNat_lt
  rw [INDEX_ASCII_HIRAGANA_VEC_LENGTH]
  split at h
  · rw [Option.some.injEq] at h
    omega
  · split at h
    · rw [Option.some.injEq] at h
      omega
    · simp at h

lemma Index.insert_eq {t : Index} (ht : t.IsSized) (r : IndexRecord) :
    t.insert r.1 r.2 = .ok (t.put r) := by
  unfold Index.insert Index.put
  cases hi : getAsciiHiraganaVecIndex r.1 with
  | none => rfl
  | some i => exact if_pos (by rw [ht]; exact getAsciiHiraganaVecIndex_lt hi)

/-! ## The blocks of the index data -/

/-- A list of records is read back from anywhere in the buffer. -/
theorem updateIndexFrom_records (rs : List IndexRecord) (hrs : ∀ r ∈ rs, IsReadable r)
    (pre post : Bytes) {t : Index} (ht : t.IsSized) :
    updateIndexFrom (pre ++ (rs.flatMap recordBytes ++ post)) rs.length pre.length t =
      .ok (rs.foldl Index.put t) := by
  induction rs generalizing pre t with
  | nil => rfl
  | cons r rs ih =>
    have hbytes : pre ++ ((r :: rs).flatMap recordBytes ++ post) =
        pre ++ (recordBytes r ++ (rs.flatMap recordBytes ++ post)) := by
      rw [List.flatMap_cons, List.append_assoc]
    have hnext := ih (fun s hs => hrs s (List.mem_cons_of_mem r hs)) (pre ++ recordBytes r)
      (ht.put r)
    rw [List.append_assoc] at hnext
    rw [List.length_cons, updateIndexFrom, hbytes,
      readIndexUnit_recordBytes pre _ (hrs r List.mem_cons_self), Index.insert_eq ht,
      Outcome.ok_bind, Outcome.pure_eq, Outcome.ok_bind]
    exact hnext

/-- The bytes of a block of records. -/
def groupBytes (g : List IndexRecord) : Bytes := g.flatMap recordBytes

/-- The headers of consecutive blocks, of which the first begins at `offset` of the index data. -/
def blockHeaders : ℕ → List (List IndexRecord) → List IndexDataHeaderBlockHeader
  | _, [] => []
  | offset, g :: gs =>
    ⟨offset.toUInt32, (groupBytes g).length.toUInt32, g.length.toUInt32⟩ ::
      blockHeaders (offset + (groupBytes g).length) gs

lemma length_blockHeaders (offset : ℕ) (gs : List (List IndexRecord)) :
    (blockHeaders offset gs).length = gs.length := by
  induction gs generalizing offset with
  | nil => rfl
  | cons g gs ih => rw [blockHeaders, List.length_cons, ih, List.length_cons]

lemma readExact_append (pre bytes post : Bytes) :
    readExact (pre ++ (bytes ++ post)) pre.length bytes.length = .ok bytes := by
  rw [readExact, List.drop_left, List.take_left]
  exact if_pos rfl

/-- A block that the buffer can hold is read in front of what the buffer held; a longer one stops
the program. -/
lemma readExactInto_append (buffer pre bytes post : Bytes) :
    readExactInto buffer (pre ++ (bytes ++ post)) pre.length bytes.length =
      if bytes.length ≤ buffer.length then .ok (bytes ++ buffer.drop bytes.length)
      else .panic := by
  unfold readExactInto
  split
  · rename_i h
    rw [sliceTo_of_le h, Outcome.ok_bind, readExact_append]
    rfl
  · rename_i h
    rw [sliceTo_of_lt (by omega)]
    rfl

lemma length_groupBytes_ge (g : List IndexRecord) : g.length ≤ (groupBytes g).length := by
  induction g with
  | nil => simp
  | cons r g ih =>
    have hr := length_recordBytes_pos r
    rw [groupBytes, List.flatMap_cons, List.length_append, List.length_cons, ← groupBytes]
    omega

/-- **The blocks are read back**, each into the buffer of the one before it, as long as the buffer
can hold them.  The file holds the blocks from `start` on, and the header buffer their headers
from the `i`-th on. -/
theorem readIndexBlocks_blockHeaders (gs : List (List IndexRecord))
    (hgs : ∀ g ∈ gs, ∀ r ∈ g, IsReadable r) (indexDataOffset : UInt32)
    (filePre filePost headerPre : Bytes) (i offset : ℕ) (buffer : Bytes) {t : Index}
    (ht : t.IsSized)
    (hfile : indexDataOffset.toNat + offset = filePre.length)
    (hfileEnd : filePre.length + (gs.flatMap groupBytes).length < 2 ^ 32)
    (hheader : IndexDataHeader.size + i * IndexDataHeaderBlockHeader.size = headerPre.length) :
    readIndexBlocks indexDataOffset (filePre ++ (gs.flatMap groupBytes ++ filePost))
        (headerPre ++ (blockHeaders offset gs).flatMap IndexDataHeaderBlockHeader.toNeBytes)
        gs.length i (buffer, t) =
      if ∀ g ∈ gs, (groupBytes g).length ≤ buffer.length then
        .ok (gs.foldl (fun b g => groupBytes g ++ b.drop (groupBytes g).length) buffer,
          gs.flatten.foldl Index.put t)
      else .panic := by
  induction gs generalizing filePre headerPre i offset buffer t with
  | nil => simp [readIndexBlocks]
  | cons g gs ih =>
    rw [List.flatMap_cons, List.length_append] at hfileEnd
    have hglen := length_groupBytes_ge g
    set header : IndexDataHeaderBlockHeader :=
      ⟨offset.toUInt32, (groupBytes g).length.toUInt32, g.length.toUInt32⟩ with hheaderDef
    have hoffset : header.offset.toNat = offset := toNat_toUInt32_of_lt (by omega)
    have hlength : header.length.toNat = (groupBytes g).length := toNat_toUInt32_of_lt (by omega)
    have hunit : header.unitLength.toNat = g.length := toNat_toUInt32_of_lt (by omega)
    obtain ⟨position, hposition, hpositionVal⟩ := addU32_of_lt (a := indexDataOffset)
      (b := header.offset) (by rw [hoffset]; omega)
    rw [hoffset, hfile] at hpositionVal
    have hheaderBytes : headerPre ++
        (blockHeaders offset (g :: gs)).flatMap IndexDataHeaderBlockHeader.toNeBytes =
      headerPre ++ (header.toNeBytes ++
        (blockHeaders (offset + (groupBytes g).length) gs).flatMap
          IndexDataHeaderBlockHeader.toNeBytes) := by
      rw [blockHeaders, List.flatMap_cons]
    have hfileBytes : filePre ++ ((g :: gs).flatMap groupBytes ++ filePost) =
        filePre ++ (groupBytes g ++ (gs.flatMap groupBytes ++ filePost)) := by
      rw [List.flatMap_cons, List.append_assoc]
    rw [List.length_cons, readIndexBlocks, readIndexBlock, hheaderBytes, hheader,
      sliceFrom_append, Outcome.ok_bind, IndexDataHeaderBlockHeader.fromNeBytes_append,
      Outcome.ok_bind, hposition, Outcome.ok_bind, hpositionVal, hlength, hfileBytes,
      readExactInto_append]
    by_cases hfits : (groupBytes g).length ≤ buffer.length
    · have hupdate := updateIndexFrom_records g (hgs g List.mem_cons_self) []
        (buffer.drop (groupBytes g).length) ht
      rw [List.nil_append, List.length_nil, ← groupBytes] at hupdate
      have hbufferLength : (groupBytes g ++ buffer.drop (groupBytes g).length).length =
          buffer.length := by
        rw [List.length_append, List.length_drop]
        omega
      have hnext := ih (fun h hh => hgs h (List.mem_cons_of_mem g hh)) (filePre ++ groupBytes g)
        (headerPre ++ header.toNeBytes) (i + 1) (offset + (groupBytes g).length)
        (groupBytes g ++ buffer.drop (groupBytes g).length) (ht.foldl_put g)
        (by rw [List.length_append, ← hfile]; ring)
        (by rw [List.length_append]; omega)
        (by
          rw [List.length_append, IndexDataHeaderBlockHeader.length_toNeBytes, ← hheader]
          ring)
      simp only [List.append_assoc, hbufferLength] at hnext
      rw [if_pos hfits, Outcome.ok_bind, updateIndexMapAndIndexAsciiHiraganaVec, hunit, hupdate,
        Outcome.ok_bind, Outcome.pure_eq, Outcome.ok_bind, hnext]
      simp only [List.forall_mem_cons, hfits, true_and, List.foldl_cons, List.flatten_cons,
        List.foldl_append]
    · rw [if_neg hfits, if_neg (fun hall => hfits (hall g List.mem_cons_self))]
      rfl

end Dictionary

end Yaskkserv2
