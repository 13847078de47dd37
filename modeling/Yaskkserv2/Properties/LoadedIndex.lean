import Yaskkserv2.Properties.IndexData
import Yaskkserv2.Properties.Keys
import Yaskkserv2.Server.DictionaryReader

/-!
# The loaded index gives back the units of the builder

The loader puts the units of a key into one of two tables, and `get_block_information_vectors` asks
the table that the key names.  Since two keys of well-formed characters never share a slot, what
was put in last for a key is what a look-up finds.

The loader reads a block of index records at a time into a buffer of `INDEX_DATA_BLOCK_LENGTH`
bytes.  The writer closes a block before it would reach that length, but a record that is too long
on its own becomes a block of its own, which the buffer cannot hold.
-/

namespace Yaskkserv2

open Framework DictionaryCreator DictionaryReader

namespace Dictionary

/-! ## Looking a key up -/

/-- The units that the tables hold for a key. -/
def Index.unitsOf (t : Index) (key : DictionaryMidashiKey) :
    Option (List DictionaryBlockInformation) :=
  match slot key with
  | .inl i =>
    let informations := t.indexAsciiHiraganaVec[i]?.getD []
    if informations = [] then none else some informations
  | .inr key => t.indexMap[key]?

lemma slot_eq_inl {key : DictionaryMidashiKey} {i : ℕ} (h : getAsciiHiraganaVecIndex key = some i) :
    slot key = .inl i := by rw [slot, h]

lemma slot_eq_inr {key : DictionaryMidashiKey} (h : getAsciiHiraganaVecIndex key = none) :
    slot key = .inr key := by rw [slot, h]

/-- `get_block_information_vectors` looks the key up, and never past the end of the vector. -/
lemma getBlockInformationVectors_eq {header : DictionaryFixedHeader} {t : Index}
    (ht : t.IsSized) (key : DictionaryMidashiKey) :
    getBlockInformationVectors ⟨header, t.indexMap, t.indexAsciiHiraganaVec⟩ key =
      .ok (t.unitsOf key) := by
  unfold getBlockInformationVectors
  cases hi : getAsciiHiraganaVecIndex key with
  | none => rw [Index.unitsOf, slot_eq_inr hi]
  | some i =>
    have hlt : i < t.indexAsciiHiraganaVec.length := by
      rw [ht]
      exact getAsciiHiraganaVecIndex_lt hi
    dsimp only
    rw [index_of_lt hlt, Outcome.ok_bind, Index.unitsOf, slot_eq_inl hi]
    dsimp only
    rw [List.getElem?_eq_getElem hlt, Option.getD_some]
    rfl

lemma Index.unitsOf_empty (key : DictionaryMidashiKey) : Index.unitsOf {} key = none := by
  unfold Index.unitsOf
  split
  · rename_i i _
    have hnil : ((List.replicate INDEX_ASCII_HIRAGANA_VEC_LENGTH
        ([] : List DictionaryBlockInformation))[i]?).getD [] = [] := by
      rw [List.getElem?_replicate]
      split <;> rfl
    exact if_pos hnil
  · exact Std.ExtTreeMap.getElem?_empty

/-- What a look-up finds after the units of a key have been put in. -/
lemma Index.unitsOf_put {t : Index} (ht : t.IsSized) {r : IndexRecord} (hr : r.2 ≠ [])
    (key : DictionaryMidashiKey) :
    (t.put r).unitsOf key = if slot key = slot r.1 then some r.2 else t.unitsOf key := by
  unfold Index.put
  cases hi : getAsciiHiraganaVecIndex r.1 with
  | none =>
    cases hk : getAsciiHiraganaVecIndex key with
    | none =>
      have hcmp : keyCompare r.1 key = .eq ↔ key = r.1 := by
        constructor
        · exact fun h => (Std.LawfulEqCmp.eq_of_compare h).symm
        · rintro rfl
          exact Std.ReflCmp.compare_self
      simp only [Index.unitsOf, slot_eq_inr hi, slot_eq_inr hk, Std.ExtTreeMap.getElem?_insert,
        hcmp, Sum.inr.injEq]
    | some j =>
      simp only [Index.unitsOf, slot_eq_inr hi, slot_eq_inl hk, reduceCtorEq, if_false]
  | some i =>
    have hlt : i < t.indexAsciiHiraganaVec.length := by
      rw [ht]
      exact getAsciiHiraganaVecIndex_lt hi
    cases hk : getAsciiHiraganaVecIndex key with
    | none =>
      simp only [Index.unitsOf, slot_eq_inl hi, slot_eq_inr hk, reduceCtorEq, if_false]
    | some j =>
      simp only [Index.unitsOf, slot_eq_inl hi, slot_eq_inl hk, Sum.inl.injEq]
      by_cases hij : j = i
      · subst hij
        rw [if_pos rfl, List.getElem?_set_self hlt, Option.getD_some, if_neg hr]
      · rw [if_neg hij, List.getElem?_set_ne (fun h => hij h.symm)]

section Records

variable {rs : List IndexRecord} (hne : ∀ r ∈ rs, r.2 ≠ []) (hkeys : ∀ r ∈ rs, IsEucKey r.1)

include hne hkeys

/-- A key that no record has is found where it was before. -/
lemma Index.unitsOf_foldl_put_of_not_mem {t : Index} (ht : t.IsSized)
    {key : DictionaryMidashiKey} (hkey : IsEucKey key) (hmem : key ∉ rs.map (·.1)) :
    (rs.foldl Index.put t).unitsOf key = t.unitsOf key := by
  induction rs generalizing t with
  | nil => rfl
  | cons r rs ih =>
    rw [List.map_cons, List.mem_cons, not_or] at hmem
    have hslot : slot key ≠ slot r.1 := fun h =>
      hmem.1 (slot_inj hkey (hkeys r List.mem_cons_self) h)
    rw [List.foldl_cons, ih (fun s hs => hne s (List.mem_cons_of_mem r hs))
      (fun s hs => hkeys s (List.mem_cons_of_mem r hs)) (ht.put r) hmem.2,
      Index.unitsOf_put ht (hne r List.mem_cons_self), if_neg hslot]

/-- **Every record is found under its key.** -/
lemma Index.unitsOf_foldl_put_of_mem {t : Index} (ht : t.IsSized)
    (hnodup : (rs.map (·.1)).Nodup) {r : IndexRecord} (hr : r ∈ rs) :
    (rs.foldl Index.put t).unitsOf r.1 = some r.2 := by
  induction rs generalizing t with
  | nil => simp at hr
  | cons s rs ih =>
    rw [List.map_cons, List.nodup_cons] at hnodup
    have hne' : ∀ r ∈ rs, r.2 ≠ [] := fun r hr => hne r (List.mem_cons_of_mem s hr)
    have hkeys' : ∀ r ∈ rs, IsEucKey r.1 := fun r hr => hkeys r (List.mem_cons_of_mem s hr)
    rw [List.foldl_cons]
    rcases List.mem_cons.mp hr with rfl | hr
    · rw [Index.unitsOf_foldl_put_of_not_mem hne' hkeys' (ht.put r)
        (hkeys r List.mem_cons_self) hnodup.1, Index.unitsOf_put ht (hne r List.mem_cons_self),
        if_pos rfl]
    · exact ih hne' hkeys' (ht.put s) hnodup.2 hr

end Records

/-! ## The loader -/

/-- The tables that the loader makes of the built blocks. -/
def Index.ofBuilt (built : List BuiltBlock) : Index :=
  (built.map (·.record)).foldl Index.put {}

lemma Index.isSized_ofBuilt (built : List BuiltBlock) : (Index.ofBuilt built).IsSized :=
  Index.isSized_empty.foldl_put _

/-- The buffer of the loader holds every block of records exactly when it holds every record. -/
lemma length_groupBytes_le_iff {built : List BuiltBlock} {groups : List (List IndexRecord)}
    {r : CreateIndexDataResult} (h : IndexDataOf built groups r) :
    (∀ g ∈ groups, (groupBytes g).length ≤ INDEX_DATA_BLOCK_LENGTH) ↔
      ∀ b ∈ built, (recordBytes b.record).length ≤ INDEX_DATA_BLOCK_LENGTH := by
  constructor
  · intro hgroups b hb
    have hmem : b.record ∈ groups.flatten := by
      rw [h.flatten]
      exact List.mem_map_of_mem hb
    obtain ⟨g, hg, hbg⟩ := List.mem_flatten.mp hmem
    have hle : (recordBytes b.record).length ≤ (groupBytes g).length := by
      rw [groupBytes, List.length_flatMap]
      exact List.single_le_sum (by simp) _ (List.mem_map_of_mem hbg)
    exact hle.trans (hgroups g hg)
  · intro hbuilt g hg
    rcases h.bounded g hg with hlt | ⟨s, rfl⟩
    · exact hlt.le
    · have hmem : s ∈ built.map (·.record) := by
        rw [← h.flatten]
        exact List.mem_flatten.mpr ⟨[s], hg, List.mem_singleton_self s⟩
      obtain ⟨b, hb, rfl⟩ := List.mem_map.mp hmem
      rw [groupBytes, List.flatMap_singleton]
      exact hbuilt b hb

/-- The index data are the records one after the other. -/
lemma indexData_eq {built : List BuiltBlock} {groups : List (List IndexRecord)}
    {r : CreateIndexDataResult} (h : IndexDataOf built groups r) :
    r.indexData = groupBytes (built.map (·.record)) := by
  have hgroup : groupBytes = fun g => g.flatMap recordBytes := rfl
  rw [h.indexData, ← h.flatten, hgroup]
  simp only [List.flatMap_def, List.map_flatten, List.flatten_flatten, List.map_map,
    Function.comp_def]

/-- There are fewer blocks of records than `u32` can count. -/
lemma length_groups_lt {built : List BuiltBlock} {groups : List (List IndexRecord)}
    {r : CreateIndexDataResult} (h : IndexDataOf built groups r)
    (hlen : r.indexData.length < 2 ^ 32) : groups.length < 2 ^ 32 := by
  rw [indexData_eq h] at hlen
  have hmany : ∀ rs : List IndexRecord, rs.length * DictionaryBlockHeads.size ≤
      (groupBytes rs).length := by
    intro rs
    induction rs with
    | nil => simp
    | cons s rs ih =>
      have hs := length_recordBytes s
      rw [groupBytes, List.flatMap_cons, List.length_append, List.length_cons, ← groupBytes,
        Nat.succ_mul]
      omega
  have hle := hmany (built.map (·.record))
  have hgroups := h.length_groups
  rw [List.length_map, DictionaryBlockHeads.size] at hle
  omega

/-- **The loader reads the index that was written**, wherever in the file it lies, if its buffer
holds every record; otherwise it stops the program. -/
theorem createIndexMapAndIndexAsciiHiraganaVec_of_indexDataOf {built : List BuiltBlock}
    {groups : List (List IndexRecord)} {r : CreateIndexDataResult}
    (h : IndexDataOf built groups r) (hbuilt : ∀ b ∈ built, IsReadable b.record)
    {indexDataOffset : UInt32} (pre post : Bytes) (hoffset : indexDataOffset.toNat = pre.length)
    (hlen : pre.length + r.indexData.length < 2 ^ 32) :
    createIndexMapAndIndexAsciiHiraganaVec indexDataOffset (pre ++ (r.indexData ++ post))
        r.indexDataHeader =
      if ∀ b ∈ built, (recordBytes b.record).length ≤ INDEX_DATA_BLOCK_LENGTH then
        .ok (Index.ofBuilt built)
      else .panic := by
  have hcount := length_groups_lt h (by omega)
  set header : IndexDataHeader :=
    ⟨INDEX_DATA_BLOCK_LENGTH.toUInt32, groups.length.toUInt32⟩ with hheader
  have hbuffer : header.blockBufferLength.toNat = INDEX_DATA_BLOCK_LENGTH := rfl
  have hheaders : header.blockHeaderLength.toNat = groups.length := toNat_toUInt32_of_lt hcount
  have hlimit : INDEX_DATA_BLOCK_LENGTH < BLOCK_BUFFER_LENGTH_LIMIT := by decide
  have hreadable : ∀ g ∈ groups, ∀ s ∈ g, IsReadable s := by
    intro g hg s hs
    have hmem : s ∈ built.map (·.record) := by
      rw [← h.flatten]
      exact List.mem_flatten.mpr ⟨g, hg, hs⟩
    obtain ⟨b, hb, rfl⟩ := List.mem_map.mp hmem
    exact hbuilt b hb
  have hblocks := readIndexBlocks_blockHeaders groups hreadable indexDataOffset pre post
    header.toNeBytes 0 0 (List.replicate INDEX_DATA_BLOCK_LENGTH 0) Index.isSized_empty
    (by rw [hoffset, Nat.add_zero]) (by rw [← h.indexData]; exact hlen)
    (by rw [IndexDataHeader.length_toNeBytes, Nat.zero_mul, Nat.add_zero])
  rw [createIndexMapAndIndexAsciiHiraganaVec, h.indexDataHeader, ← hheader,
    IndexDataHeader.fromNeBytes_append, Outcome.ok_bind, hbuffer, if_pos hlimit, hheaders,
    h.indexData]
  dsimp only
  rw [hblocks, List.length_replicate]
  simp only [length_groupBytes_le_iff h]
  split
  · rw [Outcome.ok_bind, Index.ofBuilt, h.flatten]
    rfl
  · rfl

/-! ## Records that fit -/

/-- The units of a block leave a record in the index that the buffer of the loader can hold: twelve
bytes, eight for each unit, and the midashi of the units with a space between them. -/
def RecordFits (block : Bytes) : Prop :=
  ∀ alignedBlock informations,
    getDictionaryBlockInformations block 0 [] = .ok (alignedBlock, informations) →
      DictionaryBlockHeads.size + informations.length * BlockInformationOffsetLength.size +
        (joinedMidashi informations).length ≤ INDEX_DATA_BLOCK_LENGTH

/-- How long a record is depends on the block alone. -/
lemma length_recordBytes_le_iff {block alignedBlock : Bytes} {blocksLen : ℕ}
    {informations : List DictionaryBlockInformation}
    (h : getDictionaryBlockInformations block blocksLen [] = .ok (alignedBlock, informations))
    (key : DictionaryMidashiKey) :
    (recordBytes (key, informations)).length ≤ INDEX_DATA_BLOCK_LENGTH ↔ RecordFits block := by
  rw [getDictionaryBlockInformations_shift] at h
  obtain ⟨r, hr⟩ : ∃ r, getDictionaryBlockInformations block 0 [] = .ok r := by
    cases hr : getDictionaryBlockInformations block 0 [] with
    | ok r => exact ⟨r, rfl⟩
    | _ =>
      rw [hr] at h
      cases h
  rw [hr, Outcome.map_ok, Outcome.ok.injEq] at h
  obtain ⟨aligned, informations₀⟩ := r
  rw [Prod.map_apply, Prod.mk.injEq] at h
  obtain ⟨-, rfl⟩ := h
  rw [length_recordBytes, joinedMidashi_map_shiftInformation, List.length_map]
  constructor
  · intro hle alignedBlock informations h
    rw [hr, Outcome.ok.injEq, Prod.mk.injEq] at h
    rwa [← h.2]
  · intro hfits
    exact hfits _ _ hr

/-- The records of the built blocks fit when those of the blocks do. -/
lemma length_recordBytes_le_iff_of_buildBlocks {blocks : List (DictionaryMidashiKey × Bytes)}
    {blocksLen : ℕ} {built : List BuiltBlock} (h : buildBlocks blocksLen blocks = .ok built) :
    (∀ b ∈ built, (recordBytes b.record).length ≤ INDEX_DATA_BLOCK_LENGTH) ↔
      ∀ p ∈ blocks, RecordFits p.2 := by
  induction blocks generalizing blocksLen built with
  | nil =>
    rw [buildBlocks, Outcome.ok.injEq] at h
    subst h
    simp
  | cons keyAndBlock rest ih =>
    obtain ⟨alignedBlock, informations, built', hblock, hrest, rfl⟩ := buildBlocks_cons_eq_ok h
    rw [List.forall_mem_cons, List.forall_mem_cons, ih hrest, length_recordBytes_le_iff hblock]

/-! ## The index of a map -/

/-- The units that the builder produced for a key. -/
def unitsOfBuilt (built : List BuiltBlock) (key : DictionaryMidashiKey) :
    Option (List DictionaryBlockInformation) :=
  (built.find? fun b => b.record.1 = key).map (·.record.2)

section Built

variable {m : JisyoEntriesMap} {blockMap : TemporaryBlockMap} {built : List BuiltBlock}

/-- The keys of the blocks are keys of midashi. -/
lemma isEucKey_of_mem_blockMap (hm : ∀ midashi ∈ m, StartsWithEucChar midashi)
    (hmap : createTemporaryBlockMap m = .ok blockMap) {key : DictionaryMidashiKey}
    (hkey : key ∈ blockMap) : IsEucKey key := by
  have hspec := createTemporaryBlockMap_spec hmap key
  have hlines : linesOf key m.toList ≠ [] := by
    intro hnil
    rw [if_pos hnil, Std.ExtTreeMap.getElem?_eq_some_getElem hkey] at hspec
    simp at hspec
  rw [linesOf, ne_eq, List.map_eq_nil_iff, List.filter_eq_nil_iff] at hlines
  push Not at hlines
  obtain ⟨p, hp, hpkey⟩ := hlines
  rw [decide_eq_true_eq] at hpkey
  have hmem : p.1 ∈ m := by
    have hget := Std.ExtTreeMap.mem_toList_iff_getElem?_eq_some.mp hp
    rw [← Std.ExtTreeMap.isSome_getElem?_iff_mem, hget, Option.isSome_some]
  exact ⟨p.1, hm p.1 hmem, hpkey⟩

lemma isEucKey_of_mem_built (hm : ∀ midashi ∈ m, StartsWithEucChar midashi)
    (hmap : createTemporaryBlockMap m = .ok blockMap)
    (hbuilt : buildBlocks 0 blockMap.toList = .ok built) {b : BuiltBlock} (hb : b ∈ built) :
    IsEucKey b.record.1 := by
  have hmem : b.record.1 ∈ blockMap.toList.map (·.1) := by
    rw [← map_key_of_buildBlocks hbuilt]
    exact List.mem_map_of_mem hb
  refine isEucKey_of_mem_blockMap hm hmap ?_
  rwa [Std.ExtTreeMap.map_fst_toList_eq_keys, Std.ExtTreeMap.mem_keys] at hmem

lemma nodup_keys_of_built (hbuilt : buildBlocks 0 blockMap.toList = .ok built) :
    (built.map (·.record.1)).Nodup := by
  rw [map_key_of_buildBlocks hbuilt, Std.ExtTreeMap.map_fst_toList_eq_keys]
  exact Std.ExtTreeMap.nodup_keys

/-- **The tables give back what was built for every key**, and nothing for the other keys of
well-formed characters. -/
theorem Index.unitsOf_ofBuilt (hm : ∀ midashi ∈ m, StartsWithEucChar midashi)
    (hmap : createTemporaryBlockMap m = .ok blockMap)
    (hbuilt : buildBlocks 0 blockMap.toList = .ok built)
    (hne : ∀ b ∈ built, b.record.2 ≠ []) {key : DictionaryMidashiKey} (hkey : IsEucKey key) :
    (Index.ofBuilt built).unitsOf key = unitsOfBuilt built key := by
  have hne' : ∀ r ∈ built.map (·.record), r.2 ≠ [] := by simpa using hne
  have hkeys : ∀ r ∈ built.map (·.record), IsEucKey r.1 := by
    intro r hr
    obtain ⟨b, hb, rfl⟩ := List.mem_map.mp hr
    exact isEucKey_of_mem_built hm hmap hbuilt hb
  have hnodup := nodup_keys_of_built hbuilt
  unfold unitsOfBuilt
  cases hfind : built.find? fun b => b.record.1 = key with
  | none =>
    rw [List.find?_eq_none] at hfind
    have hmem : key ∉ (built.map (·.record)).map (·.1) := by
      rw [List.map_map, List.mem_map]
      rintro ⟨b, hb, hbkey⟩
      exact hfind b hb (decide_eq_true hbkey)
    rw [Index.ofBuilt, Index.unitsOf_foldl_put_of_not_mem hne' hkeys Index.isSized_empty hkey hmem,
      Index.unitsOf_empty]
    rfl
  | some b =>
    have hb := List.mem_of_find?_eq_some hfind
    have hbkey : b.record.1 = key := by simpa using List.find?_some hfind
    rw [← hbkey, Option.map_some, Index.ofBuilt]
    exact Index.unitsOf_foldl_put_of_mem hne' hkeys Index.isSized_empty
      (by rwa [List.map_map]) (List.mem_map_of_mem hb)

end Built

end Dictionary

end Yaskkserv2
