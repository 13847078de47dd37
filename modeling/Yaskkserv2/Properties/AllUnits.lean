import Yaskkserv2.Properties.JisyoEntries
import Yaskkserv2.Properties.LoadedUnits

/-!
# All units of a loaded dictionary

The server looks one key up.  The writer of a jisyo goes through the index from one end to the
other: the values of the map, which come in no order, and the whole vector, most of which is empty.

Whatever it comes across are units of the entries of some key (`IsLoaded.indexed_cases`), and it
comes across those of every midashi (`IsLoaded.exists_indexed`).
-/

namespace Yaskkserv2

open Framework Dictionary DictionaryCreator DictionaryReader

namespace Dictionary

/-! ## The index -/

/-- The units of a key are somewhere in the index. -/
def Indexed (indexMap : IndexMap) (indexAsciiHiraganaVec : IndexAsciiHiraganaVec)
    (informations : List DictionaryBlockInformation) : Prop :=
  (∃ key : DictionaryMidashiKey, indexMap[key]? = some informations) ∨
    informations ∈ indexAsciiHiraganaVec

lemma not_indexed_empty {informations : List DictionaryBlockInformation} (hne : informations ≠ []) :
    ¬ Indexed ({} : Index).indexMap ({} : Index).indexAsciiHiraganaVec informations := by
  rintro (⟨key, hkey⟩ | hmem)
  · rw [Std.ExtTreeMap.getElem?_empty] at hkey
    simp at hkey
  · exact hne (List.eq_of_mem_replicate hmem)

/-- What is in the index was put there. -/
lemma eq_of_indexed_put {t : Index} {r : IndexRecord}
    {informations : List DictionaryBlockInformation}
    (h : Indexed (t.put r).indexMap (t.put r).indexAsciiHiraganaVec informations) :
    informations = r.2 ∨ Indexed t.indexMap t.indexAsciiHiraganaVec informations := by
  unfold Index.put at h
  split at h
  · rcases h with hmap | hvec
    · exact .inr (.inl hmap)
    · exact (List.mem_or_eq_of_mem_set hvec).symm.imp id .inr
  · rcases h with ⟨key, hkey⟩ | hvec
    · rw [Std.ExtTreeMap.getElem?_insert] at hkey
      split at hkey
      · exact .inl (Option.some.inj hkey).symm
      · exact .inr (.inl ⟨key, hkey⟩)
    · exact .inr (.inr hvec)

lemma exists_of_indexed_foldl_put {rs : List IndexRecord} {t : Index}
    {informations : List DictionaryBlockInformation}
    (h : Indexed (rs.foldl Index.put t).indexMap (rs.foldl Index.put t).indexAsciiHiraganaVec
      informations) :
    (∃ r ∈ rs, r.2 = informations) ∨ Indexed t.indexMap t.indexAsciiHiraganaVec informations := by
  induction rs generalizing t with
  | nil => exact .inr h
  | cons r rs ih =>
    rcases ih h with ⟨s, hs, rfl⟩ | hput
    · exact .inl ⟨s, List.mem_cons_of_mem r hs, rfl⟩
    · rcases eq_of_indexed_put hput with rfl | ht
      · exact .inl ⟨r, List.mem_cons_self, rfl⟩
      · exact .inr ht

/-- What a look-up answers is in the index. -/
lemma indexed_of_getBlockInformationVectors {onMemory : OnMemory} {key : DictionaryMidashiKey}
    {informations : List DictionaryBlockInformation}
    (h : getBlockInformationVectors onMemory key = .ok (some informations)) :
    Indexed onMemory.indexMap onMemory.indexAsciiHiraganaVec informations := by
  unfold getBlockInformationVectors at h
  split at h
  · exact .inl ⟨key, Outcome.ok.inj h⟩
  · rename_i i _
    obtain ⟨found, hfound, h⟩ := Outcome.bind_eq_ok.mp h
    have hmem : found ∈ onMemory.indexAsciiHiraganaVec := by
      rw [index] at hfound
      split at hfound
      · rename_i x hx
        rw [← Outcome.ok.inj hfound]
        exact List.mem_of_getElem? hx
      · simp at hfound
    have hsome := Outcome.ok.inj h
    split at hsome
    · simp at hsome
    · rw [← Option.some.inj hsome]
      exact .inr hmem

end Dictionary

section Loaded

variable {m : JisyoEntriesMap} {file : Bytes} {onMemory : OnMemory} (h : IsLoaded m file onMemory)

include h

/-- The index of a loaded dictionary is that of the blocks that were built. -/
lemma IsLoaded.exists_built : ∃ blockMap built, createTemporaryBlockMap m = .ok blockMap ∧
    buildBlocks 0 blockMap.toList = .ok built ∧ (∀ b ∈ built, b.record.2 ≠ []) ∧
    onMemory = ⟨onMemory.dictionaryFixedHeader, (Index.ofBuilt built).indexMap,
      (Index.ofBuilt built).indexAsciiHiraganaVec⟩ := by
  obtain ⟨encodingTable, r, index, hr, -, hfile, hload, hindexMap, hvec⟩ := h.exists_index
  obtain ⟨blockMap, built, groups, hmap, hbuilt, hgroups⟩ := createIndexData_spec hr
  have hdataEnd := hfile.indexData_end
  have hblocksEnd := hfile.blocks_end
  have hblocksOffset := onMemory.dictionaryFixedHeader.blocksOffset.toNat_lt
  obtain ⟨⟨pre, post, hdata, hpre⟩, hdataLength⟩ :=
    fileSection_split hfile.indexData (by omega)
  have hreadable := isReadable_of_buildBlocks hbuilt (by
    rw [← List.flatMap_map, ← groupBytes, ← indexData_eq hgroups]
    omega)
  rw [hdata, createIndexMapAndIndexAsciiHiraganaVec_of_indexDataOf hgroups hreadable pre post
    hpre.symm (by omega)] at hload
  split at hload
  · obtain rfl := Outcome.ok.inj hload
    refine ⟨blockMap, built, hmap, hbuilt, fun b hb => (hreadable b hb).ne_nil, ?_⟩
    rw [← hindexMap, ← hvec]
  · simp at hload

variable (hm : IsJisyoEntries m)

/-- **Nothing else is in the index**: what is there is empty, or the units of a key. -/
theorem IsLoaded.indexed_cases {informations : List DictionaryBlockInformation}
    (hindexed : Indexed onMemory.indexMap onMemory.indexAsciiHiraganaVec informations) :
    informations = [] ∨ ∃ key units,
      IsUnitsOf file onMemory.dictionaryFixedHeader.blocksOffset (entriesOf m hm.isEntry key)
        informations units := by
  obtain ⟨blockMap, built, hmap, hbuilt, hne, honMemory⟩ := h.exists_built
  by_cases hnil : informations = []
  · exact .inl hnil
  rw [honMemory] at hindexed
  obtain ⟨b, hb, rfl⟩ : ∃ b ∈ built, b.record.2 = informations := by
    rcases exists_of_indexed_foldl_put hindexed with ⟨r, hr, hinformations⟩ | hempty
    · obtain ⟨b, hb, rfl⟩ := List.mem_map.mp hr
      exact ⟨b, hb, hinformations⟩
    · exact absurd hempty (not_indexed_empty hnil)
  -- the look-up of the key of the block gives its units
  have hnodup : ((built.map (·.record)).map (·.1)).Nodup := by
    rw [List.map_map]
    exact nodup_keys_of_built hbuilt
  have hall : ∀ r ∈ built.map (·.record), r.2 ≠ [] ∧ IsEucKey r.1 := by
    intro r hr
    obtain ⟨b', hb', rfl⟩ := List.mem_map.mp hr
    exact ⟨hne b' hb', isEucKey_of_mem_built hm.starts hmap hbuilt hb'⟩
  have hfound : getBlockInformationVectors onMemory b.record.1 = .ok (some b.record.2) := by
    rw [honMemory, getBlockInformationVectors_eq (Index.isSized_ofBuilt built)]
    exact congrArg _ (Index.unitsOf_foldl_put_of_mem (fun r hr => (hall r hr).1)
      (fun r hr => (hall r hr).2) Index.isSized_empty hnodup (List.mem_map_of_mem hb))
  rcases h.lookup hm.isEntry hm.starts b.record.1 with ⟨hnone, -⟩ |
    ⟨key', informations, units, hsome, hkey', hunits⟩
  · rw [hfound] at hnone
    simp at hnone
  · rw [hfound, Outcome.ok.injEq, Option.some.injEq] at hsome
    exact .inr ⟨key', units, hsome ▸ hunits⟩

/-- **Every midashi is in the index**, among the units of its key. -/
theorem IsLoaded.exists_indexed {midashi text : Bytes} (hget : m[midashi]? = some text) :
    ∃ informations key units,
      Indexed onMemory.indexMap onMemory.indexAsciiHiraganaVec informations ∧
      IsUnitsOf file onMemory.dictionaryFixedHeader.blocksOffset (entriesOf m hm.isEntry key)
        informations units ∧
      ∃ e ∈ entriesOf m hm.isEntry key, e.midashi = midashi ∧ e.candidates = text := by
  have hmem : midashi ∈ m := by
    rw [← Std.ExtTreeMap.isSome_getElem?_iff_mem, hget, Option.isSome_some]
  have hentry := hm.isEntry (midashi, text)
    (Std.ExtTreeMap.mem_toList_iff_getElem?_eq_some.mpr hget)
  obtain ⟨key, hkey, heuc⟩ := (hm.starts midashi hmem).exists_key
  have he : Entry.of (midashi, text) hentry ∈ entriesOf m hm.isEntry key :=
    mem_entriesOf.mpr ⟨hget, hkey⟩
  rcases h.lookup hm.isEntry hm.starts key with ⟨-, hempty⟩ |
    ⟨key', informations, units, hsome, hkey', hunits⟩
  · rw [hempty heuc] at he
    simp at he
  · obtain rfl := hkey' heuc
    exact ⟨informations, _, units, indexed_of_getBlockInformationVectors hsome, hunits, _, he, rfl,
      rfl⟩

end Loaded

end Yaskkserv2
