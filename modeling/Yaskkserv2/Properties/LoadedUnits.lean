import Yaskkserv2.Properties.BlockUnits
import Yaskkserv2.Properties.DictionaryFile
import Yaskkserv2.Properties.UnitSearch

/-!
# The units that a loaded dictionary serves

From here on the bytes of the index are out of sight.  A dictionary that was built from the entries
of a map and loaded answers for a key with a list of units (`IsUnitsOf`): read at their offsets they
are the layouts of consecutive pieces of the entries of the key, the last piece first.
-/

namespace Yaskkserv2

open Framework Dictionary DictionaryCreator DictionaryReader

/-! ## Reading units -/

/-- What the open file keeps of its last read is what the file holds there. -/
structure DictionaryFile.Holds (file : Bytes) (f : DictionaryFile) : Prop where
  file_eq : f.file = file
  faults : f.faults = []
  readLength_le : f.readLength ≤ f.buffer.length
  buffer : f.buffer.take f.readLength = (file.drop f.seekPosition).take f.readLength

/-- A read that stays inside the file gives its bytes, whatever was read before. -/
lemma DictionaryFile.Holds.read {file : Bytes} {f : DictionaryFile} (h : f.Holds file)
    {seekPosition readLength : ℕ} (hend : seekPosition + readLength ≤ file.length) :
    ∃ f', f.read seekPosition readLength =
        (.ok ((file.drop seekPosition).take readLength), f') ∧ f'.Holds file := by
  have hlength : ((file.drop seekPosition).take readLength).length = readLength := by
    rw [List.length_take, List.length_drop]
    omega
  unfold DictionaryFile.read
  split
  · have hread : readExact f.file seekPosition readLength =
        .ok ((file.drop seekPosition).take readLength) := by
      rw [h.file_eq, readExact]
      exact if_pos hlength
    rw [h.faults, List.head?_nil, Option.join_none, hread]
    refine ⟨_, rfl, h.file_eq, rfl, ?_, ?_⟩
    · dsimp only
      rw [List.length_append, hlength]
      omega
    · exact List.take_left' hlength
  · rename_i hsame
    push Not at hsame
    obtain ⟨rfl, rfl⟩ := hsame
    rw [sliceTo_of_le h.readLength_le, h.buffer]
    exact ⟨f, rfl, h⟩

/-- What the index says of a unit is where the file holds it. -/
structure IsUnitAt (file : Bytes) (blocksOffset : UInt32) (v : DictionaryBlockInformation)
    (u : List Entry) : Prop where
  midashi : v.midashi = firstMidashi u
  end_le : blocksOffset.toNat + v.offset.toNat + v.length.toNat ≤ file.length
  whole : (file.drop (blocksOffset.toNat + v.offset.toNat)).take v.length.toNat = layout u

/-- **The units of a list of entries**: consecutive pieces of it, listed last first, each of which
the file holds where the index says. -/
structure IsUnitsOf (file : Bytes) (blocksOffset : UInt32) (es : List Entry)
    (informations : List DictionaryBlockInformation) (units : List (List Entry)) : Prop where
  flatten : units.flatten = es
  ne_nil : ∀ u ∈ units, u ≠ []
  informations_ne_nil : informations ≠ []
  length_lt : informations.length < 2 ^ 31
  sorted : es.Pairwise fun e f => e.midashi < f.midashi
  unitsAt : List.Forall₂ (IsUnitAt file blocksOffset) informations units.reverse

namespace IsUnitsOf

variable {file : Bytes} {blocksOffset : UInt32} {es : List Entry}
  {informations : List DictionaryBlockInformation} {units : List (List Entry)}

lemma length_eq (h : IsUnitsOf file blocksOffset es informations units) :
    informations.length = units.length := by
  rw [h.unitsAt.length_eq, List.length_reverse]

lemma isDescending (h : IsUnitsOf file blocksOffset es informations units) :
    IsDescending informations := by
  have hfirst : (units.map firstMidashi).Pairwise (· < ·) := by
    rw [List.pairwise_map]
    exact pairwise_firstMidashi (by rw [h.flatten]; exact h.sorted) h.ne_nil
  have hmap : informations.map (·.midashi) = (units.map firstMidashi).reverse := by
    have hforall := h.unitsAt
    rw [← List.map_reverse]
    generalize units.reverse = us at hforall
    clear h
    induction hforall with
    | nil => rfl
    | cons hv _ ih => rw [List.map_cons, List.map_cons, ih, hv.midashi]
  rw [← List.pairwise_reverse, ← hmap, List.pairwise_map] at hfirst
  exact hfirst

/-- The unit of an index of the list. -/
lemma unitAt (h : IsUnitsOf file blocksOffset es informations units) {i : ℕ}
    (hi : i < informations.length) :
    ∃ u pre post, units = pre ++ u :: post ∧ post.length = i ∧
      IsUnitAt file blocksOffset informations[i] u := by
  have hlen := h.length_eq
  have hi' : i < units.reverse.length := by
    rw [List.length_reverse]
    omega
  refine ⟨units.reverse[i], units.take (units.length - 1 - i), units.drop (units.length - i), ?_,
    ?_, h.unitsAt.get hi hi'⟩
  · have hget : units.reverse[i] = units[units.length - 1 - i] := List.getElem_reverse hi'
    have hnext : units.length - i = units.length - 1 - i + 1 := by omega
    rw [hget, hnext, List.getElem_cons_drop, List.take_append_drop]
  · rw [List.length_drop]
    omega

/-- The midashi of a unit is the least of its entries. -/
lemma firstMidashi_le (h : IsUnitsOf file blocksOffset es informations units) {u : List Entry}
    (hu : u ∈ units) {e : Entry} (he : e ∈ u) : firstMidashi u ≤ e.midashi := by
  have hsorted := h.sorted
  rw [← h.flatten] at hsorted
  have hunit := (List.pairwise_flatten.mp hsorted).1 u hu
  cases u with
  | nil => simp at he
  | cons f u =>
    rcases List.mem_cons.mp he with rfl | he
    · exact List.le_refl _
    · exact List.le_of_lt ((List.pairwise_cons.mp hunit).1 e he)

/-- The unit of a place in the list. -/
lemma unitAt_of_split (h : IsUnitsOf file blocksOffset es informations units) {u : List Entry}
    {pre post : List (List Entry)} (hsplit : units = pre ++ u :: post) :
    ∃ hi : post.length < informations.length,
      IsUnitAt file blocksOffset informations[post.length] u := by
  have hi : post.length < informations.length := by
    rw [h.length_eq, hsplit, List.length_append, List.length_cons]
    omega
  obtain ⟨u', pre', post', hsplit', hlength, hunit⟩ := h.unitAt hi
  rw [hsplit] at hsplit'
  obtain ⟨-, hcons⟩ := List.append_inj' hsplit' (by simp [hlength])
  rw [List.cons.injEq] at hcons
  obtain ⟨rfl, -⟩ := hcons
  exact ⟨hi, hunit⟩

/-- A unit begins before the units behind it. -/
lemma firstMidashi_lt (h : IsUnitsOf file blocksOffset es informations units) {u w : List Entry}
    {pre post : List (List Entry)} (hsplit : units = pre ++ u :: post) (hw : w ∈ post) :
    firstMidashi u < firstMidashi w := by
  have hsorted := h.sorted
  rw [← h.flatten] at hsorted
  have hpair := pairwise_firstMidashi hsorted h.ne_nil
  rw [hsplit] at hpair
  exact (List.pairwise_cons.mp (List.pairwise_append.mp hpair).2.1).1 w hw

/-- A unit begins at or before all entries from it on. -/
lemma firstMidashi_le_of_split (h : IsUnitsOf file blocksOffset es informations units)
    {u : List Entry} {pre post : List (List Entry)} (hsplit : units = pre ++ u :: post)
    {e : Entry} (he : e ∈ (u :: post).flatten) : firstMidashi u ≤ e.midashi := by
  obtain ⟨w, hw, hew⟩ := List.mem_flatten.mp he
  rcases List.mem_cons.mp hw with rfl | hw
  · exact h.firstMidashi_le (by simp [hsplit]) hew
  · have hle := h.firstMidashi_le (by simp [hsplit, hw]) hew
    exact List.le_trans (List.le_of_lt (h.firstMidashi_lt hsplit hw)) hle

/-- The entries of a unit end before the units behind it. -/
lemma lt_firstMidashi_of_split (h : IsUnitsOf file blocksOffset es informations units)
    {u w : List Entry} {pre post : List (List Entry)} (hsplit : units = pre ++ u :: post)
    (hw : w ∈ pre) {e : Entry} (he : e ∈ w) : e.midashi < firstMidashi u := by
  have hsorted := h.sorted
  rw [← h.flatten, hsplit] at hsorted
  have hu : u ≠ [] := h.ne_nil u (by simp [hsplit])
  obtain ⟨f, u, rfl⟩ := List.exists_cons_of_ne_nil hu
  have hpair := (List.pairwise_flatten.mp hsorted).2
  exact (List.pairwise_append.mp hpair).2.2 w hw _ List.mem_cons_self e he f List.mem_cons_self

/-- The last unit of the list is the first one of the entries. -/
lemma unitsAt_dropLast (h : IsUnitsOf file blocksOffset es informations units) :
    List.Forall₂ (IsUnitAt file blocksOffset) informations.dropLast units.tail.reverse := by
  have htake := List.forall₂_take (informations.length - 1) h.unitsAt
  have hlength : informations.length - 1 = units.reverse.length - 1 := by
    rw [h.length_eq, List.length_reverse]
  rw [← List.dropLast_eq_take, hlength, ← List.dropLast_eq_take, List.dropLast_reverse] at htake
  exact htake

/-- **Where the entries lie around the unit that is searched.**  All entries of the units before
that one in the list are above the midashi, and all entries of those after it are below the unit. -/
theorem search (h : IsUnitsOf file blocksOffset es informations units) (midashi : Bytes) :
    (unitIndex midashi informations = informations.length ∧
        ∀ e ∈ es, midashi < e.midashi) ∨
      ∃ hi : unitIndex midashi informations < informations.length,
        ∃ u pre post, units = pre ++ u :: post ∧
          post.length = unitIndex midashi informations ∧
          IsUnitAt file blocksOffset informations[unitIndex midashi informations]
            u ∧
          firstMidashi u ≤ midashi ∧
          (∀ w ∈ post, ∀ e ∈ w, midashi < e.midashi) ∧
          ∀ w ∈ pre, ∀ e ∈ w, e.midashi < firstMidashi u := by
  have habove : ∀ v ∈ informations.take (unitIndex midashi informations),
      midashi < v.midashi := by
    intro v hv
    obtain ⟨j, hj, rfl⟩ := List.mem_take_iff_getElem.mp hv
    exact lt_midashi_of_lt_unitIndex (by omega) (by omega)
  -- a unit among the first so many of the list is above the midashi
  have hunits : ∀ pre post : List (List Entry), units = pre ++ post →
      post.length = unitIndex midashi informations →
      ∀ w ∈ post, ∀ e ∈ w, midashi < e.midashi := by
    intro pre post hsplit hlength w hw e he
    have htake : units.reverse.take (unitIndex midashi informations) =
        post.reverse := by
      rw [hsplit, List.reverse_append]
      exact List.take_left' (by rw [List.length_reverse, hlength])
    have hfirst := List.forall₂_take (unitIndex midashi informations) h.unitsAt
    rw [htake] at hfirst
    obtain ⟨v, hv, hwv⟩ := exists_of_forall₂_of_mem hfirst.flip (List.mem_reverse.mpr hw)
    have hlt := habove v hv
    have hle := h.firstMidashi_le (hsplit ▸ List.mem_append_right pre hw) he
    rw [hwv.midashi] at hlt
    exact Std.lt_of_lt_of_le hlt hle
  rcases Nat.lt_or_ge (unitIndex midashi informations) informations.length with
    hi | hi
  · obtain ⟨u, pre, post, hsplit, hlength, hunit⟩ := h.unitAt hi
    refine .inr ⟨hi, u, pre, post, hsplit, hlength, hunit, ?_, ?_, ?_⟩
    · rw [← hunit.midashi]
      exact midashi_unitIndex_le hi
    · exact hunits (pre ++ [u]) post (by simpa using hsplit) hlength
    · exact fun w hw e he => h.lt_firstMidashi_of_split hsplit hw he
  · have hle := unitIndex_le midashi informations
    have heq : unitIndex midashi informations = informations.length := by omega
    refine .inl ⟨heq, ?_⟩
    intro e he
    rw [← h.flatten] at he
    obtain ⟨w, hw, hew⟩ := List.mem_flatten.mp he
    exact hunits [] units rfl (by rw [heq, h.length_eq]) w hw e hew

end IsUnitsOf

/-! ## The units of a built block -/

/-- A block that was cut is cut into units that the offsets of the index denote. -/
lemma isBlockPartition_of_ok {es : List Entry} (hes : es ≠ [])
    (hsorted : es.Pairwise fun e f => e.midashi < f.midashi) {blocksLen : ℕ}
    {alignedBlock : Bytes} {informations : List DictionaryBlockInformation}
    (h : getDictionaryBlockInformations (layout es) blocksLen [] =
      .ok (alignedBlock, informations))
    (hlen : blocksLen + alignedBlock.length < 2 ^ 32) :
    ∃ units, IsBlockPartition es blocksLen units alignedBlock informations := by
  obtain ⟨⟨p, hwalk⟩, hpadded⟩ := walk_of_getDictionaryBlockInformations hes h
  obtain ⟨units, hflatten, -, ⟨w, hw, hwp⟩, -, hrun⟩ :=
    getDictionaryBlockInformations_of_walk hes hwalk blocksLen []
  have haligned : (layout es).length ≤ alignedBlock.length := by
    rw [hrun, List.nil_append, padAlignedBlock_of_lt hpadded, Outcome.ok_bind, Outcome.pure_eq,
      Outcome.ok.injEq, Prod.mk.injEq] at h
    rw [← h.1, List.length_append]
    omega
  obtain ⟨u, -, hwindow⟩ := exists_of_forall₂_of_mem (forall₂_unitWindows _ _ []) hw
  have hend := hwindow.end_le
  rw [List.nil_append, hflatten] at hend
  have hp : blocksLen + p < 2 ^ 32 := by omega
  obtain ⟨aligned', informations', units', hcut, hpartition⟩ :=
    isBlockPartition_of_canCut hes hsorted ⟨⟨p, hwalk, hp⟩, hpadded⟩
  rw [h, Outcome.ok.injEq, Prod.mk.injEq] at hcut
  obtain ⟨rfl, rfl⟩ := hcut
  exact ⟨units', hpartition⟩

/-- A block holds at least two bytes for each of its units. -/
lemma two_mul_length_lt {units : List (List Entry)} (hne : ∀ u ∈ units, u ≠ []) :
    2 * units.length < (layout units.flatten).length := by
  induction units with
  | nil => simp
  | cons u us ih =>
    have hu := two_lt_length_layout (hne u List.mem_cons_self)
    have hus := ih fun v hv => hne v (List.mem_cons_of_mem u hv)
    rw [List.flatten_cons, layout_append, List.length_append, List.length_dropLast,
      List.length_cons]
    omega

/-- **The units of a block that lies in the file** are the units that the index says. -/
lemma isUnitsOf_of_isBlockPartition {es : List Entry} (hes : es ≠ [])
    (hsorted : es.Pairwise fun e f => e.midashi < f.midashi) {blocksLen : ℕ}
    {units : List (List Entry)} {alignedBlock : Bytes}
    {informations : List DictionaryBlockInformation}
    (h : IsBlockPartition es blocksLen units alignedBlock informations)
    (hlen : (layout es).length < 2 ^ 32) {file : Bytes} {blocksOffset : UInt32}
    {pre post : Bytes} (hfile : file = pre ++ (alignedBlock ++ post))
    (hpre : pre.length = blocksOffset.toNat + blocksLen) :
    IsUnitsOf file blocksOffset es informations units := by
  obtain ⟨n, haligned⟩ := h.aligned
  have hwindows : List.Forall₂ (IsWindowOf blocksLen (layout es))
      (informations.reverse.map (·.window)) units := by
    rw [h.windows, ← h.flatten]
    exact forall₂_unitWindows _ _ []
  rw [List.forall₂_map_left_iff] at hwindows
  have hlength : informations.length = units.length := by
    rw [← hwindows.length_eq, List.length_reverse]
  have htwo := two_mul_length_lt h.ne_nil
  rw [h.flatten] at htwo
  refine ⟨h.flatten, h.ne_nil, ?_, by omega, hsorted, ?_⟩
  · rintro rfl
    have hnil : units = [] := List.length_eq_zero_iff.mp hlength.symm
    rw [← h.flatten, hnil] at hes
    exact hes rfl
  · rw [← List.forall₂_reverse_iff, List.reverse_reverse]
    refine hwindows.imp ?_
    intro v u hv
    have hend := hv.end_le
    have hle := hv.offset_le
    have hwhole := hv.whole
    dsimp only [DictionaryBlockInformation.window] at hend hle hwhole
    -- the window of the unit, behind what lies in front of the block
    have hdrop : file.drop (blocksOffset.toNat + v.offset.toNat) =
        (layout es).drop (v.offset.toNat - blocksLen) ++ (List.replicate n 0x58 ++ post) := by
      have hoffset : blocksOffset.toNat + v.offset.toNat =
          pre.length + (v.offset.toNat - blocksLen) := by omega
      rw [hfile, haligned, hoffset, ← List.drop_drop, List.drop_left, List.append_assoc,
        List.drop_append_of_le_length (by omega)]
    refine ⟨hv.midashi, ?_, ?_⟩
    · rw [hfile, haligned]
      simp only [List.length_append]
      omega
    · rw [hdrop, List.take_append_of_le_length (by rw [List.length_drop]; omega), hwhole]

/-! ## A loaded dictionary -/

/-- **A dictionary built from the entries of a map, and loaded**: the file holds what
`create_index_data` made of the map where the fixed header says, and the loader has read the index
from there. -/
structure IsLoaded (m : JisyoEntriesMap) (file : Bytes) (onMemory : OnMemory) : Prop where
  exists_index : ∃ encodingTable r index, createIndexData m = .ok r ∧ r.blocks.length < 2 ^ 32 ∧
    IsFileOf encodingTable r file onMemory.dictionaryFixedHeader ∧
    createIndexMapAndIndexAsciiHiraganaVec onMemory.dictionaryFixedHeader.indexDataOffset file
      r.indexDataHeader = .ok index ∧
    onMemory.indexMap = index.indexMap ∧
    onMemory.indexAsciiHiraganaVec = index.indexAsciiHiraganaVec

/-- What `setup` loads from a created file is a loaded dictionary. -/
theorem isLoaded_of_setup {sha1 : Bytes → Digest} {n : ℕ} (hn : 0 < n) {encoding : Encoding}
    {encodingTable file : Bytes} {m : JisyoEntriesMap} {initialized : Option EncodingTables}
    {t t' : EncodingTables} (htable : onceInitEncodingTable initialized encodingTable = .ok t)
    (hcreate : create sha1 encoding encodingTable m = .ok file) (hfile : file.length < 2 ^ 32)
    {onMemory : OnMemory} (hsetup : setup sha1 n initialized file = .ok (onMemory, t')) :
    IsLoaded m file onMemory := by
  obtain ⟨r, h, pre, post, hr, hfileOf, -, -, -, hload⟩ :=
    setup_of_create hn htable hcreate hfile
  rw [hload, Outcome.bind_eq_ok] at hsetup
  obtain ⟨index, hindex, hsetup⟩ := hsetup
  rw [Outcome.pure_eq, Outcome.ok.injEq, Prod.mk.injEq] at hsetup
  obtain ⟨rfl, -⟩ := hsetup
  have hblocks : r.blocks.length ≤ h.blocksLength.toNat := by
    rw [← hfileOf.blocks]
    exact List.length_take_le _ _
  have hlt := h.blocksLength.toNat_lt
  exact ⟨encodingTable, r, index, hr, by omega, hfileOf, hindex, rfl, rfl⟩

/-- A built block, the block it was made of, and what lies in front of it. -/
lemma exists_block_of_mem_built {blocks : List (DictionaryMidashiKey × Bytes)} {blocksLen : ℕ}
    {built : List BuiltBlock} (h : buildBlocks blocksLen blocks = .ok built) {b : BuiltBlock}
    (hb : b ∈ built) :
    ∃ block pre post, (b.record.1, block) ∈ blocks ∧ built = pre ++ b :: post ∧
      getDictionaryBlockInformations block
        (blocksLen + (pre.flatMap (·.alignedBlock)).length) [] =
          .ok (b.alignedBlock, b.record.2) := by
  induction blocks generalizing blocksLen built with
  | nil =>
    rw [buildBlocks, Outcome.ok.injEq] at h
    subst h
    simp at hb
  | cons keyAndBlock rest ih =>
    obtain ⟨alignedBlock, informations, built', hblock, hrest, rfl⟩ := buildBlocks_cons_eq_ok h
    rcases List.mem_cons.mp hb with rfl | hb
    · exact ⟨keyAndBlock.2, [], built', List.mem_cons_self, rfl, hblock⟩
    · obtain ⟨block, pre, post, hmem, hsplit, hbuild⟩ := ih hrest hb
      refine ⟨block, ⟨(keyAndBlock.1, informations), alignedBlock⟩ :: pre, post,
        List.mem_cons_of_mem _ hmem, by rw [hsplit, List.cons_append], ?_⟩
      rw [List.flatMap_cons, List.length_append, ← Nat.add_assoc]
      exact hbuild

/-- What a look-up finds was built for some key. -/
lemma Dictionary.Index.exists_of_unitsOf_foldl_put {rs : List IndexRecord}
    (hne : ∀ r ∈ rs, r.2 ≠ []) {t : Index} (ht : t.IsSized) {key : DictionaryMidashiKey}
    {informations : List DictionaryBlockInformation}
    (h : (rs.foldl Index.put t).unitsOf key = some informations) :
    (∃ r ∈ rs, r.2 = informations) ∨ t.unitsOf key = some informations := by
  induction rs generalizing t with
  | nil => exact .inr h
  | cons r rs ih =>
    rcases ih (fun s hs => hne s (List.mem_cons_of_mem r hs)) (ht.put r) h with ⟨s, hs, rfl⟩ | hput
    · exact .inl ⟨s, List.mem_cons_of_mem r hs, rfl⟩
    · rw [Index.unitsOf_put ht (hne r List.mem_cons_self)] at hput
      split at hput
      · rw [Option.some.injEq] at hput
        exact .inl ⟨r, List.mem_cons_self, hput⟩
      · exact .inr hput

/-- The place of a section in its file. -/
lemma fileSection_split {file bytes : Bytes} {offset length : UInt32}
    (h : fileSection file offset length = bytes) (hle : offset.toNat ≤ file.length) :
    (∃ pre post, file = pre ++ (bytes ++ post) ∧ pre.length = offset.toNat) ∧
      bytes.length ≤ length.toNat := by
  refine ⟨⟨file.take offset.toNat, (file.drop offset.toNat).drop length.toNat, ?_, ?_⟩, ?_⟩
  · rw [← h, fileSection, List.take_append_drop, List.take_append_drop]
  · rw [List.length_take, Nat.min_eq_left hle]
  · rw [← h, fileSection]
    exact List.length_take_le _ _

section Lookup

variable {m : JisyoEntriesMap} {file : Bytes} {onMemory : OnMemory}

/-- **What a loaded dictionary answers for a key**: the units of the entries of the key.  For a key
that is not one of a well-formed character it may answer with the units of another key. -/
theorem IsLoaded.lookup (h : IsLoaded m file onMemory) (hm : ∀ p ∈ m.toList, IsEntry p)
    (hstarts : ∀ midashi ∈ m, StartsWithEucChar midashi) (key : DictionaryMidashiKey) :
    (getBlockInformationVectors onMemory key = .ok none ∧
        (IsEucKey key → entriesOf m hm key = [])) ∨
      ∃ key' informations units,
        getBlockInformationVectors onMemory key = .ok (some informations) ∧
        (IsEucKey key → key' = key) ∧
        IsUnitsOf file onMemory.dictionaryFixedHeader.blocksOffset (entriesOf m hm key')
          informations units := by
  obtain ⟨encodingTable, r, index, hr, hblocks, hfile, hload, hindexMap, hvec⟩ := h.exists_index
  obtain ⟨header, indexMap, indexAsciiHiraganaVec⟩ := onMemory
  dsimp only at hfile hload hindexMap hvec ⊢
  subst hindexMap hvec
  obtain ⟨blockMap, built, groups, hmap, hbuilt, hgroups⟩ := createIndexData_spec hr
  have hdataEnd := hfile.indexData_end
  have hblocksEnd := hfile.blocks_end
  have hblocksOffset := header.blocksOffset.toNat_lt
  obtain ⟨⟨pre, post, hdata, hpre⟩, hdataLength⟩ :=
    fileSection_split hfile.indexData (by omega)
  obtain ⟨⟨blocksPre, blocksPost, hblocksAt, hblocksPre⟩, -⟩ :=
    fileSection_split hfile.blocks (by omega)
  have hreadable := isReadable_of_buildBlocks hbuilt (by
    rw [← List.flatMap_map, ← groupBytes, ← indexData_eq hgroups]
    omega)
  have hne : ∀ b ∈ built, b.record.2 ≠ [] := fun b hb => (hreadable b hb).ne_nil
  have hindex : index = Index.ofBuilt built := by
    rw [hdata, createIndexMapAndIndexAsciiHiraganaVec_of_indexDataOf hgroups hreadable pre post
      hpre.symm (by omega)] at hload
    split at hload
    · rw [Outcome.ok.injEq] at hload
      exact hload.symm
    · simp at hload
  subst hindex
  rw [getBlockInformationVectors_eq (Index.isSized_ofBuilt built)]
  cases hfound : (Index.ofBuilt built).unitsOf key with
  | none =>
    refine .inl ⟨rfl, fun hkey => ?_⟩
    rw [Index.unitsOf_ofBuilt hstarts hmap hbuilt hne hkey, unitsOfBuilt, Option.map_eq_none_iff,
      List.find?_eq_none] at hfound
    by_contra hentries
    have hblock := createTemporaryBlockMap_layout hmap hm key
    rw [if_neg hentries] at hblock
    have hmem : key ∈ built.map (·.record.1) := by
      rw [map_key_of_buildBlocks hbuilt]
      exact List.mem_map_of_mem (Std.ExtTreeMap.mem_toList_iff_getElem?_eq_some.mpr hblock)
    obtain ⟨b, hb, hbkey⟩ := List.mem_map.mp hmem
    exact hfound b hb (decide_eq_true hbkey)
  | some informations =>
    obtain ⟨b, hb, hinformations, hkey⟩ : ∃ b ∈ built, b.record.2 = informations ∧
        (IsEucKey key → b.record.1 = key) := by
      by_cases hkey : IsEucKey key
      · rw [Index.unitsOf_ofBuilt hstarts hmap hbuilt hne hkey, unitsOfBuilt,
          Option.map_eq_some_iff] at hfound
        obtain ⟨b, hfind, hb⟩ := hfound
        exact ⟨b, List.mem_of_find?_eq_some hfind, hb, fun _ => by
          simpa using List.find?_some hfind⟩
      · have hne' : ∀ r ∈ built.map (·.record), r.2 ≠ [] := by simpa using hne
        rcases Index.exists_of_unitsOf_foldl_put hne' Index.isSized_empty hfound with
          ⟨r, hr, hrinformations⟩ | hempty
        · obtain ⟨b, hb, rfl⟩ := List.mem_map.mp hr
          exact ⟨b, hb, hrinformations, fun h => absurd h hkey⟩
        · rw [Index.unitsOf_empty] at hempty
          simp at hempty
    obtain ⟨block, front, back, hmem, hsplit, hbuild⟩ := exists_block_of_mem_built hbuilt hb
    rw [Nat.zero_add] at hbuild
    -- the block is the layout of the entries of its key
    have hblock := createTemporaryBlockMap_layout hmap hm b.record.1
    rw [Std.ExtTreeMap.mem_toList_iff_getElem?_eq_some.mp hmem] at hblock
    have hentries : entriesOf m hm b.record.1 ≠ [] := by
      intro hnil
      rw [if_pos hnil] at hblock
      simp at hblock
    rw [if_neg hentries, Option.some.injEq] at hblock
    subst hblock
    have hwhole : r.blocks = front.flatMap (·.alignedBlock) ++
        (b.alignedBlock ++ back.flatMap (·.alignedBlock)) := by
      rw [hgroups.blocks, hsplit, List.flatMap_append, List.flatMap_cons]
    have hwholeLength := congrArg List.length hwhole
    simp only [List.length_append] at hwholeLength
    obtain ⟨units, hpartition⟩ := isBlockPartition_of_ok hentries pairwise_entriesOf hbuild
      (by omega)
    obtain ⟨n, haligned⟩ := hpartition.aligned
    have hlayout : (layout (entriesOf m hm b.record.1)).length ≤ b.alignedBlock.length := by
      rw [haligned, List.length_append]
      omega
    have hfileEq : file = (blocksPre ++ front.flatMap (·.alignedBlock)) ++
        (b.alignedBlock ++ (back.flatMap (·.alignedBlock) ++ blocksPost)) := by
      rw [hblocksAt, hwhole]
      simp only [List.append_assoc]
    refine .inr ⟨b.record.1, informations, units, rfl, hkey, ?_⟩
    rw [← hinformations]
    exact isUnitsOf_of_isBlockPartition hentries pairwise_entriesOf hpartition (by omega) hfileEq
      (by rw [List.length_append, hblocksPre])

end Lookup

end Yaskkserv2
