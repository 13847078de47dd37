import Yaskkserv2.Properties.BlockUnits
import Yaskkserv2.Properties.IndexRecords

/-!
# What `create_index_data` writes

The counters of the writer describe a list of closed blocks of records and one that is still open
(`IndexDataState.Holds`).  Every record keeps them in step with the bytes written, so the index
data are the records of all keys, cut into blocks whose headers are their places; a block is
shorter than `INDEX_DATA_BLOCK_LENGTH` unless it is a single record.
-/

namespace Yaskkserv2

open Framework Dictionary

namespace DictionaryCreator

/-! ## The units of any block -/

/-- Whatever a block holds, a turn that goes well adds a unit whose midashi holds no space; the
last one pads the aligned block. -/
lemma turn_cases {blockBuffer : Bytes} {blocksLen m : ℕ} {s : BlockState}
    {r : BlockState ⊕ (Bytes × List DictionaryBlockInformation)}
    (h : getDictionaryBlockInformationsTurn blockBuffer blocksLen m s = .ok r) :
    ∃ v : DictionaryBlockInformation, SP ∉ v.midashi ∧
      ((∃ offset aligned, r = .inl ⟨offset, aligned, s.dictionaryBlockInformations ++ [v]⟩) ∨
        ∃ aligned padded, padAlignedBlock aligned = .ok padded ∧
          r = .inr (padded, s.dictionaryBlockInformations ++ [v])) := by
  rw [getDictionaryBlockInformationsTurn, Outcome.bind_eq_ok] at h
  obtain ⟨tail, htail, h⟩ := h
  cases hfind : find [SP] tail with
  | none => simp [hfind] at h
  | some found =>
    simp only [hfind, Outcome.bind_eq_ok] at h
    obtain ⟨⟨unitLength, shouldBreak⟩, -, window, -, h⟩ := h
    cases hrfind : rfind [LF] window with
    | none => simp [hrfind] at h
    | some rfound =>
      simp only [hrfind, Outcome.bind_eq_ok] at h
      obtain ⟨piece, -, midashi, hmidashi, h⟩ := h
      have hspace : SP ∉ midashi := by
        obtain ⟨xs, ys, rfl, hxs, rfl⟩ := find_singleton_eq_some hfind
        unfold sliceFrom at htail
        split at htail
        · rw [Outcome.ok.injEq] at htail
          unfold slice at hmidashi
          split at hmidashi
          · rw [Outcome.ok.injEq] at hmidashi
            have htake : (blockBuffer.take (s.offset + xs.length)).drop s.offset = xs := by
              rw [List.drop_take, Nat.add_sub_cancel_left, htail, List.take_left]
            intro hmem
            rw [← hmidashi, ← List.drop_drop, htake] at hmem
            exact hxs (List.mem_of_mem_drop hmem)
          · simp at hmidashi
        · simp at htail
      refine ⟨⟨midashi, (blocksLen + s.offset).toUInt32, (rfound + 1 - s.offset).toUInt32⟩,
        hspace, ?_⟩
      split at h
      · rw [Outcome.bind_eq_ok] at h
        obtain ⟨padded, hpadded, h⟩ := h
        rw [Outcome.pure_eq, Outcome.ok.injEq] at h
        exact .inr ⟨_, padded, hpadded, h.symm⟩
      · rw [Outcome.pure_eq, Outcome.ok.injEq] at h
        exact .inl ⟨_, _, h.symm⟩

/-- A padded block ends at a multiple of `BLOCK_ALIGNMENT_LENGTH`. -/
lemma dvd_length_of_padAlignedBlock {aligned padded : Bytes}
    (h : padAlignedBlock aligned = .ok padded) :
    BLOCK_ALIGNMENT_LENGTH.toNat ∣ padded.length := by
  have halign : BLOCK_ALIGNMENT_LENGTH.toNat = 16 := rfl
  have hlt : aligned.length + 16 < 2 ^ 32 := by
    by_contra hle
    rw [padAlignedBlock_of_le (by omega)] at h
    simp at h
  rw [padAlignedBlock_of_lt hlt, Outcome.ok.injEq] at h
  rw [← h, List.length_append, List.length_replicate, halign]
  omega

/-- A block that can be cut has a unit, and no midashi of its units holds a space; it is aligned. -/
theorem getDictionaryBlockInformations_spec {blockBuffer alignedBlock : Bytes} {blocksLen : ℕ}
    {r : Bytes × List DictionaryBlockInformation}
    (h : getDictionaryBlockInformations blockBuffer blocksLen alignedBlock = .ok r) :
    r.2 ≠ [] ∧ (∀ v ∈ r.2, SP ∉ v.midashi) ∧ BLOCK_ALIGNMENT_LENGTH.toNat ∣ r.1.length := by
  rw [getDictionaryBlockInformations, Outcome.bind_eq_ok] at h
  obtain ⟨m, -, h⟩ := h
  rw [Outcome.bind_eq_ok] at h
  obtain ⟨⟨aligned, informations⟩, hloop, h⟩ := h
  dsimp only at h
  rw [Outcome.pure_eq, Outcome.ok.injEq] at h
  have hpush : ∀ {informations : List DictionaryBlockInformation}
      {v : DictionaryBlockInformation}, (∀ w ∈ informations, SP ∉ w.midashi) → SP ∉ v.midashi →
      ∀ w ∈ informations ++ [v], SP ∉ w.midashi := by
    intro informations v hinformations hv w hw
    rcases List.mem_append.mp hw with hw | hw
    · exact hinformations w hw
    · rwa [List.mem_singleton.mp hw]
  have hrun := loop_partial
    (fun s : BlockState => ∀ v ∈ s.dictionaryBlockInformations, SP ∉ v.midashi)
    (fun b => b.2 ≠ [] ∧ (∀ v ∈ b.2, SP ∉ v.midashi) ∧
      BLOCK_ALIGNMENT_LENGTH.toNat ∣ b.1.length) ?_ ?_ ?_ hloop
  · subst h
    simpa using hrun
  · intro s s' hs hturn
    obtain ⟨v, hv, ⟨offset, aligned, hnext⟩ | ⟨_, _, _, hlast⟩⟩ := turn_cases hturn
    · rw [Sum.inl.injEq] at hnext
      rw [hnext]
      exact hpush hs hv
    · simp at hlast
  · intro s b hs hturn
    obtain ⟨v, hv, ⟨_, _, hnext⟩ | ⟨aligned, padded, hpadded, hlast⟩⟩ := turn_cases hturn
    · simp at hnext
    · rw [Sum.inr.injEq] at hlast
      rw [hlast]
      exact ⟨by simp, hpush hs hv, dvd_length_of_padAlignedBlock hpadded⟩
  · simp

/-! ## A block elsewhere -/

/-- The unit of a block that begins after that many bytes of blocks. -/
def shiftInformation (blocksLen : ℕ) (v : DictionaryBlockInformation) :
    DictionaryBlockInformation :=
  { v with offset := blocksLen.toUInt32 + v.offset }

lemma joinedMidashi_map_shiftInformation (blocksLen : ℕ)
    (informations : List DictionaryBlockInformation) :
    joinedMidashi (informations.map (shiftInformation blocksLen)) = joinedMidashi informations := by
  rw [joinedMidashi, List.map_map]
  rfl

/-- The state of the loop over that block. -/
def BlockState.shift (blocksLen : ℕ) (s : BlockState) : BlockState where
  offset := s.offset
  alignedBlock := s.alignedBlock
  dictionaryBlockInformations := s.dictionaryBlockInformations.map (shiftInformation blocksLen)

lemma turn_shift (blockBuffer : Bytes) (blocksLen m : ℕ) (s : BlockState) :
    getDictionaryBlockInformationsTurn blockBuffer blocksLen m (s.shift blocksLen) =
      Sum.map (BlockState.shift blocksLen) (Prod.map id (List.map (shiftInformation blocksLen))) <$>
        getDictionaryBlockInformationsTurn blockBuffer 0 m s := by
  unfold getDictionaryBlockInformationsTurn
  rw [map_bind]
  congr 1
  funext tail
  split
  · rfl
  · rw [map_bind]
    congr 1
    funext window
    obtain ⟨unitLength, shouldBreak⟩ := window
    dsimp only [BlockState.shift]
    rw [map_bind]
    congr 1
    funext bytes
    split
    · rfl
    · simp only [map_bind]
      congr 1
      funext piece
      congr 1
      funext midashi
      split
      · simp only [map_bind]
        congr 1
        funext aligned
        simp [shiftInformation]
      · simp [BlockState.shift, shiftInformation]

/-- **The units of a block do not depend on where the block lies**, but for their offsets. -/
theorem getDictionaryBlockInformations_shift (blockBuffer alignedBlock : Bytes) (blocksLen : ℕ) :
    getDictionaryBlockInformations blockBuffer blocksLen alignedBlock =
      Prod.map id (List.map (shiftInformation blocksLen)) <$>
        getDictionaryBlockInformations blockBuffer 0 alignedBlock := by
  have hloop := fun m => loop_map _ _ (turn_shift blockBuffer blocksLen m)
    (blockBuffer.length + 1) { alignedBlock := alignedBlock }
  rw [getDictionaryBlockInformations, getDictionaryBlockInformations, map_bind]
  congr 1
  funext m
  have hm : loop (getDictionaryBlockInformationsTurn blockBuffer blocksLen m)
      (blockBuffer.length + 1) { alignedBlock := alignedBlock } = _ := hloop m
  rw [hm, bind_map_left, map_bind]
  congr 1
  funext r
  simp

/-! ## The blocks of all keys -/

/-- What the builder makes of the block of a key. -/
structure BuiltBlock where
  record : IndexRecord
  alignedBlock : Bytes

/-- The blocks of consecutive keys, built one after the other. -/
def buildBlocks : ℕ → List (DictionaryMidashiKey × Bytes) → Result (List BuiltBlock)
  | _, [] => .ok []
  | blocksLen, (key, block) :: rest => do
    let (alignedBlock, informations) ← getDictionaryBlockInformations block blocksLen []
    let built ← buildBlocks (blocksLen + alignedBlock.length) rest
    return ⟨(key, informations), alignedBlock⟩ :: built

lemma buildBlocks_cons_eq_ok {keyAndBlock : DictionaryMidashiKey × Bytes}
    {rest : List (DictionaryMidashiKey × Bytes)} {blocksLen : ℕ} {built : List BuiltBlock}
    (h : buildBlocks blocksLen (keyAndBlock :: rest) = .ok built) :
    ∃ alignedBlock informations built',
      getDictionaryBlockInformations keyAndBlock.2 blocksLen [] =
        .ok (alignedBlock, informations) ∧
      buildBlocks (blocksLen + alignedBlock.length) rest = .ok built' ∧
      built = ⟨(keyAndBlock.1, informations), alignedBlock⟩ :: built' := by
  rw [buildBlocks, Outcome.bind_eq_ok] at h
  obtain ⟨⟨alignedBlock, informations⟩, hbuild, h⟩ := h
  rw [Outcome.bind_eq_ok] at h
  obtain ⟨built', hrest, h⟩ := h
  rw [Outcome.pure_eq, Outcome.ok.injEq] at h
  exact ⟨alignedBlock, informations, built', hbuild, hrest, h.symm⟩

/-- A built block enters the index and the blocks. -/
def IndexDataState.push (s : IndexDataState) (b : BuiltBlock) : IndexDataState :=
  { s.pushRecord (recordBytes b.record) with
    blocks := (s.pushRecord (recordBytes b.record)).blocks ++ b.alignedBlock }

lemma IndexDataState.push_blocks (s : IndexDataState) (b : BuiltBlock) :
    (s.push b).blocks = s.blocks ++ b.alignedBlock := by
  rw [IndexDataState.push, IndexDataState.pushRecord]
  dsimp only
  split <;> rfl

/-- The index does not depend on the blocks. -/
lemma IndexDataState.push_withBlocks (s : IndexDataState) (blocks : Bytes) (b : BuiltBlock) :
    ({ s with blocks := blocks } : IndexDataState).push b =
      { s.push b with blocks := blocks ++ b.alignedBlock } := by
  rw [IndexDataState.push, IndexDataState.push, IndexDataState.pushRecord,
    IndexDataState.pushRecord]
  dsimp only
  split <;> rfl

lemma IndexDataState.finish_withBlocks (s : IndexDataState) (blocks : Bytes) :
    ({ s with blocks := blocks } : IndexDataState).finish = { s.finish with blocks := blocks } := by
  rw [IndexDataState.finish, IndexDataState.finish]
  dsimp only
  split <;> rfl

/-- The loop of `create_index_data` builds the blocks and pushes them. -/
lemma foldlM_pushBlock (s : IndexDataState) (blocks : List (DictionaryMidashiKey × Bytes)) :
    blocks.foldlM pushBlock s = (do
      let built ← buildBlocks s.blocks.length blocks
      return built.foldl IndexDataState.push s) := by
  induction blocks generalizing s with
  | nil => rfl
  | cons keyAndBlock rest ih =>
    obtain ⟨key, block⟩ := keyAndBlock
    rw [List.foldlM_cons, pushBlock, buildBlocks]
    cases hbuild : getDictionaryBlockInformations block s.blocks.length [] with
    | ok r =>
      obtain ⟨alignedBlock, informations⟩ := r
      have hnext := ih (s.push ⟨(key, informations), alignedBlock⟩)
      rw [IndexDataState.push_blocks, List.length_append] at hnext
      simp only [Outcome.ok_bind, Outcome.pure_eq]
      refine hnext.trans ?_
      cases buildBlocks (s.blocks.length + alignedBlock.length) rest <;> rfl
    | error e => rfl
    | panic => rfl
    | diverge => rfl

lemma isReadable_of_buildBlocks {blocks : List (DictionaryMidashiKey × Bytes)} {blocksLen : ℕ}
    {built : List BuiltBlock} (h : buildBlocks blocksLen blocks = .ok built)
    (hlen : (built.flatMap fun b => recordBytes b.record).length < 2 ^ 32) :
    ∀ b ∈ built, IsReadable b.record := by
  induction blocks generalizing blocksLen built with
  | nil =>
    rw [buildBlocks, Outcome.ok.injEq] at h
    subst h
    simp
  | cons keyAndBlock rest ih =>
    obtain ⟨alignedBlock, informations, built', hbuild, hrest, rfl⟩ := buildBlocks_cons_eq_ok h
    rw [List.flatMap_cons, List.length_append] at hlen
    obtain ⟨hne, hspace, -⟩ := getDictionaryBlockInformations_spec hbuild
    intro b hb
    rcases List.mem_cons.mp hb with rfl | hb
    · exact ⟨hne, hspace, by omega⟩
    · exact ih hrest (by omega) b hb

/-- The aligned blocks of all keys are aligned. -/
lemma dvd_length_of_buildBlocks {blocks : List (DictionaryMidashiKey × Bytes)} {blocksLen : ℕ}
    {built : List BuiltBlock} (h : buildBlocks blocksLen blocks = .ok built) :
    ∀ b ∈ built, BLOCK_ALIGNMENT_LENGTH.toNat ∣ b.alignedBlock.length := by
  induction blocks generalizing blocksLen built with
  | nil =>
    rw [buildBlocks, Outcome.ok.injEq] at h
    subst h
    simp
  | cons keyAndBlock rest ih =>
    obtain ⟨alignedBlock, informations, built', hbuild, hrest, rfl⟩ := buildBlocks_cons_eq_ok h
    rw [List.forall_mem_cons]
    exact ⟨(getDictionaryBlockInformations_spec hbuild).2.2, ih hrest⟩

/-- The keys of the built blocks are the keys they were built for. -/
lemma map_key_of_buildBlocks {blocks : List (DictionaryMidashiKey × Bytes)} {blocksLen : ℕ}
    {built : List BuiltBlock} (h : buildBlocks blocksLen blocks = .ok built) :
    built.map (·.record.1) = blocks.map (·.1) := by
  induction blocks generalizing blocksLen built with
  | nil =>
    rw [buildBlocks, Outcome.ok.injEq] at h
    subst h
    rfl
  | cons keyAndBlock rest ih =>
    obtain ⟨alignedBlock, informations, built', -, hrest, rfl⟩ := buildBlocks_cons_eq_ok h
    rw [List.map_cons, ih hrest, List.map_cons]

/-! ## The counters of the writer -/

lemma blockHeaders_append (offset : ℕ) (gs : List (List IndexRecord)) (g : List IndexRecord) :
    blockHeaders offset (gs ++ [g]) = blockHeaders offset gs ++
      [⟨(offset + (gs.flatMap groupBytes).length).toUInt32, (groupBytes g).length.toUInt32,
        g.length.toUInt32⟩] := by
  induction gs generalizing offset with
  | nil => rfl
  | cons h gs ih =>
    rw [List.cons_append, blockHeaders, ih, blockHeaders, List.cons_append, List.flatMap_cons,
      List.length_append, Nat.add_assoc]

lemma groupBytes_append_singleton (g : List IndexRecord) (r : IndexRecord) :
    groupBytes (g ++ [r]) = groupBytes g ++ recordBytes r := by
  rw [groupBytes, List.flatMap_append, List.flatMap_singleton, groupBytes]

/-- The block of a single record, or one that the next record would have made too long. -/
def IsBounded (g : List IndexRecord) : Prop :=
  (groupBytes g).length < INDEX_DATA_BLOCK_LENGTH ∨ ∃ r, g = [r]

/-- The state of the writer after the blocks `closed` and, still open, the block `current`. -/
structure IndexDataState.Holds (closed : List (List IndexRecord)) (current : List IndexRecord)
    (s : IndexDataState) : Prop where
  indexDataHeader : s.indexDataHeader = ({} : IndexDataHeader).toNeBytes ++
    (blockHeaders 0 closed).flatMap IndexDataHeaderBlockHeader.toNeBytes
  blockHeaderLength : s.blockHeaderLength = closed.length
  blockOffset : s.blockOffset = (closed.flatMap groupBytes).length
  blockLength : s.blockLength = (groupBytes current).length
  blockUnitLength : s.blockUnitLength = current.length
  previousLength : s.previousLength = s.indexData.length
  indexData : s.indexData = closed.flatMap groupBytes ++ groupBytes current
  bounded : ∀ g ∈ closed, IsBounded g
  current_bounded : IsBounded current
  length_closed : closed.length ≤ (closed.flatten ++ current).length

namespace IndexDataState

variable {closed : List (List IndexRecord)} {current : List IndexRecord} {s : IndexDataState}

lemma holds_default : Holds [] [] {} where
  indexDataHeader := by simp [blockHeaders]
  blockHeaderLength := rfl
  blockOffset := rfl
  blockLength := rfl
  blockUnitLength := rfl
  previousLength := rfl
  indexData := rfl
  bounded := by simp
  current_bounded := .inl (by decide)
  length_closed := le_rfl

/-- Closing the current block writes its header. -/
lemma Holds.indexDataHeader_pushBlockHeader (h : Holds closed current s) :
    s.pushBlockHeader.indexDataHeader = ({} : IndexDataHeader).toNeBytes ++
      (blockHeaders 0 (closed ++ [current])).flatMap IndexDataHeaderBlockHeader.toNeBytes := by
  rw [blockHeaders_append, List.flatMap_append, List.flatMap_singleton, ← List.append_assoc,
    ← h.indexDataHeader, Nat.zero_add, ← h.blockOffset, ← h.blockLength, ← h.blockUnitLength]
  rfl

/-- **The counters stay in step with the bytes**: a record joins the current block, or closes it
and begins the next. -/
theorem Holds.pushRecord (h : Holds closed current s) (r : IndexRecord) :
    Holds closed (current ++ [r]) (s.pushRecord (recordBytes r)) ∨
      Holds (closed ++ [current]) [r] (s.pushRecord (recordBytes r)) := by
  have hcurrent : (s.indexData ++ recordBytes r).length - s.previousLength =
      (recordBytes r).length := by
    rw [h.previousLength, List.length_append, Nat.add_sub_cancel_left]
  have hgroup := groupBytes_append_singleton current r
  rw [IndexDataState.pushRecord]
  dsimp only
  rw [hcurrent]
  split
  · refine .inr ⟨?_, ?_, ?_, ?_, rfl, rfl, ?_, ?_, .inr ⟨r, rfl⟩, ?_⟩
    · exact h.indexDataHeader_pushBlockHeader
    · simp only [pushBlockHeader, h.blockHeaderLength, List.length_append, List.length_singleton]
    · simp only [h.indexData, List.length_append, List.flatMap_append, List.flatMap_singleton,
        Nat.add_sub_cancel]
    · simp only [groupBytes, List.flatMap_singleton]
    · simp only [h.indexData, groupBytes, List.flatMap_append, List.flatMap_singleton]
    · intro g hg
      rcases List.mem_append.mp hg with hg | hg
      · exact h.bounded g hg
      · rw [List.mem_singleton.mp hg]
        exact h.current_bounded
    · have hle := h.length_closed
      simp only [List.length_append, List.flatten_append, List.flatten_singleton,
        List.length_singleton] at hle ⊢
      omega
  · rename_i hlt
    refine .inl ⟨h.indexDataHeader, h.blockHeaderLength, h.blockOffset, ?_, ?_, rfl, ?_,
      h.bounded, .inl ?_, ?_⟩
    · simp only [h.blockLength, hgroup, List.length_append]
    · simp only [h.blockUnitLength, List.length_append, List.length_singleton]
    · simp only [h.indexData, hgroup, List.append_assoc]
    · rw [h.blockLength] at hlt
      rw [hgroup, List.length_append]
      omega
    · have hle := h.length_closed
      simp only [List.length_append] at hle ⊢
      omega

/-- The blocks and the counters of the writer after all keys. -/
theorem Holds.foldl_push (h : Holds closed current s) (built : List BuiltBlock) :
    ∃ closed' current', Holds closed' current' (built.foldl IndexDataState.push s) ∧
      closed'.flatten ++ current' = closed.flatten ++ current ++ built.map (·.record) ∧
      (built.foldl IndexDataState.push s).blocks =
        s.blocks ++ built.flatMap (·.alignedBlock) := by
  induction built generalizing closed current s with
  | nil => exact ⟨closed, current, h, by simp, by simp⟩
  | cons b built ih =>
    rw [List.foldl_cons]
    rcases h.pushRecord b.record with hb | hb
    · have hpush : Holds closed (current ++ [b.record]) (s.push b) := { hb with }
      obtain ⟨closed', current', hholds, hflatten, hblocks⟩ := ih hpush
      refine ⟨closed', current', hholds, ?_, ?_⟩
      · rw [hflatten]
        simp
      · rw [hblocks, push_blocks]
        simp
    · have hpush : Holds (closed ++ [current]) [b.record] (s.push b) := { hb with }
      obtain ⟨closed', current', hholds, hflatten, hblocks⟩ := ih hpush
      refine ⟨closed', current', hholds, ?_, ?_⟩
      · rw [hflatten]
        simp
      · rw [hblocks, push_blocks]
        simp

end IndexDataState

/-! ## The result -/

/-- **What `create_index_data` writes**: the records of the keys, cut into blocks whose headers
follow the header in front. -/
structure IndexDataOf (built : List BuiltBlock) (groups : List (List IndexRecord))
    (r : CreateIndexDataResult) : Prop where
  flatten : groups.flatten = built.map (·.record)
  bounded : ∀ g ∈ groups, IsBounded g
  length_groups : groups.length ≤ built.length + 1
  indexData : r.indexData = groups.flatMap groupBytes
  indexDataHeader : r.indexDataHeader =
    (⟨INDEX_DATA_BLOCK_LENGTH.toUInt32, groups.length.toUInt32⟩ : IndexDataHeader).toNeBytes ++
      (blockHeaders 0 groups).flatMap IndexDataHeaderBlockHeader.toNeBytes
  blocks : r.blocks = built.flatMap (·.alignedBlock)

lemma groupBytes_eq_nil {g : List IndexRecord} (h : (groupBytes g).length = 0) : g = [] := by
  have hle := length_groupBytes_ge g
  exact List.length_eq_zero_iff.mp (by omega)

lemma IndexDataState.Holds.finish {closed : List (List IndexRecord)} {current : List IndexRecord}
    {s : IndexDataState} {built : List BuiltBlock} (h : Holds closed current s)
    (hflatten : closed.flatten ++ current = built.map (·.record))
    (hblocks : s.blocks = built.flatMap (·.alignedBlock)) :
    ∃ groups, IndexDataOf built groups s.finish := by
  have hdrop : ∀ rest : Bytes, (({} : IndexDataHeader).toNeBytes ++ rest).drop
      IndexDataHeader.size = rest := by
    intro rest
    rw [← IndexDataHeader.length_toNeBytes {}, List.drop_left]
  have hlength : closed.length ≤ built.length := by
    have hle := h.length_closed
    rwa [hflatten, List.length_map] at hle
  by_cases hopen : s.blockLength > 0
  · refine ⟨closed ++ [current], ⟨by simpa using hflatten, ?_, ?_, ?_, ?_, ?_⟩⟩
    · intro g hg
      rcases List.mem_append.mp hg with hg | hg
      · exact h.bounded g hg
      · rw [List.mem_singleton.mp hg]
        exact h.current_bounded
    · rw [List.length_append, List.length_singleton]
      omega
    · simp only [IndexDataState.finish, if_pos hopen, pushBlockHeader, h.indexData,
        List.flatMap_append, List.flatMap_singleton]
    · rw [IndexDataState.finish]
      dsimp only
      rw [if_pos hopen, h.indexDataHeader_pushBlockHeader, hdrop, List.length_append,
        List.length_singleton, ← h.blockHeaderLength]
      rfl
    · simp only [IndexDataState.finish, if_pos hopen, pushBlockHeader, hblocks]
  · have hcurrent : current = [] := by
      refine groupBytes_eq_nil ?_
      rw [← h.blockLength]
      omega
    subst hcurrent
    refine ⟨closed, ⟨by simpa using hflatten, h.bounded, by omega, ?_, ?_, ?_⟩⟩
    · simp only [IndexDataState.finish, if_neg hopen, h.indexData, groupBytes, List.flatMap_nil,
        List.append_nil]
    · rw [IndexDataState.finish]
      dsimp only
      rw [if_neg hopen, h.indexDataHeader, hdrop, ← h.blockHeaderLength]
    · simp only [IndexDataState.finish, if_neg hopen, hblocks]

/-- `create_index_data`, taken apart into the blocks it builds and the index over them. -/
theorem createIndexData_spec {m : JisyoEntriesMap} {r : CreateIndexDataResult}
    (h : createIndexData m = .ok r) :
    ∃ blockMap built groups, createTemporaryBlockMap m = .ok blockMap ∧
      buildBlocks 0 blockMap.toList = .ok built ∧ IndexDataOf built groups r := by
  rw [createIndexData, Outcome.bind_eq_ok] at h
  obtain ⟨blockMap, hmap, h⟩ := h
  rw [foldlM_pushBlock] at h
  simp only [Outcome.bind_eq_ok, Outcome.pure_eq, Outcome.ok.injEq] at h
  obtain ⟨s, ⟨built, hbuilt, rfl⟩, rfl⟩ := h
  obtain ⟨closed, current, hholds, hflatten, hblocks⟩ :=
    IndexDataState.holds_default.foldl_push built
  obtain ⟨groups, hgroups⟩ := hholds.finish (by simpa using hflatten) (by simpa using hblocks)
  exact ⟨blockMap, built, groups, hmap, hbuilt, hgroups⟩

end DictionaryCreator

end Yaskkserv2
