import Yaskkserv2.Properties.TableRows

/-!
# What the tables hold after the setup

`EncodingTable::setup` reads the rows of the encoding table one after the other into the tables
that the converters look up.  `setup_get` says that it succeeds on the shipped table and leaves
`shippedTables`, the rows inserted in order; each of the seven tables is then an assignment of the
rows.
-/

namespace Yaskkserv2

open Framework

/-! ## The setup -/

namespace EncodingTable

lemma bigEndian_eleven (n : ℕ) :
    bigEndian 11 n = euc3 (n >>> 32) ++ (utf8 (n >>> 32) ++ utf8 n) := by
  rw [euc3_eq, utf8_eq, byteAt_shiftRight, byteAt_shiftRight, byteAt_shiftRight,
    byteAt_shiftRight, byteAt_shiftRight, byteAt_shiftRight, byteAt_shiftRight]
  rfl

@[simp] lemma take_euc3_append (n : ℕ) (bytes : Bytes) : (euc3 n ++ bytes).take 3 = euc3 n := by
  rw [euc3_eq]
  rfl

@[simp] lemma drop_euc3_append (n : ℕ) (bytes : Bytes) : (euc3 n ++ bytes).drop 3 = bytes := by
  rw [euc3_eq]
  rfl

end EncodingTable

namespace EncodingTables

open EncodingTable

/-- A row of the combining characters, inserted. -/
def insertCombination (t : EncodingTables) (n : ℕ) : EncodingTables :=
  match insertCombineRow t (euc3 (n >>> 32)) (utf8 (n >>> 32) ++ utf8 n) with
  | .ok t => t
  | _ => t

/-- A row of a single character, inserted. -/
def insertSingle (t : EncodingTables) (n : ℕ) : EncodingTables := insertRow t (euc3 n) (utf8 n)

/-- The first byte of a row of the combining characters, as `setup_combine_map` expects it. -/
abbrev IsCombineRow (n : ℕ) : Prop :=
  (0xc2 ≤ byteAt n 7 ∧ byteAt n 7 ≤ 0xdf) ∨ (0xe0 ≤ byteAt n 7 ∧ byteAt n 7 ≤ 0xef)

lemma insertCombineRow_eq (t : EncodingTables) {n : ℕ} (h : IsCombineRow n) :
    insertCombineRow t (euc3 (n >>> 32)) (utf8 (n >>> 32) ++ utf8 n) =
      .ok (insertCombination t n) := by
  have hlead : ((utf8 (n >>> 32) ++ utf8 n).take 4).headD 0 = byteAt n 7 := by
    rw [utf8_eq, byteAt_shiftRight]
    rfl
  have hok : ∃ t', insertCombineRow t (euc3 (n >>> 32)) (utf8 (n >>> 32) ++ utf8 n) = .ok t' := by
    unfold insertCombineRow
    simp only [hlead]
    split
    · exact ⟨_, rfl⟩
    · exact ⟨_, if_pos (h.resolve_left ‹_›)⟩
  obtain ⟨t', ht'⟩ := hok
  rw [insertCombination, ht']

/-- The loop over the combining characters inserts the rows in order. -/
lemma setupCombineMap_append (pre post : Bytes) {rows : List ℕ} (t : EncodingTables)
    (h : ∀ n ∈ rows, IsCombineRow n) :
    setupCombineMap (pre ++ (rows.flatMap (bigEndian 11) ++ post)) rows.length pre.length t =
      .ok (rows.foldl insertCombination t) := by
  induction rows generalizing pre t with
  | nil => rfl
  | cons n rows ih =>
    have hrow : (slice (pre ++ ((n :: rows).flatMap (bigEndian 11) ++ post)) pre.length
        (pre.length + 11) : Result Bytes) = .ok (bigEndian 11 n) := by
      rw [Euc.slice_append_take pre _ (by simp [bigEndian]), List.flatMap_cons, List.append_assoc]
      rfl
    have hnext := ih (pre ++ bigEndian 11 n) (insertCombination t n)
      fun n hn => h n (List.mem_cons_of_mem _ hn)
    rw [List.length_append, show (bigEndian 11 n).length = 11 from rfl, List.append_assoc,
      ← List.append_assoc (bigEndian 11 n), ← List.flatMap_cons] at hnext
    rw [List.length_cons, setupCombineMap, hrow, Outcome.ok_bind, bigEndian_eleven,
      take_euc3_append, drop_euc3_append, insertCombineRow_eq t (h n List.mem_cons_self),
      Outcome.ok_bind, hnext]
    rfl

/-- The loop over the single characters inserts the rows in order. -/
lemma setupMap_append (pre post : Bytes) (rows : List ℕ) (t : EncodingTables) :
    setupMap (pre ++ (rows.flatMap (bigEndian 7) ++ post)) rows.length pre.length t =
      .ok (rows.foldl insertSingle t) := by
  induction rows generalizing pre t with
  | nil => rfl
  | cons n rows ih =>
    have hrow : (slice (pre ++ ((n :: rows).flatMap (bigEndian 7) ++ post)) pre.length
        (pre.length + 7) : Result Bytes) = .ok (bigEndian 7 n) := by
      rw [Euc.slice_append_take pre _ (by simp [bigEndian]), List.flatMap_cons, List.append_assoc]
      rfl
    have hnext := ih (pre ++ bigEndian 7 n) (insertSingle t n)
    rw [List.length_append, show (bigEndian 7 n).length = 7 from rfl, List.append_assoc,
      ← List.append_assoc (bigEndian 7 n), ← List.flatMap_cons] at hnext
    rw [List.length_cons, setupMap, hrow, Outcome.ok_bind, bigEndian_seven, take_euc3_append,
      drop_euc3_append]
    exact hnext

/-- The tables with the rows of the shipped table inserted in order. -/
@[irreducible] def shippedTables : EncodingTables :=
  eucUtf8.foldl insertSingle (eucUtf8Combine.foldl insertCombination empty)

lemma isCombineRow_of_mem : ∀ n ∈ eucUtf8Combine, IsCombineRow n := by
  decide +kernel

lemma length_eucUtf8 : eucUtf8.length = 11431 := by
  decide +kernel

/-- The bytes of the header that the setup reads. -/
lemma slice_header (rest : Bytes) {i : ℕ} (h : i + 4 ≤ 32) :
    (slice (header ++ rest) i (i + 4) : Result Bytes) = .ok ((header.take (i + 4)).drop i) := by
  have hlength : header.length = 32 := rfl
  rw [slice_of_le (by omega) (by rw [List.length_append]; omega),
    List.take_append_of_le_length (by omega)]

/-- **The setup succeeds on the shipped table.** -/
theorem setup_get : setup EncodingTable.get = .ok shippedTables := by
  have hcombine := setupCombineMap_append header (eucUtf8.flatMap (bigEndian 7)) empty
    isCombineRow_of_mem
  have hmap := setupMap_append (header ++ eucUtf8Combine.flatMap (bigEndian 11)) [] eucUtf8
    (eucUtf8Combine.foldl insertCombination empty)
  have hlength : (header ++ eucUtf8Combine.flatMap (bigEndian 11)).length =
      header.length + eucUtf8Combine.length * 11 := by
    decide +kernel
  rw [List.append_nil, List.append_assoc, length_eucUtf8, hlength] at hmap
  have h4 : (ofLeU32 ((header.take (4 + 4)).drop 4)).toNat = header.length := by decide
  have h8 : (ofLeU32 ((header.take (8 + 4)).drop 8)).toNat = eucUtf8Combine.length := by decide
  have h12 : (ofLeU32 ((header.take (12 + 4)).drop 12)).toNat = 11431 := by decide
  unfold setup shippedTables EncodingTable.get
  rw [slice_header _ (i := 4) (by omega), slice_header _ (i := 8) (by omega),
    slice_header _ (i := 12) (by omega)]
  rw [Outcome.ok_bind, Outcome.ok_bind, Outcome.ok_bind, h4, h8, h12, hcombine, Outcome.ok_bind]
  exact hmap

/-! ## The tables as rows -/

/-- The slot of a row in the map of combinations of two-byte characters. -/
def combine4Slot (n : ℕ) : Option Bytes :=
  if 0xc2 ≤ byteAt n 7 ∧ byteAt n 7 ≤ 0xdf then
    some [byteAt n 7, byteAt n 6, byteAt n 3, byteAt n 2]
  else none

/-- The slot of a row in the map of combinations of three-byte characters. -/
def combine6Slot (n : ℕ) : Option Bytes :=
  if 0xc2 ≤ byteAt n 7 ∧ byteAt n 7 ≤ 0xdf then none
  else some [byteAt n 7, byteAt n 6, byteAt n 5, byteAt n 3, byteAt n 2, byteAt n 1]

lemma insertCombination_eq (t : EncodingTables) {n : ℕ} (h : IsCombineRow n) :
    insertCombination t n = { t with
      combineEucToUtf8Map := assign (some (euc3 (n >>> 32)))
        (some (utf8 (n >>> 32) ++ utf8 n)) t.combineEucToUtf8Map
      combineUtf84ToEucMap := assign (combine4Slot n) (some (euc3 (n >>> 32)))
        t.combineUtf84ToEucMap
      combineUtf86ToEucMap := assign (combine6Slot n) (some (euc3 (n >>> 32)))
        t.combineUtf86ToEucMap } := by
  have hvalue : utf8 (n >>> 32) ++ utf8 n = [byteAt n 7, byteAt n 6, byteAt n 5, byteAt n 4,
      byteAt n 3, byteAt n 2, byteAt n 1, byteAt n 0] := by
    rw [utf8_eq, byteAt_shiftRight, byteAt_shiftRight, byteAt_shiftRight, byteAt_shiftRight]
    rfl
  have hinsert := insertCombineRow_eq t h
  rw [hvalue] at hinsert ⊢
  unfold insertCombineRow at hinsert
  dsimp only at hinsert
  split at hinsert
  · rename_i hlead
    have hlead : 0xc2 ≤ byteAt n 7 ∧ byteAt n 7 ≤ 0xdf := hlead
    rw [combine4Slot, combine6Slot, if_pos hlead, if_pos hlead]
    exact (Outcome.ok.inj hinsert).symm
  · rename_i hlead
    have hlead : ¬ (0xc2 ≤ byteAt n 7 ∧ byteAt n 7 ≤ 0xdf) := hlead
    split at hinsert
    · rw [combine4Slot, combine6Slot, if_neg hlead, if_neg hlead]
      exact (Outcome.ok.inj hinsert).symm
    · exact absurd (h.resolve_left hlead) ‹_›

/-- The rows of the combining characters leave the other tables as they were. -/
lemma foldl_insertCombination_frame {rows : List ℕ} (h : ∀ n ∈ rows, IsCombineRow n)
    (t : EncodingTables) :
    (rows.foldl insertCombination t).euc2ToUtf8Vec = t.euc2ToUtf8Vec ∧
    (rows.foldl insertCombination t).utf83ToEucVec = t.utf83ToEucVec ∧
    (rows.foldl insertCombination t).euc3ToUtf8Map = t.euc3ToUtf8Map ∧
    (rows.foldl insertCombination t).utf824ToEucMap = t.utf824ToEucMap := by
  induction rows generalizing t with
  | nil => exact ⟨rfl, rfl, rfl, rfl⟩
  | cons n rows ih =>
    have hrest := ih (fun n hn => h n (List.mem_cons_of_mem _ hn)) (insertCombination t n)
    rw [insertCombination_eq t (h n List.mem_cons_self)] at hrest
    rw [List.foldl_cons, insertCombination_eq t (h n List.mem_cons_self)]
    exact hrest

/-- The rows of the single characters leave the tables of combinations as they were. -/
lemma foldl_insertSingle_frame (rows : List ℕ) (t : EncodingTables) :
    (rows.foldl insertSingle t).combineEucToUtf8Map = t.combineEucToUtf8Map ∧
    (rows.foldl insertSingle t).combineUtf84ToEucMap = t.combineUtf84ToEucMap ∧
    (rows.foldl insertSingle t).combineUtf86ToEucMap = t.combineUtf86ToEucMap := by
  induction rows generalizing t with
  | nil => exact ⟨rfl, rfl, rfl⟩
  | cons n rows ih =>
    obtain ⟨h, h4, h6⟩ := ih (insertSingle t n)
    exact ⟨h.trans (insertRow_combineEucToUtf8Map t _ _),
      h4.trans (insertRow_combineUtf84ToEucMap t _ _),
      h6.trans (insertRow_combineUtf86ToEucMap t _ _)⟩

lemma euc2ToUtf8Vec_shippedTables : shippedTables.euc2ToUtf8Vec =
    assignAll (fun n => euc2Slot (euc3 n)) utf8 eucUtf8 (fun _ => [0, 0, 0, 0]) := by
  unfold shippedTables
  exact (field_foldl (fun t n _ => insertRow_euc2ToUtf8Vec t (euc3 n) (utf8 n)) _).trans
    (congrArg _ (foldl_insertCombination_frame isCombineRow_of_mem empty).1)

lemma utf83ToEucVec_shippedTables : shippedTables.utf83ToEucVec =
    assignAll (fun n => utf83Slot (utf8 n)) euc3 eucUtf8 (fun _ => [0, 0, 0]) := by
  unfold shippedTables
  exact (field_foldl (fun t n _ => insertRow_utf83ToEucVec t (euc3 n) (utf8 n)) _).trans
    (congrArg _ (foldl_insertCombination_frame isCombineRow_of_mem empty).2.1)

lemma euc3ToUtf8Map_shippedTables : shippedTables.euc3ToUtf8Map =
    assignAll (fun n => euc3Slot (euc3 n)) (fun n => some (utf8 n)) eucUtf8 (fun _ => none) := by
  unfold shippedTables
  exact (field_foldl (fun t n _ => insertRow_euc3ToUtf8Map t (euc3 n) (utf8 n)) _).trans
    (congrArg _ (foldl_insertCombination_frame isCombineRow_of_mem empty).2.2.1)

lemma utf824ToEucMap_shippedTables : shippedTables.utf824ToEucMap =
    assignAll (fun n => utf824Slot (utf8 n)) (fun n => some (euc3 n)) eucUtf8 (fun _ => none) := by
  unfold shippedTables
  exact (field_foldl (fun t n _ => insertRow_utf824ToEucMap t (euc3 n) (utf8 n)) _).trans
    (congrArg _ (foldl_insertCombination_frame isCombineRow_of_mem empty).2.2.2)

lemma combineEucToUtf8Map_shippedTables : shippedTables.combineEucToUtf8Map =
    assignAll (fun n => some (euc3 (n >>> 32))) (fun n => some (utf8 (n >>> 32) ++ utf8 n))
      eucUtf8Combine (fun _ => none) := by
  unfold shippedTables
  exact (foldl_insertSingle_frame eucUtf8 _).1.trans <| field_foldl (fun t n hn => by
    rw [insertCombination_eq t (isCombineRow_of_mem n hn)]) empty

lemma combineUtf84ToEucMap_shippedTables : shippedTables.combineUtf84ToEucMap =
    assignAll combine4Slot (fun n => some (euc3 (n >>> 32))) eucUtf8Combine (fun _ => none) := by
  unfold shippedTables
  exact (foldl_insertSingle_frame eucUtf8 _).2.1.trans <| field_foldl (fun t n hn => by
    rw [insertCombination_eq t (isCombineRow_of_mem n hn)]) empty

lemma combineUtf86ToEucMap_shippedTables : shippedTables.combineUtf86ToEucMap =
    assignAll combine6Slot (fun n => some (euc3 (n >>> 32))) eucUtf8Combine (fun _ => none) := by
  unfold shippedTables
  exact (foldl_insertSingle_frame eucUtf8 _).2.2.trans <| field_foldl (fun t n hn => by
    rw [insertCombination_eq t (isCombineRow_of_mem n hn)]) empty

/-! ## What the tables answer -/

lemma euc2ToUtf8Vec_of_row {n : ℕ} (hn : n ∈ eucUtf8)
    {k : Fin (Decoder.EUC_2_TO_UTF8_VEC_INDEX_MAXIMUM + 1)} (h : euc2Slot (euc3 n) = some k) :
    shippedTables.euc2ToUtf8Vec k = utf8 n := by
  rw [euc2ToUtf8Vec_shippedTables]
  exact assignAll_of_mem nodup_euc2Slot hn h

lemma euc2ToUtf8Vec_of_forall {k : Fin (Decoder.EUC_2_TO_UTF8_VEC_INDEX_MAXIMUM + 1)}
    (h : ∀ n ∈ eucUtf8, euc2Slot (euc3 n) ≠ some k) :
    shippedTables.euc2ToUtf8Vec k = [0, 0, 0, 0] := by
  rw [euc2ToUtf8Vec_shippedTables]
  exact assignAll_of_forall_ne h

lemma utf83ToEucVec_of_row {n : ℕ} (hn : n ∈ eucUtf8)
    {k : Fin (Encoder.UTF8_3_TO_EUC_VEC_INDEX_MAXIMUM + 1)} (h : utf83Slot (utf8 n) = some k) :
    shippedTables.utf83ToEucVec k = euc3 n := by
  rw [utf83ToEucVec_shippedTables]
  exact assignAll_of_mem nodup_utf83Slot hn h

lemma utf83ToEucVec_of_forall {k : Fin (Encoder.UTF8_3_TO_EUC_VEC_INDEX_MAXIMUM + 1)}
    (h : ∀ n ∈ eucUtf8, utf83Slot (utf8 n) ≠ some k) :
    shippedTables.utf83ToEucVec k = [0, 0, 0] := by
  rw [utf83ToEucVec_shippedTables]
  exact assignAll_of_forall_ne h

lemma euc3ToUtf8Map_of_row {n : ℕ} (hn : n ∈ eucUtf8) {k : Bytes}
    (h : euc3Slot (euc3 n) = some k) : shippedTables.euc3ToUtf8Map k = some (utf8 n) := by
  rw [euc3ToUtf8Map_shippedTables]
  exact assignAll_of_mem nodup_euc3Slot hn h

lemma euc3ToUtf8Map_of_forall {k : Bytes} (h : ∀ n ∈ eucUtf8, euc3Slot (euc3 n) ≠ some k) :
    shippedTables.euc3ToUtf8Map k = none := by
  rw [euc3ToUtf8Map_shippedTables]
  exact assignAll_of_forall_ne h

lemma utf824ToEucMap_of_row {n : ℕ} (hn : n ∈ eucUtf8) {k : Bytes}
    (h : utf824Slot (utf8 n) = some k) : shippedTables.utf824ToEucMap k = some (euc3 n) := by
  rw [utf824ToEucMap_shippedTables]
  exact assignAll_of_mem nodup_utf824Slot hn h

lemma utf824ToEucMap_of_forall {k : Bytes} (h : ∀ n ∈ eucUtf8, utf824Slot (utf8 n) ≠ some k) :
    shippedTables.utf824ToEucMap k = none := by
  rw [utf824ToEucMap_shippedTables]
  exact assignAll_of_forall_ne h

lemma combineEucToUtf8Map_of_row {n : ℕ} (hn : n ∈ eucUtf8Combine) :
    shippedTables.combineEucToUtf8Map (euc3 (n >>> 32)) =
      some (utf8 (n >>> 32) ++ utf8 n) := by
  have hnodup : (eucUtf8Combine.filterMap fun n => some (euc3 (n >>> 32))).Nodup := by
    decide +kernel
  rw [combineEucToUtf8Map_shippedTables]
  exact assignAll_of_mem hnodup hn rfl

lemma combineEucToUtf8Map_of_forall {k : Bytes}
    (h : ∀ n ∈ eucUtf8Combine, euc3 (n >>> 32) ≠ k) :
    shippedTables.combineEucToUtf8Map k = none := by
  rw [combineEucToUtf8Map_shippedTables]
  exact assignAll_of_forall_ne fun n hn hk => h n hn (Option.some_injective _ hk)

lemma combineUtf84ToEucMap_of_row {n : ℕ} (hn : n ∈ eucUtf8Combine) {k : Bytes}
    (h : combine4Slot n = some k) :
    shippedTables.combineUtf84ToEucMap k = some (euc3 (n >>> 32)) := by
  have hnodup : (eucUtf8Combine.filterMap combine4Slot).Nodup := by
    decide +kernel
  rw [combineUtf84ToEucMap_shippedTables]
  exact assignAll_of_mem hnodup hn h

lemma combineUtf84ToEucMap_of_forall {k : Bytes}
    (h : ∀ n ∈ eucUtf8Combine, combine4Slot n ≠ some k) :
    shippedTables.combineUtf84ToEucMap k = none := by
  rw [combineUtf84ToEucMap_shippedTables]
  exact assignAll_of_forall_ne h

lemma combineUtf86ToEucMap_of_row {n : ℕ} (hn : n ∈ eucUtf8Combine) {k : Bytes}
    (h : combine6Slot n = some k) :
    shippedTables.combineUtf86ToEucMap k = some (euc3 (n >>> 32)) := by
  have hnodup : (eucUtf8Combine.filterMap combine6Slot).Nodup := by
    decide +kernel
  rw [combineUtf86ToEucMap_shippedTables]
  exact assignAll_of_mem hnodup hn h

lemma combineUtf86ToEucMap_of_forall {k : Bytes}
    (h : ∀ n ∈ eucUtf8Combine, combine6Slot n ≠ some k) :
    shippedTables.combineUtf86ToEucMap k = none := by
  rw [combineUtf86ToEucMap_shippedTables]
  exact assignAll_of_forall_ne h

end EncodingTables

end Yaskkserv2
