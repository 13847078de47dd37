import Yaskkserv2.Skk

/-!
# The lookup tables of `encoding_simple`

`EncodingTable::setup` reads the encoding table, a byte string of fixed-length rows, into two
vectors indexed by a compressed code (`Decoder::get_euc_2_to_utf8_vec_index`,
`Encoder::get_utf8_3_to_euc_vec_index`) and five maps keyed by raw bytes.  The static tables of
the source are the fields of `EncodingTables`; a vector of `MAXIMUM + 1` slots is a function on
its indices, so an index past the end is a panic and not a default.
-/

namespace Yaskkserv2

open Framework

/-! ## The compressed indices -/

namespace Decoder

def EUC_2_TO_UTF8_VEC_INDEX_MAXIMUM : ℕ := 0x5d70
def EUC_2_TO_UTF8_VEC_INDEX_EMPTY : ℕ := 1

/-- `Decoder::get_euc_2_to_utf8_vec_index`. -/
def getEuc2ToUtf8VecIndex (high low : UInt8) : ℕ :=
  if low < 0xa1 ∨ high < 0x8e then EUC_2_TO_UTF8_VEC_INDEX_EMPTY
  else
    let result := (low - 0xa1).toNat * 256 + (high - 0x8e).toNat
    if result > EUC_2_TO_UTF8_VEC_INDEX_MAXIMUM then EUC_2_TO_UTF8_VEC_INDEX_EMPTY else result

lemma getEuc2ToUtf8VecIndex_le (high low : UInt8) :
    getEuc2ToUtf8VecIndex high low ≤ EUC_2_TO_UTF8_VEC_INDEX_MAXIMUM := by
  unfold getEuc2ToUtf8VecIndex
  split
  · decide
  · dsimp only
    split
    · decide
    · omega

lemma getEuc2ToUtf8VecIndex_lt (high low : UInt8) :
    getEuc2ToUtf8VecIndex high low < EUC_2_TO_UTF8_VEC_INDEX_MAXIMUM + 1 :=
  Nat.lt_succ_of_le (getEuc2ToUtf8VecIndex_le high low)

/-- `Decoder::push_to_buffer_utf8`: what is pushed. -/
def pushToBufferUtf8 (utf8 : Bytes) : Bytes :=
  if utf8.headD 0 ≥ 0xf0 then utf8.take 4
  else if utf8.headD 0 ≥ 0xe0 then utf8.take 3
  else if utf8.headD 0 ≥ 0xc2 then utf8.take 2
  else utf8.take 1

end Decoder

namespace Encoder

def UTF8_3_TO_EUC_VEC_INDEX_RAW_MINIMUM : ℕ := 0x1e3e
def UTF8_3_TO_EUC_VEC_INDEX_MAXIMUM : ℕ :=
  0xff9f - UTF8_3_TO_EUC_VEC_INDEX_RAW_MINIMUM - (0xdade - 0x8165)
def UTF8_3_TO_EUC_VEC_INDEX_EMPTY : ℕ := 2

/-- `Encoder::get_utf8_3_to_euc_vec_index`, on the three bytes it reads. -/
def getUtf83ToEucVecIndex (utf8₀ utf8₁ utf8₂ : UInt8) : ℕ :=
  if utf8₀ < 0xe0 ∨ utf8₁ < 0x80 ∨ utf8₂ < 0x80 then UTF8_3_TO_EUC_VEC_INDEX_EMPTY
  else
    let rawIndex := ((utf8₀ - 0xe0).toNat <<< 12) ||| ((utf8₁ - 0x80).toNat <<< 6) |||
      (utf8₂ - 0x80).toNat
    let rawIndex := if rawIndex > 0xdade then rawIndex - (0xdade - 0x8165) else rawIndex
    if rawIndex < UTF8_3_TO_EUC_VEC_INDEX_RAW_MINIMUM then UTF8_3_TO_EUC_VEC_INDEX_EMPTY
    else
      let result := rawIndex - UTF8_3_TO_EUC_VEC_INDEX_RAW_MINIMUM
      if result > UTF8_3_TO_EUC_VEC_INDEX_MAXIMUM then UTF8_3_TO_EUC_VEC_INDEX_EMPTY
      else result

lemma getUtf83ToEucVecIndex_le (utf8₀ utf8₁ utf8₂ : UInt8) :
    getUtf83ToEucVecIndex utf8₀ utf8₁ utf8₂ ≤ UTF8_3_TO_EUC_VEC_INDEX_MAXIMUM := by
  have hempty : UTF8_3_TO_EUC_VEC_INDEX_EMPTY ≤ UTF8_3_TO_EUC_VEC_INDEX_MAXIMUM := by decide
  unfold getUtf83ToEucVecIndex
  split
  · exact hempty
  · extract_lets rawIndex folded result
    by_cases hlow : folded < UTF8_3_TO_EUC_VEC_INDEX_RAW_MINIMUM
    · rw [if_pos hlow]
      exact hempty
    · rw [if_neg hlow]
      by_cases hhigh : result > UTF8_3_TO_EUC_VEC_INDEX_MAXIMUM
      · rw [if_pos hhigh]
        exact hempty
      · rw [if_neg hhigh]
        exact Nat.le_of_not_gt hhigh

lemma getUtf83ToEucVecIndex_lt (utf8₀ utf8₁ utf8₂ : UInt8) :
    getUtf83ToEucVecIndex utf8₀ utf8₁ utf8₂ < UTF8_3_TO_EUC_VEC_INDEX_MAXIMUM + 1 :=
  Nat.lt_succ_of_le (getUtf83ToEucVecIndex_le utf8₀ utf8₁ utf8₂)

/-- `Encoder::push_to_buffer_euc`: what is pushed. -/
def pushToBufferEuc (euc : Bytes) : Bytes :=
  if euc.headD 0 = 0x8f then euc.take 3
  else if euc.headD 0 ≥ 0x80 then euc.take 2
  else euc.take 1

end Encoder

/-! ## The tables -/

/-- A `Vec` of `maximum + 1` fixed-size arrays. -/
abbrev LookupVec (maximum : ℕ) := Fin (maximum + 1) → Bytes

/-- `vec[index]`. -/
def LookupVec.get {maximum : ℕ} (v : LookupVec maximum) (i : ℕ) : Result Bytes :=
  if h : i < maximum + 1 then .ok (v ⟨i, h⟩) else .panic

lemma LookupVec.get_of_le {maximum : ℕ} (v : LookupVec maximum) {i : ℕ} (h : i ≤ maximum) :
    v.get i = .ok (v ⟨i, Nat.lt_succ_of_le h⟩) := dif_pos (Nat.lt_succ_of_le h)

/-- `vec[index].copy_from_slice(value)`, for an index within the vector. -/
def LookupVec.set {maximum : ℕ} (v : LookupVec maximum) (i : ℕ) (value : Bytes) :
    LookupVec maximum :=
  fun j => if j.val = i then value else v j

/-- A map from raw codes to raw codes. -/
abbrev CodeMap := Bytes → Option Bytes

/-- The static tables that `Euc::encode` and `Euc::decode` look up. -/
structure EncodingTables where
  euc2ToUtf8Vec : LookupVec Decoder.EUC_2_TO_UTF8_VEC_INDEX_MAXIMUM
  utf83ToEucVec : LookupVec Encoder.UTF8_3_TO_EUC_VEC_INDEX_MAXIMUM
  euc3ToUtf8Map : CodeMap
  utf824ToEucMap : CodeMap
  combineEucToUtf8Map : CodeMap
  combineUtf84ToEucMap : CodeMap
  combineUtf86ToEucMap : CodeMap

namespace EncodingTables

/-- The tables before `EncodingTable::setup` has filled them. -/
def empty : EncodingTables where
  euc2ToUtf8Vec := fun _ => [0, 0, 0, 0]
  utf83ToEucVec := fun _ => [0, 0, 0]
  euc3ToUtf8Map := fun _ => none
  utf824ToEucMap := fun _ => none
  combineEucToUtf8Map := fun _ => none
  combineUtf84ToEucMap := fun _ => none
  combineUtf86ToEucMap := fun _ => none

/-- A row of the combining characters: 3 bytes of EUC, twice 4 bytes of UTF-8. -/
def insertCombineRow (t : EncodingTables) (euc3 utf8Value : Bytes) : Result EncodingTables :=
  let t := { t with
    combineEucToUtf8Map := Function.update t.combineEucToUtf8Map euc3 (some utf8Value) }
  let a := utf8Value.take 4
  let b := utf8Value.drop 4
  if 0xc2 ≤ a.headD 0 ∧ a.headD 0 ≤ 0xdf then
    .ok { t with combineUtf84ToEucMap :=
      Function.update t.combineUtf84ToEucMap (a.take 2 ++ b.take 2) (some euc3) }
  else if 0xe0 ≤ a.headD 0 ∧ a.headD 0 ≤ 0xef then
    .ok { t with combineUtf86ToEucMap :=
      Function.update t.combineUtf86ToEucMap (a.take 3 ++ b.take 3) (some euc3) }
  else .error .encoding

/-- A row of the single characters: 3 bytes of EUC, 4 bytes of UTF-8. -/
def insertRow (t : EncodingTables) (euc3 utf8 : Bytes) : EncodingTables :=
  let t :=
    if euc3.headD 0 = 0x8f then
      { t with euc3ToUtf8Map := Function.update t.euc3ToUtf8Map euc3 (some utf8) }
    else if euc3.headD 0 = 0x8e ∨ 0xa0 ≤ euc3.headD 0 then
      let index := Decoder.getEuc2ToUtf8VecIndex (euc3.headD 0) (euc3.getD 1 0)
      { t with euc2ToUtf8Vec := t.euc2ToUtf8Vec.set index utf8 }
    else t
  if utf8.headD 0 ≤ 0x7f then t
  else if 0xe0 ≤ utf8.headD 0 ∧ utf8.headD 0 ≤ 0xef then
    let index :=
      Encoder.getUtf83ToEucVecIndex (utf8.headD 0) (utf8.getD 1 0) (utf8.getD 2 0)
    { t with utf83ToEucVec := t.utf83ToEucVec.set index euc3 }
  else { t with utf824ToEucMap := Function.update t.utf824ToEucMap utf8 (some euc3) }

/-- The loop of `EncodingTable::setup_combine_map`, from an offset on. -/
def setupCombineMap (encodingTable : Bytes) : ℕ → ℕ → EncodingTables → Result EncodingTables
  | 0, _, t => .ok t
  | n + 1, offset, t => do
    let row ← slice encodingTable offset (offset + 11)
    let t ← insertCombineRow t (row.take 3) (row.drop 3)
    setupCombineMap encodingTable n (offset + 11) t

/-- The loop of `EncodingTable::setup_map`, from an offset on. -/
def setupMap (encodingTable : Bytes) : ℕ → ℕ → EncodingTables → Result EncodingTables
  | 0, _, t => .ok t
  | n + 1, offset, t => do
    let row ← slice encodingTable offset (offset + 7)
    setupMap encodingTable n (offset + 7) (insertRow t (row.take 3) (row.drop 3))

/-- `EncodingTable::setup`. -/
def setup (encodingTable : Bytes) : Result EncodingTables := do
  let headerLength := (ofLeU32 (← slice encodingTable 4 8)).toNat
  let combineLength := (ofLeU32 (← slice encodingTable 8 12)).toNat
  let eucUtf8Length := (ofLeU32 (← slice encodingTable 12 16)).toNat
  let t ← setupCombineMap encodingTable combineLength headerLength empty
  setupMap encodingTable eucUtf8Length (headerLength + combineLength * 11) t

end EncodingTables

/-- `once_init_encoding_table`: the first call of the process sets the static tables up, and stops
the program if it cannot; any later call leaves them as they are. -/
def onceInitEncodingTable (initialized : Option EncodingTables) (encodingTable : Bytes) :
    Result EncodingTables :=
  match initialized with
  | some t => .ok t
  | none =>
    match EncodingTables.setup encodingTable with
    | .ok t => .ok t
    | _ => .panic

end Yaskkserv2
