import Yaskkserv2.Skk

/-!
# Candidates

`src/skk/candidates.rs`: texts `/c1/c2/../cn/` of candidates between slashes.  A candidate may
carry an annotation after a semicolon, and two candidates are the same word when they agree up to
it.

`split` on a byte is `List.splitOn`, which like the source gives one empty piece for an empty
text, and `join` is `List.intercalate`.
-/

namespace Yaskkserv2

namespace Candidates

/-- `Candidates::need_quote`. -/
def needQuote (source : Bytes) : Bool :=
  source.any fun u =>
    u == CR || u == LF || u == 0x5c || u == 0x22 || u == SEMICOLON || u == SLASH

/-- What `quote_and_add_prefix` writes for a byte. -/
def quoteByte (b : UInt8) : Bytes :=
  if b = CR ∨ b = LF then []
  else if b = 0x5c then [0x5c, 0x5c]
  else if b = 0x22 then [0x5c, 0x22]
  else if b = SEMICOLON then ascii "(concat \"\\073\")"
  else if b = SLASH then ascii "(concat \"\\057\")"
  else [b]

/-- `Candidates::quote_and_add_prefix`. -/
def quoteAndAddPrefix (source : Bytes) (start : Option UInt8) : Bytes :=
  start.toList ++ source.flatMap quoteByte

/-- `Candidates::trim_one_slash`. -/
def trimOneSlash (source : Bytes) : Bytes :=
  if source = [] then source
  else
    let trimmed := if 1 < source.length ∧ source.getLast? = some SLASH then source.dropLast
      else source
    if trimmed.head? = some SLASH then trimmed.drop 1 else trimmed

/-- `Candidates::remove_duplicates`, with what the hash set holds: of equal elements only the first
stays. -/
def removeDuplicatesFrom {α : Type} [DecidableEq α] (duplicatesHash : List α) : List α → List α
  | [] => []
  | v :: rest =>
    if v ∈ duplicatesHash then removeDuplicatesFrom duplicatesHash rest
    else v :: removeDuplicatesFrom (v :: duplicatesHash) rest

/-- `Candidates::remove_duplicates`. -/
def removeDuplicates {α : Type} [DecidableEq α] (candidates : List α) : List α :=
  removeDuplicatesFrom [] candidates

/-- `Candidates::remove_duplicates_bytes`. -/
def removeDuplicatesBytes (candidatesBytes : Bytes) : Bytes :=
  [SLASH].intercalate (removeDuplicates (candidatesBytes.splitOn SLASH)) ++ [SLASH]

/-! ## Merging -/

/-- A candidate without its annotation. -/
def removeAnnotate (v : Bytes) : Bytes := v.takeWhile (· ≠ SEMICOLON)

/-- A new candidate while the annotated merge is under way: `(raw, annotate_removed, add_flag)`. -/
structure NewUnit where
  raw : Bytes
  word : Bytes
  add : Bool := true
  deriving DecidableEq, Repr

/-- `iter_mut().find(|v| v.1 == base_unit.1)`, which is then no longer to be added. -/
def claimWord (word : Bytes) : List NewUnit → Option NewUnit × List NewUnit
  | [] => (none, [])
  | v :: rest =>
    if v.word = word then (some v, { v with add := false } :: rest)
    else ((claimWord word rest).1, v :: (claimWord word rest).2)

/-- A turn of the annotated merge: the new candidate of the same word is looked up first, as it may
be written in the place of the base candidate. -/
def mergeAnnotatedTurn (s : Bytes × List NewUnit) (baseUnit : Bytes) : Bytes × List NewUnit :=
  match claimWord (removeAnnotate baseUnit) s.2 with
  | (some newUnit, rest) =>
    -- the annotation of the base wins, a new one replaces a base candidate without
    if SEMICOLON ∉ baseUnit ∧ SEMICOLON ∈ newUnit.raw then (s.1 ++ newUnit.raw ++ [SLASH], rest)
    else (s.1 ++ baseUnit ++ [SLASH], rest)
  | (none, rest) => (s.1 ++ baseUnit ++ [SLASH], rest)

/-- `Candidates::merge_annotated_trimmed_slash_candidates`. -/
def mergeAnnotatedTrimmedSlashCandidates (base new : Bytes) : Bytes :=
  let newUnits := (new.splitOn SLASH).map fun v => (⟨v, removeAnnotate v, true⟩ : NewUnit)
  let (result, newUnits) :=
    if base = [] then ([SLASH], newUnits)
    else (base.splitOn SLASH).foldl mergeAnnotatedTurn ([SLASH], newUnits)
  result ++ (newUnits.filter (·.add)).flatMap fun v => v.raw ++ [SLASH]

/-- `iter_mut().find(|v| v.0 == base_unit)` in the plain merge, whose new candidates are
`(raw, add_flag)`. -/
def clearFlag (baseUnit : Bytes) : List (Bytes × Bool) → List (Bytes × Bool)
  | [] => []
  | v :: rest => if v.1 = baseUnit then (v.1, false) :: rest else v :: clearFlag baseUnit rest

/-- A turn of the plain merge: the base candidate is written, then its flag is cleared. -/
def mergePlainTurn (s : Bytes × List (Bytes × Bool)) (baseUnit : Bytes) :
    Bytes × List (Bytes × Bool) :=
  (s.1 ++ baseUnit ++ [SLASH], clearFlag baseUnit s.2)

/-- The plain branch of `merge_trimmed_slash_candidates`. -/
def mergePlainTrimmedSlashCandidates (base new : Bytes) : Bytes :=
  let newRawAndAddFlag := (new.splitOn SLASH).map fun v => (v, true)
  let (result, newRawAndAddFlag) :=
    if base = [] then ([SLASH], newRawAndAddFlag)
    else (base.splitOn SLASH).foldl mergePlainTurn ([SLASH], newRawAndAddFlag)
  result ++ (newRawAndAddFlag.filter (·.2)).flatMap fun v => v.1 ++ [SLASH]

/-- `Candidates::merge_trimmed_slash_candidates`. -/
def mergeTrimmedSlashCandidates (base new : Bytes) : Bytes :=
  if SEMICOLON ∈ base ∨ SEMICOLON ∈ new then mergeAnnotatedTrimmedSlashCandidates base new
  else mergePlainTrimmedSlashCandidates base new

end Candidates

end Yaskkserv2
