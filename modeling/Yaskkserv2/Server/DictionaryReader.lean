import Yaskkserv2.Candidates
import Yaskkserv2.EncodingSimple.Euc
import Yaskkserv2.Server.GoogleCache

/-!
# Looking midashi up

`DictionaryFile` and `src/skk/yaskkserv2/dictionary_reader.rs`: exact lookup (`read_candidates`),
completion (`read_abbrev`), and the candidates from Google.

A function that reads the file returns the `DictionaryFile` it leaves beside its result, since the
last read stays in there also when a later step fails.  What the two Google services answer, the
clock, and whether the cache file can be written are in `GoogleWorld`.
-/

namespace Yaskkserv2

open Framework

def PROTOCOL_MAXIMUM_LENGTH : ℕ := 510 * 2 + 1024
def PROTOCOL_MINIMUM_LENGTH : ℕ := 3
def BINARY_SEARCH_THRESHOLD : ℕ := 30
def RETURN_ZERO_THRESHOLD : ℕ := 10

/-! ## `DictionaryFile` -/

/-- The open dictionary file with the part of it that was read last.  `faults` says which of the
reads to come fail at the seek or in the file, and what such a read leaves in the buffer; where it
ends, none does. -/
structure DictionaryFile where
  file : Bytes
  faults : List (Option Bytes) := []
  seekPosition : ℕ := 0
  readLength : ℕ := 0
  buffer : Bytes
  deriving DecidableEq

/-- `DictionaryFile::new`, of a file that can be read. -/
def DictionaryFile.new (file : Bytes) (bufferLength : ℕ) : DictionaryFile :=
  { file := file, buffer := List.replicate bufferLength 0 }

/-- `DictionaryFile::read`. -/
def DictionaryFile.read (f : DictionaryFile) (seekPosition readLength : ℕ) :
    Result Bytes × DictionaryFile :=
  if f.seekPosition ≠ seekPosition ∨ f.readLength ≠ readLength then
    let buffer := if readLength > f.buffer.length then List.replicate readLength 0 else f.buffer
    let f' := { f with
      faults := f.faults.tail
      seekPosition := seekPosition
      readLength := readLength
      buffer := buffer }
    match f.faults.head?.join with
    | some left =>
      let left := left.take readLength
      (.error .io, { f' with buffer := left ++ buffer.drop left.length })
    | none =>
      match readExact f.file seekPosition readLength with
      | .ok bytes => (.ok bytes, { f' with buffer := bytes ++ buffer.drop readLength })
      | _ =>
        -- the file ends: what is before its end is read
        let left := (f.file.drop seekPosition).take readLength
        (.error .io, { f' with buffer := left ++ buffer.drop left.length })
  else (sliceTo f.buffer readLength, f)

/-- `Yaskkserv2::is_empty_candidates`. -/
def isEmptyCandidates (candidates : Bytes) : Prop := candidates.length = 1

instance (candidates : Bytes) : Decidable (isEmptyCandidates candidates) :=
  inferInstanceAs (Decidable (_ = _))

/-- What happens outside the program while it asks Google. -/
structure GoogleWorld where
  requestGoogleJapaneseInput : Bytes → Except SkkError (List Bytes)
  requestGoogleSuggest : Bytes → Except SkkError (List Bytes)
  unixTimeNow : ℕ
  cacheWrite : Except SkkError Unit

/-- `DictionaryReader`, with the static tables. -/
structure DictionaryReader where
  config : Config
  onMemory : OnMemory
  tables : EncodingTables

namespace DictionaryReader

/-- Google does not answer. -/
def offline : GoogleWorld where
  requestGoogleJapaneseInput _ := .error .request
  requestGoogleSuggest _ := .error .request
  unixTimeNow := 0
  cacheWrite := .ok ()

/-! ## Where a midashi lies -/

/-- `DictionaryReader::get_midashi`. -/
def getMidashi (buffer : Bytes) : Result Bytes := do
  let last ← checkedSub buffer.length 1
  slice buffer 1 last

/-- `DictionaryReader::get_block_information_vectors`. -/
def getBlockInformationVectors (onMemory : OnMemory) (key : DictionaryMidashiKey) :
    Result (Option (List DictionaryBlockInformation)) :=
  match getAsciiHiraganaVecIndex key with
  | none => .ok onMemory.indexMap[key]?
  | some i => do
    let informations ← index onMemory.indexAsciiHiraganaVec i
    return if informations = [] then none else some informations

/-- `as i32` of a length. -/
def toI32 (n : ℕ) : ℤ := (n : ℤ).bmod (2 ^ 32)

/-- What the loop of the hint search carries. -/
structure HintState where
  index : ℤ
  diff : ℤ
  previousDirection : ℤ := 0
  diffZeroCount : ℕ := 0

/-- A turn of the loop of the hint search. -/
def hintTurn (midashi : Bytes) (informations : List DictionaryBlockInformation)
    (s : HintState) : Result (HintState ⊕ ℤ) := do
  let length := toI32 informations.length
  let information ← if s.index < 0 then .panic else index informations s.index.toNat
  let direction := if midashi > information.midashi then 0 else 1
  let next := if midashi > information.midashi then s.index - s.diff else s.index + s.diff
  if direction = 0 ∧ next < 0 then return .inr 0
  else if direction = 1 ∧ next ≥ length then return .inr (toI32 (informations.length - 1))
  else
    let diff := s.diff / 2
    if diff = 0 then
      if s.diffZeroCount ≥ 1 ∧ direction ≠ s.previousDirection then
        return .inr (max 0 (next - 1))
      else return .inl ⟨next, 1, direction, s.diffZeroCount + 1⟩
    else return .inl ⟨next, diff, direction, s.diffZeroCount⟩

/-- The index of the first unit, from `i` on, whose midashi is not above the one looked for; the
number of units where there is none. -/
def skipAbove (midashi : Bytes) : ℕ → List DictionaryBlockInformation → ℕ
  | i, [] => i
  | i, information :: rest =>
    if information.midashi ≤ midashi then i else skipAbove midashi (i + 1) rest

/-- The binary stage of the hint search: the index at which its loop breaks. -/
def binaryStage (midashi : Bytes) (informations : List DictionaryBlockInformation) : Result ℤ :=
  let start := toI32 (informations.length / 2)
  loop (hintTurn midashi informations) (2 * informations.length + 3) ⟨start, start / 2, 0, 0⟩

/-- `DictionaryReader::get_block_informations_loop_start_hint_index`. -/
def getBlockInformationsLoopStartHintIndex (midashi : Bytes)
    (informations : List DictionaryBlockInformation) : Result ℕ :=
  if informations.length < RETURN_ZERO_THRESHOLD then .ok 0
  else if informations.length < BINARY_SEARCH_THRESHOLD then do
    let halfIndex := informations.length / 2
    let information ← index informations halfIndex
    return if midashi > information.midashi then 0 else halfIndex
  else do
    let found ← binaryStage midashi informations
    if found < 0 then .panic
    else return skipAbove midashi found.toNat (informations.drop found.toNat)

/-- `DictionaryReader::get_block_informations_index`. -/
def getBlockInformationsIndex (midashi : Bytes) (informations : List DictionaryBlockInformation) :
    Result ℕ := do
  let hint ← getBlockInformationsLoopStartHintIndex midashi informations
  let rest ← sliceFrom informations hint
  return skipAbove midashi hint rest

/-! ## Exact lookup -/

/-- What `read_dictionary_for_read_candidates` does with the bytes of a unit. -/
def findCandidates (midashi buffer result : Bytes) : Result Bytes := do
  let midashiSearchBytes := [LF] ++ midashi ++ [SP, SLASH]
  match find midashiSearchBytes buffer with
  | none => return result
  | some midashiFind =>
    let candidatesStart := midashiFind + midashiSearchBytes.length
    let tail ← sliceFrom buffer candidatesStart
    match find [LF] tail with
    | none => .error .brokenDictionary
    | some lfFind =>
      let candidates ← slice buffer candidatesStart (candidatesStart + lfFind)
      if isEmptyCandidates result then return result ++ [SLASH] ++ candidates
      else
        return [0x31] ++ Candidates.mergeTrimmedSlashCandidates
          (Candidates.trimOneSlash (result.drop 1)) (Candidates.trimOneSlash candidates)

/-- `DictionaryReader::read_dictionary_for_read_candidates`. -/
def readDictionaryForReadCandidates (midashi : Bytes)
    (informations : List DictionaryBlockInformation) (blocksOffset : UInt32)
    (dictionaryFile : DictionaryFile) (result : Bytes) : Result Bytes × DictionaryFile :=
  match getBlockInformationsIndex midashi informations with
  | .ok i =>
    if i ≥ informations.length then (.ok result, dictionaryFile)
    else
      match (index informations i : Result DictionaryBlockInformation) with
      | .ok unit =>
        let (read, dictionaryFile) := dictionaryFile.read
          (blocksOffset.toNat + unit.offset.toNat) unit.length.toNat
        (read >>= fun buffer => findCandidates midashi buffer result, dictionaryFile)
      | _ => (.panic, dictionaryFile)
  | .error e => (.error e, dictionaryFile)
  | .panic => (.panic, dictionaryFile)
  | .diverge => (.diverge, dictionaryFile)

/-! ## Google -/

/-- The candidates from the cache or else from Google, as `read_google_candidates` puts them
together: of an enabled suggest service both answers count, and failures are empty answers. -/
def requestCandidates (r : DictionaryReader) (world : GoogleWorld) (cache : GoogleCacheBTreeMap)
    (utf8Midashi : Bytes) : Except SkkError (List Bytes) :=
  let cached := if r.config.isGoogleCacheEnabled then GoogleCache.getCandidates cache utf8Midashi
    else []
  if cached ≠ [] then .ok cached
  else if r.config.isGoogleSuggestEnabled then
    let japaneseInput := (world.requestGoogleJapaneseInput utf8Midashi).toOption.getD []
    let suggest := (world.requestGoogleSuggest utf8Midashi).toOption.getD []
    .ok (Candidates.removeDuplicates (japaneseInput ++ suggest))
  else (world.requestGoogleJapaneseInput utf8Midashi).map Candidates.removeDuplicates

/-- `DictionaryReader::read_google_candidates`: what it returns, the result and the cache it
leaves.  An error of the cache leaves the new result in place. -/
def readGoogleCandidates (r : DictionaryReader) (world : GoogleWorld)
    (cache : GoogleCacheBTreeMap) (midashi result : Bytes) :
    Result (Except SkkError Unit × Bytes × GoogleCacheBTreeMap) := do
  let utf8Midashi ← Euc.decode r.tables midashi
  match r.requestCandidates world cache utf8Midashi with
  | .error e => return (.error e, result, cache)
  | .ok googleUtf8Candidates =>
    if googleUtf8Candidates = [] then return (.error .request, result, cache)
    else do
      let base := Candidates.trimOneSlash (← sliceFrom result 1)
      let new := Candidates.trimOneSlash
        (googleUtf8Candidates.flatMap fun v => Candidates.quoteAndAddPrefix v (some SLASH))
      let encoding ← Encoding.fromU32 r.onMemory.dictionaryFixedHeader.encoding
      let new ← if encoding = .Euc then Euc.encode r.tables new else pure new
      let newResult := [0x31] ++ Candidates.mergeTrimmedSlashCandidates base new
      if r.config.isGoogleCacheEnabled then
        let (written, cache) ← GoogleCache.writeCandidates cache utf8Midashi googleUtf8Candidates
          r.config.googleCacheEntries r.config.googleCacheExpireSeconds world.unixTimeNow
          world.cacheWrite
        return (written, newResult, cache)
      else return (.ok (), newResult, cache)

/-- The call of `read_google_candidates` at one of the two places in `read_candidates`, where
`asks` says whether it is made.  Its error is ignored. -/
def ignoreGoogleError (r : DictionaryReader) (world : GoogleWorld) (asks : Bool)
    (cache : GoogleCacheBTreeMap) (midashi result : Bytes) :
    Result (Bytes × GoogleCacheBTreeMap) := do
  if asks then
    let (_, result, cache) ← r.readGoogleCandidates world cache midashi result
    return (result, cache)
  else return (result, cache)

/-- What the program keeps between requests. -/
structure Session where
  dictionaryFile : DictionaryFile
  cache : GoogleCacheBTreeMap := ∅

/-- `DictionaryReader::read_candidates`. -/
def readCandidates (r : DictionaryReader) (world : GoogleWorld) (s : Session)
    (midashiBuffer : Bytes) : Result Bytes × Session :=
  let start : Result (Bytes × Option (List DictionaryBlockInformation) × Bytes ×
      GoogleCacheBTreeMap) := do
    let midashi ← getMidashi midashiBuffer
    let key ← Dictionary.getDictionaryMidashiKey (← sliceFrom midashiBuffer 1)
    let (result, cache) ← r.ignoreGoogleError world (r.config.googleTiming = .First) s.cache
      midashi [0x31]
    let vectors ← getBlockInformationVectors r.onMemory key
    return (midashi, vectors, result, cache)
  match start with
  | .ok (midashi, vectors, result, cache) =>
    let (read, dictionaryFile) :=
      match vectors with
      | some informations => readDictionaryForReadCandidates midashi informations
          r.onMemory.dictionaryFixedHeader.blocksOffset s.dictionaryFile result
      | none => (.ok result, s.dictionaryFile)
    match read with
    | .ok result =>
      let asks := r.config.googleTiming = .Last ∨
        (r.config.googleTiming = .NotFound ∧ isEmptyCandidates result)
      match r.ignoreGoogleError world asks cache midashi result with
      | .ok (result, cache) => (.ok result, ⟨dictionaryFile, cache⟩)
      | .error e => (.error e, ⟨dictionaryFile, cache⟩)
      | .panic => (.panic, ⟨dictionaryFile, cache⟩)
      | .diverge => (.diverge, ⟨dictionaryFile, cache⟩)
    | .error e => (.error e, ⟨dictionaryFile, cache⟩)
    | .panic => (.panic, ⟨dictionaryFile, cache⟩)
    | .diverge => (.diverge, ⟨dictionaryFile, cache⟩)
  | .error e => (.error e, s)
  | .panic => (.panic, s)
  | .diverge => (.diverge, s)

/-! ## Completion -/

/-- `DictionaryReader::is_okuri_ari`: an ASCII lower-case letter after a hiragana. -/
def isOkuriAri (midashi : Bytes) : Bool :=
  match midashi.reverse with
  | last :: second :: third :: _ =>
    decide (0x61 ≤ last ∧ last ≤ 0x7a) && decide (0xa1 ≤ second ∧ second ≤ 0xf3) && third == 0xa4
  | _ => false

/-- What the scan of a unit for completions carries, and leaves: the result, and how many were
found. -/
structure AbbrevState where
  offset : ℕ := 0
  result : Bytes
  foundCount : ℕ

/-- A turn of the loop `'inner`: it breaks out of both loops (`true`) or of the inner one. -/
def abbrevTurn (midashi buffer : Bytes) (maxServerCompletions : ℕ) (s : AbbrevState) :
    Result (AbbrevState ⊕ (Bool × AbbrevState)) := do
  let midashiSearchBytes := [LF] ++ midashi
  let tail ← sliceFrom buffer s.offset
  match find midashiSearchBytes tail with
  | some midashiFind =>
    let midashiStart := s.offset + midashiFind + 1
    let spaceStart := s.offset + midashiFind + midashiSearchBytes.length
    let rest ← sliceFrom buffer spaceStart
    match find [SP] rest with
    | some spaceFind => do
      let found ← slice buffer midashiStart (spaceStart + spaceFind)
      if isOkuriAri found then
        return .inl ⟨spaceStart + spaceFind, s.result, s.foundCount⟩
      else
        let s' : AbbrevState := ⟨spaceStart + spaceFind,
          s.result ++ Candidates.quoteAndAddPrefix found (some SLASH), s.foundCount + 1⟩
        return if s'.foundCount ≥ maxServerCompletions then .inr (true, s') else .inl s'
    | none => .error .brokenDictionary
  | none => return .inr (s.foundCount == 0, s)

/-- The loop `'inner` over the bytes of a unit. -/
def abbrevUnit (midashi buffer : Bytes) (maxServerCompletions : ℕ) (result : Bytes)
    (foundCount : ℕ) : Result (Bool × AbbrevState) :=
  loop (abbrevTurn midashi buffer maxServerCompletions) (buffer.length + 1)
    ⟨0, result, foundCount⟩

/-- The loop `'outer`, from the unit of an index on down to the first of the list. -/
def abbrevUnits (midashi : Bytes) (informations : List DictionaryBlockInformation)
    (blocksOffset : UInt32) (maxServerCompletions : ℕ) :
    ℕ → Bytes → ℕ → DictionaryFile → Result Bytes × DictionaryFile
  | i, result, foundCount, dictionaryFile =>
    match (index informations i : Result DictionaryBlockInformation) with
    | .ok unit =>
      if 0 < foundCount ∧ ¬ midashi <+: unit.midashi then (.ok result, dictionaryFile)
      else
        let (read, dictionaryFile) := dictionaryFile.read
          (blocksOffset.toNat + unit.offset.toNat) unit.length.toNat
        match read >>= fun buffer =>
            abbrevUnit midashi buffer maxServerCompletions result foundCount with
        | .ok (outer, s) =>
          if outer then (.ok s.result, dictionaryFile)
          else
            match i with
            | 0 => (.ok s.result, dictionaryFile)
            | i + 1 => abbrevUnits midashi informations blocksOffset maxServerCompletions i
                s.result s.foundCount dictionaryFile
        | .error e => (.error e, dictionaryFile)
        | .panic => (.panic, dictionaryFile)
        | .diverge => (.diverge, dictionaryFile)
    | _ => (.panic, dictionaryFile)

/-- `DictionaryReader::read_dictionary_for_read_abbrev`. -/
def readDictionaryForReadAbbrev (t : EncodingTables) (midashi : Bytes)
    (informations : List DictionaryBlockInformation) (blocksOffset : UInt32)
    (dictionaryFile : DictionaryFile) (result : Bytes) (maxServerCompletions : ℕ)
    (encoding : Encoding) : Result Bytes × DictionaryFile :=
  let start : Result ℕ := do
    let i ← getBlockInformationsIndex midashi informations
    if i ≥ informations.length then checkedSub i 1 else return i
  match start with
  | .ok i =>
    let (read, dictionaryFile) := abbrevUnits midashi informations blocksOffset
      maxServerCompletions i result 0 dictionaryFile
    (read >>= fun result => if encoding = .Utf8 then Euc.decode t result else .ok result,
      dictionaryFile)
  | .error e => (.error e, dictionaryFile)
  | .panic => (.panic, dictionaryFile)
  | .diverge => (.diverge, dictionaryFile)

/-- `DictionaryReader::read_abbrev`. -/
def readAbbrev (r : DictionaryReader) (s : Session) (midashiBuffer : Bytes) :
    Result Bytes × Session :=
  let start : Result (Bytes × Option (List DictionaryBlockInformation)) := do
    let midashi ← getMidashi midashiBuffer
    let key ← Dictionary.getDictionaryMidashiKey (← sliceFrom midashiBuffer 1)
    let vectors ← getBlockInformationVectors r.onMemory key
    return (midashi, vectors)
  match start with
  | .ok (midashi, vectors) =>
    let (read, dictionaryFile) :=
      match vectors with
      | some informations =>
        match Encoding.fromU32 r.onMemory.dictionaryFixedHeader.encoding with
        | .ok encoding => readDictionaryForReadAbbrev r.tables midashi informations
            r.onMemory.dictionaryFixedHeader.blocksOffset s.dictionaryFile [0x31]
            r.config.maxServerCompletions encoding
        | _ => (.panic, s.dictionaryFile)
      | none => (.ok [0x31], s.dictionaryFile)
    (read >>= fun result => .ok (if result.length > 1 then result ++ [SLASH] else result),
      { s with dictionaryFile := dictionaryFile })
  | .error e => (.error e, s)
  | .panic => (.panic, s)
  | .diverge => (.diverge, s)

end DictionaryReader

end Yaskkserv2
