import Yaskkserv2.Candidates
import Yaskkserv2.EncodingSimple.Euc
import Yaskkserv2.MakeDictionary.DictionaryCreator

/-!
# `JisyoReader`

From the files of the jisyo to the merged entries.  The reader of a file takes the text line by
line; a line is skipped, or its candidates join those of its midashi.

A file is its bytes.  How many of them a read returns is not the program's to decide, nor is whether
a read fails once the file has begun to be read; an interrupted read is made again at once.
Warnings are printed only, so they are left out with the number of the line; but the text of a
warning is made before it is printed, and where that fails the reader fails.
-/

namespace Yaskkserv2

open Framework

def JISYO_ENCODING_DETECT_BUFFER_LENGTH : ℕ := 16 * 1024

/-- A jisyo file.  The read of `detect_jisyo_encoding` returns at most `detectLength` bytes.  The
next read of the `BufReader` returns at most one byte more than the first of `readLengths`; where
that list ends, a read returns what is left.  The read behind the last byte may fail. -/
structure JisyoFile where
  bytes : Bytes
  detectLength : ℕ := JISYO_ENCODING_DETECT_BUFFER_LENGTH
  readLengths : List ℕ := []
  fails : Bool := false
  deriving DecidableEq, Repr

namespace JisyoReader

/-! ## Reading a line -/

/-- What the reads of a `BufReader` return one after the other. -/
def fillsOf : List ℕ → Bytes → List Bytes
  | n :: readLengths, b :: bytes => (b :: bytes.take n) :: fillsOf readLengths (bytes.drop n)
  | [], b :: bytes => [b :: bytes]
  | _, [] => []

/-- `find_cr_or_lf`. -/
def findCrOrLf (buffer : Bytes) : Option ℕ := buffer.findIdx? fun c => c = LF ∨ c = CR

/-- `BufReaderSkk::read_until_skk_jisyo`: the line, or nothing where a read has failed, and what the
`fill_buf` calls to come return.  The first of these is what is left in the buffer. -/
def readUntilSkkJisyo (fails : Bool) : List Bytes → Option Bytes × List Bytes
  | [] => (if fails then none else some [], [])
  | available :: fills =>
    match findCrOrLf available with
    | some i => (some (available.take (i + 1)), available.drop (i + 1) :: fills)
    | none =>
      let (line, fills) := readUntilSkkJisyo fails fills
      (line.map (available ++ ·), fills)

/-! ## A line -/

/-- `JisyoReader::detect_jisyo_encoding`. -/
def detectJisyoEncoding (file : JisyoFile) : Result (Encoding × EncodingOptions) :=
  let readLength := min file.detectLength JISYO_ENCODING_DETECT_BUFFER_LENGTH
  let buffer := file.bytes.take readLength
  if buffer.length < JISYO_MINIMUM_LINE_LENGTH then .error .jisyoRead else detectEncoding buffer

/-- `JisyoReader::is_space_cr_lf_only`. -/
def isSpaceCrLfOnly (line : Bytes) : Bool := line.all fun v => v = SP ∨ v = CR ∨ v = LF

/-- `JisyoReader::is_skip_and_print_warning`. -/
def isSkipAndPrintWarning (chompedLine : Bytes) : Result Bool := do
  if chompedLine.isEmpty ∨ isSpaceCrLfOnly chompedLine then return true
  let first ← index chompedLine 0
  if first = SEMICOLON then return true
  if first = SP then return true
  if first = TAB then return true
  if chompedLine.length < JISYO_MINIMUM_LINE_LENGTH then return true
  if chompedLine.length > JISYO_MAXIMUM_LINE_LENGTH then return true
  match find [SP] chompedLine with
  | none => return true
  | some space =>
    if chompedLine.length < space + JISYO_MINIMUM_CANDIDATES_LENGTH then return true
    let next ← index chompedLine (space + 1)
    if next = SP then return true
    let tail ← sliceFrom chompedLine (space + 1)
    return (find [SLASH, SLASH] tail).isSome

variable (t : EncodingTables)

/-- `JisyoReader::get_line_string`. -/
def getLineString (line : Bytes) (jisyoEncoding : Encoding) : Result Bytes := do
  let text ← if jisyoEncoding = .Utf8 then pure line else Euc.decode t line
  if isUtf8 text then return text else .error .string

/-- `JisyoReader::encode_midashi_candidates`. -/
def encodeMidashiCandidates (midashiCandidates : Bytes × Bytes) (jisyoEncoding : Encoding)
    (outputEncoding : Option Encoding) : Result (Bytes × Bytes) := do
  let midashi ←
    if jisyoEncoding = .Euc ∨ outputEncoding = none then pure midashiCandidates.1
    else Euc.encode t midashiCandidates.1
  let candidates ←
    if outputEncoding = some .Euc ∧ jisyoEncoding = .Utf8 then Euc.encode t midashiCandidates.2
    else if outputEncoding = some .Utf8 ∧ jisyoEncoding = .Euc then
      Euc.decode t midashiCandidates.2
    else pure midashiCandidates.2
  return (midashi, candidates)

/-- The entries with one more line of a midashi. -/
def mergeEntry (jisyoEntriesMap : JisyoEntriesMap) (midashi candidates : Bytes) : JisyoEntriesMap :=
  match jisyoEntriesMap[midashi]? with
  | some stored =>
    jisyoEntriesMap.insert midashi (Candidates.mergeTrimmedSlashCandidates
      (Candidates.trimOneSlash stored) (Candidates.trimOneSlash candidates))
  | none => jisyoEntriesMap.insert midashi candidates

/-- `JisyoReader::update_jisyo_entries_map`. -/
def updateJisyoEntriesMap (resultJisyoEntriesMap : JisyoEntriesMap) (chompedLine : Bytes)
    (jisyoEncoding : Encoding) (outputEncoding : Option Encoding) : Result JisyoEntriesMap :=
  match Dictionary.getMidashiCandidates chompedLine with
  | .ok midashiCandidates => do
    let (midashi, candidates) ←
      encodeMidashiCandidates t midashiCandidates jisyoEncoding outputEncoding
    let removedDuplicatesCandidates := Candidates.removeDuplicatesBytes candidates
    if candidates ≠ removedDuplicatesCandidates then
      let _ ← getLineString t chompedLine jisyoEncoding
    return mergeEntry resultJisyoEntriesMap midashi removedDuplicatesCandidates
  | .error _ => do
    let _ ← getLineString t chompedLine jisyoEncoding
    return resultJisyoEntriesMap
  | .panic => .panic
  | .diverge => .diverge

/-! ## A file -/

/-- What the loop over the lines of a file carries. -/
structure LineState where
  resultJisyoEntriesMap : JisyoEntriesMap
  isLastCr : Bool := false
  fills : List Bytes

/-- What is left of a line without its terminator, or nothing for the LF of a CRLF. -/
def chompLine (isLastCr : Bool) (line : Bytes) : Result (Option Bytes) := do
  let first ← index line 0
  if isLastCr ∧ first = LF then
    if line.length = 1 then return none
    let chompedLine ← slice line 1 (line.length - 1)
    return some chompedLine
  else
    let chompedLine ← sliceTo line (line.length - 1)
    return some chompedLine

/-- A turn of the loop over the lines of a file. -/
def lineTurn (jisyoEncoding : Encoding) (outputEncoding : Option Encoding) (fails : Bool)
    (s : LineState) : Result (LineState ⊕ JisyoEntriesMap) :=
  match readUntilSkkJisyo fails s.fills with
  | (none, _) => .ok (.inr s.resultJisyoEntriesMap)
  | (some [], _) => .ok (.inr s.resultJisyoEntriesMap)
  | (some line, fills) => do
    match ← chompLine s.isLastCr line with
    | none => return .inl { s with fills := fills }
    | some chompedLine =>
      let last ← index line (line.length - 1)
      let isLastCr : Bool := last = CR
      if ← isSkipAndPrintWarning chompedLine then
        return .inl ⟨s.resultJisyoEntriesMap, isLastCr, fills⟩
      let resultJisyoEntriesMap ← updateJisyoEntriesMap t s.resultJisyoEntriesMap chompedLine
        jisyoEncoding outputEncoding
      return .inl ⟨resultJisyoEntriesMap, isLastCr, fills⟩

/-- The text of a file, from where its `BufReader` begins: `seek_skip_utf8_bom` reads three
bytes. -/
def skipUtf8Bom (bytes : Bytes) (jisyoEncodingOptions : EncodingOptions) : Result Bytes :=
  if jisyoEncodingOptions = .Bom then
    if 3 ≤ bytes.length then .ok (bytes.drop 3) else .error .io
  else .ok bytes

/-- One file of `get_merged_jisyo_entries_map_core`.  Every turn of the loop takes at least one byte
of the text. -/
def readJisyo (outputEncoding : Option Encoding) (resultJisyoEntriesMap : JisyoEntriesMap)
    (file : JisyoFile) : Result JisyoEntriesMap := do
  let (jisyoEncoding, jisyoEncodingOptions) ← detectJisyoEncoding file
  let text ← skipUtf8Bom file.bytes jisyoEncodingOptions
  loop (lineTurn t jisyoEncoding outputEncoding file.fails) (text.length + 1)
    { resultJisyoEntriesMap := resultJisyoEntriesMap, fills := fillsOf file.readLengths text }

/-- `JisyoReader::get_merged_jisyo_entries_map_core`, of files that can be opened. -/
def getMergedJisyoEntriesMapCore (jisyos : List JisyoFile) (outputEncoding : Option Encoding) :
    Result JisyoEntriesMap :=
  jisyos.foldlM (readJisyo t outputEncoding) ∅

/-- `JisyoReader::get_merged_jisyo_entries_map`. -/
def getMergedJisyoEntriesMap (jisyos : List JisyoFile) (outputEncoding : Encoding) :
    Result JisyoEntriesMap :=
  getMergedJisyoEntriesMapCore t jisyos (some outputEncoding)

/-- `JisyoReader::get_merged_jisyo_entries_map_no_encoding_conversion`. -/
def getMergedJisyoEntriesMapNoEncodingConversion (jisyos : List JisyoFile) :
    Result JisyoEntriesMap :=
  getMergedJisyoEntriesMapCore t jisyos none

end JisyoReader

end Yaskkserv2
