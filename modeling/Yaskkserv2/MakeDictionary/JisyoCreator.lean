import Yaskkserv2.Candidates
import Yaskkserv2.EncodingSimple.Euc
import Yaskkserv2.MakeDictionary.DictionaryCreator
import Yaskkserv2.Server.DictionaryReader

/-!
# `JisyoCreator`

From a loaded dictionary, or from the cache of Google candidates, to the text of a jisyo.  The units
of a dictionary are parsed again, and their entries are put into two maps, by whether the midashi is
okuri-ari.
-/

namespace Yaskkserv2

open Framework

namespace JisyoCreator

/-! ## Writing -/

/-- The first line of a jisyo, which names its encoding. -/
def cookie : Encoding → Bytes
  | .Euc => ascii ";; -*- mode: fundamental; coding: euc-jis-2004 -*-\n"
  | .Utf8 => ascii ";; -*- mode: fundamental; coding: utf-8 -*-\n"

/-- The line of an entry. -/
def writeEntry (midashiCandidates : Bytes × Bytes) : Bytes :=
  DictionaryCreator.entryLine midashiCandidates.1 midashiCandidates.2

/-- `JisyoCreator::write`: what is written. -/
def write (outputJisyoEncoding : Encoding) (okuriAriMap okuriNasiMap : JisyoEntriesMap) : Bytes :=
  cookie outputJisyoEncoding ++
    (ascii ";; yaskkserv2 dictionary\n" ++
    (ascii ";; okuri-ari entries.\n" ++
    (okuriAriMap.toList.reverse.flatMap writeEntry ++
    (ascii ";; okuri-nasi entries.\n" ++
    okuriNasiMap.toList.flatMap writeEntry))))

/-! ## Reading the dictionary -/

variable (t : EncodingTables)

/-- The two maps of a jisyo. -/
structure OkuriMaps where
  okuriAriMap : JisyoEntriesMap := ∅
  okuriNasiMap : JisyoEntriesMap := ∅

def OkuriMaps.insert (maps : OkuriMaps) (isOkuriAri : Bool) (midashi candidates : Bytes) :
    OkuriMaps :=
  if isOkuriAri then { maps with okuriAriMap := maps.okuriAriMap.insert midashi candidates }
  else { maps with okuriNasiMap := maps.okuriNasiMap.insert midashi candidates }

/-- The candidates of the dictionary in the encoding of the jisyo. -/
def convertCandidates (outputJisyoEncoding dictionaryEncoding : Encoding)
    (candidatesSlice : Bytes) : Result Bytes :=
  if outputJisyoEncoding = .Euc ∧ dictionaryEncoding = .Utf8 then Euc.encode t candidatesSlice
  else if outputJisyoEncoding = .Utf8 ∧ dictionaryEncoding = .Euc then
    Euc.decode t candidatesSlice
  else .ok candidatesSlice

/-- The midashi of the dictionary, which is EUC, in the encoding of the jisyo. -/
def convertMidashi (outputJisyoEncoding : Encoding) (eucMidashiSlice : Bytes) : Result Bytes :=
  if outputJisyoEncoding = .Euc then .ok eucMidashiSlice else Euc.decode t eucMidashiSlice

/-- A turn of the loop of `get_okuri_ari_nasi_maps`. -/
def getOkuriAriNasiMapsTurn (outputJisyoEncoding dictionaryEncoding : Encoding) (buffer : Bytes)
    (s : ℕ × OkuriMaps) : Result ((ℕ × OkuriMaps) ⊕ OkuriMaps) := do
  let tail ← sliceFrom buffer s.1
  match find [SP] tail with
  | none => return .inr s.2
  | some spaceFind =>
    let tail ← sliceFrom buffer (s.1 + spaceFind)
    match find [LF] tail with
    | none => .error .brokenDictionary
    | some lfFind =>
      let candidatesSlice ← slice buffer (s.1 + spaceFind + 1) (s.1 + spaceFind + lfFind)
      let candidates ← convertCandidates t outputJisyoEncoding dictionaryEncoding candidatesSlice
      let eucMidashiSlice ← slice buffer (s.1 + 1) (s.1 + spaceFind)
      let midashi ← convertMidashi t outputJisyoEncoding eucMidashiSlice
      return .inl (s.1 + (spaceFind + lfFind),
        s.2.insert (DictionaryReader.isOkuriAri eucMidashiSlice) midashi candidates)

/-- `JisyoCreator::get_okuri_ari_nasi_maps`. -/
def getOkuriAriNasiMaps (outputJisyoEncoding dictionaryEncoding : Encoding) (buffer : Bytes)
    (maps : OkuriMaps) : Result OkuriMaps :=
  loop (getOkuriAriNasiMapsTurn t outputJisyoEncoding dictionaryEncoding buffer)
    (buffer.length + 1) (0, maps)

/-- `JisyoCreator::read_dictionary_block_information`, of the file of the dictionary. -/
def readDictionaryBlockInformation (outputJisyoEncoding : Encoding) (onMemory : OnMemory)
    (file : Bytes) (maps : OkuriMaps) (information : DictionaryBlockInformation) :
    Result OkuriMaps := do
  let buffer ← readExact file
    (onMemory.dictionaryFixedHeader.blocksOffset.toNat + information.offset.toNat)
    information.length.toNat
  let dictionaryEncoding ← Encoding.fromU32 onMemory.dictionaryFixedHeader.encoding
  getOkuriAriNasiMaps t outputJisyoEncoding dictionaryEncoding buffer maps

/-- `JisyoCreator::create`, of a loaded dictionary.  The values of the hash map come in an order
that is not the program's to decide. -/
def create (outputJisyoEncoding : Encoding) (onMemory : OnMemory)
    (indexMapValues : List (List DictionaryBlockInformation)) (file : Bytes) : Result Bytes := do
  let maps ← (indexMapValues ++ onMemory.indexAsciiHiraganaVec).flatten.foldlM
    (readDictionaryBlockInformation t outputJisyoEncoding onMemory file) {}
  return write outputJisyoEncoding maps.okuriAriMap maps.okuriNasiMap

/-! ## Reading the cache -/

/-- `unwrap`. -/
def unwrap {α : Type} : Result α → Result α
  | .error _ => .panic
  | x => x

/-- The entry of a jisyo from an entry of the cache, without its time. -/
def cacheEntry (outputJisyoEncoding : Encoding) (keyValue : Bytes × List Bytes) :
    Result (Bytes × Bytes) := do
  let utf8Candidates := (keyValue.2.drop 1).flatMap fun v =>
    Candidates.quoteAndAddPrefix v (some SLASH)
  if outputJisyoEncoding = .Euc then
    let midashi ← unwrap (Euc.encode t keyValue.1)
    let candidates ← unwrap (Euc.encode t utf8Candidates)
    return (midashi, candidates ++ [SLASH])
  else return (keyValue.1, utf8Candidates ++ [SLASH])

/-- `JisyoCreator::create_from_cache`, of the entries that `GoogleCache::read` returns. -/
def createFromCache (outputJisyoEncoding : Encoding) (cache : List (Bytes × List Bytes)) :
    Result Bytes := do
  let entries ← cache.mapM (cacheEntry t outputJisyoEncoding)
  let okuriNasiMap := entries.foldl
    (fun (m : JisyoEntriesMap) entry => m.insert entry.1 entry.2) ∅
  return write outputJisyoEncoding ∅ okuriNasiMap

end JisyoCreator

end Yaskkserv2
