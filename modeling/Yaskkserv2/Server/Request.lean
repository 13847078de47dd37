import Yaskkserv2.Skk

/-!
# Requests to Google Japanese Input

`src/skk/yaskkserv2/request.rs`: what the server makes of a response.  A response is a tree that
the JSON parser delivers; each of its segments is a reading and a list of candidates.  The nest of
loops over the segments is written out for two, three and four of them, as in the source.
-/

namespace Yaskkserv2

/-- The tree of a JSON text.  A number is only told apart from the other values. -/
inductive JsonValue where
  | Null
  | String (text : Bytes)
  | Number
  | Boolean (value : Bool)
  | Object (members : List (Bytes × JsonValue))
  | Array (elements : List JsonValue)

namespace JsonValue

/-- `JsonValue::members`: the elements of an array, and nothing for any other value. -/
def members : JsonValue → List JsonValue
  | Array elements => elements
  | _ => []

/-- `JsonValue::len`. -/
def len : JsonValue → ℕ
  | Array elements => elements.length
  | Object members => members.length
  | _ => 0

def isArray : JsonValue → Bool
  | Array _ => true
  | _ => false

/-- `json[index]`, which is `Null` where there is no such element. -/
def get (json : JsonValue) (index : ℕ) : JsonValue := json.members.getD index Null

/-- `JsonValue::as_str`. -/
def asStr : JsonValue → Option Bytes
  | String text => some text
  | _ => none

end JsonValue

/-- The settings that leave candidates of one syllabary out. -/
structure InsertOnlyCandidates where
  isInsertHiraganaOnlyCandidate : Bool
  isInsertKatakanaOnlyCandidate : Bool
  isInsertHankakuKatakanaOnlyCandidate : Bool

namespace Request

/-! ## Candidates of one syllabary -/

def isUtf8Hiragana (letter₀ letter₁ letter₂ : UInt8) : Bool :=
  if letter₀ ≠ 0xe3 then false
  else if letter₁ = 0x81 then 0x81 ≤ letter₂ && letter₂ ≤ 0xbf
  else if letter₁ = 0x82 then
    if 0x9b ≤ letter₂ ∧ letter₂ ≤ 0x9e then true else 0x80 ≤ letter₂ && letter₂ ≤ 0x93
  else false

def isUtf8Katakana (letter₀ letter₁ letter₂ : UInt8) : Bool :=
  if letter₀ ≠ 0xe3 then false
  else if letter₁ = 0x82 then 0xa1 ≤ letter₂ && letter₂ ≤ 0xbf
  else if letter₁ = 0x83 then
    if 0xbb ≤ letter₂ ∧ letter₂ ≤ 0xbe then true else 0x80 ≤ letter₂ && letter₂ ≤ 0xb6
  else false

def isUtf8HankakuKatakana (letter₀ letter₁ letter₂ : UInt8) : Bool :=
  if letter₀ ≠ 0xef then false
  else if letter₁ = 0xbd then 0xa1 ≤ letter₂ && letter₂ ≤ 0xbf
  else if letter₁ = 0xbe then 0x80 ≤ letter₂ && letter₂ ≤ 0x9f
  else false

/-- The loop over the letters of a candidate, three bytes each. -/
def everyLetter (isLetter : UInt8 → UInt8 → UInt8 → Bool) : Bytes → Bool
  | letter₀ :: letter₁ :: letter₂ :: rest =>
    isLetter letter₀ letter₁ letter₂ && everyLetter isLetter rest
  | _ => true

/-- Whether the candidate consists of letters of one kind. -/
def isUtf8Only (isLetter : UInt8 → UInt8 → UInt8 → Bool) (candidate : Bytes) : Bool :=
  if candidate.length % 3 ≠ 0 ∨ candidate.length < 3 then false
  else everyLetter isLetter candidate

def isUtf8HiraganaOnly (candidate : Bytes) : Bool := isUtf8Only isUtf8Hiragana candidate
def isUtf8KatakanaOnly (candidate : Bytes) : Bool := isUtf8Only isUtf8Katakana candidate
def isUtf8HankakuKatakanaOnly (candidate : Bytes) : Bool :=
  isUtf8Only isUtf8HankakuKatakana candidate

/-- `u8::is_ascii_lowercase`. -/
def isAsciiLowercase (b : UInt8) : Bool := 0x61 ≤ b && b ≤ 0x7a

/-- `Request::should_add_tail_candidates`. -/
def shouldAddTailCandidates (midashiTail : Bytes) : Bool :=
  match midashiTail.getLast? with
  | none => false
  | some tailAscii => !isAsciiLowercase tailAscii

/-- `Request::should_add`. -/
def shouldAdd (candidates : List Bytes) (insert : InsertOnlyCandidates) : Bool :=
  candidates.all fun candidate =>
    !(!insert.isInsertHiraganaOnlyCandidate && isUtf8HiraganaOnly candidate) &&
    !(!insert.isInsertKatakanaOnlyCandidate && isUtf8KatakanaOnly candidate) &&
    !(!insert.isInsertHankakuKatakanaOnlyCandidate && isUtf8HankakuKatakanaOnly candidate)

/-! ## The candidates of a response -/

def convertJsonStrToBytes (json : JsonValue) : Option Bytes := json.asStr

/-- `for u in json.members() { if let Some(b) = convert_json_str_to_bytes(u) { .. } }`, with what
the body pushes. -/
def forEachString (json : JsonValue) (body : Bytes → List Bytes) : List Bytes :=
  json.members.flatMap fun u =>
    match convertJsonStrToBytes u with
    | some bytes => body bytes
    | none => []

/-- `Request::get_google_japanese_input_result_2`. -/
def getGoogleJapaneseInputResult2 (json : JsonValue) (insert : InsertOnlyCandidates) :
    List Bytes :=
  match convertJsonStrToBytes ((json.get 1).get 0) with
  | none => []
  | some midashiTail =>
    forEachString ((json.get 0).get 1) fun b₀ =>
    forEachString ((json.get 1).get 1) fun b₁ =>
      if shouldAdd [b₀, b₁] insert then
        [b₀ ++ if shouldAddTailCandidates midashiTail then b₁ else []]
      else []

/-- `Request::get_google_japanese_input_result_3`. -/
def getGoogleJapaneseInputResult3 (json : JsonValue) (insert : InsertOnlyCandidates) :
    List Bytes :=
  match convertJsonStrToBytes ((json.get 2).get 0) with
  | none => []
  | some midashiTail =>
    forEachString ((json.get 0).get 1) fun b₀ =>
    forEachString ((json.get 1).get 1) fun b₁ =>
    forEachString ((json.get 2).get 1) fun b₂ =>
      if shouldAdd [b₀, b₁, b₂] insert then
        [b₀ ++ b₁ ++ if shouldAddTailCandidates midashiTail then b₂ else []]
      else []

/-- `Request::get_google_japanese_input_result_4`. -/
def getGoogleJapaneseInputResult4 (json : JsonValue) (insert : InsertOnlyCandidates) :
    List Bytes :=
  match convertJsonStrToBytes ((json.get 3).get 0) with
  | none => []
  | some midashiTail =>
    forEachString ((json.get 0).get 1) fun b₀ =>
    forEachString ((json.get 1).get 1) fun b₁ =>
    forEachString ((json.get 2).get 1) fun b₂ =>
    forEachString ((json.get 3).get 1) fun b₃ =>
      if shouldAdd [b₀, b₁, b₂, b₃] insert then
        [b₀ ++ b₁ ++ b₂ ++ if shouldAddTailCandidates midashiTail then b₃ else []]
      else []

/-- The candidates before the list is cut: for a number of segments other than two, three and four
those of the first segment. -/
def collectResult (json : JsonValue) (insert : InsertOnlyCandidates) : List Bytes :=
  match json.len with
  | 2 => getGoogleJapaneseInputResult2 json insert
  | 3 => getGoogleJapaneseInputResult3 json insert
  | 4 => getGoogleJapaneseInputResult4 json insert
  | _ => forEachString ((json.get 0).get 1) fun bytes =>
      if shouldAdd [bytes] insert then [bytes] else []

/-- `Request::get_google_japanese_input_result`. -/
def getGoogleJapaneseInputResult (json : JsonValue) (maxCandidatesLength : ℕ)
    (insert : InsertOnlyCandidates) : List Bytes :=
  let result := collectResult json insert
  if maxCandidatesLength < result.length then result.take maxCandidatesLength else result

/-- `Request::request_google_japanese_input`, of what the request and the parser deliver. -/
def requestGoogleJapaneseInput (parsed : Result JsonValue) (maxCandidatesLength : ℕ)
    (insert : InsertOnlyCandidates) : Result (List Bytes) := do
  let json ← parsed
  let result :=
    if json.isArray && (json.get 0).isArray && decide (2 ≤ (json.get 0).len) then
      getGoogleJapaneseInputResult json maxCandidatesLength insert
    else []
  if result = [] then .error .request else return result

lemma getGoogleJapaneseInputResult_eq_take (json : JsonValue) (maxCandidatesLength : ℕ)
    (insert : InsertOnlyCandidates) :
    getGoogleJapaneseInputResult json maxCandidatesLength insert =
      (collectResult json insert).take maxCandidatesLength := by
  simp only [getGoogleJapaneseInputResult]
  split
  · rfl
  · next h => rw [List.take_of_length_le (Nat.le_of_not_lt h)]

end Request

end Yaskkserv2
