import Yaskkserv2.Framework.Product
import Yaskkserv2.Server.Request

/-!
# Split conversions

A response of several segments stands for the conversions that take one candidate from each
segment.  The three nests of loops are one enumeration of the choices
(`collectResult_response_of_le_four`), in the order of the positions; a response of five or more
segments is answered with the candidates of its first segment alone.  So the result is the list of
the whole conversions exactly under `IsMerged` (`isWholeConversion_iff`).
-/

namespace Yaskkserv2

open Framework

namespace Request

/-- A segment of a response. -/
structure Segment where
  reading : Bytes
  candidates : List Bytes

def Segment.toJson (segment : Segment) : JsonValue :=
  .Array [.String segment.reading, .Array (segment.candidates.map .String)]

/-- The tree of a response with the given segments. -/
def response (segments : List Segment) : JsonValue := .Array (segments.map Segment.toJson)

/-! ## Whole conversions -/

/-- Whether the last reading ends in a lower-case letter. -/
def endsInLowercase (segments : List Segment) : Bool :=
  segments.getLast?.any fun segment => segment.reading.getLast?.any isAsciiLowercase

/-- The text of a conversion, from its parts: an okuri at the end is left to the client. -/
def wholeText (segments : List Segment) (parts : List Bytes) : Bytes :=
  if endsInLowercase segments then parts.dropLast.flatten else parts.flatten

/-- One candidate position for each segment. -/
def IsPosition (segments : List Segment) (p : List ℕ) : Prop :=
  List.Forall₂ (fun i segment => i < segment.candidates.length) p segments

/-- The candidates at a position. -/
def partsAt (segments : List Segment) (p : List ℕ) : List Bytes :=
  pick (segments.map Segment.candidates) p

/-- The result lists the conversions whose parts pass, in lexicographic order of their positions,
and is cut to its first elements. -/
def IsWholeConversion (insert : InsertOnlyCandidates) (segments : List Segment)
    (maxCandidatesLength : ℕ) (result : List Bytes) : Prop :=
  ∃ ps : List (List ℕ), ps.Pairwise (· < ·) ∧
    (∀ p, p ∈ ps ↔ IsPosition segments p ∧ shouldAdd (partsAt segments p) insert = true) ∧
    result = (ps.map fun p => wholeText segments (partsAt segments p)).take maxCandidatesLength

/-! ## When the segments are merged -/

/-- The candidates of a segment that pass. -/
def Segment.kept (insert : InsertOnlyCandidates) (segment : Segment) : List Bytes :=
  segment.candidates.filter fun candidate => shouldAdd [candidate] insert

/-- The combinations whose parts pass. -/
def keptChoices (insert : InsertOnlyCandidates) (segments : List Segment) : List (List Bytes) :=
  choices (segments.map (Segment.kept insert))

/-- When a response is merged: up to four segments, the last of them with a reading, unless the
candidates it adds are empty; of more segments, the ones behind the first add nothing. -/
def IsMerged (insert : InsertOnlyCandidates) : List Segment → Prop
  | [] => True
  | first :: rest =>
    if rest.length ≤ 3 then
      (∀ segment ∈ (first :: rest).getLast?, segment.reading ≠ []) ∨
        ∀ parts ∈ keptChoices insert (first :: rest), parts.getLast? = some []
    else
      first.kept insert = [] ∨ (keptChoices insert rest).map (wholeText rest) = [[]]

variable {insert : InsertOnlyCandidates} {segments : List Segment}

/-- Parts pass when each of them does. -/
lemma shouldAdd_eq_all (parts : List Bytes) :
    shouldAdd parts insert = parts.all fun part => shouldAdd [part] insert := by
  simp only [shouldAdd, List.all_cons, List.all_nil, Bool.and_true]

lemma keptChoices_eq_filter :
    keptChoices insert segments =
      (choices (segments.map Segment.candidates)).filter fun parts => shouldAdd parts insert := by
  have hall : (fun parts => shouldAdd parts insert) =
      fun parts : List Bytes => parts.all fun part => shouldAdd [part] insert :=
    funext shouldAdd_eq_all
  rw [hall, filter_choices, List.map_map]
  rfl

/-- The positions of the combinations that pass, in order. -/
def keptPositions (insert : InsertOnlyCandidates) (segments : List Segment) : List (List ℕ) :=
  (positions (segments.map fun segment => segment.candidates.length)).filter fun p =>
    shouldAdd (partsAt segments p) insert

lemma pairwise_keptPositions : (keptPositions insert segments).Pairwise (· < ·) :=
  (pairwise_positions _).filter _

lemma mem_keptPositions {p : List ℕ} :
    p ∈ keptPositions insert segments ↔
      IsPosition segments p ∧ shouldAdd (partsAt segments p) insert = true := by
  rw [keptPositions, List.mem_filter, mem_positions, List.forall₂_map_right_iff]
  rfl

lemma map_partsAt_keptPositions :
    (keptPositions insert segments).map (partsAt segments) = keptChoices insert segments := by
  have hlengths : segments.map (fun segment => segment.candidates.length) =
      (segments.map Segment.candidates).map List.length := by
    rw [List.map_map]
    rfl
  rw [keptChoices_eq_filter, choices_eq_map_positions, List.filter_map, keptPositions, hlengths]
  rfl

/-- The whole conversions are the texts of the combinations that pass. -/
lemma isWholeConversion_iff_eq_take {maxCandidatesLength : ℕ} {result : List Bytes} :
    IsWholeConversion insert segments maxCandidatesLength result ↔
      result = ((keptChoices insert segments).map (wholeText segments)).take
        maxCandidatesLength := by
  have htexts : (keptPositions insert segments).map
      (fun p => wholeText segments (partsAt segments p)) =
        (keptChoices insert segments).map (wholeText segments) := by
    rw [← map_partsAt_keptPositions, List.map_map]
    rfl
  constructor
  · rintro ⟨ps, hsorted, hmem, rfl⟩
    have hps : ps = keptPositions insert segments :=
      hsorted.eq_of_mem_iff pairwise_keptPositions fun p => (hmem p).trans mem_keptPositions.symm
    rw [hps, htexts]
  · rintro rfl
    exact ⟨keptPositions insert segments, pairwise_keptPositions, fun p => mem_keptPositions,
      by rw [htexts]⟩

/-- A result that is right for every bound is the whole list. -/
lemma forall_isWholeConversion_iff {json : JsonValue} :
    (∀ maxCandidatesLength, IsWholeConversion insert segments maxCandidatesLength
      (getGoogleJapaneseInputResult json maxCandidatesLength insert)) ↔
      collectResult json insert = (keptChoices insert segments).map (wholeText segments) := by
  simp only [isWholeConversion_iff_eq_take, getGoogleJapaneseInputResult_eq_take]
  constructor
  · intro h
    set whole := (keptChoices insert segments).map (wholeText segments)
    have hlong := h ((collectResult json insert).length + whole.length)
    rwa [List.take_of_length_le (by omega), List.take_of_length_le (by omega)] at hlong
  · intro h maxCandidatesLength
    rw [h]

/-! ## The nests of loops -/

/-- The text that the loops push. -/
def pushedText (reading : Bytes) (parts : List Bytes) : Bytes :=
  if shouldAddTailCandidates reading then parts.flatten else parts.dropLast.flatten

/-- What the innermost body pushes. -/
def pushed (insert : InsertOnlyCandidates) (reading : Bytes) (parts : List Bytes) : List Bytes :=
  if shouldAdd parts insert then [pushedText reading parts] else []

lemma forEachString_strings (candidates : List Bytes) (body : Bytes → List Bytes) :
    forEachString (.Array (candidates.map .String)) body = candidates.flatMap body := by
  simp only [forEachString, JsonValue.members, convertJsonStrToBytes, JsonValue.asStr,
    List.flatMap_map]

@[simp] lemma get_response (segments : List Segment) (i : ℕ) :
    (response segments).get i = (segments[i]?.map Segment.toJson).getD .Null := by
  simp only [JsonValue.get, response, JsonValue.members, List.getD_eq_getElem?_getD,
    List.getElem?_map]

@[simp] lemma get_toJson_zero (segment : Segment) :
    segment.toJson.get 0 = .String segment.reading := rfl

@[simp] lemma get_toJson_one (segment : Segment) :
    segment.toJson.get 1 = .Array (segment.candidates.map .String) := rfl

/-- The loops visit the choices, and push the texts of those that pass. -/
lemma flatMap_pushed (reading : Bytes) :
    (choices (segments.map Segment.candidates)).flatMap (pushed insert reading) =
      (keptChoices insert segments).map (pushedText reading) := by
  rw [keptChoices_eq_filter]
  exact flatMap_ite_singleton _ (fun parts => shouldAdd parts insert) (pushedText reading)

/-- The body of the innermost loop, as the source writes it. -/
lemma pushed_concat (insert : InsertOnlyCandidates) (reading : Bytes) (front : List Bytes)
    (last : Bytes) :
    pushed insert reading (front ++ [last]) =
      if shouldAdd (front ++ [last]) insert then
        [front.flatten ++ if shouldAddTailCandidates reading then last else []]
      else [] := by
  by_cases hreading : shouldAddTailCandidates reading = true <;>
    simp [pushed, pushedText, hreading]

lemma getGoogleJapaneseInputResult2_response (s₀ s₁ : Segment) :
    getGoogleJapaneseInputResult2 (response [s₀, s₁]) insert =
      (keptChoices insert [s₀, s₁]).map (pushedText s₁.reading) := by
  have hbody (b₀ b₁ : Bytes) := pushed_concat insert s₁.reading [b₀] b₁
  simp only [List.singleton_append, List.flatten_singleton] at hbody
  rw [← flatMap_pushed]
  simp only [List.map_cons, List.map_nil, flatMap_choices_cons, flatMap_choices_nil, hbody]
  simp only [getGoogleJapaneseInputResult2, get_response, List.getElem?_cons_zero,
    List.getElem?_cons_succ, Option.map_some, Option.getD_some, get_toJson_zero, get_toJson_one,
    convertJsonStrToBytes, JsonValue.asStr, forEachString_strings]

lemma getGoogleJapaneseInputResult3_response (s₀ s₁ s₂ : Segment) :
    getGoogleJapaneseInputResult3 (response [s₀, s₁, s₂]) insert =
      (keptChoices insert [s₀, s₁, s₂]).map (pushedText s₂.reading) := by
  have hbody (b₀ b₁ b₂ : Bytes) := pushed_concat insert s₂.reading [b₀, b₁] b₂
  simp only [List.cons_append, List.nil_append, List.flatten_cons, List.flatten_nil,
    List.append_nil] at hbody
  rw [← flatMap_pushed]
  simp only [List.map_cons, List.map_nil, flatMap_choices_cons, flatMap_choices_nil, hbody]
  simp only [getGoogleJapaneseInputResult3, get_response, List.getElem?_cons_zero,
    List.getElem?_cons_succ, Option.map_some, Option.getD_some, get_toJson_zero, get_toJson_one,
    convertJsonStrToBytes, JsonValue.asStr, forEachString_strings]

lemma getGoogleJapaneseInputResult4_response (s₀ s₁ s₂ s₃ : Segment) :
    getGoogleJapaneseInputResult4 (response [s₀, s₁, s₂, s₃]) insert =
      (keptChoices insert [s₀, s₁, s₂, s₃]).map (pushedText s₃.reading) := by
  have hbody (b₀ b₁ b₂ b₃ : Bytes) := pushed_concat insert s₃.reading [b₀, b₁, b₂] b₃
  simp only [List.cons_append, List.nil_append, List.flatten_cons, List.flatten_nil,
    List.append_nil, ← List.append_assoc] at hbody
  rw [← flatMap_pushed]
  simp only [List.map_cons, List.map_nil, flatMap_choices_cons, flatMap_choices_nil, hbody]
  simp only [getGoogleJapaneseInputResult4, get_response, List.getElem?_cons_zero,
    List.getElem?_cons_succ, Option.map_some, Option.getD_some, get_toJson_zero, get_toJson_one,
    convertJsonStrToBytes, JsonValue.asStr, forEachString_strings]

/-- Up to four segments are merged, with the last candidate as the loops decide it. -/
lemma collectResult_response_of_le_four {last : Segment} (hn : 2 ≤ segments.length)
    (hfour : segments.length ≤ 4) (hlast : segments.getLast? = some last) :
    collectResult (response segments) insert =
      (keptChoices insert segments).map (pushedText last.reading) := by
  rcases segments with _ | ⟨s₀, _ | ⟨s₁, _ | ⟨s₂, _ | ⟨s₃, _ | ⟨s₄, rest⟩⟩⟩⟩⟩
  · simp at hn
  · simp at hn
  · obtain rfl : s₁ = last := by simpa using hlast
    exact getGoogleJapaneseInputResult2_response s₀ s₁
  · obtain rfl : s₂ = last := by simpa using hlast
    exact getGoogleJapaneseInputResult3_response s₀ s₁ s₂
  · obtain rfl : s₃ = last := by simpa using hlast
    exact getGoogleJapaneseInputResult4_response s₀ s₁ s₂ s₃
  · simp only [List.length_cons] at hfour
    omega

/-- Of five segments or more the first alone is read. -/
lemma collectResult_response_of_four_lt {first : Segment} {rest : List Segment}
    (hfour : 3 < rest.length) :
    collectResult (response (first :: rest)) insert = first.kept insert := by
  have hlen : (response (first :: rest)).len = rest.length + 1 := by
    simp [response, JsonValue.len]
  have hpush (candidates : List Bytes) :
      (candidates.flatMap fun bytes => if shouldAdd [bytes] insert then [bytes] else []) =
        candidates.filter fun candidate => shouldAdd [candidate] insert := by
    rw [flatMap_ite_singleton _ (fun candidate => shouldAdd [candidate] insert) fun bytes => bytes,
      List.map_id']
  rw [collectResult, hlen]
  split
  · omega
  · omega
  · omega
  · rw [get_response, List.getElem?_cons_zero, Option.map_some, Option.getD_some, get_toJson_one,
      forEachString_strings, hpush]
    rfl

/-! ## When the result is the whole conversion -/

/-- The loops and the whole conversion treat the last part alike, unless the last reading is
empty. -/
lemma pushedText_eq_wholeText_iff {last : Segment} {parts : List Bytes}
    (hlast : segments.getLast? = some last) (hparts : parts ≠ []) :
    pushedText last.reading parts = wholeText segments parts ↔
      last.reading ≠ [] ∨ parts.getLast? = some [] := by
  obtain ⟨front, part, rfl⟩ := (List.eq_nil_or_concat' parts).resolve_left hparts
  have hends : endsInLowercase segments = last.reading.getLast?.any isAsciiLowercase := by
    rw [endsInLowercase, hlast, Option.any_some]
  rw [pushedText, shouldAddTailCandidates, wholeText, hends]
  cases hreading : last.reading.getLast? with
  | none =>
    have hempty : last.reading = [] := List.getLast?_eq_none_iff.mp hreading
    simp [hempty]
  | some b =>
    have hne : last.reading ≠ [] := by
      intro hempty
      simp [hempty] at hreading
    cases hb : isAsciiLowercase b <;> simp [hne, hb]

lemma length_of_mem_keptChoices {parts : List Bytes} (h : parts ∈ keptChoices insert segments) :
    parts.length = segments.length := by
  rw [length_of_mem_choices h, List.length_map]

/-- A combination's text is the candidate of the first segment and the text of the others. -/
lemma wholeText_cons {first : Segment} {rest : List Segment} {part : Bytes} {parts : List Bytes}
    (hrest : rest ≠ []) (hparts : parts ≠ []) :
    wholeText (first :: rest) (part :: parts) = part ++ wholeText rest parts := by
  have hends : endsInLowercase (first :: rest) = endsInLowercase rest := by
    rw [endsInLowercase, endsInLowercase, List.getLast?_cons_of_ne_nil hrest]
  rw [wholeText, wholeText, hends]
  split
  · rw [List.dropLast_cons_of_ne_nil hparts, List.flatten_cons]
  · rw [List.flatten_cons]

lemma map_wholeText_keptChoices_cons {first : Segment} {rest : List Segment} (hrest : rest ≠ []) :
    (keptChoices insert (first :: rest)).map (wholeText (first :: rest)) =
      (first.kept insert).flatMap fun part =>
        ((keptChoices insert rest).map (wholeText rest)).map fun text => part ++ text := by
  rw [keptChoices, List.map_cons, choices, List.map_flatMap]
  congr 1
  funext part
  rw [List.map_map, List.map_map]
  refine List.map_congr_left fun parts hparts => ?_
  have hne : parts ≠ [] := by
    have hlength := length_of_mem_keptChoices hparts
    exact List.length_pos_iff.mp (hlength ▸ List.length_pos_iff.mpr hrest)
  exact wholeText_cons hrest hne

lemma collectResult_response_iff_of_le_four (hn : 2 ≤ segments.length)
    (hfour : segments.length ≤ 4) :
    collectResult (response segments) insert =
        (keptChoices insert segments).map (wholeText segments) ↔
      (∀ segment ∈ segments.getLast?, segment.reading ≠ []) ∨
        ∀ parts ∈ keptChoices insert segments, parts.getLast? = some [] := by
  have hne : segments ≠ [] := List.length_pos_iff.mp (by omega)
  have hlast : segments.getLast? = some (segments.getLast hne) := List.getLast?_eq_some_getLast hne
  rw [collectResult_response_of_le_four hn hfour hlast, List.map_inj_left, hlast]
  simp only [Option.mem_some_iff, forall_eq']
  rw [← forall_or_left]
  refine forall_congr' fun parts => ?_
  rw [← forall_or_left]
  refine forall_congr' fun hparts => ?_
  have hpos := length_of_mem_keptChoices hparts
  exact pushedText_eq_wholeText_iff hlast (List.length_pos_iff.mp (by omega))

/-- Every result of a response is cut from the list of its whole conversions exactly when the
segments are merged. -/
theorem isWholeConversion_iff (insert : InsertOnlyCandidates) (segments : List Segment)
    (hn : 2 ≤ segments.length) :
    (∀ maxCandidatesLength, IsWholeConversion insert segments maxCandidatesLength
      (getGoogleJapaneseInputResult (response segments) maxCandidatesLength insert)) ↔
      IsMerged insert segments := by
  rw [forall_isWholeConversion_iff]
  cases segments with
  | nil => simp at hn
  | cons first rest =>
    rw [List.length_cons] at hn
    have hrest : rest ≠ [] := List.length_pos_iff.mp (by omega)
    rw [IsMerged]
    split
    · next hthree =>
      exact collectResult_response_iff_of_le_four (by rw [List.length_cons]; omega)
        (by rw [List.length_cons]; omega)
    · next hthree =>
      rw [collectResult_response_of_four_lt (by omega), map_wholeText_keptChoices_cons hrest]
      exact eq_flatMap_append_iff

/-- A hiragana of the row of `0xe3 0x81`, converted to a kanji or left as it is. -/
def kanaSegment (b : UInt8) : Segment := ⟨[0xe3, 0x81, b], [[0xe4, 0xb8, b], [0xe3, 0x81, b]]⟩

/-- Two segments, with the candidates in hiragana left out. -/
theorem isWholeConversion_two :
    2 ≤ [kanaSegment 0x82, kanaSegment 0x84].length ∧
    ∀ maxCandidatesLength,
      IsWholeConversion ⟨false, true, true⟩ [kanaSegment 0x82, kanaSegment 0x84]
        maxCandidatesLength (getGoogleJapaneseInputResult
          (response [kanaSegment 0x82, kanaSegment 0x84]) maxCandidatesLength
          ⟨false, true, true⟩) := by
  have hmerged : IsMerged ⟨false, true, true⟩ [kanaSegment 0x82, kanaSegment 0x84] :=
    Or.inl (by simp [kanaSegment])
  exact ⟨Nat.le_refl 2, (isWholeConversion_iff ⟨false, true, true⟩
    [kanaSegment 0x82, kanaSegment 0x84] (Nat.le_refl 2)).mpr hmerged⟩

def fiveSegments : List Segment := [0x82, 0x84, 0x86, 0x88, 0x8a].map kanaSegment

/-- Five segments are answered with the candidates of the first. -/
theorem not_isWholeConversion_five :
    ¬ ∀ (insert : InsertOnlyCandidates) (segments : List Segment), 2 ≤ segments.length →
      ∀ maxCandidatesLength, IsWholeConversion insert segments maxCandidatesLength
        (getGoogleJapaneseInputResult (response segments) maxCandidatesLength insert) := by
  intro h
  have hresult := forall_isWholeConversion_iff.mp (h ⟨false, true, true⟩ fiveSegments (by decide))
  exact absurd hresult (by decide +kernel)

end Request

end Yaskkserv2
