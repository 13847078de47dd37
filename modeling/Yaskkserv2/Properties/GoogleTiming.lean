import Yaskkserv2.Properties.Answers
import Yaskkserv2.Properties.Delimiters
import Yaskkserv2.Properties.Quoting
import Yaskkserv2.Properties.RepeatedWords

/-!
# When Google is asked

The timing of Google is a setting: before the dictionary, behind it, only where the dictionary has
nothing, or never.  Each of these is a path of its own through `read_candidates`, with Google's
candidates as the base of the merge or as what is merged into it.

The timing changes the order of the candidates and nothing else (`readCandidates_timings`).  What
this rests on is that quoted candidates have no semicolon, and that none comes up when they are
converted to the encoding of the dictionary: so Google annotates nothing, and a spelling of the
dictionary is never lost.
-/

namespace Yaskkserv2

open Framework Dictionary DictionaryCreator Candidates

namespace DictionaryReader

/-- The reader of a server that asks Google at another time. -/
def withTiming (r : DictionaryReader) (timing : GoogleTiming) : DictionaryReader :=
  { r with config := { r.config with googleTiming := timing } }

/-- The text of an answer. -/
def answerOf (cs : List Bytes) : Bytes := if cs = [] then [0x31] else [0x31] ++ delimited SLASH cs

/-- A candidate of Google as it gets into an answer: quoted, and in the encoding of the
dictionary. -/
def convertCandidate (encoding : Encoding) (v : Bytes) : Bytes :=
  if encoding = .Euc then Euc.encoded EncodingTables.shippedTables (quote v) else quote v

/-! ## The leg of Google -/

lemma not_mem_convertCandidate {d : UInt8} (hd : IsDelimiter d) (hseparator : Euc.IsSeparator d)
    (encoding : Encoding) (v : Bytes) : d ∉ convertCandidate encoding v := by
  rw [convertCandidate]
  split
  · exact Euc.not_mem_encoded hseparator (not_mem_quote hd v)
  · exact not_mem_quote hd v

lemma quote_ne_nil_of_convert {encoding : Encoding} {v : Bytes}
    (h : convertCandidate encoding v ≠ []) : quote v ≠ [] := by
  intro hnil
  rw [convertCandidate, hnil] at h
  split at h
  · exact h (translit_nil _)
  · exact h rfl

/-- What remains of the quoted candidates once the slash before the first one is trimmed. -/
lemma trimOneSlash_quotedCandidates_eq {google : List Bytes} (hne : google ≠ [])
    (hquote : ∀ v ∈ google, quote v ≠ []) :
    trimOneSlash (quotedCandidates google) = [SLASH].intercalate (google.map quote) := by
  have hsplit := trimOneSlash_quotedCandidates hne fun v hv hnil => hquote v hv <| by
    -- a text of line ends alone is quoted to nothing
    rw [List.filter_eq_nil_iff] at hnil
    refine List.flatMap_eq_nil_iff.mpr fun b hb => if_pos ?_
    have hb := hnil b hb
    simp only [decide_eq_true_eq, not_and_or, not_not] at hb
    exact hb
  rw [← hsplit, List.intercalate_splitOn]

section Leg

variable {r : DictionaryReader} (world : GoogleWorld) {cache : GoogleCacheBTreeMap}
  {midashi : Bytes}

/-- Where Google does not answer, the result stays as it is. -/
lemma ignoreGoogleError_of_fails
    (h : ∀ google, r.requestCandidates world cache (Euc.decoded r.tables midashi) = .ok google →
      google = []) (asks : Bool) (result : Bytes) :
    r.ignoreGoogleError world asks cache midashi result = .ok (result, cache) := by
  cases asks with
  | false => rfl
  | true =>
    rw [ignoreGoogleError, if_pos rfl, readGoogleCandidates, Euc.decode_eq, Outcome.ok_bind]
    cases hrequest : r.requestCandidates world cache (Euc.decoded r.tables midashi) with
    | error e => rfl
    | ok google =>
      dsimp only
      rw [if_pos (h google hrequest)]
      rfl

/-- The cache behind an answer of Google. -/
def cacheAfter (r : DictionaryReader) (world : GoogleWorld) (cache : GoogleCacheBTreeMap)
    (utf8Midashi : Bytes) (google : List Bytes) : Result GoogleCacheBTreeMap :=
  if r.config.isGoogleCacheEnabled then do
    let (_, cache) ← GoogleCache.writeCandidates cache utf8Midashi google
      r.config.googleCacheEntries r.config.googleCacheExpireSeconds world.unixTimeNow
      world.cacheWrite
    return cache
  else .ok cache

variable {encoding : Encoding} (htables : encoding = .Euc → r.tables = EncodingTables.shippedTables)
  (hencoding : r.onMemory.dictionaryFixedHeader.encoding = encoding.toU32)

include htables hencoding

/-- Google's candidates are merged into the result. -/
lemma ignoreGoogleError_of_google {google : List Bytes}
    (hgoogle : r.requestCandidates world cache (Euc.decoded r.tables midashi) = .ok google)
    (hne : google ≠ []) (hquote : ∀ v ∈ google, quote v ≠ []) (rest : Bytes) :
    r.ignoreGoogleError world true cache midashi (0x31 :: rest) =
      (r.cacheAfter world cache (Euc.decoded r.tables midashi) google >>= fun cache =>
        .ok ([0x31] ++ mergeTrimmedSlashCandidates (trimOneSlash rest)
          ([SLASH].intercalate (google.map (convertCandidate encoding))), cache)) := by
  have htext := trimOneSlash_quotedCandidates_eq hne hquote
  have hslash : ∀ x ∈ google.map quote, SLASH ∉ x := by
    intro x hx
    obtain ⟨v, -, rfl⟩ := List.mem_map.mp hx
    exact not_mem_quote (.inr (.inr (.inr rfl))) v
  have heuc : encoding = .Euc → Euc.encode r.tables (trimOneSlash (quotedCandidates google)) =
      .ok ([SLASH].intercalate (google.map (convertCandidate encoding))) := by
    intro heuc
    rw [htext, htables heuc, Euc.encode_eq, Euc.encoded_intercalate Euc.isSeparator_slash.1 hslash,
      List.map_map]
    congr 2
    refine List.map_congr_left fun v _ => ?_
    rw [Function.comp_apply, convertCandidate, if_pos heuc]
  have hutf8 : encoding ≠ .Euc → trimOneSlash (quotedCandidates google) =
      [SLASH].intercalate (google.map (convertCandidate encoding)) := by
    intro hutf8
    rw [htext]
    congr 1
    refine List.map_congr_left fun v _ => ?_
    rw [convertCandidate, if_neg hutf8]
  have hslice : (sliceFrom (0x31 :: rest) 1 : Result Bytes) = .ok rest :=
    sliceFrom_append [0x31] rest
  rw [ignoreGoogleError, if_pos rfl, readGoogleCandidates, Euc.decode_eq, Outcome.ok_bind, hgoogle,
    cacheAfter]
  dsimp only
  rw [if_neg hne, hslice, Outcome.ok_bind, hencoding, Encoding.fromU32_toU32, Outcome.ok_bind,
    ← quotedCandidates]
  split
  · rename_i h
    rw [heuc h, Outcome.ok_bind]
    split
    · generalize GoogleCache.writeCandidates _ _ _ _ _ _ _ = written
      cases written <;> rfl
    · rfl
  · rename_i h
    rw [hutf8 h]
    split
    · generalize GoogleCache.writeCandidates _ _ _ _ _ _ _ = written
      cases written <;> rfl
    · rfl

end Leg

lemma nodup_of_requestCandidates {r : DictionaryReader} {world : GoogleWorld}
    (hcache : r.config.isGoogleCacheEnabled = false) {cache : GoogleCacheBTreeMap}
    {utf8Midashi : Bytes} {google : List Bytes}
    (h : r.requestCandidates world cache utf8Midashi = .ok google) : google.Nodup := by
  simp only [requestCandidates, hcache, Bool.false_eq_true, if_false, ne_eq, not_true] at h
  split at h
  · rw [← Except.ok.inj h]
    exact nodup_removeDuplicates _
  · cases hanswer : world.requestGoogleJapaneseInput utf8Midashi with
    | error e => simp [hanswer, Except.map] at h
    | ok candidates =>
      rw [hanswer] at h
      rw [← Except.ok.inj h]
      exact nodup_removeDuplicates _

/-! ## Answers of candidates -/

lemma answerOf_of_ne_nil {cs : List Bytes} (h : cs ≠ []) :
    answerOf cs = 0x31 :: delimited SLASH cs := if_neg h

lemma isEmptyCandidates_answerOf_iff {cs : List Bytes} :
    isEmptyCandidates (answerOf cs) ↔ cs = [] := by
  by_cases h : cs = []
  · rw [h]
    exact iff_of_true rfl rfl
  · rw [answerOf_of_ne_nil h]
    refine iff_of_false (fun hempty => ?_) h
    have hlength := length_delimited_pos SLASH cs
    have hone : (delimited SLASH cs).length + 1 = 1 := hempty
    omega

/-- Behind its first slash a text of candidates is trimmed of the last one. -/
lemma trimOneSlash_drop_delimited {cs : List Bytes} (hne : cs ≠ []) (h : AreCandidates cs) :
    trimOneSlash ((delimited SLASH cs).drop 1) = [SLASH].intercalate cs := by
  obtain ⟨c, rest, rfl⟩ := List.exists_cons_of_ne_nil hne
  obtain ⟨hc, hslash⟩ := h c List.mem_cons_self
  obtain ⟨b, bs, rfl⟩ := List.exists_cons_of_ne_nil hc
  have hb : b ≠ SLASH := fun heq => hslash (heq ▸ List.mem_cons_self)
  obtain ⟨text, htext⟩ : ∃ text, [SLASH].intercalate ((b :: bs) :: rest) = b :: text := by
    cases rest with
    | nil => exact ⟨bs, by simp⟩
    | cons c' rest => exact ⟨bs ++ [SLASH] ++ [SLASH].intercalate (c' :: rest), by simp⟩
  rw [delimited_eq_intercalate hne, List.drop_succ_cons, List.drop_zero, htext, trimOneSlash,
    if_neg (by simp)]
  have hlast : (b :: text ++ [SLASH]).getLast? = some SLASH := List.getLast?_concat
  have hlong : 1 < (b :: text ++ [SLASH]).length := by simp
  simp only [hlong, hlast, and_self, if_true, List.dropLast_concat]
  simp [hb]

/-- Candidates that are merged into an answer. -/
lemma merge_answerOf {base new : List Bytes} (hbase : AreCandidates base) (hne : new ≠ [])
    (hnew : AreCandidates new) :
    [0x31] ++ mergeTrimmedSlashCandidates (trimOneSlash ((answerOf base).drop 1))
      ([SLASH].intercalate new) = answerOf (mergedCandidates base new) := by
  by_cases hnil : base = []
  · rw [mergedCandidates, if_pos hnil, hnil, answerOf_of_ne_nil hne]
    exact congrArg _ (mergeTrimmedSlashCandidates_nil hne fun n hn => (hnew n hn).2)
  · have hmerged : mergedCandidates base new ≠ [] := by
      simp [mergedCandidates, hnil, hne]
    have htrim : trimOneSlash ((answerOf base).drop 1) = [SLASH].intercalate base := by
      rw [answerOf_of_ne_nil hnil, List.drop_succ_cons, List.drop_zero, trimOneSlash_delimited hnil]
    rw [answerOf_of_ne_nil hmerged, htrim, mergeTrimmedSlashCandidates_eq_unclaimed hnil
      hbase.ne_singleton_nil (fun b hb => (hbase b hb).2) hne fun n hn => (hnew n hn).2,
      mergedCandidates, if_neg hnil, if_neg hne]
    rfl

/-- What the dictionary puts to an answer. -/
lemma withText_answerOf {base new : List Bytes} {text : Bytes} (hbase : AreCandidates base)
    (hnew : AreCandidates new) (htext : [0x31] ++ text = answerOf new) :
    withText (answerOf base) text = answerOf (mergedCandidates base new) := by
  by_cases hne : new = []
  · have hnil : text = [] := by
      rw [hne] at htext
      exact List.append_cancel_left htext
    rw [hnil, withText_nil, mergedCandidates, hne]
    by_cases hbaseNil : base = []
    · rw [if_pos hbaseNil, hbaseNil]
    · rw [if_neg hbaseNil, if_pos rfl]
  · rw [answerOf_of_ne_nil hne] at htext
    obtain rfl : text = delimited SLASH new := (List.cons.inj htext).2
    rw [withText, if_neg delimited_ne_nil,
      if_congr isEmptyCandidates_answerOf_iff rfl rfl]
    by_cases hbaseNil : base = []
    · rw [if_pos hbaseNil, hbaseNil, mergedCandidates, if_pos rfl, answerOf_of_ne_nil hne]
      rfl
    · rw [if_neg hbaseNil, trimOneSlash_drop_delimited hne hnew, merge_answerOf hbase hne hnew]

/-! ## The four timings -/

/-- The answer to a request where Google is asked at that time. -/
def timedAnswer (r : DictionaryReader) (world : GoogleWorld) (s : Session) (midashi : Bytes)
    (timing : GoogleTiming) : Result Bytes :=
  ((r.withTiming timing).readCandidates world s ([0x31] ++ midashi ++ [SP])).1

@[simp] lemma ignoreGoogleError_withTiming (r : DictionaryReader) (timing : GoogleTiming) :
    (r.withTiming timing).ignoreGoogleError = r.ignoreGoogleError := rfl

section Timings

variable {m : JisyoEntriesMap} (hm : IsJisyoEntries m) {file : Bytes} {r : DictionaryReader}
  (hloaded : IsLoaded m file r.onMemory) (world : GoogleWorld) {s : Session}
  (hs : s.dictionaryFile.Holds file) {midashi : Bytes} (hspace : SP ∉ midashi)
  {key : DictionaryMidashiKey} (hkey : getDictionaryMidashiKey (midashi ++ [SP]) = .ok key)

include hm

/-- The candidates that the dictionary has of a midashi. -/
lemma exists_candidates (midashi : Bytes) :
    ∃ dictionary, AreCandidates dictionary ∧
      [0x31] ++ (m[midashi]?).getD [] = answerOf dictionary ∧ (dictionary = [] ↔ midashi ∉ m) := by
  cases hget : m[midashi]? with
  | none =>
    refine ⟨[], by simp [AreCandidates], rfl, iff_of_true rfl fun hmem => ?_⟩
    rw [← Std.ExtTreeMap.isSome_getElem?_iff_mem, hget] at hmem
    simp at hmem
  | some text =>
    obtain ⟨cs, hcs, rfl⟩ := hm.candidates midashi text hget
    refine ⟨cs, fun c hc => ⟨hcs.candidate_ne_nil c hc, hcs.slash_not_mem c hc⟩, ?_, ?_⟩
    · rw [answerOf_of_ne_nil hcs.ne_nil]
      rfl
    · refine iff_of_false hcs.ne_nil (not_not.mpr ?_)
      rw [← Std.ExtTreeMap.isSome_getElem?_iff_mem, hget, Option.isSome_some]

include hloaded hs hspace hkey

/-- The answer at a time, told by what the two calls of Google make of the candidates. -/
lemma timedAnswer_eq {timing : GoogleTiming} {dictionary final : List Bytes}
    (first : List Bytes) (hdictionary : AreCandidates dictionary)
    (htext : [0x31] ++ (m[midashi]?).getD [] = answerOf dictionary) (hfirst : AreCandidates first)
    (hask : r.ignoreGoogleError world (decide (timing = .First)) s.cache midashi [0x31] =
      .ok (answerOf first, s.cache))
    (hagain : r.ignoreGoogleError world (decide (timing = .Last ∨
      (timing = .NotFound ∧ mergedCandidates first dictionary = []))) s.cache midashi
        (answerOf (mergedCandidates first dictionary)) = .ok (answerOf final, s.cache)) :
    r.timedAnswer world s midashi timing = .ok (answerOf final) := by
  have hwith := withText_answerOf hfirst hdictionary htext
  obtain ⟨f, hread, -⟩ := readCandidates_of_google hm (r.withTiming timing) hloaded world hs hspace
    hkey hask (by
      rw [hwith, ignoreGoogleError_withTiming]
      simp only [isEmptyCandidates_answerOf_iff]
      exact hagain)
  rw [timedAnswer, hread]

/-- Without Google, and where Google does not answer, the dictionary is what is answered. -/
lemma timedAnswer_of_fails {timing : GoogleTiming} {dictionary : List Bytes}
    (hdictionary : AreCandidates dictionary)
    (htext : [0x31] ++ (m[midashi]?).getD [] = answerOf dictionary)
    (hfails : timing ≠ .Disable → ∀ google,
      r.requestCandidates world s.cache (Euc.decoded r.tables midashi) = .ok google → google = []) :
    r.timedAnswer world s midashi timing = .ok (answerOf dictionary) := by
  have hleg : ∀ (asks : Bool) (result : Bytes), (timing = .Disable → asks = false) →
      r.ignoreGoogleError world asks s.cache midashi result = .ok (result, s.cache) := by
    intro asks result hasks
    by_cases htiming : timing = .Disable
    · rw [hasks htiming]
      rfl
    · exact ignoreGoogleError_of_fails world (hfails htiming) asks result
  refine timedAnswer_eq hm hloaded world hs hspace hkey [] hdictionary htext
    (by simp [AreCandidates]) (hleg _ _ ?_) (hleg _ _ ?_)
  · rintro rfl
    rfl
  · rintro rfl
    simp

variable (hcache : r.config.isGoogleCacheEnabled = false)
  (htables : r.tables = EncodingTables.shippedTables) {encoding : Encoding}
  (hencoding : r.onMemory.dictionaryFixedHeader.encoding = encoding.toU32)

include hcache htables hencoding

/-- **The timing of Google changes the order and nothing else.**  Without Google the candidates of
the dictionary are answered, and so they are at every time where Google does not answer.  Where it
does, the answers of `First` and of `Last` have the same candidates: the one begins with Google's
words, the other with what the dictionary has, and `NotFound` is the one or the other of the last
two. -/
theorem readCandidates_timings :
    ∃ dictionary, AreCandidates dictionary ∧ (dictionary = [] ↔ midashi ∉ m) ∧
      answerOf dictionary = [0x31] ++ (m[midashi]?).getD [] ∧
      r.timedAnswer world s midashi .Disable = .ok (answerOf dictionary) ∧
      ((∀ google, r.requestCandidates world s.cache (Euc.decoded r.tables midashi) = .ok google →
        google = []) → ∀ timing, r.timedAnswer world s midashi timing = .ok (answerOf dictionary)) ∧
      ∀ google, r.requestCandidates world s.cache (Euc.decoded r.tables midashi) = .ok google →
        google ≠ [] → (∀ v ∈ google, convertCandidate encoding v ≠ []) →
        Set.InjOn (convertCandidate encoding) {v | v ∈ google} →
        ∃ first last, r.timedAnswer world s midashi .First = .ok (answerOf first) ∧
          r.timedAnswer world s midashi .Last = .ok (answerOf last) ∧
          AreCandidates first ∧ AreCandidates last ∧ (∀ c, c ∈ first ↔ c ∈ last) ∧
          google.map (convertCandidate encoding) <+: first.map Candidates.removeAnnotate ∧
          dictionary <+: last ∧
          r.timedAnswer world s midashi .NotFound =
            .ok (answerOf (if midashi ∈ m then dictionary else last)) := by
  obtain ⟨dictionary, hdictionary, htext, hempty⟩ := exists_candidates hm midashi
  refine ⟨dictionary, hdictionary, hempty, htext.symm, ?_, ?_, ?_⟩
  · exact timedAnswer_of_fails hm hloaded world hs hspace hkey hdictionary htext
      fun h => absurd rfl h
  · intro hfails timing
    exact timedAnswer_of_fails hm hloaded world hs hspace hkey hdictionary htext fun _ => hfails
  intro google hgoogle hne hconvert hinjective
  set converted := google.map (convertCandidate encoding) with hconverted
  have hconvertedNe : converted ≠ [] := by simpa [hconverted] using hne
  have hareConverted : AreCandidates converted := by
    intro c hc
    obtain ⟨v, hv, rfl⟩ := List.mem_map.mp hc
    exact ⟨hconvert v hv, not_mem_convertCandidate (.inr (.inr (.inr rfl))) Euc.isSeparator_slash
      encoding v⟩
  have hplain : ∀ c ∈ converted, ¬ Candidates.IsAnnotated c := by
    intro c hc
    obtain ⟨v, -, rfl⟩ := List.mem_map.mp hc
    exact not_mem_convertCandidate (.inr (.inr (.inl rfl))) Euc.isSeparator_semicolon encoding v
  have hnodup : converted.Nodup := List.Nodup.map_on
    (fun _ hv _ hv' heq => hinjective hv hv' heq) (nodup_of_requestCandidates hcache hgoogle)
  -- a call of Google puts its candidates to the answer
  have hasks : ∀ cs, AreCandidates cs →
      r.ignoreGoogleError world true s.cache midashi (answerOf cs) =
      .ok (answerOf (mergedCandidates cs converted), s.cache) := by
    intro cs hcs
    obtain ⟨rest, hrest⟩ : ∃ rest, answerOf cs = 0x31 :: rest := by
      rw [answerOf]
      split <;> exact ⟨_, rfl⟩
    have hleg := ignoreGoogleError_of_google world (fun _ => htables) hencoding hgoogle hne
      (fun v hv => quote_ne_nil_of_convert (hconvert v hv)) rest
    rw [← hconverted, cacheAfter, hcache] at hleg
    rw [← merge_answerOf hcs hconvertedNe hareConverted, hrest]
    exact hleg
  have hnil : AreCandidates ([] : List Bytes) := by simp [AreCandidates]
  have hbehind : mergedCandidates [] dictionary = dictionary := if_pos rfl
  have hbefore : mergedCandidates [] converted = converted := if_pos rfl
  refine ⟨mergedCandidates converted dictionary, mergedCandidates dictionary converted,
    ?_, ?_, hareConverted.merged hdictionary, hdictionary.merged hareConverted, ?_, ?_, ?_, ?_⟩
  · refine timedAnswer_eq hm hloaded world hs hspace hkey converted hdictionary htext hareConverted
      ?_ rfl
    rw [← hbefore]
    exact hasks [] hnil
  · refine timedAnswer_eq hm hloaded world hs hspace hkey [] hdictionary htext hnil rfl ?_
    rw [hbehind]
    exact hasks dictionary hdictionary
  · exact fun c => mem_mergedCandidates_comm hplain hnodup
  · exact isPrefix_map_mergedCandidates hplain
  · exact isPrefix_mergedCandidates hplain
  · refine timedAnswer_eq hm hloaded world hs hspace hkey [] hdictionary htext hnil rfl ?_
    rw [hbehind]
    by_cases hmem : midashi ∈ m
    · have hdictionaryNe : dictionary ≠ [] := fun h => hempty.mp h hmem
      simp only [hmem, hdictionaryNe, reduceCtorEq, and_false, or_self, decide_false, if_true]
      rfl
    · rw [if_neg hmem]
      obtain rfl := hempty.mpr hmem
      exact hasks [] hnil

end Timings

/-- Google has two candidates for everything. -/
def twoCandidates : GoogleWorld := { offline with
  requestGoogleJapaneseInput := fun _ => .ok [ascii "c", ascii "y"] }

lemma convertCandidate_c (encoding : Encoding) :
    convertCandidate encoding (ascii "c") = ascii "c" := by
  cases encoding with
  | Euc => exact Euc.encoded_of_ascii (by decide +kernel)
  | Utf8 => rfl

lemma convertCandidate_y (encoding : Encoding) :
    convertCandidate encoding (ascii "y") = ascii "y" := by
  cases encoding with
  | Euc => exact Euc.encoded_of_ascii (by decide +kernel)
  | Utf8 => rfl

/-- A midashi of the second unit of its key, which shares a candidate with Google. -/
theorem readCandidates_timings_straddlingEntries :
    ∃ file onMemory first last,
      create (fun _ => SHA1SUM_ZERO) .Euc emptyTable straddlingEntries = .ok file ∧
      setup (fun _ => SHA1SUM_ZERO) 1024 (some EncodingTables.shippedTables) file =
        .ok (onMemory, EncodingTables.shippedTables) ∧
      timedAnswer ⟨{}, onMemory, EncodingTables.shippedTables⟩ twoCandidates
        ⟨{ file := file, buffer := [] }, ∅⟩ (ascii "aab") .Disable = .ok (ascii "1/y/z/") ∧
      timedAnswer ⟨{}, onMemory, EncodingTables.shippedTables⟩ twoCandidates
        ⟨{ file := file, buffer := [] }, ∅⟩ (ascii "aab") .NotFound = .ok (ascii "1/y/z/") ∧
      timedAnswer ⟨{}, onMemory, EncodingTables.shippedTables⟩ twoCandidates
        ⟨{ file := file, buffer := [] }, ∅⟩ (ascii "aab") .First = .ok (answerOf first) ∧
      timedAnswer ⟨{}, onMemory, EncodingTables.shippedTables⟩ twoCandidates
        ⟨{ file := file, buffer := [] }, ∅⟩ (ascii "aab") .Last = .ok (answerOf last) ∧
      (∀ c, c ∈ first ↔ c ∈ last) ∧
      [ascii "c", ascii "y"] <+: first.map Candidates.removeAnnotate ∧
      [ascii "y", ascii "z"] <+: last := by
  have htable : onceInitEncodingTable (some EncodingTables.shippedTables) emptyTable =
    .ok EncodingTables.shippedTables := rfl
  obtain ⟨file, onMemory, hcreate, hsetup, hloaded, hencoding⟩ :=
    exists_loaded_straddlingEntries .Euc htable
  have hholds : DictionaryFile.Holds file { file := file, buffer := [] } :=
    ⟨rfl, rfl, Nat.zero_le _, rfl⟩
  have hspace : SP ∉ ascii "aab" := by decide
  obtain ⟨dictionary, hcandidates, -, htext, hdisable, -, hall⟩ :=
    readCandidates_timings isJisyoEntries_straddlingEntries
      (r := ⟨{}, onMemory, EncodingTables.shippedTables⟩) hloaded twoCandidates
      (s := ⟨{ file := file, buffer := [] }, ∅⟩) hholds hspace rfl rfl rfl hencoding
  obtain ⟨first, last, hfirst, hlast, -, -, hsame, hgoogle, hprefix, hnotFound⟩ :=
    hall [ascii "c", ascii "y"] rfl (by decide)
      (by
        simp only [List.forall_mem_cons, convertCandidate_c, convertCandidate_y]
        decide)
      (by simp [Set.InjOn, convertCandidate_c, convertCandidate_y])
  -- what the dictionary has is told from the text of its answer
  have hstored : straddlingEntries[ascii "aab"]? = some (ascii "/y/z/") := rfl
  have hmem : ascii "aab" ∈ straddlingEntries := by
    rw [← Std.ExtTreeMap.isSome_getElem?_iff_mem, hstored, Option.isSome_some]
  rw [hstored] at htext
  have hdictionary : dictionary = [ascii "y", ascii "z"] := by
    have hne : dictionary ≠ [] := by
      rintro rfl
      revert htext
      decide
    rw [answerOf_of_ne_nil hne] at htext
    exact delimited_inj (fun c hc => (hcandidates c hc).2) (by decide) (List.cons.inj htext).2
  rw [if_pos hmem, htext] at hnotFound
  rw [htext] at hdisable
  rw [hdictionary] at hprefix
  rw [List.map_cons, List.map_singleton, convertCandidate_c, convertCandidate_y] at hgoogle
  exact ⟨file, onMemory, first, last, hcreate, hsetup, hdisable, hnotFound, hfirst, hlast, hsame,
    hgoogle, hprefix⟩

end DictionaryReader

end Yaskkserv2
