import Yaskkserv2.Properties.GoogleTiming
import Yaskkserv2.Properties.Service

/-!
# Replies are lines

A client reads a reply up to its LF and splits it at the slashes, so an LF or an empty candidate in
the middle of a reply would throw it out of step.  The candidates of a reply come from the
dictionary, from Google, from the cache, or from all of them; they are quoted, converted and merged
in an order that the settings decide.

In every run each reply is what its request asks for (`IsLineReply`), with every candidate that the
dictionary has, spelled as it is stored there, and with others only that Google has said of the same
midashi, now or when the cache was written.  The reply to a look-up is one line, unless the client
itself has sent a line end (`System.replies_areLines`).  Google has to answer with text: a candidate
of line ends alone is quoted to nothing.
-/

namespace Yaskkserv2

open Framework Dictionary DictionaryCreator Candidates

namespace GoogleCache

/-! ## What a cache has -/

/-- A cache has of each midashi only what is said of it. -/
def HasOnly (said : Bytes → Bytes → Prop) (map : GoogleCacheBTreeMap) : Prop :=
  ∀ midashi : Bytes, ∀ v ∈ getCandidates map midashi, said midashi v

section Write

variable {map left : GoogleCacheBTreeMap} {midashi : Bytes} {candidates : List Bytes}
  {cacheEntries cacheExpireSeconds unixTimeNow : ℕ} {write result : Except SkkError Unit}

/-- An entry behind a write was there before, or it is the new one. -/
lemma getElem?_of_writeCandidates
    (h : writeCandidates map midashi candidates cacheEntries cacheExpireSeconds unixTimeNow write =
      .ok (result, left)) {k : Bytes} {value : List Bytes} (hget : left[k]? = some value) :
    map[k]? = some value ∨ k = midashi ∧ value = decimal unixTimeNow :: candidates := by
  by_cases hwrite : shouldWrite map midashi candidates
  · obtain ⟨-, htrim⟩ := (writeCandidates_eq_ok_iff hwrite).mp h
    have hfresh : (unexpired (inserted map midashi candidates unixTimeNow) cacheExpireSeconds
        unixTimeNow)[k]? = some value := by
      obtain ⟨-, -, ⟨-, rfl⟩ | ⟨-, oldest, -, rfl⟩⟩ := (trim_eq_ok_iff inserted_ne_empty).mp htrim
      · exact hget
      · rw [Std.ExtTreeMap.getElem?_erase] at hget
        split at hget
        · simp at hget
        · exact hget
    rw [getElem?_unexpired, Option.filter_eq_some_iff] at hfresh
    have hinserted := hfresh.1
    rw [inserted, Std.ExtTreeMap.getElem?_insert] at hinserted
    split at hinserted
    · rename_i hkey
      exact .inr ⟨(Std.LawfulEqCmp.eq_of_compare hkey).symm, (Option.some.inj hinserted).symm⟩
    · exact .inl hinserted
  · rw [writeCandidates_of_not_shouldWrite hwrite] at h
    obtain ⟨-, rfl⟩ := Prod.mk.inj (Outcome.ok.inj h)
    exact .inl hget

lemma HasOnly.writeCandidates {said : Bytes → Bytes → Prop} (hmap : HasOnly said map)
    (hcandidates : ∀ v ∈ candidates, said midashi v)
    (h : writeCandidates map midashi candidates cacheEntries cacheExpireSeconds unixTimeNow write =
      .ok (result, left)) : HasOnly said left := by
  intro k v hv
  cases hget : left[k]? with
  | none => simp [getCandidates, hget] at hv
  | some value =>
    rcases getElem?_of_writeCandidates h hget with hold | ⟨rfl, rfl⟩
    · refine hmap k v ?_
      rw [getCandidates, hold]
      rwa [getCandidates, hget] at hv
    · rw [getCandidates, hget] at hv
      dsimp only at hv
      split at hv
      · exact hcandidates v hv
      · simp at hv

end Write

/-! ## Errors -/

lemma errorFree_index {α : Type} (xs : List α) (i : ℕ) : (index xs i : Result α).ErrorFree := by
  unfold index
  split
  · exact Outcome.errorFree_ok _
  · exact Outcome.errorFree_panic

lemma errorFree_entryTime (entry : Bytes × List Bytes) : (entryTime entry).ErrorFree := by
  refine (errorFree_index entry.2 0).bind fun time => ?_
  rw [parseOrZeroU64]
  split
  · exact Outcome.errorFree_ok _
  · exact Outcome.errorFree_panic

lemma errorFree_oldestEntry (entries : List (Bytes × List Bytes)) :
    (oldestEntry entries).ErrorFree := by
  induction entries with
  | nil => exact Outcome.errorFree_ok _
  | cons entry rest ih =>
    refine (errorFree_entryTime entry).bind fun time => ih.bind fun oldest => ?_
    cases oldest with
    | none => exact Outcome.errorFree_ok _
    | some oldest => exact Outcome.errorFree_ok _

lemma errorFree_removeExpired (map : GoogleCacheBTreeMap) (cacheExpireSeconds unixTimeNow : ℕ) :
    (removeExpired map cacheExpireSeconds unixTimeNow).ErrorFree := by
  refine Outcome.ErrorFree.bind (Outcome.ErrorFree.mapM (fun entry => ?_) _) fun kept =>
    Outcome.errorFree_ok _
  refine (errorFree_entryTime entry).bind fun time => Outcome.ErrorFree.bind ?_ fun limit =>
    Outcome.errorFree_ok _
  rw [checkedSub]
  split
  · exact Outcome.errorFree_ok _
  · exact Outcome.errorFree_panic

/-- A write of the cache returns the errors of the file, and has none of its own. -/
lemma errorFree_writeCandidates (map : GoogleCacheBTreeMap) (midashi : Bytes)
    (candidates : List Bytes) (cacheEntries cacheExpireSeconds unixTimeNow : ℕ)
    (write : Except SkkError Unit) :
    (writeCandidates map midashi candidates cacheEntries cacheExpireSeconds unixTimeNow
      write).ErrorFree := by
  rw [writeCandidates]
  split
  · refine Outcome.ErrorFree.bind ?_ fun left => Outcome.errorFree_ok _
    refine (errorFree_removeExpired _ _ _).bind fun fresh => ?_
    split
    · refine (errorFree_oldestEntry _).bind fun oldest => ?_
      cases oldest with
      | none => exact Outcome.errorFree_ok _
      | some oldest => exact Outcome.errorFree_ok _
    · exact Outcome.errorFree_ok _
  · exact Outcome.errorFree_ok _

end GoogleCache

namespace DictionaryReader

/-! ## Candidates -/

/-- Candidates that a line can have: each has text, without a slash or a line end. -/
def AreLineCandidates (cs : List Bytes) : Prop := ∀ c ∈ cs, c ≠ [] ∧ SLASH ∉ c ∧ LF ∉ c

lemma AreLineCandidates.areCandidates {cs : List Bytes} (h : AreLineCandidates cs) :
    AreCandidates cs := fun c hc => ⟨(h c hc).1, (h c hc).2.1⟩

lemma areLineCandidates_nil : AreLineCandidates [] := fun _ hc => absurd hc List.not_mem_nil

lemma AreLineCandidates.merged {base new : List Bytes} (hbase : AreLineCandidates base)
    (hnew : AreLineCandidates new) : AreLineCandidates (mergedCandidates base new) := fun c hc =>
  (mem_of_mem_mergedCandidates hc).elim (hbase c) (hnew c)

/-- Merged into plain candidates, no candidate loses its spelling. -/
lemma mem_mergedCandidates_of_plain {plain new : List Bytes}
    (hplain : ∀ c ∈ plain, ¬ IsAnnotated c) {c : Bytes} (hc : c ∈ new) :
    c ∈ mergedCandidates plain new := by
  rw [mergedCandidates]
  split
  · exact hc
  · rw [if_neg (List.ne_nil_of_mem hc)]
    exact (mem_plain_merge hplain).mpr (.inl hc)

section Converted

variable (encoding : Encoding) {google : List Bytes}

lemma convertCandidate_ne_nil {v : Bytes} (h : quote v ≠ []) :
    convertCandidate encoding v ≠ [] := by
  rw [convertCandidate]
  split
  · exact Euc.encoded_ne_nil h
  · exact h

lemma areLineCandidates_convert (h : ∀ v ∈ google, quote v ≠ []) :
    AreLineCandidates (google.map (convertCandidate encoding)) := by
  intro c hc
  obtain ⟨v, hv, rfl⟩ := List.mem_map.mp hc
  exact ⟨convertCandidate_ne_nil encoding (h v hv),
    not_mem_convertCandidate (.inr (.inr (.inr rfl))) Euc.isSeparator_slash encoding v,
    not_mem_convertCandidate (.inr (.inl rfl)) Euc.isSeparator_lf encoding v⟩

lemma not_isAnnotated_convert {c : Bytes} (hc : c ∈ google.map (convertCandidate encoding)) :
    ¬ IsAnnotated c := by
  obtain ⟨v, -, rfl⟩ := List.mem_map.mp hc
  exact not_mem_convertCandidate (.inr (.inr (.inl rfl))) Euc.isSeparator_semicolon encoding v

end Converted

/-! ## Google -/

/-- Google answers of each midashi only what is said of it. -/
def AnswersOnly (said : Bytes → Bytes → Prop) (world : GoogleWorld) : Prop :=
  ∀ utf8Midashi google, world.requestGoogleJapaneseInput utf8Midashi = .ok google ∨
    world.requestGoogleSuggest utf8Midashi = .ok google → ∀ v ∈ google, said utf8Midashi v

/-- What the replies to come need of the session: the dictionary file, and that a cache in use has
only what is said. -/
structure IsInformed (r : DictionaryReader) (file : Bytes) (said : Bytes → Bytes → Prop)
    (s : Session) : Prop where
  holds : s.dictionaryFile.Holds file
  cached : r.config.isGoogleCacheEnabled = true → GoogleCache.HasOnly said s.cache

section Google

variable {r : DictionaryReader} {said : Bytes → Bytes → Prop} {world : GoogleWorld}
  (hworld : AnswersOnly said world) {cache : GoogleCacheBTreeMap}
  (hcache : r.config.isGoogleCacheEnabled = true → GoogleCache.HasOnly said cache)

include hworld hcache

lemma said_of_requestCandidates {utf8Midashi : Bytes} {google : List Bytes}
    (h : r.requestCandidates world cache utf8Midashi = .ok google) :
    ∀ v ∈ google, said utf8Midashi v := by
  have hjapanese : ∀ v ∈ (world.requestGoogleJapaneseInput utf8Midashi).toOption.getD [],
      said utf8Midashi v := by
    intro v hv
    cases hanswer : world.requestGoogleJapaneseInput utf8Midashi with
    | error => simp [hanswer, Except.toOption] at hv
    | ok answer =>
      rw [hanswer] at hv
      exact hworld utf8Midashi answer (.inl hanswer) v hv
  have hsuggest : ∀ v ∈ (world.requestGoogleSuggest utf8Midashi).toOption.getD [],
      said utf8Midashi v := by
    intro v hv
    cases hanswer : world.requestGoogleSuggest utf8Midashi with
    | error => simp [hanswer, Except.toOption] at hv
    | ok answer =>
      rw [hanswer] at hv
      exact hworld utf8Midashi answer (.inr hanswer) v hv
  have hcached : ∀ v ∈ (if r.config.isGoogleCacheEnabled then
      GoogleCache.getCandidates cache utf8Midashi else []), said utf8Midashi v := by
    intro v hv
    split at hv
    · rename_i henabled
      exact hcache henabled utf8Midashi v hv
    · simp at hv
  rw [requestCandidates] at h
  dsimp only at h
  revert hcached h
  generalize (if r.config.isGoogleCacheEnabled then
    GoogleCache.getCandidates cache utf8Midashi else []) = cached
  intro h hcached v hv
  split at h
  · obtain rfl := Except.ok.inj h
    exact hcached v hv
  split at h
  · obtain rfl := Except.ok.inj h
    have hmem := (mem_removeDuplicatesFrom.mp hv).1
    exact (List.mem_append.mp hmem).elim (hjapanese v) (hsuggest v)
  · cases hanswer : world.requestGoogleJapaneseInput utf8Midashi with
    | error => simp [hanswer, Except.map] at h
    | ok answer =>
      rw [hanswer] at h
      obtain rfl := Except.ok.inj h
      exact hworld utf8Midashi answer (.inl hanswer) v (mem_removeDuplicatesFrom.mp hv).1

variable (htexts : ∀ midashi v, said midashi v → quote v ≠ []) {encoding : Encoding}
  (htables : r.tables = EncodingTables.shippedTables)
  (hencoding : r.onMemory.dictionaryFixedHeader.encoding = encoding.toU32)

include htexts htables hencoding

/-- **The leg of Google** makes an answer of an answer: what is said of the midashi is merged into
it, or nothing where Google is not asked or does not answer. -/
lemma ignoreGoogleError_answerOf {asks : Bool} {midashi : Bytes} {base : List Bytes}
    (hbase : AreCandidates base) {result : Bytes} {cache' : GoogleCacheBTreeMap}
    (h : r.ignoreGoogleError world asks cache midashi (answerOf base) = .ok (result, cache')) :
    (r.config.isGoogleCacheEnabled = true → GoogleCache.HasOnly said cache') ∧
      ∃ google : List Bytes, (∀ v ∈ google, said (Euc.decoded r.tables midashi) v) ∧
        result = answerOf (mergedCandidates base (google.map (convertCandidate encoding))) := by
  have hnone : ∀ {result : Bytes} {cache' : GoogleCacheBTreeMap},
      (.ok (answerOf base, cache) : Result (Bytes × GoogleCacheBTreeMap)) = .ok (result, cache') →
      (r.config.isGoogleCacheEnabled = true → GoogleCache.HasOnly said cache') ∧
        ∃ google : List Bytes, (∀ v ∈ google, said (Euc.decoded r.tables midashi) v) ∧
          result = answerOf (mergedCandidates base (google.map (convertCandidate encoding))) := by
    intro result cache' h
    obtain ⟨rfl, rfl⟩ := Prod.mk.inj (Outcome.ok.inj h)
    exact ⟨hcache, [], by simp, by rw [List.map_nil, mergedCandidates_nil]⟩
  cases asks with
  | false => exact hnone h
  | true =>
    by_cases hanswers : ∃ google, google ≠ [] ∧
        r.requestCandidates world cache (Euc.decoded r.tables midashi) = .ok google
    · obtain ⟨google, hne, hgoogle⟩ := hanswers
      have hsaid := said_of_requestCandidates hworld hcache hgoogle
      have hquotes : ∀ v ∈ google, quote v ≠ [] := fun v hv => htexts _ v (hsaid v hv)
      obtain ⟨rest, hrest⟩ : ∃ rest, answerOf base = 0x31 :: rest := by
        rw [answerOf]
        split
        · exact ⟨[], rfl⟩
        · exact ⟨_, rfl⟩
      have hdrop : rest = (answerOf base).drop 1 := by
        rw [hrest, List.drop_succ_cons, List.drop_zero]
      rw [hrest, ignoreGoogleError_of_google world (fun _ => htables) hencoding hgoogle hne hquotes]
        at h
      obtain ⟨left, hleft, h⟩ := Outcome.bind_eq_ok.mp h
      obtain ⟨rfl, rfl⟩ := Prod.mk.inj (Outcome.ok.inj h)
      refine ⟨fun henabled => ?_, google, hsaid, ?_⟩
      · rw [cacheAfter, if_pos henabled] at hleft
        obtain ⟨written, hwritten, hpure⟩ := Outcome.bind_eq_ok.mp hleft
        obtain rfl := Outcome.ok.inj hpure
        exact (hcache henabled).writeCandidates hsaid hwritten
      · rw [hdrop]
        exact merge_answerOf hbase (by simpa using hne)
          (areLineCandidates_convert encoding hquotes).areCandidates
    · rw [ignoreGoogleError_of_fails world fun google hgoogle => by
        by_contra hne
        exact hanswers ⟨google, hne, hgoogle⟩] at h
      exact hnone h

omit hworld hcache htexts htables in
/-- An error of Google does not get out of its leg. -/
lemma errorFree_ignoreGoogleError (asks : Bool) (cache : GoogleCacheBTreeMap)
    (midashi result : Bytes) :
    (r.ignoreGoogleError world asks cache midashi result).ErrorFree := by
  cases asks with
  | false => exact Outcome.errorFree_ok _
  | true =>
    rw [ignoreGoogleError, if_pos rfl]
    refine Outcome.ErrorFree.bind ?_ fun left => Outcome.errorFree_ok _
    rw [readGoogleCandidates, Euc.decode_eq, Outcome.ok_bind]
    have hwrite := GoogleCache.errorFree_writeCandidates cache (Euc.decoded r.tables midashi)
    cases r.requestCandidates world cache (Euc.decoded r.tables midashi) with
    | error e => exact Outcome.errorFree_ok _
    | ok google =>
      dsimp only
      split
      · exact Outcome.errorFree_ok _
      refine Outcome.ErrorFree.bind ?_ fun base => ?_
      · rw [sliceFrom]
        split
        · exact Outcome.errorFree_ok _
        · exact Outcome.errorFree_panic
      rw [hencoding, Encoding.fromU32_toU32, Outcome.ok_bind]
      by_cases henabled : r.config.isGoogleCacheEnabled = true
      · split
        · rw [Euc.encode_eq, Outcome.ok_bind]
          exact (hwrite google _ _ _ _).bind fun left => Outcome.errorFree_ok _
        · exact (hwrite google _ _ _ _).bind fun left => Outcome.errorFree_ok _
      · split
        · rw [Euc.encode_eq, Outcome.ok_bind]
          exact Outcome.errorFree_ok _
        · exact Outcome.errorFree_ok _

end Google

/-! ## An answer -/

/-- Candidates that answer a look-up: every one that is stored, spelled as it is stored, and besides
them what is said of the midashi. -/
structure IsAnswerTo (m : JisyoEntriesMap) (encoding : Encoding) (said : Bytes → Bytes → Prop)
    (midashi : Bytes) (cs : List Bytes) : Prop where
  candidates : AreLineCandidates cs
  stored : ∀ stored, IsCandidateList stored → m[midashi]? = some (delimited SLASH stored) →
    ∀ c ∈ stored, c ∈ cs
  others : ∀ c ∈ cs, (∃ stored, IsCandidateList stored ∧
    m[midashi]? = some (delimited SLASH stored) ∧ c ∈ stored) ∨
      ∃ v, said (Euc.decoded EncodingTables.shippedTables midashi) v ∧
        c = convertCandidate encoding v

section Answer

variable {m : JisyoEntriesMap} {encoding : Encoding} {said : Bytes → Bytes → Prop} {midashi : Bytes}

/-- What the dictionary has of a midashi answers it. -/
lemma exists_stored (hm : IsJisyoEntries m) (encoding : Encoding) (said : Bytes → Bytes → Prop)
    (midashi : Bytes) : ∃ cs, IsAnswerTo m encoding said midashi cs ∧
      [0x31] ++ (m[midashi]?).getD [] = answerOf cs := by
  cases hget : m[midashi]? with
  | none =>
    exact ⟨[], ⟨areLineCandidates_nil, by simp [hget], fun c hc => absurd hc List.not_mem_nil⟩,
      rfl⟩
  | some text =>
    obtain ⟨cs, hcs, rfl⟩ := hm.candidates midashi text hget
    refine ⟨cs, ⟨fun c hc => ⟨hcs.candidate_ne_nil c hc, hcs.slash_not_mem c hc,
      hcs.lf_not_mem c hc⟩, fun stored hstored hsome c hc => ?_, fun c hc =>
      .inl ⟨cs, hcs, hget, hc⟩⟩, ?_⟩
    · rw [hget, Option.some.injEq] at hsome
      exact delimited_inj hstored.slash_not_mem hcs.slash_not_mem hsome.symm ▸ hc
    · rw [answerOf_of_ne_nil hcs.ne_nil]
      rfl

/-- An answer stays one when candidates that are said are merged into it, and when it is merged into
them. -/
lemma IsAnswerTo.merged {cs google : List Bytes} (h : IsAnswerTo m encoding said midashi cs)
    (hsaid : ∀ v ∈ google, said (Euc.decoded EncodingTables.shippedTables midashi) v)
    (hquotes : ∀ v ∈ google, quote v ≠ []) :
    IsAnswerTo m encoding said midashi
        (mergedCandidates cs (google.map (convertCandidate encoding))) ∧
      IsAnswerTo m encoding said midashi
        (mergedCandidates (google.map (convertCandidate encoding)) cs) := by
  have hline := areLineCandidates_convert encoding hquotes
  have hplain : ∀ c ∈ google.map (convertCandidate encoding), ¬ IsAnnotated c :=
    fun c hc => not_isAnnotated_convert encoding hc
  have hothers : ∀ c, c ∈ cs ∨ c ∈ google.map (convertCandidate encoding) →
      (∃ stored, IsCandidateList stored ∧ m[midashi]? = some (delimited SLASH stored) ∧
        c ∈ stored) ∨ ∃ v, said (Euc.decoded EncodingTables.shippedTables midashi) v ∧
          c = convertCandidate encoding v := by
    rintro c (hc | hc)
    · exact h.others c hc
    · obtain ⟨v, hv, rfl⟩ := List.mem_map.mp hc
      exact .inr ⟨v, hsaid v hv, rfl⟩
  constructor
  · exact ⟨h.candidates.merged hline,
      fun stored hstored hget c hc =>
        (isPrefix_mergedCandidates hplain).subset (h.stored stored hstored hget c hc),
      fun c hc => hothers c (mem_of_mem_mergedCandidates hc)⟩
  · exact ⟨hline.merged h.candidates,
      fun stored hstored hget c hc =>
        mem_mergedCandidates_of_plain hplain (h.stored stored hstored hget c hc),
      fun c hc => hothers c (mem_of_mem_mergedCandidates hc).symm⟩

end Answer

/-- A line of a reply. -/
def IsOneLine (reply : Bytes) : Prop := ∃ line, reply = line ++ [LF] ∧ LF ∉ line

/-- What is written back to a request, by a server with a dictionary of these entries that asks
Google at any time. -/
inductive IsLineReply (r : DictionaryReader) (m : JisyoEntriesMap) (encoding : Encoding)
    (said : Bytes → Bytes → Prop) (request : Bytes) : Bytes → Prop
  | plain {command : UInt8} (head : request.head? = some command)
      (other : command ≠ 0x30 ∧ command ≠ 0x31 ∧ command ≠ 0x34) :
    IsLineReply r m encoding said request (r.plainReply command)
  | error (head : request.head? = some 0x31 ∨ request.head? = some 0x34)
      (refused : Refuses (r.eucRequest request)) :
    IsLineReply r m encoding said request PROTOCOL_RESULT_ERROR
  | found {midashi : Bytes} {last : UInt8} {cs : List Bytes}
      (euc : r.eucRequest request = [0x31] ++ midashi ++ [last])
      (answers : ¬ Refuses ([0x31] ++ midashi ++ [last]))
      (answer : IsAnswerTo m encoding said midashi cs) (some : cs ≠ []) :
    IsLineReply r m encoding said request ([0x31] ++ delimited SLASH cs ++ [LF])
  | notFound {midashi : Bytes} {last : UInt8}
      (euc : r.eucRequest request = [0x31] ++ midashi ++ [last])
      (answers : ¬ Refuses ([0x31] ++ midashi ++ [last])) (missing : midashi ∉ m) :
    IsLineReply r m encoding said request (echo ([0x34] ++ midashi ++ [last]))
  | completed {midashi : Bytes} {last : UInt8} {words : List Bytes}
      (euc : r.eucRequest request = [0x34] ++ midashi ++ [last])
      (answers : ¬ Refuses ([0x34] ++ midashi ++ [last]))
      (offered : IsCompletionList r midashi (completionsOf midashi m.keys) words)
      (some : words ≠ []) (shown : AreLineCandidates (words.map (shownWord r.tables encoding))) :
    IsLineReply r m encoding said request
      ([0x31] ++ delimited SLASH (words.map (shownWord r.tables encoding)) ++ [LF])
  | notCompleted {midashi : Bytes} {last : UInt8}
      (euc : r.eucRequest request = [0x34] ++ midashi ++ [last])
      (answers : ¬ Refuses ([0x34] ++ midashi ++ [last]))
      (offered : IsCompletionList r midashi (completionsOf midashi m.keys) []) :
    IsLineReply r m encoding said request (echo ([0x34] ++ midashi ++ [last]))

/-! ## One line -/

lemma isOneLine_delimited {cs : List Bytes} (h : AreLineCandidates cs) :
    IsOneLine ([0x31] ++ delimited SLASH cs ++ [LF]) := by
  have hone : LF ∉ ([0x31] : Bytes) := by decide
  have hslash : LF ≠ SLASH := by decide
  refine ⟨_, rfl, ?_⟩
  rw [List.mem_append, not_or]
  refine ⟨hone, fun hmem => ?_⟩
  rcases List.mem_cons.mp hmem with heq | hmem
  · exact hslash heq
  · obtain ⟨c, hc, hmem⟩ := List.mem_flatMap.mp hmem
    rcases List.mem_append.mp hmem with hmem | hmem
    · exact (h c hc).2.2 hmem
    · exact hslash (List.mem_singleton.mp hmem)

/-- A request without a line end is echoed as one line. -/
lemma isOneLine_echo {front : Bytes} {last : UInt8} (hlf : LF ∉ front ++ [last])
    (hcr : last ≠ CR) : IsOneLine (echo (front ++ [last])) := by
  have hlast : last ≠ LF := by
    rintro rfl
    simp at hlf
  rw [echo, List.getLast?_concat]
  dsimp only
  rw [if_neg (by simp [hlast, hcr])]
  exact ⟨_, rfl, hlf⟩

lemma not_mem_eucRequest {r : DictionaryReader} (htables : r.tables = EncodingTables.shippedTables)
    {d : UInt8} (hd : Euc.IsSeparator d) {request : Bytes} (h : d ∉ request) :
    d ∉ r.eucRequest request := by
  rw [eucRequest]
  split
  · rw [htables]
    exact Euc.not_mem_encoded hd h
  · exact h

/-- **A reply is one line** where the client has sent no line end. -/
lemma IsLineReply.isOneLine {r : DictionaryReader} {m : JisyoEntriesMap} {encoding : Encoding}
    {said : Bytes → Bytes → Prop} {request reply : Bytes}
    (h : IsLineReply r m encoding said request reply)
    (htables : r.tables = EncodingTables.shippedTables)
    (head : request.head? = some 0x31 ∨ request.head? = some 0x34) (hlf : LF ∉ request)
    (hcr : CR ∉ request) : IsOneLine reply := by
  have hecho : ∀ {command : UInt8} {midashi : Bytes} {last : UInt8},
      r.eucRequest request = [command] ++ midashi ++ [last] →
        IsOneLine (echo ([0x34] ++ midashi ++ [last])) := by
    intro command midashi last heuc
    have hlf' := not_mem_eucRequest htables Euc.isSeparator_lf hlf
    have hcr' := not_mem_eucRequest htables Euc.isSeparator_cr hcr
    rw [heuc] at hlf' hcr'
    have hcommand : LF ∉ ([0x34] : Bytes) := by decide
    refine isOneLine_echo ?_ ?_
    · simp only [List.mem_append, not_or] at hlf' ⊢
      exact ⟨⟨hcommand, hlf'.1.2⟩, hlf'.2⟩
    · rintro rfl
      simp at hcr'
  cases h with
  | plain hhead other =>
    rcases head with head | head
    all_goals
      rw [head, Option.some.injEq] at hhead
      subst hhead
      simp at other
  | error => exact ⟨[0x30], rfl, by decide⟩
  | found _ _ answer _ => exact isOneLine_delimited answer.candidates
  | completed _ _ _ _ shown => exact isOneLine_delimited shown
  | notFound euc | notCompleted euc => exact hecho euc

/-! ## Completions -/

section Completions

variable {encoding : Encoding} {words : List Bytes}
  (hwords : ∀ w ∈ words, quote w ≠ [] ∧ (encoding = .Utf8 → Euc.IsEucText w))

include hwords

/-- Shown, a completion has text, and no slash or line end. -/
lemma areLineCandidates_shownWord :
    AreLineCandidates (words.map (shownWord EncodingTables.shippedTables encoding)) := by
  intro c hc
  obtain ⟨w, hw, rfl⟩ := List.mem_map.mp hc
  obtain ⟨hne, heuc⟩ := hwords w hw
  have hslash : SLASH ∉ quote w := not_mem_quote (.inr (.inr (.inr rfl))) w
  have hlf : LF ∉ quote w := not_mem_quote (.inr (.inl rfl)) w
  rw [shownWord]
  split
  · rename_i hutf8
    have htext := (heuc hutf8).quote
    exact ⟨htext.decoded_ne_nil hne, htext.not_mem_decoded Euc.isSeparator_slash hslash,
      htext.not_mem_decoded Euc.isSeparator_lf hlf⟩
  · exact ⟨hne, hslash, hlf⟩

end Completions

/-! ## A request -/

section Request

variable {m : JisyoEntriesMap} (hm : IsJisyoEntries m) {file : Bytes} {r : DictionaryReader}
  (hloaded : IsLoaded m file r.onMemory) {encoding : Encoding}
  (hencoding : r.onMemory.dictionaryFixedHeader.encoding = encoding.toU32)
  (hmax : 1 ≤ r.config.maxServerCompletions) (htables : r.tables = EncodingTables.shippedTables)
  (hwords : ∀ w ∈ m, quote w ≠ [] ∧ (encoding = .Utf8 → Euc.IsEucText w))
  {said : Bytes → Bytes → Prop} (htexts : ∀ midashi v, said midashi v → quote v ≠ [])
  {world : GoogleWorld} (hworld : AnswersOnly said world) {s s' : Session}
  (hs : IsInformed r file said s) {request reply rest : Bytes}

include hm hloaded hencoding hs htables

include htexts hworld in
/-- **What a look-up is answered with**, whenever Google is asked and whatever it answers. -/
theorem readCandidates_isAnswerTo {midashi : Bytes} (hspace : SP ∉ midashi) {last : UInt8}
    {key : DictionaryMidashiKey} (hkey : getDictionaryMidashiKey (midashi ++ [last]) = .ok key)
    {final : Bytes}
    (h : r.readCandidates world s ([0x31] ++ midashi ++ [last]) = (.ok final, s')) :
    IsInformed r file said s' ∧
      ∃ cs, IsAnswerTo m encoding said midashi cs ∧ final = answerOf cs := by
  obtain ⟨f, hf, hiff⟩ := readCandidates_eq_ok_iff hm r hloaded world hs.holds hspace hkey
  obtain ⟨first, cache, cache', hfirst, hlast, rfl⟩ := (hiff final s').mp h
  obtain ⟨stored, hstored, htext⟩ := exists_stored hm encoding said midashi
  have hquotes : ∀ {google : List Bytes},
      (∀ v ∈ google, said (Euc.decoded r.tables midashi) v) → ∀ v ∈ google, quote v ≠ [] :=
    fun hsaid v hv => htexts _ v (hsaid v hv)
  have hnil : AreCandidates [] := fun c hc => absurd hc List.not_mem_nil
  have hstart : answerOf [] = [0x31] := if_pos rfl
  rw [← hstart] at hfirst
  obtain ⟨hcache, google, hgoogle, rfl⟩ :=
    ignoreGoogleError_answerOf hworld hs.cached htexts htables hencoding hnil hfirst
  have hmerge : mergedCandidates [] (google.map (convertCandidate encoding)) =
      google.map (convertCandidate encoding) := if_pos rfl
  have hanswer := (hstored.merged (htables ▸ hgoogle) (hquotes hgoogle)).2
  rw [hmerge, withText_answerOf (areLineCandidates_convert encoding (hquotes hgoogle)).areCandidates
    hstored.candidates.areCandidates htext] at hlast
  obtain ⟨hcache', google', hgoogle', rfl⟩ := ignoreGoogleError_answerOf hworld hcache htexts
    htables hencoding hanswer.candidates.areCandidates hlast
  exact ⟨⟨hf, hcache'⟩, _, (hanswer.merged (htables ▸ hgoogle') (hquotes hgoogle')).1, rfl⟩

include htexts hworld in
lemma handleClientProtocol1_isLineReply (head : request.head? = some 0x31)
    (heuc : r.eucRequest request = 0x31 :: rest)
    (hrest : IsRequest (0x31 :: rest))
    (h : r.handleClientProtocol1 world s (0x31 :: rest) = .ok (reply, s')) :
    IsInformed r file said s' ∧ IsLineReply r m encoding said request reply := by
  rcases handleClientProtocol1_cases hrest h with ⟨hrefuses, rfl, rfl⟩ |
    ⟨midashi, last, key, hsplit, hanswers, hspace, hkey, h⟩
  · exact ⟨hs, .error (.inl head) (heuc ▸ hrefuses)⟩
  rw [hsplit] at heuc
  rcases hread : r.readCandidates world s ([0x31] ++ midashi ++ [last]) with ⟨read, left⟩
  rw [hread] at h
  cases read with
  | ok final =>
    obtain ⟨hleft, cs, hanswer, rfl⟩ := readCandidates_isAnswerTo hm hloaded hencoding htables
      htexts hworld hs hspace hkey hread
    rw [replyTo] at h
    obtain ⟨rfl, rfl⟩ := Prod.mk.inj (Outcome.ok.inj h)
    refine ⟨hleft, ?_⟩
    by_cases hcs : cs = []
    · rw [if_pos (isEmptyCandidates_answerOf_iff.mpr hcs)]
      refine .notFound heuc hanswers fun hmem => ?_
      -- what is stored would be in the answer
      obtain ⟨stored, hstored, hget⟩ := hm.candidates midashi m[midashi]
        (Std.ExtTreeMap.getElem?_eq_some_getElem hmem)
      obtain ⟨c, hc⟩ := List.exists_mem_of_ne_nil stored hstored.ne_nil
      have hmem' := hanswer.stored stored hstored
        (hget ▸ Std.ExtTreeMap.getElem?_eq_some_getElem hmem) c hc
      rw [hcs] at hmem'
      exact List.not_mem_nil hmem'
    · rw [if_neg fun hempty => hcs (isEmptyCandidates_answerOf_iff.mp hempty),
        answerOf_of_ne_nil hcs]
      exact .found heuc hanswers hanswer hcs
  | error e =>
    have hfree := errorFree_readCandidates hm r hloaded world hs.holds hspace hkey
      fun asks cache result => errorFree_ignoreGoogleError hencoding asks cache midashi result
    rw [hread] at hfree
    exact absurd rfl (hfree e)
  | panic | diverge => simp [replyTo] at h

include hmax hwords in
lemma handleClientProtocol4_isLineReply (head : request.head? = some 0x34)
    (heuc : r.eucRequest request = 0x34 :: rest)
    (hrest : IsRequest (0x34 :: rest))
    (h : r.handleClientProtocol4 s (0x34 :: rest) = .ok (reply, s')) :
    IsInformed r file said s' ∧ IsLineReply r m encoding said request reply := by
  rcases handleClientProtocol4_cases hrest h with ⟨hrefuses, rfl, rfl⟩ |
    ⟨midashi, last, key, hsplit, hanswers, hne, hspace, hkey, h⟩
  · exact ⟨hs, .error (.inr head) (heuc ▸ hrefuses)⟩
  rw [hsplit] at heuc
  obtain ⟨f, words, hf, hoffered, hread⟩ := readAbbrev_isCompletionList hm hloaded hencoding
    hmax hs.holds hspace hne hkey
  rw [hread, replyTo] at h
  obtain ⟨rfl, rfl⟩ := Prod.mk.inj (Outcome.ok.inj h)
  refine ⟨⟨hf, hs.cached⟩, ?_⟩
  by_cases hnil : words = []
  · rw [if_pos (isEmptyCandidates_abbrevReply.mpr hnil)]
    exact .notCompleted heuc hanswers (hnil ▸ hoffered)
  · have hall : ∀ w ∈ words, quote w ≠ [] ∧ (encoding = .Utf8 → Euc.IsEucText w) := fun w hw =>
      hwords w (Std.ExtTreeMap.mem_keys.mp
        (List.mem_filter.mp (hoffered.sublist.subset hw)).1)
    have hwhole : encoding = .Utf8 → ∀ w ∈ words.dropLast, Euc.IsEucText w := fun hutf8 w hw =>
      (hall w (List.mem_of_mem_dropLast hw)).2 hutf8
    rw [if_neg fun hempty => hnil (isEmptyCandidates_abbrevReply.mp hempty),
      abbrevReply_eq_completionReply hwhole, completionReply, if_neg hnil]
    exact .completed heuc hanswers hoffered hnil (htables ▸ areLineCandidates_shownWord hall)

include hmax hwords htexts hworld in
theorem handleClient_isLineReply (hrequest : IsRequest request) {handled : HandleClientResult}
    {replies : List Bytes} (h : r.handleClient world s request = .ok (handled, replies, s')) :
    IsInformed r file said s' ∧
      List.Forall₂ (IsLineReply r m encoding said) (answered [request]) replies :=
  handleClient_forall₂ (IsInformed r file said) (IsLineReply r m encoding said) (fun _ => htables)
    hrequest hs
    (fun _ _ head heuc =>
      handleClientProtocol1_isLineReply hm hloaded hencoding htables htexts hworld hs head heuc)
    (fun _ _ head heuc =>
      handleClientProtocol4_isLineReply hm hloaded hencoding hmax htables hwords hs head heuc)
    (fun _ hcommand hother => .plain hcommand hother) h

end Request

end DictionaryReader

/-! ## Runs -/

open DictionaryReader

/-- What `twoCandidates` says. -/
def saidTwo (_midashi v : Bytes) : Prop := v ∈ [ascii "c", ascii "y"]

/-- A server with two slots and a cache that asks Google first. -/
def askingServer (onMemory : OnMemory) : DictionaryReader where
  config := { maxConnections := 2, googleTiming := .First, isGoogleCacheEnabled := true,
              googleCacheExpireSeconds := 10 }
  onMemory := onMemory
  tables := EncodingTables.shippedTables

end Yaskkserv2
