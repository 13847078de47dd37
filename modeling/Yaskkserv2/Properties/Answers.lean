import Yaskkserv2.Properties.ExactLookup

/-!
# The answer to an exact lookup

`read_candidates` asks Google before or behind the dictionary, and what the dictionary has is
appended to what is there already or merged with it.  For a loaded dictionary that was built from
entries the answer is told here by the two calls of Google alone (`readCandidates_of_google`): what
the dictionary adds to a result is `withText`, whatever the result is.
-/

namespace Yaskkserv2

open Framework Dictionary DictionaryCreator

namespace DictionaryReader

/-- A result with the candidates text of the dictionary put to it; the text is empty where the
dictionary does not have the midashi. -/
def withText (result text : Bytes) : Bytes :=
  if text = [] then result
  else if isEmptyCandidates result then result ++ text
  else [0x31] ++ Candidates.mergeTrimmedSlashCandidates
    (Candidates.trimOneSlash (result.drop 1)) (Candidates.trimOneSlash (text.drop 1))

@[simp] lemma withText_nil (result : Bytes) : withText result [] = result := if_pos rfl

lemma withText_empty {text : Bytes} : withText [0x31] text = [0x31] ++ text := by
  by_cases htext : text = []
  · rw [htext, withText_nil, List.append_nil]
  · rw [withText, if_neg htext, if_pos (by rfl : isEmptyCandidates [0x31])]

/-- What is found in a unit does not depend on the result it is put to. -/
lemma findCandidates_withText {midashi buffer text : Bytes}
    (h : findCandidates midashi buffer [0x31] = .ok ([0x31] ++ text)) (result : Bytes) :
    findCandidates midashi buffer result = .ok (withText result text) := by
  unfold findCandidates at h ⊢
  dsimp only at h ⊢
  cases hfind : find ([LF] ++ midashi ++ [SP, SLASH]) buffer with
  | none =>
    rw [hfind] at h
    have hnil : text = [] := by simpa using h
    rw [hnil, withText_nil]
    rfl
  | some midashiFind =>
    rw [hfind] at h
    dsimp only at h ⊢
    obtain ⟨tail, htail, h⟩ := Outcome.bind_eq_ok.mp h
    rw [htail, Outcome.ok_bind]
    cases hlf : find [LF] tail with
    | none => simp [hlf] at h
    | some lfFind =>
      rw [hlf] at h
      dsimp only at h ⊢
      obtain ⟨candidates, hcandidates, h⟩ := Outcome.bind_eq_ok.mp h
      rw [if_pos (by rfl : isEmptyCandidates [0x31])] at h
      have htext : text = SLASH :: candidates := by simpa using h.symm
      rw [hcandidates, Outcome.ok_bind, htext, withText, if_neg (List.cons_ne_nil _ _)]
      split
      · rw [List.append_assoc]
        rfl
      · rfl

lemma readDictionaryForReadCandidates_withText {midashi text : Bytes}
    {informations : List DictionaryBlockInformation} {blocksOffset : UInt32}
    {f f' : DictionaryFile}
    (h : readDictionaryForReadCandidates midashi informations blocksOffset f [0x31] =
      (.ok ([0x31] ++ text), f')) (result : Bytes) :
    readDictionaryForReadCandidates midashi informations blocksOffset f result =
      (.ok (withText result text), f') := by
  unfold readDictionaryForReadCandidates at h ⊢
  cases hi : getBlockInformationsIndex midashi informations with
  | ok i =>
    rw [hi] at h
    dsimp only at h ⊢
    split at h
    · rename_i hend
      obtain ⟨htext, rfl⟩ := Prod.mk.inj h
      have hnil : text = [] := by simpa using htext
      rw [if_pos hend, hnil, withText_nil]
    · rename_i hend
      rw [if_neg hend]
      cases hunit : (index informations i : Result DictionaryBlockInformation) with
      | ok unit =>
        rw [hunit] at h
        dsimp only at h ⊢
        obtain ⟨hread, rfl⟩ := Prod.mk.inj h
        obtain ⟨buffer, hbuffer, hread⟩ := Outcome.bind_eq_ok.mp hread
        rw [hbuffer, Outcome.ok_bind, findCandidates_withText hread]
      | error | panic | diverge => simp [hunit] at h
  | error | panic | diverge => simp [hi] at h

/-! ## A request -/

/-- What `read_candidates` returns of its last call of Google, and the session it leaves. -/
def returned (leg : Result (Bytes × GoogleCacheBTreeMap)) (f : DictionaryFile)
    (cache : GoogleCacheBTreeMap) : Result Bytes × Session :=
  match leg with
  | .ok (result, cache) => (.ok result, ⟨f, cache⟩)
  | .error e => (.error e, ⟨f, cache⟩)
  | .panic => (.panic, ⟨f, cache⟩)
  | .diverge => (.diverge, ⟨f, cache⟩)

lemma returned_eq_ok_iff {leg : Result (Bytes × GoogleCacheBTreeMap)} {f : DictionaryFile}
    {cache : GoogleCacheBTreeMap} {final : Bytes} {s' : Session} :
    returned leg f cache = (.ok final, s') ↔
      ∃ cache', leg = .ok (final, cache') ∧ s' = ⟨f, cache'⟩ := by
  cases leg with
  | ok p => simp [returned, Prod.ext_iff, eq_comm]
  | error | panic | diverge => simp [returned]

lemma errorFree_returned {leg : Result (Bytes × GoogleCacheBTreeMap)} (h : leg.ErrorFree)
    (f : DictionaryFile) (cache : GoogleCacheBTreeMap) : (returned leg f cache).1.ErrorFree := by
  cases leg with
  | ok p => exact Outcome.errorFree_ok p.1
  | error e => exact absurd rfl (h e)
  | panic | diverge => simp [returned, Outcome.ErrorFree]

section Loaded

variable {m : JisyoEntriesMap} (hm : IsJisyoEntries m) {file : Bytes} (r : DictionaryReader)
  (hloaded : IsLoaded m file r.onMemory) (world : GoogleWorld) {s : Session}
  (hs : s.dictionaryFile.Holds file) {midashi : Bytes} (hspace : SP ∉ midashi)

include hm hloaded hs hspace

/-- `read_candidates` in the terms of its two calls of Google: where the first returns, the
candidates of the dictionary are put to its result, and the second goes on from there. -/
lemma readCandidates_eq_returned {last : UInt8} {key : DictionaryMidashiKey}
    (hkey : getDictionaryMidashiKey (midashi ++ [last]) = .ok key) :
    ∃ f, f.Holds file ∧
      (∀ first cache, r.ignoreGoogleError world (decide (r.config.googleTiming = .First)) s.cache
          midashi [0x31] = .ok (first, cache) →
        r.readCandidates world s ([0x31] ++ midashi ++ [last]) =
          returned (r.ignoreGoogleError world (decide (r.config.googleTiming = .Last ∨
            (r.config.googleTiming = .NotFound ∧
              isEmptyCandidates (withText first ((m[midashi]?).getD []))))) cache midashi
              (withText first ((m[midashi]?).getD []))) f cache) ∧
      ((∀ p, r.ignoreGoogleError world (decide (r.config.googleTiming = .First)) s.cache
          midashi [0x31] ≠ .ok p) →
        r.readCandidates world s ([0x31] ++ midashi ++ [last]) =
          returned (r.ignoreGoogleError world (decide (r.config.googleTiming = .First)) s.cache
            midashi [0x31]) s.dictionaryFile s.cache) := by
  -- a midashi of the entries has the key of the request
  have hmidashi : midashi ∈ m → getDictionaryMidashiKey midashi = .ok key := by
    intro hmem
    obtain ⟨key', hkey', -⟩ := (hm.starts midashi hmem).exists_key
    rw [getDictionaryMidashiKey_append hkey'] at hkey
    exact hkey'.trans hkey
  have htext : ∀ key', (IsEucKey key → key' = key) → ∀ c, m[midashi]? = some c ↔
      ∃ e ∈ entriesOf m hm.isEntry key', e.midashi = midashi ∧ e.candidates = c := by
    intro key' hkey' c
    constructor
    · intro hget
      have hp := Std.ExtTreeMap.mem_toList_iff_getElem?_eq_some.mpr hget
      have hmem : midashi ∈ m := by
        rw [← Std.ExtTreeMap.isSome_getElem?_iff_mem, hget, Option.isSome_some]
      have heuc : IsEucKey key := ⟨midashi, hm.starts midashi hmem, hmidashi hmem⟩
      refine ⟨Entry.of (midashi, c) (hm.isEntry _ hp), ?_, rfl, rfl⟩
      rw [hkey' heuc]
      exact mem_entriesOf.mpr ⟨hget, hmidashi hmem⟩
    · rintro ⟨e, he, rfl, rfl⟩
      exact (mem_entriesOf.mp he).1
  unfold readCandidates
  rw [getMidashi_append_last, Outcome.ok_bind, sliceFrom_append_last, Outcome.ok_bind, hkey,
    Outcome.ok_bind]
  rcases hloaded.lookup hm.isEntry hm.starts key with ⟨hnone, hempty⟩ |
    ⟨key', informations, units, hsome, hkey', hunits⟩
  · have hget : m[midashi]? = none := by
      cases hget : m[midashi]? with
      | none => rfl
      | some c =>
        have hmem : midashi ∈ m := by
          rw [← Std.ExtTreeMap.isSome_getElem?_iff_mem, hget, Option.isSome_some]
        obtain ⟨e, he, -⟩ := (htext key (fun _ => rfl) c).mp hget
        rw [hempty ⟨midashi, hm.starts midashi hmem, hmidashi hmem⟩] at he
        simp at he
    refine ⟨s.dictionaryFile, hs, fun first cache hfirst => ?_, fun hfails => ?_⟩
    · rw [hfirst, hnone, hget, Option.getD_none, withText_nil, Outcome.ok_bind]
      rfl
    · revert hfails
      cases r.ignoreGoogleError world (decide (r.config.googleTiming = .First)) s.cache midashi
        [0x31] with
      | ok p => exact fun hfails => absurd rfl (hfails p)
      | error | panic | diverge => exact fun _ => rfl
  · obtain ⟨f, hread, hf⟩ := readDictionaryForReadCandidates_eq hunits
      (fun e he => hm.candidates_of_mem he) hspace (htext key' hkey') hs
    refine ⟨f, hf, fun first cache hfirst => ?_, fun hfails => ?_⟩
    · rw [hfirst, hsome, Outcome.ok_bind]
      dsimp only [Outcome.ok_bind, Outcome.pure_eq]
      rw [readDictionaryForReadCandidates_withText hread]
      rfl
    · revert hfails
      cases r.ignoreGoogleError world (decide (r.config.googleTiming = .First)) s.cache midashi
        [0x31] with
      | ok p => exact fun hfails => absurd rfl (hfails p)
      | error | panic | diverge => exact fun _ => rfl

/-- **What `read_candidates` answers**, told by what its two calls of Google make of the results
that they are given. -/
theorem readCandidates_eq_ok_iff {last : UInt8} {key : DictionaryMidashiKey}
    (hkey : getDictionaryMidashiKey (midashi ++ [last]) = .ok key) :
    ∃ f, f.Holds file ∧ ∀ (final : Bytes) (s' : Session),
      r.readCandidates world s ([0x31] ++ midashi ++ [last]) = (.ok final, s') ↔
        ∃ first cache cache', r.ignoreGoogleError world (decide (r.config.googleTiming = .First))
            s.cache midashi [0x31] = .ok (first, cache) ∧
          r.ignoreGoogleError world (decide (r.config.googleTiming = .Last ∨
            (r.config.googleTiming = .NotFound ∧
              isEmptyCandidates (withText first ((m[midashi]?).getD []))))) cache midashi
              (withText first ((m[midashi]?).getD [])) = .ok (final, cache') ∧
          s' = ⟨f, cache'⟩ := by
  obtain ⟨f, hf, hreturns, hfails⟩ := readCandidates_eq_returned hm r hloaded world hs hspace hkey
  refine ⟨f, hf, fun final s' => ⟨fun h => ?_, ?_⟩⟩
  · by_cases hfirst : ∃ p, r.ignoreGoogleError world (decide (r.config.googleTiming = .First))
      s.cache midashi [0x31] = .ok p
    · obtain ⟨p, hfirst⟩ := hfirst
      rw [hreturns p.1 p.2 hfirst, returned_eq_ok_iff] at h
      obtain ⟨cache', hlast, rfl⟩ := h
      exact ⟨p.1, p.2, cache', hfirst, hlast, rfl⟩
    · push Not at hfirst
      rw [hfails hfirst, returned_eq_ok_iff] at h
      obtain ⟨cache', hok, -⟩ := h
      exact absurd hok (hfirst _)
  · rintro ⟨first, cache, cache', hfirst, hlast, rfl⟩
    rw [hreturns first cache hfirst, returned_eq_ok_iff]
    exact ⟨cache', hlast, rfl⟩

lemma errorFree_readCandidates {last : UInt8} {key : DictionaryMidashiKey}
    (hkey : getDictionaryMidashiKey (midashi ++ [last]) = .ok key)
    (hleg : ∀ asks cache result, (r.ignoreGoogleError world asks cache midashi result).ErrorFree) :
    (r.readCandidates world s ([0x31] ++ midashi ++ [last])).1.ErrorFree := by
  obtain ⟨f, -, hreturns, hfails⟩ := readCandidates_eq_returned hm r hloaded world hs hspace hkey
  by_cases hfirst : ∃ p, r.ignoreGoogleError world (decide (r.config.googleTiming = .First))
    s.cache midashi [0x31] = .ok p
  · obtain ⟨p, hfirst⟩ := hfirst
    rw [hreturns p.1 p.2 hfirst]
    exact errorFree_returned (hleg _ _ _) f p.2
  · push Not at hfirst
    rw [hfails hfirst]
    exact errorFree_returned (hleg _ _ _) _ _

lemma readCandidates_of_google {last : UInt8} {key : DictionaryMidashiKey}
    (hkey : getDictionaryMidashiKey (midashi ++ [last]) = .ok key) {first final : Bytes}
    {cache cache' : GoogleCacheBTreeMap}
    (hfirst : r.ignoreGoogleError world (decide (r.config.googleTiming = .First)) s.cache midashi
      [0x31] = .ok (first, cache))
    (hlast : r.ignoreGoogleError world (decide (r.config.googleTiming = .Last ∨
      (r.config.googleTiming = .NotFound ∧
        isEmptyCandidates (withText first ((m[midashi]?).getD []))))) cache midashi
        (withText first ((m[midashi]?).getD [])) = .ok (final, cache')) :
    ∃ f, r.readCandidates world s ([0x31] ++ midashi ++ [last]) = (.ok final, ⟨f, cache'⟩) ∧
      f.Holds file := by
  obtain ⟨f, hf, hiff⟩ := readCandidates_eq_ok_iff hm r hloaded world hs hspace hkey
  exact ⟨f, (hiff _ _).mpr ⟨first, cache, cache', hfirst, hlast, rfl⟩, hf⟩

end Loaded

end DictionaryReader

end Yaskkserv2
