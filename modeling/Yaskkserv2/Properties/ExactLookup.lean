import Yaskkserv2.Properties.JisyoEntries
import Yaskkserv2.Properties.LoadedUnits

/-!
# Exact lookup

A request `1midashi ` is answered with `1` and the candidates of the midashi, or with `1` alone.
The search looks at one unit of the key: the one that holds the midashi if any does.  In a unit it
looks for an LF, the midashi, a space and a slash; since a midashi holds no space, that is found at
the entry of the midashi and nowhere else.
-/

namespace Yaskkserv2

open Framework Dictionary DictionaryCreator

namespace DictionaryReader

/-! ## A unit -/

/-- What is searched for in a unit, behind the LF. -/
lemma searchBytes_prefix_iff {midashi : Bytes} (hmidashi : SP ∉ midashi) {e : Entry}
    (he : IsCandidatesText e.candidates) (rest : Bytes) :
    midashi ++ [SP, SLASH] <+: e.text ++ rest ↔ e.midashi = midashi := by
  obtain ⟨candidates, hcandidates⟩ := he.exists_cons
  rw [Entry.text, hcandidates, List.append_assoc]
  constructor
  · exact fun h => (eq_of_isPrefix_append_cons hmidashi e.space_not_mem h).symm
  · rintro rfl
    exact ⟨candidates ++ rest, by simp⟩

/-- An entry of the midashi is found, and its candidates are read up to the LF. -/
lemma findCandidates_layout_of_mem {midashi text : Bytes} (hmidashi : SP ∉ midashi)
    {u : List Entry} (hu : ∀ e ∈ u, IsCandidatesText e.candidates)
    (hunique : ∀ e ∈ u, e.midashi = midashi → e.candidates = text)
    (hmem : ∃ e ∈ u, e.midashi = midashi) :
    findCandidates midashi (layout u) [0x31] = .ok ([0x31] ++ text) := by
  have hlf := lf_not_mem_of_mem_texts u
  have hpattern : [LF] ++ midashi ++ [SP, SLASH] = LF :: (midashi ++ [SP, SLASH]) := rfl
  obtain ⟨e, he, hemidashi⟩ := hmem
  cases hfind : find ([LF] ++ midashi ++ [SP, SLASH]) (layout u) with
  | none =>
    obtain ⟨pre, post, rfl⟩ := List.append_of_mem he
    rw [hpattern] at hfind
    refine absurd ?_ (find_delimited_eq_none hlf hfind (by rw [List.map_append, List.map_cons]))
    exact (searchBytes_prefix_iff hmidashi (hu e he) _).mpr hemidashi
  | some i =>
    have hfound := hfind
    rw [hpattern] at hfound
    obtain ⟨pre, x, post, hsplit, hlength, hstart, -⟩ :=
      find_delimited_eq_some (by simp) hlf hfound
    obtain ⟨fs, rest, rfl, rfl, hrest⟩ := List.map_eq_append_iff.mp hsplit
    obtain ⟨f, gs, rfl, rfl, rfl⟩ := List.map_eq_cons_iff.mp hrest
    have hf : f ∈ fs ++ f :: gs := by simp
    have hfmidashi : f.midashi = midashi := (searchBytes_prefix_iff hmidashi (hu f hf) _).mp hstart
    have hftext := hunique f hf hfmidashi
    obtain ⟨candidates, hcandidates⟩ := (hu f hf).exists_cons
    rw [← layout] at hlength
    have hi : (layout fs).dropLast.length = i := by
      rw [List.length_dropLast]
      omega
    obtain ⟨t, ht⟩ : ∃ t, layout gs = LF :: t := ⟨_, rfl⟩
    have hcandidatesLf : LF ∉ candidates := by
      have hnot := (hu f hf).lf_not_mem
      rw [hcandidates] at hnot
      exact fun hmem => hnot (List.mem_cons_of_mem _ hmem)
    -- the unit, cut before and behind what was searched for
    have hlayout : layout (fs ++ f :: gs) = ((layout fs).dropLast ++
        ([LF] ++ midashi ++ [SP, SLASH])) ++ (candidates ++ LF :: t) := by
      rw [layout_append, layout_cons, Entry.text, hfmidashi, hcandidates, ht]
      simp
    have hstart : i + ([LF] ++ midashi ++ [SP, SLASH]).length =
        ((layout fs).dropLast ++ ([LF] ++ midashi ++ [SP, SLASH])).length := by
      rw [← hi, ← List.length_append]
    rw [findCandidates]
    dsimp only
    rw [hfind]
    dsimp only
    rw [hstart, hlayout, sliceFrom_append, Outcome.ok_bind, find_singleton hcandidatesLf]
    dsimp only
    rw [slice_append, Outcome.ok_bind, if_pos (by rfl : isEmptyCandidates [0x31]), ← hftext,
      hcandidates]
    rfl

/-- Where no entry has the midashi, nothing is found. -/
lemma findCandidates_layout_of_not_mem {midashi : Bytes} (hmidashi : SP ∉ midashi)
    {u : List Entry} (hu : ∀ e ∈ u, IsCandidatesText e.candidates)
    (hmem : ∀ e ∈ u, e.midashi ≠ midashi) :
    findCandidates midashi (layout u) [0x31] = .ok [0x31] := by
  have hpattern : [LF] ++ midashi ++ [SP, SLASH] = LF :: (midashi ++ [SP, SLASH]) := rfl
  cases hfind : find ([LF] ++ midashi ++ [SP, SLASH]) (layout u) with
  | none =>
    rw [findCandidates]
    dsimp only
    rw [hfind]
    rfl
  | some i =>
    rw [hpattern] at hfind
    obtain ⟨pre, x, post, hsplit, -, hstart, -⟩ :=
      find_delimited_eq_some (by simp) (lf_not_mem_of_mem_texts u) hfind
    obtain ⟨fs, rest, rfl, rfl, hrest⟩ := List.map_eq_append_iff.mp hsplit
    obtain ⟨f, gs, rfl, rfl, rfl⟩ := List.map_eq_cons_iff.mp hrest
    have hf : f ∈ fs ++ f :: gs := by simp
    exact absurd ((searchBytes_prefix_iff hmidashi (hu f hf) _).mp hstart) (hmem f hf)

/-! ## A key -/

section Units

variable {file : Bytes} {blocksOffset : UInt32} {es : List Entry}
  {informations : List DictionaryBlockInformation} {units : List (List Entry)}

/-- **The unit that is searched has the answer of all entries of the key.** -/
theorem readDictionaryForReadCandidates_eq
    (h : IsUnitsOf file blocksOffset es informations units)
    (hes : ∀ e ∈ es, IsCandidatesText e.candidates) {midashi : Bytes} (hmidashi : SP ∉ midashi)
    {text : Option Bytes}
    (htext : ∀ c, text = some c ↔ ∃ e ∈ es, e.midashi = midashi ∧ e.candidates = c)
    {f : DictionaryFile} (hf : f.Holds file) :
    ∃ f', readDictionaryForReadCandidates midashi informations blocksOffset f [0x31] =
        (.ok ([0x31] ++ text.getD []), f') ∧ f'.Holds file := by
  have hnone : (∀ e ∈ es, e.midashi ≠ midashi) → text = none := by
    intro hall
    cases text with
    | none => rfl
    | some c =>
      obtain ⟨e, he, hemidashi, -⟩ := (htext c).mp rfl
      exact absurd hemidashi (hall e he)
  unfold readDictionaryForReadCandidates
  rw [getBlockInformationsIndex_eq midashi h.length_lt h.isDescending]
  dsimp only
  rcases h.search midashi with ⟨hend, habove⟩ |
    ⟨hi, u, pre, post, hsplit, -, hunit, hle, hpost, hpre⟩
  · rw [if_pos (by omega), hnone fun e he heq => by grind]
    exact ⟨f, rfl, hf⟩
  · obtain ⟨f', hread, hf'⟩ := hf.read hunit.end_le
    rw [if_neg (by omega), index_of_lt hi]
    dsimp only
    rw [hread, hunit.whole]
    dsimp only
    rw [Outcome.ok_bind]
    refine ⟨f', ?_, hf'⟩
    congr 1
    have hsub : ∀ e ∈ u, e ∈ es := by
      intro e he
      rw [← h.flatten, hsplit]
      simp [he]
    -- an entry of the midashi can only be in this unit
    have hmem : ∀ e ∈ es, e.midashi = midashi → e ∈ u := by
      intro e he heq
      rw [← h.flatten, hsplit, List.flatten_append, List.flatten_cons, List.mem_append,
        List.mem_append] at he
      rcases he with he | he | he
      · obtain ⟨w, hw, hew⟩ := List.mem_flatten.mp he
        have hlt := hpre w hw e hew
        grind
      · exact he
      · obtain ⟨w, hw, hew⟩ := List.mem_flatten.mp he
        have hlt := hpost w hw e hew
        grind
    cases htextEq : text with
    | none =>
      refine findCandidates_layout_of_not_mem hmidashi (fun e he => hes e (hsub e he)) ?_
      intro e he heq
      have hsome := (htext e.candidates).mpr ⟨e, hsub e he, heq, rfl⟩
      rw [htextEq] at hsome
      simp at hsome
    | some c =>
      obtain ⟨e, he, hemidashi, -⟩ := (htext c).mp htextEq
      refine findCandidates_layout_of_mem hmidashi (fun e he => hes e (hsub e he)) ?_
        ⟨e, hmem e he hemidashi, hemidashi⟩
      intro e' he' heq
      have hsome := (htext e'.candidates).mpr ⟨e', hsub e' he', heq, rfl⟩
      rw [htextEq, Option.some.injEq] at hsome
      exact hsome.symm

end Units

/-! ## A request -/

/-- The last byte of a request is no part of the midashi, be it a space or not. -/
lemma getMidashi_append_last (command last : UInt8) (midashi : Bytes) :
    getMidashi ([command] ++ midashi ++ [last]) = .ok midashi := by
  have hlength : ([command] ++ midashi ++ [last]).length =
      [command].length + midashi.length + 1 := by
    simp only [List.length_append, List.length_singleton]
  rw [getMidashi, checkedSub, if_pos (by omega), Outcome.ok_bind, hlength, Nat.add_sub_cancel,
    List.append_assoc]
  exact slice_append [command] midashi [last]

lemma sliceFrom_append_last (command last : UInt8) (midashi : Bytes) :
    (sliceFrom ([command] ++ midashi ++ [last]) 1 : Result Bytes) = .ok (midashi ++ [last]) := by
  rw [List.append_assoc]
  exact sliceFrom_append [command] _

/-- **Exact lookup, end to end.**  With Google disabled, a dictionary that was built from entries
and loaded answers a request with `1` and the candidates of the midashi, or with `1` where the
entries have no such midashi. -/
theorem readCandidates_eq {m : JisyoEntriesMap} (hm : IsJisyoEntries m) {file : Bytes}
    (r : DictionaryReader) (hloaded : IsLoaded m file r.onMemory)
    (hgoogle : r.config.googleTiming = .Disable) (world : GoogleWorld) {s : Session}
    (hs : s.dictionaryFile.Holds file) {midashi : Bytes} (hspace : SP ∉ midashi)
    {key : DictionaryMidashiKey} (hkey : getDictionaryMidashiKey midashi = .ok key) :
    ∃ s', r.readCandidates world s ([0x31] ++ midashi ++ [SP]) =
        (.ok ([0x31] ++ (m[midashi]?).getD []), s') ∧
      s'.dictionaryFile.Holds file ∧ s'.cache = s.cache := by
  have hask : ∀ result, r.ignoreGoogleError world (decide (r.config.googleTiming = .First))
      s.cache midashi result = .ok (result, s.cache) := by
    intro result
    rw [ignoreGoogleError, hgoogle]
    rfl
  have haskLast : ∀ result, r.ignoreGoogleError world
      (decide (r.config.googleTiming = .Last ∨
        (r.config.googleTiming = .NotFound ∧ isEmptyCandidates result)))
      s.cache midashi result = .ok (result, s.cache) := by
    intro result
    rw [ignoreGoogleError, hgoogle]
    simp
  -- an entry of the midashi is among the entries of the key of the request
  have htext : ∀ key', (IsEucKey key → key' = key) → ∀ c, m[midashi]? = some c ↔
      ∃ e ∈ entriesOf m hm.isEntry key', e.midashi = midashi ∧ e.candidates = c := by
    intro key' hkey' c
    constructor
    · intro hget
      have hp := Std.ExtTreeMap.mem_toList_iff_getElem?_eq_some.mpr hget
      have hmem : midashi ∈ m := by
        rw [← Std.ExtTreeMap.isSome_getElem?_iff_mem, hget, Option.isSome_some]
      have heuc : IsEucKey key := ⟨midashi, hm.starts midashi hmem, hkey⟩
      refine ⟨Entry.of (midashi, c) (hm.isEntry _ hp), ?_, rfl, rfl⟩
      rw [hkey' heuc]
      exact mem_entriesOf.mpr ⟨hget, hkey⟩
    · rintro ⟨e, he, rfl, rfl⟩
      exact (mem_entriesOf.mp he).1
  unfold readCandidates
  rw [getMidashi_append_last, Outcome.ok_bind, sliceFrom_append_last, Outcome.ok_bind,
    getDictionaryMidashiKey_append hkey, Outcome.ok_bind, hask, Outcome.ok_bind]
  rcases hloaded.lookup hm.isEntry hm.starts key with ⟨hnone, hempty⟩ |
    ⟨key', informations, units, hsome, hkey', hunits⟩
  · have hget : m[midashi]? = none := by
      cases hget : m[midashi]? with
      | none => rfl
      | some c =>
        have hmem : midashi ∈ m := by
          rw [← Std.ExtTreeMap.isSome_getElem?_iff_mem, hget, Option.isSome_some]
        obtain ⟨e, he, -⟩ := (htext key (fun _ => rfl) c).mp hget
        rw [hempty ⟨midashi, hm.starts midashi hmem, hkey⟩] at he
        simp at he
    rw [hnone, hget]
    dsimp only [Outcome.ok_bind, Outcome.pure_eq]
    rw [haskLast]
    exact ⟨_, rfl, hs, rfl⟩
  · obtain ⟨f, hread, hf⟩ := readDictionaryForReadCandidates_eq hunits
      (fun e he => hm.candidates_of_mem he) hspace (htext key' hkey') hs
    rw [hsome]
    dsimp only [Outcome.ok_bind, Outcome.pure_eq]
    rw [hread]
    dsimp only
    rw [haskLast]
    exact ⟨_, rfl, hf, rfl⟩

/-- A candidate of any length. -/
lemma isCandidatesText_replicate {n : ℕ} (hn : n ≠ 0) :
    IsCandidatesText ([SLASH] ++ List.replicate n 0x78 ++ [SLASH]) := by
  have hx : ∀ b ∈ List.replicate n (0x78 : UInt8), b = 0x78 :=
    fun b hb => List.eq_of_mem_replicate hb
  refine ⟨[List.replicate n 0x78], ⟨List.cons_ne_nil _ _, ?_, ?_, ?_⟩, by simp [delimited]⟩
  · rw [List.forall_mem_singleton]
    simpa using hn
  · rw [List.forall_mem_singleton]
    exact fun h => absurd (hx _ h) (by decide)
  · rw [List.forall_mem_singleton]
    exact fun h => absurd (hx _ h) (by decide)

lemma isJisyoEntries_straddlingEntries : IsJisyoEntries straddlingEntries where
  space_not_mem midashi h := by
    rcases mem_straddlingEntries h with rfl | rfl | rfl <;> decide
  lf_not_mem midashi h := by
    rcases mem_straddlingEntries h with rfl | rfl | rfl <;> decide
  starts := startsWithEucChar_of_mem_straddlingEntries
  candidates midashi text h := by
    rcases getElem?_straddlingEntries h with ⟨-, rfl⟩ | ⟨-, rfl⟩ | ⟨-, rfl⟩
    · exact isCandidatesText_replicate (by decide)
    · exact ⟨[ascii "y", ascii "z"], ⟨by decide, by decide, by decide, by decide⟩, by decide⟩
    · exact ⟨[ascii "b"], ⟨by decide, by decide, by decide, by decide⟩, by decide⟩

/-- A created dictionary, as a server that has the tables `t` loads it. -/
lemma exists_loaded_straddlingEntries (encoding : Encoding) {initialized : Option EncodingTables}
    {t : EncodingTables} (htable : onceInitEncodingTable initialized emptyTable = .ok t) :
    ∃ file onMemory,
      create (fun _ => SHA1SUM_ZERO) encoding emptyTable straddlingEntries = .ok file ∧
      setup (fun _ => SHA1SUM_ZERO) 1024 initialized file = .ok (onMemory, t) ∧
      IsLoaded straddlingEntries file onMemory ∧
      onMemory.dictionaryFixedHeader.encoding = encoding.toU32 := by
  obtain ⟨file, hcreate, hfile⟩ := exists_create_straddlingEntries encoding
  obtain ⟨blockMap, hmap, hfits, -⟩ := setup_create (by decide : 0 < 1024) htable
    startsWithEucChar_of_mem_straddlingEntries hcreate hfile
  obtain ⟨onMemory, -, -, -, hsetup, -, -, -, -, hencoding, -⟩ :=
    hfits (recordFits_straddlingEntries blockMap hmap)
  exact ⟨file, onMemory, hcreate, hsetup,
    isLoaded_of_setup (by decide) htable hcreate hfile hsetup, hencoding⟩

/-- An entry of the second unit of its key, and one of another key. -/
theorem readCandidates_eq_straddlingEntries :
    ∃ file onMemory s' s'',
      create (fun _ => SHA1SUM_ZERO) .Euc emptyTable straddlingEntries = .ok file ∧
      setup (fun _ => SHA1SUM_ZERO) 1024 none file = .ok (onMemory, .empty) ∧
      readCandidates ⟨{ googleTiming := .Disable }, onMemory, .empty⟩ offline
        ⟨{ file := file, buffer := [] }, ∅⟩ (ascii "1aab ") = (.ok (ascii "1/y/z/"), s') ∧
      readCandidates ⟨{ googleTiming := .Disable }, onMemory, .empty⟩ offline s'
        [0x31, 0xa4, 0xa2, SP] = (.ok (ascii "1/b/"), s'') := by
  obtain ⟨file, onMemory, hcreate, hsetup, hloaded, -⟩ :=
    exists_loaded_straddlingEntries .Euc onceInit_emptyTable
  have hholds : DictionaryFile.Holds file { file := file, buffer := [] } :=
    ⟨rfl, rfl, Nat.zero_le _, rfl⟩
  obtain ⟨s', hread, hholds', -⟩ := readCandidates_eq isJisyoEntries_straddlingEntries
    ⟨{ googleTiming := .Disable }, onMemory, .empty⟩ hloaded rfl offline
    (s := ⟨{ file := file, buffer := [] }, ∅⟩) hholds (by decide : SP ∉ ascii "aab") rfl
  obtain ⟨s'', hread', -⟩ := readCandidates_eq isJisyoEntries_straddlingEntries
    ⟨{ googleTiming := .Disable }, onMemory, .empty⟩ hloaded rfl offline hholds'
    (by decide : SP ∉ ([0xa4, 0xa2] : Bytes)) rfl
  exact ⟨file, onMemory, s', s'', hcreate, hsetup, hread, hread'⟩

end DictionaryReader

end Yaskkserv2
