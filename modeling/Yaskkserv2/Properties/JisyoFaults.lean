import Yaskkserv2.Properties.Keys
import Yaskkserv2.Properties.LineEffects

/-!
# Lines that stop the builder

A line that passes the checks of the reader can still stop the program: its last slash stands before
its first space, or its midashi is a truncated character, of which the key is made.  It can also
make the builder fail: its midashi begins with no EUC character, or the text of its warning is not
UTF-8.

Where no line of a jisyo does that, every line is skipped or adds one entry, and the entries are
those of the lines that are not skipped (`getMergedJisyoEntriesMap_createTemporaryBlockMap_iff`).
-/

namespace Yaskkserv2

open Framework Dictionary DictionaryCreator

/-! ## Keys -/

/-- The bytes of which `get_dictionary_midashi_key` makes the key are there. -/
def BeginsWithKey : Bytes → Prop
  | [] => False
  | b :: rest => b ≤ 0x7f ∨ Euc.IsLead2 b ∧ 1 ≤ rest.length ∨ b = 0x8f ∧ 2 ≤ rest.length

lemma exists_getDictionaryMidashiKey_iff {midashi : Bytes} :
    (∃ key, getDictionaryMidashiKey midashi = .ok key) ↔ BeginsWithKey midashi := by
  cases midashi with
  | nil => exact iff_of_false (by simp [getDictionaryMidashiKey, index]) id
  | cons b rest =>
    rw [BeginsWithKey]
    by_cases hlead : Euc.IsLead2 b
    · have hascii : ¬ b ≤ 0x7f := fun h => not_isLead2_of_le h hlead
      have hthree : b ≠ 0x8f := by
        rintro rfl
        exact absurd hlead (by decide)
      cases rest with
      | nil =>
        refine iff_of_false ?_ (by simp [hascii, hthree])
        rintro ⟨key, h⟩
        rw [getDictionaryMidashiKey, index_cons_zero, Outcome.ok_bind, if_pos hlead] at h
        simp [index] at h
      | cons b₁ rest =>
        exact iff_of_true ⟨_, getDictionaryMidashiKey_two hlead rest⟩ (.inr (.inl ⟨hlead, by simp⟩))
    by_cases hascii : b ≤ 0x7f
    · exact iff_of_true ⟨_, getDictionaryMidashiKey_ascii hascii rest⟩ (.inl hascii)
    by_cases hthree : b = 0x8f
    · subst hthree
      have hnone : ∀ rest : Bytes, rest.length < 2 →
          ¬ ∃ key, getDictionaryMidashiKey (0x8f :: rest) = .ok key := by
        intro rest hshort
        rcases rest with _ | ⟨b₁, _ | ⟨b₂, rest⟩⟩
        · simp [getDictionaryMidashiKey, index]
        · simp [getDictionaryMidashiKey, index]
        · simp at hshort
      rcases rest with _ | ⟨b₁, _ | ⟨b₂, rest⟩⟩
      · exact iff_of_false (hnone [] (by simp)) (by simp [hlead])
      · exact iff_of_false (hnone [b₁] (by simp)) (by simp [hlead])
      · exact iff_of_true ⟨_, getDictionaryMidashiKey_three b₁ b₂ rest⟩
          (.inr (.inr ⟨rfl, by simp⟩))
    · refine iff_of_false ?_ (by simp [hascii, hlead, hthree])
      rintro ⟨key, h⟩
      rw [getDictionaryMidashiKey, index_cons_zero, Outcome.ok_bind, if_neg hlead, if_neg hascii,
        if_neg hthree] at h
      simp at h

lemma exists_foldlM_insertJisyoLine_iff {entries : List (Bytes × Bytes)} {t : TemporaryBlockMap} :
    (∃ t', entries.foldlM insertJisyoLine t = .ok t') ↔ ∀ p ∈ entries, BeginsWithKey p.1 := by
  induction entries generalizing t with
  | nil => simp
  | cons p entries ih =>
    rw [List.forall_mem_cons, ← exists_getDictionaryMidashiKey_iff]
    simp only [List.foldlM_cons, insertJisyoLine, Outcome.bind_eq_ok]
    constructor
    · rintro ⟨t', t₁, ⟨key, hkey, -⟩, hrest⟩
      exact ⟨⟨key, hkey⟩, ih.mp ⟨t', hrest⟩⟩
    · rintro ⟨⟨key, hkey⟩, hrest⟩
      obtain ⟨t', ht'⟩ := ih.mpr hrest
      exact ⟨t', _, ⟨key, hkey, rfl⟩, ht'⟩

/-- The entries can be grouped when the key of every midashi can be made. -/
lemma exists_createTemporaryBlockMap_iff {m : JisyoEntriesMap} :
    (∃ t, createTemporaryBlockMap m = .ok t) ↔ ∀ midashi ∈ m, BeginsWithKey midashi := by
  rw [createTemporaryBlockMap, exists_foldlM_insertJisyoLine_iff]
  constructor
  · intro h midashi hmem
    exact h (midashi, m[midashi]) (Std.ExtTreeMap.mem_toList_iff_getElem?_eq_some.mpr
      (Std.ExtTreeMap.getElem?_eq_some_getElem hmem))
  · intro h p hp
    have hget := Std.ExtTreeMap.mem_toList_iff_getElem?_eq_some.mp hp
    refine h p.1 ?_
    rw [← Std.ExtTreeMap.isSome_getElem?_iff_mem, hget, Option.isSome_some]

namespace JisyoReader

/-! ## The entries of the lines -/

lemma mem_mergeEntry {m : JisyoEntriesMap} {midashi candidates key : Bytes} :
    key ∈ mergeEntry m midashi candidates ↔ key = midashi ∨ key ∈ m := by
  have hkey : compare midashi key = .eq ↔ key = midashi := by
    rw [Std.LawfulEqCmp.compare_eq_iff_eq, eq_comm]
  rw [mergeEntry]
  split
  · rw [Std.ExtTreeMap.mem_insert, hkey]
  · rw [Std.ExtTreeMap.mem_insert, hkey]

lemma mem_foldl_addEntry {es : List (Option (Bytes × Bytes))} {m : JisyoEntriesMap} {key : Bytes} :
    key ∈ es.foldl addEntry m ↔ (∃ candidates, some (key, candidates) ∈ es) ∨ key ∈ m := by
  induction es generalizing m with
  | nil => simp
  | cons e es ih =>
    rw [List.foldl_cons, ih]
    cases e with
    | none => simp [addEntry]
    | some e =>
      rw [addEntry, mem_mergeEntry]
      constructor
      · rintro (⟨candidates, hmem⟩ | rfl | hmem)
        · exact .inl ⟨candidates, List.mem_cons_of_mem _ hmem⟩
        · exact .inl ⟨e.2, List.mem_cons_self⟩
        · exact .inr hmem
      · rintro (⟨candidates, hmem⟩ | hmem)
        · rcases List.mem_cons.mp hmem with heq | hmem
          · exact .inr (.inl (congrArg Prod.fst (Option.some.inj heq)))
          · exact .inl ⟨candidates, hmem⟩
        · exact .inr (.inr hmem)

/-- What adds nothing can be left out. -/
lemma foldl_addEntry (f : Bytes → Option (Bytes × Bytes)) (lines : List Bytes)
    (m : JisyoEntriesMap) :
    (lines.map f).foldl addEntry m =
      (lines.filterMap f).foldl (fun m e => mergeEntry m e.1 e.2) m := by
  induction lines generalizing m with
  | nil => rfl
  | cons line lines ih =>
    rw [List.map_cons, List.foldl_cons, List.filterMap_cons, ih]
    cases f line with
    | none => rfl
    | some e => rfl

section File

variable (t : EncodingTables) (jisyoEncoding : Encoding) (outputEncoding : Option Encoding)

/-- A line does no harm where it is not skipped: its last slash stands behind its first space, the
text that is needed of it is UTF-8, and the key of the midashi in front of the space can be made. -/
structure IsHarmless (line : Bytes) : Prop where
  slashBehind : HasSlashBehind line
  readable : NeedsText t jisyoEncoding outputEncoding line →
    isUtf8 (lineText t jisyoEncoding line) = true
  key : ∀ midashi candidates, IsCutInto line midashi candidates →
    BeginsWithKey (storedMidashi t jisyoEncoding outputEncoding midashi)

variable {t jisyoEncoding outputEncoding}

lemma entryOf_eq_some_iff {line midashi candidates : Bytes} :
    entryOf t jisyoEncoding outputEncoding line = some (midashi, candidates) ↔
      isSkipAndPrintWarning line ≠ .ok true ∧ ∃ midashi' candidates',
        IsCutInto line midashi' candidates' ∧
        storedMidashi t jisyoEncoding outputEncoding midashi' = midashi ∧
        Candidates.removeDuplicatesBytes
          (convertedCandidates t jisyoEncoding outputEncoding candidates') = candidates := by
  rw [entryOf]
  by_cases hskip : isSkipAndPrintWarning line = .ok true
  · simp [hskip]
  rw [if_neg hskip, and_iff_right hskip]
  simp only [← getMidashiCandidates_eq_ok_iff]
  cases getMidashiCandidates line with
  | ok cut =>
    simp only [Option.some.injEq, Outcome.ok.injEq, Prod.ext_iff]
    constructor
    · exact fun h => ⟨cut.1, cut.2, ⟨rfl, rfl⟩, h⟩
    · rintro ⟨_, _, ⟨rfl, rfl⟩, h⟩
      exact h
  | error | panic | diverge => simp

/-- The reader goes on behind a line, and the key of the midashi that it adds can be made. -/
lemma goesOn_and_key_iff {line : Bytes} :
    (GoesOn t jisyoEncoding outputEncoding line ∧ ∀ midashi candidates,
      entryOf t jisyoEncoding outputEncoding line = some (midashi, candidates) →
        BeginsWithKey midashi) ↔
      isSkipAndPrintWarning line = .ok true ∨ IsHarmless t jisyoEncoding outputEncoding line := by
  by_cases hskip : isSkipAndPrintWarning line = .ok true
  · refine iff_of_true ⟨.inl hskip, fun midashi candidates h => ?_⟩ (.inl hskip)
    exact absurd hskip (entryOf_eq_some_iff.mp h).1
  rw [GoesOn, or_iff_right hskip, or_iff_right hskip]
  constructor
  · rintro ⟨⟨hslash, htext⟩, hkey⟩
    exact ⟨hslash, htext, fun midashi candidates hcut =>
      hkey _ _ (entryOf_eq_some_iff.mpr ⟨hskip, midashi, candidates, hcut, rfl, rfl⟩)⟩
  · rintro ⟨hslash, htext, hkey⟩
    refine ⟨⟨hslash, htext⟩, fun midashi candidates h => ?_⟩
    obtain ⟨-, midashi', candidates', hcut, rfl, -⟩ := entryOf_eq_some_iff.mp h
    exact hkey midashi' candidates' hcut

end File

lemma isHarmless_abcLine : IsHarmless .empty .Euc (some .Euc) abcLine := by
  have hcut : getMidashiCandidates abcLine = .ok (ascii "abc", ascii "/d/") := rfl
  refine ⟨?_, fun h => ?_, fun midashi candidates h => ?_⟩
  · rw [← getMidashiCandidates_ne_panic_iff, hcut]
    simp
  · exact absurd rfl ((needsText_iff_of_cut hcut).mp h)
  · rw [← getMidashiCandidates_eq_ok_iff, hcut, Outcome.ok.injEq, Prod.mk.injEq] at h
    obtain ⟨rfl, -⟩ := h
    exact .inl (by decide)

end JisyoReader

end Yaskkserv2
