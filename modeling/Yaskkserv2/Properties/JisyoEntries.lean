import Yaskkserv2.Properties.Keys

/-!
# Well-formed entries of a jisyo

What the server relies on in the entries that the builder was given: a midashi ends at the first
space and an entry at the first LF, candidates stand between slashes, and a midashi begins with a
well-formed EUC character.
-/

namespace Yaskkserv2

open Framework Dictionary DictionaryCreator

/-- The candidates of an entry, one by one. -/
structure IsCandidateList (cs : List Bytes) : Prop where
  ne_nil : cs ≠ []
  candidate_ne_nil : ∀ c ∈ cs, c ≠ []
  slash_not_mem : ∀ c ∈ cs, SLASH ∉ c
  lf_not_mem : ∀ c ∈ cs, LF ∉ c

/-- Candidates as they are stored, `/c1/../cn/`. -/
def IsCandidatesText (text : Bytes) : Prop :=
  ∃ cs, IsCandidateList cs ∧ text = delimited SLASH cs

namespace IsCandidatesText

variable {text : Bytes} (h : IsCandidatesText text)

include h

lemma exists_cons : ∃ rest, text = SLASH :: rest := by
  obtain ⟨cs, -, rfl⟩ := h
  exact ⟨_, rfl⟩

lemma lf_not_mem : LF ∉ text := by
  obtain ⟨cs, hcs, rfl⟩ := h
  have hslash : LF ≠ SLASH := by decide
  rw [delimited, List.mem_cons, List.mem_flatMap, not_or]
  refine ⟨hslash, ?_⟩
  rintro ⟨c, hc, hmem⟩
  rcases List.mem_append.mp hmem with hmem | hmem
  · exact hcs.lf_not_mem c hc hmem
  · exact hslash (List.mem_singleton.mp hmem)

end IsCandidatesText

/-- The entries of a jisyo that a dictionary can be built from. -/
structure IsJisyoEntries (m : JisyoEntriesMap) : Prop where
  space_not_mem : ∀ midashi ∈ m, SP ∉ midashi
  lf_not_mem : ∀ midashi ∈ m, LF ∉ midashi
  starts : ∀ midashi ∈ m, StartsWithEucChar midashi
  candidates : ∀ midashi text : Bytes, m[midashi]? = some text → IsCandidatesText text

namespace IsJisyoEntries

variable {m : JisyoEntriesMap} (hm : IsJisyoEntries m)

include hm

lemma isEntry : ∀ p ∈ m.toList, IsEntry p := by
  intro p hp
  have hget := Std.ExtTreeMap.mem_toList_iff_getElem?_eq_some.mp hp
  have hmem : p.1 ∈ m := by
    rw [← Std.ExtTreeMap.isSome_getElem?_iff_mem, hget, Option.isSome_some]
  exact ⟨hm.space_not_mem _ hmem, hm.lf_not_mem _ hmem, (hm.candidates _ _ hget).lf_not_mem⟩

/-- The candidates of the entries of a key. -/
lemma candidates_of_mem {key : DictionaryMidashiKey} {e : Entry}
    (he : e ∈ entriesOf m hm.isEntry key) : IsCandidatesText e.candidates :=
  hm.candidates _ _ (mem_entriesOf.mp he).1

end IsJisyoEntries

end Yaskkserv2
