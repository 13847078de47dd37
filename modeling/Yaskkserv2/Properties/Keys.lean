import Yaskkserv2.EncodingSimple.Euc
import Yaskkserv2.Properties.BlockLayout

/-!
# Keys of midashi, and the blocks of the keys

A key is the first character of a midashi.  For midashi that begin with a well-formed EUC
character the key is always there, and two keys that share a slot of `index_ascii_hiragana_vec`
are equal: the slots below 0x80 belong to ASCII, the slots from 0xa1 on to the second bytes of the
hiragana row.

`create_temporary_block_map` groups the entries by key: the block of a key is the layout of the
entries that have it, in the order of the map.
-/

namespace Yaskkserv2

open Framework Dictionary DictionaryCreator

/-! ## Well-formed EUC characters -/

/-- A text that begins with a well-formed EUC character. -/
inductive StartsWithEucChar : Bytes → Prop
  | ascii {b : UInt8} {rest : Bytes} (h : b ≤ 0x7f) : StartsWithEucChar (b :: rest)
  | two {b₀ b₁ : UInt8} {rest : Bytes} (lead : Euc.IsLead2 b₀) (trail : IsTrail b₁) :
      StartsWithEucChar (b₀ :: b₁ :: rest)
  | three {b₁ b₂ : UInt8} {rest : Bytes} (trail₁ : IsTrail b₁) (trail₂ : IsTrail b₂) :
      StartsWithEucChar (0x8f :: b₁ :: b₂ :: rest)

/-- A key of a well-formed EUC character. -/
def IsEucKey (key : DictionaryMidashiKey) : Prop :=
  ∃ midashi, StartsWithEucChar midashi ∧ getDictionaryMidashiKey midashi = .ok key

lemma not_isLead2_of_le {b : UInt8} (h : b ≤ 0x7f) : ¬ Euc.IsLead2 b := by
  rintro (⟨h1, -⟩ | rfl)
  · exact absurd (UInt8.le_trans h1 h) (by decide)
  · exact absurd h (by decide)

lemma getDictionaryMidashiKey_ascii {b : UInt8} (h : b ≤ 0x7f) (rest : Bytes) :
    getDictionaryMidashiKey (b :: rest) = .ok #v[b, 0, 0, 0] := by
  rw [getDictionaryMidashiKey, index_cons_zero, Outcome.ok_bind, if_neg (not_isLead2_of_le h),
    if_pos h]
  rfl

lemma getDictionaryMidashiKey_two {b₀ b₁ : UInt8} (h : Euc.IsLead2 b₀) (rest : Bytes) :
    getDictionaryMidashiKey (b₀ :: b₁ :: rest) = .ok #v[b₀, b₁, 0, 0] := by
  rw [getDictionaryMidashiKey, index_cons_zero, Outcome.ok_bind, if_pos h]
  rfl

lemma getDictionaryMidashiKey_three (b₁ b₂ : UInt8) (rest : Bytes) :
    getDictionaryMidashiKey (0x8f :: b₁ :: b₂ :: rest) = .ok #v[0x8f, b₁, b₂, 0] := rfl

/-- What follows a complete character does not change the key. -/
lemma getDictionaryMidashiKey_append {midashi : Bytes} {key : DictionaryMidashiKey}
    (h : getDictionaryMidashiKey midashi = .ok key) (rest : Bytes) :
    getDictionaryMidashiKey (midashi ++ rest) = .ok key := by
  rw [getDictionaryMidashiKey, Outcome.bind_eq_ok] at h
  obtain ⟨b₀, h₀, h⟩ := h
  rw [getDictionaryMidashiKey, index_append_of_eq_ok h₀, Outcome.ok_bind]
  split at h
  · rename_i hlead
    rw [Outcome.bind_eq_ok] at h
    obtain ⟨b₁, h₁, h⟩ := h
    rw [if_pos hlead, index_append_of_eq_ok h₁]
    exact h
  · rename_i hlead
    rw [if_neg hlead]
    split at h
    · rename_i hascii
      rw [if_pos hascii]
      exact h
    · rename_i hascii
      rw [if_neg hascii]
      split at h
      · rename_i hthree
        simp only [Outcome.bind_eq_ok] at h
        obtain ⟨b₁, h₁, b₂, h₂, h⟩ := h
        rw [if_pos hthree, index_append_of_eq_ok h₁, Outcome.ok_bind, index_append_of_eq_ok h₂]
        exact h
      · simp at h

lemma StartsWithEucChar.exists_key {midashi : Bytes} (h : StartsWithEucChar midashi) :
    ∃ key, getDictionaryMidashiKey midashi = .ok key ∧ IsEucKey key := by
  have hkey : ∃ key, getDictionaryMidashiKey midashi = .ok key := by
    cases h with
    | ascii hb => exact ⟨_, getDictionaryMidashiKey_ascii hb _⟩
    | two hlead _ => exact ⟨_, getDictionaryMidashiKey_two hlead _⟩
    | three _ _ => exact ⟨_, getDictionaryMidashiKey_three _ _ _⟩
  obtain ⟨key, hkey⟩ := hkey
  exact ⟨key, hkey, midashi, h, hkey⟩

/-- Where the tables keep the units of a key. -/
def slot (key : DictionaryMidashiKey) : ℕ ⊕ DictionaryMidashiKey :=
  match getAsciiHiraganaVecIndex key with
  | some i => .inl i
  | none => .inr key

/-- The key of an EUC character, by its length. -/
lemma IsEucKey.cases {key : DictionaryMidashiKey} (h : IsEucKey key) :
    (∃ b ≤ 0x7f, key = #v[b, 0, 0, 0]) ∨
    (∃ b₁, IsTrail b₁ ∧ key = #v[0xa4, b₁, 0, 0]) ∨
    getAsciiHiraganaVecIndex key = none := by
  obtain ⟨midashi, hstarts, hkey⟩ := h
  cases hstarts with
  | @ascii b rest hb =>
    rw [getDictionaryMidashiKey_ascii hb, Outcome.ok.injEq] at hkey
    exact .inl ⟨b, hb, hkey.symm⟩
  | @two b₀ b₁ rest hlead htrail =>
    rw [getDictionaryMidashiKey_two hlead, Outcome.ok.injEq] at hkey
    subst hkey
    by_cases ha4 : b₀ = 0xa4
    · exact .inr (.inl ⟨b₁, htrail, by rw [ha4]⟩)
    · have hnot : ¬ b₀ ≤ 0x7f := fun hle => not_isLead2_of_le hle hlead
      exact .inr (.inr ((if_neg hnot).trans (if_neg ha4)))
  | three _ _ =>
    rw [getDictionaryMidashiKey_three, Outcome.ok.injEq] at hkey
    subst hkey
    exact .inr (.inr rfl)

/-- **Keys of EUC characters have slots of their own.** -/
theorem slot_inj {k l : DictionaryMidashiKey} (hk : IsEucKey k) (hl : IsEucKey l)
    (h : slot k = slot l) : k = l := by
  have hascii : ∀ b : UInt8, b ≤ 0x7f → slot #v[b, 0, 0, 0] = .inl b.toNat := by
    intro b hb
    have hindex : getAsciiHiraganaVecIndex #v[b, 0, 0, 0] = some b.toNat := if_pos hb
    rw [slot, hindex]
  have hhiragana : ∀ b : UInt8, slot #v[0xa4, b, 0, 0] = .inl b.toNat := fun _ => rfl
  have hother : ∀ key : DictionaryMidashiKey, getAsciiHiraganaVecIndex key = none →
      slot key = .inr key := by
    intro key hindex
    rw [slot, hindex]
  have hapart : ∀ b c : UInt8, b ≤ 0x7f → IsTrail c → b.toNat ≠ c.toNat := by
    intro b c hb hc heq
    have hbc := UInt8.toNat_inj.mp heq
    subst hbc
    exact absurd (UInt8.le_trans hc.1 hb) (by decide)
  rcases hk.cases with ⟨b, hb, rfl⟩ | ⟨b, hb, rfl⟩ | hk1 <;>
    rcases hl.cases with ⟨c, hc, rfl⟩ | ⟨c, hc, rfl⟩ | hl1
  · rw [hascii b hb, hascii c hc, Sum.inl.injEq, UInt8.toNat_inj] at h
    rw [h]
  · rw [hascii b hb, hhiragana, Sum.inl.injEq] at h
    exact absurd h (hapart b c hb hc)
  · rw [hascii b hb, hother l hl1] at h
    simp at h
  · rw [hhiragana, hascii c hc, Sum.inl.injEq] at h
    exact absurd h.symm (hapart c b hc hb)
  · rw [hhiragana, hhiragana, Sum.inl.injEq, UInt8.toNat_inj] at h
    rw [h]
  · rw [hhiragana, hother l hl1] at h
    simp at h
  · rw [hother k hk1, hascii c hc] at h
    simp at h
  · rw [hother k hk1, hhiragana] at h
    simp at h
  · rw [hother k hk1, hother l hl1, Sum.inr.injEq] at h
    exact h

/-! ## The blocks of the keys -/

/-- The lines of the entries of a key. -/
def linesOf (key : DictionaryMidashiKey) (entries : List (Bytes × Bytes)) : List Bytes :=
  (entries.filter fun p => getDictionaryMidashiKey p.1 = .ok key).map
    fun p => entryLine p.1 p.2

lemma foldlM_insertJisyoLine {entries : List (Bytes × Bytes)} {t t' : TemporaryBlockMap}
    (h : entries.foldlM insertJisyoLine t = .ok t') (key : DictionaryMidashiKey) :
    t'.getD key [LF] = t.getD key [LF] ++ (linesOf key entries).flatten ∧
      (key ∈ t' ↔ key ∈ t ∨ linesOf key entries ≠ []) := by
  induction entries generalizing t with
  | nil =>
    rw [List.foldlM_nil, Outcome.pure_eq, Outcome.ok.injEq] at h
    subst h
    simp [linesOf]
  | cons p entries ih =>
    rw [List.foldlM_cons, Outcome.bind_eq_ok] at h
    obtain ⟨t₁, hinsert, hrest⟩ := h
    rw [insertJisyoLine, Outcome.bind_eq_ok] at hinsert
    obtain ⟨k, hk, hinsert⟩ := hinsert
    rw [Outcome.pure_eq, Outcome.ok.injEq] at hinsert
    obtain ⟨hget, hmem⟩ := ih hrest
    rw [hget, hmem, ← hinsert, Std.ExtTreeMap.getD_insert, Std.ExtTreeMap.mem_insert]
    by_cases hkey : k = key
    · subst hkey
      have hlines : linesOf k (p :: entries) = entryLine p.1 p.2 :: linesOf k entries := by
        simp [linesOf, hk]
      simp [hlines, Std.ReflCmp.compare_self]
    · have hlines : linesOf key (p :: entries) = linesOf key entries := by
        simp [linesOf, hk, hkey]
      have hcmp : keyCompare k key ≠ .eq := fun heq =>
        hkey (Std.LawfulEqCmp.eq_of_compare heq)
      rw [hlines, if_neg hcmp]
      simp [hcmp]

/-- **The block of a key** is the LF in front and the lines of its entries; the other keys have no
block. -/
theorem createTemporaryBlockMap_spec {m : JisyoEntriesMap} {t : TemporaryBlockMap}
    (h : createTemporaryBlockMap m = .ok t) (key : DictionaryMidashiKey) :
    t[key]? = if linesOf key m.toList = [] then none
      else some (LF :: (linesOf key m.toList).flatten) := by
  obtain ⟨hget, hmem⟩ := foldlM_insertJisyoLine h key
  rw [Std.ExtTreeMap.getD_eq_getD_getElem?] at hget
  have hnot : key ∉ (∅ : TemporaryBlockMap) := Std.ExtTreeMap.not_mem_empty
  by_cases hlines : linesOf key m.toList = []
  · rw [if_pos hlines]
    refine Std.ExtTreeMap.getElem?_eq_none fun hkey => ?_
    exact (hmem.mp hkey).elim hnot (fun hne => hne hlines)
  · rw [if_neg hlines]
    have hkey : key ∈ t := hmem.mpr (.inr hlines)
    have hsome := Std.ExtTreeMap.getElem?_eq_some_getElem hkey
    rw [hsome, Option.getD_some] at hget
    rw [hsome, hget]
    simp [Std.ExtTreeMap.getD_eq_getD_getElem?]

/-- An entry of the map that a block can hold. -/
structure IsEntry (p : Bytes × Bytes) : Prop where
  space_not_mem : SP ∉ p.1
  lf_not_mem_midashi : LF ∉ p.1
  lf_not_mem_candidates : LF ∉ p.2

/-- The entry of a block. -/
def Entry.of (p : Bytes × Bytes) (h : IsEntry p) : Entry :=
  ⟨p.1, p.2, h.space_not_mem, h.lf_not_mem_midashi, h.lf_not_mem_candidates⟩

/-- The entries of a key, in ascending order of their midashi. -/
def entriesOf (m : JisyoEntriesMap) (hm : ∀ p ∈ m.toList, IsEntry p)
    (key : DictionaryMidashiKey) : List Entry :=
  (m.toList.filter fun p => getDictionaryMidashiKey p.1 = .ok key).pmap Entry.of
    fun p hp => hm p (List.mem_of_mem_filter hp)

variable {m : JisyoEntriesMap} {hm : ∀ p ∈ m.toList, IsEntry p} {key : DictionaryMidashiKey}

lemma layout_entriesOf : layout (entriesOf m hm key) = LF :: (linesOf key m.toList).flatten := by
  have hline : ∀ (l : List (Bytes × Bytes)) (hl : ∀ p ∈ l, IsEntry p),
      layout (l.pmap Entry.of hl) = LF :: (l.map fun p => entryLine p.1 p.2).flatten := by
    intro l hl
    rw [layout, delimited, List.map_pmap]
    congr 1
    induction l with
    | nil => rfl
    | cons p l ih =>
      rw [List.pmap_cons, List.flatMap_cons, ih (fun q hq => hl q (List.mem_cons_of_mem p hq)),
        List.map_cons, List.flatten_cons]
      congr 1
      simp [Entry.text, Entry.of, entryLine]
  exact hline _ _

lemma entriesOf_eq_nil_iff : entriesOf m hm key = [] ↔ linesOf key m.toList = [] := by
  rw [entriesOf, List.pmap_eq_nil_iff, linesOf, List.map_eq_nil_iff]

/-- An entry of a key is an entry of the map with that key. -/
lemma mem_entriesOf {e : Entry} :
    e ∈ entriesOf m hm key ↔
      m[e.midashi]? = some e.candidates ∧ getDictionaryMidashiKey e.midashi = .ok key := by
  rw [entriesOf, List.mem_pmap]
  constructor
  · rintro ⟨p, hp, rfl⟩
    rw [List.mem_filter, decide_eq_true_eq] at hp
    exact ⟨Std.ExtTreeMap.mem_toList_iff_getElem?_eq_some.mp hp.1, hp.2⟩
  · rintro ⟨hget, hkey⟩
    refine ⟨(e.midashi, e.candidates), ?_, rfl⟩
    rw [List.mem_filter, decide_eq_true_eq]
    exact ⟨Std.ExtTreeMap.mem_toList_iff_getElem?_eq_some.mpr hget, hkey⟩

lemma pairwise_entriesOf :
    (entriesOf m hm key).Pairwise fun e f => e.midashi < f.midashi := by
  have hsorted : m.toList.Pairwise fun p q => p.1 < q.1 := by
    refine m.ordered_keys_toList.imp ?_
    intro p q hpq
    exact compare_eq_lt_iff.mp hpq
  rw [entriesOf, List.pairwise_pmap]
  refine (hsorted.filter _).imp ?_
  intro p q hpq hp hq
  exact hpq

/-- The block of a key is the layout of its entries. -/
theorem createTemporaryBlockMap_layout {t : TemporaryBlockMap}
    (h : createTemporaryBlockMap m = .ok t) (hm : ∀ p ∈ m.toList, IsEntry p)
    (key : DictionaryMidashiKey) :
    t[key]? = if entriesOf m hm key = [] then none else some (layout (entriesOf m hm key)) := by
  rw [createTemporaryBlockMap_spec h, layout_entriesOf]
  simp only [entriesOf_eq_nil_iff]

end Yaskkserv2
