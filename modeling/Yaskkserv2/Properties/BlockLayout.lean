import Yaskkserv2.Framework.Delimited
import Yaskkserv2.MakeDictionary.DictionaryCreator

/-!
# Entries, their layout, and units

What a block of a dictionary is, apart from how it is built.  A block holds the entries of one
key, each a line `midashi SP candidates`, with an LF before, between and after them.  Cutting the
block into units partitions the list of entries; a unit is found again by the midashi it begins
with, its place and its length.
-/

namespace Yaskkserv2

open Framework

/-! ## Entries -/

/-- An entry of a block.  The space ends its midashi and an LF ends the entry, so neither may
contain its own end. -/
structure Entry where
  midashi : Bytes
  candidates : Bytes
  space_not_mem : SP ∉ midashi
  lf_not_mem_midashi : LF ∉ midashi
  lf_not_mem_candidates : LF ∉ candidates

namespace Entry

/-- An entry without its two LF. -/
def text (e : Entry) : Bytes := e.midashi ++ SP :: e.candidates

lemma lf_not_mem_text (e : Entry) : LF ∉ e.text := by
  have hne : LF ≠ SP := by decide
  simp [text, e.lf_not_mem_midashi, e.lf_not_mem_candidates, hne]

lemma length_text (e : Entry) : e.text.length = e.midashi.length + 1 + e.candidates.length := by
  simp only [text, List.length_append, List.length_cons]
  omega

end Entry

/-- The block of a list of entries. -/
def layout (es : List Entry) : Bytes := delimited LF (es.map Entry.text)

@[simp] lemma layout_nil : layout [] = [LF] := rfl

lemma layout_cons (e : Entry) (es : List Entry) :
    layout (e :: es) = LF :: (e.text ++ layout es) := delimited_cons

lemma length_layout_pos (es : List Entry) : 0 < (layout es).length := length_delimited_pos _ _

@[simp] lemma length_layout_cons (e : Entry) (es : List Entry) :
    (layout (e :: es)).length = e.text.length + 1 + (layout es).length := length_delimited_cons

lemma layout_append (es fs : List Entry) :
    layout (es ++ fs) = (layout es).dropLast ++ layout fs := by
  rw [layout, List.map_append]
  exact delimited_append _ _ _

lemma layout_eq_dropLast_append (es : List Entry) :
    layout es = (layout es).dropLast ++ [LF] := by
  simpa using layout_append es []

lemma two_lt_length_layout {es : List Entry} (h : es ≠ []) : 2 < (layout es).length := by
  obtain ⟨e, es, rfl⟩ := List.exists_cons_of_ne_nil h
  have hpos := length_layout_pos es
  rw [length_layout_cons, Entry.length_text]
  omega

lemma lf_not_mem_of_mem_texts (es : List Entry) : ∀ x ∈ es.map Entry.text, LF ∉ x := by
  intro x hx
  obtain ⟨e, -, rfl⟩ := List.mem_map.mp hx
  exact e.lf_not_mem_text

/-- The length of the longest entry with its two LF. -/
def longest : List Entry → ℕ
  | [] => 0
  | e :: es => max (e.text.length + 2) (longest es)

lemma length_text_le_longest {e : Entry} {es : List Entry} (h : e ∈ es) :
    e.text.length + 2 ≤ longest es := by
  induction es with
  | nil => simp at h
  | cons f es ih =>
    rw [longest]
    rcases List.mem_cons.mp h with rfl | h
    · exact le_max_left _ _
    · exact (ih h).trans (le_max_right _ _)

/-- The block of a single entry is as long as that entry; a longer block is longer. -/
lemma longest_lt_length_layout {e f : Entry} {es : List Entry} :
    longest (e :: f :: es) < (layout (e :: f :: es)).length := by
  have hle : ∀ gs : List Entry, longest gs ≤ (layout gs).length := by
    intro gs
    induction gs with
    | nil => simp [longest]
    | cons g gs ih =>
      have hpos := length_layout_pos gs
      rw [longest, length_layout_cons]
      omega
  have hes := length_layout_pos es
  have hle' := hle es
  have he := e.length_text
  have hf := f.length_text
  rw [longest, longest, length_layout_cons, length_layout_cons]
  omega

/-! ## Units -/

/-- The midashi of the first entry of a unit. -/
def firstMidashi : List Entry → Bytes
  | [] => []
  | e :: _ => e.midashi

/-- A unit that begins at `position` of a block: its first midashi, its place among the blocks,
and its length. -/
def unitWindow (blocksLen position : ℕ) (u : List Entry) : Bytes × ℕ × ℕ :=
  (firstMidashi u, blocksLen + position, (layout u).length)

/-- Consecutive units, from `position` of the block on: each begins with the LF that ends the one
before it. -/
def unitWindows (blocksLen : ℕ) : ℕ → List (List Entry) → List (Bytes × ℕ × ℕ)
  | _, [] => []
  | position, u :: us =>
    unitWindow blocksLen position u ::
      unitWindows blocksLen (position + ((layout u).length - 1)) us

/-- What the index keeps of a unit, as numbers. -/
def DictionaryBlockInformation.window (v : DictionaryBlockInformation) : Bytes × ℕ × ℕ :=
  (v.midashi, v.offset.toNat, v.length.toNat)

/-- **A block is cut into units.**  The units are consecutive pieces of the list of entries; read
from the back, the informations say where each of them lies; they are listed with descending
midashi; and the aligned block is the block with its padding. -/
structure IsBlockPartition (es : List Entry) (blocksLen : ℕ) (units : List (List Entry))
    (alignedBlock : Bytes) (informations : List DictionaryBlockInformation) : Prop where
  flatten : units.flatten = es
  ne_nil : ∀ u ∈ units, u ≠ []
  windows : informations.reverse.map (·.window) = unitWindows blocksLen 0 units
  descending : informations.Pairwise fun v w => w.midashi < v.midashi
  whole : ∀ v ∈ informations, ∃ u ∈ units, v.midashi = firstMidashi u ∧
    blocksLen ≤ v.offset.toNat ∧
    ((layout es).drop (v.offset.toNat - blocksLen)).take v.length.toNat = layout u
  aligned : ∃ n, alignedBlock = layout es ++ List.replicate n 0x58
  length_dvd : BLOCK_ALIGNMENT_LENGTH.toNat ∣ alignedBlock.length

/-- Where the window of a unit of a block lies, and what it shows. -/
structure IsWindowOf (blocksLen : ℕ) (block : Bytes) (w : Bytes × ℕ × ℕ) (u : List Entry) :
    Prop where
  midashi : w.1 = firstMidashi u
  offset_le : blocksLen ≤ w.2.1
  length : w.2.2 = (layout u).length
  whole : (block.drop (w.2.1 - blocksLen)).take w.2.2 = layout u

/-- **Every unit lies whole in the block**, at the place of its window. -/
lemma forall₂_unitWindows (blocksLen : ℕ) (units : List (List Entry)) (pre : Bytes) :
    List.Forall₂ (IsWindowOf blocksLen (pre ++ layout units.flatten))
      (unitWindows blocksLen pre.length units) units := by
  induction units generalizing pre with
  | nil => exact .nil
  | cons u us ih =>
    rw [unitWindows]
    refine .cons ⟨rfl, Nat.le_add_right _ _, rfl, ?_⟩ ?_
    · obtain ⟨t, ht⟩ : ∃ t, layout (u ++ us.flatten) = layout u ++ t := by
        refine ⟨(layout us.flatten).tail, ?_⟩
        rw [layout_append]
        conv_rhs => rw [layout_eq_dropLast_append u]
        rw [List.append_assoc]
        rfl
      rw [unitWindow, Nat.add_sub_cancel_left, List.drop_left, List.flatten_cons, ht,
        List.take_left]
    · have hpre : pre.length + ((layout u).length - 1) =
          (pre ++ (layout u).dropLast).length := by
        rw [List.length_append, List.length_dropLast]
      rw [hpre, List.flatten_cons, layout_append, ← List.append_assoc]
      exact ih _

lemma exists_of_forall₂_of_mem {α β : Type} {R : α → β → Prop} {l₁ : List α} {l₂ : List β}
    (h : List.Forall₂ R l₁ l₂) {a : α} (ha : a ∈ l₁) : ∃ b ∈ l₂, R a b := by
  induction h with
  | nil => simp at ha
  | cons hab _ ih =>
    rcases List.mem_cons.mp ha with rfl | ha
    · exact ⟨_, List.mem_cons_self, hab⟩
    · obtain ⟨b, hb, hab⟩ := ih ha
      exact ⟨b, List.mem_cons_of_mem _ hb, hab⟩

/-- The window of a unit does not reach beyond the block. -/
lemma IsWindowOf.end_le {blocksLen : ℕ} {block : Bytes} {w : Bytes × ℕ × ℕ} {u : List Entry}
    (h : IsWindowOf blocksLen block w u) : w.2.1 + w.2.2 ≤ blocksLen + block.length := by
  have hlen := congrArg List.length h.whole
  have hpos := length_layout_pos u
  have hle := h.offset_le
  rw [List.length_take, List.length_drop, ← h.length] at hlen
  rw [← h.length] at hpos
  omega

/-- Units of ascending entries have ascending first midashi. -/
lemma pairwise_firstMidashi {units : List (List Entry)}
    (hsorted : units.flatten.Pairwise fun e f => e.midashi < f.midashi)
    (hne : ∀ u ∈ units, u ≠ []) :
    units.Pairwise fun u v => firstMidashi u < firstMidashi v := by
  obtain ⟨-, hunits⟩ := List.pairwise_flatten.mp hsorted
  refine hunits.imp_of_mem ?_
  intro u v hu hv huv
  obtain ⟨e, u, rfl⟩ := List.exists_cons_of_ne_nil (hne u hu)
  obtain ⟨f, v, rfl⟩ := List.exists_cons_of_ne_nil (hne v hv)
  exact huv e List.mem_cons_self f List.mem_cons_self

end Yaskkserv2
