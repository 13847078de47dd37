import Mathlib.Data.List.Nodup
import Mathlib.Logic.Function.Basic

/-!
# Tables filled row by row

A table is often filled from a list of rows: each row has at most one slot, and writes its value
there.  `assignAll` is the table that a list of rows leaves behind.  A slot that no row has keeps
what it held (`assignAll_of_forall_ne`); where the slots of the rows are distinct, a row's slot
holds the row's value (`assignAll_of_mem`).

That the slots are distinct is a fact about a concrete list, to be computed.  `areDistinct` is a
check for numbers that goes through the list once, with the set of the numbers seen kept as the
bits of one number.
-/

namespace Framework

variable {ρ κ ν : Type*}

section Assign

variable [DecidableEq κ]

/-- A row writes its value at its slot, if it has one. -/
def assign (slot : Option κ) (value : ν) (table : κ → ν) : κ → ν :=
  match slot with
  | none => table
  | some k => Function.update table k value

/-- What is left of a table after the rows of a list have written their values, in order. -/
def assignAll (slot : ρ → Option κ) (value : ρ → ν) (rows : List ρ) (table : κ → ν) : κ → ν :=
  rows.foldl (fun table r => assign (slot r) (value r) table) table

variable {slot : ρ → Option κ} {value : ρ → ν} {rows : List ρ} {table : κ → ν} {k : κ}

lemma assign_of_ne {s : Option κ} {v : ν} (h : s ≠ some k) : assign s v table k = table k := by
  cases s with
  | none => rfl
  | some l => exact Function.update_of_ne (fun hkl => h (congrArg some hkl.symm)) v table

lemma assign_self {s : Option κ} {v : ν} (h : s = some k) : assign s v table k = v := by
  subst h
  exact Function.update_self k v table

/-- A slot that no row has keeps what it held. -/
theorem assignAll_of_forall_ne (h : ∀ r ∈ rows, slot r ≠ some k) :
    assignAll slot value rows table k = table k := by
  induction rows generalizing table with
  | nil => rfl
  | cons r rows ih =>
    have hrest : ∀ r ∈ rows, slot r ≠ some k := fun r hr => h r (List.mem_cons_of_mem _ hr)
    exact (ih hrest).trans (assign_of_ne (h r List.mem_cons_self))

/-- Where the rows have distinct slots, the slot of a row holds the value of the row. -/
theorem assignAll_of_mem (hslots : (rows.filterMap slot).Nodup) {r : ρ} (hr : r ∈ rows)
    (hk : slot r = some k) : assignAll slot value rows table k = value r := by
  induction rows generalizing table with
  | nil => exact absurd hr List.not_mem_nil
  | cons r₀ rows ih =>
    rcases List.mem_cons.mp hr with rfl | hr
    · -- the rows after this one have other slots
      rw [List.filterMap_cons_some hk, List.nodup_cons] at hslots
      have hrest : ∀ r' ∈ rows, slot r' ≠ some k := fun r' hr' hslot =>
        hslots.1 (List.mem_filterMap.mpr ⟨r', hr', hslot⟩)
      exact (assignAll_of_forall_ne hrest).trans (assign_self hk)
    · refine ih ?_ hr
      rw [List.filterMap_cons] at hslots
      cases hslot : slot r₀ with
      | none => rwa [hslot] at hslots
      | some l =>
        rw [hslot] at hslots
        exact hslots.of_cons

/-- A field of a state that each row changes as an assignment is filled row by row. -/
theorem field_foldl {σ : Type*} {step : σ → ρ → σ} {field : σ → κ → ν}
    (h : ∀ s, ∀ r ∈ rows, field (step s r) = assign (slot r) (value r) (field s)) (s : σ) :
    field (rows.foldl step s) = assignAll slot value rows (field s) := by
  induction rows generalizing s with
  | nil => rfl
  | cons r rows ih =>
    rw [List.foldl_cons, ih (fun s r hr => h s r (List.mem_cons_of_mem _ hr)),
      h s r List.mem_cons_self]
    rfl

end Assign

/-! ## Distinct slots -/

/-- Rows with distinct numbers have distinct slots, where the slot determines the number. -/
lemma nodup_filterMap_of_map {slot : ρ → Option κ} {number : ρ → ℕ} {rows : List ρ}
    (hnumbers : (rows.map number).Nodup)
    (h : ∀ r ∈ rows, ∀ r' ∈ rows, ∀ k, slot r = some k → slot r' = some k →
      number r = number r') : (rows.filterMap slot).Nodup := by
  induction rows with
  | nil => exact List.nodup_nil
  | cons r rows ih =>
    rw [List.map_cons, List.nodup_cons] at hnumbers
    have hrest := ih hnumbers.2 fun a ha b hb =>
      h a (List.mem_cons_of_mem _ ha) b (List.mem_cons_of_mem _ hb)
    cases hslot : slot r with
    | none => rwa [List.filterMap_cons_none hslot]
    | some k =>
      rw [List.filterMap_cons_some hslot, List.nodup_cons]
      refine ⟨fun hk => hnumbers.1 ?_, hrest⟩
      obtain ⟨r', hr', hslot'⟩ := List.mem_filterMap.mp hk
      rw [h r List.mem_cons_self r' (List.mem_cons_of_mem _ hr') k hslot hslot']
      exact List.mem_map_of_mem hr'

/-- Whether the numbers of a list are distinct, and none is among the bits of `seen`.  It is written
with the functions on `ℕ` that the kernel computes directly. -/
def areDistinct : List ℕ → ℕ → Bool
  | [], _ => true
  | n :: ns, seen =>
    Nat.beq (Nat.land (Nat.shiftRight seen n) 1) 0 &&
      areDistinct ns (Nat.lor seen (Nat.shiftLeft 1 n))

theorem areDistinct_iff {ns : List ℕ} {seen : ℕ} :
    areDistinct ns seen = true ↔ ns.Nodup ∧ ∀ n ∈ ns, seen.testBit n = false := by
  induction ns generalizing seen with
  | nil => simp [areDistinct]
  | cons n ns ih =>
    have hbit : Nat.beq (Nat.land (Nat.shiftRight seen n) 1) 0 = true ↔
        seen.testBit n = false := by
      rw [Nat.beq_eq, Nat.testBit_eq_decide_div_mod_eq]
      change (seen >>> n) &&& 1 = 0 ↔ _
      rw [Nat.and_one_is_mod, Nat.shiftRight_eq_div_pow]
      simp
    have hseen : ∀ m, (Nat.lor seen (Nat.shiftLeft 1 n)).testBit m = false ↔
        seen.testBit m = false ∧ n ≠ m := by
      intro m
      change (seen ||| 1 <<< n).testBit m = false ↔ _
      rw [Nat.testBit_or, Nat.one_shiftLeft, Nat.testBit_two_pow]
      simp
    rw [areDistinct, Bool.and_eq_true, hbit, ih, List.nodup_cons, List.forall_mem_cons]
    simp only [hseen]
    constructor
    · rintro ⟨hn, hnodup, hrest⟩
      exact ⟨⟨fun hmem => (hrest n hmem).2 rfl, hnodup⟩, hn, fun m hm => (hrest m hm).1⟩
    · rintro ⟨⟨hmem, hnodup⟩, hn, hrest⟩
      exact ⟨hn, hnodup, fun m hm => ⟨hrest m hm, fun hnm => hmem (hnm ▸ hm)⟩⟩

/-- The check says what it is named after. -/
theorem nodup_of_areDistinct {ns : List ℕ} (h : areDistinct ns 0 = true) : ns.Nodup :=
  (areDistinct_iff.mp h).1

end Framework
