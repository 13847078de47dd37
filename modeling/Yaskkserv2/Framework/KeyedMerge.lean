import Mathlib.Data.List.Basic
import Mathlib.Data.List.Nodup

/-!
# Merging lists by key

A merge of two lists of elements with keys keeps the elements of the base in their order and puts
behind them the new elements whose keys the base does not have.  Some elements are marked, and a
marked new element takes the place of an unmarked one of its key.

What merging many lists comes to is told by all their elements, one list after the other:
`IsGathered key marked xs ds` says that `ds` has the keys of `xs` in the order in which they first
occur, and that each of its elements is the first marked one of its key in `xs`, or the first one
at all where none is marked.  A merge gathers one list more (`IsGathered.merge`), gathering is
determined by what is gathered (`IsGathered.unique`), and so the merge is associative
(`merge_assoc`) and merging a list again changes nothing (`IsGathered.merge_of_subset`).
-/

namespace Framework

namespace KeyedMerge

universe u v

variable {α : Type u} {κ : Type v} [DecidableEq κ] (key : α → κ) (marked : α → Prop)
  [DecidablePred marked]

/-- The element that stands for a base element and a new one of the same key. -/
def choose (b n : α) : α := if ¬ marked b ∧ marked n then n else b

/-- What stands for a base element after a merge. -/
def replace (new : List α) (b : α) : α :=
  ((new.find? fun n => key n = key b).map (choose marked b)).getD b

/-- The new elements whose keys the base does not have. -/
def added (base new : List α) : List α := new.filter fun n => key n ∉ base.map key

/-- The base elements in their order, then the new elements of other keys. -/
def merge (base new : List α) : List α :=
  base.map (replace key marked new) ++ added key base new

/-- The keys of some elements in the order in which they first occur. -/
def distinctKeys (xs : List α) : List κ := (xs.map key).eraseDups

/-- The first marked element of a key, or else the first one of it. -/
def spelling? (xs : List α) (k : κ) : Option α :=
  (xs.find? fun x => key x = k ∧ marked x).or (xs.find? fun x => key x = k)

/-- `ds` is what the elements `xs` come to. -/
structure IsGathered (xs ds : List α) : Prop where
  keys : ds.map key = distinctKeys key xs
  spelled : ∀ d ∈ ds, spelling? key marked xs (key d) = some d

variable {key marked}

/-! ## Lists without a key twice -/

section Nodup

variable {xs ys : List α}

lemma eraseDups_of_nodup {ks : List κ} (h : ks.Nodup) : ks.eraseDups = ks := by
  induction ks with
  | nil => rfl
  | cons k ks ih =>
    obtain ⟨hk, hks⟩ := List.nodup_cons.mp h
    have hfilter : (ks.filter fun b => !b == k) = ks := by
      apply List.filter_eq_self.mpr
      intro b hb
      have hne : b ≠ k := fun heq => hk (heq ▸ hb)
      simpa using hne
    rw [List.eraseDups_cons, hfilter, ih hks]

lemma nodup_eraseDups (ks : List κ) : ks.eraseDups.Nodup := by
  match ks with
  | [] => simp
  | k :: ks =>
    rw [List.eraseDups_cons]
    have hlength := List.length_filter_le (fun b => !b == k) ks
    exact List.nodup_cons.mpr ⟨by simp, nodup_eraseDups _⟩
termination_by ks.length
decreasing_by simp only [List.length_cons]; omega

lemma eraseDups_filter (p : κ → Bool) (ks : List κ) :
    (ks.filter p).eraseDups = ks.eraseDups.filter p := by
  match ks with
  | [] => rfl
  | k :: ks =>
    have hlength := List.length_filter_le (fun b => !b == k) ks
    have htail := eraseDups_filter p (ks.filter fun b => !b == k)
    rw [List.filter_comm] at htail
    by_cases hk : p k = true
    · rw [List.filter_cons_of_pos hk, List.eraseDups_cons, List.eraseDups_cons,
        List.filter_cons_of_pos hk, htail]
    · have hnot : (ks.filter p).filter (fun b => !b == k) = ks.filter p := by
        apply List.filter_eq_self.mpr
        intro b hb
        have hne : b ≠ k := fun heq => hk (heq ▸ (List.mem_filter.mp hb).2)
        simpa using hne
      rw [List.filter_cons_of_neg hk, List.eraseDups_cons, List.filter_cons_of_neg hk, ← htail,
        hnot]
termination_by ks.length
decreasing_by simp only [List.length_cons]; omega

lemma find?_key_of_mem (h : (xs.map key).Nodup) {x : α} (hx : x ∈ xs) :
    xs.find? (fun y => key y = key x) = some x := by
  induction xs with
  | nil => exact absurd hx List.not_mem_nil
  | cons y ys ih =>
    obtain ⟨hy, hys⟩ := List.nodup_cons.mp h
    rcases List.mem_cons.mp hx with rfl | hx
    · simp
    · have hne : key y ≠ key x := fun heq => hy (heq ▸ List.mem_map_of_mem hx)
      simp [hne, ih hys hx]

/-- Where no key occurs twice, the first marked element of a key is the first one, if marked. -/
lemma find?_marked (h : (xs.map key).Nodup) (k : κ) :
    xs.find? (fun x => key x = k ∧ marked x) = (xs.find? fun x => key x = k).filter marked := by
  cases hfind : xs.find? fun x => key x = k with
  | none =>
    have hnone : ∀ x ∈ xs, key x ≠ k := by simpa using hfind
    simpa using fun x hx hk => absurd hk (hnone x hx)
  | some x =>
    have hx := List.mem_of_find?_eq_some hfind
    have hk : key x = k := by simpa using List.find?_some hfind
    by_cases hmarked : marked x
    · rw [Option.filter_some_pos (by simpa using hmarked)]
      subst hk
      have hnodup : ((xs.filter fun y => marked y).map key).Nodup :=
        h.sublist (List.filter_sublist.map key)
      have hfilter := find?_key_of_mem hnodup (List.mem_filter.mpr ⟨hx, by simpa using hmarked⟩)
      rw [List.find?_filter] at hfilter
      simpa [and_comm] using hfilter
    · rw [Option.filter_some_neg (by simpa using hmarked)]
      apply List.find?_eq_none.mpr
      intro y hy
      have hunique : key y = k → y = x := fun heq =>
        List.inj_on_of_nodup_map h hy hx (heq.trans hk.symm)
      simpa using fun heq => hunique heq ▸ hmarked

end Nodup

/-! ## Gathering -/

section Gather

variable {xs ys zs ds es : List α}

lemma spelling?_append (k : κ) :
    spelling? key marked (xs ++ ys) k =
      ((xs.find? fun x => key x = k ∧ marked x).or
        (ys.find? fun y => key y = k ∧ marked y)).or
        ((xs.find? fun x => key x = k).or (ys.find? fun y => key y = k)) := by
  rw [spelling?, List.find?_append, List.find?_append]

lemma find?_eq_none_of_not_mem (marked : α → Prop) [DecidablePred marked] {k : κ}
    (h : k ∉ xs.map key) :
    xs.find? (fun x => key x = k) = none ∧
      xs.find? (fun x => key x = k ∧ marked x) = none := by
  have hne : ∀ x ∈ xs, key x ≠ k := fun x hx heq => h (heq ▸ List.mem_map_of_mem hx)
  constructor
  · simpa using hne
  · simpa using fun x hx heq => absurd heq (hne x hx)

/-- What is spelled is marked and the first marked element, or no element of the key is marked. -/
lemma spelling?_eq_some {k : κ} {d : α} (h : spelling? key marked xs k = some d) :
    marked d ∧ xs.find? (fun x => key x = k ∧ marked x) = some d ∨
      ¬ marked d ∧ xs.find? (fun x => key x = k ∧ marked x) = none ∧
        xs.find? (fun x => key x = k) = some d := by
  rw [spelling?] at h
  cases hfind : xs.find? fun x => key x = k ∧ marked x with
  | some x =>
    rw [hfind, Option.some_or, Option.some_inj] at h
    subst h
    have hmarked : key x = k ∧ marked x := by simpa using List.find?_some hfind
    exact .inl ⟨hmarked.2, rfl⟩
  | none =>
    rw [hfind, Option.none_or] at h
    have hnone : ∀ x ∈ xs, key x = k → ¬ marked x := by simpa using hfind
    have hk : key d = k := by simpa using List.find?_some h
    exact .inr ⟨hnone d (List.mem_of_find?_eq_some h) hk, rfl, h⟩

omit [DecidableEq κ] in
lemma key_choose {b n : α} (h : key n = key b) : key (choose marked b n) = key b := by
  rw [choose]
  split
  · exact h
  · rfl

lemma key_replace (new : List α) (b : α) : key (replace key marked new b) = key b := by
  rw [replace]
  cases hfind : new.find? fun n => key n = key b with
  | none => rfl
  | some n =>
    have hkey : key n = key b := by simpa using List.find?_some hfind
    exact key_choose hkey

lemma map_key_merge (base new : List α) :
    (merge key marked base new).map key =
      base.map key ++ (new.map key).filter fun k => k ∉ base.map key := by
  have hbase : (base.map (replace key marked new)).map key = base.map key := by
    rw [List.map_map]
    exact List.map_congr_left fun b _ => key_replace new b
  rw [merge, added, List.map_append, hbase, List.filter_map]
  rfl

/-- A merge has no other elements than the two lists. -/
lemma mem_of_mem_merge {base new : List α} {d : α} (h : d ∈ merge key marked base new) :
    d ∈ base ∨ d ∈ new := by
  rcases List.mem_append.mp h with h | h
  · obtain ⟨b, hb, rfl⟩ := List.mem_map.mp h
    rw [replace]
    cases hfind : new.find? fun n => key n = key b with
    | none => exact .inl hb
    | some n =>
      rw [Option.map_some, Option.getD_some, choose]
      split
      · exact .inr (List.mem_of_find?_eq_some hfind)
      · exact .inl hb
  · exact .inr (List.mem_filter.mp h).1

/-- A list without a key twice is what it comes to. -/
lemma isGathered_self (h : (xs.map key).Nodup) : IsGathered key marked xs xs where
  keys := (eraseDups_of_nodup h).symm
  spelled x hx := by
    rw [spelling?, find?_marked h, find?_key_of_mem h hx]
    by_cases hmarked : marked x <;> simp [Option.filter, hmarked]

namespace IsGathered

lemma nodup (h : IsGathered key marked xs ds) : (ds.map key).Nodup :=
  h.keys ▸ nodup_eraseDups _

lemma mem_keys (h : IsGathered key marked xs ds) {k : κ} :
    k ∈ ds.map key ↔ k ∈ xs.map key := by
  rw [h.keys, distinctKeys, List.mem_eraseDups]

/-- **A merge gathers one list more.** -/
theorem merge (h : IsGathered key marked xs ds) (hys : (ys.map key).Nodup) :
    IsGathered key marked (xs ++ ys) (merge key marked ds ys) where
  keys := by
    have hremove : (ys.map key).removeAll (xs.map key) =
        (ys.map key).filter fun k => k ∉ ds.map key := by
      apply List.filter_congr
      intro k _
      simp only [List.elem_eq_contains, List.contains_eq_mem, h.mem_keys, decide_not]
    have hnodup : ((ys.map key).filter fun k => k ∉ ds.map key).Nodup := hys.filter _
    rw [map_key_merge, distinctKeys, List.map_append, List.eraseDups_append, hremove,
      eraseDups_of_nodup hnodup, h.keys, distinctKeys]
  spelled := by
    intro d hd
    rcases List.mem_append.mp hd with hd | hd
    · -- the element stands for one of the base
      obtain ⟨b, hb, rfl⟩ := List.mem_map.mp hd
      have hkey : key (replace key marked ys b) = key b := key_replace ys b
      rw [hkey, spelling?_append, find?_marked hys, replace]
      rcases spelling?_eq_some (h.spelled b hb) with ⟨hb, hmarked⟩ | ⟨hb, hmarked, hfirst⟩
      · -- a marked base element stays
        rw [hmarked]
        cases ys.find? fun n => key n = key b <;> simp [choose, hb]
      · rw [hmarked, hfirst]
        cases ys.find? fun n => key n = key b with
        | none => rfl
        | some n => by_cases hn : marked n <;> simp [choose, hb, hn, Option.filter]
    · -- the element is new, so its key does not occur before
      obtain ⟨hmem, hnew⟩ := List.mem_filter.mp hd
      have hkey : key d ∉ xs.map key := by
        rw [← h.mem_keys]
        simpa using hnew
      obtain ⟨hfirst, hmarked⟩ := find?_eq_none_of_not_mem marked hkey
      rw [spelling?_append, hfirst, hmarked, find?_marked hys, find?_key_of_mem hys hmem]
      by_cases hd : marked d <;> simp [hd, Option.filter]

/-- What some elements come to is determined by them. -/
theorem unique (h : IsGathered key marked xs ds) (h' : IsGathered key marked xs es) : ds = es := by
  have hkeys := h.keys.trans h'.keys.symm
  have hlength : ds.length = es.length := by simpa using congrArg List.length hkeys
  apply List.ext_getElem hlength
  intro i hi hi'
  have hkey : key ds[i] = key es[i] := by
    have hget := List.getElem_of_eq hkeys (by simpa using hi)
    rwa [List.getElem_map, List.getElem_map] at hget
  have hspelled := h.spelled _ (List.getElem_mem hi)
  rw [hkey, h'.spelled _ (List.getElem_mem hi')] at hspelled
  exact (Option.some.inj hspelled).symm

lemma find?_eq (h : IsGathered key marked ys ds) (k : κ) :
    ds.find? (fun d => key d = k) = spelling? key marked ys k := by
  by_cases hk : k ∈ ds.map key
  · obtain ⟨d, hd, rfl⟩ := List.mem_map.mp hk
    rw [find?_key_of_mem h.nodup hd, h.spelled d hd]
  · rw [(find?_eq_none_of_not_mem marked hk).1]
    obtain ⟨hfirst, hmarked⟩ :=
      find?_eq_none_of_not_mem marked (mt h.mem_keys.mpr hk)
    rw [spelling?, hfirst, hmarked, Option.none_or]

lemma find?_marked_eq (h : IsGathered key marked ys ds) (k : κ) :
    ds.find? (fun d => key d = k ∧ marked d) =
      ys.find? fun y => key y = k ∧ marked y := by
  rw [find?_marked h.nodup, h.find?_eq]
  cases hspelling : spelling? key marked ys k with
  | none =>
    rw [spelling?, Option.or_eq_none_iff] at hspelling
    rw [hspelling.1, Option.filter_none]
  | some d =>
    rcases spelling?_eq_some hspelling with ⟨hd, hmarked⟩ | ⟨hd, hmarked, -⟩
    · rw [hmarked, Option.filter_some_pos (by simpa using hd)]
    · rw [hmarked, Option.filter_some_neg (by simpa using hd)]

/-- What is gathered may stand for its elements when more is gathered. -/
theorem trans (h : IsGathered key marked (xs ++ ys) ds) (hys : IsGathered key marked zs ys) :
    IsGathered key marked (xs ++ zs) ds where
  keys := by
    rw [h.keys, distinctKeys, distinctKeys, List.map_append, List.map_append,
      List.eraseDups_append, List.eraseDups_append, hys.keys, distinctKeys, List.removeAll,
      List.removeAll, eraseDups_filter, eraseDups_filter,
      eraseDups_of_nodup (nodup_eraseDups _)]
  spelled d hd := by
    have hspelled := h.spelled d hd
    rw [spelling?_append, hys.find?_marked_eq, hys.find?_eq, spelling?] at hspelled
    rw [spelling?_append]
    generalize xs.find? (fun x => key x = key d ∧ marked x) = a at hspelled ⊢
    generalize xs.find? (fun x => key x = key d) = b at hspelled ⊢
    generalize zs.find? (fun x => key x = key d ∧ marked x) = c at hspelled ⊢
    cases a <;> cases c <;> simpa using hspelled

/-- **Merging a list again changes nothing.** -/
theorem merge_of_subset (h : IsGathered key marked xs ds) (hys : ∀ y ∈ ys, y ∈ xs) :
    KeyedMerge.merge key marked ds ys = ds := by
  have hnew : added key ds ys = [] := by
    apply List.filter_eq_nil_iff.mpr
    intro y hy
    have hmem := h.mem_keys.mpr (List.mem_map_of_mem (hys y hy))
    simpa using hmem
  have hbase : ds.map (replace key marked ys) = ds := by
    conv_rhs => rw [← List.map_id ds]
    apply List.map_congr_left
    intro d hd
    rw [replace]
    cases hfind : ys.find? fun n => key n = key d with
    | none => rfl
    | some n =>
      have hkey : key n = key d := by simpa using List.find?_some hfind
      have hn := hys n (List.mem_of_find?_eq_some hfind)
      rw [Option.map_some, Option.getD_some, choose]
      apply if_neg
      rintro ⟨hd', hmarked⟩
      rcases spelling?_eq_some (h.spelled d hd) with ⟨hd, -⟩ | ⟨-, hnone, -⟩
      · exact hd' hd
      · have hnot : ∀ x ∈ xs, key x = key d → ¬ marked x := by simpa using hnone
        exact hnot n hn hkey hmarked
  rw [KeyedMerge.merge, hnew, hbase, List.append_nil]

end IsGathered

/-- **A merge of merges gathers all of the lists**, whichever are merged first. -/
theorem merge_assoc (hxs : (xs.map key).Nodup) (hys : (ys.map key).Nodup)
    (hzs : (zs.map key).Nodup) :
    merge key marked (merge key marked xs ys) zs =
      merge key marked xs (merge key marked ys zs) := by
  have hyz : IsGathered key marked (ys ++ zs) (merge key marked ys zs) :=
    (isGathered_self hys).merge hzs
  have hleft : IsGathered key marked (xs ++ ys ++ zs)
      (merge key marked (merge key marked xs ys) zs) :=
    ((isGathered_self hxs).merge hys).merge hzs
  have hright : IsGathered key marked (xs ++ (ys ++ zs))
      (merge key marked xs (merge key marked ys zs)) :=
    ((isGathered_self hxs).merge hyz.nodup).trans hyz
  exact hleft.unique (List.append_assoc xs ys zs ▸ hright)

end Gather

end KeyedMerge

end Framework
