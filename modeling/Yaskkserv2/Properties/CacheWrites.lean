import Yaskkserv2.Properties.CacheEntries

/-!
# Writing the cache

A write is skipped where the candidates equal the stored list.  The stored list begins with its
time, so the list that `get_candidates` returns never equals it, and every hit writes the cache
again (`not_writesOnlyChanges`).

What is written can be read back unless the clock is below the expire time, which takes the clock
below zero, or the new entry is itself the oldest of too many (`isReadBack_iff`).

A write drops one entry for capacity at most.  From a cache that holds no more than it may this is
enough for every later write, and from a larger one it is not (`trimsAll_iff`).

Both are about calls that return.  A call that changes the cache returns where its clock is not
below the expire time and every entry has a time (`writeCandidates_returns`), and at a lower clock
it stops (`writeCandidates_eq_panic`).
-/

namespace Yaskkserv2

open Framework

namespace GoogleCache

section Write

variable {map : GoogleCacheBTreeMap} {midashi : Bytes} {candidates : List Bytes}
  {cacheEntries cacheExpireSeconds unixTimeNow : ℕ}

/-- The cache with the new entry. -/
abbrev inserted (map : GoogleCacheBTreeMap) (midashi : Bytes) (candidates : List Bytes)
    (unixTimeNow : ℕ) : GoogleCacheBTreeMap :=
  map.insert midashi (decimal unixTimeNow :: candidates)

lemma inserted_ne_empty : inserted map midashi candidates unixTimeNow ≠ ∅ := by
  intro hempty
  have hget : (inserted map midashi candidates unixTimeNow)[midashi]? =
      some (decimal unixTimeNow :: candidates) := Std.ExtTreeMap.getElem?_insert_self
  rw [hempty, Std.ExtTreeMap.getElem?_empty] at hget
  exact absurd hget (by simp)

lemma writeCandidates_of_not_shouldWrite (h : ¬ shouldWrite map midashi candidates)
    (write : Except SkkError Unit) :
    writeCandidates map midashi candidates cacheEntries cacheExpireSeconds unixTimeNow write =
      .ok (.ok (), map) := if_neg h

/-- A write that is made returns what the write of the file comes to, and leaves what is kept of the
cache with the new entry. -/
lemma writeCandidates_eq_ok_iff (h : shouldWrite map midashi candidates)
    {write result : Except SkkError Unit} {left : GoogleCacheBTreeMap} :
    writeCandidates map midashi candidates cacheEntries cacheExpireSeconds unixTimeNow write =
        .ok (result, left) ↔
      result = write ∧
        trim (inserted map midashi candidates unixTimeNow) cacheEntries cacheExpireSeconds
          unixTimeNow = .ok left := by
  rw [writeCandidates, if_pos h]
  constructor
  · intro hok
    obtain ⟨kept, hkept, heq⟩ := Outcome.bind_eq_ok.mp hok
    obtain ⟨rfl, rfl⟩ := Prod.mk.inj (Outcome.ok.inj heq)
    exact ⟨rfl, hkept⟩
  · rintro ⟨rfl, hkept⟩
    dsimp only
    rw [hkept]
    rfl

/-- A list that is written equals the stored one only with its time. -/
lemma shouldWrite_getCandidates (h : getCandidates map midashi ≠ []) :
    shouldWrite map midashi (getCandidates map midashi) := by
  intro hstored
  rw [getCandidates] at h hstored
  cases hget : map[midashi]? with
  | none => exact h (by rw [hget])
  | some cached =>
    rw [hget] at hstored h
    dsimp only at hstored h
    split at hstored
    · have hlength := congrArg List.length (Option.some.inj hstored)
      rw [List.length_drop] at hlength
      omega
    · rename_i hshort
      exact h (if_neg hshort)

end Write

/-! ## Returning -/

/-- Whatever the clock says, what is written as the time is read as one. -/
lemma exists_entryTime_decimal (n : ℕ) (midashi : Bytes) (candidates : List Bytes) :
    ∃ time, entryTime (midashi, decimal n :: candidates) = .ok time := by
  have hascii : isUtf8 (decimal n) = true := isUtf8_of_ascii fun b hb =>
    UInt8.le_trans (mem_decimal hb).2 (by decide)
  rw [entryTime, index_cons_zero, Outcome.ok_bind, parseOrZeroU64, if_pos hascii]
  exact ⟨_, rfl⟩

section Returns

variable {map : GoogleCacheBTreeMap} (hreadable : IsReadable map) (midashi : Bytes)
  (candidates : List Bytes) {cacheExpireSeconds unixTimeNow : ℕ}

include hreadable

lemma isReadable_inserted : IsReadable (inserted map midashi candidates unixTimeNow) := by
  rintro ⟨k, value⟩ he
  have hget := Std.ExtTreeMap.mem_toList_iff_getElem?_eq_some.mp he
  rw [inserted, Std.ExtTreeMap.getElem?_insert] at hget
  split at hget
  · obtain rfl := Option.some.inj hget
    obtain ⟨time, htime⟩ := exists_entryTime_decimal unixTimeNow k candidates
    exact entryTime_eq_stamp htime
  · exact hreadable _ (Std.ExtTreeMap.mem_toList_iff_getElem?_eq_some.mpr hget)

lemma isReadable_erase (oldest : Bytes) : IsReadable (map.erase oldest) := by
  rintro ⟨k, value⟩ he
  have hget := Std.ExtTreeMap.mem_toList_iff_getElem?_eq_some.mp he
  rw [Std.ExtTreeMap.getElem?_erase] at hget
  split at hget
  · simp at hget
  · exact hreadable _ (Std.ExtTreeMap.mem_toList_iff_getElem?_eq_some.mpr hget)

/-- **A write of the cache comes back**, and leaves a cache that can be written again. -/
theorem writeCandidates_returns (cacheEntries : ℕ) (hle : cacheExpireSeconds ≤ unixTimeNow)
    (write : Except SkkError Unit) :
    ∃ result left, writeCandidates map midashi candidates cacheEntries cacheExpireSeconds
      unixTimeNow write = .ok (result, left) ∧ IsReadable left := by
  by_cases hwrite : shouldWrite map midashi candidates
  · have hinserted : IsReadable (inserted map midashi candidates unixTimeNow) :=
      isReadable_inserted hreadable midashi candidates
    obtain ⟨left, hleft⟩ := exists_trim cacheEntries inserted_ne_empty hle hinserted
    refine ⟨write, left, (writeCandidates_eq_ok_iff hwrite).mpr ⟨rfl, hleft⟩, ?_⟩
    obtain ⟨-, -, ⟨-, rfl⟩ | ⟨-, oldest, -, rfl⟩⟩ := (trim_eq_ok_iff inserted_ne_empty).mp hleft
    · exact isReadable_filter hinserted
    · exact isReadable_erase (isReadable_filter hinserted) oldest
  · exact ⟨.ok (), map, writeCandidates_of_not_shouldWrite hwrite write, hreadable⟩

end Returns

/-- With a time in every entry, a call that changes the cache at a clock below the expire time
stops. -/
lemma writeCandidates_eq_panic {map : GoogleCacheBTreeMap} {midashi : Bytes}
    {candidates : List Bytes} {cacheEntries cacheExpireSeconds unixTimeNow : ℕ}
    (hwrite : shouldWrite map midashi candidates)
    (hreadable : IsReadable (inserted map midashi candidates unixTimeNow))
    (hlt : unixTimeNow < cacheExpireSeconds) (write : Except SkkError Unit) :
    writeCandidates map midashi candidates cacheEntries cacheExpireSeconds unixTimeNow write =
      .panic := by
  have hentries : (inserted map midashi candidates unixTimeNow).toList ≠ [] := by
    rw [ne_eq, Std.ExtTreeMap.toList_eq_nil_iff]
    exact inserted_ne_empty
  obtain ⟨e, rest, heq⟩ := List.exists_cons_of_ne_nil hentries
  have htime : entryTime e = .ok (stamp e.2) := hreadable e (heq ▸ List.mem_cons_self)
  have hkeep : keepUnexpired unixTimeNow cacheExpireSeconds e = .panic := by
    rw [keepUnexpired, htime, Outcome.ok_bind, checkedSub, if_neg (Nat.not_le.mpr hlt)]
    rfl
  have hexpired : removeExpired (inserted map midashi candidates unixTimeNow) cacheExpireSeconds
      unixTimeNow = .panic := by
    rw [removeExpired, heq, List.mapM_cons, hkeep]
    rfl
  rw [writeCandidates, if_pos hwrite]
  dsimp only
  rw [trim, hexpired]
  rfl

section Write

variable {map : GoogleCacheBTreeMap} {midashi : Bytes} {candidates : List Bytes}
  {cacheEntries cacheExpireSeconds unixTimeNow : ℕ}

/-! ## Hits -/

/-- Writing what is cached does nothing, whatever a write of the file would come to, and writing
anything else replaces the entry. -/
structure WritesOnlyChanges (map : GoogleCacheBTreeMap) (midashi : Bytes)
    (cacheEntries cacheExpireSeconds unixTimeNow : ℕ) : Prop where
  unchanged : ∀ write, writeCandidates map midashi (getCandidates map midashi) cacheEntries
    cacheExpireSeconds unixTimeNow write = .ok (.ok (), map)
  changed : ∀ candidates, candidates ≠ getCandidates map midashi → ∀ write result left,
    writeCandidates map midashi candidates cacheEntries cacheExpireSeconds unixTimeNow write =
      .ok (result, left) → left[midashi]? = some (decimal unixTimeNow :: candidates)

/-- **A hit is never a no-op**: the file is written again for every cached list, at every clock. -/
theorem not_writesOnlyChanges (h : getCandidates map midashi ≠ []) :
    ¬ WritesOnlyChanges map midashi cacheEntries cacheExpireSeconds unixTimeNow := by
  rintro ⟨hunchanged, -⟩
  have hwrite := shouldWrite_getCandidates h
  obtain ⟨hresult, -⟩ := (writeCandidates_eq_ok_iff hwrite).mp (hunchanged (.error .io))
  exact absurd hresult (by simp)

/-- The candidate `x` of `a`, cached at the first second. -/
def oneEntry : GoogleCacheBTreeMap :=
  (∅ : GoogleCacheBTreeMap).insert (ascii "a") [decimal 1, ascii "x"]

lemma getCandidates_oneEntry : getCandidates oneEntry (ascii "a") = [ascii "x"] := by
  rw [getCandidates, oneEntry, Std.ExtTreeMap.getElem?_insert_self]
  decide

theorem not_writesOnlyChanges_oneEntry : ¬ WritesOnlyChanges oneEntry (ascii "a") 1 2 2 :=
  not_writesOnlyChanges (by rw [getCandidates_oneEntry]; simp)

/-- Hit at the second second, the entry is stamped anew. -/
theorem writeCandidates_oneEntry_stamps :
    oneEntry[ascii "a"]? = some [decimal 1, ascii "x"] ∧
      ∃ left, writeCandidates oneEntry (ascii "a") (getCandidates oneEntry (ascii "a")) 1 2 2
          (.ok ()) = .ok (.ok (), left) ∧
        left[ascii "a"]? = some [decimal 2, ascii "x"] := by
  have hwrite : shouldWrite oneEntry (ascii "a") [ascii "x"] := by decide +kernel
  have hreadable : IsReadable (inserted oneEntry (ascii "a") [ascii "x"] 2) := by
    unfold IsReadable
    decide +kernel
  refine ⟨Std.ExtTreeMap.getElem?_insert_self,
    unexpired (inserted oneEntry (ascii "a") [ascii "x"] 2) 2 2, ?_, ?_⟩
  · rw [getCandidates_oneEntry]
    exact (writeCandidates_eq_ok_iff hwrite).mpr ⟨rfl, (trim_eq_ok_iff inserted_ne_empty).mpr
      ⟨le_rfl, hreadable, .inl ⟨by decide +kernel, rfl⟩⟩⟩
  · decide +kernel

/-! ## Reading back -/

/-- What is written is read back, and where every entry has a time the call does not stop: its one
subtraction, that of the expiry filter, does not go below zero. -/
structure IsReadBack (map : GoogleCacheBTreeMap) (midashi : Bytes) (candidates : List Bytes)
    (cacheEntries cacheExpireSeconds unixTimeNow : ℕ) : Prop where
  no_underflow : IsReadable (inserted map midashi candidates unixTimeNow) →
    writeCandidates map midashi candidates cacheEntries cacheExpireSeconds unixTimeNow (.ok ()) ≠
      .panic
  read_back : ∀ left, writeCandidates map midashi candidates cacheEntries cacheExpireSeconds
    unixTimeNow (.ok ()) = .ok (.ok (), left) → getCandidates left midashi = candidates

/-- The new entry is the oldest of too many that have not expired. -/
def IsEvicted (map : GoogleCacheBTreeMap) (midashi : Bytes) (candidates : List Bytes)
    (cacheEntries cacheExpireSeconds unixTimeNow : ℕ) : Prop :=
  let fresh := unexpired (inserted map midashi candidates unixTimeNow) cacheExpireSeconds
    unixTimeNow
  cacheEntries < fresh.size ∧ IsOldest fresh midashi

/-- The new entry has not expired. -/
lemma getElem?_unexpired_inserted (hexpire : 1 ≤ cacheExpireSeconds)
    (hclock : unixTimeNow < 2 ^ 64) (hle : cacheExpireSeconds ≤ unixTimeNow) :
    (unexpired (inserted map midashi candidates unixTimeNow) cacheExpireSeconds
      unixTimeNow)[midashi]? = some (decimal unixTimeNow :: candidates) := by
  have hfresh : unixTimeNow - cacheExpireSeconds < stamp (decimal unixTimeNow :: candidates) := by
    rw [stamp_decimal hclock]
    omega
  rw [getElem?_unexpired, Std.ExtTreeMap.getElem?_insert_self,
    Option.filter_some_pos (by simpa using hfresh)]

lemma getCandidates_of_getElem? (hne : candidates ≠ []) {time : Bytes}
    (h : map[midashi]? = some (time :: candidates)) : getCandidates map midashi = candidates := by
  have hlength := List.length_pos_iff.mpr hne
  rw [getCandidates, h]
  dsimp only
  rw [if_pos (by rw [List.length_cons]; omega), List.drop_succ_cons, List.drop_zero]

/-- **What is written is read back** exactly where the candidates are not stored as they are, time
included, and, of a cache whose times can be read, the clock is not below the expire time and the
new entry is not evicted. -/
theorem isReadBack_iff (hne : candidates ≠ []) (hexpire : 1 ≤ cacheExpireSeconds)
    (hclock : unixTimeNow < 2 ^ 64) :
    IsReadBack map midashi candidates cacheEntries cacheExpireSeconds unixTimeNow ↔
      shouldWrite map midashi candidates ∧
        (IsReadable (inserted map midashi candidates unixTimeNow) →
          cacheExpireSeconds ≤ unixTimeNow ∧
            ¬ IsEvicted map midashi candidates cacheEntries cacheExpireSeconds unixTimeNow) := by
  constructor
  · rintro ⟨hunderflow, hread⟩
    have hwrite : shouldWrite map midashi candidates := by
      intro hstored
      have hcached := hread map (if_neg (not_not.mpr hstored))
      rw [getCandidates, hstored] at hcached
      dsimp only at hcached
      split at hcached
      · have hlength := congrArg List.length hcached
        rw [List.length_drop] at hlength
        omega
      · exact hne hcached.symm
    refine ⟨hwrite, fun hreadable => ?_⟩
    have hle : cacheExpireSeconds ≤ unixTimeNow := by
      by_contra hlt
      exact hunderflow hreadable
        (writeCandidates_eq_panic hwrite hreadable (Nat.not_le.mp hlt) (.ok ()))
    refine ⟨hle, ?_⟩
    rintro ⟨hlt, holdest⟩
    have hok := hread _ ((writeCandidates_eq_ok_iff hwrite).mpr ⟨rfl,
      (trim_eq_ok_iff inserted_ne_empty).mpr ⟨hle, hreadable,
        .inr ⟨hlt, midashi, holdest, rfl⟩⟩⟩)
    rw [getCandidates, Std.ExtTreeMap.getElem?_erase_self] at hok
    exact hne hok.symm
  · rintro ⟨hwrite, hcondition⟩
    refine ⟨fun hreadable hpanic => ?_, fun left hok => ?_⟩
    · obtain ⟨left, hleft⟩ :=
        exists_trim cacheEntries inserted_ne_empty (hcondition hreadable).1 hreadable
      have hok := (writeCandidates_eq_ok_iff hwrite).mpr
        ⟨(rfl : Except.ok () = (Except.ok () : Except SkkError Unit)), hleft⟩
      rw [hpanic] at hok
      exact absurd hok (by simp)
    suffices hstored : left[midashi]? = some (decimal unixTimeNow :: candidates) from
      getCandidates_of_getElem? hne hstored
    obtain ⟨-, hkept⟩ := (writeCandidates_eq_ok_iff hwrite).mp hok
    obtain ⟨hle, hreadable, hkept⟩ := (trim_eq_ok_iff inserted_ne_empty).mp hkept
    have hnew : (unexpired (inserted map midashi candidates unixTimeNow) cacheExpireSeconds
        unixTimeNow)[midashi]? = some (decimal unixTimeNow :: candidates) :=
      getElem?_unexpired_inserted hexpire hclock hle
    rcases hkept with ⟨-, rfl⟩ | ⟨hlt, oldest, holdest, rfl⟩
    · exact hnew
    · have hother : oldest ≠ midashi := by
        rintro rfl
        exact (hcondition hreadable).2 ⟨hlt, holdest⟩
      rw [Std.ExtTreeMap.getElem?_erase, if_neg, hnew]
      rwa [Std.LawfulEqCmp.compare_eq_iff_eq]

/-- A second candidate list for `a`, beside another entry of the same second. -/
theorem isReadBack_oneEntry : IsReadBack oneEntry (ascii "b") [ascii "y", ascii "z"] 1 2 3 ↔
    shouldWrite oneEntry (ascii "b") [ascii "y", ascii "z"] ∧
      (IsReadable (inserted oneEntry (ascii "b") [ascii "y", ascii "z"] 3) →
        2 ≤ 3 ∧ ¬ IsEvicted oneEntry (ascii "b") [ascii "y", ascii "z"] 1 2 3) :=
  isReadBack_iff (by decide) (by norm_num) (by norm_num)

/-- The longest expire time that is admitted, at a clock of the year 2023. -/
theorem not_isReadBack_expire :
    ¬ IsReadBack ∅ (ascii "a") [ascii "x"] 1 3153600000 1700000000 := by
  rintro ⟨hunderflow, -⟩
  have hwrite : shouldWrite ∅ (ascii "a") [ascii "x"] := by
    rw [shouldWrite, Std.ExtTreeMap.getElem?_empty]
    simp
  have hreadable : IsReadable (inserted ∅ (ascii "a") [ascii "x"] 1700000000) :=
    isReadable_inserted isReadable_empty (ascii "a") [ascii "x"]
  exact hunderflow hreadable (writeCandidates_eq_panic hwrite hreadable (by norm_num) (.ok ()))

/-! ## Capacity -/

/-- What is left of the entries that have not expired is as many as the cache may hold, and what is
dropped is not younger than what is kept. -/
structure IsTrimmedTo (cacheEntries : ℕ) (fresh left : GoogleCacheBTreeMap) : Prop where
  size : left.size = min fresh.size cacheEntries
  kept : ∀ (k : Bytes) v, left[k]? = some v → fresh[k]? = some v
  oldest : ∀ (k : Bytes) v (k' : Bytes) v', fresh[k]? = some v → left[k]? = none →
    left[k']? = some v' → stamp v ≤ stamp v'

/-- A call of `write_candidates`, with the clock and what the write of the file comes to. -/
structure WriteCall where
  midashi : Bytes
  candidates : List Bytes
  unixTimeNow : ℕ
  write : Except SkkError Unit

/-- The entries that a call finds unexpired, its own among them. -/
abbrev WriteCall.fresh (call : WriteCall) (cacheExpireSeconds : ℕ) (map : GoogleCacheBTreeMap) :
    GoogleCacheBTreeMap :=
  unexpired (inserted map call.midashi call.candidates call.unixTimeNow) cacheExpireSeconds
    call.unixTimeNow

/-- Every call of a run returns, and where it changes the cache it drops what has expired, and what
is too much beyond that, the oldest first. -/
def TrimsAll (cacheEntries cacheExpireSeconds : ℕ) : GoogleCacheBTreeMap → List WriteCall → Prop
  | _, [] => True
  | map, call :: rest => ∃ result left,
    writeCandidates map call.midashi call.candidates cacheEntries cacheExpireSeconds
        call.unixTimeNow call.write = .ok (result, left) ∧
      (shouldWrite map call.midashi call.candidates →
        IsTrimmedTo cacheEntries (call.fresh cacheExpireSeconds map) left) ∧
      TrimsAll cacheEntries cacheExpireSeconds left rest

/-- The clock of no call that changes the cache is below the expire time. -/
def ClocksReach (cacheEntries cacheExpireSeconds : ℕ) :
    GoogleCacheBTreeMap → List WriteCall → Prop
  | _, [] => True
  | map, call :: rest =>
    (shouldWrite map call.midashi call.candidates → cacheExpireSeconds ≤ call.unixTimeNow) ∧
      ∀ result left, writeCandidates map call.midashi call.candidates cacheEntries
          cacheExpireSeconds call.unixTimeNow call.write = .ok (result, left) →
        ClocksReach cacheEntries cacheExpireSeconds left rest

/-- The first call that changes the cache finds a time in every entry, and no more unexpired entries
than one beyond what the cache may hold, its own among them. -/
def FirstFits (cacheEntries cacheExpireSeconds : ℕ) (map : GoogleCacheBTreeMap) :
    List WriteCall → Prop
  | [] => True
  | call :: rest =>
    if shouldWrite map call.midashi call.candidates then
      IsReadable (inserted map call.midashi call.candidates call.unixTimeNow) ∧
        (call.fresh cacheExpireSeconds map).size ≤ cacheEntries + 1
    else FirstFits cacheEntries cacheExpireSeconds map rest

/-- What one eviction comes to. -/
lemma isTrimmedTo_erase {fresh : GoogleCacheBTreeMap} {oldest : Bytes}
    (hlt : cacheEntries < fresh.size) (holdest : IsOldest fresh oldest) :
    IsTrimmedTo cacheEntries fresh (fresh.erase oldest) ↔ fresh.size ≤ cacheEntries + 1 := by
  obtain ⟨v₀, hv₀, hmin⟩ := holdest
  have hmem : oldest ∈ fresh := Std.ExtTreeMap.mem_iff_isSome_getElem?.mpr (by simp [hv₀])
  have hsize : (fresh.erase oldest).size = fresh.size - 1 := by
    rw [Std.ExtTreeMap.size_erase, if_pos (Std.ExtTreeMap.contains_iff_mem.mpr hmem)]
  have hget : ∀ k : Bytes, (fresh.erase oldest)[k]? = if oldest = k then none else fresh[k]? := by
    intro k
    rw [Std.ExtTreeMap.getElem?_erase]
    simp only [Std.LawfulEqCmp.compare_eq_iff_eq]
  constructor
  · intro h
    have heq := h.size
    omega
  · intro hle
    refine ⟨by omega, fun k v hk => ?_, fun k v k' v' hk hnone hk' => ?_⟩
    · rw [hget] at hk
      split at hk
      · exact absurd hk (by simp)
      · exact hk
    · rw [hget] at hnone hk'
      split at hk'
      · exact absurd hk' (by simp)
      rename_i hother
      split at hnone
      · rename_i heq
        subst heq
        obtain rfl : v₀ = v := Option.some.inj (hv₀.symm.trans hk)
        rcases hmin k' v' hk' (Ne.symm hother) with hlt | ⟨heq, -⟩
        · exact hlt.le
        · exact heq.le
      · rw [hk] at hnone
        exact absurd hnone (by simp)

/-- **A call that changes the cache trims it** exactly where it finds at most one entry too many. -/
lemma isTrimmedTo_iff {call : WriteCall} {result : Except SkkError Unit}
    {left : GoogleCacheBTreeMap} (hwrite : shouldWrite map call.midashi call.candidates)
    (hok : writeCandidates map call.midashi call.candidates cacheEntries cacheExpireSeconds
      call.unixTimeNow call.write = .ok (result, left)) :
    IsTrimmedTo cacheEntries (call.fresh cacheExpireSeconds map) left ↔
      (call.fresh cacheExpireSeconds map).size ≤ cacheEntries + 1 := by
  obtain ⟨-, hkept⟩ := (writeCandidates_eq_ok_iff hwrite).mp hok
  obtain ⟨-, -, hkept⟩ := (trim_eq_ok_iff inserted_ne_empty).mp hkept
  unfold WriteCall.fresh
  rcases hkept with ⟨hsize, rfl⟩ | ⟨hlt, oldest, holdest, rfl⟩
  · refine ⟨fun _ => by omega, fun _ => ⟨by omega, fun _ _ h => h, ?_⟩⟩
    intro k v k' v' hk hnone
    rw [hk] at hnone
    exact absurd hnone (by simp)
  · exact isTrimmedTo_erase hlt holdest

lemma size_fresh_le (call : WriteCall) (cacheExpireSeconds : ℕ) (map : GoogleCacheBTreeMap) :
    (call.fresh cacheExpireSeconds map).size ≤ map.size + 1 :=
  Std.ExtTreeMap.size_filter_le_size.trans Std.ExtTreeMap.size_insert_le

/-- What a call that changes the cache leaves has a time in every entry. -/
lemma isReadable_of_writeCandidates {call : WriteCall} {result : Except SkkError Unit}
    {left : GoogleCacheBTreeMap} (hwrite : shouldWrite map call.midashi call.candidates)
    (hok : writeCandidates map call.midashi call.candidates cacheEntries cacheExpireSeconds
      call.unixTimeNow call.write = .ok (result, left)) : IsReadable left := by
  obtain ⟨-, hkept⟩ := (writeCandidates_eq_ok_iff hwrite).mp hok
  obtain ⟨-, hreadable, ⟨-, rfl⟩ | ⟨-, oldest, -, rfl⟩⟩ :=
    (trim_eq_ok_iff inserted_ne_empty).mp hkept
  · exact isReadable_filter hreadable
  · exact isReadable_erase (isReadable_filter hreadable) oldest

/-- From a cache that holds no more than it may, every run trims. -/
lemma trimsAll_of_size_le {calls : List WriteCall} (hreadable : IsReadable map)
    (hsize : map.size ≤ cacheEntries)
    (hclocks : ClocksReach cacheEntries cacheExpireSeconds map calls) :
    TrimsAll cacheEntries cacheExpireSeconds map calls := by
  induction calls generalizing map with
  | nil => trivial
  | cons call rest ih =>
    obtain ⟨hclock, hrest⟩ := hclocks
    by_cases hwrite : shouldWrite map call.midashi call.candidates
    · obtain ⟨result, left, hok, hleft⟩ := writeCandidates_returns hreadable call.midashi
        call.candidates cacheEntries (hclock hwrite) call.write
      have hfits := size_fresh_le call cacheExpireSeconds map
      have htrimmed := (isTrimmedTo_iff hwrite hok).mpr (by omega)
      have hsizeLeft := htrimmed.size
      exact ⟨result, left, hok, fun _ => htrimmed, ih hleft (by omega) (hrest _ _ hok)⟩
    · have hok : writeCandidates map call.midashi call.candidates cacheEntries
          cacheExpireSeconds call.unixTimeNow call.write = .ok (.ok (), map) :=
        writeCandidates_of_not_shouldWrite hwrite call.write
      exact ⟨_, _, hok, fun h => absurd h hwrite, ih hreadable hsize (hrest _ _ hok)⟩

lemma TrimsAll.clocksReach {calls : List WriteCall}
    (h : TrimsAll cacheEntries cacheExpireSeconds map calls) :
    ClocksReach cacheEntries cacheExpireSeconds map calls := by
  induction calls generalizing map with
  | nil => trivial
  | cons call rest ih =>
    obtain ⟨result, left, hok, -, hrest⟩ := h
    refine ⟨fun hwrite => ?_, fun result' left' hok' => ?_⟩
    · obtain ⟨-, hkept⟩ := (writeCandidates_eq_ok_iff hwrite).mp hok
      exact ((trim_eq_ok_iff inserted_ne_empty).mp hkept).1
    · obtain ⟨-, rfl⟩ := Prod.mk.inj (Outcome.ok.inj (hok.symm.trans hok'))
      exact ih hrest

/-- A run that drops what is too much finds one entry too many at most. -/
lemma TrimsAll.firstFits {calls : List WriteCall}
    (h : TrimsAll cacheEntries cacheExpireSeconds map calls) :
    FirstFits cacheEntries cacheExpireSeconds map calls := by
  induction calls with
  | nil => trivial
  | cons call rest ih =>
    obtain ⟨result, left, hok, htrimmed, hrest⟩ := h
    rw [FirstFits]
    by_cases hwrite : shouldWrite map call.midashi call.candidates
    · rw [if_pos hwrite]
      obtain ⟨-, hkept⟩ := (writeCandidates_eq_ok_iff hwrite).mp hok
      exact ⟨((trim_eq_ok_iff inserted_ne_empty).mp hkept).2.1,
        (isTrimmedTo_iff hwrite hok).mp (htrimmed hwrite)⟩
    · rw [if_neg hwrite]
      rw [writeCandidates_of_not_shouldWrite hwrite, Outcome.ok.injEq, Prod.mk.injEq] at hok
      exact ih (hok.2 ▸ hrest)

/-- **Every call of a run returns and keeps the cache within its capacity**, and drops the oldest
only, exactly where no call that changes the cache has a clock below the expire time and the first
one finds times that can be read and at most one entry too many. -/
theorem trimsAll_iff {calls : List WriteCall} :
    TrimsAll cacheEntries cacheExpireSeconds map calls ↔
      ClocksReach cacheEntries cacheExpireSeconds map calls ∧
        FirstFits cacheEntries cacheExpireSeconds map calls := by
  constructor
  · exact fun h => ⟨h.clocksReach, h.firstFits⟩
  · rintro ⟨hclocks, hfits⟩
    induction calls with
    | nil => trivial
    | cons call rest ih =>
      obtain ⟨hclock, hrest⟩ := hclocks
      rw [FirstFits] at hfits
      by_cases hwrite : shouldWrite map call.midashi call.candidates
      · rw [if_pos hwrite] at hfits
        obtain ⟨left, hleft⟩ :=
          exists_trim cacheEntries inserted_ne_empty (hclock hwrite) hfits.1
        have hok : writeCandidates map call.midashi call.candidates cacheEntries
            cacheExpireSeconds call.unixTimeNow call.write = .ok (call.write, left) :=
          (writeCandidates_eq_ok_iff hwrite).mpr ⟨rfl, hleft⟩
        have htrimmed := (isTrimmedTo_iff hwrite hok).mpr hfits.2
        have hsizeLeft := htrimmed.size
        exact ⟨_, _, hok, fun _ => htrimmed,
          trimsAll_of_size_le (isReadable_of_writeCandidates hwrite hok) (by omega)
            (hrest _ _ hok)⟩
      · rw [if_neg hwrite] at hfits
        have hok : writeCandidates map call.midashi call.candidates cacheEntries
            cacheExpireSeconds call.unixTimeNow call.write = .ok (.ok (), map) :=
          writeCandidates_of_not_shouldWrite hwrite call.write
        exact ⟨_, _, hok, fun h => absurd h hwrite, ih (hrest _ _ hok) hfits⟩

end Write

/-- Three entries of one time. -/
def threeEntries : GoogleCacheBTreeMap :=
  ((∅ : GoogleCacheBTreeMap).insert (ascii "a") [decimal 9, ascii "x"]).insert (ascii "b")
    [decimal 9, ascii "x"] |>.insert (ascii "c") [decimal 9, ascii "x"]

/-- A cache that may hold one entry, loaded with three, holds three after a write. -/
theorem not_trimsAll_threeEntries :
    ¬ TrimsAll 1 1 threeEntries [⟨ascii "d", [ascii "x"], 9, .ok ()⟩] := by
  have hwrite : shouldWrite threeEntries (ascii "d") [ascii "x"] := by decide +kernel
  intro h
  have hfits := h.firstFits
  rw [FirstFits, if_pos hwrite] at hfits
  exact absurd hfits.2 (by decide +kernel)

end GoogleCache

end Yaskkserv2
