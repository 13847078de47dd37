import Yaskkserv2.Server.GoogleCache

/-!
# What a write leaves in the cache

A write of the cache of Google candidates puts the new entry in, drops what has expired, and drops
the oldest entry where there are too many.  The map it leaves is described here: the entries that
have not expired (`unexpired`), less the one with the smallest time where they are more than the
cache may hold (`trim_eq_ok_iff`).  Of equally old entries the one with the smallest key goes
(`IsOldest`).

A write reads the time of every entry and takes the expire time off the clock, so it returns exactly
where every entry has a time and the clock is not below the expire time.
-/

namespace Yaskkserv2

open Framework

namespace GoogleCache

/-! ## Times -/

lemma parseDigits_append {value : ℕ} (xs ys : Bytes) :
    parseDigits value (xs ++ ys) = (parseDigits value xs).bind fun v => parseDigits v ys := by
  induction xs generalizing value with
  | nil => rfl
  | cons b xs ih =>
    rw [List.cons_append, parseDigits, parseDigits]
    dsimp only
    split
    · split
      · exact ih
      · rfl
    · rfl

/-- A digit of a number in decimal. -/
lemma digitChar_eq {d : ℕ} (hd : d < 10) :
    d.digitChar.toNat.toUInt8 = (0x30 + d).toUInt8 ∧ 0x30 ≤ (0x30 + d).toUInt8 ∧
      (0x30 + d).toUInt8 ≤ 0x39 ∧ ((0x30 + d).toUInt8 - 0x30).toNat = d := by
  interval_cases d <;> decide

lemma decimal_of_lt {n : ℕ} (h : n < 10) : decimal n = [(0x30 + n).toUInt8] := by
  rw [decimal, Nat.toDigits_of_lt_base h, List.map_singleton, (digitChar_eq h).1]

lemma decimal_of_le {n : ℕ} (h : 10 ≤ n) :
    decimal n = decimal (n / 10) ++ [(0x30 + n % 10).toUInt8] := by
  have hdigit := (digitChar_eq (Nat.mod_lt n (by norm_num : 10 > 0))).1
  rw [decimal, Nat.toDigits_of_base_le (by norm_num) h, List.map_append, List.map_singleton,
    hdigit, ← decimal]

lemma parseDigits_digit {value d : ℕ} (hd : d < 10) (h : value * 10 + d < 2 ^ 64) :
    parseDigits value [(0x30 + d).toUInt8] = some (value * 10 + d) := by
  obtain ⟨-, hlow, hhigh, hdigit⟩ := digitChar_eq hd
  rw [parseDigits, if_pos ⟨hlow, hhigh⟩]
  dsimp only
  rw [hdigit, if_pos h, parseDigits]

lemma parseDigits_decimal {n : ℕ} (h : n < 2 ^ 64) : parseDigits 0 (decimal n) = some n := by
  induction n using Nat.strong_induction_on with
  | _ n ih =>
    rcases Nat.lt_or_ge n 10 with hn | hn
    · have hdigit : parseDigits 0 [(0x30 + n).toUInt8] = some (0 * 10 + n) :=
        parseDigits_digit hn (by omega)
      rw [decimal_of_lt hn, hdigit, Nat.zero_mul, Nat.zero_add]
    · have hmod : n % 10 < 10 := Nat.mod_lt n (by norm_num)
      have hdiv : n / 10 * 10 + n % 10 = n := Nat.div_add_mod' n 10
      rw [decimal_of_le hn, parseDigits_append, ih (n / 10) (by omega) (by omega),
        Option.bind_some, parseDigits_digit hmod (by omega), hdiv]

lemma mem_decimal {n : ℕ} {b : UInt8} (hb : b ∈ decimal n) : 0x30 ≤ b ∧ b ≤ 0x39 := by
  induction n using Nat.strong_induction_on with
  | _ n ih =>
    rcases Nat.lt_or_ge n 10 with hn | hn
    · rw [decimal_of_lt hn, List.mem_singleton] at hb
      subst hb
      exact ⟨(digitChar_eq hn).2.1, (digitChar_eq hn).2.2.1⟩
    · have hmod : n % 10 < 10 := Nat.mod_lt n (by norm_num)
      rw [decimal_of_le hn, List.mem_append, List.mem_singleton] at hb
      rcases hb with hb | rfl
      · exact ih (n / 10) (by omega) hb
      · exact ⟨(digitChar_eq hmod).2.1, (digitChar_eq hmod).2.2.1⟩

lemma decimal_ne_nil (n : ℕ) : decimal n ≠ [] := by
  rcases Nat.lt_or_ge n 10 with hn | hn
  · simp [decimal_of_lt hn]
  · simp [decimal_of_le hn]

/-- The time that a write puts in is the time that is read. -/
lemma parseOrZeroU64_decimal {n : ℕ} (h : n < 2 ^ 64) : parseOrZeroU64 (decimal n) = .ok n := by
  have hascii : isUtf8 (decimal n) = true := isUtf8_of_ascii fun b hb =>
    UInt8.le_trans (mem_decimal hb).2 (by decide)
  have hplus : (decimal n).head? ≠ some 0x2b := by
    intro hhead
    have hmem := List.mem_of_mem_head? hhead
    exact absurd (mem_decimal hmem).1 (by decide)
  rw [parseOrZeroU64, if_pos hascii, if_neg hplus]
  dsimp only
  rw [if_neg (decimal_ne_nil n), parseDigits_decimal h, Option.getD_some]

/-- The time of a stored list that has one. -/
def stamp (value : List Bytes) : ℕ :=
  match entryTime ([], value) with
  | .ok time => time
  | _ => 0

/-- Every entry of a cache has a time. -/
def IsReadable (map : GoogleCacheBTreeMap) : Prop :=
  ∀ e ∈ map.toList, entryTime e = .ok (stamp e.2)

lemma toList_empty : (∅ : GoogleCacheBTreeMap).toList = [] :=
  Std.ExtTreeMap.toList_eq_nil_iff.mpr rfl

lemma isReadable_empty : IsReadable ∅ := by
  rw [IsReadable, toList_empty]
  simp

lemma entryTime_eq_stamp {e : Bytes × List Bytes} {time : ℕ} (h : entryTime e = .ok time) :
    entryTime e = .ok (stamp e.2) := by
  have hvalue : entryTime ([], e.2) = entryTime e := rfl
  rw [stamp, hvalue, h]

lemma entryTime_decimal {n : ℕ} (h : n < 2 ^ 64) (midashi : Bytes) (candidates : List Bytes) :
    entryTime (midashi, decimal n :: candidates) = .ok n := by
  rw [entryTime, index_cons_zero, Outcome.ok_bind, parseOrZeroU64_decimal h]

lemma stamp_decimal {n : ℕ} (h : n < 2 ^ 64) (candidates : List Bytes) :
    stamp (decimal n :: candidates) = n := by
  rw [stamp, entryTime_decimal h]

/-! ## Expiry -/

/-- The entries of a cache that have not expired. -/
def unexpired (map : GoogleCacheBTreeMap) (cacheExpireSeconds unixTimeNow : ℕ) :
    GoogleCacheBTreeMap :=
  map.filter fun _ value => unixTimeNow - cacheExpireSeconds < stamp value

section Expiry

variable {map : GoogleCacheBTreeMap} {cacheExpireSeconds unixTimeNow : ℕ}

lemma getElem?_unexpired {midashi : Bytes} :
    (unexpired map cacheExpireSeconds unixTimeNow)[midashi]? =
      map[midashi]?.filter fun value => unixTimeNow - cacheExpireSeconds < stamp value :=
  Std.ExtTreeMap.getElem?_filter'

/-- An expiry filter over a list returns where each of its times can be read. -/
lemma mapM_keepUnexpired_eq_ok_iff {entries : List (Bytes × List Bytes)}
    {kept : List (List (Bytes × List Bytes))} :
    entries.mapM (keepUnexpired unixTimeNow cacheExpireSeconds) = .ok kept ↔
      (entries ≠ [] → cacheExpireSeconds ≤ unixTimeNow) ∧
      (∀ e ∈ entries, entryTime e = .ok (stamp e.2)) ∧
      kept = entries.map fun e =>
        if unixTimeNow - cacheExpireSeconds < stamp e.2 then [e] else [] := by
  induction entries generalizing kept with
  | nil => simp
  | cons e entries ih =>
    have hkeep : ∀ piece, keepUnexpired unixTimeNow cacheExpireSeconds e = .ok piece ↔
        cacheExpireSeconds ≤ unixTimeNow ∧ entryTime e = .ok (stamp e.2) ∧
          piece = if unixTimeNow - cacheExpireSeconds < stamp e.2 then [e] else [] := by
      intro piece
      rw [keepUnexpired, Outcome.bind_eq_ok]
      constructor
      · rintro ⟨time, htime, hrest⟩
        have hstamp := entryTime_eq_stamp htime
        obtain rfl : time = stamp e.2 := Outcome.ok.inj (htime.symm.trans hstamp)
        obtain ⟨limit, hlimit, hpiece⟩ := Outcome.bind_eq_ok.mp hrest
        rw [checkedSub] at hlimit
        split at hlimit
        · rename_i hle
          cases hlimit
          exact ⟨hle, htime, (Outcome.ok.inj hpiece).symm⟩
        · exact absurd hlimit (by simp)
      · rintro ⟨hle, htime, rfl⟩
        refine ⟨_, htime, ?_⟩
        rw [checkedSub, if_pos hle, Outcome.ok_bind]
        rfl
    rw [List.mapM_cons]
    constructor
    · intro h
      obtain ⟨piece, hpiece, hrest⟩ := Outcome.bind_eq_ok.mp h
      obtain ⟨pieces, hpieces, hkept⟩ := Outcome.bind_eq_ok.mp hrest
      obtain ⟨hle, htime, rfl⟩ := (hkeep piece).mp hpiece
      obtain ⟨-, htimes, rfl⟩ := ih.mp hpieces
      exact ⟨fun _ => hle, List.forall_mem_cons.mpr ⟨htime, htimes⟩, (Outcome.ok.inj hkept).symm⟩
    · rintro ⟨hle, htimes, rfl⟩
      obtain ⟨htime, htimes⟩ := List.forall_mem_cons.mp htimes
      have hle := hle (List.cons_ne_nil e entries)
      rw [(hkeep _).mpr ⟨hle, htime, rfl⟩, Outcome.ok_bind, ih.mpr ⟨fun _ => hle, htimes, rfl⟩,
        Outcome.ok_bind]
      rfl

lemma ofList_toList (map : GoogleCacheBTreeMap) :
    Std.ExtTreeMap.ofList map.toList compare = map := by
  apply Std.ExtTreeMap.ext_getElem?
  intro k
  cases hget : map[k]? with
  | some v =>
    exact Std.ExtTreeMap.getElem?_ofList_of_mem Std.ReflCmp.compare_self
      Std.ExtTreeMap.distinct_keys_toList
      (Std.ExtTreeMap.mem_toList_iff_getElem?_eq_some.mpr hget)
  | none =>
    apply Std.ExtTreeMap.getElem?_ofList_of_contains_eq_false
    rw [Std.ExtTreeMap.map_fst_toList_eq_keys, Std.ExtTreeMap.contains_keys]
    rw [Std.ExtTreeMap.contains_eq_isSome_getElem?, hget, Option.isSome_none]

/-- **The expiry filter** returns where the clock is not below the expire time and every entry has
a time, and keeps the entries that have not expired. -/
lemma removeExpired_eq_ok_iff {kept : GoogleCacheBTreeMap} (hne : map ≠ ∅) :
    removeExpired map cacheExpireSeconds unixTimeNow = .ok kept ↔
      cacheExpireSeconds ≤ unixTimeNow ∧ IsReadable map ∧
        kept = unexpired map cacheExpireSeconds unixTimeNow := by
  have hentries : map.toList ≠ [] := by
    simpa using hne
  have hflatten : (map.toList.map fun e =>
      if unixTimeNow - cacheExpireSeconds < stamp e.2 then [e] else []).flatten =
        (unexpired map cacheExpireSeconds unixTimeNow).toList := by
    rw [unexpired, Std.ExtTreeMap.toList_filter]
    induction map.toList with
    | nil => rfl
    | cons e entries ih =>
      rw [List.map_cons, List.flatten_cons, ih]
      by_cases h : unixTimeNow - cacheExpireSeconds < stamp e.2 <;> simp [h]
  rw [removeExpired, Outcome.bind_eq_ok]
  constructor
  · rintro ⟨pieces, hpieces, hkept⟩
    obtain ⟨hle, htimes, rfl⟩ := mapM_keepUnexpired_eq_ok_iff.mp hpieces
    rw [hflatten, ofList_toList] at hkept
    exact ⟨hle hentries, htimes, (Outcome.ok.inj hkept).symm⟩
  · rintro ⟨hle, htimes, rfl⟩
    refine ⟨_, mapM_keepUnexpired_eq_ok_iff.mpr ⟨fun _ => hle, htimes, rfl⟩, ?_⟩
    rw [hflatten, ofList_toList]
    rfl

end Expiry

/-! ## Eviction -/

/-- The entry that goes where a cache holds too many: of the smallest time the one with the smallest
key. -/
def IsOldest (map : GoogleCacheBTreeMap) (midashi : Bytes) : Prop :=
  ∃ value, map[midashi]? = some value ∧ ∀ midashi' value', map[midashi']? = some value' →
    midashi' ≠ midashi →
      stamp value < stamp value' ∨ stamp value = stamp value' ∧ midashi < midashi'

section Eviction

variable {map : GoogleCacheBTreeMap} {cacheEntries cacheExpireSeconds unixTimeNow : ℕ}

/-- Two oldest entries are one. -/
lemma IsOldest.unique {k k' : Bytes} (h : IsOldest map k) (h' : IsOldest map k') : k = k' := by
  by_contra hne
  obtain ⟨v, hv, hmin⟩ := h
  obtain ⟨v', hv', hmin'⟩ := h'
  rcases hmin k' v' hv' (Ne.symm hne) with hlt | ⟨heq, hlt⟩
  · rcases hmin' k v hv hne with hlt' | ⟨heq', -⟩
    · omega
    · omega
  · rcases hmin' k v hv hne with hlt' | ⟨-, hlt'⟩
    · omega
    · exact absurd hlt' (List.lt_asymm hlt)

/-- `min_by` returns the first entry of the smallest time. -/
lemma oldestEntry_eq {entries : List (Bytes × List Bytes)} (hne : entries ≠ [])
    (htimes : ∀ e ∈ entries, entryTime e = .ok (stamp e.2)) :
    ∃ pre e post, entries = pre ++ e :: post ∧
      oldestEntry entries = .ok (some (e.1, stamp e.2)) ∧
      (∀ a ∈ pre, stamp e.2 < stamp a.2) ∧ ∀ b ∈ post, stamp e.2 ≤ stamp b.2 := by
  induction entries with
  | nil => exact absurd rfl hne
  | cons a rest ih =>
    obtain ⟨htime, htimes⟩ := List.forall_mem_cons.mp htimes
    rw [oldestEntry, htime, Outcome.ok_bind]
    by_cases hrest : rest = []
    · subst hrest
      exact ⟨[], a, [], rfl, rfl, by simp, by simp⟩
    · obtain ⟨pre, e, post, rfl, holdest, hpre, hpost⟩ := ih hrest htimes
      rw [holdest, Outcome.ok_bind]
      dsimp only
      by_cases hlt : stamp e.2 < stamp a.2
      · rw [if_pos hlt]
        refine ⟨a :: pre, e, post, rfl, rfl, ?_, hpost⟩
        exact List.forall_mem_cons.mpr ⟨hlt, hpre⟩
      · rw [if_neg hlt]
        refine ⟨[], a, pre ++ e :: post, rfl, rfl, by simp, ?_⟩
        have hle := Nat.not_lt.mp hlt
        rw [List.forall_mem_append, List.forall_mem_cons]
        exact ⟨fun b hb => hle.trans (hpre b hb).le, hle, fun b hb => hle.trans (hpost b hb)⟩

/-- Of a cache with times, the entry that `min_by` returns is the oldest. -/
lemma exists_isOldest (hne : map ≠ ∅) (hreadable : IsReadable map) :
    ∃ midashi time, oldestEntry map.toList = .ok (some (midashi, time)) ∧
      IsOldest map midashi := by
  have hentries : map.toList ≠ [] := by
    rwa [ne_eq, Std.ExtTreeMap.toList_eq_nil_iff]
  obtain ⟨pre, e, post, hsplit, holdest, hpre, hpost⟩ := oldestEntry_eq hentries hreadable
  refine ⟨e.1, stamp e.2, holdest, e.2, ?_, fun midashi' value' hvalue' hkey => ?_⟩
  · apply Std.ExtTreeMap.mem_toList_iff_getElem?_eq_some.mp
    rw [hsplit]
    simp
  · have hmem := Std.ExtTreeMap.mem_toList_iff_getElem?_eq_some.mpr hvalue'
    have hordered : map.toList.Pairwise fun a b => compare a.1 b.1 = .lt :=
      Std.ExtTreeMap.ordered_keys_toList
    rw [hsplit] at hmem hordered
    rcases List.mem_append.mp hmem with hmem | hmem
    · exact .inl (hpre _ hmem)
    rcases List.mem_cons.mp hmem with heq | hmem
    · exact absurd (congrArg Prod.fst heq) hkey
    · have hlt := (List.pairwise_cons.mp (List.pairwise_append.mp hordered).2.1).1 _ hmem
      rcases Nat.lt_or_eq_of_le (hpost _ hmem) with h | h
      · exact .inl h
      · exact .inr ⟨h, compare_eq_lt_iff.mp hlt⟩

lemma isReadable_filter {keep : Bytes → List Bytes → Bool} (h : IsReadable map) :
    IsReadable (map.filter keep) := by
  intro e he
  rw [Std.ExtTreeMap.toList_filter] at he
  exact h e (List.mem_filter.mp he).1

/-- **What a write keeps of a map**: the entries that have not expired, less the oldest of them
where they are too many. -/
lemma trim_eq_ok_iff {kept : GoogleCacheBTreeMap} (hne : map ≠ ∅) :
    trim map cacheEntries cacheExpireSeconds unixTimeNow = .ok kept ↔
      cacheExpireSeconds ≤ unixTimeNow ∧ IsReadable map ∧
        ((unexpired map cacheExpireSeconds unixTimeNow).size ≤ cacheEntries ∧
            kept = unexpired map cacheExpireSeconds unixTimeNow ∨
          cacheEntries < (unexpired map cacheExpireSeconds unixTimeNow).size ∧
            ∃ oldest, IsOldest (unexpired map cacheExpireSeconds unixTimeNow) oldest ∧
              kept = (unexpired map cacheExpireSeconds unixTimeNow).erase oldest) := by
  set fresh := unexpired map cacheExpireSeconds unixTimeNow with hfresh
  have hover : cacheEntries < fresh.size → fresh ≠ ∅ := by
    rintro hlt hempty
    rw [hempty, Std.ExtTreeMap.size_empty] at hlt
    omega
  rw [trim, Outcome.bind_eq_ok]
  constructor
  · rintro ⟨expiredMap, hexpired, hkept⟩
    obtain ⟨hle, hreadable, rfl⟩ := (removeExpired_eq_ok_iff hne).mp hexpired
    rw [← hfresh] at hkept
    refine ⟨hle, hreadable, ?_⟩
    have hfreshReadable : IsReadable fresh := isReadable_filter hreadable
    by_cases hlt : cacheEntries < fresh.size
    · obtain ⟨oldest, time, heq, holdest⟩ := exists_isOldest (hover hlt) hfreshReadable
      rw [if_pos hlt, heq, Outcome.ok_bind] at hkept
      exact .inr ⟨hlt, oldest, holdest, (Outcome.ok.inj hkept).symm⟩
    · rw [if_neg hlt] at hkept
      exact .inl ⟨Nat.not_lt.mp hlt, (Outcome.ok.inj hkept).symm⟩
  · rintro ⟨hle, hreadable, hkept⟩
    refine ⟨fresh, (removeExpired_eq_ok_iff hne).mpr ⟨hle, hreadable, rfl⟩, ?_⟩
    rcases hkept with ⟨hsize, rfl⟩ | ⟨hlt, oldest, holdest, rfl⟩
    · rw [if_neg (Nat.not_lt.mpr hsize)]
      rfl
    · have hfreshReadable : IsReadable fresh := isReadable_filter hreadable
      obtain ⟨oldest', time, heq, holdest'⟩ := exists_isOldest (hover hlt) hfreshReadable
      rw [if_pos hlt, heq, Outcome.ok_bind, holdest.unique holdest']
      rfl

/-- With a time in every entry, and a clock that is not below the expire time, something is kept. -/
lemma exists_trim (cacheEntries : ℕ) (hne : map ≠ ∅) (hle : cacheExpireSeconds ≤ unixTimeNow)
    (hreadable : IsReadable map) :
    ∃ kept, trim map cacheEntries cacheExpireSeconds unixTimeNow = .ok kept := by
  set fresh := unexpired map cacheExpireSeconds unixTimeNow with hfresh
  by_cases hlt : cacheEntries < fresh.size
  · have hover : fresh ≠ ∅ := by
      rintro hempty
      rw [hempty, Std.ExtTreeMap.size_empty] at hlt
      omega
    have hfreshReadable : IsReadable fresh := isReadable_filter hreadable
    obtain ⟨oldest, -, -, holdest⟩ := exists_isOldest hover hfreshReadable
    exact ⟨_, (trim_eq_ok_iff hne).mpr ⟨hle, hreadable, .inr ⟨hlt, oldest, holdest, rfl⟩⟩⟩
  · exact ⟨_, (trim_eq_ok_iff hne).mpr ⟨hle, hreadable, .inl ⟨Nat.not_lt.mp hlt, rfl⟩⟩⟩

end Eviction

end GoogleCache

end Yaskkserv2
