import Yaskkserv2.Properties.CacheWrites

/-!
# The age of cached candidates

Expiry is decided by the filter of `write_candidates` alone.  `get_candidates` returns whatever is
in the map, and a hit writes what it has found back under the time of the hit, so neither the list
that is returned nor its stamp need be recent.

When the cache drops a list is told by the clock: at a write of another midashi, at a time at which
every stamp that the list may have has expired (`Expires`).  So the times at which a list was
fetched that the cache may still hold are told by the clock, too (`fetchTimes`), and in a run in
which every look-up comes within the expire time of these, nothing older is returned
(`always_isFresh`).
-/

namespace Yaskkserv2

open Framework

namespace GoogleCache

/-- A look-up as `read_google_candidates` makes it: when the cache is asked, what the network
answers where it has nothing, and when the answer is written. -/
structure Lookup where
  midashi : Bytes
  calledAt : UInt64
  fetched : List Bytes
  writtenAt : UInt64
  write : Except SkkError Unit

/-- What happens to the cache. -/
inductive CacheStep where
  | setup (read : Except SkkError GoogleCacheBTreeMap)
  | lookup (l : Lookup)

/-- The cache with the time at which the list of a midashi was last fetched from the network, or
stamped in the loaded file. -/
structure AgedCache where
  map : GoogleCacheBTreeMap
  fetchedAt : Bytes → ℕ

/-- The cache at the start of the server. -/
def AgedCache.new : AgedCache := ⟨∅, fun _ => 0⟩

namespace AgedCache

/-- What a look-up leaves: a list from the cache is written back, a fetched one is written, and
without either nothing happens.  There is no state after a call that does not return. -/
def lookup (cacheEntries cacheExpireSeconds : ℕ) (s : AgedCache) (l : Lookup) : Option AgedCache :=
  let now := l.writtenAt.toNat
  let cached := getCandidates s.map l.midashi
  if cached ≠ [] then
    match writeCandidates s.map l.midashi cached cacheEntries cacheExpireSeconds now l.write with
    | .ok (_, left) => some ⟨left, s.fetchedAt⟩
    | _ => none
  else if l.fetched = [] then some s
  else
    match writeCandidates s.map l.midashi l.fetched cacheEntries cacheExpireSeconds now l.write with
    | .ok (_, left) => some ⟨left, Function.update s.fetchedAt l.midashi now⟩
    | _ => none

/-- A step of a run. -/
def step (cacheEntries cacheExpireSeconds : ℕ) (s : AgedCache) : CacheStep → Option AgedCache
  | .setup read =>
    let map := setupUseRwlockInternally read
    some ⟨map, fun midashi => (map[midashi]?.map stamp).getD 0⟩
  | .lookup l => s.lookup cacheEntries cacheExpireSeconds l

/-- A property holds at every step of a run. -/
def Always (cacheEntries cacheExpireSeconds : ℕ) (P : AgedCache → CacheStep → Prop) :
    AgedCache → List CacheStep → Prop
  | _, [] => True
  | s, e :: rest => P s e ∧
    ∀ s', s.step cacheEntries cacheExpireSeconds e = some s' →
      s'.Always cacheEntries cacheExpireSeconds P rest

/-- What the cache returns was fetched less than the expire time ago. -/
def IsFresh (cacheExpireSeconds : ℕ) (s : AgedCache) : CacheStep → Prop
  | .setup _ => True
  | .lookup l => getCandidates s.map l.midashi ≠ [] →
    l.calledAt.toNat < s.fetchedAt l.midashi + cacheExpireSeconds

end AgedCache

/-! ## What the clock tells -/

/-- The stamp of a midashi in a file that is loaded. -/
def loadedTime (read : Except SkkError GoogleCacheBTreeMap) (midashi : Bytes) : List ℕ :=
  ((setupUseRwlockInternally read)[midashi]?.map stamp).toList

/-- The times that the list of a midashi may be stamped with behind some steps, the last one first.
A look-up stamps the list of its own midashi, and drops the lists of others whose stamps have all
expired, if it writes: it does where the network answers with two candidates, as no list of that
length is written for the list it is already. -/
def stampTimes (cacheExpireSeconds : ℕ) (midashi : Bytes) : List CacheStep → List ℕ
  | [] => []
  | .setup read :: _ => loadedTime read midashi
  | .lookup l :: past =>
    if l.midashi = midashi then l.writtenAt.toNat :: stampTimes cacheExpireSeconds midashi past
    else if 2 ≤ l.fetched.length ∧ ∀ t ∈ stampTimes cacheExpireSeconds midashi past,
      t + cacheExpireSeconds ≤ l.writtenAt.toNat then []
    else stampTimes cacheExpireSeconds midashi past

/-- A look-up drops the list of another midashi, by what the clock tells. -/
abbrev Expires (cacheExpireSeconds : ℕ) (midashi : Bytes) (past : List CacheStep) (l : Lookup) :
    Prop :=
  2 ≤ l.fetched.length ∧ ∀ t ∈ stampTimes cacheExpireSeconds midashi past,
    t + cacheExpireSeconds ≤ l.writtenAt.toNat

/-- The times at which the list of a midashi may have been fetched, or stamped in the loaded file,
if the cache holds it behind some steps. -/
def fetchTimes (cacheExpireSeconds : ℕ) (midashi : Bytes) : List CacheStep → List ℕ
  | [] => []
  | .setup read :: _ => loadedTime read midashi
  | .lookup l :: past =>
    if l.midashi = midashi then
      if l.fetched = [] then fetchTimes cacheExpireSeconds midashi past
      else l.writtenAt.toNat :: fetchTimes cacheExpireSeconds midashi past
    else if Expires cacheExpireSeconds midashi past l then []
    else fetchTimes cacheExpireSeconds midashi past

/-- Every look-up comes within the expire time of the times at which its list may have been
fetched. -/
def ComeInTime (cacheExpireSeconds : ℕ) : List CacheStep → List CacheStep → Prop
  | _, [] => True
  | past, .setup read :: rest => ComeInTime cacheExpireSeconds (.setup read :: past) rest
  | past, .lookup l :: rest =>
    (∀ t ∈ fetchTimes cacheExpireSeconds l.midashi past,
      l.calledAt.toNat < t + cacheExpireSeconds) ∧
    ComeInTime cacheExpireSeconds (.lookup l :: past) rest

/-- What the cache holds is stamped and was fetched at one of the times that the clock tells. -/
def AgedCache.IsTimed (cacheExpireSeconds : ℕ) (past : List CacheStep) (s : AgedCache) : Prop :=
  ∀ (midashi : Bytes) stored, s.map[midashi]? = some stored → 2 ≤ stored.length →
    stamp stored ∈ stampTimes cacheExpireSeconds midashi past ∧
      s.fetchedAt midashi ∈ fetchTimes cacheExpireSeconds midashi past

section Times

variable {cacheExpireSeconds : ℕ} {midashi : Bytes} {past : List CacheStep} {l : Lookup}

lemma stampTimes_self (h : l.midashi = midashi) :
    stampTimes cacheExpireSeconds midashi (.lookup l :: past) =
      l.writtenAt.toNat :: stampTimes cacheExpireSeconds midashi past := by
  rw [stampTimes, if_pos h]

lemma stampTimes_other (h : l.midashi ≠ midashi)
    (hexpires : ¬ Expires cacheExpireSeconds midashi past l) :
    stampTimes cacheExpireSeconds midashi (.lookup l :: past) =
      stampTimes cacheExpireSeconds midashi past := by
  rw [stampTimes, if_neg h, if_neg hexpires]

lemma fetchTimes_other (h : l.midashi ≠ midashi)
    (hexpires : ¬ Expires cacheExpireSeconds midashi past l) :
    fetchTimes cacheExpireSeconds midashi (.lookup l :: past) =
      fetchTimes cacheExpireSeconds midashi past := by
  rw [fetchTimes, if_neg h, if_neg hexpires]

lemma fetchTimes_fetched (h : l.midashi = midashi) (hfetched : l.fetched ≠ []) :
    l.writtenAt.toNat ∈ fetchTimes cacheExpireSeconds midashi (.lookup l :: past) := by
  rw [fetchTimes, if_pos h, if_neg hfetched]
  exact List.mem_cons_self

lemma mem_fetchTimes_self (h : l.midashi = midashi) {t : ℕ}
    (ht : t ∈ fetchTimes cacheExpireSeconds midashi past) :
    t ∈ fetchTimes cacheExpireSeconds midashi (.lookup l :: past) := by
  rw [fetchTimes, if_pos h]
  split
  · exact ht
  · exact List.mem_cons_of_mem _ ht

end Times

section Lookup

variable {map left : GoogleCacheBTreeMap} {midashi : Bytes} {candidates : List Bytes}
  {cacheEntries cacheExpireSeconds unixTimeNow : ℕ}

lemma getCandidates_ne_nil_iff :
    getCandidates map midashi ≠ [] ↔
      ∃ stored, map[midashi]? = some stored ∧ 2 ≤ stored.length := by
  rw [getCandidates]
  cases hget : map[midashi]? with
  | none => simp
  | some stored =>
    dsimp only
    constructor
    · intro h
      refine ⟨stored, rfl, ?_⟩
      by_contra hshort
      exact h (if_neg hshort)
    · rintro ⟨stored', heq, hlong⟩
      obtain rfl := Option.some.inj heq
      rw [if_pos hlong]
      apply List.ne_nil_of_length_pos
      rw [List.length_drop]
      omega

/-- What a write leaves is from the cache with the new entry, and has not expired. -/
lemma getElem?_inserted_of_writeCandidates {write result : Except SkkError Unit}
    (hwrite : shouldWrite map midashi candidates)
    (hok : writeCandidates map midashi candidates cacheEntries cacheExpireSeconds unixTimeNow
      write = .ok (result, left)) {k : Bytes} {stored : List Bytes}
    (hk : left[k]? = some stored) :
    (inserted map midashi candidates unixTimeNow)[k]? = some stored ∧
      unixTimeNow < stamp stored + cacheExpireSeconds := by
  obtain ⟨-, hkept⟩ := (writeCandidates_eq_ok_iff hwrite).mp hok
  obtain ⟨hle, -, hkept⟩ := (trim_eq_ok_iff inserted_ne_empty).mp hkept
  have hfresh : (unexpired (inserted map midashi candidates unixTimeNow) cacheExpireSeconds
      unixTimeNow)[k]? = some stored := by
    rcases hkept with ⟨-, rfl⟩ | ⟨-, oldest, -, rfl⟩
    · exact hk
    · rw [Std.ExtTreeMap.getElem?_erase] at hk
      split at hk
      · exact absurd hk (by simp)
      · exact hk
  rw [getElem?_unexpired] at hfresh
  obtain ⟨hinserted, hunexpired⟩ := Option.filter_eq_some_iff.mp hfresh
  have hlt : unixTimeNow - cacheExpireSeconds < stamp stored := of_decide_eq_true hunexpired
  exact ⟨hinserted, by omega⟩

end Lookup

namespace AgedCache

variable {cacheEntries cacheExpireSeconds : ℕ} {past : List CacheStep} {s s' : AgedCache}
  {l : Lookup}

/-- A write keeps the lists that have not expired, beside its own. -/
lemma IsTimed.write (hs : s.IsTimed cacheExpireSeconds past) {candidates : List Bytes}
    {result : Except SkkError Unit} {left : GoogleCacheBTreeMap} {fetchedAt : Bytes → ℕ}
    (hwrite : shouldWrite s.map l.midashi candidates)
    (hok : writeCandidates s.map l.midashi candidates cacheEntries cacheExpireSeconds
      l.writtenAt.toNat l.write = .ok (result, left))
    (hself : fetchedAt l.midashi ∈ fetchTimes cacheExpireSeconds l.midashi (.lookup l :: past))
    (hother : ∀ k, k ≠ l.midashi → fetchedAt k = s.fetchedAt k) :
    IsTimed cacheExpireSeconds (.lookup l :: past) ⟨left, fetchedAt⟩ := by
  intro k stored hk hlong
  obtain ⟨hinserted, hlt⟩ := getElem?_inserted_of_writeCandidates hwrite hok hk
  rw [Std.ExtTreeMap.getElem?_insert] at hinserted
  split at hinserted
  · rename_i heq
    obtain rfl : l.midashi = k := Std.LawfulEqCmp.compare_eq_iff_eq.mp heq
    rw [← Option.some.inj hinserted, stamp_decimal l.writtenAt.toNat_lt, stampTimes_self rfl]
    exact ⟨List.mem_cons_self, hself⟩
  · rename_i hne
    have hk : l.midashi ≠ k := fun heq => hne (Std.LawfulEqCmp.compare_eq_iff_eq.mpr heq)
    obtain ⟨hstamp, hfetched⟩ := hs k stored hinserted hlong
    have hexpires : ¬ Expires cacheExpireSeconds k past l := fun h =>
      absurd (h.2 _ hstamp) (Nat.not_le.mpr hlt)
    rw [← hother k hk.symm] at hfetched
    rw [stampTimes_other hk hexpires, fetchTimes_other hk hexpires]
    exact ⟨hstamp, hfetched⟩

/-- A hit stamps its list anew, which was fetched when it was. -/
lemma IsTimed.hit (hs : s.IsTimed cacheExpireSeconds past)
    (hhit : getCandidates s.map l.midashi ≠ [])
    (h : s.lookup cacheEntries cacheExpireSeconds l = some s') :
    s'.IsTimed cacheExpireSeconds (.lookup l :: past) := by
  obtain ⟨stored, hstored, hlong⟩ := getCandidates_ne_nil_iff.mp hhit
  rw [lookup] at h
  rw [if_pos hhit] at h
  split at h
  · rename_i result left hok
    obtain rfl := Option.some.inj h
    exact hs.write (shouldWrite_getCandidates hhit) hok
      (mem_fetchTimes_self rfl (hs _ stored hstored hlong).2) fun _ _ => rfl
  · exact absurd h (by simp)

/-- A miss that writes nothing keeps what is held. -/
lemma IsTimed.skip (hs : s.IsTimed cacheExpireSeconds past)
    (hmiss : ¬ getCandidates s.map l.midashi ≠ []) (hfetched : l.fetched.length < 2)
    {fetchedAt : Bytes → ℕ} (hother : ∀ k, k ≠ l.midashi → fetchedAt k = s.fetchedAt k) :
    IsTimed cacheExpireSeconds (.lookup l :: past) ⟨s.map, fetchedAt⟩ := by
  intro k stored hk hlong
  have hne : l.midashi ≠ k := by
    rintro rfl
    exact hmiss (getCandidates_ne_nil_iff.mpr ⟨stored, hk, hlong⟩)
  have hexpires : ¬ Expires cacheExpireSeconds k past l := fun h =>
    absurd h.1 (Nat.not_le.mpr hfetched)
  obtain ⟨hstamp, hfetchedAt⟩ := hs k stored hk hlong
  rw [← hother k hne.symm] at hfetchedAt
  rw [stampTimes_other hne hexpires, fetchTimes_other hne hexpires]
  exact ⟨hstamp, hfetchedAt⟩

/-- A miss stamps what is fetched with the time of its fetch. -/
lemma IsTimed.miss (hs : s.IsTimed cacheExpireSeconds past)
    (hmiss : ¬ getCandidates s.map l.midashi ≠ [])
    (h : s.lookup cacheEntries cacheExpireSeconds l = some s') :
    s'.IsTimed cacheExpireSeconds (.lookup l :: past) := by
  rw [lookup] at h
  rw [if_neg hmiss] at h
  split at h
  · rename_i hnone
    obtain rfl := Option.some.inj h
    exact hs.skip hmiss (by rw [hnone]; decide) fun _ _ => rfl
  rename_i hfetched
  split at h
  · rename_i result left hok
    obtain rfl := Option.some.inj h
    have hother : ∀ k, k ≠ l.midashi →
        Function.update s.fetchedAt l.midashi l.writtenAt.toNat k = s.fetchedAt k :=
      fun k hk => Function.update_of_ne hk ..
    by_cases hwrite : shouldWrite s.map l.midashi l.fetched
    · refine hs.write hwrite hok ?_ hother
      rw [Function.update_self]
      exact fetchTimes_fetched rfl hfetched
    · -- what is fetched is stored as it is, so it is too short for a time and a candidate
      rw [writeCandidates_of_not_shouldWrite hwrite, Outcome.ok.injEq, Prod.mk.injEq] at hok
      obtain ⟨-, rfl⟩ := hok
      refine hs.skip hmiss ?_ hother
      by_contra hlong
      exact hmiss (getCandidates_ne_nil_iff.mpr
        ⟨l.fetched, not_not.mp hwrite, Nat.not_lt.mp hlong⟩)
  · exact absurd h (by simp)

/-- **Every step keeps** what the clock tells of the cache. -/
lemma IsTimed.step (hs : s.IsTimed cacheExpireSeconds past) {e : CacheStep}
    (h : s.step cacheEntries cacheExpireSeconds e = some s') :
    s'.IsTimed cacheExpireSeconds (e :: past) := by
  cases e with
  | setup read =>
    obtain rfl := Option.some.inj h
    intro midashi stored hstored _
    dsimp only at hstored ⊢
    rw [stampTimes, fetchTimes, loadedTime, hstored]
    exact ⟨List.mem_singleton_self _, List.mem_singleton_self _⟩
  | lookup l =>
    by_cases hhit : getCandidates s.map l.midashi ≠ []
    · exact hs.hit hhit h
    · exact hs.miss hhit h

lemma IsTimed.always (hs : s.IsTimed cacheExpireSeconds past) {steps : List CacheStep}
    (h : ComeInTime cacheExpireSeconds past steps) :
    s.Always cacheEntries cacheExpireSeconds (IsFresh cacheExpireSeconds) steps := by
  induction steps generalizing s past with
  | nil => trivial
  | cons e rest ih =>
    cases e with
    | setup read => exact ⟨trivial, fun s' hstep => ih (hs.step hstep) h⟩
    | lookup l =>
      obtain ⟨htime, hrest⟩ := h
      refine ⟨fun hhit => ?_, fun s' hstep => ih (hs.step hstep) hrest⟩
      obtain ⟨stored, hstored, hlong⟩ := getCandidates_ne_nil_iff.mp hhit
      exact htime _ (hs _ stored hstored hlong).2

/-- **Nothing older than the expire time is returned** in a run in which every look-up comes within
the expire time of every fetch of its midashi, and of its stamp in the loaded file, that no later
write has dropped. -/
theorem always_isFresh {steps : List CacheStep} (h : ComeInTime cacheExpireSeconds [] steps) :
    new.Always cacheEntries cacheExpireSeconds (IsFresh cacheExpireSeconds) steps := by
  have hnew : new.IsTimed cacheExpireSeconds [] := by
    intro midashi stored hstored
    rw [new, Std.ExtTreeMap.getElem?_empty] at hstored
    exact absurd hstored (by simp)
  exact hnew.always h

/-- A list loaded with the stamp 1 is hit in two other seconds, dropped by a write of the second 7,
and fetched again. -/
theorem always_isFresh_loaded :
    new.Always 3 4 (IsFresh 4)
      [.setup (.ok oneEntry), .lookup ⟨ascii "a", 2, [], 2, .ok ()⟩,
        .lookup ⟨ascii "a", 3, [], 3, .ok ()⟩,
        .lookup ⟨ascii "b", 7, [ascii "y", ascii "z"], 7, .ok ()⟩,
        .lookup ⟨ascii "a", 8, [ascii "x"], 9, .ok ()⟩,
        .lookup ⟨ascii "a", 12, [], 12, .ok ()⟩] := by
  apply always_isFresh
  refine ⟨?_, ?_, ?_, ?_, ?_, trivial⟩
  all_goals decide +kernel

/-- A list loaded with the stamp 1 is returned at the clock 9 by a cache whose lists expire in two
seconds. -/
theorem not_always_isFresh_loaded :
    ¬ new.Always 1 2 (IsFresh 2)
      [.setup (.ok oneEntry), .lookup ⟨ascii "a", 9, [], 9, .ok ()⟩] := by
  rintro ⟨-, h⟩
  obtain ⟨hfresh, -⟩ := h _ rfl
  have hcached : getCandidates oneEntry (ascii "a") ≠ [] := by
    rw [getCandidates_oneEntry]
    simp
  have hlt := hfresh hcached
  exact absurd hlt (by decide +kernel)

end AgedCache

end GoogleCache

end Yaskkserv2
