import Yaskkserv2.Properties.CacheWrites
import Yaskkserv2.Server.CacheThreads

/-!
# Interleavings of the threads of the cache

`write_candidates` clones the map, and replaces it later by what it keeps of the clone.  What
another thread has inserted between the two acquisitions is lost, and with it a key that a third
thread may be about to index (`not_isIntact_threeThreads`).

Where no thread inserts while another one stands between its clone and its replacement, a
replacement puts back the map as it is.  Then nothing is lost in any interleaving of any number of
threads (`isIntact_of_reaches`).
-/

namespace Yaskkserv2

open Framework

namespace GoogleCache

/-! ## Maps of which nothing is evicted -/

/-- Of a map within the capacity whose entries are all younger than the expire time, everything is
kept. -/
lemma trim_eq_self {map : GoogleCacheBTreeMap} {cacheEntries cacheExpireSeconds unixTimeNow : ℕ}
    (hne : map ≠ ∅) (hle : cacheExpireSeconds ≤ unixTimeNow) (hreadable : IsReadable map)
    (hsize : map.size ≤ cacheEntries)
    (hyoung : ∀ (midashi : Bytes) value, map[midashi]? = some value →
      unixTimeNow - cacheExpireSeconds < stamp value) :
    trim map cacheEntries cacheExpireSeconds unixTimeNow = .ok map := by
  have hself : unexpired map cacheExpireSeconds unixTimeNow = map := by
    apply Std.ExtTreeMap.ext_getElem?
    intro midashi
    rw [getElem?_unexpired]
    cases hvalue : map[midashi]? with
    | none => rfl
    | some value => exact Option.filter_some_pos (decide_eq_true (hyoung midashi value hvalue))
  rw [trim_eq_ok_iff hne]
  refine ⟨hle, hreadable, .inl ?_⟩
  rw [hself]
  exact ⟨hsize, rfl⟩

/-! ## What must hold -/

/-- A list for `midashi` that one of the programs writes: what the program gives, with the time of a
write before it unless that list was stored already. -/
def IsListOf (programs : List (List CacheCall)) (midashi : Bytes) (stored : List Bytes) : Prop :=
  ∃ candidates, (∃ calls ∈ programs, .writeCandidates midashi candidates ∈ calls) ∧
    (stored = candidates ∨ ∃ time, stored = decimal time :: candidates)

/-- The midashi is present with the list of one of its writers. -/
def IsKept (programs : List (List CacheCall)) (map : GoogleCacheBTreeMap) (midashi : Bytes) :
    Prop :=
  ∃ stored, map[midashi]? = some stored ∧ IsListOf programs midashi stored

namespace SharedCache

/-- The next step of thread `i` evicts nothing. -/
def EvictsNothing (cacheEntries cacheExpireSeconds : ℕ) (s : SharedCache) (i : ℕ) : Prop :=
  ∀ calls midashi candidates unixTimeNow,
    s.threads[i]? = some ⟨calls, some (.cloneMap midashi candidates unixTimeNow)⟩ →
      trim s.map cacheEntries cacheExpireSeconds unixTimeNow = .ok s.map

/-- The next step of thread `i` is no `insert` while a thread stands between its clone of the map
and its replacement of the map. -/
def InsertsAlone (s : SharedCache) (i : ℕ) : Prop :=
  ∀ calls midashi candidates, s.threads[i]? = some ⟨calls, some (.insert midashi candidates)⟩ →
    ∀ t ∈ s.threads, ∀ midashi' candidates' expiredMap,
      t.point ≠ some (.replaceMap midashi' candidates' expiredMap)

/-- No call is under way, and none is to come. -/
def IsDone (s : SharedCache) : Prop :=
  ∀ t ∈ s.threads, t.calls = [] ∧ t.point = none

/-- Every midashi of a write that has returned is present with the list of one of its writers. -/
def KeepsWritten (programs : List (List CacheCall)) (s : SharedCache) : Prop :=
  ∀ midashi candidates, .writeCandidates midashi candidates ∈ s.returned →
    IsKept programs s.map midashi

/-- The next step of every thread comes back: it indexes no absent key. -/
def ComesBack (cacheEntries cacheExpireSeconds : ℕ) (s : SharedCache) : Prop :=
  ∀ i unixTimeNow, s.EvictsNothing cacheEntries cacheExpireSeconds i →
    (s.step cacheEntries cacheExpireSeconds i unixTimeNow).Returns

end SharedCache

/-! ## One acquisition -/

section Acquire

variable {programs : List (List CacheCall)} {map : GoogleCacheBTreeMap}
  {cacheEntries cacheExpireSeconds : ℕ}

/-- What holds of the map while a call stands before an acquisition. -/
def PointHolds (programs : List (List CacheCall)) (map : GoogleCacheBTreeMap) : CallPoint → Prop
  | .length midashi => ∃ stored, map[midashi]? = some stored
  | .cloneCandidates midashi => ∃ stored, map[midashi]? = some stored ∧ stored ≠ []
  | .compare midashi candidates => (∃ stored, map[midashi]? = some stored) ∧
    ∃ calls ∈ programs, .writeCandidates midashi candidates ∈ calls
  | .insert midashi candidates =>
    ∃ calls ∈ programs, .writeCandidates midashi candidates ∈ calls
  | .cloneMap midashi _ _ => IsKept programs map midashi
  | .replaceMap midashi _ expiredMap => expiredMap = map ∧ IsKept programs map midashi

/-- What holds of the map after an acquisition. -/
def NextHolds (programs : List (List CacheCall)) (map : GoogleCacheBTreeMap) :
    CallPoint ⊕ Returned → Prop
  | .inl point => PointHolds programs map point
  | .inr (.getCandidates _ _) => True
  | .inr (.writeCandidates midashi _) => IsKept programs map midashi

lemma containsKey_holds {call : CacheCall} (hcall : ∃ calls ∈ programs, call ∈ calls) :
    NextHolds programs map (call.containsKey map) := by
  have hstored : ∀ midashi : Bytes, map.contains midashi = true →
      ∃ stored, map[midashi]? = some stored := by
    intro midashi hcontains
    rw [Std.ExtTreeMap.contains_eq_isSome_getElem?] at hcontains
    exact Option.isSome_iff_exists.mp hcontains
  cases call with
  | getCandidates midashi =>
    rw [CacheCall.containsKey]
    split
    · rename_i hcontains
      exact hstored midashi hcontains
    · trivial
  | writeCandidates midashi candidates =>
    rw [CacheCall.containsKey]
    split
    · rename_i hcontains
      exact ⟨hstored midashi hcontains, hcall⟩
    · exact hcall

lemma indexKey_of_getElem? {midashi : Bytes} {stored : List Bytes}
    (h : map[midashi]? = some stored) : indexKey map midashi = .ok stored := by
  rw [indexKey, h]

/-- **One acquisition** comes back, with what must hold after it.  The map is left as it is, unless
the acquisition inserts. -/
lemma acquire_holds {point : CallPoint} (unixTimeNow : ℕ) (h : PointHolds programs map point)
    (hkeep : ∀ midashi candidates time, point = .cloneMap midashi candidates time →
      trim map cacheEntries cacheExpireSeconds time = .ok map) :
    ∃ map' next, point.acquire cacheEntries cacheExpireSeconds map unixTimeNow = .ok (map', next) ∧
      NextHolds programs map' next ∧
      (map' = map ∨ ∃ midashi candidates, point = .insert midashi candidates ∧
        map' = map.insert midashi (decimal unixTimeNow :: candidates)) := by
  cases point with
  | length midashi =>
    obtain ⟨stored, hstored⟩ := h
    rw [CallPoint.acquire, indexKey_of_getElem? hstored, Outcome.ok_bind]
    split
    · rename_i hlong
      have hne : stored ≠ [] := List.ne_nil_of_length_pos (by omega)
      exact ⟨_, _, rfl, ⟨stored, hstored, hne⟩, .inl rfl⟩
    · exact ⟨_, _, rfl, trivial, .inl rfl⟩
  | cloneCandidates midashi =>
    obtain ⟨stored, hstored, hne⟩ := h
    rw [CallPoint.acquire, indexKey_of_getElem? hstored, Outcome.ok_bind, if_neg hne]
    exact ⟨_, _, rfl, trivial, .inl rfl⟩
  | compare midashi candidates =>
    obtain ⟨⟨stored, hstored⟩, hcall⟩ := h
    rw [CallPoint.acquire, indexKey_of_getElem? hstored, Outcome.ok_bind]
    split
    · exact ⟨_, _, rfl, hcall, .inl rfl⟩
    · rename_i hsame
      have heq : candidates = stored := not_not.mp hsame
      exact ⟨_, _, rfl, ⟨stored, hstored, candidates, hcall, .inl heq.symm⟩, .inl rfl⟩
  | insert midashi candidates =>
    refine ⟨_, _, rfl, ?_, .inr ⟨midashi, candidates, rfl, rfl⟩⟩
    exact ⟨_, Std.ExtTreeMap.getElem?_insert_self, candidates, h, .inr ⟨unixTimeNow, rfl⟩⟩
  | cloneMap midashi candidates time =>
    rw [CallPoint.acquire, hkeep midashi candidates time rfl, Outcome.ok_bind]
    exact ⟨_, _, rfl, ⟨rfl, h⟩, .inl rfl⟩
  | replaceMap midashi candidates expiredMap =>
    obtain ⟨rfl, hkept⟩ := h
    exact ⟨_, _, rfl, hkept, .inl rfl⟩

end Acquire

/-! ## The acquisitions of other threads -/

section Insert

variable {programs : List (List CacheCall)} {map : GoogleCacheBTreeMap} {midashi : Bytes}
  {candidates : List Bytes} {unixTimeNow : ℕ}

/-- What an insertion leaves of another key or of its own. -/
lemma getElem?_insert_cases (map : GoogleCacheBTreeMap) (midashi key : Bytes)
    (candidates : List Bytes) (unixTimeNow : ℕ) :
    key = midashi ∧
        (map.insert midashi (decimal unixTimeNow :: candidates))[key]? =
          some (decimal unixTimeNow :: candidates) ∨
      (map.insert midashi (decimal unixTimeNow :: candidates))[key]? = map[key]? := by
  rw [Std.ExtTreeMap.getElem?_insert]
  split
  · rename_i heq
    exact .inl ⟨(Std.LawfulEqCmp.compare_eq_iff_eq.mp heq).symm, rfl⟩
  · exact .inr rfl

/-- A write keeps what is kept. -/
lemma IsKept.insert {key : Bytes} (h : IsKept programs map key)
    (hcall : ∃ calls ∈ programs, .writeCandidates midashi candidates ∈ calls) :
    IsKept programs (map.insert midashi (decimal unixTimeNow :: candidates)) key := by
  rcases getElem?_insert_cases map midashi key candidates unixTimeNow with ⟨rfl, hself⟩ | hother
  · exact ⟨_, hself, candidates, hcall, .inr ⟨unixTimeNow, rfl⟩⟩
  · obtain ⟨stored, hstored, hlist⟩ := h
    exact ⟨stored, hother.trans hstored, hlist⟩

/-- A write keeps what a call relies on that does not stand before the replacement of the map. -/
lemma PointHolds.insert {point : CallPoint} (h : PointHolds programs map point)
    (hcall : ∃ calls ∈ programs, .writeCandidates midashi candidates ∈ calls)
    (hpoint : ∀ key cands expiredMap, point ≠ .replaceMap key cands expiredMap) :
    PointHolds programs (map.insert midashi (decimal unixTimeNow :: candidates)) point := by
  have hpresent : ∀ key : Bytes, (∃ stored, map[key]? = some stored) →
      ∃ stored, (map.insert midashi (decimal unixTimeNow :: candidates))[key]? = some stored := by
    rintro key ⟨stored, hstored⟩
    rcases getElem?_insert_cases map midashi key candidates unixTimeNow with ⟨-, hself⟩ | hother
    · exact ⟨_, hself⟩
    · exact ⟨stored, hother.trans hstored⟩
  cases point with
  | length key => exact hpresent key h
  | cloneCandidates key =>
    obtain ⟨stored, hstored, hne⟩ := h
    rcases getElem?_insert_cases map midashi key candidates unixTimeNow with ⟨-, hself⟩ | hother
    · exact ⟨_, hself, List.cons_ne_nil _ _⟩
    · exact ⟨stored, hother.trans hstored, hne⟩
  | compare key cands => exact ⟨hpresent key h.1, h.2⟩
  | insert key cands => exact h
  | cloneMap key cands time => exact IsKept.insert h hcall
  | replaceMap key cands expiredMap => exact absurd rfl (hpoint key cands expiredMap)

end Insert

/-! ## Steps and runs -/

namespace SharedCache

variable {cacheEntries cacheExpireSeconds : ℕ} {programs : List (List CacheCall)}
  {s s' : SharedCache}

/-- The invariant of the runs in which every `insert` is alone. -/
structure Holds (programs : List (List CacheCall)) (s : SharedCache) : Prop where
  calls : ∀ t ∈ s.threads, ∀ call ∈ t.calls, ∃ calls ∈ programs, call ∈ calls
  points : ∀ t ∈ s.threads, ∀ point, t.point = some point → PointHolds programs s.map point
  returned : s.KeepsWritten programs

lemma Holds.start (map : GoogleCacheBTreeMap) : (start map programs).Holds programs := by
  refine ⟨?_, ?_, ?_⟩
  · intro t ht call hcall
    obtain ⟨calls, hcalls, rfl⟩ := List.mem_map.mp ht
    exact ⟨calls, hcalls, hcall⟩
  · intro t ht point hpoint
    obtain ⟨calls, -, rfl⟩ := List.mem_map.mp ht
    exact absurd hpoint (by simp)
  · intro midashi candidates hmem
    exact absurd hmem (by simp [SharedCache.start])

/-- Thread `i` goes on over a map that the other threads can rely on. -/
lemma Holds.put {i : ℕ} {calls : List CacheCall} {map : GoogleCacheBTreeMap}
    {next : CallPoint ⊕ Returned} (h : s.Holds programs)
    (hcalls : ∀ call ∈ calls, ∃ calls ∈ programs, call ∈ calls)
    (hnext : NextHolds programs map next)
    (hpoints : ∀ t ∈ s.threads, ∀ point, t.point = some point → PointHolds programs map point)
    (hkept : ∀ midashi, IsKept programs s.map midashi → IsKept programs map midashi) :
    (s.put i calls map next).Holds programs := by
  refine ⟨?_, ?_, ?_⟩
  · intro t ht
    rcases List.mem_or_eq_of_mem_set ht with ht | rfl
    · exact h.calls t ht
    · exact hcalls
  · intro t ht point hpoint
    rcases List.mem_or_eq_of_mem_set ht with ht | rfl
    · exact hpoints t ht point hpoint
    · obtain rfl : next = .inl point := Sum.getLeft?_eq_some_iff.mp hpoint
      exact hnext
  · intro midashi candidates hmem
    rcases List.mem_append.mp hmem with hmem | hmem
    · exact hkept midashi (h.returned midashi candidates hmem)
    · obtain rfl : next = .inr (.writeCandidates midashi candidates) :=
        Sum.getRight?_eq_some_iff.mp (Option.mem_toList.mp hmem)
      exact hnext

/-- **A step of a thread** that evicts nothing comes back, and keeps the invariant where an `insert`
is alone. -/
lemma Holds.step (h : s.Holds programs) {i : ℕ} (unixTimeNow : ℕ)
    (hkeep : s.EvictsNothing cacheEntries cacheExpireSeconds i) :
    ∃ s', s.step cacheEntries cacheExpireSeconds i unixTimeNow = .ok s' ∧
      (s.InsertsAlone i → s'.Holds programs) := by
  cases hget : s.threads[i]? with
  | none => exact ⟨s, by rw [SharedCache.step, hget], fun _ => h⟩
  | some t =>
    have hmem : t ∈ s.threads := List.mem_of_getElem? hget
    obtain ⟨calls, point⟩ := t
    cases point with
    | none =>
      cases calls with
      | nil => exact ⟨s, by rw [SharedCache.step, hget], fun _ => h⟩
      | cons call calls =>
        refine ⟨s.put i calls s.map (call.containsKey s.map), by rw [SharedCache.step, hget], ?_⟩
        intro _
        obtain ⟨hcall, hcalls⟩ := List.forall_mem_cons.mp (h.calls _ hmem)
        exact h.put hcalls (containsKey_holds hcall) h.points fun _ => id
    | some point =>
      have htrim : ∀ midashi candidates time, point = .cloneMap midashi candidates time →
          trim s.map cacheEntries cacheExpireSeconds time = .ok s.map := by
        rintro midashi candidates time rfl
        exact hkeep calls midashi candidates time hget
      have hpoint := h.points _ hmem point rfl
      obtain ⟨map', next, hacquire, hnext, hmap⟩ := acquire_holds unixTimeNow hpoint htrim
      refine ⟨s.put i calls map' next, ?_, fun halone => ?_⟩
      · simp only [SharedCache.step, hget]
        rw [hacquire]
        rfl
      rcases hmap with rfl | ⟨midashi, candidates, rfl, rfl⟩
      · exact h.put (h.calls _ hmem) hnext h.points fun _ => id
      · -- no thread holds a clone that the insertion makes old
        refine h.put (h.calls _ hmem) hnext ?_ fun _ hkept => hkept.insert hpoint
        intro t ht point ht'
        refine (h.points t ht point ht').insert hpoint ?_
        rintro key cands expiredMap rfl
        exact halone calls midashi candidates hget t ht key cands expiredMap ht'

/-- **Nothing is lost** in any run of any threads in which no `insert` of one thread comes between
the clone and the replacement of another: in every state what was written is kept, and no step
indexes an absent key. -/
theorem isIntact_of_reaches {map : GoogleCacheBTreeMap}
    (h : Reaches cacheEntries cacheExpireSeconds
      (fun s i => s.EvictsNothing cacheEntries cacheExpireSeconds i ∧ s.InsertsAlone i)
      (start map programs) s) :
    s.KeepsWritten programs ∧ s.ComesBack cacheEntries cacheExpireSeconds := by
  have hholds : s.Holds programs := by
    induction h with
    | refl => exact Holds.start map
    | tail run cond step ih =>
      obtain ⟨s', hstep, hholds⟩ := ih.step _ cond.1
      obtain rfl := Outcome.ok.inj (step.symm.trans hstep)
      exact hholds cond.2
  refine ⟨hholds.returned, fun i unixTimeNow hkeep => ?_⟩
  obtain ⟨s', hstep, -⟩ := hholds.step unixTimeNow hkeep
  rw [hstep]
  trivial

/-! ## Two writers and a reader -/

/-- Two threads that write, and one that reads what the second writes. -/
def threeThreads : List (List CacheCall) :=
  [[.writeCandidates (ascii "a") [ascii "x"]], [.writeCandidates (ascii "b") [ascii "y"]],
    [.getCandidates (ascii "b")]]

/-- The entries of both writers. -/
def bothEntries : GoogleCacheBTreeMap := oneEntry.insert (ascii "b") [decimal 1, ascii "y"]

/-- The cache is large enough, and the entries are young. -/
lemma trim_of_young {map : GoogleCacheBTreeMap} (hne : map ≠ ∅) (hreadable : IsReadable map)
    (hsize : map.size ≤ 2) (hyoung : ∀ p ∈ map.toList, 0 < stamp p.2) :
    trim map 2 1 1 = .ok map :=
  trim_eq_self hne le_rfl hreadable hsize fun midashi value hvalue =>
    hyoung (midashi, value) (Std.ExtTreeMap.mem_toList_iff_getElem?_eq_some.mpr hvalue)

lemma trim_oneEntry : trim oneEntry 2 1 1 = .ok oneEntry :=
  trim_of_young Std.ExtTreeMap.insert_ne_empty (by unfold IsReadable; decide +kernel)
    (by decide +kernel) (by decide +kernel)

lemma trim_bothEntries : trim bothEntries 2 1 1 = .ok bothEntries :=
  trim_of_young Std.ExtTreeMap.insert_ne_empty (by unfold IsReadable; decide +kernel)
    (by decide +kernel) (by decide +kernel)

/-- The first writer has inserted its entry. -/
def oneInserted : SharedCache :=
  { map := oneEntry
    threads := [⟨[], some (.cloneMap (ascii "a") [ascii "x"] 1)⟩,
      ⟨[.writeCandidates (ascii "b") [ascii "y"]], none⟩, ⟨[.getCandidates (ascii "b")], none⟩] }

/-- The first writer holds its clone of the map. -/
def oneCloned : SharedCache :=
  oneInserted.put 0 [] oneEntry (.inl (.replaceMap (ascii "a") [ascii "x"] oneEntry))

/-- The first writer holds its clone, without the entry that the second one has inserted since. -/
def bothInserted : SharedCache :=
  { map := bothEntries
    threads := [⟨[], some (.replaceMap (ascii "a") [ascii "x"] oneEntry)⟩,
      ⟨[], some (.cloneMap (ascii "b") [ascii "y"] 1)⟩, ⟨[.getCandidates (ascii "b")], none⟩] }

/-- A run goes on with a step of thread `i`. -/
lemma Reaches.next {meets : SharedCache → ℕ → Prop} {s₀ : SharedCache}
    (h : Reaches cacheEntries cacheExpireSeconds meets s₀ s) (i unixTimeNow : ℕ)
    (cond : meets s i) (step : s.step cacheEntries cacheExpireSeconds i unixTimeNow = .ok s') :
    Reaches cacheEntries cacheExpireSeconds meets s₀ s' :=
  .tail h cond step

/-- A thread clones the map, and works out what it keeps of it. -/
lemma step_cloneMap {i : ℕ} {calls : List CacheCall} {midashi : Bytes} {candidates : List Bytes}
    {time : ℕ} {expiredMap : GoogleCacheBTreeMap}
    (hget : s.threads[i]? = some ⟨calls, some (.cloneMap midashi candidates time)⟩)
    (htrim : trim s.map cacheEntries cacheExpireSeconds time = .ok expiredMap) (unixTimeNow : ℕ) :
    s.step cacheEntries cacheExpireSeconds i unixTimeNow =
      .ok (s.put i calls s.map (.inl (.replaceMap midashi candidates expiredMap))) := by
  simp only [step, hget]
  rw [CallPoint.acquire, htrim]
  rfl

/-- A condition that asks for less has more runs. -/
lemma Reaches.mono {meets meets' : SharedCache → ℕ → Prop} {s₀ : SharedCache}
    (h : Reaches cacheEntries cacheExpireSeconds meets s₀ s)
    (himp : ∀ s i, meets s i → meets' s i) :
    Reaches cacheEntries cacheExpireSeconds meets' s₀ s := by
  induction h with
  | refl => exact .refl
  | tail _ cond step ih => exact .tail ih (himp _ _ cond) step

lemma reaches_oneCloned :
    Reaches 2 1 (fun s i => s.EvictsNothing 2 1 i ∧ s.InsertsAlone i) (start ∅ threeThreads)
      oneCloned := by
  have hclone : oneInserted.step 2 1 0 1 = .ok oneCloned := step_cloneMap rfl trim_oneEntry 1
  refine ((Reaches.next .refl 0 1 ?start rfl).next 0 1 ?insert rfl).next 0 1 ?clone hclone
  case start =>
    constructor
    · rintro _ _ _ _ ⟨⟩
    · rintro _ _ _ ⟨⟩
  case insert =>
    constructor
    · rintro _ _ _ _ ⟨⟩
    · rintro _ _ _ ⟨⟩ t ht _ _ _
      fin_cases ht <;> rintro ⟨⟩
  case clone =>
    constructor
    · rintro _ _ _ _ ⟨⟩
      exact trim_oneEntry
    · rintro _ _ _ ⟨⟩

/-- The second writer has inserted its entry behind the replacement of the first one, and holds its
clone, while the reader has found the key. -/
def bothCloned : SharedCache :=
  { map := bothEntries
    threads := [⟨[], none⟩, ⟨[], some (.replaceMap (ascii "b") [ascii "y"] bothEntries)⟩,
      ⟨[], some (.length (ascii "b"))⟩]
    returned := [.writeCandidates (ascii "a") [ascii "x"]] }

/-- All calls have returned. -/
def allReturned : SharedCache :=
  { map := bothEntries
    threads := [⟨[], none⟩, ⟨[], none⟩, ⟨[], none⟩]
    returned := [.writeCandidates (ascii "a") [ascii "x"], .writeCandidates (ascii "b") [ascii "y"],
      .getCandidates (ascii "b") [ascii "y"]] }

lemma reaches_bothCloned :
    Reaches 2 1 (fun s i => s.EvictsNothing 2 1 i ∧ s.InsertsAlone i) (start ∅ threeThreads)
      bothCloned := by
  have hlooked := reaches_oneCloned.next 1 1 ⟨by rintro _ _ _ _ ⟨⟩, by rintro _ _ _ ⟨⟩⟩ rfl
  have hreplaced := hlooked.next 0 1 ⟨by rintro _ _ _ _ ⟨⟩, by rintro _ _ _ ⟨⟩⟩ rfl
  have hinserted := hreplaced.next 1 1 ⟨by rintro _ _ _ _ ⟨⟩, by
    rintro _ _ _ ⟨⟩ t ht _ _ _
    fin_cases ht <;> rintro ⟨⟩⟩ rfl
  have hfound := hinserted.next 2 1 ⟨by rintro _ _ _ _ ⟨⟩, by rintro _ _ _ ⟨⟩⟩ rfl
  exact hfound.next 1 1 ⟨by rintro _ _ _ _ ⟨⟩; exact trim_bothEntries, by rintro _ _ _ ⟨⟩⟩
    (step_cloneMap rfl trim_bothEntries 1)

lemma reaches_allReturned :
    Reaches 2 1 (fun s i => s.EvictsNothing 2 1 i ∧ s.InsertsAlone i) (start ∅ threeThreads)
      allReturned := by
  have hmeasured := reaches_bothCloned.next 2 1 ⟨by rintro _ _ _ _ ⟨⟩, by rintro _ _ _ ⟨⟩⟩ rfl
  have hreplaced := hmeasured.next 1 1 ⟨by rintro _ _ _ _ ⟨⟩, by rintro _ _ _ ⟨⟩⟩ rfl
  exact hreplaced.next 2 1 ⟨by rintro _ _ _ _ ⟨⟩, by rintro _ _ _ ⟨⟩⟩ rfl

/-- The second writer looks its key up before the first one replaces the map, and inserts it
behind. -/
theorem isIntact_allReturned :
    allReturned.IsDone ∧ allReturned.KeepsWritten threeThreads ∧ allReturned.ComesBack 2 1 := by
  refine ⟨fun t ht => ?_, isIntact_of_reaches reaches_allReturned⟩
  fin_cases ht <;> exact ⟨rfl, rfl⟩

lemma reaches_bothInserted :
    Reaches 2 1 (EvictsNothing 2 1) (start ∅ threeThreads) bothInserted := by
  have hcloned := reaches_oneCloned.mono fun _ _ h => h.1
  refine (hcloned.next 1 1 ?_ rfl).next 1 1 ?_ rfl
  · rintro _ _ _ _ ⟨⟩
  · rintro _ _ _ _ ⟨⟩

/-- The first writer replaces the map by its old clone.  Then the entry of the second one is gone at
the end of all calls, and the reader indexes it while it is absent. -/
theorem not_isIntact_threeThreads :
    (∃ s, Reaches 2 1 (EvictsNothing 2 1) (start ∅ threeThreads) s ∧ s.IsDone ∧
      ¬ s.KeepsWritten threeThreads) ∧
    ∃ s, Reaches 2 1 (EvictsNothing 2 1) (start ∅ threeThreads) s ∧ ¬ s.ComesBack 2 1 := by
  have habsent : oneEntry[ascii "b"]? = none := by decide +kernel
  constructor
  · have hreplaced := reaches_bothInserted.next 0 1 (by rintro _ _ _ _ ⟨⟩) rfl
    have hcloned := hreplaced.next 1 1 (by rintro _ _ _ _ ⟨⟩; exact trim_oneEntry)
      (step_cloneMap rfl trim_oneEntry 1)
    have hwritten := hcloned.next 1 1 (by rintro _ _ _ _ ⟨⟩) rfl
    have hread := hwritten.next 2 1 (by rintro _ _ _ _ ⟨⟩) rfl
    refine ⟨_, hread, ?_, fun h => ?_⟩
    · intro t ht
      fin_cases ht <;> exact ⟨rfl, rfl⟩
    · obtain ⟨stored, hstored, -⟩ := h (ascii "b") [ascii "y"] (by decide)
      exact absurd (habsent.symm.trans hstored) (by simp)
  · have hfound := reaches_bothInserted.next 2 1 (by rintro _ _ _ _ ⟨⟩) rfl
    have hreplaced := hfound.next 0 1 (by rintro _ _ _ _ ⟨⟩) rfl
    exact ⟨_, hreplaced, fun h => h 2 1 (by rintro _ _ _ _ ⟨⟩)⟩

end SharedCache

end GoogleCache

end Yaskkserv2
