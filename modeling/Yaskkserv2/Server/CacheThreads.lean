import Yaskkserv2.Server.GoogleCache

/-!
# Threads that share the cache

`get_candidates` and `write_candidates` take the lock of the cache anew for every access to its map.
Between two acquisitions any other thread may act.  Here every acquisition is one step: a thread
stands before an acquisition of its call, or between two calls, and a step of a run is a step of one
thread.
-/

namespace Yaskkserv2

open Framework

namespace GoogleCache

/-- A call that a thread makes. -/
inductive CacheCall where
  | getCandidates (midashi : Bytes)
  | writeCandidates (midashi : Bytes) (candidates : List Bytes)
  deriving DecidableEq, Repr

/-- A call that has returned: what it was given, and what `get_candidates` returns. -/
inductive Returned where
  | getCandidates (midashi : Bytes) (cached : List Bytes)
  | writeCandidates (midashi : Bytes) (candidates : List Bytes)
  deriving DecidableEq, Repr

/-- The acquisition before which a call stands.  The first of a call, `contains_key`, is not
here. -/
inductive CallPoint where
  /-- `map[midashi].len()` of `get_candidates` -/
  | length (midashi : Bytes)
  /-- `clone_from` of `get_candidates` -/
  | cloneCandidates (midashi : Bytes)
  /-- the comparison of `should_write` -/
  | compare (midashi : Bytes) (candidates : List Bytes)
  /-- `map.insert` -/
  | insert (midashi : Bytes) (candidates : List Bytes)
  /-- `map.clone` -/
  | cloneMap (midashi : Bytes) (candidates : List Bytes) (unixTimeNow : ℕ)
  /-- `map = expired_map.clone()` -/
  | replaceMap (midashi : Bytes) (candidates : List Bytes) (expiredMap : GoogleCacheBTreeMap)

/-- `map[midashi]`, which stops the thread where the key is absent. -/
def indexKey (map : GoogleCacheBTreeMap) (midashi : Bytes) : Result (List Bytes) :=
  match map[midashi]? with
  | some cached => .ok cached
  | none => .panic

/-- The first acquisition of a call, `contains_key`. -/
def CacheCall.containsKey (map : GoogleCacheBTreeMap) : CacheCall → CallPoint ⊕ Returned
  | .getCandidates midashi =>
    if map.contains midashi then .inl (.length midashi) else .inr (.getCandidates midashi [])
  | .writeCandidates midashi candidates =>
    if map.contains midashi then .inl (.compare midashi candidates)
    else .inl (.insert midashi candidates)

/-- A later acquisition: the map it leaves, and where the call stands then.  The clock is read
before `insert`, and what `write_candidates` keeps of the cloned map is worked out without the
lock. -/
def CallPoint.acquire (cacheEntries cacheExpireSeconds : ℕ) (map : GoogleCacheBTreeMap)
    (unixTimeNow : ℕ) : CallPoint → Result (GoogleCacheBTreeMap × (CallPoint ⊕ Returned))
  | .length midashi => do
    let cached ← indexKey map midashi
    if 2 ≤ cached.length then return (map, .inl (.cloneCandidates midashi))
    else return (map, .inr (.getCandidates midashi []))
  | .cloneCandidates midashi => do
    let cached ← indexKey map midashi
    -- `remove(0)`
    if cached = [] then .panic else return (map, .inr (.getCandidates midashi (cached.drop 1)))
  | .compare midashi candidates => do
    let cached ← indexKey map midashi
    if candidates ≠ cached then return (map, .inl (.insert midashi candidates))
    else return (map, .inr (.writeCandidates midashi candidates))
  | .insert midashi candidates =>
    .ok (map.insert midashi (decimal unixTimeNow :: candidates),
      .inl (.cloneMap midashi candidates unixTimeNow))
  | .cloneMap midashi candidates unixTimeNow => do
    let expiredMap ← trim map cacheEntries cacheExpireSeconds unixTimeNow
    return (map, .inl (.replaceMap midashi candidates expiredMap))
  | .replaceMap midashi candidates expiredMap =>
    .ok (expiredMap, .inr (.writeCandidates midashi candidates))

/-- A thread: the calls that are still to come, and where the current one stands. -/
structure CacheThread where
  calls : List CacheCall
  point : Option CallPoint := none

/-- The cache with the threads that use it, and the calls that have returned. -/
structure SharedCache where
  map : GoogleCacheBTreeMap
  threads : List CacheThread
  returned : List Returned := []

namespace SharedCache

/-- The threads before their first calls. -/
def start (map : GoogleCacheBTreeMap) (programs : List (List CacheCall)) : SharedCache :=
  { map := map, threads := programs.map fun calls => { calls := calls } }

/-- Thread `i` has acquired the lock once more. -/
def put (s : SharedCache) (i : ℕ) (calls : List CacheCall) (map : GoogleCacheBTreeMap)
    (next : CallPoint ⊕ Returned) : SharedCache :=
  ⟨map, s.threads.set i ⟨calls, next.getLeft?⟩, s.returned ++ next.getRight?.toList⟩

/-- A step of thread `i`.  A thread without calls does nothing. -/
def step (cacheEntries cacheExpireSeconds : ℕ) (s : SharedCache) (i unixTimeNow : ℕ) :
    Result SharedCache :=
  match s.threads[i]? with
  | none => .ok s
  | some ⟨[], none⟩ => .ok s
  | some ⟨call :: calls, none⟩ => .ok (s.put i calls s.map (call.containsKey s.map))
  | some ⟨calls, some point⟩ => do
    let (map, next) ← point.acquire cacheEntries cacheExpireSeconds s.map unixTimeNow
    return s.put i calls map next

/-- The states that a run reaches whose steps all meet a condition on the state and the thread. -/
inductive Reaches (cacheEntries cacheExpireSeconds : ℕ) (meets : SharedCache → ℕ → Prop)
    (s₀ : SharedCache) : SharedCache → Prop
  | refl : Reaches cacheEntries cacheExpireSeconds meets s₀ s₀
  | tail {s s' : SharedCache} {i unixTimeNow : ℕ}
      (run : Reaches cacheEntries cacheExpireSeconds meets s₀ s) (cond : meets s i)
      (step : s.step cacheEntries cacheExpireSeconds i unixTimeNow = .ok s') :
    Reaches cacheEntries cacheExpireSeconds meets s₀ s'

end SharedCache

end GoogleCache

end Yaskkserv2
