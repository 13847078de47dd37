import Yaskkserv2.Dictionary
import Yaskkserv2.EncodingSimple.Utility

/-!
# The cache of Google candidates

`src/skk/yaskkserv2/google_cache.rs`: for a midashi, the Unix time at which it was cached and its
candidates.  The static cache object of the source is passed and returned.  The clock and the
write of the cache file are not the program's to decide, so they are arguments.
-/

namespace Yaskkserv2

open Framework

/-- `GoogleCacheBTreeMap`: the first element of a value is the time in decimal. -/
abbrev GoogleCacheBTreeMap := Std.ExtTreeMap Bytes (List Bytes)

namespace GoogleCache

/-- `u64::to_string` as bytes. -/
def decimal (n : ℕ) : Bytes := (Nat.toDigits 10 n).map fun c => c.toNat.toUInt8

/-- The digits of `str::parse::<u64>`, from a value on. -/
def parseDigits (value : ℕ) : Bytes → Option ℕ
  | [] => some value
  | b :: rest =>
    if 0x30 ≤ b ∧ b ≤ 0x39 then
      let next := value * 10 + (b - 0x30).toNat
      if next < 2 ^ 64 then parseDigits next rest else none
    else none

/-- `GoogleCache::parse_or_zero_u64`.  Bytes that are not UTF-8 stop the program. -/
def parseOrZeroU64 (bytes : Bytes) : Result ℕ :=
  if isUtf8 bytes then
    let digits := if bytes.head? = some 0x2b then bytes.drop 1 else bytes
    .ok (if digits = [] then 0 else (parseDigits 0 digits).getD 0)
  else .panic

/-- `GoogleCache::setup_use_rwlock_internally`, of what `GoogleCache::read` makes of the cache file:
a file that cannot be read is an empty cache. -/
def setupUseRwlockInternally (read : Except SkkError GoogleCacheBTreeMap) : GoogleCacheBTreeMap :=
  read.toOption.getD ∅

/-- `GoogleCache::get_candidates`. -/
def getCandidates (map : GoogleCacheBTreeMap) (midashi : Bytes) : List Bytes :=
  match map[midashi]? with
  | some cached => if 2 ≤ cached.length then cached.drop 1 else []
  | none => []

/-- The time of an entry of the cache. -/
def entryTime (entry : Bytes × List Bytes) : Result ℕ := do
  parseOrZeroU64 (← index entry.2 0)

/-- The entry that `filter` keeps, or nothing.  The subtraction stops the program below zero, as it
does where overflow is checked; without the checks it wraps, and no entry is kept. -/
def keepUnexpired (unixTimeNow cacheExpireSeconds : ℕ) (entry : Bytes × List Bytes) :
    Result (List (Bytes × List Bytes)) := do
  let time ← entryTime entry
  let limit ← checkedSub unixTimeNow cacheExpireSeconds
  return if time > limit then [entry] else []

/-- `min_by` on the time: of equally old entries the first. -/
def oldestEntry : List (Bytes × List Bytes) → Result (Option (Bytes × ℕ))
  | [] => .ok none
  | entry :: rest => do
    let time ← entryTime entry
    match ← oldestEntry rest with
    | some (midashi, t) => return if t < time then some (midashi, t) else some (entry.1, time)
    | none => return some (entry.1, time)

/-- `should_write`: the candidates are compared with all of the stored list, its time included. -/
abbrev shouldWrite (map : GoogleCacheBTreeMap) (midashi : Bytes) (candidates : List Bytes) : Prop :=
  map[midashi]? ≠ some candidates

/-- The entries that the filter of `write_candidates` keeps. -/
def removeExpired (map : GoogleCacheBTreeMap) (cacheExpireSeconds unixTimeNow : ℕ) :
    Result GoogleCacheBTreeMap := do
  let kept ← map.toList.mapM (keepUnexpired unixTimeNow cacheExpireSeconds)
  return Std.ExtTreeMap.ofList kept.flatten compare

/-- What `write_candidates` keeps of a map: the entries that have not expired, less the oldest of
them where there are too many. -/
def trim (map : GoogleCacheBTreeMap) (cacheEntries cacheExpireSeconds unixTimeNow : ℕ) :
    Result GoogleCacheBTreeMap := do
  let expiredMap ← removeExpired map cacheExpireSeconds unixTimeNow
  if cacheEntries < expiredMap.size then
    match ← oldestEntry expiredMap.toList with
    | some (oldest, _) => return expiredMap.erase oldest
    | none => return expiredMap
  else return expiredMap

/-- `GoogleCache::write_candidates`: what it returns, and the cache it leaves. -/
def writeCandidates (map : GoogleCacheBTreeMap) (midashi : Bytes) (candidates : List Bytes)
    (cacheEntries cacheExpireSeconds unixTimeNow : ℕ) (write : Except SkkError Unit) :
    Result (Except SkkError Unit × GoogleCacheBTreeMap) :=
  if shouldWrite map midashi candidates then do
    let map := map.insert midashi (decimal unixTimeNow :: candidates)
    let expiredMap ← trim map cacheEntries cacheExpireSeconds unixTimeNow
    return (write, expiredMap)
  else .ok (.ok (), map)

end GoogleCache

end Yaskkserv2
