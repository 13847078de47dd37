import Yaskkserv2.Server.GoogleCache

/-!
# The file of the Google cache

`GoogleCache::read` and `GoogleCache::write` of `src/skk/yaskkserv2/google_cache.rs`.  The file is
the SHA-1 of the serialized map, and the serialized map.  The serialization is that of the `bincode`
crate and the digest that of the `sha1` crate, so both are arguments, as is what the file system
does to a call: it can refuse to open the file, and a write can fail behind any byte.
-/

namespace Yaskkserv2

open Framework

namespace GoogleCache

abbrev SHA1SUM_LENGTH : ℕ := 20

/-- `bincode::serialize` and `bincode::deserialize` at the type of the cache. -/
structure Bincode where
  serialize : GoogleCacheBTreeMap → Except SkkError Bytes
  deserialize : Bytes → Except SkkError GoogleCacheBTreeMap

/-- What the file system does where the cache file is read. -/
inductive ReadAccess where
  | openFails
  | readFails
  | reads
  deriving DecidableEq

/-- What the file system does where the cache file is written: it does not create it, or it takes so
many bytes (all of them, for `none`) before a write fails. -/
inductive WriteAccess where
  | createFails
  | takes (room : Option ℕ)
  deriving DecidableEq

/-- A file that is written to. -/
structure OpenFile where
  bytes : Bytes := []
  room : Option ℕ

/-- `write_all`. -/
def OpenFile.writeAll (file : OpenFile) (bytes : Bytes) : Except SkkError Unit × OpenFile :=
  match file.room with
  | none => (.ok (), { file with bytes := file.bytes ++ bytes })
  | some room =>
    if bytes.length ≤ room then
      (.ok (), ⟨file.bytes ++ bytes, some (room - bytes.length)⟩)
    else (.error .io, ⟨file.bytes ++ bytes.take room, some 0⟩)

/-- `GoogleCache::read`, of what is at the path. -/
def read (sha1 : Bytes → Digest) (bincode : Bincode) (access : ReadAccess) (file : Option Bytes) :
    Except SkkError GoogleCacheBTreeMap :=
  match access, file with
  | .openFails, _ => .error .cacheOpen
  | _, none => .error .cacheOpen
  | .readFails, some _ => .error .io
  | .reads, some buffer => do
    let serializedEmptyMap ← bincode.serialize ∅
    if SHA1SUM_LENGTH + serializedEmptyMap.length ≤ buffer.length ∧
        (sha1 (buffer.drop SHA1SUM_LENGTH)).toList = buffer.take SHA1SUM_LENGTH then
      bincode.deserialize (buffer.drop SHA1SUM_LENGTH)
    else .error .brokenCache

/-- `GoogleCache::write`: what it returns, and what is at the path then. -/
def write (sha1 : Bytes → Digest) (bincode : Bincode) (map : GoogleCacheBTreeMap)
    (access : WriteAccess) (file : Option Bytes) : Except SkkError Unit × Option Bytes :=
  match access with
  | .createFails => (.error .io, file)
  | .takes room =>
    match bincode.serialize map with
    | .error e => (.error e, some [])
    | .ok serializedMap =>
      let created : OpenFile := { room := room }
      match created.writeAll (sha1 serializedMap).toList with
      | (.error e, file) => (.error e, some file.bytes)
      | (.ok (), file) =>
        let (result, file) := file.writeAll serializedMap
        (result, some file.bytes)

/-- `GoogleCache::write_candidates` with its write of the file: what it returns, the cache it
leaves, and what is at the path then. -/
def writeCandidatesToFile (sha1 : Bytes → Digest) (bincode : Bincode) (map : GoogleCacheBTreeMap)
    (midashi : Bytes) (candidates : List Bytes) (cacheEntries cacheExpireSeconds unixTimeNow : ℕ)
    (access : WriteAccess) (file : Option Bytes) :
    Result (Except SkkError Unit × GoogleCacheBTreeMap × Option Bytes) :=
  if shouldWrite map midashi candidates then do
    let map := map.insert midashi (decimal unixTimeNow :: candidates)
    let expiredMap ← trim map cacheEntries cacheExpireSeconds unixTimeNow
    let (result, file) := write sha1 bincode expiredMap access file
    return (result, expiredMap, file)
  else .ok (.ok (), map, file)

end GoogleCache

end Yaskkserv2
