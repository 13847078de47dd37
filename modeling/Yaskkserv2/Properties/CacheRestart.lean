import Yaskkserv2.Framework.StreamCodec
import Yaskkserv2.Properties.CacheInterleaving
import Yaskkserv2.Server.CacheFile

/-!
# The cache over restarts

The server writes its cache to a file at every change, and reads it when it is started.  The file is
created anew for every write, so a write that is cut short, by a full disk or by the end of the
server, takes the cache of before with it; but the file begins with a digest, so that what is left
is never taken for a cache.

What a start finds is determined by the writes (`savedBy`): the map of the last write that created
the file, whole, or nothing where that write is not complete.  Where no write fails, the cache is
the same as if it had never left the memory (`inMemory`), wherever the server was stopped.
-/

namespace Yaskkserv2

open Framework

namespace GoogleCache

/-- What is relied on of `bincode`: it serializes the empty map, no map to less than that, and reads
back what it has serialized. -/
structure Bincode.IsFaithful (bincode : Bincode) : Prop where
  serialize_empty : ∃ bytes, bincode.serialize ∅ = .ok bytes
  length_le : ∀ map empty bytes, bincode.serialize ∅ = .ok empty →
    bincode.serialize map = .ok bytes → empty.length ≤ bytes.length
  deserialize_serialize : ∀ map bytes, bincode.serialize map = .ok bytes →
    bincode.deserialize bytes = .ok map

/-- A write of the file: its map, what the file system did, and what it returned. -/
structure FileWrite where
  map : GoogleCacheBTreeMap
  access : WriteAccess
  result : Except SkkError Unit

/-- The cache of the running server, its file, and the writes of the file so far, the last one
first. -/
structure CachedServer where
  process : Option GoogleCacheBTreeMap := none
  file : Option Bytes
  writes : List FileWrite := []

/-- What happens to a server with a cache file. -/
inductive CacheEvent where
  | write (midashi : Bytes) (candidates : List Bytes) (unixTimeNow : ℕ) (access : WriteAccess)
  | stop
  | start (access : ReadAccess)

/-- What the writes of a file leave in it. -/
def savedBy (initial : GoogleCacheBTreeMap) : List FileWrite → GoogleCacheBTreeMap
  | [] => initial
  | w :: earlier =>
    if w.access = .createFails then savedBy initial earlier
    else
      match w.result with
      | .ok () => w.map
      | .error _ => ∅

/-- What the writes of a run leave of a cache that is in memory only. -/
def inMemory (cacheEntries cacheExpireSeconds : ℕ) (map : GoogleCacheBTreeMap) :
    List CacheEvent → GoogleCacheBTreeMap
  | .write midashi candidates unixTimeNow _ :: rest =>
    match writeCandidates map midashi candidates cacheEntries cacheExpireSeconds unixTimeNow
      (.ok ()) with
    | .ok (_, left) => inMemory cacheEntries cacheExpireSeconds left rest
    | _ => inMemory cacheEntries cacheExpireSeconds map rest
  | _ :: rest => inMemory cacheEntries cacheExpireSeconds map rest
  | [] => map

section Restart

variable (sha1 : Bytes → Digest) (bincode : Bincode) (cacheEntries cacheExpireSeconds : ℕ)

/-- The cache that a server finds in a file. -/
def loaded (file : Option Bytes) : GoogleCacheBTreeMap :=
  setupUseRwlockInternally (read sha1 bincode .reads file)

namespace CachedServer

/-- What comes of an event.  A write that does not return ends the server, before the file is
created. -/
def step (s : CachedServer) : CacheEvent → CachedServer
  | .write midashi candidates unixTimeNow access =>
    match s.process with
    | none => s
    | some map =>
      match writeCandidatesToFile sha1 bincode map midashi candidates cacheEntries
        cacheExpireSeconds unixTimeNow access s.file with
      | .ok (result, left, file) =>
        if shouldWrite map midashi candidates then
          ⟨some left, file, ⟨left, access, result⟩ :: s.writes⟩
        else ⟨some left, file, s.writes⟩
      | _ => { s with process := none }
  | .stop => { s with process := none }
  | .start access =>
    { s with process := some (setupUseRwlockInternally (read sha1 bincode access s.file)) }

/-- A run. -/
def run (s : CachedServer) (events : List CacheEvent) : CachedServer :=
  events.foldl (step sha1 bincode cacheEntries cacheExpireSeconds) s

/-- A property holds at every event of a run. -/
def Always (P : CachedServer → CacheEvent → Prop) : CachedServer → List CacheEvent → Prop
  | _, [] => True
  | s, e :: rest =>
    P s e ∧ (s.step sha1 bincode cacheEntries cacheExpireSeconds e).Always P rest

/-- The digest tells what is left of a write that is cut short from the whole. -/
def TellsCut (s : CachedServer) : CacheEvent → Prop
  | .write midashi candidates unixTimeNow access =>
    ∀ map result left file serializedMap room, s.process = some map →
      writeCandidatesToFile sha1 bincode map midashi candidates cacheEntries cacheExpireSeconds
        unixTimeNow access s.file = .ok (result, left, file) →
      bincode.serialize left = .ok serializedMap →
      access = .takes (some (SHA1SUM_LENGTH + room)) → room < serializedMap.length →
        sha1 (serializedMap.take room) ≠ sha1 serializedMap
  | _ => True

/-- The file system does what it is told, to a running server. -/
def Succeeds (s : CachedServer) : CacheEvent → Prop
  | .write midashi candidates unixTimeNow access => ∃ map, s.process = some map ∧
    ∀ result left file,
      writeCandidatesToFile sha1 bincode map midashi candidates cacheEntries cacheExpireSeconds
        unixTimeNow access s.file = .ok (result, left, file) → result = .ok ()
  | .stop => True
  | .start access => access = .reads

end CachedServer

end Restart

/-! ## The file -/

section Files

variable {sha1 : Bytes → Digest} {bincode : Bincode} {map : GoogleCacheBTreeMap}
  {serializedMap : Bytes}

namespace OpenFile

variable {file : OpenFile} {bytes : Bytes} {room : ℕ}

lemma writeAll_of_none (h : file.room = none) :
    file.writeAll bytes = (.ok (), { file with bytes := file.bytes ++ bytes }) := by
  rw [writeAll, h]

lemma writeAll_of_le (h : file.room = some room) (hle : bytes.length ≤ room) :
    file.writeAll bytes = (.ok (), ⟨file.bytes ++ bytes, some (room - bytes.length)⟩) := by
  rw [writeAll, h]
  exact if_pos hle

lemma writeAll_of_lt (h : file.room = some room) (hlt : room < bytes.length) :
    file.writeAll bytes = (.error .io, ⟨file.bytes ++ bytes.take room, some 0⟩) := by
  rw [writeAll, h]
  exact if_neg (Nat.not_le.mpr hlt)

end OpenFile

/-- The bytes of a cache file. -/
abbrev fileOf (sha1 : Bytes → Digest) (serializedMap : Bytes) : Bytes :=
  (sha1 serializedMap).toList ++ serializedMap

lemma length_toList_digest (digest : Digest) : digest.toList.length = SHA1SUM_LENGTH := by
  rw [Vector.length_toList]

/-- A write leaves the whole file and says so, or it leaves a part and says that. -/
lemma write_takes (h : bincode.serialize map = .ok serializedMap) (room : Option ℕ)
    (file : Option Bytes) :
    write sha1 bincode map (.takes room) file = (.ok (), some (fileOf sha1 serializedMap)) ∨
      ∃ n, room = some n ∧ n < (fileOf sha1 serializedMap).length ∧
        write sha1 bincode map (.takes room) file =
          (.error .io, some ((fileOf sha1 serializedMap).take n)) := by
  have hdigest := length_toList_digest (sha1 serializedMap)
  cases room with
  | none =>
    left
    rw [write, h]
    dsimp only
    rw [OpenFile.writeAll_of_none rfl]
    dsimp only
    rw [OpenFile.writeAll_of_none rfl]
    rfl
  | some n =>
    rw [write, h]
    dsimp only
    rcases Nat.lt_or_ge n SHA1SUM_LENGTH with hn | hn
    · right
      refine ⟨n, rfl, ?_, ?_⟩
      · rw [fileOf, List.length_append, hdigest]
        omega
      · rw [OpenFile.writeAll_of_lt rfl (by rw [hdigest]; exact hn), fileOf,
          List.take_append_of_le_length (by rw [hdigest]; exact hn.le)]
        rfl
    · rw [OpenFile.writeAll_of_le rfl (by rw [hdigest]; exact hn)]
      dsimp only
      rcases Nat.lt_or_ge (n - SHA1SUM_LENGTH) serializedMap.length with hlt | hle
      · right
        refine ⟨n, rfl, ?_, ?_⟩
        · rw [fileOf, List.length_append, hdigest]
          omega
        · have htake : (sha1 serializedMap).toList.take n = (sha1 serializedMap).toList :=
            List.take_of_length_le (by rw [hdigest]; exact hn)
          rw [OpenFile.writeAll_of_lt rfl (by rw [hdigest]; exact hlt), fileOf,
            List.take_append, htake]
          rfl
      · left
        rw [OpenFile.writeAll_of_le rfl (by rw [hdigest]; exact hle)]
        rfl

/-- What is read of a file that has been read. -/
lemma read_reads {empty : Bytes} (h : bincode.serialize ∅ = .ok empty) (buffer : Bytes) :
    read sha1 bincode .reads (some buffer) =
      if SHA1SUM_LENGTH + empty.length ≤ buffer.length ∧
          (sha1 (buffer.drop SHA1SUM_LENGTH)).toList = buffer.take SHA1SUM_LENGTH then
        bincode.deserialize (buffer.drop SHA1SUM_LENGTH)
      else .error .brokenCache := by
  rw [read, h]
  rfl

lemma loaded_fileOf (hbincode : bincode.IsFaithful)
    (h : bincode.serialize map = .ok serializedMap) :
    loaded sha1 bincode (some (fileOf sha1 serializedMap)) = map := by
  obtain ⟨empty, hempty⟩ := hbincode.serialize_empty
  have hdigest := length_toList_digest (sha1 serializedMap)
  have hlength := hbincode.length_le map empty serializedMap hempty h
  have hle : SHA1SUM_LENGTH + empty.length ≤ (fileOf sha1 serializedMap).length := by
    rw [List.length_append, hdigest]
    exact Nat.add_le_add_left hlength _
  rw [loaded, read_reads hempty, List.drop_left' hdigest, List.take_left' hdigest,
    if_pos ⟨hle, rfl⟩, hbincode.deserialize_serialize map serializedMap h]
  rfl

/-- **What is left of a file is no cache**, where the digest tells it from the whole. -/
lemma loaded_take_fileOf (hbincode : bincode.IsFaithful) {n : ℕ}
    (h : ∀ room, n = SHA1SUM_LENGTH + room → sha1 (serializedMap.take room) ≠ sha1 serializedMap) :
    loaded sha1 bincode (some ((fileOf sha1 serializedMap).take n)) = ∅ := by
  obtain ⟨empty, hempty⟩ := hbincode.serialize_empty
  have hdigest := length_toList_digest (sha1 serializedMap)
  rw [loaded, read_reads hempty, if_neg]
  · rfl
  rintro ⟨hlength, heq⟩
  rw [List.length_take] at hlength
  obtain ⟨room, rfl⟩ : ∃ room, n = SHA1SUM_LENGTH + room := Nat.exists_eq_add_of_le (by omega)
  have htake : (fileOf sha1 serializedMap).take (SHA1SUM_LENGTH + room) =
      (sha1 serializedMap).toList ++ serializedMap.take room := by
    rw [fileOf, ← hdigest, List.take_append]
    simp
  rw [htake, List.drop_left' hdigest, List.take_left' hdigest] at heq
  exact h room rfl (Vector.toList_inj.mp heq)

/-- **What a write leaves in the file.** -/
lemma loaded_write (hbincode : bincode.IsFaithful) (access : WriteAccess) (file : Option Bytes)
    (hcut : ∀ serializedMap room, bincode.serialize map = .ok serializedMap →
      access = .takes (some (SHA1SUM_LENGTH + room)) → room < serializedMap.length →
        sha1 (serializedMap.take room) ≠ sha1 serializedMap) :
    loaded sha1 bincode (write sha1 bincode map access file).2 =
      savedBy (loaded sha1 bincode file)
        [⟨map, access, (write sha1 bincode map access file).1⟩] := by
  cases access with
  | createFails => rfl
  | takes room =>
    rw [savedBy, if_neg (by simp)]
    cases hserialize : bincode.serialize map with
    | error e =>
      have hwrite : write sha1 bincode map (.takes room) file = (.error e, some []) := by
        rw [write, hserialize]
      rw [hwrite]
      have hshort : ∀ room, 0 = SHA1SUM_LENGTH + room →
          sha1 (([] : Bytes).take room) ≠ sha1 [] := fun room hroom =>
        absurd hroom (Nat.add_pos_left (by decide) room).ne
      exact loaded_take_fileOf hbincode hshort
    | ok serializedMap =>
      rcases write_takes hserialize room file with hwrite | ⟨n, rfl, hn, hwrite⟩
      · rw [hwrite]
        exact loaded_fileOf hbincode hserialize
      · rw [hwrite]
        refine loaded_take_fileOf hbincode fun room hroom => ?_
        subst hroom
        refine hcut serializedMap room hserialize rfl ?_
        rw [fileOf, List.length_append, length_toList_digest] at hn
        omega

/-- A write that returns leaves its map in the file. -/
lemma loaded_of_write_eq_ok (hbincode : bincode.IsFaithful) {access : WriteAccess}
    {file file' : Option Bytes} (h : write sha1 bincode map access file = (.ok (), file')) :
    loaded sha1 bincode file' = map := by
  cases access with
  | createFails => exact absurd (congrArg Prod.fst h) (by simp [write])
  | takes room =>
    cases hserialize : bincode.serialize map with
    | error e =>
      rw [write, hserialize] at h
      exact absurd (congrArg Prod.fst h) (by simp)
    | ok serializedMap =>
      rcases write_takes hserialize room file with hwrite | ⟨n, -, -, hwrite⟩
      · rw [hwrite] at h
        rw [← (Prod.mk.inj h).2]
        exact loaded_fileOf hbincode hserialize
      · rw [hwrite] at h
        exact absurd (congrArg Prod.fst h) (by simp)

end Files

/-! ## Runs -/

lemma savedBy_cons (initial : GoogleCacheBTreeMap) (w : FileWrite) (earlier : List FileWrite) :
    savedBy initial (w :: earlier) = savedBy (savedBy initial earlier) [w] := by
  rw [savedBy, savedBy, savedBy]

section Writes

variable {sha1 : Bytes → Digest} {bincode : Bincode} {map left : GoogleCacheBTreeMap}
  {midashi : Bytes} {candidates : List Bytes} {cacheEntries cacheExpireSeconds unixTimeNow : ℕ}
  {access : WriteAccess} {file file' : Option Bytes} {result : Except SkkError Unit}

lemma writeCandidatesToFile_of_not_shouldWrite (h : ¬ shouldWrite map midashi candidates) :
    writeCandidatesToFile sha1 bincode map midashi candidates cacheEntries cacheExpireSeconds
      unixTimeNow access file = .ok (.ok (), map, file) := if_neg h

/-- A call that writes nothing leaves everything as it is. -/
lemma eq_of_not_shouldWrite (h : ¬ shouldWrite map midashi candidates)
    (hok : writeCandidatesToFile sha1 bincode map midashi candidates cacheEntries
      cacheExpireSeconds unixTimeNow access file = .ok (result, left, file')) :
    left = map ∧ file' = file := by
  rw [writeCandidatesToFile_of_not_shouldWrite h] at hok
  obtain ⟨-, hrest⟩ := Prod.mk.inj (Outcome.ok.inj hok)
  obtain ⟨hmap, hfile⟩ := Prod.mk.inj hrest
  exact ⟨hmap.symm, hfile.symm⟩

lemma writeCandidatesToFile_eq_ok_iff (h : shouldWrite map midashi candidates) :
    writeCandidatesToFile sha1 bincode map midashi candidates cacheEntries cacheExpireSeconds
        unixTimeNow access file = .ok (result, left, file') ↔
      trim (inserted map midashi candidates unixTimeNow) cacheEntries cacheExpireSeconds
          unixTimeNow = .ok left ∧
        write sha1 bincode left access file = (result, file') := by
  rw [writeCandidatesToFile, if_pos h, Outcome.bind_eq_ok]
  constructor
  · rintro ⟨expiredMap, htrim, hwrite⟩
    obtain ⟨hresult, hrest⟩ := Prod.mk.inj (Outcome.ok.inj hwrite)
    obtain ⟨rfl, hfile⟩ := Prod.mk.inj hrest
    exact ⟨htrim, Prod.ext hresult hfile⟩
  · rintro ⟨htrim, hwrite⟩
    refine ⟨left, htrim, ?_⟩
    rw [hwrite]
    rfl

/-- A write that the disk has room for. -/
lemma writeCandidatesToFile_takes_none (h : shouldWrite map midashi candidates)
    (htrim : trim (inserted map midashi candidates unixTimeNow) cacheEntries cacheExpireSeconds
      unixTimeNow = .ok left) {serializedMap : Bytes}
    (hserialize : bincode.serialize left = .ok serializedMap) (file : Option Bytes) :
    writeCandidatesToFile sha1 bincode map midashi candidates cacheEntries cacheExpireSeconds
      unixTimeNow (.takes none) file = .ok (.ok (), left, some (fileOf sha1 serializedMap)) := by
  rw [writeCandidatesToFile_eq_ok_iff h]
  rcases write_takes hserialize none file with hwrite | ⟨n, hroom, -, -⟩
  · exact ⟨htrim, hwrite⟩
  · exact absurd hroom (by simp)

/-- What a write leaves in memory does not depend on the file. -/
lemma writeCandidates_of_toFile
    (h : writeCandidatesToFile sha1 bincode map midashi candidates cacheEntries cacheExpireSeconds
      unixTimeNow access file = .ok (result, left, file')) :
    writeCandidates map midashi candidates cacheEntries cacheExpireSeconds unixTimeNow (.ok ()) =
      .ok (.ok (), left) := by
  by_cases hwrite : shouldWrite map midashi candidates
  · exact (writeCandidates_eq_ok_iff hwrite).mpr
      ⟨rfl, ((writeCandidatesToFile_eq_ok_iff hwrite).mp h).1⟩
  · rw [writeCandidates_of_not_shouldWrite hwrite, (eq_of_not_shouldWrite hwrite h).1]

/-- A write that does not return stops in memory already. -/
lemma writeCandidates_ne_ok
    (h : ∀ p, writeCandidatesToFile sha1 bincode map midashi candidates cacheEntries
      cacheExpireSeconds unixTimeNow access file ≠ .ok p) (p : Except SkkError Unit ×
      GoogleCacheBTreeMap) :
    writeCandidates map midashi candidates cacheEntries cacheExpireSeconds unixTimeNow (.ok ()) ≠
      .ok p := by
  intro hok
  by_cases hwrite : shouldWrite map midashi candidates
  · have htrim := ((writeCandidates_eq_ok_iff hwrite).mp hok).2
    exact h _ ((writeCandidatesToFile_eq_ok_iff hwrite).mpr ⟨htrim, rfl⟩)
  · exact h _ (writeCandidatesToFile_of_not_shouldWrite hwrite)

end Writes

/-! ## The serialization of a map -/

/-- The entries of a map as `bincode` lays them out: each length in front of what it counts. -/
def entriesCodec : StreamCodec (List (Bytes × List Bytes)) :=
  .list (.pair (.list .byte) (.list (.list .byte)))

/-- `bincode` with its default options. -/
def fixintBincode : Bincode where
  serialize map :=
    if entriesCodec.fits map.toList then .ok (entriesCodec.encode map.toList) else .error .bincode
  deserialize bytes :=
    match entriesCodec.decode bytes with
    | some (entries, _) => .ok (Std.ExtTreeMap.ofList entries compare)
    | none => .error .bincode

lemma serialize_eq_ok {map : GoogleCacheBTreeMap} {bytes : Bytes}
    (h : fixintBincode.serialize map = .ok bytes) :
    entriesCodec.fits map.toList = true ∧ bytes = entriesCodec.encode map.toList := by
  rw [fixintBincode] at h
  dsimp only at h
  split at h
  · rename_i hfits
    exact ⟨hfits, (Except.ok.inj h).symm⟩
  · exact absurd h (by simp)

lemma isFaithful_fixintBincode : fixintBincode.IsFaithful where
  serialize_empty := by
    refine ⟨entriesCodec.encode [], ?_⟩
    rw [fixintBincode]
    dsimp only
    rw [toList_empty, if_pos (by decide)]
  length_le map empty bytes hempty h := by
    obtain ⟨-, rfl⟩ := serialize_eq_ok hempty
    obtain ⟨-, rfl⟩ := serialize_eq_ok h
    rw [toList_empty]
    exact StreamCodec.length_encode_nil_le _ _
  deserialize_serialize map bytes h := by
    obtain ⟨hfits, rfl⟩ := serialize_eq_ok h
    have hdecode := entriesCodec.decode_encode map.toList [] hfits
    rw [List.append_nil] at hdecode
    rw [fixintBincode]
    dsimp only
    rw [hdecode]
    dsimp only
    rw [ofList_toList]

lemma serialize_of_fits {map : GoogleCacheBTreeMap} (hfits : entriesCodec.fits map.toList = true) :
    fixintBincode.serialize map = .ok (entriesCodec.encode map.toList) := by
  rw [fixintBincode]
  dsimp only
  rw [if_pos hfits]

/-- A digest that is the length. -/
def lengthDigest (bytes : Bytes) : Digest :=
  ⟨(leBytes 20 bytes.length).toArray, length_leBytes 20 _⟩

namespace CachedServer

variable {sha1 : Bytes → Digest} {bincode : Bincode} {cacheEntries cacheExpireSeconds : ℕ}
  {s : CachedServer}

/-- A write that changes the cache, and returns. -/
lemma step_write {map left : GoogleCacheBTreeMap} {midashi : Bytes} {candidates : List Bytes}
    {unixTimeNow : ℕ} {access : WriteAccess} {result : Except SkkError Unit} {file' : Option Bytes}
    (hprocess : s.process = some map) (hwrite : shouldWrite map midashi candidates)
    (hok : writeCandidatesToFile sha1 bincode map midashi candidates cacheEntries
      cacheExpireSeconds unixTimeNow access s.file = .ok (result, left, file')) :
    s.step sha1 bincode cacheEntries cacheExpireSeconds
        (.write midashi candidates unixTimeNow access) =
      ⟨some left, file', ⟨left, access, result⟩ :: s.writes⟩ := by
  rw [step, hprocess]
  dsimp only
  rw [hok]
  exact if_pos hwrite

/-- **Every event keeps** what the writes tell of the file. -/
lemma loaded_step (hbincode : bincode.IsFaithful) {initial : GoogleCacheBTreeMap}
    (h : loaded sha1 bincode s.file = savedBy initial s.writes) {e : CacheEvent}
    (hcut : s.TellsCut sha1 bincode cacheEntries cacheExpireSeconds e) :
    loaded sha1 bincode (s.step sha1 bincode cacheEntries cacheExpireSeconds e).file =
      savedBy initial (s.step sha1 bincode cacheEntries cacheExpireSeconds e).writes := by
  cases e with
  | stop => exact h
  | start access => exact h
  | write midashi candidates unixTimeNow access =>
    cases hprocess : s.process with
    | none =>
      rw [step, hprocess]
      exact h
    | some map =>
      rw [step, hprocess]
      dsimp only
      cases hok : writeCandidatesToFile sha1 bincode map midashi candidates cacheEntries
        cacheExpireSeconds unixTimeNow access s.file with
      | error | panic | diverge => exact h
      | ok p =>
        obtain ⟨result, left, file'⟩ := p
        by_cases hwrite : shouldWrite map midashi candidates
        · dsimp only
          rw [if_pos hwrite, savedBy_cons, ← h]
          have hfile := ((writeCandidatesToFile_eq_ok_iff hwrite).mp hok).2
          have hleft : ∀ serializedMap room, bincode.serialize left = .ok serializedMap →
              access = .takes (some (SHA1SUM_LENGTH + room)) → room < serializedMap.length →
                sha1 (serializedMap.take room) ≠ sha1 serializedMap :=
            fun serializedMap room hserialize haccess hroom =>
              hcut map result left file' serializedMap room hprocess hok hserialize haccess hroom
          have hloaded := loaded_write hbincode access s.file hleft
          rwa [hfile] at hloaded
        · obtain ⟨-, rfl⟩ := eq_of_not_shouldWrite hwrite hok
          dsimp only
          rwa [if_neg hwrite]

lemma loaded_run_of_eq (hbincode : bincode.IsFaithful) {initial : GoogleCacheBTreeMap}
    {events : List CacheEvent} (h : loaded sha1 bincode s.file = savedBy initial s.writes)
    (hcut : s.Always sha1 bincode cacheEntries cacheExpireSeconds
      (TellsCut sha1 bincode cacheEntries cacheExpireSeconds) events) :
    loaded sha1 bincode (s.run sha1 bincode cacheEntries cacheExpireSeconds events).file =
      savedBy initial (s.run sha1 bincode cacheEntries cacheExpireSeconds events).writes := by
  induction events generalizing s with
  | nil => exact h
  | cons e events ih => exact ih (loaded_step hbincode h hcut.1) hcut.2

/-- **What a start finds is determined by the writes**, in every run of writes, stops and starts,
whatever the file system does: it is the map of the last write that created the file, whole, where
that write is complete, and nothing where it was cut short. -/
theorem loaded_run (hbincode : bincode.IsFaithful) (file : Option Bytes)
    {events : List CacheEvent}
    (hcut : Always sha1 bincode cacheEntries cacheExpireSeconds
      (TellsCut sha1 bincode cacheEntries cacheExpireSeconds) { file := file } events) :
    loaded sha1 bincode
        (run sha1 bincode cacheEntries cacheExpireSeconds { file := file } events).file =
      savedBy (loaded sha1 bincode file)
        (run sha1 bincode cacheEntries cacheExpireSeconds { file := file } events).writes :=
  loaded_run_of_eq hbincode rfl hcut

/-- The first of two writes, to a server that has just been started. -/
lemma run_firstWrite :
    run lengthDigest fixintBincode 2 1 { file := none }
        [.start .reads, .write (ascii "a") [ascii "x"] 1 (.takes none)] =
      ⟨some oneEntry, some (fileOf lengthDigest (entriesCodec.encode oneEntry.toList)),
        [⟨oneEntry, .takes none, .ok ()⟩]⟩ := by
  have hwrite : shouldWrite ∅ (ascii "a") [ascii "x"] := by decide +kernel
  exact step_write (s := run lengthDigest fixintBincode 2 1 { file := none } [.start .reads]) rfl
    hwrite (writeCandidatesToFile_takes_none hwrite SharedCache.trim_oneEntry
      (serialize_of_fits (by decide +kernel)) none)

/-- The second one, of which the disk takes 30 bytes. -/
lemma exists_secondWrite_cut :
    shouldWrite oneEntry (ascii "b") [ascii "y"] ∧ ∃ file,
      writeCandidatesToFile lengthDigest fixintBincode oneEntry (ascii "b") [ascii "y"] 2 1 1
      (.takes (some 30)) (some (fileOf lengthDigest (entriesCodec.encode oneEntry.toList))) =
        .ok (.error .io, SharedCache.bothEntries, file) := by
  have hwrite : shouldWrite oneEntry (ascii "b") [ascii "y"] := by decide +kernel
  refine ⟨hwrite, _, (writeCandidatesToFile_eq_ok_iff hwrite).mpr
    ⟨SharedCache.trim_bothEntries, Prod.ext ?_ rfl⟩⟩
  decide +kernel

/-- Two writes, the second of which the disk has no room for. -/
theorem loaded_run_cut :
    loaded lengthDigest fixintBincode (run lengthDigest fixintBincode 2 1 { file := none }
        [.start .reads, .write (ascii "a") [ascii "x"] 1 (.takes none)]).file = oneEntry ∧
      loaded lengthDigest fixintBincode (run lengthDigest fixintBincode 2 1 { file := none }
        [.start .reads, .write (ascii "a") [ascii "x"] 1 (.takes none),
          .write (ascii "b") [ascii "y"] 1 (.takes (some 30))]).file = ∅ := by
  obtain ⟨hwrite, file, hsecond⟩ := exists_secondWrite_cut
  have hwhole : ∀ s : CachedServer, s.TellsCut lengthDigest fixintBincode 2 1
      (.write (ascii "a") [ascii "x"] 1 (.takes none)) := by
    intro s map result left file serializedMap room _ _ _ haccess
    exact absurd (WriteAccess.takes.inj haccess) (by simp)
  have hcut : (run lengthDigest fixintBincode 2 1 { file := none }
      [.start .reads, .write (ascii "a") [ascii "x"] 1 (.takes none)]).TellsCut lengthDigest
        fixintBincode 2 1 (.write (ascii "b") [ascii "y"] 1 (.takes (some 30))) := by
    rw [run_firstWrite]
    intro map result left file' serializedMap room hprocess hok hserialize haccess _
    obtain rfl := Option.some.inj hprocess
    obtain ⟨-, hleft⟩ := Prod.mk.inj (Outcome.ok.inj (hsecond.symm.trans hok))
    obtain rfl := (Prod.mk.inj hleft).1
    obtain rfl := Except.ok.inj ((serialize_of_fits (by decide +kernel)).symm.trans hserialize)
    obtain rfl : 10 = room := by
      have hroom : 20 + 10 = 20 + room := Option.some.inj (WriteAccess.takes.inj haccess)
      omega
    decide +kernel
  constructor
  · have halways : Always lengthDigest fixintBincode 2 1 (TellsCut lengthDigest fixintBincode 2 1)
        { file := none } [.start .reads, .write (ascii "a") [ascii "x"] 1 (.takes none)] :=
      ⟨trivial, hwhole _, trivial⟩
    rw [loaded_run isFaithful_fixintBincode none halways, run_firstWrite]
    rfl
  · have halways : Always lengthDigest fixintBincode 2 1 (TellsCut lengthDigest fixintBincode 2 1)
        { file := none } [.start .reads, .write (ascii "a") [ascii "x"] 1 (.takes none),
          .write (ascii "b") [ascii "y"] 1 (.takes (some 30))] := ⟨trivial, hwhole _, hcut, trivial⟩
    have hrun := step_write (s := run lengthDigest fixintBincode 2 1 { file := none }
      [.start .reads, .write (ascii "a") [ascii "x"] 1 (.takes none)])
      (congrArg CachedServer.process run_firstWrite) hwrite (by rw [run_firstWrite]; exact hsecond)
    rw [loaded_run isFaithful_fixintBincode none halways]
    exact (congrArg (fun s => savedBy _ s.writes) hrun).trans rfl

/-- The cache in memory and in the file is this one. -/
structure IsSaved (sha1 : Bytes → Digest) (bincode : Bincode) (s : CachedServer)
    (map : GoogleCacheBTreeMap) : Prop where
  file : loaded sha1 bincode s.file = map
  process : ∀ map', s.process = some map' → map' = map

lemma inMemory_of_eq_ok {map left : GoogleCacheBTreeMap} {midashi : Bytes}
    {candidates : List Bytes} {unixTimeNow : ℕ} {result : Except SkkError Unit}
    (h : writeCandidates map midashi candidates cacheEntries cacheExpireSeconds unixTimeNow
      (.ok ()) = .ok (result, left)) (access : WriteAccess) (rest : List CacheEvent) :
    inMemory cacheEntries cacheExpireSeconds map
        (.write midashi candidates unixTimeNow access :: rest) =
      inMemory cacheEntries cacheExpireSeconds left rest := by
  rw [inMemory, h]

lemma inMemory_of_ne_ok {map : GoogleCacheBTreeMap} {midashi : Bytes}
    {candidates : List Bytes} {unixTimeNow : ℕ}
    (h : ∀ p, writeCandidates map midashi candidates cacheEntries cacheExpireSeconds unixTimeNow
      (.ok ()) ≠ .ok p) (access : WriteAccess) (rest : List CacheEvent) :
    inMemory cacheEntries cacheExpireSeconds map
        (.write midashi candidates unixTimeNow access :: rest) =
      inMemory cacheEntries cacheExpireSeconds map rest := by
  rw [inMemory]
  cases hcall : writeCandidates map midashi candidates cacheEntries cacheExpireSeconds unixTimeNow
    (.ok ()) with
  | ok p => exact absurd hcall (h p)
  | error | panic | diverge => rfl

/-- A step that succeeds takes the cache in the file along with the one in memory. -/
lemma IsSaved.step (hbincode : bincode.IsFaithful) {map : GoogleCacheBTreeMap}
    (h : s.IsSaved sha1 bincode map) {e : CacheEvent}
    (hsucceeds : s.Succeeds sha1 bincode cacheEntries cacheExpireSeconds e) :
    ∃ map', (s.step sha1 bincode cacheEntries cacheExpireSeconds e).IsSaved sha1 bincode map' ∧
      ∀ rest, inMemory cacheEntries cacheExpireSeconds map (e :: rest) =
        inMemory cacheEntries cacheExpireSeconds map' rest := by
  cases e with
  | stop => exact ⟨map, ⟨h.file, fun _ hprocess => absurd hprocess (by simp [CachedServer.step])⟩,
      fun _ => rfl⟩
  | start access =>
    obtain rfl := hsucceeds
    refine ⟨map, ⟨h.file, fun map' hprocess => ?_⟩, fun _ => rfl⟩
    rw [← Option.some.inj hprocess]
    exact h.file
  | write midashi candidates unixTimeNow access =>
    obtain ⟨map', hprocess, hresult⟩ := hsucceeds
    obtain rfl := h.process map' hprocess
    rw [CachedServer.step, hprocess]
    dsimp only
    by_cases hok : ∃ p, writeCandidatesToFile sha1 bincode map' midashi candidates cacheEntries
      cacheExpireSeconds unixTimeNow access s.file = .ok p
    · obtain ⟨p, hok⟩ := hok
      obtain ⟨result, left, file'⟩ := p
      obtain rfl := hresult result left file' hok
      refine ⟨left, ?_, fun rest => inMemory_of_eq_ok (writeCandidates_of_toFile hok) access rest⟩
      rw [hok]
      dsimp only
      by_cases hwrite : shouldWrite map' midashi candidates
      · rw [if_pos hwrite]
        have hfile := ((writeCandidatesToFile_eq_ok_iff hwrite).mp hok).2
        exact ⟨loaded_of_write_eq_ok hbincode hfile, fun _ heq => (Option.some.inj heq).symm⟩
      · obtain ⟨rfl, rfl⟩ := eq_of_not_shouldWrite hwrite hok
        rw [if_neg hwrite]
        exact ⟨h.file, fun _ heq => (Option.some.inj heq).symm⟩
    · push Not at hok
      refine ⟨map', ?_, fun rest => inMemory_of_ne_ok (writeCandidates_ne_ok hok) access rest⟩
      cases hcall : writeCandidatesToFile sha1 bincode map' midashi candidates cacheEntries
        cacheExpireSeconds unixTimeNow access s.file with
      | ok p => exact absurd hcall (hok p)
      | error | panic | diverge => exact ⟨h.file, fun _ heq => absurd heq (by simp)⟩

lemma IsSaved.run_of_succeeds (hbincode : bincode.IsFaithful) {map : GoogleCacheBTreeMap}
    (h : s.IsSaved sha1 bincode map) {events : List CacheEvent}
    (hsucceeds : s.Always sha1 bincode cacheEntries cacheExpireSeconds
      (Succeeds sha1 bincode cacheEntries cacheExpireSeconds) events) :
    (s.run sha1 bincode cacheEntries cacheExpireSeconds events).IsSaved sha1 bincode
      (inMemory cacheEntries cacheExpireSeconds map events) := by
  induction events generalizing s map with
  | nil => exact h
  | cons e events ih =>
    obtain ⟨map', hstep, hrest⟩ := h.step hbincode hsucceeds.1
    rw [hrest]
    exact ih hstep hsucceeds.2

/-- **Restarts leave no trace.**  Where the file system does what it is told, the cache of a server
is at every moment the one that it would be if the server had never been stopped, and so is the one
that the next start will find; also where it was a write that stopped the server. -/
theorem run_isSaved (hbincode : bincode.IsFaithful) (file : Option Bytes)
    {events : List CacheEvent}
    (hsucceeds : Always sha1 bincode cacheEntries cacheExpireSeconds
      (Succeeds sha1 bincode cacheEntries cacheExpireSeconds) { file := file } events) :
    IsSaved sha1 bincode
      (run sha1 bincode cacheEntries cacheExpireSeconds { file := file } events)
      (inMemory cacheEntries cacheExpireSeconds (loaded sha1 bincode file) events) := by
  have hfresh : IsSaved sha1 bincode { file := file } (loaded sha1 bincode file) :=
    ⟨rfl, fun _ hprocess => absurd hprocess (by simp)⟩
  exact hfresh.run_of_succeeds hbincode hsucceeds

/-- A server that is stopped behind each of two writes and started again. -/
theorem run_isSaved_bothEntries :
    IsSaved lengthDigest fixintBincode (run lengthDigest fixintBincode 2 1 { file := none }
      [.start .reads, .write (ascii "a") [ascii "x"] 1 (.takes none), .stop, .start .reads,
        .write (ascii "b") [ascii "y"] 1 (.takes none), .stop, .start .reads])
      SharedCache.bothEntries := by
  have hwrite : shouldWrite ∅ (ascii "a") [ascii "x"] := by decide +kernel
  have hwrite' : shouldWrite oneEntry (ascii "b") [ascii "y"] := by decide +kernel
  have hfits : entriesCodec.fits oneEntry.toList = true := by decide +kernel
  have hfits' : entriesCodec.fits SharedCache.bothEntries.toList = true := by decide +kernel
  -- the second write is made by a server that has read what the first one left
  have hprocess : (run lengthDigest fixintBincode 2 1 { file := none } [.start .reads,
      .write (ascii "a") [ascii "x"] 1 (.takes none), .stop, .start .reads]).process =
        some oneEntry := by
    have hread : _ = some (loaded lengthDigest fixintBincode (run lengthDigest fixintBincode 2 1
      { file := none } [.start .reads, .write (ascii "a") [ascii "x"] 1 (.takes none)]).file) := rfl
    rw [run_firstWrite, loaded_fileOf isFaithful_fixintBincode (serialize_of_fits hfits)] at hread
    exact hread
  have hsucceeds : Always lengthDigest fixintBincode 2 1 (Succeeds lengthDigest fixintBincode 2 1)
      { file := none } [.start .reads, .write (ascii "a") [ascii "x"] 1 (.takes none), .stop,
        .start .reads, .write (ascii "b") [ascii "y"] 1 (.takes none), .stop, .start .reads] := by
    refine ⟨rfl, ⟨∅, rfl, fun result left file hok => ?_⟩, trivial, rfl,
      ⟨oneEntry, hprocess, fun result left file hok => ?_⟩, trivial, rfl, trivial⟩
    · rw [writeCandidatesToFile_takes_none hwrite SharedCache.trim_oneEntry
        (serialize_of_fits hfits), Outcome.ok.injEq, Prod.mk.injEq] at hok
      exact hok.1.symm
    · rw [writeCandidatesToFile_takes_none hwrite' SharedCache.trim_bothEntries
        (serialize_of_fits hfits'), Outcome.ok.injEq, Prod.mk.injEq] at hok
      exact hok.1.symm
  have hmemory : inMemory 2 1 (loaded lengthDigest fixintBincode none)
      [.start .reads, .write (ascii "a") [ascii "x"] 1 (.takes none), .stop, .start .reads,
        .write (ascii "b") [ascii "y"] 1 (.takes none), .stop, .start .reads] =
      SharedCache.bothEntries := by
    have hfirst : writeCandidates ∅ (ascii "a") [ascii "x"] 2 1 1 (.ok ()) =
        .ok (.ok (), oneEntry) :=
      (writeCandidates_eq_ok_iff hwrite).mpr ⟨rfl, SharedCache.trim_oneEntry⟩
    have hsecond : writeCandidates oneEntry (ascii "b") [ascii "y"] 2 1 1 (.ok ()) =
        .ok (.ok (), SharedCache.bothEntries) :=
      (writeCandidates_eq_ok_iff hwrite').mpr ⟨rfl, SharedCache.trim_bothEntries⟩
    exact (inMemory_of_eq_ok hfirst (.takes none) _).trans
      (inMemory_of_eq_ok hsecond (.takes none) _)
  rw [← hmemory]
  exact run_isSaved isFaithful_fixintBincode none hsucceeds

end CachedServer

end GoogleCache

end Yaskkserv2
