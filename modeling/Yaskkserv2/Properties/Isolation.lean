import Yaskkserv2.Properties.Framing
import Yaskkserv2.Properties.LoadedUnits

/-!
# Isolation

All connections share the request buffer and the open dictionary file with its last read.  Neither
carries anything from one client to another: the buffer is empty between the events, and where
every read succeeds, what is kept of the last one is what the file holds there, so a lookup returns
the same whether it reads or not.

A connection's replies are therefore those of a server that it has for itself, and that begins each
event afresh (`replay`).
-/

namespace Yaskkserv2

open Framework

/-! ## Reads that succeed -/

/-- The last read lies inside the file.  A read that fails ends the request it was made for, so this
says at the end of an event that every read of it has succeeded. -/
abbrev DictionaryFile.IsInside (f : DictionaryFile) : Prop :=
  f.readLength ≤ f.file.length - f.seekPosition

lemma DictionaryFile.holds_new (file : Bytes) (bufferLength : ℕ) :
    (DictionaryFile.new file bufferLength).Holds file where
  file_eq := rfl
  faults := rfl
  readLength_le := Nat.zero_le _
  buffer := by simp [DictionaryFile.new]

/-- A read gives the bytes of the file, or it fails and shows. -/
lemma DictionaryFile.Holds.read_cases {file : Bytes} {f : DictionaryFile} (h : f.Holds file)
    (seekPosition readLength : ℕ) :
    (readLength ≤ file.length - seekPosition ∧ ∃ f', f.read seekPosition readLength =
        (.ok ((file.drop seekPosition).take readLength), f') ∧ f'.Holds file) ∨
      ¬ readLength ≤ file.length - seekPosition ∧ ∃ f', f.read seekPosition readLength =
        (.error .io, f') ∧ ¬ f'.IsInside := by
  have hlength : ((file.drop seekPosition).take readLength).length = readLength ↔
      readLength ≤ file.length - seekPosition := by
    rw [List.length_take, List.length_drop]
    omega
  unfold DictionaryFile.read
  by_cases hinside : readLength ≤ file.length - seekPosition
  · refine .inl ⟨hinside, ?_⟩
    split
    · have hread : readExact f.file seekPosition readLength =
          .ok ((file.drop seekPosition).take readLength) := by
        rw [h.file_eq, readExact]
        exact if_pos (hlength.mpr hinside)
      rw [h.faults, List.head?_nil, Option.join_none, hread]
      refine ⟨_, rfl, h.file_eq, rfl, ?_, List.take_left' (hlength.mpr hinside)⟩
      dsimp only
      rw [List.length_append, hlength.mpr hinside]
      omega
    · rename_i hsame
      push Not at hsame
      obtain ⟨rfl, rfl⟩ := hsame
      rw [sliceTo_of_le h.readLength_le, h.buffer]
      exact ⟨f, rfl, h⟩
  · refine .inr ⟨hinside, ?_⟩
    split
    · have hread : readExact f.file seekPosition readLength = (.error .io : Result Bytes) := by
        rw [h.file_eq, readExact]
        exact if_neg (fun heq => hinside (hlength.mp heq))
      rw [h.faults, List.head?_nil, Option.join_none, hread]
      refine ⟨_, rfl, ?_⟩
      rw [← h.file_eq] at hinside
      exact hinside
    · rename_i hsame
      push Not at hsame
      obtain ⟨rfl, rfl⟩ := hsame
      -- what is kept of an earlier read was inside the file
      have hkept : (f.buffer.take f.readLength).length = f.readLength := by
        rw [List.length_take]
        exact min_eq_left h.readLength_le
      rw [h.buffer] at hkept
      exact absurd (hlength.mp hkept) hinside

/-- **A function of the open file is neutral**: where its reads succeed it keeps the file as it
should be, and what it returns does not depend on what was read before. -/
def IsNeutral {α : Type} (file : Bytes) (run : DictionaryFile → Result α × DictionaryFile) :
    Prop :=
  ∀ f, f.Holds file → (run f).2.IsInside →
    (run f).2.Holds file ∧ ∀ g, g.Holds file → (run g).1 = (run f).1

/-- A function that does not touch the file. -/
lemma isNeutral_const {α : Type} (file : Bytes) (result : Result α) :
    IsNeutral file fun f => (result, f) :=
  fun _ hf _ => ⟨hf, fun _ _ => rfl⟩

/-- A read, and what is made of it: a neutral function where it succeeds, and no other read where
it fails. -/
lemma isNeutral_read {α : Type} {file : Bytes} (seekPosition readLength : ℕ)
    (next : Result Bytes → DictionaryFile → Result α × DictionaryFile)
    (hok : ∀ bytes, IsNeutral file (next (.ok bytes))) (herror : ∀ f, (next (.error .io) f).2 = f) :
    IsNeutral file fun f =>
      next (f.read seekPosition readLength).1 (f.read seekPosition readLength).2 := by
  intro f hf hinside
  rcases hf.read_cases seekPosition readLength with ⟨hlength, f', hread, hf'⟩ | ⟨-, f', hread, hnot⟩
  · dsimp only at hinside ⊢
    rw [hread] at hinside ⊢
    obtain ⟨hholds, hsame⟩ := hok _ f' hf' hinside
    refine ⟨hholds, fun g hg => ?_⟩
    rcases hg.read_cases seekPosition readLength with ⟨-, g', hread', hg'⟩ | ⟨hnot, -⟩
    · rw [hread']
      exact hsame g' hg'
    · exact absurd hlength hnot
  · dsimp only at hinside
    rw [hread, herror] at hinside
    exact absurd hinside hnot

namespace DictionaryReader

variable {file : Bytes} {midashi : Bytes} {informations : List DictionaryBlockInformation}
  {blocksOffset : UInt32}

lemma isNeutral_readDictionaryForReadCandidates (result : Bytes) :
    IsNeutral file fun f =>
      readDictionaryForReadCandidates midashi informations blocksOffset f result := by
  unfold readDictionaryForReadCandidates
  cases getBlockInformationsIndex midashi informations with
  | ok i =>
    dsimp only
    split
    · exact isNeutral_const file _
    · cases (index informations i : Result DictionaryBlockInformation) with
      | ok unit =>
        exact isNeutral_read _ _
          (fun read f => (read >>= fun buffer => findCandidates midashi buffer result, f))
          (fun _ => isNeutral_const file _) fun _ => rfl
      | error | panic | diverge => exact isNeutral_const file _
  | error | panic | diverge => exact isNeutral_const file _

/-- What follows the read of a unit: the result, or the units from the next one on. -/
def afterUnit (midashi : Bytes) (maxServerCompletions : ℕ) (result : Bytes) (foundCount : ℕ)
    (next : Option (Bytes → ℕ → DictionaryFile → Result Bytes × DictionaryFile))
    (read : Result Bytes) (f : DictionaryFile) : Result Bytes × DictionaryFile :=
  match read >>= fun buffer => abbrevUnit midashi buffer maxServerCompletions result foundCount with
  | .ok (outer, s) =>
    if outer then (.ok s.result, f)
    else
      match next with
      | none => (.ok s.result, f)
      | some next => next s.result s.foundCount f
  | .error e => (.error e, f)
  | .panic => (.panic, f)
  | .diverge => (.diverge, f)

lemma isNeutral_afterUnit {maxServerCompletions : ℕ} (result : Bytes) (foundCount : ℕ)
    (next : Option (Bytes → ℕ → DictionaryFile → Result Bytes × DictionaryFile))
    (hnext : ∀ units ∈ next, ∀ result foundCount, IsNeutral file (units result foundCount))
    (seekPosition readLength : ℕ) : IsNeutral file fun f =>
      afterUnit midashi maxServerCompletions result foundCount next
        (f.read seekPosition readLength).1 (f.read seekPosition readLength).2 := by
  refine isNeutral_read _ _ _ (fun bytes => ?_) fun f => rfl
  unfold afterUnit
  rw [Outcome.ok_bind]
  cases abbrevUnit midashi bytes maxServerCompletions result foundCount with
  | ok left =>
    dsimp only
    split
    · exact isNeutral_const file _
    · cases next with
      | none => exact isNeutral_const file _
      | some units => exact hnext units rfl _ _
  | error | panic | diverge => exact isNeutral_const file _

/-- The units are read one after the other; the first read that fails is the last. -/
lemma isNeutral_abbrevUnits {maxServerCompletions : ℕ} (i : ℕ) (result : Bytes)
    (foundCount : ℕ) : IsNeutral file fun f =>
      abbrevUnits midashi informations blocksOffset maxServerCompletions i result foundCount f := by
  induction i generalizing result foundCount with
  | zero =>
    simp only [abbrevUnits.eq_def _ _ _ _ 0]
    cases (index informations 0 : Result DictionaryBlockInformation) with
    | ok unit =>
      dsimp only
      split
      · exact isNeutral_const file _
      · exact isNeutral_afterUnit result foundCount none (by simp) _ _
    | error | panic | diverge => exact isNeutral_const file _
  | succ i ih =>
    simp only [abbrevUnits.eq_def _ _ _ _ (i + 1)]
    cases (index informations (i + 1) : Result DictionaryBlockInformation) with
    | ok unit =>
      dsimp only
      split
      · exact isNeutral_const file _
      · refine isNeutral_afterUnit result foundCount (some _) ?_ _ _
        rintro _ ⟨⟩
        exact ih
    | error | panic | diverge => exact isNeutral_const file _

lemma isNeutral_readDictionaryForReadAbbrev (t : EncodingTables) (result : Bytes)
    (maxServerCompletions : ℕ) (encoding : Encoding) : IsNeutral file fun f =>
      readDictionaryForReadAbbrev t midashi informations blocksOffset f result
        maxServerCompletions encoding := by
  intro f hf hinside
  unfold readDictionaryForReadAbbrev at hinside ⊢
  generalize (do
    let i ← getBlockInformationsIndex midashi informations
    if i ≥ informations.length then checkedSub i 1 else return i : Result ℕ) = start
    at hinside ⊢
  cases start with
  | ok i =>
    obtain ⟨hholds, hsame⟩ := isNeutral_abbrevUnits i result 0 f hf hinside
    refine ⟨hholds, fun g hg => ?_⟩
    dsimp only
    rw [hsame g hg]
  | error | panic | diverge => exact ⟨hf, fun _ _ => rfl⟩

/-! ## A request -/

section Request

variable {r : DictionaryReader} (hcache : r.config.isGoogleCacheEnabled = false)
  (world : GoogleWorld)
include hcache

/-- Without its cache, Google's candidates do not depend on what was asked before. -/
lemma readGoogleCandidates_of_cache_disabled (midashi result : Bytes) :
    ∃ answer : Result (Except SkkError Unit × Bytes), ∀ cache,
      r.readGoogleCandidates world cache midashi result =
        answer >>= fun a => .ok (a.1, a.2, cache) := by
  have hrequest : ∀ cache utf8Midashi, r.requestCandidates world cache utf8Midashi =
      r.requestCandidates world ∅ utf8Midashi := by
    intro cache utf8Midashi
    simp only [requestCandidates, hcache]
    rfl
  refine ⟨r.readGoogleCandidates world ∅ midashi result >>= fun a => .ok (a.1, a.2.1),
    fun cache => ?_⟩
  unfold readGoogleCandidates
  simp only [hrequest cache, hcache, Bool.false_eq_true, if_false]
  cases Euc.decode r.tables midashi with
  | ok utf8Midashi =>
    rw [Outcome.ok_bind, Outcome.ok_bind]
    cases r.requestCandidates world ∅ utf8Midashi with
    | error e => rfl
    | ok googleUtf8Candidates =>
      dsimp only
      split
      · rfl
      · cases (sliceFrom result 1 : Result Bytes) with
        | ok base =>
          cases (Encoding.fromU32 r.onMemory.dictionaryFixedHeader.encoding : Result Encoding) with
          | ok encoding =>
            simp only [Outcome.ok_bind]
            split
            · cases Euc.encode r.tables (Candidates.trimOneSlash (googleUtf8Candidates.flatMap
                fun v => Candidates.quoteAndAddPrefix v (some SLASH))) <;> rfl
            · rfl
          | error | panic | diverge => rfl
        | error | panic | diverge => rfl
  | error | panic | diverge => rfl

lemma ignoreGoogleError_of_cache_disabled (asks : Bool) (midashi result : Bytes) :
    ∃ answer : Result Bytes, ∀ cache,
      r.ignoreGoogleError world asks cache midashi result =
        answer >>= fun v => .ok (v, cache) := by
  obtain ⟨answer, hanswer⟩ := readGoogleCandidates_of_cache_disabled hcache world midashi result
  cases asks with
  | false => exact ⟨.ok result, fun cache => rfl⟩
  | true =>
    refine ⟨answer >>= fun a => .ok a.2, fun cache => ?_⟩
    rw [ignoreGoogleError, if_pos rfl, hanswer]
    cases answer <;> rfl

variable {s s₀ : Session}

/-- What `read_candidates` has before it looks at the file. -/
lemma start_of_cache_disabled (request : Bytes) :
    ∃ start : Result (Bytes × Option (List DictionaryBlockInformation) × Bytes), ∀ cache, (do
      let midashi ← getMidashi request
      let key ← Dictionary.getDictionaryMidashiKey (← sliceFrom request 1)
      let (result, cache) ← r.ignoreGoogleError world (r.config.googleTiming = .First) cache
        midashi [0x31]
      let vectors ← getBlockInformationVectors r.onMemory key
      return (midashi, vectors, result, cache) : Result (Bytes ×
        Option (List DictionaryBlockInformation) × Bytes × GoogleCacheBTreeMap)) =
      start >>= fun v => .ok (v.1, v.2.1, v.2.2, cache) := by
  refine ⟨do
    let midashi ← getMidashi request
    let key ← Dictionary.getDictionaryMidashiKey (← sliceFrom request 1)
    let (result, _) ← r.ignoreGoogleError world (r.config.googleTiming = .First) ∅ midashi [0x31]
    let vectors ← getBlockInformationVectors r.onMemory key
    return (midashi, vectors, result), fun cache => ?_⟩
  cases getMidashi request with
  | ok midashi =>
    obtain ⟨answer, hanswer⟩ := ignoreGoogleError_of_cache_disabled hcache world
      (r.config.googleTiming = .First) midashi [0x31]
    simp only [hanswer, Outcome.ok_bind]
    cases (sliceFrom request 1 : Result Bytes) with
    | ok rest =>
      simp only [Outcome.ok_bind]
      cases Dictionary.getDictionaryMidashiKey rest with
      | ok key =>
        cases answer with
        | ok result =>
          simp only [Outcome.ok_bind]
          cases getBlockInformationVectors r.onMemory key <;> rfl
        | error | panic | diverge => rfl
      | error | panic | diverge => rfl
    | error | panic | diverge => rfl
  | error | panic | diverge => rfl

/-- What `read_candidates` does with what the file gave: the rest is Google's. -/
def afterFile (r : DictionaryReader) (world : GoogleWorld) (midashi : Bytes)
    (cache : GoogleCacheBTreeMap) (read : Result Bytes × DictionaryFile) :
    Result Bytes × Session :=
  match read.1 with
  | .ok result =>
    let asks := r.config.googleTiming = .Last ∨
      (r.config.googleTiming = .NotFound ∧ isEmptyCandidates result)
    match r.ignoreGoogleError world asks cache midashi result with
    | .ok (result, cache) => (.ok result, ⟨read.2, cache⟩)
    | .error e => (.error e, ⟨read.2, cache⟩)
    | .panic => (.panic, ⟨read.2, cache⟩)
    | .diverge => (.diverge, ⟨read.2, cache⟩)
  | .error e => (.error e, ⟨read.2, cache⟩)
  | .panic => (.panic, ⟨read.2, cache⟩)
  | .diverge => (.diverge, ⟨read.2, cache⟩)

lemma afterFile_isolated {run : DictionaryFile → Result Bytes × DictionaryFile}
    (hrun : IsNeutral file run) (midashi : Bytes) (hs : s.dictionaryFile.Holds file)
    (hs₀ : s₀.dictionaryFile.Holds file) (hinside :
      (afterFile r world midashi s.cache (run s.dictionaryFile)).2.dictionaryFile.IsInside) :
    (afterFile r world midashi s.cache (run s.dictionaryFile)).2.dictionaryFile.Holds file ∧
      (afterFile r world midashi s₀.cache (run s₀.dictionaryFile)).1 =
        (afterFile r world midashi s.cache (run s.dictionaryFile)).1 := by
  have hfile := hrun s.dictionaryFile hs
  cases hread : run s.dictionaryFile with
  | mk read f =>
  rw [hread] at hinside hfile
  have hleft : (afterFile r world midashi s.cache (read, f)).2.dictionaryFile = f := by
    unfold afterFile
    cases read with
    | ok result =>
      dsimp only
      split <;> rfl
    | error | panic | diverge => rfl
  rw [hleft] at hinside ⊢
  -- in the other session the same is read, and the rest is the same function of it
  obtain ⟨hholds, hsame⟩ := hfile hinside
  have hread₀ := hsame s₀.dictionaryFile hs₀
  refine ⟨hholds, ?_⟩
  unfold afterFile
  rw [hread₀]
  cases read with
  | ok result =>
    obtain ⟨answer, hanswer⟩ := ignoreGoogleError_of_cache_disabled hcache world
      (decide (r.config.googleTiming = .Last ∨
        (r.config.googleTiming = .NotFound ∧ isEmptyCandidates result))) midashi result
    simp only [hanswer]
    cases answer <;> rfl
  | error | panic | diverge => rfl

lemma readCandidates_isolated (hs : s.dictionaryFile.Holds file)
    (hs₀ : s₀.dictionaryFile.Holds file) (request : Bytes)
    (hinside : (r.readCandidates world s request).2.dictionaryFile.IsInside) :
    (r.readCandidates world s request).2.dictionaryFile.Holds file ∧
      (r.readCandidates world s₀ request).1 = (r.readCandidates world s request).1 := by
  obtain ⟨start, hstart⟩ := start_of_cache_disabled hcache world request
  unfold readCandidates at hinside ⊢
  simp only [hstart] at hinside ⊢
  cases start with
  | ok v =>
    obtain ⟨midashi, vectors, result⟩ := v
    cases vectors with
    | some informations =>
      exact afterFile_isolated hcache world
        (isNeutral_readDictionaryForReadCandidates result) midashi hs hs₀ hinside
    | none =>
      exact afterFile_isolated hcache world (isNeutral_const file (.ok result)) midashi hs hs₀
        hinside
  | error | panic | diverge => exact ⟨hs, rfl⟩

omit hcache in
lemma readAbbrev_isolated (hs : s.dictionaryFile.Holds file)
    (hs₀ : s₀.dictionaryFile.Holds file) (request : Bytes)
    (hinside : (r.readAbbrev s request).2.dictionaryFile.IsInside) :
    (r.readAbbrev s request).2.dictionaryFile.Holds file ∧
      (r.readAbbrev s₀ request).1 = (r.readAbbrev s request).1 := by
  unfold readAbbrev at hinside ⊢
  generalize (do
    let midashi ← getMidashi request
    let key ← Dictionary.getDictionaryMidashiKey (← sliceFrom request 1)
    let vectors ← getBlockInformationVectors r.onMemory key
    return (midashi, vectors) :
      Result (Bytes × Option (List DictionaryBlockInformation))) = start at hinside ⊢
  cases start with
  | ok v =>
    obtain ⟨midashi, vectors⟩ := v
    cases vectors with
    | none => exact ⟨hs, rfl⟩
    | some informations =>
      dsimp only at hinside ⊢
      cases hencoding : (Encoding.fromU32 r.onMemory.dictionaryFixedHeader.encoding :
          Result Encoding) with
      | ok encoding =>
        rw [hencoding] at hinside
        obtain ⟨hholds, hsame⟩ := isNeutral_readDictionaryForReadAbbrev r.tables [0x31]
          r.config.maxServerCompletions encoding s.dictionaryFile hs hinside
        refine ⟨hholds, ?_⟩
        dsimp only
        rw [hsame s₀.dictionaryFile hs₀]
      | error | panic | diverge => exact ⟨hs, rfl⟩
  | error | panic | diverge => exact ⟨hs, rfl⟩

omit hcache in
/-- The reply is a function of what was looked up. -/
lemma replyTo_isolated {read read₀ : Result Bytes × Session} (hsame : read₀.1 = read.1)
    {echoed reply : Bytes} {s' : Session} (h : replyTo read echoed = .ok (reply, s')) :
    read.2 = s' ∧ replyTo read₀ echoed = .ok (reply, read₀.2) := by
  obtain ⟨result, s⟩ := read
  obtain ⟨result₀, s₀⟩ := read₀
  dsimp only at hsame
  subst hsame
  cases result₀ with
  | ok | error =>
    simp only [replyTo, Outcome.ok.injEq, Prod.mk.injEq] at h
    obtain ⟨rfl, rfl⟩ := h
    exact ⟨rfl, rfl⟩
  | panic | diverge => simp [replyTo] at h

lemma handleClientProtocol1_isolated (hs : s.dictionaryFile.Holds file)
    (hs₀ : s₀.dictionaryFile.Holds file) {request reply : Bytes} {s' : Session}
    (h : r.handleClientProtocol1 world s request = .ok (reply, s'))
    (hinside : s'.dictionaryFile.IsInside) :
    s'.dictionaryFile.Holds file ∧
      ∃ s₀', r.handleClientProtocol1 world s₀ request = .ok (reply, s₀') := by
  rw [handleClientProtocol1] at h ⊢
  split at h
  · rename_i hinvalid
    rw [Outcome.ok.injEq, Prod.mk.injEq] at h
    obtain ⟨rfl, rfl⟩ := h
    exact ⟨hs, s₀, if_pos hinvalid⟩
  · rename_i hvalid
    have hread := readCandidates_isolated hcache world hs hs₀ request
    have hleft : (r.readCandidates world s request).2 = s' := (replyTo_isolated rfl h).1
    rw [hleft] at hread
    obtain ⟨hholds, hsame⟩ := hread hinside
    rw [if_neg hvalid]
    exact ⟨hholds, _, (replyTo_isolated hsame h).2⟩

omit hcache in
lemma handleClientProtocol4_isolated (hs : s.dictionaryFile.Holds file)
    (hs₀ : s₀.dictionaryFile.Holds file) {request reply : Bytes} {s' : Session}
    (h : r.handleClientProtocol4 s request = .ok (reply, s'))
    (hinside : s'.dictionaryFile.IsInside) :
    s'.dictionaryFile.Holds file ∧
      ∃ s₀', r.handleClientProtocol4 s₀ request = .ok (reply, s₀') := by
  rw [handleClientProtocol4] at h ⊢
  split at h
  · rename_i hinvalid
    rw [Outcome.ok.injEq, Prod.mk.injEq] at h
    obtain ⟨rfl, rfl⟩ := h
    exact ⟨hs, s₀, if_pos hinvalid⟩
  · rename_i hvalid
    have hread := readAbbrev_isolated (r := r) hs hs₀ request
    have hleft : (r.readAbbrev s request).2 = s' := (replyTo_isolated rfl h).1
    rw [hleft] at hread
    obtain ⟨hholds, hsame⟩ := hread hinside
    rw [if_neg hvalid]
    exact ⟨hholds, _, (replyTo_isolated hsame h).2⟩

omit hcache in
lemma withEucBuffer_isolated {handle handle₀ : Bytes → Result (Bytes × Session)}
    (hs : s.dictionaryFile.Holds file) (s₀ : Session) {request reply : Bytes} {s' : Session}
    (hhandle : ∀ buffer, handle buffer = .ok (reply, s') → s'.dictionaryFile.Holds file ∧
      ∃ s₀', handle₀ buffer = .ok (reply, s₀'))
    (h : r.withEucBuffer s request handle = .ok (reply, s')) :
    s'.dictionaryFile.Holds file ∧
      ∃ s₀', r.withEucBuffer s₀ request handle₀ = .ok (reply, s₀') := by
  rw [withEucBuffer] at h ⊢
  split at h
  · rename_i hutf8
    rw [if_pos hutf8]
    cases hencode : Euc.encode r.tables request with
    | ok buffer =>
      rw [hencode] at h
      exact hhandle buffer h
    | error e =>
      rw [hencode] at h
      simp only [Outcome.ok.injEq, Prod.mk.injEq] at h
      obtain ⟨rfl, rfl⟩ := h
      exact ⟨hs, s₀, rfl⟩
    | panic | diverge =>
      rw [hencode] at h
      simp at h
  · rename_i heuc
    rw [if_neg heuc]
    exact hhandle request h

/-- **A request has the same reply** in any two sessions, where its reads succeed. -/
theorem handleClient_isolated (hs : s.dictionaryFile.Holds file)
    (hs₀ : s₀.dictionaryFile.Holds file) {request : Bytes} {handled : HandleClientResult}
    {replies : List Bytes} {s' : Session}
    (h : r.handleClient world s request = .ok (handled, replies, s'))
    (hinside : s'.dictionaryFile.IsInside) :
    s'.dictionaryFile.Holds file ∧
      ∃ s₀', r.handleClient world s₀ request = .ok (handled, replies, s₀') := by
  obtain ⟨command, hcommand, hways⟩ := handleClient_eq_ok.mp h
  rcases hways with ⟨hzero, hexit, hreplies, rfl⟩ | ⟨hone, hcontinue, ⟨reply, hreply, hrun⟩⟩ |
    ⟨hfour, hcontinue, ⟨reply, hreply, hrun⟩⟩ | ⟨hother, hcontinue, hreplies, rfl⟩
  · exact ⟨hs, s₀, handleClient_eq_ok.mpr ⟨command, hcommand, .inl ⟨hzero, hexit, hreplies, rfl⟩⟩⟩
  · obtain ⟨hholds, s₀', hrun₀⟩ := withEucBuffer_isolated hs s₀ (fun buffer hbuffer =>
      handleClientProtocol1_isolated hcache world hs hs₀ hbuffer hinside) hrun
    exact ⟨hholds, s₀', handleClient_eq_ok.mpr
      ⟨command, hcommand, .inr (.inl ⟨hone, hcontinue, reply, hreply, hrun₀⟩)⟩⟩
  · obtain ⟨hholds, s₀', hrun₀⟩ := withEucBuffer_isolated hs s₀ (fun buffer hbuffer =>
      handleClientProtocol4_isolated hs hs₀ hbuffer hinside) hrun
    exact ⟨hholds, s₀', handleClient_eq_ok.mpr
      ⟨command, hcommand, .inr (.inr (.inl ⟨hfour, hcontinue, reply, hreply, hrun₀⟩))⟩⟩
  · exact ⟨hs, s₀, handleClient_eq_ok.mpr
      ⟨command, hcommand, .inr (.inr (.inr ⟨hother, hcontinue, hreplies, rfl⟩))⟩⟩

end Request

end DictionaryReader

/-! ## Runs -/

open DictionaryReader

/-- An event does the same in any two sessions, where its reads succeed. -/
lemma readUntilSkkServer_isolated {r : DictionaryReader}
    (hcache : r.config.isGoogleCacheEnabled = false) {world : GoogleWorld} {file : Bytes}
    {s s₀ s' : Session} (hs : s.dictionaryFile.Holds file) (hs₀ : s₀.dictionaryFile.Holds file)
    {reader reader' : BufReader} {buffer' : Bytes} {handled : HandleClientResult}
    {replies : List Bytes}
    (h : readUntilSkkServer r world s reader [] = .ok (handled, replies, reader', buffer', s'))
    (hinside : s'.dictionaryFile.IsInside) :
    s'.dictionaryFile.Holds file ∧ ∃ s₀', readUntilSkkServer r world s₀ reader [] =
      .ok (handled, replies, reader', buffer', s₀') := by
  obtain ⟨reader₁, hread, -⟩ := readRequest_eq reader
  rw [readUntilSkkServer, hread, Outcome.ok_bind] at h ⊢
  generalize readingOfTaken (takeFills reader.fills).1 (takeFills reader.fills).2
    reader.stream.readEnd = reading at h ⊢
  cases reading with
  | request request =>
    dsimp only at h ⊢
    rw [Outcome.bind_eq_ok] at h
    obtain ⟨⟨handled', replies', s''⟩, hhandle, h⟩ := h
    simp only [Outcome.pure_eq, Outcome.ok.injEq, Prod.mk.injEq] at h
    obtain ⟨rfl, rfl, rfl, rfl, rfl⟩ := h
    obtain ⟨hholds, s₀', hhandle₀⟩ :=
      handleClient_isolated hcache world hs hs₀ hhandle hinside
    rw [hhandle₀]
    exact ⟨hholds, s₀', rfl⟩
  | result handled' isShutdown =>
    simp only [Outcome.pure_eq, Outcome.ok.injEq, Prod.mk.injEq] at h
    obtain ⟨rfl, rfl, rfl, rfl, rfl⟩ := h
    exact ⟨hs, s₀, rfl⟩

/-- A connection on a server of its own, that begins each event in the session it started with:
the connection's reader, and the replies so far, after one more input. -/
def replayInput (r : DictionaryReader) (session : Session) (state : BufReader × List Bytes) :
    Input → BufReader × List Bytes
  | .arrive bytes readLengths readEnd =>
    ({ state.1 with stream := state.1.stream.arrive bytes readLengths readEnd }, state.2)
  | .handle world =>
    match readUntilSkkServer r world session state.1 [] with
    | .ok (_, replies, reader, _, _) => (reader, state.2 ++ replies)
    | _ => state

/-- **A connection on a server of its own**, from its inputs alone. -/
def replay (r : DictionaryReader) (session : Session) (inputs : List Input) :
    BufReader × List Bytes :=
  inputs.foldl (replayInput r session) ({ stream := {} }, [])

lemma replay_append (r : DictionaryReader) (session : Session) (inputs : List Input)
    (input : Input) : replay r session (inputs ++ [input]) =
      replayInput r session (replay r session inputs) input := by
  rw [replay, List.foldl_append]
  rfl

/-- The condition on the steps of a run: every read of the file succeeds. -/
def System.readsSucceed (_ s' : System) : Prop :=
  s'.state.session.dictionaryFile.IsInside

/-- What the runs keep: each connection is where it would be on a server of its own. -/
structure System.IsIsolated (r : DictionaryReader) (session : Session) (file : Bytes)
    (s : System) : Prop where
  buffer_eq : s.state.buffer = []
  holds : s.state.session.dictionaryFile.Holds file
  occupied : ∀ i reader, s.state.sockets[i]? = some (some reader) →
    (replay r session (s.traces i).inputs).1 = reader
  replies_eq : ∀ i, (replay r session (s.traces i).inputs).2 = (s.traces i).replies

lemma System.isIsolated_start (r : DictionaryReader) (maxConnections : ℕ) {session : Session}
    {file : Bytes} (hsession : session.dictionaryFile.Holds file) :
    (System.start maxConnections session).IsIsolated r session file where
  buffer_eq := rfl
  holds := hsession
  occupied i reader h := by
    rw [System.start, LoopState.start, List.getElem?_replicate] at h
    split at h <;> simp at h
  replies_eq i := rfl

/-- The connections that a step does not touch stay where they are. -/
lemma System.IsIsolated.update {r : DictionaryReader} {session : Session} {file : Bytes}
    {s : System} (h : s.IsIsolated r session file) {i : ℕ} {state : LoopState}
    (socket : Option BufReader) {trace : Trace}
    (hsockets : state.sockets = s.state.sockets.set i socket) (hbuffer : state.buffer = [])
    (hholds : state.session.dictionaryFile.Holds file)
    (hoccupied : ∀ reader, socket = some reader → (replay r session trace.inputs).1 = reader)
    (hreplies : (replay r session trace.inputs).2 = trace.replies)
    (queue : List TcpStream) (ready : Finset Event) (batch : List Event) :
    (⟨state, queue, ready, batch, Function.update s.traces i trace⟩ : System).IsIsolated r session
      file := by
  refine ⟨hbuffer, hholds, fun j reader hj => ?_, fun j => ?_⟩
  · dsimp only at hj ⊢
    rw [hsockets] at hj
    rcases getElem?_set_cases hj with ⟨rfl, hsocket⟩ | ⟨hne, hj⟩
    · rw [Function.update_self]
      exact hoccupied reader hsocket
    · rw [Function.update_of_ne hne]
      exact h.occupied j reader hj
  · dsimp only
    by_cases hij : j = i
    · subst hij
      rw [Function.update_self]
      exact hreplies
    · rw [Function.update_of_ne hij]
      exact h.replies_eq j

theorem System.IsIsolated.step {r : DictionaryReader}
    (hcache : r.config.isGoogleCacheEnabled = false) {session : Session} {file : Bytes}
    (hsession : session.dictionaryFile.Holds file) {s s' : System}
    (hslotted : s.IsSlotted r.config.maxConnections) (h : s.IsIsolated r session file)
    (hstep : s.Step r s') (hreads : System.readsSucceed s s') : s'.IsIsolated r session file := by
  cases hstep with
  | connect | arriveQueued | poll => exact ⟨h.buffer_eq, h.holds, h.occupied, h.replies_eq⟩
  | arrive i reader bytes readLengths readEnd occupied _ =>
    refine h.update (some _) rfl (by exact h.buffer_eq) (by exact h.holds) ?_ ?_ _ _ _
    · intro reader' hreader
      rw [Option.some.injEq] at hreader
      rw [Trace.push, replay_append, ← hreader, replayInput, h.occupied i reader occupied]
    · rw [Trace.push, replay_append, replayInput, h.replies_eq]
      exact (List.append_nil _).symm
  | @accept stream queue rest state batch waiting run =>
    obtain ⟨next, hempty, -, rfl⟩ := hslotted.table.accept_cases run
    refine h.update (some _) rfl (by exact h.buffer_eq) (by exact h.holds) ?_ rfl _ _ _
    rintro reader' ⟨⟩
    rfl
  | @refuse stream queue rest state batch waiting run =>
    obtain ⟨-, rfl⟩ := hslotted.table.refuse_cases run
    exact ⟨h.buffer_eq, h.holds, h.occupied, h.replies_eq⟩
  | @drained rest state batch waiting run =>
    obtain rfl := drained_cases run
    exact ⟨h.buffer_eq, h.holds, h.occupied, h.replies_eq⟩
  | @token world i reader rest reading reader₁ buffer₁ replies state batch occupied read run =>
    obtain ⟨-, handled, reader₂, buffer₂, session₂, hrun, hstate⟩ := runLoopToken_cases occupied run
    rw [h.buffer_eq] at hrun
    have hreads₂ : session₂.dictionaryFile.IsInside := by
      rcases hstate with ⟨-, rfl⟩ | ⟨-, -, rfl⟩ <;> exact hreads
    obtain ⟨hholds, session₀, hrun₀⟩ :=
      readUntilSkkServer_isolated hcache h.holds hsession hrun hreads₂
    have hreplay : replay r session ((s.traces i).inputs ++ [.handle world]) =
        (reader₂, (s.traces i).replies ++ replies) := by
      rw [replay_append, replayInput, h.occupied i reader occupied, hrun₀, h.replies_eq]
    rcases hstate with ⟨-, rfl⟩ | ⟨-, -, rfl⟩
    · refine h.update (some _) rfl rfl hholds ?_ (by rw [Trace.push, hreplay]) _ _ _
      rintro _ ⟨⟩
      rw [Trace.push, hreplay]
    · exact h.update none rfl rfl hholds (by simp) (by rw [Trace.push, hreplay]) _ _ _

/-- **Clients do not influence each other's replies.**  Without the Google cache and where every
read of the file succeeds, what is written to a connection is the same in any two runs in which the
connection has the same inputs. -/
theorem System.replies_eq_of_inputs_eq {r : DictionaryReader}
    (hcache : r.config.isGoogleCacheEnabled = false) {file : Bytes} {bufferLength : ℕ}
    {cache : GoogleCacheBTreeMap} {s s' : System}
    (h : System.Reaches r System.readsSucceed
      (.start r.config.maxConnections ⟨.new file bufferLength, cache⟩) s)
    (h' : System.Reaches r System.readsSucceed
      (.start r.config.maxConnections ⟨.new file bufferLength, cache⟩) s')
    {i j : ℕ} (hinputs : (s.traces i).inputs = (s'.traces j).inputs) :
    (s.traces i).replies = (s'.traces j).replies := by
  have hisolated : ∀ {s : System}, System.Reaches r System.readsSucceed
      (.start r.config.maxConnections ⟨.new file bufferLength, cache⟩) s →
      s.IsIsolated r ⟨.new file bufferLength, cache⟩ file := by
    intro s h
    have hinvariant := h.invariant
      (fun s => s.IsSlotted r.config.maxConnections ∧
        s.IsIsolated r ⟨.new file bufferLength, cache⟩ file)
      ⟨System.isSlotted_start _ _,
        System.isIsolated_start r _ (DictionaryFile.holds_new file bufferLength)⟩
      fun _ _ hs hstep hreads => ⟨hs.1.step hstep,
        hs.2.step hcache (DictionaryFile.holds_new file bufferLength) hs.1 hstep hreads⟩
    exact hinvariant.2
  rw [← (hisolated h).replies_eq i, ← (hisolated h').replies_eq j, hinputs]

/-- A client among others that read other places of the file, and behind one that says nothing. -/
theorem replies_eq_of_inputs_eq_twoSlots :
    ∃ s s' : System, System.Reaches twoSlots System.readsSucceed (.start 2 twoSlotsSession) s ∧
      System.Reaches twoSlots System.readsSucceed (.start 2 twoSlotsSession) s' ∧
      (s.traces 0).replies = [ascii "1/y/z/\n", ascii "1/a/aab/\n"] ∧
      (s.traces 1).replies = [ascii "1/b/\n"] ∧ (s'.traces 0).replies = [] ∧
      (s.traces 0).replies = (s'.traces 1).replies := by
  obtain ⟨traces, sessions, hsessions, hscripted, htrace, htraceOther⟩ :=
    System.reaches_conversed_twoSlots
  have hreaches := hscripted.mono fun s s' h => show System.readsSucceed s s' from
    hsessions _ h.session_mem
  have hread : readRequest { stream := { received := ascii "1aab ", readLengths := [0, 1] } } [] =
      .ok (.request (ascii "1aab "), { stream := {} }, ascii "1aab ") := rfl
  have hreadAgain : readRequest { stream := { received := ascii "4a " } } [] =
      .ok (.request (ascii "4a "), { stream := {} }, ascii "4a ") := rfl
  have hcompleted : twoSlots.handleClient offline
      (twoSlotsSessionAt 7 11 (ascii "\naab /y/z/\n")) (ascii "4a ") =
        .ok (.Continue, [ascii "1/a/aab/\n"], twoSlotsSessionAt 7 11 (ascii "\naab /y/z/\n")) := rfl
  have hinside : (twoSlotsSessionAt 7 11 (ascii "\naab /y/z/\n")).dictionaryFile.IsInside := by
    decide
  have hconnect : System.Reaches twoSlots System.readsSucceed (.start 2 twoSlotsSession) _ :=
    .tail .refl (.connect _ {}) (Nat.zero_le _)
  have hconnectBehind := hconnect.tail
    (.connect _ { received := ascii "1aab ", readLengths := [0, 1] }) (Nat.zero_le _)
  have hpoll := hconnectBehind.tail
    (.poll _ [.listener] rfl (List.nodup_singleton _) (by decide)) (Nat.zero_le _)
  have haccept := hpoll.tail (.accept _ rfl rfl rfl) (Nat.zero_le _)
  have hacceptBehind := haccept.tail (.accept _ rfl rfl rfl) (Nat.zero_le _)
  have hdrained := hacceptBehind.tail (.drained _ rfl rfl rfl) (Nat.zero_le _)
  have hpollToken := hdrained.tail
    (.poll _ [.token 1] rfl (List.nodup_singleton _) (by decide)) (Nat.zero_le _)
  have hfound := hpollToken.tail (.token _ offline 1 _ rfl rfl hread
    (runLoopToken_of_continue rfl rfl hread handleClient_twoSlots)) hinside
  have harrive := hfound.tail
    (.arrive _ 1 { stream := {} } (ascii "4a ") [] .WouldBlock rfl rfl) hinside
  have hpollAgain := harrive.tail
    (.poll _ [.token 1] rfl (List.nodup_singleton _) (by decide)) hinside
  have hbehind := hpollAgain.tail
    (.token _ offline 1 _ rfl rfl hreadAgain
      (runLoopToken_of_continue rfl rfl hreadAgain hcompleted)) hinside
  exact ⟨_, _, hreaches, hbehind, congrArg Trace.replies htrace, congrArg Trace.replies htraceOther,
    rfl, System.replies_eq_of_inputs_eq rfl hreaches hbehind (i := 0) (j := 1)
      (congrArg Trace.inputs htrace)⟩

end Yaskkserv2
