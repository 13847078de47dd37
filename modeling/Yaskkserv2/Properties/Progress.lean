import Yaskkserv2.Properties.CacheWrites
import Yaskkserv2.Properties.Isolation
import Yaskkserv2.Properties.Requests

/-!
# The server goes on

All clients are served by one thread, so a request that stops it stops it for all of them.  There is
one kind that does: a look-up or a completion of three bytes, the lead byte of a three-byte
character with one byte behind it, for the key reads a byte too many (`StopsAt`).  Every other
request is answered or refused, whatever its bytes are, with or without Google and its cache
(`System.goesOn`).

The cache asks for two things: every entry of the cache file has a time, and the clock is not below
the expire time when an entry is written.
-/

namespace Yaskkserv2

open Framework Dictionary DictionaryCreator

namespace DictionaryReader

/-! ## Google -/

/-- The cache, where it is used, has a time in every entry. -/
abbrev HasReadableCache (r : DictionaryReader) (cache : GoogleCacheBTreeMap) : Prop :=
  r.config.isGoogleCacheEnabled = true → GoogleCache.IsReadable cache

/-- The clock, where the cache is used, is not below the expire time. -/
abbrev IsLate (r : DictionaryReader) (world : GoogleWorld) : Prop :=
  r.config.isGoogleCacheEnabled = true → r.config.googleCacheExpireSeconds ≤ world.unixTimeNow

section Google

variable {r : DictionaryReader} {encoding : Encoding}
  (hencoding : r.onMemory.dictionaryFixedHeader.encoding = encoding.toU32) {world : GoogleWorld}
  (hlate : r.IsLate world) {cache : GoogleCacheBTreeMap} (hcache : r.HasReadableCache cache)
  (midashi : Bytes) {result : Bytes} (hresult : result ≠ [])

include hencoding hlate hcache hresult

/-- **Asking Google comes back**, with a result that has its first byte still. -/
theorem readGoogleCandidates_returns :
    ∃ written result' cache', r.readGoogleCandidates world cache midashi result =
        .ok (written, result', cache') ∧ result' ≠ [] ∧ r.HasReadableCache cache' := by
  rw [readGoogleCandidates, Euc.decode_eq, Outcome.ok_bind]
  cases r.requestCandidates world cache (Euc.decoded r.tables midashi) with
  | error e => exact ⟨_, result, cache, rfl, hresult, hcache⟩
  | ok google =>
    dsimp only
    split
    · exact ⟨_, result, cache, rfl, hresult, hcache⟩
    · have hslice : (sliceFrom result 1 : Result Bytes) = .ok (result.drop 1) :=
        sliceFrom_of_le (List.length_pos_iff.mpr hresult)
      rw [hslice, Outcome.ok_bind, hencoding, Encoding.fromU32_toU32, Outcome.ok_bind]
      by_cases henabled : r.config.isGoogleCacheEnabled = true
      · obtain ⟨written, left, hwritten, hleft⟩ := GoogleCache.writeCandidates_returns
          (hcache henabled) (Euc.decoded r.tables midashi) google r.config.googleCacheEntries
          (hlate henabled) world.cacheWrite
        split
        · rw [Euc.encode_eq, Outcome.ok_bind, hwritten]
          exact ⟨written, _, left, rfl, List.cons_ne_nil _ _, fun _ => hleft⟩
        · rw [hwritten]
          exact ⟨written, _, left, rfl, List.cons_ne_nil _ _, fun _ => hleft⟩
      · split
        · rw [Euc.encode_eq, Outcome.ok_bind]
          exact ⟨_, _, cache, rfl, List.cons_ne_nil _ _, hcache⟩
        · exact ⟨_, _, cache, rfl, List.cons_ne_nil _ _, hcache⟩

lemma ignoreGoogleError_returns (asks : Bool) :
    ∃ result' cache', r.ignoreGoogleError world asks cache midashi result =
        .ok (result', cache') ∧ result' ≠ [] ∧ r.HasReadableCache cache' := by
  cases asks with
  | false => exact ⟨result, cache, rfl, hresult, hcache⟩
  | true =>
    obtain ⟨written, result', cache', hread, hne, hcache'⟩ :=
      readGoogleCandidates_returns hencoding hlate hcache midashi hresult
    rw [ignoreGoogleError, if_pos rfl, hread]
    exact ⟨result', cache', rfl, hne, hcache'⟩

end Google

lemma withText_ne_nil {result : Bytes} (h : result ≠ []) (text : Bytes) :
    withText result text ≠ [] := by
  rw [withText]
  split_ifs
  · exact h
  · exact List.append_ne_nil_of_left_ne_nil h text
  · exact List.cons_ne_nil _ _

/-! ## A request -/

/-- What the requests to come need of the session. -/
structure IsSound (r : DictionaryReader) (file : Bytes) (s : Session) : Prop where
  holds : s.dictionaryFile.Holds file
  cache : r.HasReadableCache s.cache

/-- A request that stops the program: it is looked up, and its character is cut short. -/
def StopsAt (r : DictionaryReader) (request : Bytes) : Prop :=
  (request.head? = some 0x31 ∨ request.head? = some 0x34) ∧ IsCutShort (r.eucRequest request)

lemma validateBufferForProtocol1And4_three (a b c : UInt8) :
    validateBufferForProtocol1And4 [a, b, c] :=
  ⟨le_refl 3, (by decide : 3 ≤ PROTOCOL_MAXIMUM_LENGTH)⟩

section Stops

variable (r : DictionaryReader) (world : GoogleWorld) (s : Session) {request : Bytes}

lemma handleClientProtocol1_of_isCutShort (h : IsCutShort request) :
    r.handleClientProtocol1 world s request = .panic := by
  obtain ⟨command, last, rfl⟩ := h
  have hkey : getDictionaryMidashiKey ([0x8f] ++ [last]) = .panic := rfl
  have hread := readCandidates_of_key_panic r world s command hkey
  rw [handleClientProtocol1, if_neg (not_not.mpr (validateBufferForProtocol1And4_three _ _ _))]
  exact congrArg (replyTo · _) hread

lemma handleClientProtocol4_of_isCutShort (h : IsCutShort request) :
    r.handleClientProtocol4 s request = .panic := by
  obtain ⟨command, last, rfl⟩ := h
  have hkey : getDictionaryMidashiKey ([0x8f] ++ [last]) = .panic := rfl
  have hread := readAbbrev_of_key_panic r s command hkey
  rw [handleClientProtocol4, if_neg (not_not.mpr (validateBufferForProtocol1And4_three _ _ _))]
  exact congrArg (replyTo · _) hread

/-- A request that is cut short stops the program, whatever it is that is loaded. -/
theorem handleClient_of_stopsAt (h : r.StopsAt request) :
    r.handleClient world s request = .panic := by
  obtain ⟨hhead, hcut⟩ := h
  cases request with
  | nil => simp at hhead
  | cons command rest =>
    simp only [List.head?_cons, Option.some.injEq] at hhead
    rw [handleClient, index_cons_zero, Outcome.ok_bind]
    rcases hhead with rfl | rfl
    · rw [if_neg (by decide), if_pos rfl, withEucBuffer_eq,
        handleClientProtocol1_of_isCutShort r world s hcut]
      rfl
    · rw [if_neg (by decide), if_neg (by decide), if_neg (by decide), if_neg (by decide),
        if_pos rfl, withEucBuffer_eq, handleClientProtocol4_of_isCutShort r s hcut]
      rfl

end Stops

/-- The key of a request that is not cut short: there is one, or the first byte begins no
character. -/
lemma key_of_not_isCutShort {command last : UInt8} {midashi : Bytes} (hne : midashi ≠ [])
    (h : ¬ IsCutShort ([command] ++ midashi ++ [last])) :
    (∃ key, getDictionaryMidashiKey (midashi ++ [last]) = .ok key) ∨
      getDictionaryMidashiKey (midashi ++ [last]) = .error .encoding := by
  have hlength : 2 ≤ (midashi ++ [last]).length := by
    have hpos := List.length_pos_iff.mpr hne
    rw [List.length_append, List.length_singleton]
    omega
  rcases getDictionaryMidashiKey_cases hlength with hkey | hkey | ⟨⟨last', hcut⟩, -⟩
  · exact .inl hkey
  · exact .inr hkey
  · exact absurd ⟨command, last', by rw [List.append_assoc, hcut]; rfl⟩ h

section Request

variable {m : JisyoEntriesMap} (hm : IsJisyoEntries m) {file : Bytes} {r : DictionaryReader}
  (hloaded : IsLoaded m file r.onMemory) {encoding : Encoding}
  (hencoding : r.onMemory.dictionaryFixedHeader.encoding = encoding.toU32)
  (hmax : 1 ≤ r.config.maxServerCompletions) (htables : r.ConvertsAsShipped) {world : GoogleWorld}
  (hlate : r.IsLate world) {s : Session} (hs : IsSound r file s) {request : Bytes}

include hm hloaded hencoding hs

include hlate in
/-- **A look-up with a key comes back**, whatever Google answers at whichever time. -/
theorem readCandidates_returns {midashi : Bytes} (hspace : SP ∉ midashi) {last : UInt8}
    {key : DictionaryMidashiKey} (hkey : getDictionaryMidashiKey (midashi ++ [last]) = .ok key) :
    ∃ result s', r.readCandidates world s ([0x31] ++ midashi ++ [last]) = (.ok result, s') ∧
      IsSound r file s' := by
  have hone : ([0x31] : Bytes) ≠ [] := List.cons_ne_nil _ _
  obtain ⟨first, cache, hfirst, hfirstNe, hcache⟩ := ignoreGoogleError_returns hencoding hlate
    hs.cache midashi hone (decide (r.config.googleTiming = .First))
  have htextNe := withText_ne_nil hfirstNe ((m[midashi]?).getD [])
  obtain ⟨final, cache', hfinal, -, hcache'⟩ := ignoreGoogleError_returns hencoding hlate
    hcache midashi htextNe (decide (r.config.googleTiming = .Last ∨
      (r.config.googleTiming = .NotFound ∧
        isEmptyCandidates (withText first ((m[midashi]?).getD [])))))
  obtain ⟨f, hread, hf⟩ := readCandidates_of_google hm r hloaded world hs.holds hspace hkey hfirst
    hfinal
  exact ⟨final, ⟨f, cache'⟩, hread, hf, hcache'⟩

include hlate in
lemma handleClientProtocol1_returns {rest : Bytes} (hrest : IsRequest (0x31 :: rest))
    (hcut : ¬ IsCutShort (0x31 :: rest)) :
    ∃ reply s', r.handleClientProtocol1 world s (0x31 :: rest) = .ok (reply, s') ∧
      IsSound r file s' := by
  rw [handleClientProtocol1]
  split
  · exact ⟨_, s, rfl, hs⟩
  · rename_i hvalid
    obtain ⟨midashi, last, hsplit, hne, hspace⟩ := exists_midashi hrest (not_not.mp hvalid).1
    rw [hsplit] at hcut ⊢
    rcases key_of_not_isCutShort hne hcut with ⟨key, hkey⟩ | hkey
    · obtain ⟨result, s', hread, hs'⟩ :=
        readCandidates_returns hm hloaded hencoding hlate hs hspace hkey
      rw [hread]
      exact ⟨_, s', rfl, hs'⟩
    · rw [readCandidates_of_key_error r world s 0x31 hkey]
      exact ⟨_, s, rfl, hs⟩

include hmax in
lemma handleClientProtocol4_returns {rest : Bytes} (hrest : IsRequest (0x34 :: rest))
    (hcut : ¬ IsCutShort (0x34 :: rest)) :
    ∃ reply s', r.handleClientProtocol4 s (0x34 :: rest) = .ok (reply, s') ∧
      IsSound r file s' := by
  rw [handleClientProtocol4]
  split
  · exact ⟨_, s, rfl, hs⟩
  · rename_i hvalid
    obtain ⟨midashi, last, hsplit, hne, hspace⟩ := exists_midashi hrest (not_not.mp hvalid).1
    rw [hsplit] at hcut ⊢
    rcases key_of_not_isCutShort hne hcut with ⟨key, hkey⟩ | hkey
    · obtain ⟨f, words, hf, -, hread⟩ :=
        readAbbrev_isCompletionList hm hloaded hencoding hmax hs.holds hspace hne hkey
      rw [hread]
      exact ⟨_, _, rfl, hf, hs.cache⟩
    · rw [readAbbrev_of_key_error r s 0x34 hkey]
      exact ⟨_, s, rfl, hs⟩

include hmax htables hlate in
/-- **Every other request comes back.** -/
theorem handleClient_returns (hrequest : IsRequest request) (h : ¬ r.StopsAt request) :
    ∃ handled replies s', r.handleClient world s request = .ok (handled, replies, s') ∧
      IsSound r file s' := by
  obtain ⟨command, rest, rfl⟩ := List.exists_cons_of_ne_nil hrequest.ne_nil
  by_cases hone : command = 0x31
  · subst hone
    obtain ⟨rest', heuc, hrest'⟩ := eucRequest_cons htables (by decide) hrequest
    have hcut : ¬ IsCutShort (0x31 :: rest') := fun hcut => h ⟨.inl rfl, heuc ▸ hcut⟩
    obtain ⟨reply, s', hrun, hs'⟩ :=
      handleClientProtocol1_returns hm hloaded hencoding hlate hs hrest' hcut
    rw [← heuc, ← withEucBuffer_eq r s _ (r.handleClientProtocol1 world s)] at hrun
    exact ⟨_, _, s', handleClient_eq_ok.mpr ⟨0x31, rfl, .inr (.inl ⟨rfl, rfl, reply, rfl, hrun⟩)⟩,
      hs'⟩
  by_cases hfour : command = 0x34
  · subst hfour
    obtain ⟨rest', heuc, hrest'⟩ := eucRequest_cons htables (by decide) hrequest
    have hcut : ¬ IsCutShort (0x34 :: rest') := fun hcut => h ⟨.inr rfl, heuc ▸ hcut⟩
    obtain ⟨reply, s', hrun, hs'⟩ :=
      handleClientProtocol4_returns hm hloaded hencoding hmax hs hrest' hcut
    rw [← heuc, ← withEucBuffer_eq r s _ (r.handleClientProtocol4 s)] at hrun
    exact ⟨_, _, s', handleClient_eq_ok.mpr
      ⟨0x34, rfl, .inr (.inr (.inl ⟨rfl, rfl, reply, rfl, hrun⟩))⟩, hs'⟩
  by_cases hzero : command = 0x30
  · exact ⟨_, _, s, handleClient_eq_ok.mpr ⟨command, rfl, .inl ⟨hzero, rfl, rfl, rfl⟩⟩, hs⟩
  · exact ⟨_, _, s, handleClient_eq_ok.mpr
      ⟨command, rfl, .inr (.inr (.inr ⟨⟨hzero, hone, hfour⟩, rfl, rfl, rfl⟩))⟩, hs⟩

end Request

end DictionaryReader

/-! ## An event -/

open DictionaryReader

/-- An occupied slot is counted. -/
lemma IsTable.count_pos {maxConnections : ℕ} {s : LoopState} (h : IsTable maxConnections s) {i : ℕ}
    {reader : BufReader} (hreader : s.sockets[i]? = some (some reader)) :
    1 ≤ s.socketsSomeCount := by
  obtain ⟨hi, hget⟩ := List.getElem?_eq_some_iff.mp hreader
  rw [h.count_eq]
  exact List.countP_pos_iff.mpr ⟨_, List.getElem_mem hi, by rw [hget]; rfl⟩

section Event

variable {r : DictionaryReader} {world : GoogleWorld} {s : LoopState} {i : ℕ}
  {reader reader' : BufReader} {reading : Reading} {buffer' : Bytes}
  (hreader : s.sockets[i]? = some (some reader)) (hbuffer : s.buffer = [])
  (hread : readRequest reader [] = .ok (reading, reader', buffer'))

include hreader hbuffer

include hread in
lemma runLoopToken_of_stopsAt {request : Bytes} (hrequest : reading = .request request)
    (h : r.StopsAt request) : runLoopToken r world s i (.ok ()) = .panic := by
  rw [runLoopToken, index_eq_ok.mpr hreader, Outcome.ok_bind, hbuffer]
  dsimp only
  rw [readUntilSkkServer, hread, hrequest, Outcome.ok_bind]
  dsimp only
  rw [handleClient_of_stopsAt r world s.session h]
  rfl

/-- An event whose request comes back keeps the connection or closes it. -/
lemma runLoopToken_of_handled {maxConnections : ℕ} (htable : IsTable maxConnections s)
    {handled : HandleClientResult} {replies : List Bytes} {session : Session}
    (h : readUntilSkkServer r world s.session reader [] =
      .ok (handled, replies, reader', buffer', session)) :
    ∃ state, runLoopToken r world s i (.ok ()) = .ok (.Nop, replies, state) ∧
      state.session = session := by
  rw [runLoopToken, index_eq_ok.mpr hreader, Outcome.ok_bind, hbuffer]
  dsimp only
  rw [h, Outcome.ok_bind]
  cases handled with
  | Continue => exact ⟨_, rfl, rfl⟩
  | Exit =>
    have hcount := htable.count_pos hreader
    dsimp only
    rw [checkedSub, if_pos hcount]
    exact ⟨_, rfl, rfl⟩

end Event

/-! ## Runs -/

/-- The condition on the steps of a run: no event of a connection is handled while the clock is
below the expire time of the cache, where it is used. -/
abbrev System.clockIsLate (r : DictionaryReader) : System → System → Prop :=
  System.handlesIn r.IsLate

/-- What the runs keep. -/
structure System.IsGoingOn (r : DictionaryReader) (file : Bytes) (s : System) : Prop where
  slotted : s.IsSlotted r.config.maxConnections
  buffer_eq : s.state.buffer = []
  sound : DictionaryReader.IsSound r file s.state.session

section Runs

variable {m : JisyoEntriesMap} (hm : IsJisyoEntries m) {file : Bytes} {r : DictionaryReader}
  (hloaded : IsLoaded m file r.onMemory) {encoding : Encoding}
  (hencoding : r.onMemory.dictionaryFixedHeader.encoding = encoding.toU32)
  (hmax : 1 ≤ r.config.maxServerCompletions) (htables : r.ConvertsAsShipped)

include hm hloaded hencoding hmax htables

/-- **An event comes back** unless its request stops the program. -/
theorem runLoopToken_returns {world : GoogleWorld} (hlate : r.IsLate world) {maxConnections : ℕ}
    {s : LoopState} (htable : IsTable maxConnections s) (hbuffer : s.buffer = [])
    (hs : IsSound r file s.session) {i : ℕ} {reader reader' : BufReader} {reading : Reading}
    {buffer' : Bytes} (hreader : s.sockets[i]? = some (some reader))
    (hread : readRequest reader [] = .ok (reading, reader', buffer'))
    (h : ∀ request, reading = .request request → ¬ r.StopsAt request) :
    ∃ replies state, runLoopToken r world s i (.ok ()) = .ok (.Nop, replies, state) ∧
      IsSound r file state.session := by
  cases reading with
  | request request =>
    obtain ⟨handled, replies, session, hhandle, hsession⟩ := handleClient_returns hm hloaded
      hencoding hmax htables hlate hs (isRequest_of_readRequest hread) (h request rfl)
    have hhandled : readUntilSkkServer r world s.session reader [] =
        .ok (handled, replies, reader', buffer', session) := by
      rw [readUntilSkkServer, hread, Outcome.ok_bind]
      dsimp only
      rw [hhandle]
      rfl
    obtain ⟨state, hrun, rfl⟩ := runLoopToken_of_handled hreader hbuffer htable hhandled
    exact ⟨replies, state, hrun, hsession⟩
  | result handled isShutdown =>
    have hhandled : readUntilSkkServer r world s.session reader [] =
        .ok (handled, [], reader', buffer', s.session) := by
      rw [readUntilSkkServer, hread]
      rfl
    obtain ⟨state, hrun, hsession⟩ := runLoopToken_of_handled hreader hbuffer htable hhandled
    exact ⟨[], state, hrun, hsession.symm ▸ hs⟩

theorem System.IsGoingOn.step {s s' : System} (h : s.IsGoingOn r file) (hstep : s.Step r s')
    (hlate : System.clockIsLate r s s') : s'.IsGoingOn r file := by
  refine ⟨h.slotted.step hstep, h.slotted.buffer_eq_nil h.buffer_eq hstep, ?_⟩
  cases hstep with
  | connect | arriveQueued | arrive | poll => exact h.sound
  | accept _ _ run =>
    obtain ⟨next, -, -, rfl⟩ := h.slotted.table.accept_cases run
    exact h.sound
  | refuse _ _ run =>
    obtain ⟨-, rfl⟩ := h.slotted.table.refuse_cases run
    exact h.sound
  | drained _ _ run =>
    obtain rfl := drained_cases run
    exact h.sound
  | @token world i reader rest reading reader₁ buffer₁ replies state batch occupied read run =>
    have hworld : r.IsLate world := hlate i world (by
      dsimp only
      rw [Function.update_self]
      rfl)
    rw [h.buffer_eq] at read
    have hgoes : ∀ request, reading = .request request → ¬ r.StopsAt request := by
      intro request hrequest hstops
      rw [runLoopToken_of_stopsAt occupied h.buffer_eq read hrequest hstops] at run
      simp at run
    obtain ⟨replies', state', hrun, hsound⟩ := runLoopToken_returns hm hloaded hencoding hmax
      htables hworld h.slotted.table h.buffer_eq h.sound occupied read hgoes
    rw [run, Outcome.ok.injEq, Prod.mk.injEq, Prod.mk.injEq] at hrun
    obtain ⟨-, -, rfl⟩ := hrun
    exact hsound

end Runs

/-- The two clients of `System.reaches_conversed`, whatever Google answers. -/
lemma System.exists_conversed {r : DictionaryReader} (htwo : r.config.maxConnections = 2)
    {m : JisyoEntriesMap} (hm : IsJisyoEntries m) {file : Bytes}
    (hloaded : IsLoaded m file r.onMemory) {encoding : Encoding}
    (hencoding : r.onMemory.dictionaryFixedHeader.encoding = encoding.toU32)
    (hmax : 1 ≤ r.config.maxServerCompletions) (heuc : r.config.isMidashiUtf8 = false)
    {world : GoogleWorld} (hlate : r.IsLate world) {session : Session}
    (hsession : DictionaryReader.IsSound r file session) :
    ∃ session' traces sessions, session' ∈ sessions ∧
      System.Reaches r (System.IsScripted world sessions)
        (.start r.config.maxConnections session) (.conversed session' traces) ∧
      (traces 0).handed = [ascii "1aab ", ascii "4a "] ∧
      (traces 1).handed = [ascii "1a ", ascii "0"] := by
  have htables : r.ConvertsAsShipped := by
    intro hutf8
    rw [heuc] at hutf8
    exact absurd hutf8 (by decide)
  have hreturns : ∀ {request : Bytes} {s : Session}, IsRequest request → 0x8f ∉ request →
      request.head? = some 0x31 ∨ request.head? = some 0x34 → DictionaryReader.IsSound r file s →
      ∃ replies s', r.handleClient world s request = .ok (.Continue, replies, s') ∧
        DictionaryReader.IsSound r file s' := by
    intro request s hrequest hlead hhead hs
    obtain ⟨handled, replies, s', hhandle, hs'⟩ := handleClient_returns hm hloaded hencoding hmax
      htables hlate hs hrequest (by
        rintro ⟨-, command, last, hcut⟩
        rw [eucRequest, heuc] at hcut
        exact hlead (by simp_all))
    have hcontinue : handled = .Continue := by
      obtain ⟨command, hcommand, hways⟩ := handleClient_eq_ok.mp hhandle
      rcases hways with ⟨rfl, -⟩ | ⟨-, h, -⟩ | ⟨-, h, -⟩ | ⟨-, h, -⟩
      · simp [hcommand] at hhead
      · exact h
      · exact h
      · exact h
    exact ⟨replies, s', hcontinue ▸ hhandle, hs'⟩
  obtain ⟨found, s₁, hfound, hs₁⟩ := hreturns
    (⟨by decide, by decide⟩ : IsRequest (ascii "1aab ")) (by decide) (.inl rfl) hsession
  obtain ⟨other, s₂, hother, hs₂⟩ := hreturns
    (⟨by decide, by decide⟩ : IsRequest (ascii "1a ")) (by decide) (.inl rfl) hs₁
  obtain ⟨completed, s₃, hcompleted, -⟩ := hreturns
    (⟨by decide, by decide⟩ : IsRequest (ascii "4a ")) (by decide) (.inr rfl) hs₂
  obtain ⟨traces, hreaches, htrace, htraceOther⟩ :=
    System.reaches_conversed htwo hfound hother hcompleted
  exact ⟨s₃, traces, _, by simp, hreaches, congrArg Trace.handed htrace,
    congrArg Trace.handed htraceOther⟩

/-- A server with two slots that asks Google and has a cache. -/
def cachedServer (onMemory : OnMemory) : DictionaryReader where
  config := { maxConnections := 2, isGoogleCacheEnabled := true, googleCacheExpireSeconds := 10 }
  onMemory := onMemory
  tables := .empty

/-- Google does not answer, later than that cache expires. -/
def offlineLater : GoogleWorld := { offline with unixTimeNow := 20 }

end Yaskkserv2
