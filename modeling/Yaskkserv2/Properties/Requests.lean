import Yaskkserv2.Properties.Answers
import Yaskkserv2.Properties.Completion
import Yaskkserv2.Properties.Delimiters
import Yaskkserv2.Properties.Framing

/-!
# The requests that reach `handle_client`

A request is cut from the stream behind its first space, behind a command of one character, or where
the stream ends.  So if it has a space, then that is its last byte (`IsRequest`), and the conversion
of a UTF-8 request leaves it that way (`IsRequest.eucRequest`).

A look-up drops the last byte of a request, be it a space or not, but not before the key was made of
the first character.  That is where a request can stop the program: a lead byte of three bytes with
one byte behind it (`IsCutShort`).
-/

namespace Yaskkserv2

open Framework Dictionary DictionaryCreator

/-! ## What is cut from a stream -/

/-- Bytes whose only space, if there is one, is the last of them. -/
abbrev SpaceEndsIt (bytes : Bytes) : Prop := SP ∉ bytes.dropLast

lemma SpaceEndsIt.drop {bytes : Bytes} (h : SpaceEndsIt bytes) (n : ℕ) :
    SpaceEndsIt (bytes.drop n) := by
  intro hmem
  have hsplit : bytes = bytes.take n ++ bytes.drop n := (List.take_append_drop n bytes).symm
  have hne : bytes.drop n ≠ [] := by
    intro hnil
    rw [hnil] at hmem
    simp at hmem
  refine h ?_
  rw [hsplit, List.dropLast_append_of_ne_nil hne]
  exact List.mem_append_right _ hmem

lemma spaceEndsIt_of_not_mem {bytes : Bytes} (h : SP ∉ bytes) : SpaceEndsIt bytes :=
  fun hmem => h (List.dropLast_subset bytes hmem)

/-- What is taken of a fill ends at its first space. -/
lemma spaceEndsIt_takeAvailable (available : Bytes) :
    SpaceEndsIt (takeAvailable available).1 ∧
      ((takeAvailable available).2 = false → SP ∉ available) := by
  unfold takeAvailable
  cases hfind : find [SP] available with
  | some i =>
    obtain ⟨front, rest, rfl, hfront, rfl⟩ := find_singleton_eq_some hfind
    refine ⟨?_, by simp⟩
    have htake : (front ++ SP :: rest).take (front.length + 1) = front ++ [SP] := by
      rw [List.take_append, List.take_of_length_le (by omega)]
      simp
    dsimp only
    rw [htake, SpaceEndsIt, List.dropLast_concat]
    exact hfront
  | none =>
    have hspace : SP ∉ available := by
      rw [← find_singleton_isSome, hfind]
      simp
    dsimp only
    split
    · exact ⟨spaceEndsIt_of_not_mem fun hmem => hspace (List.mem_of_mem_take hmem), by simp⟩
    · exact ⟨spaceEndsIt_of_not_mem hspace, fun _ => hspace⟩

lemma spaceEndsIt_takeFills (fills : List Bytes) : SpaceEndsIt (takeFills fills).1 := by
  induction fills with
  | nil => exact spaceEndsIt_of_not_mem List.not_mem_nil
  | cons fill fills ih =>
    obtain ⟨htaken, hall⟩ := spaceEndsIt_takeAvailable fill
    rw [takeFills]
    split
    · exact htaken
    · rename_i hdone
      have hspace := hall (by simpa using hdone)
      by_cases hnil : (takeFills fills).1 = []
      · rw [hnil, List.append_nil]
        exact spaceEndsIt_of_not_mem hspace
      · rw [SpaceEndsIt, List.dropLast_append_of_ne_nil hnil, List.mem_append, not_or]
        exact ⟨hspace, ih⟩

/-- A request as it is handed to `handle_client`. -/
structure IsRequest (request : Bytes) : Prop where
  ne_nil : request ≠ []
  spaceEndsIt : SpaceEndsIt request

/-- **Only requests are handed on**, whatever bytes arrive and however they are cut. -/
theorem isRequest_of_readRequest {reader reader' : BufReader} {buffer' request : Bytes}
    (h : readRequest reader [] = .ok (.request request, reader', buffer')) : IsRequest request := by
  obtain ⟨reader₁, hread, -⟩ := readRequest_eq reader
  rw [hread, Outcome.ok.injEq, Prod.mk.injEq] at h
  obtain ⟨hreading, -⟩ := h
  have htaken := spaceEndsIt_takeFills reader.fills
  rw [readingOfTaken] at hreading
  split at hreading
  · split at hreading
    · simp at hreading
    · rename_i hne
      rw [Reading.request.injEq] at hreading
      subst hreading
      exact ⟨hne, htaken.drop _⟩
  · split at hreading <;> simp at hreading

namespace DictionaryReader

/-! ## The request that is looked at -/

/-- A request in the encoding of the dictionary's midashi. -/
def eucRequest (r : DictionaryReader) (request : Bytes) : Bytes :=
  if r.config.isMidashiUtf8 then Euc.encoded r.tables request else request

lemma withEucBuffer_eq (r : DictionaryReader) (s : Session) (request : Bytes)
    (handle : Bytes → Result (Bytes × Session)) :
    r.withEucBuffer s request handle = handle (r.eucRequest request) := by
  rw [withEucBuffer, eucRequest]
  split
  · rw [Euc.encode_eq]
  · rfl

/-- UTF-8 is converted with the shipped table. -/
abbrev ConvertsAsShipped (r : DictionaryReader) : Prop :=
  r.config.isMidashiUtf8 = true → r.tables = EncodingTables.shippedTables

/-- A conversion leaves a request behind its command a request. -/
lemma eucRequest_cons {r : DictionaryReader} (htables : r.ConvertsAsShipped) {command : UInt8}
    (hcommand : command ≤ 0x7f) {rest : Bytes} (h : IsRequest (command :: rest)) :
    ∃ rest', r.eucRequest (command :: rest) = command :: rest' ∧ IsRequest (command :: rest') := by
  rw [eucRequest]
  split
  · rename_i hutf8
    rw [htables hutf8]
    have hnil : Euc.encoded EncodingTables.shippedTables [] = [] := translit_nil _
    have hhead : ∀ text, Euc.encoded EncodingTables.shippedTables (command :: text) =
        command :: Euc.encoded EncodingTables.shippedTables text := fun text => by
      have hcut := Euc.encoded_append_cons hcommand List.not_mem_nil text
      rwa [List.nil_append, hnil, List.nil_append] at hcut
    refine ⟨_, hhead rest, List.cons_ne_nil _ _, ?_⟩
    rw [← hhead]
    by_cases hspace : SP ∈ command :: rest
    · -- the space ends the request, and what is before it is converted on its own
      have hsplit := List.dropLast_append_getLast h.ne_nil
      have hfront := h.spaceEndsIt
      rw [SpaceEndsIt] at hfront
      have hlast : (command :: rest).getLast h.ne_nil = SP := by
        rw [← hsplit, List.mem_append, List.mem_singleton] at hspace
        exact (hspace.resolve_left hfront).symm
      rw [hlast] at hsplit
      rw [← hsplit, Euc.encoded_append_cons (by decide) hfront, hnil, SpaceEndsIt,
        List.dropLast_concat]
      exact Euc.not_mem_encoded Euc.isSeparator_space hfront
    · exact spaceEndsIt_of_not_mem (Euc.not_mem_encoded Euc.isSeparator_space hspace)
  · exact ⟨rest, rfl, h⟩

/-- The parts of a request that is long enough for a look-up. -/
lemma exists_midashi {command : UInt8} {rest : Bytes} (h : IsRequest (command :: rest))
    (hlength : PROTOCOL_MINIMUM_LENGTH ≤ (command :: rest).length) :
    ∃ midashi last, command :: rest = [command] ++ midashi ++ [last] ∧ midashi ≠ [] ∧
      SP ∉ midashi := by
  rw [PROTOCOL_MINIMUM_LENGTH, List.length_cons] at hlength
  have hne : rest ≠ [] := by
    rintro rfl
    simp at hlength
  have hsplit := List.dropLast_append_getLast hne
  refine ⟨rest.dropLast, rest.getLast hne, ?_, ?_, ?_⟩
  · rw [List.append_assoc, hsplit]
    rfl
  · intro hnil
    have hdrop := congrArg List.length hnil
    rw [List.length_dropLast, List.length_nil] at hdrop
    omega
  · have hspace := h.spaceEndsIt
    rw [SpaceEndsIt, List.dropLast_cons_of_ne_nil hne] at hspace
    exact fun hmem => hspace (List.mem_cons_of_mem _ hmem)

/-! ## The key of a request -/

/-- A request whose character is cut short: behind a lead byte of three bytes is only one byte. -/
def IsCutShort (request : Bytes) : Prop := ∃ command last, request = [command, 0x8f, last]

/-- The key of two bytes or more: there is one, or the first byte begins no character, or two bytes
are one too few. -/
lemma getDictionaryMidashiKey_cases {text : Bytes} (h : 2 ≤ text.length) :
    (∃ key, getDictionaryMidashiKey text = .ok key) ∨
      getDictionaryMidashiKey text = .error .encoding ∨
      (∃ last, text = [0x8f, last]) ∧ getDictionaryMidashiKey text = .panic := by
  obtain ⟨b₀, b₁, rest, rfl⟩ : ∃ b₀ b₁ rest, text = b₀ :: b₁ :: rest := by
    rcases text with _ | ⟨b₀, _ | ⟨b₁, rest⟩⟩
    · simp at h
    · simp at h
    · exact ⟨b₀, b₁, rest, rfl⟩
  by_cases hlead : Euc.IsLead2 b₀
  · exact .inl ⟨_, getDictionaryMidashiKey_two hlead rest⟩
  by_cases hascii : b₀ ≤ 0x7f
  · exact .inl ⟨_, getDictionaryMidashiKey_ascii hascii _⟩
  by_cases hthree : b₀ = 0x8f
  · subst hthree
    cases rest with
    | nil => exact .inr (.inr ⟨⟨b₁, rfl⟩, rfl⟩)
    | cons b₂ rest => exact .inl ⟨_, getDictionaryMidashiKey_three b₁ b₂ rest⟩
  · refine .inr (.inl ?_)
    rw [getDictionaryMidashiKey, index_cons_zero, Outcome.ok_bind, if_neg hlead, if_neg hascii,
      if_neg hthree]

section Key

variable (r : DictionaryReader) (world : GoogleWorld) (s : Session) (command : UInt8)
  {midashi : Bytes} {last : UInt8}

/-- Without a key nothing is looked up. -/
lemma readCandidates_of_key_error {e : SkkError}
    (h : getDictionaryMidashiKey (midashi ++ [last]) = .error e) :
    r.readCandidates world s ([command] ++ midashi ++ [last]) = (.error e, s) := by
  unfold readCandidates
  rw [getMidashi_append_last, Outcome.ok_bind, sliceFrom_append_last, Outcome.ok_bind, h]
  rfl

lemma readCandidates_of_key_panic (h : getDictionaryMidashiKey (midashi ++ [last]) = .panic) :
    r.readCandidates world s ([command] ++ midashi ++ [last]) = (.panic, s) := by
  unfold readCandidates
  rw [getMidashi_append_last, Outcome.ok_bind, sliceFrom_append_last, Outcome.ok_bind, h]
  rfl

lemma readAbbrev_of_key_error {e : SkkError}
    (h : getDictionaryMidashiKey (midashi ++ [last]) = .error e) :
    r.readAbbrev s ([command] ++ midashi ++ [last]) = (.error e, s) := by
  unfold readAbbrev
  rw [getMidashi_append_last, Outcome.ok_bind, sliceFrom_append_last, Outcome.ok_bind, h]
  rfl

lemma readAbbrev_of_key_panic (h : getDictionaryMidashiKey (midashi ++ [last]) = .panic) :
    r.readAbbrev s ([command] ++ midashi ++ [last]) = (.panic, s) := by
  unfold readAbbrev
  rw [getMidashi_append_last, Outcome.ok_bind, sliceFrom_append_last, Outcome.ok_bind, h]
  rfl

end Key

/-! ## Completion -/

/-- Completions that are offered, out of all completions of a prefix: some of them, in their order
and no more than are asked for.  Where nothing comes between they are the first ones.  Elsewhere a
prefix with a key gets none, or the first of those that are not taken for okuri-ari. -/
structure IsCompletionList (r : DictionaryReader) (midashi : Bytes) (all words : List Bytes) :
    Prop where
  sublist : words.Sublist all
  length_le : words.length ≤ r.config.maxServerCompletions
  eq_take : CompletesAll r midashi all → words = all.take r.config.maxServerCompletions
  eq_nil_or : ∀ key, getDictionaryMidashiKey midashi = .ok key → words = [] ∨
    words = (all.filter fun word => isOkuriAri word = false).take r.config.maxServerCompletions

lemma isEmptyCandidates_cons {b : UInt8} {text : Bytes} :
    isEmptyCandidates (b :: text) ↔ text = [] := by
  simp [isEmptyCandidates]

lemma isEmptyCandidates_abbrevReply {t : EncodingTables} {encoding : Encoding}
    {words : List Bytes} : isEmptyCandidates (abbrevReply t encoding words) ↔ words = [] := by
  have hcons : ∃ text, abbrevReply t encoding words = 0x31 :: text := by
    unfold abbrevReply
    split
    · exact ⟨[], rfl⟩
    · split
      · exact ⟨_, congrArg (· ++ [SLASH]) (Euc.decoded_ascii t (by decide) (quoted words))⟩
      · exact ⟨_, rfl⟩
  obtain ⟨text, htext⟩ := hcons
  have hiff : abbrevReply t encoding words = [0x31] ↔ words = [] := abbrevReply_eq_iff
  rw [← hiff, htext, isEmptyCandidates_cons, List.cons_eq_cons]
  simp

section Loaded

variable {m : JisyoEntriesMap} (hm : IsJisyoEntries m) {file : Bytes} {r : DictionaryReader}
  (hloaded : IsLoaded m file r.onMemory) {encoding : Encoding}
  (hencoding : r.onMemory.dictionaryFixedHeader.encoding = encoding.toU32)
  (hmax : 1 ≤ r.config.maxServerCompletions) {s : Session} (hs : s.dictionaryFile.Holds file)
  {midashi : Bytes} (hspace : SP ∉ midashi) (hne : midashi ≠ [])

include hm hloaded hencoding hmax hs hspace hne

/-- **The reply to a request for completions**, whatever byte ends it. -/
theorem readAbbrev_isCompletionList {last : UInt8} {key : DictionaryMidashiKey}
    (hkey : getDictionaryMidashiKey (midashi ++ [last]) = .ok key) :
    ∃ f words, f.Holds file ∧ IsCompletionList r midashi (completionsOf midashi m.keys) words ∧
      r.readAbbrev s ([0x34] ++ midashi ++ [last]) =
        (.ok (abbrevReply r.tables encoding words), { s with dictionaryFile := f }) := by
  obtain ⟨f, found, hf, hread, hsublist, hlength, htaken, hmissed⟩ := readAbbrev_collects hm
    hloaded hencoding hmax hs hspace hne hkey
  refine ⟨f, found, hf, ⟨hsublist.trans ?_, hlength, fun hall => ?_, fun key' hkey' => ?_⟩, hread⟩
  · rw [collectedOf_eq_filter]
    exact List.filter_sublist
  · obtain ⟨hhides, htake⟩ := (completesAll_iff hmax).mp hall
    rw [htaken hhides, htake]
  · obtain rfl : key' = key := by
      rw [getDictionaryMidashiKey_append hkey', Outcome.ok.injEq] at hkey
      exact hkey
    rw [← collectedOf_eq_filter]
    by_cases hhides : NoUnitHides r midashi (collectedOf midashi m.keys)
    · exact .inr (htaken hhides)
    · exact .inl (hmissed hkey' hhides).1

end Loaded

/-! ## `handle_client` -/

/-- The requests that are answered: `0` closes the connection. -/
def answered (requests : List Bytes) : List Bytes :=
  requests.filter fun request => request.head? ≠ some 0x30

lemma answered_append (requests requests' : List Bytes) :
    answered (requests ++ requests') = answered requests ++ answered requests' :=
  List.filter_append ..

/-- A request that is refused: it is too short or too long, or its first byte begins no
character. -/
def Refuses (request : Bytes) : Prop :=
  ¬ validateBufferForProtocol1And4 request ∨
    getDictionaryMidashiKey (request.drop 1) = .error .encoding

section Handle

variable {r : DictionaryReader} {world : GoogleWorld} {s s' : Session} {request rest reply : Bytes}

/-- What has a key is not refused, if it is neither too short nor too long. -/
lemma not_refuses {command : UInt8} {midashi : Bytes} {last : UInt8} {key : DictionaryMidashiKey}
    (hvalid : validateBufferForProtocol1And4 ([command] ++ midashi ++ [last]))
    (hkey : getDictionaryMidashiKey (midashi ++ [last]) = .ok key) :
    ¬ Refuses ([command] ++ midashi ++ [last]) := by
  rintro (hrefused | hnone)
  · exact hrefused hvalid
  · have hdrop : ([command] ++ midashi ++ [last]).drop 1 = midashi ++ [last] := rfl
    rw [hdrop, hkey] at hnone
    simp at hnone

lemma two_le_length_append_last {midashi : Bytes} (hne : midashi ≠ []) (last : UInt8) :
    2 ≤ (midashi ++ [last]).length := by
  have hpos := List.length_pos_iff.mpr hne
  rw [List.length_append, List.length_singleton]
  omega

/-- A look-up is refused, or it is not, and has a key, and is answered from what `read_candidates`
returns. -/
lemma handleClientProtocol1_cases (hrest : IsRequest (0x31 :: rest))
    (h : r.handleClientProtocol1 world s (0x31 :: rest) = .ok (reply, s')) :
    (Refuses (0x31 :: rest) ∧ reply = PROTOCOL_RESULT_ERROR ∧ s' = s) ∨
      ∃ midashi last key, 0x31 :: rest = [0x31] ++ midashi ++ [last] ∧
        ¬ Refuses ([0x31] ++ midashi ++ [last]) ∧ SP ∉ midashi ∧
        getDictionaryMidashiKey (midashi ++ [last]) = .ok key ∧
        replyTo (r.readCandidates world s ([0x31] ++ midashi ++ [last]))
          ([0x34] ++ midashi ++ [last]) = .ok (reply, s') := by
  rw [handleClientProtocol1] at h
  split at h
  · rename_i hrefused
    obtain ⟨rfl, rfl⟩ := Prod.mk.inj (Outcome.ok.inj h)
    exact .inl ⟨.inl hrefused, rfl, rfl⟩
  · rename_i hvalid
    obtain ⟨midashi, last, hsplit, hne, hspace⟩ := exists_midashi hrest (not_not.mp hvalid).1
    rw [hsplit] at h
    rcases getDictionaryMidashiKey_cases (two_le_length_append_last hne last) with
      ⟨key, hkey⟩ | hkey | ⟨-, hkey⟩
    · exact .inr ⟨midashi, last, key, hsplit, not_refuses (hsplit ▸ not_not.mp hvalid) hkey, hspace,
        hkey, h⟩
    · rw [readCandidates_of_key_error r world s 0x31 hkey, replyTo] at h
      obtain ⟨rfl, rfl⟩ := Prod.mk.inj (Outcome.ok.inj h)
      refine .inl ⟨.inr ?_, rfl, rfl⟩
      rw [hsplit]
      exact hkey
    · rw [readCandidates_of_key_panic r world s 0x31 hkey, replyTo] at h
      simp at h

/-- A request for completions likewise. -/
lemma handleClientProtocol4_cases (hrest : IsRequest (0x34 :: rest))
    (h : r.handleClientProtocol4 s (0x34 :: rest) = .ok (reply, s')) :
    (Refuses (0x34 :: rest) ∧ reply = PROTOCOL_RESULT_ERROR ∧ s' = s) ∨
      ∃ midashi last key, 0x34 :: rest = [0x34] ++ midashi ++ [last] ∧
        ¬ Refuses ([0x34] ++ midashi ++ [last]) ∧ midashi ≠ [] ∧ SP ∉ midashi ∧
        getDictionaryMidashiKey (midashi ++ [last]) = .ok key ∧
        replyTo (r.readAbbrev s ([0x34] ++ midashi ++ [last]))
          ([0x34] ++ midashi ++ [last]) = .ok (reply, s') := by
  rw [handleClientProtocol4] at h
  split at h
  · rename_i hrefused
    obtain ⟨rfl, rfl⟩ := Prod.mk.inj (Outcome.ok.inj h)
    exact .inl ⟨.inl hrefused, rfl, rfl⟩
  · rename_i hvalid
    obtain ⟨midashi, last, hsplit, hne, hspace⟩ := exists_midashi hrest (not_not.mp hvalid).1
    rw [hsplit] at h
    rcases getDictionaryMidashiKey_cases (two_le_length_append_last hne last) with
      ⟨key, hkey⟩ | hkey | ⟨-, hkey⟩
    · exact .inr ⟨midashi, last, key, hsplit, not_refuses (hsplit ▸ not_not.mp hvalid) hkey, hne,
        hspace, hkey, h⟩
    · rw [readAbbrev_of_key_error r s 0x34 hkey, replyTo] at h
      obtain ⟨rfl, rfl⟩ := Prod.mk.inj (Outcome.ok.inj h)
      refine .inl ⟨.inr ?_, rfl, rfl⟩
      rw [hsplit]
      exact hkey
    · rw [readAbbrev_of_key_panic r s 0x34 hkey, replyTo] at h
      simp at h

/-- **The rule of `handle_client`**: something of the session is kept and the request is answered as
it should be, where that is so of a look-up, of a request for completions and of the other
commands. -/
theorem handleClient_forall₂ (keeps : Session → Prop) (promised : Bytes → Bytes → Prop)
    (htables : r.ConvertsAsShipped) (hrequest : IsRequest request) (hs : keeps s)
    (hone : ∀ rest reply, request.head? = some 0x31 → r.eucRequest request = 0x31 :: rest →
      IsRequest (0x31 :: rest) →
      r.handleClientProtocol1 world s (0x31 :: rest) = .ok (reply, s') →
      keeps s' ∧ promised request reply)
    (hfour : ∀ rest reply, request.head? = some 0x34 → r.eucRequest request = 0x34 :: rest →
      IsRequest (0x34 :: rest) → r.handleClientProtocol4 s (0x34 :: rest) = .ok (reply, s') →
      keeps s' ∧ promised request reply)
    (hplain : ∀ command, request.head? = some command →
      command ≠ 0x30 ∧ command ≠ 0x31 ∧ command ≠ 0x34 → promised request (r.plainReply command))
    {handled : HandleClientResult} {replies : List Bytes}
    (h : r.handleClient world s request = .ok (handled, replies, s')) :
    keeps s' ∧ List.Forall₂ promised (answered [request]) replies := by
  obtain ⟨command, hcommand, hways⟩ := handleClient_eq_ok.mp h
  obtain ⟨rest, hrest⟩ : ∃ rest, request = command :: rest := by
    cases request with
    | nil => simp at hcommand
    | cons b rest =>
      rw [List.head?_cons, Option.some.injEq] at hcommand
      exact ⟨rest, by rw [hcommand]⟩
  have hanswered : command ≠ 0x30 → answered [request] = [request] := by
    intro hne
    refine List.filter_eq_self.mpr fun q hq => decide_eq_true ?_
    rw [List.mem_singleton.mp hq, hcommand]
    simpa using hne
  rcases hways with ⟨rfl, -, rfl, rfl⟩ | ⟨rfl, -, ⟨reply, rfl, hrun⟩⟩ |
    ⟨rfl, -, ⟨reply, rfl, hrun⟩⟩ | ⟨hother, -, rfl, rfl⟩
  · have hnone : answered [request] = [] := by
      refine List.filter_eq_nil_iff.mpr fun q hq => ?_
      rw [List.mem_singleton.mp hq, hcommand]
      simp
    rw [hnone]
    exact ⟨hs, .nil⟩
  · obtain ⟨rest', heuc, hrest'⟩ := eucRequest_cons htables (by decide) (hrest ▸ hrequest)
    rw [← hrest] at heuc
    rw [withEucBuffer_eq, heuc] at hrun
    rw [hanswered (by decide)]
    exact (hone rest' reply hcommand heuc hrest' hrun).imp_right fun hreply => .cons hreply .nil
  · obtain ⟨rest', heuc, hrest'⟩ := eucRequest_cons htables (by decide) (hrest ▸ hrequest)
    rw [← hrest] at heuc
    rw [withEucBuffer_eq, heuc] at hrun
    rw [hanswered (by decide)]
    exact (hfour rest' reply hcommand heuc hrest' hrun).imp_right fun hreply => .cons hreply .nil
  · rw [hanswered hother.1]
    exact ⟨hs, .cons (hplain command hcommand hother) .nil⟩

end Handle

end DictionaryReader

/-! ## Runs -/

open DictionaryReader

/-- What a run keeps: something of the session, and that every reply is what it should be for its
request. -/
structure System.IsKeeping (keeps : Session → Prop) (promised : Bytes → Bytes → Prop)
    (s : System) : Prop where
  buffer_eq : s.state.buffer = []
  session : keeps s.state.session
  replies : ∀ i, List.Forall₂ promised (answered (s.traces i).handed) (s.traces i).replies

section Run

variable {r : DictionaryReader} {worlds : GoogleWorld → Prop} {keeps : Session → Prop}
  {promised : Bytes → Bytes → Prop}

/-- The connections that a step does not touch have what they had. -/
lemma System.IsKeeping.update {s : System} (h : s.IsKeeping keeps promised) (i : ℕ)
    {state : LoopState} {trace : Trace} (hbuffer : state.buffer = []) (hkeeps : keeps state.session)
    (hreplies : List.Forall₂ promised (answered trace.handed) trace.replies)
    (queue : List TcpStream) (ready : Finset Event) (batch : List Event) :
    (⟨state, queue, ready, batch, Function.update s.traces i trace⟩ : System).IsKeeping keeps
      promised := by
  refine ⟨hbuffer, hkeeps, fun j => ?_⟩
  dsimp only
  by_cases hij : j = i
  · subst hij
    rw [Function.update_self]
    exact hreplies
  · rw [Function.update_of_ne hij]
    exact h.replies j

variable (handles : ∀ {world : GoogleWorld} {session session' : Session} {request : Bytes}
  {handled : HandleClientResult} {replies : List Bytes}, keeps session → IsRequest request →
    worlds world → r.handleClient world session request = .ok (handled, replies, session') →
    keeps session' ∧ List.Forall₂ promised (answered [request]) replies)

include handles

theorem System.IsKeeping.step {s s' : System} (hslotted : s.IsSlotted r.config.maxConnections)
    (h : s.IsKeeping keeps promised) (hstep : s.Step r s') (hworld : System.handlesIn worlds s s') :
    s'.IsKeeping keeps promised := by
  have hbuffer := hslotted.buffer_eq_nil h.buffer_eq hstep
  cases hstep with
  | connect | arriveQueued | poll => exact ⟨h.buffer_eq, h.session, h.replies⟩
  | arrive i reader bytes readLengths readEnd occupied _ =>
    refine h.update i hbuffer h.session ?_ _ _ _
    rw [Trace.push, List.append_nil, List.append_nil]
    exact h.replies i
  | @accept stream queue rest state batch waiting run =>
    obtain ⟨next, -, -, rfl⟩ := hslotted.table.accept_cases run
    exact h.update _ hbuffer h.session .nil _ _ _
  | @refuse stream queue rest state batch waiting run =>
    obtain ⟨-, rfl⟩ := hslotted.table.refuse_cases run
    exact ⟨h.buffer_eq, h.session, h.replies⟩
  | @drained rest state batch waiting run =>
    obtain rfl := drained_cases run
    exact ⟨h.buffer_eq, h.session, h.replies⟩
  | @token world i reader rest reading reader₁ buffer₁ replies state batch occupied read run =>
    have hworlds : worlds world := hworld i world (by
      dsimp only
      rw [Function.update_self]
      rfl)
    obtain ⟨-, handled, reader₂, buffer₂, session₂, hrun, hstate⟩ := runLoopToken_cases occupied run
    have hsession : state.session = session₂ := by
      rcases hstate with ⟨-, rfl⟩ | ⟨-, -, rfl⟩ <;> rfl
    rw [h.buffer_eq] at read hrun
    obtain ⟨-, ⟨request, rfl, hhandle⟩ | ⟨⟨isShutdown, rfl⟩, rfl, rfl⟩⟩ :=
      readUntilSkkServer_cases read hrun
    · obtain ⟨hkeeps, hreplies⟩ :=
        handles h.session (isRequest_of_readRequest read) hworlds hhandle
      refine h.update i hbuffer (hsession ▸ hkeeps) ?_ _ _ _
      rw [Trace.push, answered_append]
      exact List.rel_append (h.replies i) hreplies
    · refine h.update i hbuffer (hsession ▸ h.session) ?_ _ _ _
      rw [Trace.push, Reading.requests, List.append_nil, List.append_nil]
      exact h.replies i

variable (worlds keeps) in
/-- **What every request keeps, every run keeps**: where `handle_client` keeps something of the
session and answers each request as it should, each connection has in every state one reply for each
of its requests but `0`, in their order. -/
theorem System.Reaches.forall₂_replies {meets : System → System → Prop} {session : Session}
    {s : System} (h : System.Reaches r meets (.start r.config.maxConnections session) s)
    (hmeets : ∀ s s', meets s s' → System.handlesIn worlds s s') (hsession : keeps session) :
    keeps s.state.session ∧
      ∀ i, List.Forall₂ promised (answered (s.traces i).handed) (s.traces i).replies := by
  have hinvariant := h.invariant
    (fun s => s.IsSlotted r.config.maxConnections ∧ s.IsKeeping keeps promised)
    ⟨System.isSlotted_start _ _, rfl, hsession, fun _ => .nil⟩
    fun s s' hs hstep hcond => ⟨hs.1.step hstep,
      hs.2.step handles hs.1 hstep (hmeets s s' hcond)⟩
  exact ⟨hinvariant.2.session, hinvariant.2.replies⟩

end Run

end Yaskkserv2
