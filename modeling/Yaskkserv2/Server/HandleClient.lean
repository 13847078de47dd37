import Yaskkserv2.Server.DictionaryReader

/-!
# `Server::handle_client`

`src/skk/yaskkserv2/server.rs`: one request, and what is written back.  A request buffer that
reaches this place is not empty.

An error in writing to the client is ignored, so a reply is what the program hands to `write_all`.
Logging is left out.
-/

namespace Yaskkserv2

open Framework

def PKG_VERSION : Bytes := ascii "0.1.7"

inductive HandleClientResult where
  | Continue
  | Exit
  deriving DecidableEq, Repr

namespace DictionaryReader

/-- `Server::validate_buffer_for_protocol_1_and_4`. -/
def validateBufferForProtocol1And4 (buffer : Bytes) : Prop :=
  PROTOCOL_MINIMUM_LENGTH ≤ buffer.length ∧ buffer.length ≤ PROTOCOL_MAXIMUM_LENGTH

instance (buffer : Bytes) : Decidable (validateBufferForProtocol1And4 buffer) :=
  inferInstanceAs (Decidable (_ ∧ _))

/-- What is written where nothing was found: the request, and an LF where it does not end in a line
ending. -/
def echo (buffer : Bytes) : Bytes :=
  match buffer.getLast? with
  | some last => if last = LF ∨ last = CR then buffer else buffer ++ [LF]
  | none => PROTOCOL_RESULT_ERROR

/-- The reply of `Server::handle_client_protocol_1` and `Server::handle_client_protocol_4` to what
the dictionary returned: they differ in the buffer that is echoed. -/
def replyTo (read : Result Bytes × Session) (echoed : Bytes) : Result (Bytes × Session) :=
  match read with
  | (.ok candidates, s) =>
    .ok (if isEmptyCandidates candidates then echo echoed else candidates ++ [LF], s)
  | (.error _, s) => .ok (PROTOCOL_RESULT_ERROR, s)
  | (.panic, _) => .panic
  | (.diverge, _) => .diverge

/-- `Server::handle_client_protocol_1`. -/
def handleClientProtocol1 (r : DictionaryReader) (world : GoogleWorld) (s : Session)
    (buffer : Bytes) : Result (Bytes × Session) :=
  if ¬ validateBufferForProtocol1And4 buffer then .ok (PROTOCOL_RESULT_ERROR, s)
  else replyTo (r.readCandidates world s buffer) (buffer.set 0 0x34)

/-- `Server::handle_client_protocol_4`. -/
def handleClientProtocol4 (r : DictionaryReader) (s : Session) (buffer : Bytes) :
    Result (Bytes × Session) :=
  if ¬ validateBufferForProtocol1And4 buffer then .ok (PROTOCOL_RESULT_ERROR, s)
  else replyTo (r.readAbbrev s buffer) buffer

/-- The midashi of a request, converted where clients send UTF-8.  An error of the conversion is
answered with a protocol error. -/
def withEucBuffer (r : DictionaryReader) (s : Session) (buffer : Bytes)
    (handle : Bytes → Result (Bytes × Session)) : Result (Bytes × Session) :=
  if r.config.isMidashiUtf8 then
    match Euc.encode r.tables buffer with
    | .ok utf8ToEucBuffer => handle utf8ToEucBuffer
    | .error _ => .ok (PROTOCOL_RESULT_ERROR, s)
    | .panic => .panic
    | .diverge => .diverge
  else handle buffer

/-- `Server::handle_client`: the replies it writes, in their order. -/
def handleClient (r : DictionaryReader) (world : GoogleWorld) (s : Session) (buffer : Bytes) :
    Result (HandleClientResult × List Bytes × Session) := do
  let command ← index buffer 0
  if command = 0x30 then return (.Exit, [], s)
  else if command = 0x31 then
    let (reply, s) ← r.withEucBuffer s buffer (r.handleClientProtocol1 world s)
    return (.Continue, [reply], s)
  else if command = 0x32 then return (.Continue, [PKG_VERSION ++ [SP]], s)
  else if command = 0x33 then
    return (.Continue, [r.config.hostnameAndIpAddressForProtocol3 ++ [SP]], s)
  else if command = 0x34 then
    let (reply, s) ← r.withEucBuffer s buffer (r.handleClientProtocol4 s)
    return (.Continue, [reply], s)
  else return (.Continue, [PROTOCOL_RESULT_ERROR], s)

/-! ## What a request leads to -/

/-- The reply to a command that is not looked up. -/
def plainReply (r : DictionaryReader) (command : UInt8) : Bytes :=
  if command = 0x32 then PKG_VERSION ++ [SP]
  else if command = 0x33 then r.config.hostnameAndIpAddressForProtocol3 ++ [SP]
  else PROTOCOL_RESULT_ERROR

/-- The four ways through `handle_client`: the first byte tells them apart. -/
lemma handleClient_eq_ok {r : DictionaryReader} {world : GoogleWorld} {s s' : Session}
    {request : Bytes} {handled : HandleClientResult} {replies : List Bytes} :
    r.handleClient world s request = .ok (handled, replies, s') ↔
      ∃ command, request.head? = some command ∧
        (command = 0x30 ∧ handled = .Exit ∧ replies = [] ∧ s' = s ∨
          command = 0x31 ∧ handled = .Continue ∧ (∃ reply, replies = [reply] ∧
            r.withEucBuffer s request (r.handleClientProtocol1 world s) = .ok (reply, s')) ∨
          command = 0x34 ∧ handled = .Continue ∧ (∃ reply, replies = [reply] ∧
            r.withEucBuffer s request (r.handleClientProtocol4 s) = .ok (reply, s')) ∨
          (command ≠ 0x30 ∧ command ≠ 0x31 ∧ command ≠ 0x34) ∧ handled = .Continue ∧
            replies = [r.plainReply command] ∧ s' = s) := by
  cases request with
  | nil => simp [handleClient, index]
  | cons command rest =>
    rw [handleClient, index_cons_zero, Outcome.ok_bind]
    simp only [List.head?_cons, Option.some.injEq, exists_eq_left']
    by_cases hzero : command = 0x30
    · subst hzero
      simp [eq_comm]
    rw [if_neg hzero]
    by_cases hone : command = 0x31
    · subst hone
      rw [if_pos rfl, Outcome.bind_eq_ok]
      simp [eq_comm, and_left_comm]
    rw [if_neg hone]
    by_cases hfour : command = 0x34
    · subst hfour
      rw [if_neg (by decide), if_neg (by decide), if_pos rfl, Outcome.bind_eq_ok]
      simp [eq_comm, and_left_comm]
    simp only [hzero, hone, hfour, if_false, false_and, false_or, ne_eq, not_false_eq_true,
      and_self, true_and, plainReply]
    split
    · simp [eq_comm]
    · split <;> simp [eq_comm]

end DictionaryReader

end Yaskkserv2
