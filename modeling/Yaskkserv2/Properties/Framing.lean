import Yaskkserv2.Properties.ConnectionTable
import Yaskkserv2.Properties.Reading

/-!
# Framing

A client's byte stream is a sequence of requests: the one-byte commands `0`, `2` and `3`, and texts
that end at a space, with line endings between them (`requests`).  The server reads it fill by fill,
and a fill is where the kernel cut the stream, so the question is whether the requests it hands on
depend on the cuts.

They do not where every event finds the connection *framed*: what it holds begins with one request,
complete, behind two line endings at most, that no cut and no later space makes look like another.
`System.handed_eq_requests` says so for every run.
-/

namespace Yaskkserv2

open Framework DictionaryReader

/-! ## The requests of a stream -/

/-- A command of one character. -/
abbrev IsCommand (b : UInt8) : Prop := b = 0x30 ∨ b = 0x32 ∨ b = 0x33

/-- The requests of a stream of which the begin of a request was read already.  The connection ends
at the command `0`. -/
def requestsFrom (begun : Bytes) : Bytes → List Bytes
  | [] => []
  | b :: rest =>
    if begun = [] ∧ IsLineEnding b then requestsFrom [] rest
    else if begun = [] ∧ b = 0x30 then [[b]]
    else if begun = [] ∧ IsCommand b then [b] :: requestsFrom [] rest
    else if b = SP then (begun ++ [b]) :: requestsFrom [] rest
    else requestsFrom (begun ++ [b]) rest

/-- The complete requests of a stream. -/
def requests (stream : Bytes) : List Bytes := requestsFrom [] stream

@[simp] lemma requests_nil : requests [] = [] := rfl

lemma requests_lineEndings_append {lineEndings : Bytes} (h : ∀ b ∈ lineEndings, IsLineEnding b)
    (rest : Bytes) : requests (lineEndings ++ rest) = requests rest := by
  induction lineEndings with
  | nil => rfl
  | cons b lineEndings ih =>
    have hb := h b List.mem_cons_self
    rw [List.cons_append, requests, requestsFrom, if_pos ⟨rfl, hb⟩]
    exact ih fun c hc => h c (List.mem_cons_of_mem b hc)

lemma not_isLineEnding_of_isCommand {b : UInt8} (h : IsCommand b) : ¬ IsLineEnding b := by
  rcases h with rfl | rfl | rfl <;> decide

lemma requests_command {c : UInt8} (hc : IsCommand c) (rest : Bytes) :
    requests (c :: rest) = [c] :: if c = 0x30 then [] else requests rest := by
  have hne : ¬ (([] : Bytes) = [] ∧ IsLineEnding c) :=
    fun h => not_isLineEnding_of_isCommand hc h.2
  rw [requests, requestsFrom, if_neg hne]
  by_cases hzero : c = 0x30
  · rw [if_pos ⟨rfl, hzero⟩, if_pos hzero]
  · rw [if_neg (fun h => hzero h.2), if_pos ⟨rfl, hc⟩, if_neg hzero]
    rfl

/-- A text that ends at the next space, as it was begun. -/
lemma requestsFrom_text {begun : Bytes} (hbegun : begun ≠ []) {text : Bytes} (htext : SP ∉ text)
    (rest : Bytes) : requestsFrom begun (text ++ SP :: rest) =
      (begun ++ text ++ [SP]) :: requests rest := by
  induction text generalizing begun with
  | nil =>
    rw [List.nil_append, requestsFrom, if_neg (fun h => hbegun h.1), if_neg (fun h => hbegun h.1),
      if_neg (fun h => hbegun h.1), if_pos rfl, List.append_nil]
    rfl
  | cons b text ih =>
    rw [List.mem_cons, not_or] at htext
    rw [List.cons_append, requestsFrom, if_neg (fun h => hbegun h.1), if_neg (fun h => hbegun h.1),
      if_neg (fun h => hbegun h.1), if_neg (Ne.symm htext.1), ih (by simp) htext.2,
      List.append_assoc begun, List.singleton_append]

/-- What a request that ends at a space has before it. -/
structure IsRequestText (text : Bytes) : Prop where
  space_not_mem : SP ∉ text
  head : ∀ b ∈ text.head?, ¬ IsLineEnding b ∧ ¬ IsCommand b

lemma requests_text {text : Bytes} (h : IsRequestText text) (rest : Bytes) :
    requests (text ++ SP :: rest) = (text ++ [SP]) :: requests rest := by
  have hspace : ¬ IsLineEnding SP ∧ ¬ IsCommand SP := by decide
  cases text with
  | nil =>
    rw [List.nil_append, requests, requestsFrom, if_neg (fun h => hspace.1 h.2),
      if_neg (fun h => absurd h.2 (by decide)), if_neg (fun h => hspace.2 h.2), if_pos rfl]
    rfl
  | cons b text =>
    obtain ⟨hline, hcommand⟩ := h.head b rfl
    have hnot := h.space_not_mem
    rw [List.mem_cons, not_or] at hnot
    rw [List.cons_append, requests, requestsFrom, if_neg (fun h => hline h.2),
      if_neg (fun h => hcommand (Or.inl h.2)), if_neg (fun h => hcommand h.2),
      if_neg (Ne.symm hnot.1), List.nil_append, requestsFrom_text (by simp) hnot.2]
    rfl

/-! ## Framed fills -/

/-- **What an event finds at a connection is framed.**  The fills hold nothing but line endings; or
one command, and no space in the rest of its fill; or one text up to its space, and no fill before
that one begins with a command. -/
inductive IsFramed (fills : List Bytes) (readEnd : ReadEnd) : Prop
  | lineEndings (all : ∀ b ∈ fills.flatten, IsLineEnding b)
      (few : readEnd = .Eof → fills.flatten.length ≤ 2)
  | command {before behind : List Bytes} {front rest : Bytes} {c : UInt8}
      (cut : fills = before ++ (front ++ c :: rest) :: behind)
      (lineEndings : ∀ b ∈ before.flatten ++ front, IsLineEnding b)
      (few : (before.flatten ++ front).length ≤ 2) (isCommand : IsCommand c)
      (space_not_mem : SP ∉ rest)
  | text {before behind : List Bytes} {front rest lineEndings text : Bytes}
      (cut : fills = before ++ (front ++ SP :: rest) :: behind)
      (begins : before.flatten ++ front = lineEndings ++ text)
      (all : ∀ b ∈ lineEndings, IsLineEnding b) (few : lineEndings.length ≤ 2)
      (isText : IsRequestText text)
      (no_command : ∀ fill ∈ before, findOneCharacterProtocol fill = none)

/-- A fill without space and without a command at its head is taken as a whole. -/
lemma takeAvailable_of_none {fill : Bytes} (hspace : SP ∉ fill)
    (hcommand : findOneCharacterProtocol fill = none) : takeAvailable fill = (fill, false) := by
  rw [takeAvailable, find_singleton_eq_none hspace]
  dsimp only
  rw [hcommand]

/-- A fill with a space is taken up to its first space. -/
lemma takeAvailable_of_space {front rest : Bytes} (h : SP ∉ front) :
    takeAvailable (front ++ SP :: rest) = (front ++ [SP], true) := by
  rw [takeAvailable, find_singleton h]
  dsimp only
  rw [List.take_append, List.take_of_length_le (by omega)]
  simp

lemma findOneCharacterProtocol_lineEndings {fill : Bytes} (h : ∀ b ∈ fill, IsLineEnding b) :
    findOneCharacterProtocol fill = none := by
  induction fill with
  | nil => rfl
  | cons b fill ih =>
    have hb := h b List.mem_cons_self
    have hcommand : ¬ (b = 0x30 ∨ b = 0x32 ∨ b = 0x33) :=
      fun hc => not_isLineEnding_of_isCommand hc hb
    have hline : ¬ (b ≠ LF ∧ b ≠ CR) := by
      rintro ⟨hlf, hcr⟩
      exact hb.elim hlf hcr
    rw [findOneCharacterProtocol, if_neg hcommand, if_neg hline,
      ih fun c hc => h c (List.mem_cons_of_mem b hc)]
    rfl

lemma findOneCharacterProtocol_command {front rest : Bytes} {c : UInt8}
    (h : ∀ b ∈ front, IsLineEnding b) (hc : IsCommand c) :
    findOneCharacterProtocol (front ++ c :: rest) = some front.length := by
  induction front with
  | nil => exact if_pos hc
  | cons b front ih =>
    have hb := h b List.mem_cons_self
    have hcommand : ¬ (b = 0x30 ∨ b = 0x32 ∨ b = 0x33) :=
      fun hc => not_isLineEnding_of_isCommand hc hb
    have hline : ¬ (b ≠ LF ∧ b ≠ CR) := by
      rintro ⟨hlf, hcr⟩
      exact hb.elim hlf hcr
    rw [List.cons_append, findOneCharacterProtocol, if_neg hcommand, if_neg hline,
      ih fun c hc => h c (List.mem_cons_of_mem b hc)]
    rfl

lemma space_not_mem_of_lineEndings {bytes : Bytes} (h : ∀ b ∈ bytes, IsLineEnding b) :
    SP ∉ bytes := fun hmem => absurd (h SP hmem) (by decide)

/-- A fill with a command at its head, and no space behind it, is taken up to the command. -/
lemma takeAvailable_of_command {front rest : Bytes} {c : UInt8}
    (h : ∀ b ∈ front, IsLineEnding b) (hc : IsCommand c) (hspace : SP ∉ rest) :
    takeAvailable (front ++ c :: rest) = (front ++ [c], true) := by
  have hne : SP ≠ c := by
    rintro rfl
    exact absurd hc (by decide)
  have hnone : SP ∉ front ++ c :: rest := by
    simp [space_not_mem_of_lineEndings h, hne, hspace]
  rw [takeAvailable, find_singleton_eq_none hnone]
  dsimp only
  rw [findOneCharacterProtocol_command h hc]
  dsimp only
  rw [List.take_append, List.take_of_length_le (by omega)]
  simp

/-- Fills in which no request ends are taken as a whole. -/
lemma takeFills_append {before : List Bytes} (h : ∀ fill ∈ before, SP ∉ fill ∧
    findOneCharacterProtocol fill = none) (fills : List Bytes) :
    takeFills (before ++ fills) =
      (before.flatten ++ (takeFills fills).1, (takeFills fills).2) := by
  induction before with
  | nil => rfl
  | cons fill before ih =>
    obtain ⟨hspace, hcommand⟩ := h fill List.mem_cons_self
    rw [List.cons_append, takeFills, takeAvailable_of_none hspace hcommand,
      ih fun g hg => h g (List.mem_cons_of_mem fill hg)]
    simp

/-- Where a request ends in a fill, the fills behind it are not read. -/
lemma takeFills_of_done {fill taken : Bytes} (h : takeAvailable fill = (taken, true))
    (fills : List Bytes) : takeFills (fill :: fills) = (taken, true) := by
  rw [takeFills, h]
  rfl

/-! ## A framed event -/

/-- The line endings in front of a request are skipped. -/
lemma skipCount_append {lineEndings request : Bytes} (h : ∀ b ∈ lineEndings, IsLineEnding b)
    (hfew : lineEndings.length ≤ 2) (hrequest : ∀ b ∈ request.head?, ¬ IsLineEnding b) :
    skipCount (lineEndings ++ request) = lineEndings.length := by
  rw [skipCount, List.take_append, List.take_of_length_le hfew,
    List.takeWhile_append_of_pos fun b hb => decide_eq_true (h b hb)]
  cases request with
  | nil => simp
  | cons b request =>
    have hb := hrequest b rfl
    cases 2 - lineEndings.length with
    | zero => simp
    | succ n =>
      rw [List.take_succ_cons, List.takeWhile_cons, if_neg (by simpa using hb), List.append_nil]

lemma readingOfTaken_request {lineEndings request : Bytes} (h : ∀ b ∈ lineEndings, IsLineEnding b)
    (hfew : lineEndings.length ≤ 2) (hrequest : ∀ b ∈ request.head?, ¬ IsLineEnding b)
    (hne : request ≠ []) (readEnd : ReadEnd) :
    readingOfTaken (lineEndings ++ request) true readEnd = .request request := by
  rw [readingOfTaken, if_pos (Or.inl rfl), skipCount_append h hfew hrequest, List.drop_left,
    if_neg hne]

/-- **A framed event hands on the first request** of what the connection holds, if there is one, and
leaves what is behind it. -/
theorem IsFramed.readRequest {reader : BufReader}
    (h : IsFramed reader.fills reader.stream.readEnd) :
    ∃ reading reader' buffer', readRequest reader [] = .ok (reading, reader', buffer') ∧
      ((reading.requests = [] ∧ reader'.held = [] ∧
          ∀ tail, requests (reader.held ++ tail) = requests tail) ∨
        ∃ request, reading = .request request ∧ (request.head? = some 0x30 ↔ request = [0x30]) ∧
          ∀ tail, requests (reader.held ++ tail) =
            request :: if request = [0x30] then [] else requests (reader'.held ++ tail)) := by
  obtain ⟨reader', hread, hheld, hnil, -⟩ := readRequest_eq reader
  refine ⟨_, reader', _, hread, ?_⟩
  cases h with
  | lineEndings all few =>
    have htake : takeFills reader.fills = (reader.fills.flatten, false) := by
      have hnone : ∀ fill ∈ reader.fills, SP ∉ fill ∧ findOneCharacterProtocol fill = none := by
        intro fill hfill
        have hall : ∀ b ∈ fill, IsLineEnding b :=
          fun b hb => all b (List.mem_flatten_of_mem hfill hb)
        exact ⟨space_not_mem_of_lineEndings hall, findOneCharacterProtocol_lineEndings hall⟩
      have happend := takeFills_append hnone []
      simpa [takeFills] using happend
    rw [htake] at hheld hnil ⊢
    dsimp only at hheld hnil ⊢
    have hrest := hnil rfl
    refine .inl ⟨?_, hrest, fun tail => ?_⟩
    · rw [readingOfTaken]
      by_cases heof : reader.stream.readEnd = .Eof
      · have hskip : skipCount reader.fills.flatten = reader.fills.flatten.length := by
          have happend : skipCount (reader.fills.flatten ++ []) = reader.fills.flatten.length :=
            skipCount_append all (few heof) (by simp)
          rwa [List.append_nil] at happend
        rw [if_pos (Or.inr heof), hskip, List.drop_length, if_pos rfl]
        rfl
      · rw [if_neg (by simp [heof])]
        split <;> rfl
    · rw [hheld, hrest, List.append_nil, requests_lineEndings_append all]
  | @command before behind front rest c cut lineEndings few isCommand space_not_mem =>
    have hfront : ∀ b ∈ front, IsLineEnding b :=
      fun b hb => lineEndings b (List.mem_append_right _ hb)
    have htake : takeFills reader.fills = (before.flatten ++ front ++ [c], true) := by
      rw [cut, takeFills_append, takeFills_of_done
        (takeAvailable_of_command hfront isCommand space_not_mem), List.append_assoc]
      intro fill hfill
      have hall : ∀ b ∈ fill, IsLineEnding b :=
        fun b hb => lineEndings b (List.mem_append_left _ (List.mem_flatten_of_mem hfill hb))
      exact ⟨space_not_mem_of_lineEndings hall, findOneCharacterProtocol_lineEndings hall⟩
    rw [htake] at hheld ⊢
    dsimp only at hheld ⊢
    refine .inr ⟨[c], readingOfTaken_request lineEndings few ?_ (by simp) _, by simp,
      fun tail => ?_⟩
    · intro b hb
      rw [List.head?_cons, Option.mem_some_iff] at hb
      subst hb
      exact not_isLineEnding_of_isCommand isCommand
    · rw [hheld, List.append_assoc, List.append_assoc, requests_lineEndings_append lineEndings,
        List.singleton_append, requests_command isCommand]
      simp
  | @text before behind front rest lineEndings text cut begins all few isText no_command =>
    have hspace : SP ∉ before.flatten ++ front := by
      rw [begins, List.mem_append, not_or]
      exact ⟨space_not_mem_of_lineEndings all, isText.space_not_mem⟩
    rw [List.mem_append, not_or] at hspace
    have htake : takeFills reader.fills = (lineEndings ++ (text ++ [SP]), true) := by
      rw [cut, takeFills_append, takeFills_of_done (takeAvailable_of_space hspace.2),
        ← List.append_assoc, begins, List.append_assoc]
      exact fun fill hfill =>
        ⟨fun hmem => hspace.1 (List.mem_flatten_of_mem hfill hmem), no_command fill hfill⟩
    have hhead : ∀ b ∈ (text ++ [SP]).head?, ¬ IsLineEnding b ∧ ¬ IsCommand b := by
      intro b hb
      cases htext : text with
      | nil =>
        rw [htext, List.nil_append, List.head?_cons, Option.mem_some_iff] at hb
        subst hb
        decide
      | cons a rest =>
        refine isText.head b ?_
        rw [htext] at hb ⊢
        exact hb
    rw [htake] at hheld ⊢
    dsimp only at hheld ⊢
    have hnotZero : ∀ request, request = text ++ [SP] → request ≠ [0x30] ∧
        request.head? ≠ some 0x30 := by
      rintro _ rfl
      have hhead' : (text ++ [SP]).head? ≠ some 0x30 :=
        fun heq => (hhead 0x30 heq).2 (Or.inl rfl)
      exact ⟨fun heq => hhead' (by rw [heq]; rfl), hhead'⟩
    refine .inr ⟨text ++ [SP], readingOfTaken_request all few (fun b hb => (hhead b hb).1)
      (by simp) _, ?_, fun tail => ?_⟩
    · obtain ⟨h1, h2⟩ := hnotZero _ rfl
      exact ⟨fun h => absurd h h2, fun h => absurd h h1⟩
    · rw [hheld, List.append_assoc, List.append_assoc, requests_lineEndings_append all,
        List.append_assoc, List.singleton_append, requests_text isText, if_neg (hnotZero _ rfl).1]

/-! ## Runs -/

/-- What has arrived at a connection, over its whole life. -/
def delivered (inputs : List Input) : Bytes :=
  inputs.flatMap fun input =>
    match input with
    | .arrive bytes _ _ => bytes
    | .handle _ => []

lemma delivered_append_arrive (inputs : List Input) (bytes : Bytes) (readLengths : List ℕ)
    (readEnd : ReadEnd) :
    delivered (inputs ++ [.arrive bytes readLengths readEnd]) = delivered inputs ++ bytes := by
  simp [delivered]

lemma delivered_append_handle (inputs : List Input) (world : GoogleWorld) :
    delivered (inputs ++ [.handle world]) = delivered inputs := by
  simp [delivered]

/-- What `read_until_skk_server` returns comes from the request that was read. -/
lemma readUntilSkkServer_cases {r : DictionaryReader} {world : GoogleWorld} {session : Session}
    {reader reader' reader'' : BufReader} {buffer buffer' buffer'' : Bytes} {reading : Reading}
    (hread : readRequest reader buffer = .ok (reading, reader', buffer'))
    {handled : HandleClientResult} {replies : List Bytes} {session' : Session}
    (h : readUntilSkkServer r world session reader buffer =
      .ok (handled, replies, reader'', buffer'', session')) :
    reader'' = reader' ∧
      ((∃ request, reading = .request request ∧
          r.handleClient world session request = .ok (handled, replies, session')) ∨
        (∃ isShutdown, reading = .result handled isShutdown) ∧ replies = [] ∧
          session' = session) := by
  rw [readUntilSkkServer, hread, Outcome.ok_bind] at h
  cases reading with
  | request request =>
    dsimp only at h
    rw [Outcome.bind_eq_ok] at h
    obtain ⟨⟨handled', replies', session''⟩, hhandle, h⟩ := h
    simp only [Outcome.pure_eq, Outcome.ok.injEq, Prod.mk.injEq] at h
    obtain ⟨rfl, rfl, rfl, -, rfl⟩ := h
    exact ⟨rfl, .inl ⟨request, rfl, hhandle⟩⟩
  | result result isShutdown =>
    simp only [Outcome.pure_eq, Outcome.ok.injEq, Prod.mk.injEq] at h
    obtain ⟨rfl, rfl, rfl, -, rfl⟩ := h
    exact ⟨rfl, .inr ⟨⟨isShutdown, rfl⟩, rfl, rfl⟩⟩

/-- A connection ends at the request `0`, and at no other. -/
lemma handleClient_exit_iff {r : DictionaryReader} {world : GoogleWorld}
    {session session' : Session}
    {request : Bytes} {handled : HandleClientResult} {replies : List Bytes}
    (h : r.handleClient world session request = .ok (handled, replies, session')) :
    handled = .Exit ↔ request.head? = some 0x30 := by
  obtain ⟨command, hcommand, hways⟩ := handleClient_eq_ok.mp h
  rw [hcommand, Option.some.injEq]
  rcases hways with ⟨hzero, hexit, -⟩ | ⟨hone, hcontinue, -⟩ | ⟨hfour, hcontinue, -⟩ |
    ⟨⟨hnot, -⟩, hcontinue, -⟩
  · simp [hzero, hexit]
  · simp [hone, hcontinue]
  · simp [hfour, hcontinue]
  · simp [hnot, hcontinue]

/-- What the runs keep: the requests that were handed on so far, then those of what is held, are
the requests of the stream. -/
structure System.IsCut (s : System) : Prop where
  buffer_eq : s.state.buffer = []
  occupied : ∀ i reader, s.state.sockets[i]? = some (some reader) → ∀ tail,
    requests (delivered (s.traces i).inputs ++ tail) =
      (s.traces i).handed ++ requests (reader.held ++ tail)
  free : ∀ i, (∀ reader, s.state.sockets[i]? ≠ some (some reader)) →
    requests (delivered (s.traces i).inputs) = (s.traces i).handed

lemma System.isCut_start (maxConnections : ℕ) (session : Session) :
    (System.start maxConnections session).IsCut where
  buffer_eq := rfl
  occupied i reader h := by
    rw [System.start, LoopState.start, List.getElem?_replicate] at h
    split at h <;> simp at h
  free i _ := rfl

/-- The connections that a step does not touch stay as they are. -/
lemma System.IsCut.update {s : System} (h : s.IsCut) {i : ℕ} (hi : i < s.state.sockets.length)
    {state : LoopState} (socket : Option BufReader) {trace : Trace}
    (hsockets : state.sockets = s.state.sockets.set i socket) (hbuffer : state.buffer = [])
    (hoccupied : ∀ reader, socket = some reader → ∀ tail,
      requests (delivered trace.inputs ++ tail) = trace.handed ++ requests (reader.held ++ tail))
    (hfree : socket = none → requests (delivered trace.inputs) = trace.handed)
    (queue : List TcpStream) (ready : Finset Event) (batch : List Event) :
    (⟨state, queue, ready, batch, Function.update s.traces i trace⟩ : System).IsCut := by
  refine ⟨hbuffer, fun j reader hj => ?_, fun j hj => ?_⟩
  · dsimp only at hj ⊢
    rw [hsockets] at hj
    by_cases hij : j = i
    · subst hij
      rw [List.getElem?_set_self hi, Option.some.injEq] at hj
      rw [Function.update_self]
      exact hoccupied reader hj
    · rw [List.getElem?_set_ne (Ne.symm hij)] at hj
      rw [Function.update_of_ne hij]
      exact h.occupied j reader hj
  · dsimp only at hj ⊢
    rw [hsockets] at hj
    by_cases hij : j = i
    · subst hij
      rw [List.getElem?_set_self hi] at hj
      rw [Function.update_self]
      refine hfree ?_
      cases socket with
      | none => rfl
      | some reader => exact absurd rfl (hj reader)
    · rw [List.getElem?_set_ne (Ne.symm hij)] at hj
      rw [Function.update_of_ne hij]
      exact h.free j hj

/-- The condition on the events of a run: each finds its connection framed. -/
abbrev System.framedEvents : System → System → Prop :=
  System.tokenSteps fun reader => IsFramed reader.fills reader.stream.readEnd

/-- **A framed step keeps the cut.** -/
theorem System.IsCut.step {r : DictionaryReader} {s s' : System}
    (hslotted : s.IsSlotted r.config.maxConnections) (h : s.IsCut) (hstep : s.Step r s')
    (hframed : System.framedEvents s s') : s'.IsCut := by
  cases hstep with
  | connect stream => exact ⟨h.buffer_eq, h.occupied, h.free⟩
  | arriveQueued bytes readLengths readEnd queue _ => exact ⟨h.buffer_eq, h.occupied, h.free⟩
  | arrive i reader bytes readLengths readEnd occupied _ =>
    refine h.update (List.getElem?_eq_some_iff.mp occupied).1 (some _) rfl
      (by exact h.buffer_eq) ?_ (by simp) _ _ _
    intro reader' hreader tail
    rw [Option.some.injEq] at hreader
    subst hreader
    have hcut := h.occupied i reader occupied (bytes ++ tail)
    rw [Trace.push, delivered_append_arrive, List.append_nil, List.append_assoc, hcut]
    simp [BufReader.held, TcpStream.arrive]
  | poll batch handled nodup raised => exact ⟨h.buffer_eq, h.occupied, h.free⟩
  | @accept stream queue rest state batch waiting run =>
    obtain ⟨next, hempty, -, rfl⟩ := hslotted.table.accept_cases run
    refine h.update (List.getElem?_eq_some_iff.mp hempty).1 (some _) rfl
      (by exact h.buffer_eq) ?_ (by simp) _ _ _
    intro reader' hreader tail
    rw [Option.some.injEq] at hreader
    subst hreader
    simp [Trace.push, delivered, BufReader.held]
  | @refuse stream queue rest state batch waiting run =>
    obtain ⟨-, rfl⟩ := hslotted.table.refuse_cases run
    exact ⟨h.buffer_eq, h.occupied, h.free⟩
  | @drained rest state batch waiting run =>
    obtain rfl := drained_cases run
    exact ⟨h.buffer_eq, h.occupied, h.free⟩
  | @token world i reader rest reading reader' buffer' replies state batch occupied read run =>
    have hi := (List.getElem?_eq_some_iff.mp occupied).1
    have hframe := hframed i reader batch occupied
    obtain ⟨reading₁, reader₁, buffer₁, hread, hreading⟩ := hframe.readRequest
    rw [h.buffer_eq, hread, Outcome.ok.injEq, Prod.mk.injEq, Prod.mk.injEq] at read
    obtain ⟨rfl, rfl, -⟩ := read
    obtain ⟨-, handled, reader₂, buffer₂, session, hrun, hstate⟩ := runLoopToken_cases occupied run
    rw [h.buffer_eq] at hrun
    obtain ⟨rfl, hhandled⟩ := readUntilSkkServer_cases hread hrun
    have hcut := h.occupied i reader occupied
    -- what the event hands on, and what it leaves
    have hkept : handled = .Continue → ∀ tail,
        requests (delivered (s.traces i).inputs ++ tail) =
          ((s.traces i).handed ++ reading₁.requests) ++ requests (reader₂.held ++ tail) := by
      intro hcontinue tail
      rcases hreading with ⟨hnone, hheld, hrest⟩ | ⟨request, rfl, hhead, hrest⟩
      · rw [hcut, hrest, hnone, hheld, List.append_nil, List.nil_append]
      · rcases hhandled with ⟨_, heq, hhandle⟩ | ⟨⟨_, hresult⟩, -⟩
        · rw [Reading.request.injEq] at heq
          subst heq
          have hnot : request ≠ [0x30] := by
            intro hzero
            have hexit := (handleClient_exit_iff hhandle).mpr (hhead.mpr hzero)
            rw [hcontinue] at hexit
            exact absurd hexit (by decide)
          rw [hcut, hrest, if_neg hnot, Reading.requests, List.append_assoc,
            List.singleton_append]
        · simp at hresult
    have hclosed : handled = .Exit →
        requests (delivered (s.traces i).inputs) = (s.traces i).handed ++ reading₁.requests := by
      intro hexit
      have hcutNil := hcut []
      rw [List.append_nil] at hcutNil
      rcases hreading with ⟨hnone, -, hrest⟩ | ⟨request, rfl, hhead, hrest⟩
      · rw [hcutNil, hrest, hnone]
        rfl
      · rcases hhandled with ⟨_, heq, hhandle⟩ | ⟨⟨_, hresult⟩, -⟩
        · rw [Reading.request.injEq] at heq
          subst heq
          have hzero := hhead.mp ((handleClient_exit_iff hhandle).mp hexit)
          rw [hcutNil, hrest, if_pos hzero, Reading.requests]
        · simp at hresult
    rcases hstate with ⟨hcontinue, rfl⟩ | ⟨hexit, -, rfl⟩
    · refine h.update hi (some _) rfl rfl ?_ (by simp) _ _ _
      intro reader' hreader tail
      rw [Option.some.injEq] at hreader
      subst hreader
      rw [Trace.push, delivered_append_handle]
      exact hkept hcontinue tail
    · refine h.update hi none rfl rfl (by simp) (fun _ => ?_) _ _ _
      rw [Trace.push, delivered_append_handle]
      exact hclosed hexit

/-- **Framing does not depend on the cuts.**  In every run whose events find their connections
framed, the requests that were handed on for a connection, with those of what it still holds, are
the requests of its stream; all of them were handed on when nothing is held any more. -/
theorem System.handed_eq_requests {r : DictionaryReader} {session : Session} {s : System}
    (h : System.Reaches r System.framedEvents (.start r.config.maxConnections session) s) (i : ℕ) :
    (∀ reader, s.state.sockets[i]? = some (some reader) →
        requests (delivered (s.traces i).inputs) =
          (s.traces i).handed ++ requests reader.held) ∧
      ((∀ reader, s.state.sockets[i]? = some (some reader) → reader.held = []) →
        (s.traces i).handed = requests (delivered (s.traces i).inputs)) := by
  have hcut : s.IsSlotted r.config.maxConnections ∧ s.IsCut :=
    h.invariant (fun s => s.IsSlotted r.config.maxConnections ∧ s.IsCut)
      ⟨System.isSlotted_start _ session, System.isCut_start _ session⟩
      fun _ _ hs hstep hframed => ⟨hs.1.step hstep, hs.2.step hs.1 hstep hframed⟩
  have hoccupied : ∀ reader, s.state.sockets[i]? = some (some reader) →
      requests (delivered (s.traces i).inputs) =
        (s.traces i).handed ++ requests reader.held := by
    intro reader hreader
    have htail := hcut.2.occupied i reader hreader []
    rwa [List.append_nil, List.append_nil] at htail
  refine ⟨hoccupied, fun hall => ?_⟩
  by_cases hsocket : ∃ reader, s.state.sockets[i]? = some (some reader)
  · obtain ⟨reader, hreader⟩ := hsocket
    rw [hoccupied reader hreader, hall reader hreader, requests_nil, List.append_nil]
  · exact (hcut.2.free i fun reader hreader => hsocket ⟨reader, hreader⟩).symm

/-- The streams of `System.reaches_conversed` are framed. -/
lemma System.IsScripted.framedEvents {world : GoogleWorld} {sessions : List Session} {s s' : System}
    (h : System.IsScripted world sessions s s') : System.framedEvents s s' := by
  intro i reader hbatch hreader
  have hnone : ∀ b ∈ ([] : Bytes), IsLineEnding b := fun b hb => absurd hb List.not_mem_nil
  have htext : ∀ (b : UInt8) (rest : Bytes), ¬ IsLineEnding b ∧ ¬ IsCommand b → SP ∉ b :: rest →
      IsRequestText (b :: rest) := by
    refine fun b rest hb hspace => ⟨hspace, ?_⟩
    rintro _ ⟨⟩
    exact hb
  rcases (h.tokens i reader hbatch hreader).2 with rfl | rfl | rfl | rfl
  · have hfills :
        BufReader.fills { stream := { received := ascii "1aab ", readLengths := [0, 1] } } =
        [ascii "1", ascii "aa"] ++ (ascii "b" ++ SP :: []) :: [] := rfl
    exact .text hfills (rfl : _ = [] ++ ascii "1aab") hnone (by decide)
      (htext 0x31 (ascii "aab") (by decide) (by decide)) (by decide)
  · have hfills : BufReader.fills { stream := { received := ascii "1a " } } =
        [] ++ (ascii "1a" ++ SP :: []) :: [] := rfl
    exact .text hfills (rfl : _ = [] ++ ascii "1a") hnone (by decide)
      (htext 0x31 (ascii "a") (by decide) (by decide)) (by decide)
  · have hfills : BufReader.fills { stream := { received := ascii "0" } } =
        [] ++ ([] ++ 0x30 :: []) :: [] := rfl
    exact .command hfills hnone (by decide) (by decide) (by decide)
  · have hfills : BufReader.fills { stream := { received := ascii "4a " } } =
        [] ++ (ascii "4a" ++ SP :: []) :: [] := rfl
    exact .text hfills (rfl : _ = [] ++ ascii "4a") hnone (by decide)
      (htext 0x34 (ascii "a") (by decide) (by decide)) (by decide)

/-- Two clients with two requests each, one of them in three pieces. -/
theorem handed_eq_requests_twoSlots :
    ∃ s : System, System.Reaches twoSlots System.framedEvents (.start 2 twoSlotsSession) s ∧
      delivered (s.traces 0).inputs = ascii "1aab 4a " ∧
      (s.traces 0).handed = requests (ascii "1aab 4a ") ∧
      delivered (s.traces 1).inputs = ascii "1a 0" ∧
      (s.traces 1).handed = requests (ascii "1a 0") := by
  obtain ⟨traces, sessions, -, hscripted, htrace, htraceOther⟩ := System.reaches_conversed_twoSlots
  have hreaches := hscripted.mono fun _ _ h => h.framedEvents
  have hdelivered : delivered (traces 0).inputs = ascii "1aab 4a " := by
    rw [htrace]
    rfl
  have hdeliveredOther : delivered (traces 1).inputs = ascii "1a 0" := by
    rw [htraceOther]
    rfl
  refine ⟨_, hreaches, hdelivered, ?_, hdeliveredOther, ?_⟩
  · rw [← hdelivered]
    refine (System.handed_eq_requests hreaches 0).2 ?_
    rintro _ ⟨⟩
    rfl
  · rw [← hdeliveredOther]
    refine (System.handed_eq_requests hreaches 1).2 ?_
    rintro _ ⟨⟩

/-- The request `1ab ` in two events: the first finds no end of a request, and what it has read is
gone. -/
theorem not_handed_eq_requests_split :
    ∃ s : System, s.IsReachable oneSlot oneSlotSession ∧
      s.state.sockets = [some { stream := {} }] ∧
      delivered (s.traces 0).inputs = ascii "1ab " ∧ (s.traces 0).handed = [ascii "b "] ∧
      requests (ascii "1ab ") = [ascii "1ab "] := by
  have hconnect : System.IsReachable oneSlot oneSlotSession _ :=
    .tail .refl (.connect _ {}) trivial
  have hpoll : System.IsReachable oneSlot oneSlotSession _ :=
    .tail hconnect (.poll _ [.listener] rfl (List.nodup_singleton _) (by decide)) trivial
  have haccept : System.IsReachable oneSlot oneSlotSession _ :=
    .tail hpoll (.accept _ rfl rfl rfl) trivial
  have hdrained : System.IsReachable oneSlot oneSlotSession _ :=
    .tail haccept (.drained _ rfl rfl rfl) trivial
  have hfirst : System.IsReachable oneSlot oneSlotSession _ :=
    .tail hdrained (.arrive _ 0 { stream := {} } (ascii "1a") [] .WouldBlock rfl rfl) trivial
  have hpollFirst : System.IsReachable oneSlot oneSlotSession _ :=
    .tail hfirst (.poll _ [.token 0] rfl (List.nodup_singleton _) (by decide)) trivial
  have hreadFirst : System.IsReachable oneSlot oneSlotSession _ :=
    .tail hpollFirst
      (.token _ offline 0 { stream := { received := ascii "1a" } } rfl rfl rfl rfl) trivial
  have hsecond : System.IsReachable oneSlot oneSlotSession _ :=
    .tail hreadFirst (.arrive _ 0 { stream := {} } (ascii "b ") [] .WouldBlock rfl rfl) trivial
  have hpollSecond : System.IsReachable oneSlot oneSlotSession _ :=
    .tail hsecond (.poll _ [.token 0] rfl (List.nodup_singleton _) (by decide)) trivial
  have hreadSecond : System.IsReachable oneSlot oneSlotSession _ :=
    .tail hpollSecond
      (.token _ offline 0 { stream := { received := ascii "b " } } rfl rfl rfl rfl) trivial
  exact ⟨_, hreadSecond, rfl, rfl, rfl, rfl⟩

end Yaskkserv2
