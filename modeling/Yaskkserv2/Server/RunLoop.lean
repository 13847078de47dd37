import Yaskkserv2.Server.HandleClient

/-!
# The event loop

`src/skk/yaskkserv2.rs`: the reader of requests (`BufReaderSkk`), the table of connections, and the
two steps of `run_loop`, one for an event of the listener and one for an event of a connection.

The kernel side of a connection is what has arrived and was not read yet.  How many bytes a read
returns of it is not the program's to decide, nor is whether the calls into mio fail; both are
arguments.  A read that is interrupted is made again at once, so it does not show.
-/

namespace Yaskkserv2

open Framework DictionaryReader

/-! ## A connection -/

/-- What a read gives where everything that has arrived was read. -/
inductive ReadEnd where
  | WouldBlock
  | Eof
  | Failed
  deriving DecidableEq, Repr

/-- The kernel side of a connection.  The next read returns at most one byte more than the first
of `readLengths`; where that list ends, a read returns as much as there is room for. -/
structure TcpStream where
  received : Bytes := []
  readLengths : List ℕ := []
  readEnd : ReadEnd := .WouldBlock
  deriving DecidableEq, Repr

/-- The kinds of `std::io::Error` that the program tells apart. -/
inductive ReadError where
  | WouldBlock
  | Other
  deriving DecidableEq, Repr

/-- How many bytes the next read returns at most. -/
def TcpStream.readLength (stream : TcpStream) (capacity : ℕ) : ℕ :=
  match stream.readLengths with
  | [] => capacity
  | n :: _ => min capacity (n + 1)

/-- `TcpStream::read` into a buffer of `capacity` bytes. -/
def TcpStream.read (stream : TcpStream) (capacity : ℕ) : Except ReadError Bytes × TcpStream :=
  if stream.received = [] then
    match stream.readEnd with
    | .WouldBlock => (.error .WouldBlock, stream)
    | .Eof => (.ok [], stream)
    | .Failed => (.error .Other, stream)
  else
    (.ok (stream.received.take (stream.readLength capacity)),
      { stream with
        received := stream.received.drop (stream.readLength capacity)
        readLengths := stream.readLengths.tail })

/-- The capacity of a `BufReader`. -/
def DEFAULT_BUF_SIZE : ℕ := 8 * 1024

/-- `BufReader<TcpStream>`: what was read ahead, and the stream. -/
structure BufReader where
  buffer : Bytes := []
  stream : TcpStream
  deriving DecidableEq, Repr

/-- `BufReader::fill_buf`: what is available, and the reader it leaves. -/
def BufReader.fillBuf (reader : BufReader) : Except ReadError Bytes × BufReader :=
  if reader.buffer ≠ [] then (.ok reader.buffer, reader)
  else
    match reader.stream.read DEFAULT_BUF_SIZE with
    | (.ok bytes, stream) => (.ok bytes, ⟨bytes, stream⟩)
    | (.error e, stream) => (.error e, ⟨[], stream⟩)

/-- `BufReader::consume`. -/
def BufReader.consume (reader : BufReader) (used : ℕ) : BufReader :=
  { reader with buffer := reader.buffer.drop used }

/-- `find_one_character_protocol`: a command of one character, behind line endings only. -/
def findOneCharacterProtocol : Bytes → Option ℕ
  | [] => none
  | c :: rest =>
    if c = 0x30 ∨ c = 0x32 ∨ c = 0x33 then some 0
    else if c ≠ LF ∧ c ≠ CR then none
    else (findOneCharacterProtocol rest).map (· + 1)

/-- What `read_until_skk_server` takes of the available bytes, and whether a request ends there. -/
def takeAvailable (available : Bytes) : Bytes × Bool :=
  match find [SP] available with
  | some i => (available.take (i + 1), true)
  | none =>
    match findOneCharacterProtocol available with
    | some i => (available.take (i + 1), true)
    | none => (available, false)

/-- What the loop of `read_until_skk_server` carries. -/
structure ReadState where
  reader : BufReader
  buffer : Bytes
  read : ℕ

/-- A turn of the loop of `read_until_skk_server`. -/
def readUntilTurn (s : ReadState) :
    Result (ReadState ⊕ (Except ReadError ℕ × BufReader × Bytes)) :=
  match s.reader.fillBuf with
  | (.error e, reader) => .ok (.inr (.error e, reader, s.buffer))
  | (.ok available, reader) =>
    let (taken, done) := takeAvailable available
    let s : ReadState :=
      ⟨reader.consume taken.length, s.buffer ++ taken, s.read + taken.length⟩
    if done ∨ taken.length = 0 then .ok (.inr (.ok s.read, s.reader, s.buffer)) else .ok (.inl s)

/-- What a connection holds: what was read ahead, and what has arrived. -/
def BufReader.held (reader : BufReader) : Bytes := reader.buffer ++ reader.stream.received

/-- `BufReaderSkk::read_until_skk_server`: what it returns, the reader it leaves, and the buffer it
has appended to.  A turn after which the loop goes on takes something of what the connection
holds. -/
def BufReader.readUntilSkkServer (reader : BufReader) (buffer : Bytes) :
    Result (Except ReadError ℕ × BufReader × Bytes) :=
  loop readUntilTurn (reader.held.length + 2) ⟨reader, buffer, 0⟩

/-! ## A request -/

/-- `Yaskkserv2::get_buffer_skip_count`. -/
def getBufferSkipCount (buffer : Bytes) (size : ℕ) : Result ℕ := do
  let isCrOrLf (i : ℕ) : Result Bool := do
    let b ← index buffer i
    return b = LF ∨ b = CR
  let two ← if size ≥ 2 then do if ← isCrOrLf 1 then isCrOrLf 0 else pure false else pure false
  if two then return 2
  else
    let one ← if size ≥ 1 then isCrOrLf 0 else pure false
    return if one then 1 else 0

/-- What `Yaskkserv2::read_until_skk_server` makes of what was read: a request for
`handle_client`, or a result without one.  The flag says whether the connection is shut down. -/
inductive Reading where
  | request (buffer : Bytes)
  | result (r : HandleClientResult) (isShutdown : Bool)
  deriving DecidableEq, Repr

/-- The `match` of `Yaskkserv2::read_until_skk_server`, up to the call of `handle_client`. -/
def readingOf (read : Except ReadError ℕ) (buffer : Bytes) : Result Reading :=
  match read with
  | .ok 0 => .ok (.result .Exit false)
  | .ok size => do
    let skip ← getBufferSkipCount buffer size
    if size = skip then return .result .Exit false
    else
      let rest ← checkedSub size skip
      if rest > 0 then return .request (← sliceFrom buffer skip)
      else return .result .Continue false
  | .error .WouldBlock => .ok (.result .Continue false)
  | .error .Other => .ok (.result .Exit true)

/-- What `Yaskkserv2::read_until_skk_server` does before it calls `handle_client`. -/
def readRequest (reader : BufReader) (buffer : Bytes) : Result (Reading × BufReader × Bytes) := do
  let (read, reader, buffer) ← reader.readUntilSkkServer buffer
  let reading ← readingOf read buffer
  return (reading, reader, buffer)

/-- `Yaskkserv2::read_until_skk_server`: what it returns, the replies that were written, and what it
leaves.  `handle_client` overwrites the first byte of a request in the buffer itself, which is left
out here: the buffer is cleared before it is read again. -/
def readUntilSkkServer (r : DictionaryReader) (world : GoogleWorld) (s : Session)
    (reader : BufReader) (buffer : Bytes) :
    Result (HandleClientResult × List Bytes × BufReader × Bytes × Session) := do
  let (reading, reader, buffer) ← readRequest reader buffer
  match reading with
  | .request request =>
    let (result, replies, s) ← r.handleClient world s request
    return (result, replies, reader, buffer, s)
  | .result result _ => return (result, [], reader, buffer, s)

/-! ## The table of connections -/

/-- What `run_loop` keeps. -/
structure LoopState where
  sockets : List (Option BufReader)
  socketsSomeCount : ℕ := 0
  nextSocketIndex : ℕ := 0
  buffer : Bytes := []
  session : Session

/-- The state in which `run_loop` enters its loop. -/
def LoopState.start (maxConnections : ℕ) (session : Session) : LoopState :=
  { sockets := List.replicate maxConnections none, session := session }

/-- The index after `i` in a circle of `socketsLength` slots. -/
def nextIndex (socketsLength i : ℕ) : ℕ := if i + 1 ≥ socketsLength then 0 else i + 1

/-- The `for` loop of `get_empty_sockets_index`, with that many turns to go. -/
def searchEmptySocketsIndex (sockets : List (Option BufReader)) (socketsLength : ℕ) :
    ℕ → ℕ → Result ℕ
  | 0, _ => .panic
  | turns + 1, i => do
    let i := nextIndex socketsLength i
    let socket ← index sockets i
    if socket.isNone then return i else searchEmptySocketsIndex sockets socketsLength turns i

/-- `Yaskkserv2::get_empty_sockets_index`. -/
def getEmptySocketsIndex (sockets : List (Option BufReader)) (socketsLength nextSocketIndex : ℕ) :
    Result ℕ := do
  let i := nextIndex socketsLength nextSocketIndex
  let socket ← index sockets i
  if socket.isNone then return i else searchEmptySocketsIndex sockets socketsLength socketsLength i

inductive RunLoopListenerResult where
  | Nop
  | Break
  deriving DecidableEq, Repr

inductive RunLoopTokenResult where
  | Nop
  | Return
  deriving DecidableEq, Repr

/-- `listener.accept()`: a stream, or an error. -/
abbrev Accepted := Except ReadError TcpStream

/-- `Yaskkserv2::run_loop_listener`.  `register` is what mio returns for the new connection. -/
def runLoopListener (maxConnections : ℕ) (s : LoopState) (accepted : Accepted)
    (register : Except SkkError Unit) : Result (RunLoopListenerResult × LoopState) :=
  match accepted with
  | .ok stream =>
    if s.socketsSomeCount ≥ maxConnections then .ok (.Break, s)
    else
      match register with
      | .error e => .error e
      | .ok () =>
        if s.nextSocketIndex < s.sockets.length then do
          let sockets := s.sockets.set s.nextSocketIndex (some { stream := stream })
          let socketsSomeCount := s.socketsSomeCount + 1
          let nextSocketIndex ←
            if socketsSomeCount < maxConnections then
              getEmptySocketsIndex sockets sockets.length s.nextSocketIndex
            else pure s.nextSocketIndex
          return (.Nop, { s with
            sockets := sockets
            socketsSomeCount := socketsSomeCount
            nextSocketIndex := nextSocketIndex })
        else .panic
  | .error .WouldBlock => .ok (.Break, s)
  | .error .Other => .error .io

/-- `Yaskkserv2::run_loop_token`: what it returns, the replies that were written, and the state it
leaves.  `deregister` is what mio returns for a connection that is closed. -/
def runLoopToken (r : DictionaryReader) (world : GoogleWorld) (s : LoopState) (token : ℕ)
    (deregister : Except SkkError Unit) : Result (RunLoopTokenResult × List Bytes × LoopState) := do
  match ← index s.sockets token with
  | none => return (.Return, [], s)
  | some reader =>
    let (result, replies, reader, _, session) ←
      readUntilSkkServer r world s.session reader s.buffer
    match result with
    | .Continue =>
      return (.Nop, replies, { s with
        sockets := s.sockets.set token (some reader)
        buffer := []
        session := session })
    | .Exit =>
      match deregister with
      | .error e => .error e
      | .ok () =>
        let socketsSomeCount ← checkedSub s.socketsSomeCount 1
        return (.Nop, replies, { s with
          sockets := s.sockets.set token none
          socketsSomeCount := socketsSomeCount
          nextSocketIndex := token
          buffer := []
          session := session })

end Yaskkserv2
