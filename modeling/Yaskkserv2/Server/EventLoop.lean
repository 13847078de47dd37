import Yaskkserv2.Server.RunLoop

/-!
# Runs of the event loop

`run_loop` with the world around it: clients that connect and send, the queue of the listener, and
mio.  Readiness is edge-triggered: an event is raised when a connection arrives at the listener,
when bytes or the end of the stream arrive at a registered connection, and when a connection is
registered that has something to read already.  A poll takes some of the raised events, each once,
and the loop handles them in their order.

`LoopState` is what the program keeps.  The rest of a `System` is the world, with a trace of what
each slot of the table has seen since its connection was accepted.
-/

namespace Yaskkserv2

open Framework DictionaryReader

/-- A readiness event: of the listener, or of the connection with that token. -/
inductive Event where
  | listener
  | token (i : ℕ)
  deriving DecidableEq, Repr

/-- What happens to a connection: something arrives, or its event is handled. -/
inductive Input where
  | arrive (bytes : Bytes) (readLengths : List ℕ) (readEnd : ReadEnd)
  | handle (world : GoogleWorld)

/-- What a connection has seen: its inputs, the requests that were handed to `handle_client`, and
the replies that were written. -/
structure Trace where
  inputs : List Input := []
  handed : List Bytes := []
  replies : List Bytes := []

structure System where
  state : LoopState
  queue : List TcpStream := []
  ready : Finset Event := ∅
  batch : List Event := []
  traces : ℕ → Trace := fun _ => {}

/-- The program before its first poll. -/
def System.start (maxConnections : ℕ) (session : Session) : System :=
  { state := .start maxConnections session }

/-- More has arrived at a stream.  How the reads will cut it is open again. -/
def TcpStream.arrive (stream : TcpStream) (bytes : Bytes) (readLengths : List ℕ)
    (readEnd : ReadEnd) : TcpStream :=
  ⟨stream.received ++ bytes, readLengths, readEnd⟩

/-- A read of the stream would not block. -/
abbrev TcpStream.IsReadable (stream : TcpStream) : Prop :=
  stream.received ≠ [] ∨ stream.readEnd ≠ .WouldBlock

/-- The requests among what was read: one or none. -/
def Reading.requests : Reading → List Bytes
  | .request buffer => [buffer]
  | .result _ _ => []

/-- A trace after one more input. -/
def Trace.push (trace : Trace) (input : Input) (handed replies : List Bytes) : Trace :=
  ⟨trace.inputs ++ [input], trace.handed ++ handed, trace.replies ++ replies⟩

/-- One step of the program or of the world. -/
inductive System.Step (r : DictionaryReader) : System → System → Prop
  /-- a client connects -/
  | connect (s : System) (stream : TcpStream) :
    Step r s { s with queue := s.queue ++ [stream], ready := insert .listener s.ready }
  /-- something arrives at a connection that was not accepted yet -/
  | arriveQueued (s : System) {before behind : List TcpStream} {stream : TcpStream}
      (bytes : Bytes) (readLengths : List ℕ) (readEnd : ReadEnd)
      (queue : s.queue = before ++ stream :: behind) (open_ : stream.readEnd = .WouldBlock) :
    Step r s
      { s with queue := before ++ stream.arrive bytes readLengths readEnd :: behind }
  /-- something arrives at a connection -/
  | arrive (s : System) (i : ℕ) (reader : BufReader)
      (bytes : Bytes) (readLengths : List ℕ) (readEnd : ReadEnd)
      (occupied : s.state.sockets[i]? = some (some reader))
      (open_ : reader.stream.readEnd = .WouldBlock) :
    Step r s { s with
      state := { s.state with
        sockets := s.state.sockets.set i
          (some { reader with stream := reader.stream.arrive bytes readLengths readEnd }) }
      ready := insert (.token i) s.ready
      traces := Function.update s.traces i
        ((s.traces i).push (.arrive bytes readLengths readEnd) [] []) }
  /-- a poll takes some of the raised events -/
  | poll (s : System) (batch : List Event) (handled : s.batch = []) (nodup : batch.Nodup)
      (raised : batch.toFinset ⊆ s.ready) :
    Step r s { s with batch := batch, ready := s.ready \ batch.toFinset }
  /-- the listener accepts a connection -/
  | accept (s : System) {stream : TcpStream} {queue : List TcpStream} {rest : List Event}
      {state : LoopState} (batch : s.batch = .listener :: rest)
      (waiting : s.queue = stream :: queue)
      (run : runLoopListener r.config.maxConnections s.state (.ok stream) (.ok ()) =
        .ok (.Nop, state)) :
    Step r s { s with
      state := state
      queue := queue
      ready := if stream.IsReadable then insert (.token s.state.nextSocketIndex) s.ready
        else s.ready
      traces := Function.update s.traces s.state.nextSocketIndex
        (({} : Trace).push
          (.arrive stream.received stream.readLengths stream.readEnd) [] []) }
  /-- the listener drops a connection, and its event is done -/
  | refuse (s : System) {stream : TcpStream} {queue : List TcpStream} {rest : List Event}
      {state : LoopState} (batch : s.batch = .listener :: rest)
      (waiting : s.queue = stream :: queue)
      (run : runLoopListener r.config.maxConnections s.state (.ok stream) (.ok ()) =
        .ok (.Break, state)) :
    Step r s { s with state := state, queue := queue, batch := rest }
  /-- no connection waits any more, and the event of the listener is done -/
  | drained (s : System) {rest : List Event} {state : LoopState}
      (batch : s.batch = .listener :: rest) (waiting : s.queue = [])
      (run : runLoopListener r.config.maxConnections s.state (.error .WouldBlock) (.ok ()) =
        .ok (.Break, state)) :
    Step r s { s with state := state, batch := rest }
  /-- the event of a connection is handled; the events of a closed one are gone -/
  | token (s : System) (world : GoogleWorld) (i : ℕ) (reader : BufReader) {rest : List Event}
      {reading : Reading} {reader' : BufReader} {buffer' : Bytes} {replies : List Bytes}
      {state : LoopState} (batch : s.batch = .token i :: rest)
      (occupied : s.state.sockets[i]? = some (some reader))
      (read : readRequest reader s.state.buffer = .ok (reading, reader', buffer'))
      (run : runLoopToken r world s.state i (.ok ()) = .ok (.Nop, replies, state)) :
    Step r s { s with
      state := state
      batch := rest
      ready := if state.sockets[i]? = some none then s.ready.erase (.token i) else s.ready
      traces := Function.update s.traces i
        ((s.traces i).push (.handle world) reading.requests replies) }

/-- The states that a run reaches whose steps all meet a condition. -/
inductive System.Reaches (r : DictionaryReader) (meets : System → System → Prop) (s₀ : System) :
    System → Prop
  | refl : Reaches r meets s₀ s₀
  | tail {s s' : System} (run : Reaches r meets s₀ s) (step : s.Step r s') (cond : meets s s') :
    Reaches r meets s₀ s'

/-- What holds at the start and is kept by every step that meets the condition holds in every state
that is reached. -/
theorem System.Reaches.invariant {r : DictionaryReader} {meets : System → System → Prop}
    {s₀ s : System} (h : System.Reaches r meets s₀ s) (inv : System → Prop) (start : inv s₀)
    (keep : ∀ s s', inv s → s.Step r s' → meets s s' → inv s') : inv s := by
  induction h with
  | refl => exact start
  | tail _ hstep hmeets ih => exact keep _ _ ih hstep hmeets

/-- A condition may be weakened. -/
theorem System.Reaches.mono {r : DictionaryReader} {meets meets' : System → System → Prop}
    {s₀ s : System} (h : System.Reaches r meets s₀ s)
    (hmeets : ∀ s s', meets s s' → meets' s s') : System.Reaches r meets' s₀ s := by
  induction h with
  | refl => exact .refl
  | tail _ hstep hcond ih => exact .tail ih hstep (hmeets _ _ hcond)

/-- The states of the runs of the program, from its start on. -/
abbrev System.IsReachable (r : DictionaryReader) (session : Session) : System → Prop :=
  System.Reaches r (fun _ _ => True) (.start r.config.maxConnections session)

/-- The condition that every step meets which handles an event of a connection, in terms of the
reader of that connection. -/
def System.tokenSteps (cond : BufReader → Prop) (s s' : System) : Prop :=
  ∀ i reader, s.batch = .token i :: s'.batch → s.state.sockets[i]? = some (some reader) →
    cond reader

/-- The condition on the steps of a run that the events of connections are handled in some worlds
only. -/
def System.handlesIn (worlds : GoogleWorld → Prop) (s s' : System) : Prop :=
  ∀ i world, (s'.traces i).inputs = (s.traces i).inputs ++ [.handle world] → worlds world

end Yaskkserv2
