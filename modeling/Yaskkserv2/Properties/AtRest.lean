import Yaskkserv2.Properties.Framing

/-!
# At rest

Readiness is edge-triggered, so what an event leaves behind stays where it is until something new
arrives.  An event of a connection takes one request; an event of the listener takes connections
until the table is full.  At rest, when no event is pending, the question is what is left: complete
requests at a connection, or connections in the queue while a slot is free.

Nothing is left in a run whose events find nothing behind the request they take
(`System.requests_held_eq_nil`), and in a run that closes no connection while another one waits
unannounced (`System.queue_eq_nil`).
-/

namespace Yaskkserv2

open Framework DictionaryReader

/-! ## Where a request ends in the fills -/

/-- A fill without space and without a command at its head: no request ends in it. -/
abbrev IsUnfinished (fill : Bytes) : Prop := SP ∉ fill ∧ findOneCharacterProtocol fill = none

/-- An event that reads the fills takes `taken` and leaves `rest`.  It reads up to the first fill
that has a space or a command at its head; a space counts before a command. -/
inductive EndsAt (fills : List Bytes) : Bytes → Bytes → Prop
  | space {before behind : List Bytes} {front rest : Bytes}
      (cut : fills = before ++ (front ++ SP :: rest) :: behind)
      (unfinished : ∀ fill ∈ before, IsUnfinished fill) (first : SP ∉ front) :
    EndsAt fills (before.flatten ++ (front ++ [SP])) (rest ++ behind.flatten)
  | command {before behind : List Bytes} {front rest : Bytes} {c : UInt8}
      (cut : fills = before ++ (front ++ c :: rest) :: behind)
      (unfinished : ∀ fill ∈ before, IsUnfinished fill)
      (lineEndings : ∀ b ∈ front, IsLineEnding b) (isCommand : IsCommand c)
      (space_not_mem : SP ∉ rest) :
    EndsAt fills (before.flatten ++ (front ++ [c])) (rest ++ behind.flatten)

lemma EndsAt.takeFills {fills : List Bytes} {taken rest : Bytes} (h : EndsAt fills taken rest) :
    takeFills fills = (taken, true) ∧ fills.flatten = taken ++ rest := by
  cases h with
  | space cut unfinished first =>
    rw [cut, takeFills_append unfinished, takeFills_of_done (takeAvailable_of_space first)]
    simp
  | command cut unfinished lineEndings isCommand space_not_mem =>
    rw [cut, takeFills_append unfinished,
      takeFills_of_done (takeAvailable_of_command lineEndings isCommand space_not_mem)]
    simp

/-- A command at the head of a fill is behind line endings only. -/
lemma exists_of_findOneCharacterProtocol {fill : Bytes} {i : ℕ}
    (h : findOneCharacterProtocol fill = some i) :
    ∃ front c rest, fill = front ++ c :: rest ∧ (∀ b ∈ front, IsLineEnding b) ∧ IsCommand c := by
  induction fill generalizing i with
  | nil => simp [findOneCharacterProtocol] at h
  | cons b fill ih =>
    rw [findOneCharacterProtocol] at h
    split at h
    · rename_i hcommand
      exact ⟨[], b, fill, rfl, fun _ hb => absurd hb List.not_mem_nil, hcommand⟩
    · split at h
      · simp at h
      · rename_i hline
        rw [Option.map_eq_some_iff] at h
        obtain ⟨j, hj, -⟩ := h
        obtain ⟨front, c, rest, rfl, hfront, hc⟩ := ih hj
        refine ⟨b :: front, c, rest, rfl, fun a ha => ?_, hc⟩
        rcases List.mem_cons.mp ha with rfl | ha
        · by_contra hnot
          exact hline (not_or.mp hnot)
        · exact hfront a ha

/-- A request ends somewhere in the fills, or nowhere. -/
lemma exists_endsAt_or_unfinished (fills : List Bytes) :
    (∃ taken rest, EndsAt fills taken rest) ∨ ∀ fill ∈ fills, IsUnfinished fill := by
  induction fills with
  | nil => exact .inr fun _ hfill => absurd hfill List.not_mem_nil
  | cons fill fills ih =>
    have hnil : ∀ fill ∈ ([] : List Bytes), IsUnfinished fill :=
      fun _ h => absurd h List.not_mem_nil
    by_cases hspace : SP ∈ fill
    · obtain ⟨front, rest, rfl, hfirst⟩ := List.eq_append_cons_of_mem hspace
      exact .inl ⟨_, _, .space (List.nil_append _).symm hnil hfirst⟩
    cases hcommand : findOneCharacterProtocol fill with
    | some i =>
      obtain ⟨front, c, rest, rfl, hfront, hc⟩ := exists_of_findOneCharacterProtocol hcommand
      have hrest : SP ∉ rest := fun hmem =>
        hspace (List.mem_append_right _ (List.mem_cons_of_mem _ hmem))
      exact .inl ⟨_, _, .command (List.nil_append _).symm hnil hfront hc hrest⟩
    | none =>
      have hcons : ∀ before : List Bytes, (∀ fill ∈ before, IsUnfinished fill) →
          ∀ fill' ∈ fill :: before, IsUnfinished fill' := by
        intro before hbefore fill' hfill'
        rcases List.mem_cons.mp hfill' with rfl | hfill'
        · exact ⟨hspace, hcommand⟩
        · exact hbefore fill' hfill'
      rcases ih with ⟨_, _, hends⟩ | hall
      · cases hends with
        | @space before behind front rest cut unfinished first =>
          have hcut : fill :: fills = (fill :: before) ++ (front ++ SP :: rest) :: behind := by
            rw [cut, List.cons_append]
          exact .inl ⟨_, _, .space hcut (hcons before unfinished) first⟩
        | @command before behind front rest c cut unfinished lineEndings isCommand hrest =>
          have hcut : fill :: fills = (fill :: before) ++ (front ++ c :: rest) :: behind := by
            rw [cut, List.cons_append]
          exact .inl ⟨_, _, .command hcut (hcons before unfinished) lineEndings isCommand hrest⟩
      · exact .inr (hcons fills hall)

lemma takeFills_of_unfinished {fills : List Bytes} (h : ∀ fill ∈ fills, IsUnfinished fill) :
    takeFills fills = (fills.flatten, false) := by
  have happend := takeFills_append h []
  simpa [takeFills] using happend

/-- The fills are what the connection holds. -/
lemma BufReader.flatten_fillsFrom {turns : ℕ} (reader : BufReader)
    (h : reader.held.length < turns) : (reader.fillsFrom turns).flatten = reader.held := by
  induction turns generalizing reader with
  | zero => omega
  | succ turns ih =>
    rw [fillsFrom]
    rcases reader.fillBuf_cases with ⟨b, rest, stream, hfill, hheld, -⟩ | ⟨hheld, hfill⟩
    · rw [hfill]
      dsimp only
      have hlength : (held ⟨[], stream⟩).length < turns := by
        have hreceived : held ⟨[], stream⟩ = stream.received := List.nil_append _
        rw [hheld, List.length_append, List.length_cons] at h
        rw [hreceived]
        omega
      rw [List.flatten_cons, ih _ hlength, hheld]
      rfl
    · rw [hfill, hheld]
      cases reader.stream.readEnd <;> rfl

lemma BufReader.flatten_fills (reader : BufReader) : reader.fills.flatten = reader.held :=
  reader.flatten_fillsFrom (Nat.lt_succ_self _)

/-! ## What an event leaves -/

/-- What was taken is the request `0`, or nothing but line endings. -/
abbrev IsExit (taken : Bytes) : Prop :=
  ∀ b ∈ (taken.drop (skipCount taken)).head?, b = 0x30

/-- **No complete request is behind the one that an event takes**, or the connection is closed. -/
def IsAlone (fills : List Bytes) : Prop :=
  ∀ taken rest, EndsAt fills taken rest → requests rest = [] ∨ IsExit taken

/-- **An event closes the connection**: it takes the request `0`, or the stream has ended. -/
inductive IsClosing (fills : List Bytes) (readEnd : ReadEnd) : Prop
  | request {taken rest : Bytes} (ends : EndsAt fills taken rest) (exit : IsExit taken)
  | ended (unfinished : ∀ fill ∈ fills, IsUnfinished fill) (eof : readEnd = .Eof)
      (exit : IsExit fills.flatten)
  | failed (unfinished : ∀ fill ∈ fills, IsUnfinished fill) (failed : readEnd = .Failed)

/-- What an event hands on and leaves, from where its request ends in the fills. -/
lemma readRequest_of_endsAt {reader : BufReader} {taken rest : Bytes}
    (h : EndsAt reader.fills taken rest) :
    ∃ reader' buffer', readRequest reader [] =
        .ok (readingOfTaken taken true reader.stream.readEnd, reader', buffer') ∧
      reader'.held = rest := by
  obtain ⟨htake, hflatten⟩ := h.takeFills
  obtain ⟨reader', hread, hheld, -, -⟩ := readRequest_eq reader
  rw [htake] at hread hheld
  rw [← reader.flatten_fills, hflatten] at hheld
  exact ⟨reader', _, hread, (List.append_cancel_left hheld).symm⟩

lemma readRequest_of_unfinished {reader : BufReader}
    (h : ∀ fill ∈ reader.fills, IsUnfinished fill) :
    ∃ reader' buffer', readRequest reader [] =
        .ok (readingOfTaken reader.held false reader.stream.readEnd, reader', buffer') ∧
      reader'.held = [] := by
  obtain ⟨reader', hread, -, hnil, -⟩ := readRequest_eq reader
  rw [takeFills_of_unfinished h, reader.flatten_fills] at hread
  rw [takeFills_of_unfinished h] at hnil
  exact ⟨reader', _, hread, hnil rfl⟩

/-- A reading ends the connection where it is a close, or the request `0`. -/
def Reading.IsExit : Reading → Prop
  | .request buffer => buffer.head? = some 0x30
  | .result handled _ => handled = .Exit

lemma readingOfTaken_isExit_of_done {taken : Bytes} {readEnd : ReadEnd} :
    (readingOfTaken taken true readEnd).IsExit ↔ IsExit taken := by
  rw [readingOfTaken, if_pos (Or.inl rfl), Yaskkserv2.IsExit]
  by_cases hnil : taken.drop (skipCount taken) = []
  · rw [if_pos hnil, hnil]
    simp [Reading.IsExit]
  · rw [if_neg hnil, Reading.IsExit]
    obtain ⟨b, request, hcons⟩ := List.exists_cons_of_ne_nil hnil
    rw [hcons]
    simp

/-- **An event that ends the connection finds it closing.** -/
lemma isClosing_of_isExit {reader reader' : BufReader} {reading : Reading} {buffer' : Bytes}
    (hread : readRequest reader [] = .ok (reading, reader', buffer')) (hexit : reading.IsExit) :
    IsClosing reader.fills reader.stream.readEnd := by
  rcases exists_endsAt_or_unfinished reader.fills with ⟨taken, rest, hends⟩ | hall
  · obtain ⟨_, _, hread', -⟩ := readRequest_of_endsAt hends
    rw [hread', Outcome.ok.injEq, Prod.mk.injEq] at hread
    rw [← hread.1, readingOfTaken_isExit_of_done] at hexit
    exact .request hends hexit
  · obtain ⟨_, _, hread', -⟩ := readRequest_of_unfinished hall
    rw [hread', Outcome.ok.injEq, Prod.mk.injEq] at hread
    rw [← hread.1] at hexit
    cases hend : reader.stream.readEnd with
    | WouldBlock =>
      rw [hend] at hexit
      exact absurd hexit (by simp [readingOfTaken, Reading.IsExit])
    | Eof =>
      rw [hend, readingOfTaken, if_pos (Or.inr rfl)] at hexit
      refine .ended hall rfl ?_
      rw [reader.flatten_fills]
      have hdone : (readingOfTaken reader.held true .Eof).IsExit := by
        rw [readingOfTaken, if_pos (Or.inl rfl)]
        exact hexit
      exact readingOfTaken_isExit_of_done.mp hdone
    | Failed => exact .failed hall rfl

/-- An event that leaves the connection open, and nothing behind the request it takes. -/
lemma requests_held_eq_nil_of_isAlone {reader reader' : BufReader} {reading : Reading}
    {buffer' : Bytes} (hread : readRequest reader [] = .ok (reading, reader', buffer'))
    (halone : IsAlone reader.fills) (hopen : ¬ reading.IsExit) : requests reader'.held = [] := by
  rcases exists_endsAt_or_unfinished reader.fills with ⟨taken, rest, hends⟩ | hall
  · obtain ⟨_, _, hread', hheld⟩ := readRequest_of_endsAt hends
    rw [hread', Outcome.ok.injEq, Prod.mk.injEq, Prod.mk.injEq] at hread
    obtain ⟨rfl, rfl, -⟩ := hread
    rw [hheld]
    exact (halone taken rest hends).resolve_right
      fun hexit => hopen (readingOfTaken_isExit_of_done.mpr hexit)
  · obtain ⟨_, _, hread', hheld⟩ := readRequest_of_unfinished hall
    rw [hread', Outcome.ok.injEq, Prod.mk.injEq, Prod.mk.injEq] at hread
    obtain ⟨-, rfl, -⟩ := hread
    rw [hheld, requests_nil]

/-- An event closes its connection just when its reading ends it. -/
lemma handled_exit_iff {r : DictionaryReader} {world : GoogleWorld} {session session' : Session}
    {reader reader' reader'' : BufReader} {buffer buffer' buffer'' : Bytes} {reading : Reading}
    {handled : HandleClientResult} {replies : List Bytes}
    (hread : readRequest reader buffer = .ok (reading, reader', buffer'))
    (h : readUntilSkkServer r world session reader buffer =
      .ok (handled, replies, reader'', buffer'', session')) :
    handled = .Exit ↔ reading.IsExit := by
  obtain ⟨-, ⟨request, rfl, hhandle⟩ | ⟨⟨_, rfl⟩, -⟩⟩ := readUntilSkkServer_cases hread h
  · exact handleClient_exit_iff hhandle
  · rfl

/-! ## Requests at rest -/

/-- What the runs keep: a connection that holds a complete request has an event to come. -/
structure System.IsWatched (s : System) : Prop where
  buffer_eq : s.state.buffer = []
  pending : ∀ i reader, s.state.sockets[i]? = some (some reader) → requests reader.held ≠ [] →
    Event.token i ∈ s.ready ∨ Event.token i ∈ s.batch

lemma System.isWatched_start (maxConnections : ℕ) (session : Session) :
    (System.start maxConnections session).IsWatched where
  buffer_eq := rfl
  pending i reader h := by
    rw [System.start, LoopState.start, List.getElem?_replicate] at h
    split at h <;> simp at h

/-- The condition on the events of a run: behind the request that one takes is no complete one. -/
abbrev System.aloneEvents : System → System → Prop :=
  System.tokenSteps fun reader => IsAlone reader.fills

theorem System.IsWatched.step {r : DictionaryReader} {s s' : System}
    (hslotted : s.IsSlotted r.config.maxConnections) (h : s.IsWatched) (hstep : s.Step r s')
    (halone : System.aloneEvents s s') : s'.IsWatched := by
  refine ⟨hslotted.buffer_eq_nil h.buffer_eq hstep, fun j reader' hj hrequests => ?_⟩
  cases hstep with
  | connect stream =>
    exact (h.pending j reader' hj hrequests).imp_left Finset.mem_insert_of_mem
  | arriveQueued bytes readLengths readEnd queue _ => exact h.pending j reader' hj hrequests
  | arrive i reader bytes readLengths readEnd occupied _ =>
    rcases getElem?_set_cases hj with ⟨rfl, -⟩ | ⟨-, hj⟩
    · exact .inl (Finset.mem_insert_self _ _)
    · exact (h.pending j reader' hj hrequests).imp_left Finset.mem_insert_of_mem
  | poll batch handled nodup raised =>
    rcases h.pending j reader' hj hrequests with hready | hbatch
    · by_cases htaken : Event.token j ∈ batch
      · exact .inr htaken
      · refine .inl (Finset.mem_sdiff.mpr ⟨hready, ?_⟩)
        rwa [List.mem_toFinset]
    · rw [handled] at hbatch
      exact absurd hbatch List.not_mem_nil
  | @accept stream queue rest state batch waiting run =>
    obtain ⟨next, hempty, -, rfl⟩ := hslotted.table.accept_cases run
    have hgrow : ∀ event ∈ s.ready, event ∈ if stream.IsReadable then
        insert (Event.token s.state.nextSocketIndex) s.ready else s.ready := by
      intro event hevent
      split
      · exact Finset.mem_insert_of_mem hevent
      · exact hevent
    rcases getElem?_set_cases hj with ⟨rfl, hsocket⟩ | ⟨-, hj⟩
    · rw [Option.some.injEq] at hsocket
      subst hsocket
      have hreadable : stream.IsReadable := by
        by_contra hnot
        rw [not_or, not_not] at hnot
        exact hrequests (by rw [BufReader.held, hnot.1]; rfl)
      dsimp only
      rw [if_pos hreadable]
      exact .inl (Finset.mem_insert_self _ _)
    · exact (h.pending j reader' hj hrequests).imp_left (hgrow _)
  | @refuse stream queue rest state batch waiting run =>
    obtain ⟨-, rfl⟩ := hslotted.table.refuse_cases run
    refine (h.pending j reader' hj hrequests).imp_right fun hmem => ?_
    rw [batch] at hmem
    exact (List.mem_cons.mp hmem).resolve_left (by simp)
  | @drained rest state batch waiting run =>
    obtain rfl := drained_cases run
    refine (h.pending j reader' hj hrequests).imp_right fun hmem => ?_
    rw [batch] at hmem
    exact (List.mem_cons.mp hmem).resolve_left (by simp)
  | @token world i reader rest reading reader₁ buffer₁ replies state batch occupied read run =>
    obtain ⟨hi, -⟩ := List.getElem?_eq_some_iff.mp occupied
    obtain ⟨-, handled, reader₂, buffer₂, session, hrun, hstate⟩ := runLoopToken_cases occupied run
    have hexit := handled_exit_iff read hrun
    obtain ⟨rfl, -⟩ := readUntilSkkServer_cases read hrun
    rw [h.buffer_eq] at read
    -- the events of the other connections are still to come
    have hother : j ≠ i → s.state.sockets[j]? = some (some reader') →
        (Event.token j ∈ if state.sockets[i]? = some none then s.ready.erase (.token i)
          else s.ready) ∨ Event.token j ∈ rest := by
      intro hne hreader
      rcases h.pending j reader' hreader hrequests with hready | hmem
      · refine .inl ?_
        split
        · exact Finset.mem_erase.mpr ⟨by simpa using hne, hready⟩
        · exact hready
      · rw [batch] at hmem
        exact .inr ((List.mem_cons.mp hmem).resolve_left (by simpa using hne))
    rcases hstate with ⟨hcontinue, rfl⟩ | ⟨-, -, rfl⟩
    · rcases getElem?_set_cases hj with ⟨rfl, hsocket⟩ | ⟨hne, hj⟩
      · rw [Option.some.injEq] at hsocket
        subst hsocket
        refine absurd (requests_held_eq_nil_of_isAlone read (halone j reader batch occupied) ?_)
          hrequests
        rw [← hexit, hcontinue]
        decide
      · exact hother hne hj
    · rcases getElem?_set_cases hj with ⟨-, hsocket⟩ | ⟨hne, hj⟩
      · simp at hsocket
      · exact hother hne hj

/-- **No complete request is left at rest**, in a run whose events each find nothing complete behind
the request they take. -/
theorem System.requests_held_eq_nil {r : DictionaryReader} {session : Session} {s : System}
    (h : System.Reaches r System.aloneEvents (.start r.config.maxConnections session) s)
    (hready : s.ready = ∅) (hbatch : s.batch = []) {i : ℕ} {reader : BufReader}
    (hreader : s.state.sockets[i]? = some (some reader)) : requests reader.held = [] := by
  have hwatched : s.IsSlotted r.config.maxConnections ∧ s.IsWatched :=
    h.invariant (fun s => s.IsSlotted r.config.maxConnections ∧ s.IsWatched)
      ⟨System.isSlotted_start _ session, System.isWatched_start _ session⟩
      fun _ _ hs hstep halone => ⟨hs.1.step hstep, hs.2.step hs.1 hstep halone⟩
  by_contra hrequests
  rcases hwatched.2.pending i reader hreader hrequests with hmem | hmem
  · rw [hready] at hmem
    exact absurd hmem (Finset.notMem_empty _)
  · rw [hbatch] at hmem
    exact absurd hmem List.not_mem_nil

/-- An event that takes all that the connection holds leaves nothing. -/
lemma isAlone_of_takeFills {reader : BufReader} (h : (takeFills reader.fills).1 = reader.held) :
    IsAlone reader.fills := by
  intro taken rest hends
  obtain ⟨htake, hflatten⟩ := hends.takeFills
  rw [htake, ← reader.flatten_fills, hflatten, List.self_eq_append_right] at h
  rw [h]
  exact .inl requests_nil

/-- Two clients that have been answered, and one of them has gone. -/
theorem requests_held_eq_nil_twoSlots :
    ∃ s : System, System.Reaches twoSlots System.aloneEvents (.start 2 twoSlotsSession) s ∧
      s.ready = ∅ ∧ s.batch = [] ∧ (s.traces 0).handed = [ascii "1aab ", ascii "4a "] ∧
      (s.traces 1).handed = [ascii "1a ", ascii "0"] ∧
      ∃ reader, s.state.sockets[0]? = some (some reader) ∧ requests reader.held = [] := by
  obtain ⟨traces, sessions, -, hscripted, htrace, htraceOther⟩ := System.reaches_conversed_twoSlots
  have hreaches := hscripted.mono fun s s' h => show System.aloneEvents s s' by
    intro i reader hbatch hreader
    refine isAlone_of_takeFills ?_
    rcases (h.tokens i reader hbatch hreader).2 with rfl | rfl | rfl | rfl <;> rfl
  exact ⟨_, hreaches, rfl, rfl, congrArg Trace.handed htrace, congrArg Trace.handed htraceOther,
    { stream := {} }, rfl, System.requests_held_eq_nil hreaches rfl rfl (i := 0) rfl⟩

/-- Two requests that arrive together: the event takes the first, and no event is raised for the
second. -/
theorem not_requests_held_eq_nil_together :
    ∃ s : System, s.IsReachable oneSlot oneSlotSession ∧ s.ready = ∅ ∧ s.batch = [] ∧
      (s.traces 0).handed = [ascii "1a "] ∧
      ∃ reader, s.state.sockets[0]? = some (some reader) ∧ reader.held = ascii "1b " ∧
        requests reader.held = [ascii "1b "] := by
  have hconnect : System.IsReachable oneSlot oneSlotSession _ :=
    .tail .refl (.connect _ {}) trivial
  have hpoll : System.IsReachable oneSlot oneSlotSession _ :=
    .tail hconnect (.poll _ [.listener] rfl (List.nodup_singleton _) (by decide)) trivial
  have haccept : System.IsReachable oneSlot oneSlotSession _ :=
    .tail hpoll (.accept _ rfl rfl rfl) trivial
  have hdrained : System.IsReachable oneSlot oneSlotSession _ :=
    .tail haccept (.drained _ rfl rfl rfl) trivial
  have harrive : System.IsReachable oneSlot oneSlotSession _ :=
    .tail hdrained (.arrive _ 0 { stream := {} } (ascii "1a 1b ") [] .WouldBlock rfl rfl) trivial
  have hpollToken : System.IsReachable oneSlot oneSlotSession _ :=
    .tail harrive (.poll _ [.token 0] rfl (List.nodup_singleton _) (by decide)) trivial
  have htoken : System.IsReachable oneSlot oneSlotSession _ :=
    .tail hpollToken
      (.token _ offline 0 { stream := { received := ascii "1a 1b " } } rfl rfl rfl rfl) trivial
  exact ⟨_, htoken, by decide, rfl, rfl, { buffer := ascii "1b ", stream := {} }, rfl, rfl, rfl⟩

/-! ## The queue at rest -/

/-- What the runs keep: where a connection waits, the listener has an event to come, or the table is
full. -/
def System.IsAnnounced (maxConnections : ℕ) (s : System) : Prop :=
  s.queue ≠ [] → Event.listener ∈ s.ready ∨ Event.listener ∈ s.batch ∨
    s.state.socketsSomeCount = maxConnections

/-- The condition on the events of a run: one that closes its connection finds no connection waiting
without an event of the listener to come. -/
def System.announcedCloses (s s' : System) : Prop :=
  System.tokenSteps (fun reader => IsClosing reader.fills reader.stream.readEnd →
    s.queue ≠ [] → Event.listener ∈ s.ready ∨ Event.listener ∈ s.batch) s s'

theorem System.IsAnnounced.step {r : DictionaryReader} {s s' : System}
    (hslotted : s.IsSlotted r.config.maxConnections) (hbuffer : s.state.buffer = [])
    (h : s.IsAnnounced r.config.maxConnections) (hstep : s.Step r s')
    (hcloses : System.announcedCloses s s') : s'.IsAnnounced r.config.maxConnections := by
  intro hqueue
  cases hstep with
  | connect stream => exact .inl (Finset.mem_insert_self _ _)
  | arriveQueued bytes readLengths readEnd queue _ =>
    exact h (by rw [queue]; simp)
  | arrive i reader bytes readLengths readEnd occupied _ =>
    exact (h hqueue).imp_left Finset.mem_insert_of_mem
  | poll batch handled nodup raised =>
    rcases h hqueue with hready | hbatch | hcount
    · by_cases htaken : Event.listener ∈ batch
      · exact .inr (.inl htaken)
      · refine .inl (Finset.mem_sdiff.mpr ⟨hready, ?_⟩)
        rwa [List.mem_toFinset]
    · rw [handled] at hbatch
      exact absurd hbatch List.not_mem_nil
    · exact .inr (.inr hcount)
  | @accept stream queue rest state batch waiting run =>
    refine .inr (.inl ?_)
    dsimp only
    rw [batch]
    exact List.mem_cons_self
  | @refuse stream queue rest state batch waiting run =>
    obtain ⟨hcount, rfl⟩ := hslotted.table.refuse_cases run
    exact .inr (.inr hcount)
  | @drained rest state batch waiting run => exact absurd waiting hqueue
  | @token world i reader rest reading reader₁ buffer₁ replies state batch occupied read run =>
    obtain ⟨hi, -⟩ := List.getElem?_eq_some_iff.mp occupied
    obtain ⟨-, handled, reader₂, buffer₂, session, hrun, hstate⟩ := runLoopToken_cases occupied run
    have hexit := handled_exit_iff read hrun
    rw [hbuffer] at read
    have hkept : Event.listener ∈ s.ready ∨ Event.listener ∈ s.batch →
        (Event.listener ∈ if state.sockets[i]? = some none then s.ready.erase (.token i)
          else s.ready) ∨ Event.listener ∈ rest := by
      rintro (hready | hmem)
      · refine .inl ?_
        split
        · exact Finset.mem_erase.mpr ⟨by simp, hready⟩
        · exact hready
      · rw [batch] at hmem
        exact .inr ((List.mem_cons.mp hmem).resolve_left (by simp))
    rcases hstate with ⟨-, rfl⟩ | ⟨hclosed, -, rfl⟩
    · rcases h hqueue with hready | hmem | hcount
      · exact (hkept (.inl hready)).imp_right .inl
      · exact (hkept (.inr hmem)).imp_right .inl
      · exact .inr (.inr hcount)
    · have hclosing := isClosing_of_isExit read (hexit.mp hclosed)
      exact (hkept (hcloses i reader batch occupied hclosing hqueue)).imp_right .inl

/-- **No connection waits at rest while a slot is free**, in a run that closes no connection while
another one waits without an event of the listener to come. -/
theorem System.queue_eq_nil {r : DictionaryReader} {session : Session} {s : System}
    (h : System.Reaches r System.announcedCloses (.start r.config.maxConnections session) s)
    (hready : s.ready = ∅) (hbatch : s.batch = [])
    (hfree : s.state.socketsSomeCount < r.config.maxConnections) : s.queue = [] := by
  have hinvariant : s.IsSlotted r.config.maxConnections ∧ s.state.buffer = [] ∧
      s.IsAnnounced r.config.maxConnections :=
    h.invariant (fun s => s.IsSlotted r.config.maxConnections ∧ s.state.buffer = [] ∧
        s.IsAnnounced r.config.maxConnections)
      ⟨System.isSlotted_start _ session, rfl, fun hne => absurd rfl hne⟩
      fun _ _ hs hstep hcloses => ⟨hs.1.step hstep, hs.1.buffer_eq_nil hs.2.1 hstep,
        hs.2.2.step hs.1 hs.2.1 hstep hcloses⟩
  by_contra hqueue
  rcases hinvariant.2.2 hqueue with hmem | hmem | hcount
  · rw [hready] at hmem
    exact absurd hmem (Finset.notMem_empty _)
  · rw [hbatch] at hmem
    exact absurd hmem List.not_mem_nil
  · omega

/-- Two clients that have been answered, and one of them has gone. -/
theorem queue_eq_nil_twoSlots :
    ∃ s : System, System.Reaches twoSlots System.announcedCloses (.start 2 twoSlotsSession) s ∧
      s.ready = ∅ ∧ s.batch = [] ∧ s.state.socketsSomeCount = 1 ∧
      (s.traces 1).handed = [ascii "1a ", ascii "0"] ∧ s.queue = [] := by
  obtain ⟨traces, sessions, -, hscripted, -, htraceOther⟩ := System.reaches_conversed_twoSlots
  have hreaches := hscripted.mono fun s s' h => show System.announcedCloses s s' from
    fun i reader hbatch hreader _ hqueue =>
      absurd (h.tokens i reader hbatch hreader).1 hqueue
  exact ⟨_, hreaches, rfl, rfl, rfl, congrArg Trace.handed htraceOther,
    System.queue_eq_nil hreaches rfl rfl (show 1 < 2 by decide)⟩

/-- One slot and three connections: the second is refused, which ends the event of the listener, and
the third waits on when the first one closes. -/
theorem not_queue_eq_nil_refused :
    ∃ s : System, s.IsReachable oneSlot oneSlotSession ∧ s.ready = ∅ ∧ s.batch = [] ∧
      s.state.socketsSomeCount < oneSlot.config.maxConnections ∧ s.queue = [{}] := by
  have hfirst : System.IsReachable oneSlot oneSlotSession _ :=
    .tail .refl (.connect _ { received := ascii "0" }) trivial
  have hsecond : System.IsReachable oneSlot oneSlotSession _ :=
    .tail hfirst (.connect _ {}) trivial
  have hthird : System.IsReachable oneSlot oneSlotSession _ :=
    .tail hsecond (.connect _ {}) trivial
  have hpoll : System.IsReachable oneSlot oneSlotSession _ :=
    .tail hthird (.poll _ [.listener] rfl (List.nodup_singleton _) (by decide)) trivial
  have haccept : System.IsReachable oneSlot oneSlotSession _ :=
    .tail hpoll (.accept _ rfl rfl rfl) trivial
  have hrefuse : System.IsReachable oneSlot oneSlotSession _ :=
    .tail haccept (.refuse _ rfl rfl rfl) trivial
  have hpollToken : System.IsReachable oneSlot oneSlotSession _ :=
    .tail hrefuse (.poll _ [.token 0] rfl (List.nodup_singleton _) (by decide)) trivial
  have htoken : System.IsReachable oneSlot oneSlotSession _ :=
    .tail hpollToken
      (.token _ offline 0 { stream := { received := ascii "0" } } rfl rfl rfl rfl) trivial
  exact ⟨_, htoken, by decide, rfl, by decide, rfl⟩

end Yaskkserv2
