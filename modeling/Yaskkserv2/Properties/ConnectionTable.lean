import Yaskkserv2.Server.EventLoop

/-!
# The table of connections

A slot of the table is found for every connection that is accepted: the next free index is cached,
and whenever the table is not full, the slot it names is empty.  The cache is not kept up to date
while the table is full, but the first close sets it to the slot that has become free.
-/

namespace Yaskkserv2

open Framework DictionaryReader

/-! ## The search for an empty slot -/

lemma nextIndex_eq_mod {n i : ℕ} (hi : i < n) : nextIndex n i = (i + 1) % n := by
  rw [nextIndex]
  split
  · rename_i hend
    have heq : i + 1 = n := by omega
    rw [heq, Nat.mod_self]
  · rename_i hnot
    rw [Nat.mod_eq_of_lt (by omega)]

/-- The search visits `turns` slots from the next one on. -/
lemma searchEmptySocketsIndex_of_empty {sockets : List (Option BufReader)} {turns i d : ℕ}
    (hi : i < sockets.length) (hd : d < turns)
    (hempty : sockets[(i + 1 + d) % sockets.length]? = some none) :
    ∃ j, searchEmptySocketsIndex sockets sockets.length turns i = .ok j ∧
      sockets[j]? = some none := by
  induction turns generalizing i d with
  | zero => omega
  | succ turns ih =>
    have hnext : nextIndex sockets.length i < sockets.length := by
      rw [nextIndex_eq_mod hi]
      exact Nat.mod_lt _ (by omega)
    rw [searchEmptySocketsIndex, index_of_lt hnext, Outcome.ok_bind]
    cases hsocket : sockets[nextIndex sockets.length i] with
    | none =>
      refine ⟨_, rfl, ?_⟩
      rw [List.getElem?_eq_getElem hnext, hsocket]
    | some reader =>
      cases d with
      | zero =>
        rw [Nat.add_zero, ← nextIndex_eq_mod hi, List.getElem?_eq_getElem hnext, hsocket] at hempty
        simp at hempty
      | succ d =>
        have hshift : (nextIndex sockets.length i + 1 + d) % sockets.length =
            (i + 1 + (d + 1)) % sockets.length := by
          rw [nextIndex_eq_mod hi, Nat.add_assoc, Nat.mod_add_mod]
          congr 1
          omega
        exact ih hnext (Nat.lt_of_succ_lt_succ hd) (by rw [hshift]; exact hempty)

/-- **A table with an empty slot has one for the search to find**, and the search does not stop the
program. -/
theorem getEmptySocketsIndex_of_mem {sockets : List (Option BufReader)} {i : ℕ}
    (hi : i < sockets.length) (hmem : none ∈ sockets) :
    ∃ j, getEmptySocketsIndex sockets sockets.length i = .ok j ∧ sockets[j]? = some none := by
  obtain ⟨j, hj, hempty⟩ := List.getElem_of_mem hmem
  have hnext : nextIndex sockets.length i < sockets.length := by
    rw [nextIndex_eq_mod hi]
    exact Nat.mod_lt _ (by omega)
  rw [getEmptySocketsIndex, index_of_lt hnext, Outcome.ok_bind]
  cases hsocket : sockets[nextIndex sockets.length i] with
  | none =>
    refine ⟨_, rfl, ?_⟩
    rw [List.getElem?_eq_getElem hnext, hsocket]
  | some reader =>
    -- the empty slot is at most one round away
    refine searchEmptySocketsIndex_of_empty hnext
      (d := (j + (sockets.length - (nextIndex sockets.length i + 1))) % sockets.length)
      (Nat.mod_lt _ (by omega)) ?_
    have hround : (nextIndex sockets.length i + 1 +
        (j + (sockets.length - (nextIndex sockets.length i + 1))) % sockets.length) %
          sockets.length = j := by
      rw [Nat.add_mod_mod]
      have hsum : nextIndex sockets.length i + 1 +
          (j + (sockets.length - (nextIndex sockets.length i + 1))) = j + sockets.length := by
        omega
      rw [hsum, Nat.add_mod_right, Nat.mod_eq_of_lt hj]
    rw [hround, List.getElem?_eq_getElem hj, hempty]

/-! ## What the two steps can do -/

section Steps

variable {maxConnections : ℕ} {s s' : LoopState}

/-- The event of a connection ends with the connection kept or closed; everything else of the table
stays. -/
lemma runLoopToken_cases {r : DictionaryReader} {world : GoogleWorld} {i : ℕ} {reader : BufReader}
    (hreader : s.sockets[i]? = some (some reader)) {result : RunLoopTokenResult}
    {replies : List Bytes} (h : runLoopToken r world s i (.ok ()) = .ok (result, replies, s')) :
    result = .Nop ∧ ∃ handled reader' buffer' session,
      readUntilSkkServer r world s.session reader s.buffer =
        .ok (handled, replies, reader', buffer', session) ∧
      (handled = .Continue ∧ s' = { s with
          sockets := s.sockets.set i (some reader')
          buffer := []
          session := session } ∨
        handled = .Exit ∧ 1 ≤ s.socketsSomeCount ∧ s' = { s with
          sockets := s.sockets.set i none
          socketsSomeCount := s.socketsSomeCount - 1
          nextSocketIndex := i
          buffer := []
          session := session }) := by
  rw [runLoopToken, index_eq_ok.mpr hreader, Outcome.ok_bind, Outcome.bind_eq_ok] at h
  obtain ⟨⟨handled, replies', reader', buffer', session⟩, hread, h⟩ := h
  cases handled with
  | Continue =>
    simp only [Outcome.pure_eq, Outcome.ok.injEq, Prod.mk.injEq] at h
    obtain ⟨rfl, rfl, rfl⟩ := h
    exact ⟨rfl, _, _, _, _, hread, .inl ⟨rfl, rfl⟩⟩
  | Exit =>
    dsimp only at h
    rw [checkedSub] at h
    split at h
    · rename_i hcount
      simp only [Outcome.ok_bind, Outcome.pure_eq, Outcome.ok.injEq, Prod.mk.injEq] at h
      obtain ⟨rfl, rfl, rfl⟩ := h
      exact ⟨rfl, _, _, _, _, hread, .inr ⟨rfl, hcount, rfl⟩⟩
    · simp at h

/-- The table as the program sees it: the counter counts, and the cached index is free. -/
structure IsTable (maxConnections : ℕ) (s : LoopState) : Prop where
  length_eq : s.sockets.length = maxConnections
  count_eq : s.socketsSomeCount = s.sockets.countP Option.isSome
  next_empty : s.socketsSomeCount < maxConnections → s.sockets[s.nextSocketIndex]? = some none

lemma IsTable.count_le (h : IsTable maxConnections s) : s.socketsSomeCount ≤ maxConnections := by
  rw [h.count_eq, ← h.length_eq]
  exact List.countP_le_length

lemma isTable_start (maxConnections : ℕ) (session : Session) :
    IsTable maxConnections (.start maxConnections session) where
  length_eq := List.length_replicate
  count_eq := by simp [LoopState.start, List.countP_replicate]
  next_empty h := by
    simp only [LoopState.start] at h ⊢
    rw [List.getElem?_replicate, if_pos h]

/-- **An accepted connection gets an empty slot**, or is dropped where the table is full. -/
theorem IsTable.runLoopListener (h : IsTable maxConnections s) (stream : TcpStream) :
    (s.socketsSomeCount = maxConnections ∧
        runLoopListener maxConnections s (.ok stream) (.ok ()) = .ok (.Break, s)) ∨
      ∃ next, s.sockets[s.nextSocketIndex]? = some none ∧
        runLoopListener maxConnections s (.ok stream) (.ok ()) = .ok (.Nop, { s with
          sockets := s.sockets.set s.nextSocketIndex (some { stream := stream })
          socketsSomeCount := s.socketsSomeCount + 1
          nextSocketIndex := next }) ∧
        IsTable maxConnections { s with
          sockets := s.sockets.set s.nextSocketIndex (some { stream := stream })
          socketsSomeCount := s.socketsSomeCount + 1
          nextSocketIndex := next } := by
  rw [Yaskkserv2.runLoopListener]
  by_cases hfull : s.socketsSomeCount ≥ maxConnections
  · have hle := h.count_le
    rw [if_pos hfull]
    exact .inl ⟨by omega, rfl⟩
  · have hempty := h.next_empty (by omega)
    obtain ⟨hi, hnone⟩ := List.getElem?_eq_some_iff.mp hempty
    have hcount : (s.sockets.set s.nextSocketIndex (some { stream := stream })).countP
        Option.isSome = s.socketsSomeCount + 1 := by
      rw [List.countP_set hi, hnone, ← h.count_eq]
      rfl
    rw [if_neg hfull]
    dsimp only
    rw [if_pos hi]
    by_cases hmore : s.socketsSomeCount + 1 < maxConnections
    · have hmem : none ∈ s.sockets.set s.nextSocketIndex (some { stream := stream }) := by
        by_contra hnot
        have hall : (s.sockets.set s.nextSocketIndex (some { stream := stream })).countP
            Option.isSome =
              (s.sockets.set s.nextSocketIndex (some { stream := stream })).length := by
          rw [List.countP_eq_length]
          intro socket hsocket
          cases socket with
          | none => exact absurd hsocket hnot
          | some reader => rfl
        rw [hcount, List.length_set, h.length_eq] at hall
        omega
      obtain ⟨j, hsearch, hj⟩ := getEmptySocketsIndex_of_mem
        (i := s.nextSocketIndex) (by rwa [List.length_set]) hmem
      rw [if_pos hmore, hsearch]
      refine .inr ⟨j, hempty, rfl, ?_, ?_, fun _ => hj⟩
      · rw [List.length_set, h.length_eq]
      · exact hcount.symm
    · rw [if_neg hmore]
      refine .inr ⟨s.nextSocketIndex, hempty, rfl, ?_, ?_, fun hlt => absurd hlt hmore⟩
      · rw [List.length_set, h.length_eq]
      · exact hcount.symm

/-- What an accept that goes on has done. -/
lemma IsTable.accept_cases (h : IsTable maxConnections s) {stream : TcpStream}
    (run : Yaskkserv2.runLoopListener maxConnections s (.ok stream) (.ok ()) = .ok (.Nop, s')) :
    ∃ next, s.sockets[s.nextSocketIndex]? = some none ∧ IsTable maxConnections s' ∧
      s' = { s with
        sockets := s.sockets.set s.nextSocketIndex (some { stream := stream })
        socketsSomeCount := s.socketsSomeCount + 1
        nextSocketIndex := next } := by
  rcases h.runLoopListener stream with ⟨-, hfull⟩ | ⟨next, hempty, haccepted, htable⟩
  · rw [hfull] at run
    simp at run
  · rw [haccepted, Outcome.ok.injEq, Prod.mk.injEq] at run
    obtain ⟨-, rfl⟩ := run
    exact ⟨next, hempty, htable, rfl⟩

/-- What an accept that breaks the loop has done: nothing, for the table is full. -/
lemma IsTable.refuse_cases (h : IsTable maxConnections s) {stream : TcpStream}
    (run : Yaskkserv2.runLoopListener maxConnections s (.ok stream) (.ok ()) = .ok (.Break, s')) :
    s.socketsSomeCount = maxConnections ∧ s' = s := by
  rcases h.runLoopListener stream with ⟨hcount, hfull⟩ | ⟨next, -, haccepted, -⟩
  · rw [hfull, Outcome.ok.injEq, Prod.mk.injEq] at run
    exact ⟨hcount, run.2.symm⟩
  · rw [haccepted] at run
    simp at run

/-- Where no connection waits, the listener leaves everything as it is. -/
lemma drained_cases {result : RunLoopListenerResult} {register : Except SkkError Unit}
    (run : runLoopListener maxConnections s (.error .WouldBlock) register = .ok (result, s')) :
    s' = s := by
  rw [runLoopListener, Outcome.ok.injEq, Prod.mk.injEq] at run
  exact run.2.symm

/-- The table does not see what a connection holds. -/
lemma IsTable.set_occupied (h : IsTable maxConnections s) {i : ℕ} {reader : BufReader}
    (hreader : s.sockets[i]? = some (some reader)) (new : BufReader) :
    IsTable maxConnections { s with sockets := s.sockets.set i (some new) } := by
  obtain ⟨hi, hget⟩ := List.getElem?_eq_some_iff.mp hreader
  have hpos : 0 < s.sockets.countP Option.isSome :=
    List.countP_pos_iff.mpr ⟨_, List.getElem_mem hi, by rw [hget]; rfl⟩
  refine ⟨by rw [List.length_set, h.length_eq], ?_, fun hlt => ?_⟩
  · dsimp only
    rw [List.countP_set hi, hget, h.count_eq]
    simp only [Option.isSome_some, if_true]
    omega
  · have hempty := h.next_empty hlt
    have hne : i ≠ s.nextSocketIndex := by
      rintro rfl
      rw [hreader] at hempty
      simp at hempty
    dsimp only
    rw [List.getElem?_set_ne hne, hempty]

/-- The event of a connection keeps the table. -/
theorem IsTable.runLoopToken (h : IsTable maxConnections s) {r : DictionaryReader}
    {world : GoogleWorld} {i : ℕ} {reader : BufReader}
    (hreader : s.sockets[i]? = some (some reader)) {result : RunLoopTokenResult}
    {replies : List Bytes} (hrun : runLoopToken r world s i (.ok ()) = .ok (result, replies, s')) :
    IsTable maxConnections s' := by
  obtain ⟨hi, hget⟩ := List.getElem?_eq_some_iff.mp hreader
  obtain ⟨-, handled, reader', buffer', session, -, ⟨-, rfl⟩ | ⟨-, hcount, rfl⟩⟩ :=
    runLoopToken_cases hreader hrun
  · have hset := h.set_occupied hreader reader'
    exact ⟨hset.length_eq, hset.count_eq, hset.next_empty⟩
  · refine ⟨by rw [List.length_set, h.length_eq], ?_, fun _ => ?_⟩
    · dsimp only
      rw [List.countP_set hi, hget, h.count_eq]
      simp
    · exact List.getElem?_set_self hi

end Steps

/-! ## Runs -/

/-- What every state of a run has: a table whose registered connections are the occupied slots. -/
structure System.IsSlotted (maxConnections : ℕ) (s : System) : Prop where
  table : IsTable maxConnections s.state
  batch_nodup : s.batch.Nodup
  batch_occupied : ∀ i, Event.token i ∈ s.batch → ∃ reader, s.state.sockets[i]? = some (some reader)
  ready_occupied : ∀ i, Event.token i ∈ s.ready → ∃ reader, s.state.sockets[i]? = some (some reader)

lemma System.isSlotted_start (maxConnections : ℕ) (session : Session) :
    (System.start maxConnections session).IsSlotted maxConnections where
  table := isTable_start maxConnections session
  batch_nodup := List.nodup_nil
  batch_occupied i h := by simp [System.start] at h
  ready_occupied i h := by simp [System.start] at h

/-- The rest of a batch. -/
lemma System.IsSlotted.popBatch {maxConnections : ℕ} {s : System} (h : s.IsSlotted maxConnections)
    {event : Event} {rest : List Event} (hbatch : s.batch = event :: rest) :
    ({ s with batch := rest } : System).IsSlotted maxConnections := by
  have hnodup := h.batch_nodup
  rw [hbatch] at hnodup
  refine ⟨h.table, (List.nodup_cons.mp hnodup).2, fun i hi => h.batch_occupied i ?_,
    h.ready_occupied⟩
  rw [hbatch]
  exact List.mem_cons_of_mem event hi

/-- An occupied slot is still occupied after another slot, or the same, was filled. -/
lemma occupied_set {sockets : List (Option BufReader)} {i j : ℕ} (new : BufReader)
    (h : ∃ reader, sockets[j]? = some (some reader)) :
    ∃ reader, (sockets.set i (some new))[j]? = some (some reader) := by
  obtain ⟨reader, hreader⟩ := h
  rw [List.getElem?_set, hreader]
  split
  · rename_i heq
    subst heq
    rw [if_pos (List.getElem?_eq_some_iff.mp hreader).1]
    exact ⟨new, rfl⟩
  · exact ⟨reader, rfl⟩

/-- A slot other than the one that was set is as it was. -/
lemma getElem?_set_cases {sockets : List (Option BufReader)} {i j : ℕ} {socket : Option BufReader}
    {reader : BufReader} (h : (sockets.set i socket)[j]? = some (some reader)) :
    j = i ∧ socket = some reader ∨ j ≠ i ∧ sockets[j]? = some (some reader) := by
  by_cases hij : j = i
  · subst hij
    rw [List.getElem?_set, if_pos rfl] at h
    split at h
    · rw [Option.some.injEq] at h
      exact .inl ⟨rfl, h⟩
    · simp at h
  · rw [List.getElem?_set_ne (Ne.symm hij)] at h
    exact .inr ⟨hij, h⟩

/-- **Every step keeps the table.** -/
theorem System.IsSlotted.step {r : DictionaryReader} {s s' : System}
    (h : s.IsSlotted r.config.maxConnections) (hstep : s.Step r s') :
    s'.IsSlotted r.config.maxConnections := by
  cases hstep with
  | connect stream =>
    exact ⟨h.table, h.batch_nodup, h.batch_occupied, fun i hi => h.ready_occupied i (by
      simpa using hi)⟩
  | arriveQueued bytes readLengths readEnd queue _ =>
    exact ⟨h.table, h.batch_nodup, h.batch_occupied, h.ready_occupied⟩
  | arrive i reader bytes readLengths readEnd occupied _ =>
    refine ⟨h.table.set_occupied occupied _, h.batch_nodup,
      fun j hj => occupied_set _ (h.batch_occupied j hj), fun j hj => ?_⟩
    dsimp only at hj
    rw [Finset.mem_insert, Event.token.injEq] at hj
    rcases hj with rfl | hj
    · exact occupied_set _ ⟨reader, occupied⟩
    · exact occupied_set _ (h.ready_occupied j hj)
  | poll batch handled nodup raised =>
    refine ⟨h.table, nodup, fun i hi => ?_, fun i hi => ?_⟩
    · exact h.ready_occupied i (raised (List.mem_toFinset.mpr hi))
    · exact h.ready_occupied i (Finset.mem_sdiff.mp hi).1
  | @accept stream queue rest state batch waiting run =>
    obtain ⟨next, hempty, htable, rfl⟩ := h.table.accept_cases run
    have hi := (List.getElem?_eq_some_iff.mp hempty).1
    refine ⟨htable, h.batch_nodup, fun j hj => occupied_set _ (h.batch_occupied j hj),
      fun j hj => ?_⟩
    have hready : Event.token j ∈ insert (Event.token s.state.nextSocketIndex) s.ready := by
      dsimp only at hj
      split at hj
      · exact hj
      · exact Finset.mem_insert_of_mem hj
    rw [Finset.mem_insert, Event.token.injEq] at hready
    rcases hready with rfl | hready
    · exact ⟨_, List.getElem?_set_self hi⟩
    · exact occupied_set _ (h.ready_occupied j hready)
  | @refuse stream queue rest state batch waiting run =>
    obtain ⟨-, rfl⟩ := h.table.refuse_cases run
    have hpop := h.popBatch batch
    exact ⟨hpop.table, hpop.batch_nodup, hpop.batch_occupied, hpop.ready_occupied⟩
  | @drained rest state batch waiting run =>
    obtain rfl := drained_cases run
    exact h.popBatch batch
  | @token world i reader rest reading reader' buffer' replies state batch occupied read run =>
    have htable := h.table.runLoopToken occupied run
    have hpop := h.popBatch batch
    have hnot : Event.token i ∉ rest := by
      have hnodup := h.batch_nodup
      rw [batch] at hnodup
      exact (List.nodup_cons.mp hnodup).1
    obtain ⟨hi, -⟩ := List.getElem?_eq_some_iff.mp occupied
    obtain ⟨-, handled, reader', buffer', session, -, ⟨-, rfl⟩ | ⟨-, hcount, rfl⟩⟩ :=
      runLoopToken_cases occupied run
    · refine ⟨htable, hpop.batch_nodup, fun j hj => occupied_set _ (hpop.batch_occupied j hj),
        fun j hj => ?_⟩
      dsimp only at hj
      rw [List.getElem?_set_self hi, if_neg (by simp)] at hj
      exact occupied_set _ (h.ready_occupied j hj)
    · -- the events of the closed connection are gone, the other connections are still there
      have hother : ∀ j, j ≠ i → (∃ reader, s.state.sockets[j]? = some (some reader)) →
          ∃ reader, (s.state.sockets.set i none)[j]? = some (some reader) := by
        intro j hj hoccupied
        rw [List.getElem?_set_ne (Ne.symm hj)]
        exact hoccupied
      refine ⟨htable, hpop.batch_nodup, fun j hj => hother j ?_ (hpop.batch_occupied j hj),
        fun j hj => ?_⟩
      · rintro rfl
        exact hnot hj
      · dsimp only at hj
        rw [List.getElem?_set_self hi, if_pos rfl, Finset.mem_erase] at hj
        exact hother j (fun heq => hj.1 (by rw [heq])) (h.ready_occupied j hj.2)

/-- The shared buffer is empty between the events. -/
lemma System.IsSlotted.buffer_eq_nil {r : DictionaryReader} {s s' : System}
    (h : s.IsSlotted r.config.maxConnections) (hbuffer : s.state.buffer = [])
    (hstep : s.Step r s') : s'.state.buffer = [] := by
  cases hstep with
  | connect | arriveQueued | arrive | poll => exact hbuffer
  | accept _ _ run =>
    obtain ⟨next, -, -, rfl⟩ := h.table.accept_cases run
    exact hbuffer
  | refuse _ _ run =>
    obtain ⟨-, rfl⟩ := h.table.refuse_cases run
    exact hbuffer
  | drained _ _ run =>
    obtain rfl := drained_cases run
    exact hbuffer
  | token _ _ _ _ occupied _ run =>
    obtain ⟨-, _, _, _, _, -, ⟨-, rfl⟩ | ⟨-, -, rfl⟩⟩ := runLoopToken_cases occupied run <;> rfl

/-- **Connection slots are never lost, overwritten or over-filled.**  In every state of a run the
counter is the number of occupied slots, the table is not over-full, and below the maximum the
cached index is free.  So a connection that is accepted gets an empty slot, the search for one does
not stop the program, and the event of a connection finds it in its slot. -/
theorem connectionTable_invariant {r : DictionaryReader} {session : Session} {s : System}
    (h : s.IsReachable r session) :
    s.state.socketsSomeCount = s.state.sockets.countP Option.isSome ∧
      s.state.socketsSomeCount ≤ r.config.maxConnections ∧
      (s.state.socketsSomeCount < r.config.maxConnections →
        s.state.sockets[s.state.nextSocketIndex]? = some none) ∧
      (∀ stream register, (runLoopListener r.config.maxConnections s.state (.ok stream)
          register).Returns ∧
        ∀ state, runLoopListener r.config.maxConnections s.state (.ok stream) register =
            .ok (.Nop, state) →
          s.state.sockets[s.state.nextSocketIndex]? = some none ∧
          state.sockets =
            s.state.sockets.set s.state.nextSocketIndex (some { stream := stream })) ∧
      ∀ i rest, s.batch = .token i :: rest → ∀ world deregister replies state,
        runLoopToken r world s.state i deregister ≠ .ok (.Return, replies, state) := by
  have hslotted : s.IsSlotted r.config.maxConnections := h.invariant _
    (System.isSlotted_start _ session) fun _ _ hs hstep _ => hs.step hstep
  have htable := hslotted.table
  refine ⟨htable.count_eq, htable.count_le, htable.next_empty, fun stream register => ?_, ?_⟩
  · cases register with
    | error e =>
      rw [runLoopListener]
      split <;> simp
    | ok _ =>
      rcases htable.runLoopListener stream with ⟨-, hrun⟩ | ⟨next, hempty, hrun, -⟩
      · rw [hrun]
        simp
      · rw [hrun]
        refine ⟨trivial, fun state hstate => ⟨hempty, ?_⟩⟩
        rw [Outcome.ok.injEq, Prod.mk.injEq] at hstate
        rw [← hstate.2]
  · intro i rest hbatch world deregister replies state hrun
    obtain ⟨reader, hreader⟩ := hslotted.batch_occupied i (by rw [hbatch]; exact List.mem_cons_self)
    rw [runLoopToken, index_eq_ok.mpr hreader, Outcome.ok_bind, Outcome.bind_eq_ok] at hrun
    obtain ⟨⟨handled, replies', reader', buffer', session'⟩, -, hrun⟩ := hrun
    cases handled with
    | Continue => simp at hrun
    | Exit =>
      cases deregister with
      | error e => simp at hrun
      | ok _ =>
        dsimp only at hrun
        rw [Outcome.bind_eq_ok] at hrun
        obtain ⟨count, -, hrun⟩ := hrun
        simp at hrun

/-! ## A run of two clients -/

/-- A request whose connection goes on. -/
lemma runLoopToken_of_continue {r : DictionaryReader} {world : GoogleWorld} {s : LoopState} {i : ℕ}
    {reader reader' : BufReader} (hreader : s.sockets[i]? = some (some reader))
    (hbuffer : s.buffer = []) {request buffer' : Bytes}
    (hread : readRequest reader [] = .ok (.request request, reader', buffer'))
    {replies : List Bytes} {session : Session}
    (hhandle : r.handleClient world s.session request = .ok (.Continue, replies, session)) :
    runLoopToken r world s i (.ok ()) = .ok (.Nop, replies, { s with
      sockets := s.sockets.set i (some reader')
      buffer := []
      session := session }) := by
  rw [runLoopToken, index_eq_ok.mpr hreader, Outcome.ok_bind, hbuffer]
  dsimp only
  rw [readUntilSkkServer, hread, Outcome.ok_bind]
  dsimp only
  rw [hhandle]
  rfl

/-- What each step meets of the run of `System.reaches_conversed`: the sessions are known, every
event is handled in one world, and the events of connections find these streams and no connection
that waits. -/
structure System.IsScripted (world : GoogleWorld) (sessions : List Session) (s s' : System) :
    Prop where
  session_mem : s'.state.session ∈ sessions
  handles : System.handlesIn (· = world) s s'
  tokens : System.tokenSteps (fun reader => s.queue = [] ∧
    (reader = { stream := { received := ascii "1aab ", readLengths := [0, 1] } } ∨
      reader = { stream := { received := ascii "1a " } } ∨
      reader = { stream := { received := ascii "0" } } ∨
      reader = { stream := { received := ascii "4a " } })) s s'

section Scripted

variable {world : GoogleWorld} {sessions : List Session} {s s' : System}

lemma System.isScripted_of_traces_eq (hsession : s'.state.session ∈ sessions)
    (hbatch : ∀ i, s.batch ≠ .token i :: s'.batch) (htraces : s'.traces = s.traces) :
    System.IsScripted world sessions s s' := by
  refine ⟨hsession, fun i world' hinputs => ?_, fun i _ htoken => absurd htoken (hbatch i)⟩
  rw [htraces] at hinputs
  simp at hinputs

/-- The trace of a connection ends in what has arrived. -/
lemma System.isScripted_of_arrive (hsession : s'.state.session ∈ sessions)
    (hbatch : ∀ i, s.batch ≠ .token i :: s'.batch) {i : ℕ} {trace : Trace} {bytes : Bytes}
    {readLengths : List ℕ} {readEnd : ReadEnd} (htraces : s'.traces =
      Function.update s.traces i (trace.push (.arrive bytes readLengths readEnd) [] [])) :
    System.IsScripted world sessions s s' := by
  refine ⟨hsession, fun j world' hinputs => ?_, fun j _ htoken => absurd htoken (hbatch j)⟩
  rw [htraces, Function.update_apply] at hinputs
  split at hinputs
  · have hlast := congrArg List.getLast? hinputs
    simp [Trace.push] at hlast
  · simp at hinputs

lemma System.isScripted_of_handle (hsession : s'.state.session ∈ sessions) (hqueue : s.queue = [])
    {i : ℕ} (hbatch : s.batch = .token i :: s'.batch) {reader : BufReader}
    (hreader : s.state.sockets[i]? = some (some reader))
    (hmem : reader = { stream := { received := ascii "1aab ", readLengths := [0, 1] } } ∨
      reader = { stream := { received := ascii "1a " } } ∨
      reader = { stream := { received := ascii "0" } } ∨
      reader = { stream := { received := ascii "4a " } })
    {handed replies : List Bytes} (htraces : s'.traces =
      Function.update s.traces i ((s.traces i).push (.handle world) handed replies)) :
    System.IsScripted world sessions s s' := by
  refine ⟨hsession, fun j world' hinputs => ?_, fun j reader' htoken hreader' => ⟨hqueue, ?_⟩⟩
  · rw [htraces, Function.update_apply] at hinputs
    split at hinputs
    · rename_i hj
      subst hj
      rw [Trace.push] at hinputs
      simpa using (List.append_cancel_left hinputs).symm
    · simp at hinputs
  · rw [hbatch, List.cons.injEq, Event.token.injEq] at htoken
    rw [← htoken.1, hreader, Option.some.injEq, Option.some.injEq] at hreader'
    exact hreader' ▸ hmem

end Scripted

/-- The events that are raised, told in another way. -/
lemma System.Reaches.of_ready_eq {r : DictionaryReader} {meets : System → System → Prop}
    {s₀ : System} {state : LoopState} {queue : List TcpStream} {ready ready' : Finset Event}
    {batch : List Event} {traces : ℕ → Trace}
    (h : System.Reaches r meets s₀ ⟨state, queue, ready, batch, traces⟩) (hready : ready = ready') :
    System.Reaches r meets s₀ ⟨state, queue, ready', batch, traces⟩ := hready ▸ h

/-- A server with two slots where one client has got its answers and the other one has gone. -/
def System.conversed (session : Session) (traces : ℕ → Trace) : System where
  state := {
    sockets := [some { stream := {} }, none]
    socketsSomeCount := 1
    nextSocketIndex := 1
    session := session }
  traces := traces

/-- Two clients have connected and asked. -/
def System.bothAsked (session : Session) (traces : ℕ → Trace) : System where
  state := {
    sockets := [some { stream := { received := ascii "1aab ", readLengths := [0, 1] } },
      some { stream := { received := ascii "1a " } }]
    socketsSomeCount := 2
    nextSocketIndex := 1
    session := session }
  batch := [.token 0, .token 1]
  traces := traces

/-- Both have their answers, and have sent another request. -/
def System.bothAnswered (session : Session) (traces : ℕ → Trace) : System where
  state := {
    sockets := [some { stream := { received := ascii "4a " } },
      some { stream := { received := ascii "0" } }]
    socketsSomeCount := 2
    nextSocketIndex := 1
    session := session }
  batch := [.token 1, .token 0]
  traces := traces

section Conversation

variable {r : DictionaryReader} {world : GoogleWorld} {sessions : List Session}
  {session : Session}

variable (world) in
lemma System.exists_bothAsked (htwo : r.config.maxConnections = 2) (hmem : session ∈ sessions) :
    ∃ traces, System.Reaches r (System.IsScripted world sessions) (.start 2 session)
        (.bothAsked session traces) ∧
      traces 0 = ⟨[.arrive (ascii "1aab ") [0, 1] .WouldBlock], [], []⟩ ∧
      traces 1 = ⟨[.arrive (ascii "1a ") [] .WouldBlock], [], []⟩ := by
  -- both connect before the listener is asked
  have hpolled : System.Reaches r (System.IsScripted world sessions) (.start 2 session)
      ⟨.start 2 session, [{ received := ascii "1aab ", readLengths := [0, 1] },
        { received := ascii "1a " }], ∅, [.listener], fun _ => {}⟩ := by
    have hconnect : System.Reaches r (System.IsScripted world sessions) (.start 2 session) _ :=
      .tail .refl (.connect _ { received := ascii "1aab ", readLengths := [0, 1] })
        (System.isScripted_of_traces_eq hmem (fun i h => by cases h) rfl)
    have hconnectOther := hconnect.tail (.connect _ { received := ascii "1a " })
      (System.isScripted_of_traces_eq hmem (fun i h => by cases h) rfl)
    refine System.Reaches.of_ready_eq (hconnectOther.tail
      (.poll _ [.listener] rfl (List.nodup_singleton _) (by simp))
      (System.isScripted_of_traces_eq hmem (fun i h => by cases h) rfl)) ?_
    dsimp only [System.start]
    decide
  have haccept := hpolled.tail (.accept _ rfl rfl (by rw [htwo]; rfl))
    (System.isScripted_of_arrive hmem (fun i h => by cases h) rfl)
  have hacceptOther := haccept.tail (.accept _ rfl rfl (by rw [htwo]; rfl))
    (System.isScripted_of_arrive hmem (fun i h => by cases h) rfl)
  have hdrained := hacceptOther.tail (.drained _ rfl rfl rfl)
    (System.isScripted_of_traces_eq hmem (fun i h => by cases h) rfl)
  refine ⟨_, System.Reaches.of_ready_eq (hdrained.tail
    (.poll _ [.token 0, .token 1] rfl (by decide) (by dsimp only [LoopState.start]; decide))
    (System.isScripted_of_traces_eq hmem (fun i h => by cases h) rfl)) ?_, rfl, rfl⟩
  dsimp only [LoopState.start]
  decide

variable {session₁ session₂ : Session} {s₀ : System} {traces : ℕ → Trace}
  {found other : List Bytes}

/-- Each has its answer before more arrives. -/
lemma System.exists_bothAnswered (h : System.Reaches r (System.IsScripted world sessions) s₀
      (.bothAsked session traces)) (hmem₁ : session₁ ∈ sessions) (hmem₂ : session₂ ∈ sessions)
    (hfound : r.handleClient world session (ascii "1aab ") = .ok (.Continue, found, session₁))
    (hother : r.handleClient world session₁ (ascii "1a ") = .ok (.Continue, other, session₂)) :
    ∃ traces', System.Reaches r (System.IsScripted world sessions) s₀
        (.bothAnswered session₂ traces') ∧
      traces' 0 = ((traces 0).push (.handle world) [ascii "1aab "] found).push
        (.arrive (ascii "4a ") [] .WouldBlock) [] [] ∧
      traces' 1 = ((traces 1).push (.handle world) [ascii "1a "] other).push
        (.arrive (ascii "0") [] .WouldBlock) [] [] := by
  have hread : readRequest { stream := { received := ascii "1aab ", readLengths := [0, 1] } } [] =
    .ok (.request (ascii "1aab "), { stream := {} }, ascii "1aab ") := rfl
  have hreadOther : readRequest { stream := { received := ascii "1a " } } [] =
    .ok (.request (ascii "1a "), { stream := {} }, ascii "1a ") := rfl
  have hfirst := h.tail
    (.token _ world 0 _ rfl rfl hread (runLoopToken_of_continue rfl rfl hread hfound))
    (System.isScripted_of_handle hmem₁ rfl rfl rfl (.inl rfl) rfl)
  have hsecond := hfirst.tail
    (.token _ world 1 _ rfl rfl hreadOther (runLoopToken_of_continue rfl rfl hreadOther hother))
    (System.isScripted_of_handle hmem₂ rfl rfl rfl (.inr (.inl rfl)) rfl)
  have hsettled : System.Reaches r (System.IsScripted world sessions) s₀
      ⟨{ sockets := [some { stream := {} }, some { stream := {} }]
         socketsSomeCount := 2, nextSocketIndex := 1, session := session₂ }, [], ∅, [], _⟩ :=
    hsecond
  have harrive := hsettled.tail
    (.arrive _ 0 { stream := {} } (ascii "4a ") [] .WouldBlock rfl rfl)
    (System.isScripted_of_arrive hmem₂ (fun i h => by cases h) rfl)
  have harriveOther := harrive.tail
    (.arrive _ 1 { stream := {} } (ascii "0") [] .WouldBlock rfl rfl)
    (System.isScripted_of_arrive hmem₂ (fun i h => by cases h) rfl)
  refine ⟨_, System.Reaches.of_ready_eq (harriveOther.tail
    (.poll _ [.token 1, .token 0] rfl (by decide) (by dsimp only; decide))
    (System.isScripted_of_traces_eq hmem₂ (fun i h => by cases h) rfl)) ?_, ?_, ?_⟩
  · dsimp only
    decide
  · simp [Trace.push, Reading.requests, System.bothAsked]
  · simp [Trace.push, Reading.requests, System.bothAsked]

end Conversation

/-- **Two clients at once.**  One looks `aab` up, in a request that is read in three pieces, and
later asks for the completions of `a`; between these the other one looks `a` up and goes. -/
theorem System.reaches_conversed {r : DictionaryReader} (htwo : r.config.maxConnections = 2)
    {world : GoogleWorld} {session session₁ session₂ session₃ : Session}
    {found other completed : List Bytes}
    (hfound : r.handleClient world session (ascii "1aab ") = .ok (.Continue, found, session₁))
    (hother : r.handleClient world session₁ (ascii "1a ") = .ok (.Continue, other, session₂))
    (hcompleted :
      r.handleClient world session₂ (ascii "4a ") = .ok (.Continue, completed, session₃)) :
    ∃ traces, System.Reaches r
        (System.IsScripted world [session, session₁, session₂, session₃])
        (.start r.config.maxConnections session) (.conversed session₃ traces) ∧
      traces 0 = ⟨[.arrive (ascii "1aab ") [0, 1] .WouldBlock, .handle world,
          .arrive (ascii "4a ") [] .WouldBlock, .handle world],
        [ascii "1aab ", ascii "4a "], found ++ completed⟩ ∧
      traces 1 = ⟨[.arrive (ascii "1a ") [] .WouldBlock, .handle world,
          .arrive (ascii "0") [] .WouldBlock, .handle world],
        [ascii "1a ", ascii "0"], other⟩ := by
  set sessions := [session, session₁, session₂, session₃] with hsessions
  have hmem₂ : session₂ ∈ sessions := by simp [hsessions]
  obtain ⟨traces, hasked, htrace, htraceOther⟩ :=
    System.exists_bothAsked world htwo (show session ∈ sessions by simp [hsessions])
  obtain ⟨traces', hanswered, htrace', htraceOther'⟩ :=
    System.exists_bothAnswered hasked (by simp [hsessions]) hmem₂ hfound hother
  have hread : readRequest { stream := { received := ascii "0" } } [] =
      .ok (.request (ascii "0"), { stream := {} }, ascii "0") := rfl
  have hreadCompletion : readRequest { stream := { received := ascii "4a " } } [] =
      .ok (.request (ascii "4a "), { stream := {} }, ascii "4a ") := rfl
  have hclosed := hanswered.tail (.token _ world 1 _ rfl rfl hread rfl)
    (System.isScripted_of_handle hmem₂ rfl rfl rfl (.inr (.inr (.inl rfl))) rfl)
  have hlast := hclosed.tail (.token _ world 0 _ rfl rfl hreadCompletion
      (runLoopToken_of_continue rfl rfl hreadCompletion hcompleted))
    (System.isScripted_of_handle (by simp [hsessions]) rfl rfl rfl (.inr (.inr (.inr rfl))) rfl)
  rw [htwo]
  refine ⟨_, System.Reaches.of_ready_eq hlast (by simp [System.bothAnswered]), ?_, ?_⟩
  · simp [Trace.push, htrace', htrace, Reading.requests, System.bothAnswered]
  · simp [Trace.push, htraceOther', htraceOther, Reading.requests, System.bothAnswered]

/-- A server with one slot, and a dictionary without entries. -/
def oneSlot : DictionaryReader where
  config := { maxConnections := 1, googleTiming := .Disable }
  onMemory := ⟨{}, ∅, List.replicate INDEX_ASCII_HIRAGANA_VEC_LENGTH []⟩
  tables := .empty

def oneSlotSession : Session := { dictionaryFile := { file := [], buffer := [] } }

/-- The blocks of a dictionary with two entries, each in a unit of its own. -/
def twoUnits : Bytes := ascii "\na /b/\n\naab /y/z/\n"

/-- A server with two slots, and the dictionary of these blocks. -/
def twoSlots : DictionaryReader where
  config := { maxConnections := 2, googleTiming := .Disable }
  onMemory := ⟨{ encoding := Encoding.Euc.toU32 }, ∅,
    (List.replicate INDEX_ASCII_HIRAGANA_VEC_LENGTH []).set 0x61
      [⟨ascii "aab", 7, 11⟩, ⟨ascii "a", 0, 7⟩]⟩
  tables := .empty

def twoSlotsSession : Session := ⟨.new twoUnits 0, ∅⟩

/-- The session behind a read of these blocks. -/
def twoSlotsSessionAt (seekPosition readLength : ℕ) (buffer : Bytes) : Session :=
  ⟨⟨twoUnits, [], seekPosition, readLength, buffer⟩, ∅⟩

/-- The unit of `aab` is the second. -/
lemma handleClient_twoSlots : twoSlots.handleClient offline twoSlotsSession (ascii "1aab ") =
    .ok (.Continue, [ascii "1/y/z/\n"], twoSlotsSessionAt 7 11 (ascii "\naab /y/z/\n")) := rfl

/-- The two clients of `System.reaches_conversed` with the replies of this dictionary. -/
lemma System.reaches_conversed_twoSlots :
    ∃ traces sessions, (∀ session ∈ sessions, session.dictionaryFile.readLength ≤
        session.dictionaryFile.file.length - session.dictionaryFile.seekPosition) ∧
      System.Reaches twoSlots (System.IsScripted offline sessions) (.start 2 twoSlotsSession)
        (.conversed (twoSlotsSessionAt 7 11 (ascii "\naab /y/z/\n")) traces) ∧
      traces 0 = ⟨[.arrive (ascii "1aab ") [0, 1] .WouldBlock, .handle offline,
          .arrive (ascii "4a ") [] .WouldBlock, .handle offline],
        [ascii "1aab ", ascii "4a "], [ascii "1/y/z/\n", ascii "1/a/aab/\n"]⟩ ∧
      traces 1 = ⟨[.arrive (ascii "1a ") [] .WouldBlock, .handle offline,
          .arrive (ascii "0") [] .WouldBlock, .handle offline],
        [ascii "1a ", ascii "0"], [ascii "1/b/\n"]⟩ := by
  have hother : twoSlots.handleClient offline
      (twoSlotsSessionAt 7 11 (ascii "\naab /y/z/\n")) (ascii "1a ") =
        .ok (.Continue, [ascii "1/b/\n"], twoSlotsSessionAt 0 7 (ascii "\na /b/\n/z/\n")) := rfl
  have hcompleted : twoSlots.handleClient offline
      (twoSlotsSessionAt 0 7 (ascii "\na /b/\n/z/\n")) (ascii "4a ") =
        .ok (.Continue, [ascii "1/a/aab/\n"], twoSlotsSessionAt 7 11 (ascii "\naab /y/z/\n")) := rfl
  obtain ⟨traces, hreaches, htrace, htraceOther⟩ :=
    System.reaches_conversed rfl handleClient_twoSlots hother hcompleted
  refine ⟨traces, _, ?_, hreaches, htrace, htraceOther⟩
  decide

/-- A slot that has become free is taken by the next client. -/
theorem connectionTable_invariant_twoSlots :
    ∃ s : System, s.IsReachable twoSlots twoSlotsSession ∧
      s.state.sockets = [some { stream := {} }, some { stream := { received := ascii "2" } }] ∧
      s.state.socketsSomeCount = 2 := by
  obtain ⟨traces, sessions, -, hreaches, -⟩ := System.reaches_conversed_twoSlots
  have hconversed : System.IsReachable twoSlots twoSlotsSession _ :=
    hreaches.mono fun _ _ _ => trivial
  have hconnect := hconversed.tail (.connect _ { received := ascii "2" }) trivial
  have hpoll := hconnect.tail (.poll _ [.listener] rfl (List.nodup_singleton _) (by simp)) trivial
  have haccept := hpoll.tail (.accept _ rfl rfl rfl) trivial
  exact ⟨_, haccept, rfl, (connectionTable_invariant haccept).1⟩

end Yaskkserv2
