import Yaskkserv2.Server.EventLoop

/-!
# What one event reads

An event of a connection reads fill by fill: what was read ahead, then one read of the stream after
the other, until a fill ends a request or nothing is left.  Here the loop of
`read_until_skk_server` is brought to that form.  It always comes back, whatever bytes arrive and
however the reads cut them, and what it takes and what stays held are together what was held before.
-/

namespace Yaskkserv2

open Framework DictionaryReader

/-! ## Fills -/

/-- What the `fill_buf` calls to come return until nothing is left, with that many turns to go. -/
def BufReader.fillsFrom : ℕ → BufReader → List Bytes
  | 0, _ => []
  | turns + 1, reader =>
    match reader.fillBuf with
    | (.ok (b :: rest), reader) => (b :: rest) :: fillsFrom turns { reader with buffer := [] }
    | _ => []

/-- What the `fill_buf` calls to come return: no fill is empty, so there are no more of them than
bytes. -/
def BufReader.fills (reader : BufReader) : List Bytes := reader.fillsFrom (reader.held.length + 1)

/-- What is taken of the fills, and whether a request ends there. -/
def takeFills : List Bytes → Bytes × Bool
  | [] => ([], false)
  | fill :: fills =>
    if (takeAvailable fill).2 then takeAvailable fill
    else (fill ++ (takeFills fills).1, (takeFills fills).2)

/-- A read has room for at least one byte. -/
lemma TcpStream.exists_readLength_eq_succ (stream : TcpStream) {capacity : ℕ}
    (h : 0 < capacity) : ∃ n, stream.readLength capacity = n + 1 := by
  unfold readLength
  cases stream.readLengths with
  | nil => exact ⟨capacity - 1, by dsimp only; omega⟩
  | cons k _ => exact ⟨min capacity (k + 1) - 1, by dsimp only; omega⟩

/-- A `fill_buf` returns something of what the connection holds, or nothing is held. -/
lemma BufReader.fillBuf_cases (reader : BufReader) :
    (∃ b rest stream, reader.fillBuf = (.ok (b :: rest), ⟨b :: rest, stream⟩) ∧
        reader.held = (b :: rest) ++ stream.received ∧
        stream.readEnd = reader.stream.readEnd) ∨
      reader.held = [] ∧ reader.fillBuf =
        (match reader.stream.readEnd with
        | .WouldBlock => .error .WouldBlock
        | .Eof => .ok []
        | .Failed => .error .Other, reader) := by
  obtain ⟨buffer, stream⟩ := reader
  rw [fillBuf, held]
  dsimp only
  cases buffer with
  | cons b rest =>
    rw [if_pos (List.cons_ne_nil b rest)]
    exact .inl ⟨b, rest, stream, rfl, rfl, rfl⟩
  | nil =>
    rw [if_neg (not_not.mpr rfl), TcpStream.read, List.nil_append]
    by_cases hreceived : stream.received = []
    · rw [if_pos hreceived, hreceived]
      refine .inr ⟨rfl, ?_⟩
      cases stream.readEnd <;> rfl
    · obtain ⟨b, rest, hcons⟩ := List.exists_cons_of_ne_nil hreceived
      rw [if_neg hreceived]
      obtain ⟨n, hn⟩ := stream.exists_readLength_eq_succ (by decide : 0 < DEFAULT_BUF_SIZE)
      dsimp only
      rw [hn, hcons, List.take_succ_cons, List.drop_succ_cons]
      refine .inl ⟨b, rest.take n, _, rfl, ?_, rfl⟩
      dsimp only
      rw [List.cons_append, List.take_append_drop]

/-- What is taken of a fill is its front, and all of it where no request ends. -/
lemma takeAvailable_spec {available : Bytes} (h : available ≠ []) :
    (takeAvailable available).1 ≠ [] ∧ (takeAvailable available).1 <+: available ∧
      ((takeAvailable available).2 = false → (takeAvailable available).1 = available) := by
  have htake : ∀ i, available.take (i + 1) ≠ [] := by
    intro i
    rw [ne_eq, List.take_eq_nil_iff, not_or]
    exact ⟨Nat.succ_ne_zero i, h⟩
  unfold takeAvailable
  split
  · exact ⟨htake _, List.take_prefix _ _, by simp⟩
  · split
    · exact ⟨htake _, List.take_prefix _ _, by simp⟩
    · exact ⟨h, List.prefix_refl _, fun _ => rfl⟩

/-- What the loop returns where the fills end without a request. -/
def readEndResult (read : ℕ) : ReadEnd → Except ReadError ℕ
  | .WouldBlock => .error .WouldBlock
  | .Eof => .ok read
  | .Failed => .error .Other

/-- The loop takes what `takeFills` says, and leaves the rest. -/
lemma loop_readUntilTurn {turns fuel : ℕ} (reader : BufReader) (buffer : Bytes) (read : ℕ)
    (hturns : reader.held.length < turns) (hfuel : reader.held.length < fuel) :
    ∃ reader' : BufReader, loop readUntilTurn fuel ⟨reader, buffer, read⟩ = .ok
        (if (takeFills (reader.fillsFrom turns)).2 then
            .ok (read + (takeFills (reader.fillsFrom turns)).1.length)
          else readEndResult (read + (takeFills (reader.fillsFrom turns)).1.length)
            reader.stream.readEnd,
          reader', buffer ++ (takeFills (reader.fillsFrom turns)).1) ∧
      reader.held = (takeFills (reader.fillsFrom turns)).1 ++ reader'.held ∧
      ((takeFills (reader.fillsFrom turns)).2 = false → reader'.held = []) ∧
      reader'.stream.readEnd = reader.stream.readEnd := by
  induction turns generalizing reader buffer read fuel with
  | zero => omega
  | succ turns ih =>
    obtain ⟨fuel, rfl⟩ : ∃ n, fuel = n + 1 := ⟨fuel - 1, by omega⟩
    rw [BufReader.fillsFrom]
    rcases reader.fillBuf_cases with ⟨b, rest, stream, hfill, hheld, hend⟩ | ⟨hheld, hfill⟩
    · rw [hfill]
      dsimp only
      cases htake : takeAvailable (b :: rest) with
      | mk taken done =>
      obtain ⟨hne, ⟨left, hleft⟩, hall⟩ := takeAvailable_spec (List.cons_ne_nil b rest)
      rw [htake] at hne hleft hall
      dsimp only at hne hleft hall
      have hpos : taken.length ≠ 0 := by simpa using hne
      have hdrop : (b :: rest).drop taken.length = left := by
        rw [← hleft, List.drop_left]
      cases done with
      | true =>
        have hturn : readUntilTurn ⟨reader, buffer, read⟩ = .ok (.inr
            (.ok (read + taken.length), ⟨left, stream⟩, buffer ++ taken)) := by
          rw [readUntilTurn, hfill]
          dsimp only [BufReader.consume]
          rw [htake]
          dsimp only
          rw [if_pos (Or.inl rfl), hdrop]
        rw [loop_break hturn]
        simp only [takeFills, htake, if_true]
        refine ⟨⟨left, stream⟩, rfl, ?_, by simp, hend⟩
        rw [hheld, ← hleft, List.append_assoc]
        rfl
      | false =>
        have htaken := hall rfl
        subst htaken
        have hleftNil : left = [] := by simpa using hleft
        have hturn : readUntilTurn ⟨reader, buffer, read⟩ = .ok (.inl
            ⟨⟨[], stream⟩, buffer ++ (b :: rest), read + (b :: rest).length⟩) := by
          rw [readUntilTurn, hfill]
          dsimp only [BufReader.consume]
          rw [htake]
          dsimp only
          rw [if_neg (by simp), hdrop, hleftNil]
        have hless : (BufReader.held ⟨[], stream⟩).length < reader.held.length := by
          rw [hheld, BufReader.held, List.length_append, List.length_append]
          simp
        have hfuel' : (BufReader.held ⟨[], stream⟩).length < fuel := by omega
        obtain ⟨reader', hloop, hsplit, hnil, hend'⟩ :=
          ih ⟨[], stream⟩ (buffer ++ (b :: rest)) (read + (b :: rest).length) (by omega) hfuel'
        rw [loop_continue hturn, hloop]
        simp only [takeFills, htake, Bool.false_eq_true, if_false]
        refine ⟨reader', ?_, ?_, hnil, hend'.trans hend⟩
        · rw [hend, List.length_append, List.append_assoc, Nat.add_assoc]
        · rw [hheld, List.append_assoc, ← hsplit]
          rfl
    · have hbuffer : reader.buffer = [] := (List.append_eq_nil_iff.mp hheld).1
      have hturn : readUntilTurn ⟨reader, buffer, read⟩ =
          .ok (.inr (readEndResult read reader.stream.readEnd, reader, buffer)) := by
        rw [readUntilTurn, hfill]
        obtain ⟨readAhead, stream⟩ := reader
        dsimp only at hbuffer
        subst hbuffer
        cases stream.readEnd <;>
          simp [takeAvailable, find, findOneCharacterProtocol, readEndResult, BufReader.consume]
      have hnone : takeFills (BufReader.fillsFrom (turns + 1) reader) = ([], false) := by
        rw [BufReader.fillsFrom, hfill]
        cases reader.stream.readEnd <;> rfl
      rw [loop_break hturn]
      rw [BufReader.fillsFrom] at hnone
      rw [hnone]
      exact ⟨reader, by simp, by simp, fun _ => hheld, rfl⟩

/-- **One event reads** what `takeFills` says of the fills, and nothing else. -/
theorem BufReader.readUntilSkkServer_eq (reader : BufReader) (buffer : Bytes) :
    ∃ reader' : BufReader, reader.readUntilSkkServer buffer = .ok
        (if (takeFills reader.fills).2 then .ok (takeFills reader.fills).1.length
          else readEndResult (takeFills reader.fills).1.length reader.stream.readEnd,
          reader', buffer ++ (takeFills reader.fills).1) ∧
      reader.held = (takeFills reader.fills).1 ++ reader'.held ∧
      ((takeFills reader.fills).2 = false → reader'.held = []) ∧
      reader'.stream.readEnd = reader.stream.readEnd := by
  have hturns : reader.held.length < reader.held.length + 1 := by omega
  have hfuel : reader.held.length < reader.held.length + 2 := by omega
  have hloop := loop_readUntilTurn reader buffer 0 hturns hfuel
  rw [Nat.zero_add] at hloop
  exact hloop

/-! ## From what was read to a request -/

abbrev IsLineEnding (b : UInt8) : Prop := b = LF ∨ b = CR

/-- How many line endings are skipped in front of a request: two at most. -/
def skipCount (buffer : Bytes) : ℕ := ((buffer.take 2).takeWhile fun b => IsLineEnding b).length

lemma skipCount_le (buffer : Bytes) : skipCount buffer ≤ buffer.length := by
  rw [skipCount]
  have htake := (List.takeWhile_prefix (fun b => decide (IsLineEnding b))
    (l := buffer.take 2)).length_le
  rw [List.length_take] at htake
  omega

lemma getBufferSkipCount_eq (buffer : Bytes) :
    getBufferSkipCount buffer buffer.length = .ok (skipCount buffer) := by
  rw [getBufferSkipCount, skipCount]
  rcases buffer with _ | ⟨b₀, _ | ⟨b₁, rest⟩⟩
  · rfl
  · by_cases h₀ : b₀ = LF ∨ b₀ = CR <;> simp [h₀, IsLineEnding]
  · have h1 : (index (b₀ :: b₁ :: rest) 1 : Result UInt8) = .ok b₁ := rfl
    by_cases h₀ : b₀ = LF ∨ b₀ = CR <;> by_cases h₁ : b₁ = LF ∨ b₁ = CR <;>
      simp [h₀, h₁, h1, IsLineEnding]

/-- What becomes of what one event has taken. -/
def readingOfTaken (taken : Bytes) (done : Bool) (readEnd : ReadEnd) : Reading :=
  if done ∨ readEnd = .Eof then
    if taken.drop (skipCount taken) = [] then .result .Exit false
    else .request (taken.drop (skipCount taken))
  else if readEnd = .WouldBlock then .result .Continue false
  else .result .Exit true

/-- **A request is read without a panic**, from any bytes. -/
theorem readRequest_eq (reader : BufReader) :
    ∃ reader' : BufReader, readRequest reader [] = .ok
        (readingOfTaken (takeFills reader.fills).1 (takeFills reader.fills).2
          reader.stream.readEnd, reader', (takeFills reader.fills).1) ∧
      reader.held = (takeFills reader.fills).1 ++ reader'.held ∧
      ((takeFills reader.fills).2 = false → reader'.held = []) ∧
      reader'.stream.readEnd = reader.stream.readEnd := by
  obtain ⟨reader', hread, hheld, hnil, hend⟩ := reader.readUntilSkkServer_eq []
  refine ⟨reader', ?_, hheld, hnil, hend⟩
  rw [readRequest, hread, List.nil_append, Outcome.ok_bind]
  cases takeFills reader.fills with
  | mk taken done =>
  dsimp only
  have hok : readingOf (.ok taken.length) taken = .ok (if taken.drop (skipCount taken) = [] then
      .result .Exit false else .request (taken.drop (skipCount taken))) := by
    cases taken with
    | nil => rfl
    | cons b rest =>
      have hle := skipCount_le (b :: rest)
      have hskip : getBufferSkipCount (b :: rest) (rest.length + 1) =
          .ok (skipCount (b :: rest)) := getBufferSkipCount_eq _
      have hdrop : (b :: rest).drop (skipCount (b :: rest)) = [] ↔
          rest.length + 1 = skipCount (b :: rest) := by
        rw [List.drop_eq_nil_iff, List.length_cons] at *
        omega
      rw [List.length_cons] at hle
      rw [List.length_cons, readingOf, hskip, Outcome.ok_bind]
      · by_cases hall : rest.length + 1 = skipCount (b :: rest)
        · rw [if_pos hall, if_pos (hdrop.mpr hall)]
          rfl
        · have hmore : rest.length + 1 - skipCount (b :: rest) > 0 := by omega
          rw [if_neg hall, if_neg (fun hnil => hall (hdrop.mp hnil)), checkedSub, if_pos hle,
            Outcome.ok_bind, if_pos hmore, sliceFrom_of_le hle]
          rfl
      · exact Nat.succ_ne_zero _
  unfold readingOfTaken
  cases done with
  | true => rw [if_pos rfl, hok, if_pos (Or.inl rfl), Outcome.ok_bind, Outcome.pure_eq]
  | false =>
    cases reader.stream.readEnd with
    | WouldBlock => rfl
    | Eof =>
      rw [if_neg Bool.false_ne_true, readEndResult, hok, if_pos (Or.inr rfl), Outcome.ok_bind,
        Outcome.pure_eq]
    | Failed => rfl

end Yaskkserv2
