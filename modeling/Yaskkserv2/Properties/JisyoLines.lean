import Yaskkserv2.MakeDictionary.JisyoReader

/-!
# The lines of a jisyo

The loop over a jisyo takes the text up to the next CR or LF, and remembers whether the last line
ended with a CR, so that the LF of a CRLF is no line of its own.  Whatever the reads return of the
text, every terminated line is processed without its terminator (`loop_lineTurn_terminated`).

The last byte of what was read is dropped as the terminator also where the text ends without one, so
an unterminated last line is processed without its last byte (`readLines_eq`).
-/

namespace Yaskkserv2

open Framework

namespace JisyoReader

/-! ## Lines and their ends -/

/-- A line without its end. -/
abbrev IsLine (line : Bytes) : Prop := ∀ b ∈ line, ¬ (b = LF ∨ b = CR)

lemma isLine_nil : IsLine [] := fun _ hb => absurd hb List.not_mem_nil

/-- The ends of a line. -/
inductive LineEnd where
  | lf
  | crlf
  | cr
  deriving DecidableEq, Repr

def LineEnd.bytes : LineEnd → Bytes
  | .lf => [LF]
  | .crlf => [CR, LF]
  | .cr => [CR]

/-- The text of lines that are all ended. -/
def endedText (lines : List (Bytes × LineEnd)) : Bytes :=
  lines.flatMap fun line => line.1 ++ line.2.bytes

section Process

variable (t : EncodingTables) (jisyoEncoding : Encoding) (outputEncoding : Option Encoding)

/-- What a line does to the entries. -/
def processLine (m : JisyoEntriesMap) (line : Bytes) : Result JisyoEntriesMap := do
  if ← isSkipAndPrintWarning line then return m
  updateJisyoEntriesMap t m line jisyoEncoding outputEncoding

/-- What the lines of a jisyo do to the entries. -/
def processLines (m : JisyoEntriesMap) (lines : List Bytes) : Result JisyoEntriesMap :=
  lines.foldlM (processLine t jisyoEncoding outputEncoding) m

end Process

/-! ## Reading up to the end of a line -/

section ReadUntil

variable (fails : Bool) {fills : List Bytes} {line rest : Bytes} {c : UInt8}

lemma flatten_fillsOf (readLengths : List ℕ) (bytes : Bytes) :
    (fillsOf readLengths bytes).flatten = bytes := by
  induction readLengths generalizing bytes with
  | nil => cases bytes <;> simp [fillsOf]
  | cons n readLengths ih => cases bytes <;> simp [fillsOf, ih]

lemma findCrOrLf_append (hline : IsLine line) (hc : c = LF ∨ c = CR) (rest : Bytes) :
    findCrOrLf (line ++ c :: rest) = some line.length := by
  rw [findCrOrLf, List.findIdx?_eq_some_iff_getElem]
  refine ⟨by simp, ?_, fun j hj => ?_⟩
  · simpa using hc
  · rw [List.getElem_append_left hj]
    simpa using hline _ (List.getElem_mem hj)

lemma findCrOrLf_eq_none (hline : IsLine line) : findCrOrLf line = none := by
  rw [findCrOrLf, List.findIdx?_eq_none_iff]
  intro b hb
  simpa using hline b hb

/-- **A line is read up to its end**, wherever the fills cut it. -/
lemma readUntilSkkJisyo_of_end (hfills : fills.flatten = line ++ c :: rest) (hline : IsLine line)
    (hc : c = LF ∨ c = CR) :
    ∃ fills', readUntilSkkJisyo fails fills = (some (line ++ [c]), fills') ∧
      fills'.flatten = rest := by
  induction fills generalizing line with
  | nil => simp at hfills
  | cons available fills ih =>
    rw [List.flatten_cons] at hfills
    rcases List.append_eq_append_iff.mp hfills with ⟨later, rfl, hlater⟩ | ⟨more, rfl, hmore⟩
    · -- the end is in a later fill
      have havailable : IsLine available := fun b hb => hline b (List.mem_append_left _ hb)
      obtain ⟨fills', hread, hrest⟩ := ih hlater fun b hb => hline b (List.mem_append_right _ hb)
      refine ⟨fills', ?_, hrest⟩
      rw [readUntilSkkJisyo, findCrOrLf_eq_none havailable, hread]
      simp
    · cases more with
      | nil =>
        obtain ⟨fills', hread, hrest⟩ :=
          ih (show fills.flatten = [] ++ c :: rest from hmore.symm) isLine_nil
        refine ⟨fills', ?_, hrest⟩
        rw [List.append_nil, readUntilSkkJisyo, findCrOrLf_eq_none hline, hread]
        rfl
      | cons b more =>
        obtain ⟨rfl, rfl⟩ := List.cons_eq_cons.mp hmore
        refine ⟨more :: fills, ?_, rfl⟩
        rw [readUntilSkkJisyo, findCrOrLf_append hline hc]
        simp [List.take_append]

/-- What is left where no line ends any more. -/
lemma readUntilSkkJisyo_of_isLine (hline : IsLine fills.flatten) :
    readUntilSkkJisyo fails fills = (if fails then none else some fills.flatten, []) := by
  induction fills with
  | nil => rfl
  | cons available fills ih =>
    rw [List.flatten_cons] at hline ⊢
    have havailable : IsLine available := fun b hb => hline b (List.mem_append_left _ hb)
    rw [readUntilSkkJisyo, findCrOrLf_eq_none havailable,
      ih fun b hb => hline b (List.mem_append_right _ hb)]
    cases fails <;> simp

end ReadUntil

/-! ## The loop over the lines -/

section Loop

variable {t : EncodingTables} {jisyoEncoding : Encoding} {outputEncoding : Option Encoding}
  {fails isLastCr : Bool} {fills : List Bytes} {line rest : Bytes} {c : UInt8}

/-- What is left of a line is the line without its last byte. -/
lemma chompLine_eq (hne : line ≠ []) (hnew : isLastCr = true → line.head? ≠ some LF) :
    chompLine isLastCr line = .ok (some line.dropLast) := by
  obtain ⟨first, bytes, rfl⟩ := List.exists_cons_of_ne_nil hne
  have hnot : ¬ (isLastCr = true ∧ first = LF) := by
    rintro ⟨hcr, rfl⟩
    exact hnew hcr rfl
  rw [chompLine, index_cons_zero, Outcome.ok_bind, if_neg hnot, sliceTo_of_le (Nat.sub_le _ _),
    ← List.dropLast_eq_take]
  rfl

/-- A turn processes what it reads without the last byte. -/
lemma lineTurn_of_read {fills' : List Bytes}
    (hread : readUntilSkkJisyo fails fills = (some (line ++ [c]), fills'))
    (hnew : isLastCr = true → (line ++ [c]).head? ≠ some LF) (m : JisyoEntriesMap) :
    lineTurn t jisyoEncoding outputEncoding fails ⟨m, isLastCr, fills⟩ = (do
      let m ← processLine t jisyoEncoding outputEncoding m line
      return .inl ⟨m, c = CR, fills'⟩) := by
  have hne : line ++ [c] ≠ [] := List.append_ne_nil_of_right_ne_nil line (List.cons_ne_nil c [])
  have hchomp := chompLine_eq hne hnew
  have hlast : (index (line ++ [c]) ((line ++ [c]).length - 1) : Result UInt8) = .ok c := by
    rw [List.length_append, List.length_singleton, Nat.add_sub_cancel, index_append_length,
      index_cons_zero]
  rw [List.dropLast_concat] at hchomp
  rw [lineTurn, hread]
  obtain ⟨b, bs, hcons⟩ := List.exists_cons_of_ne_nil hne
  rw [hcons] at hchomp hlast ⊢
  dsimp only
  rw [hchomp, Outcome.ok_bind]
  dsimp only
  rw [hlast, Outcome.ok_bind, processLine]
  cases hskip : isSkipAndPrintWarning line with
  | ok skip => cases skip <;> rfl
  | _ => rfl

/-- A turn that reads a line processes it without its end. -/
lemma lineTurn_line (hfills : fills.flatten = line ++ c :: rest) (hline : IsLine line)
    (hc : c = LF ∨ c = CR) (hnew : isLastCr = true → line ++ [c] ≠ [LF]) :
    ∃ fills', fills'.flatten = rest ∧
      ∀ m, lineTurn t jisyoEncoding outputEncoding fails ⟨m, isLastCr, fills⟩ = (do
        let m ← processLine t jisyoEncoding outputEncoding m line
        return .inl ⟨m, c = CR, fills'⟩) := by
  obtain ⟨fills', hread, hrest⟩ := readUntilSkkJisyo_of_end fails hfills hline hc
  refine ⟨fills', hrest, lineTurn_of_read hread ?_⟩
  intro hcr hhead
  cases line with
  | nil => exact hnew hcr (congrArg (fun b => [b]) (Option.some.inj hhead))
  | cons b line => exact hline b List.mem_cons_self (.inl (Option.some.inj hhead))

/-- The LF of a CRLF is passed over. -/
lemma lineTurn_lf (hfills : fills.flatten = LF :: rest) :
    ∃ fills', fills'.flatten = rest ∧
      ∀ m, lineTurn t jisyoEncoding outputEncoding fails ⟨m, true, fills⟩ =
        .ok (.inl ⟨m, true, fills'⟩) := by
  obtain ⟨fills', hread, hrest⟩ := readUntilSkkJisyo_of_end fails
    (show fills.flatten = [] ++ LF :: rest from hfills) isLine_nil (.inl rfl)
  refine ⟨fills', hrest, fun m => ?_⟩
  rw [lineTurn, hread]
  rfl

/-- **A line with its end** is processed, whichever end it has: what follows is read on from
there. -/
lemma loop_lineTurn_line {fuel : ℕ} {lineEnd : LineEnd}
    (hfills : fills.flatten = line ++ lineEnd.bytes ++ rest) (hline : IsLine line)
    (hfuel : fills.flatten.length < fuel) :
    ∃ fuel' isLastCr' fills', fills'.flatten = rest ∧ rest.length < fuel' ∧
      ∀ m, loop (lineTurn t jisyoEncoding outputEncoding fails) fuel ⟨m, isLastCr, fills⟩ = (do
        let m ← processLine t jisyoEncoding outputEncoding m line
        loop (lineTurn t jisyoEncoding outputEncoding fails) fuel' ⟨m, isLastCr', fills'⟩) := by
  rw [hfills] at hfuel
  obtain ⟨fuel, rfl⟩ : ∃ n, fuel = n + 1 := ⟨fuel - 1, by omega⟩
  have hone : ∀ {c : UInt8} {rest' : Bytes}, fills.flatten = line ++ c :: rest' →
      (c = LF ∨ c = CR) → (isLastCr = true → line ++ [c] ≠ [LF]) →
      ∃ fills', fills'.flatten = rest' ∧
        ∀ m, loop (lineTurn t jisyoEncoding outputEncoding fails) (fuel + 1)
            ⟨m, isLastCr, fills⟩ = (do
          let m ← processLine t jisyoEncoding outputEncoding m line
          loop (lineTurn t jisyoEncoding outputEncoding fails) fuel ⟨m, c = CR, fills'⟩) := by
    intro c rest' hfills hc hnew
    obtain ⟨fills', hrest, hturn⟩ := lineTurn_line hfills hline hc hnew
    refine ⟨fills', hrest, fun m => ?_⟩
    rw [loop, hturn]
    cases processLine t jisyoEncoding outputEncoding m line <;> rfl
  have hcr : line ++ [CR] ≠ [LF] := by
    intro heq
    have hmem : CR ∈ [LF] := heq ▸ List.mem_append_right line (List.mem_singleton_self CR)
    exact absurd hmem (by decide)
  cases lineEnd with
  | lf =>
    have hrest : rest.length < fuel := by
      simp only [LineEnd.bytes, List.length_append, List.length_singleton] at hfuel
      omega
    by_cases hnew : isLastCr = true ∧ line = []
    · obtain ⟨rfl, rfl⟩ := hnew
      obtain ⟨fills', hflatten, hturn⟩ := lineTurn_lf hfills
      exact ⟨fuel, true, fills', hflatten, hrest, fun m => loop_continue (hturn m) fuel⟩
    · have hline' : isLastCr = true → line ++ [LF] ≠ [LF] := by
        intro hlast heq
        exact hnew ⟨hlast, List.append_left_eq_self.mp heq⟩
      obtain ⟨fills', hflatten, hloop⟩ :=
        hone (hfills.trans (List.append_assoc ..)) (.inl rfl) hline'
      exact ⟨fuel, _, fills', hflatten, hrest, hloop⟩
  | cr =>
    have hrest : rest.length < fuel := by
      simp only [LineEnd.bytes, List.length_append, List.length_singleton] at hfuel
      omega
    obtain ⟨fills', hflatten, hloop⟩ :=
      hone (hfills.trans (List.append_assoc ..)) (.inr rfl) fun _ => hcr
    exact ⟨fuel, _, fills', hflatten, hrest, hloop⟩
  | crlf =>
    simp only [LineEnd.bytes, List.length_append, List.length_cons, List.length_nil] at hfuel
    obtain ⟨fuel', rfl⟩ : ∃ n, fuel = n + 1 := ⟨fuel - 1, by omega⟩
    obtain ⟨fills', hflatten, hloop⟩ :=
      hone (hfills.trans (List.append_assoc ..)) (.inr rfl) fun _ => hcr
    obtain ⟨fills'', hflatten', hturn⟩ := lineTurn_lf hflatten
    refine ⟨fuel', true, fills'', hflatten', by omega, fun m => (hloop m).trans ?_⟩
    congr 1
    funext m
    exact loop_continue (hturn m) fuel'

/-- **Every terminated line is processed**: what follows the lines is read on from there. -/
theorem loop_lineTurn_endedText {lines : List (Bytes × LineEnd)} {fuel : ℕ}
    (hfills : fills.flatten = endedText lines ++ rest) (hlines : ∀ line ∈ lines, IsLine line.1)
    (hfuel : fills.flatten.length < fuel) :
    ∃ fuel' isLastCr' fills', fills'.flatten = rest ∧ rest.length < fuel' ∧
      ∀ m, loop (lineTurn t jisyoEncoding outputEncoding fails) fuel ⟨m, isLastCr, fills⟩ = (do
        let m ← processLines t jisyoEncoding outputEncoding m (lines.map Prod.fst)
        loop (lineTurn t jisyoEncoding outputEncoding fails) fuel' ⟨m, isLastCr', fills'⟩) := by
  induction lines generalizing isLastCr fills fuel with
  | nil => exact ⟨fuel, isLastCr, fills, hfills, by rwa [hfills] at hfuel, fun _ => rfl⟩
  | cons line lines ih =>
    obtain ⟨hline, hlines⟩ := List.forall_mem_cons.mp hlines
    rw [endedText, List.flatMap_cons, ← endedText, List.append_assoc] at hfills
    obtain ⟨fuel₁, isLastCr₁, fills₁, hfills₁, hfuel₁, hloop₁⟩ :=
      loop_lineTurn_line hfills hline hfuel
    obtain ⟨fuel₂, isLastCr₂, fills₂, hfills₂, hfuel₂, hloop₂⟩ :=
      ih hfills₁ hlines (hfills₁ ▸ hfuel₁)
    refine ⟨fuel₂, isLastCr₂, fills₂, hfills₂, hfuel₂, fun m => (hloop₁ m).trans ?_⟩
    rw [List.map_cons, processLines, List.foldlM_cons, bind_assoc]
    congr 1
    funext m
    exact hloop₂ m

/-- What stands behind the last end of a line is processed without its last byte, and nothing of it
where the read behind it fails. -/
lemma loop_lineTurn_last {fuel : ℕ} {m : JisyoEntriesMap} (hline : IsLine fills.flatten)
    (hfuel : fills.flatten.length < fuel) :
    loop (lineTurn t jisyoEncoding outputEncoding fails) fuel ⟨m, isLastCr, fills⟩ =
      if fills.flatten = [] ∨ fails = true then .ok m
      else processLine t jisyoEncoding outputEncoding m fills.flatten.dropLast := by
  have hread := readUntilSkkJisyo_of_isLine fails hline
  obtain ⟨fuel, rfl⟩ : ∃ n, fuel = n + 1 := ⟨fuel - 1, by omega⟩
  by_cases hend : fills.flatten = [] ∨ fails = true
  · rw [if_pos hend]
    apply loop_break
    rw [lineTurn, hread]
    cases fails with
    | true => rfl
    | false => rw [hend.resolve_right (by simp)]; rfl
  · rw [if_neg hend, not_or, Bool.not_eq_true] at *
    obtain ⟨hne, rfl⟩ := hend
    obtain ⟨line, c, hlast⟩ : ∃ line c, fills.flatten = line ++ [c] :=
      ⟨_, _, (List.dropLast_concat_getLast hne).symm⟩
    rw [hlast] at hline hread hfuel ⊢
    have hnew : isLastCr = true → (line ++ [c]).head? ≠ some LF := fun _ hhead =>
      hline LF (List.mem_of_mem_head? hhead) (.inl rfl)
    obtain ⟨fuel, rfl⟩ : ∃ n, fuel = n + 1 := by
      rw [List.length_append, List.length_singleton] at hfuel
      exact ⟨fuel - 1, by omega⟩
    rw [loop, lineTurn_of_read hread hnew, List.dropLast_concat]
    cases processLine t jisyoEncoding outputEncoding m line <;> rfl

end Loop

/-! ## A file -/

/-- The detected encoding of a file, and its text behind a byte order mark. -/
def IsTextOf (file : JisyoFile) (jisyoEncoding : Encoding) (text : Bytes) : Prop :=
  ∃ options, detectJisyoEncoding file = .ok (jisyoEncoding, options) ∧
    skipUtf8Bom file.bytes options = .ok text

/-- The lines of a text as the reader takes them: what stands before each end, and at the last what
stands behind the last end, without its last byte.  The LF of a CRLF counts as the end of an empty
line, which does nothing.  `line` is what stands before the text on its first line. -/
def chompedLines (fails : Bool) (line : Bytes) : Bytes → List Bytes
  | [] => if line = [] ∨ fails = true then [] else [line.dropLast]
  | b :: text =>
    if b = LF ∨ b = CR then line :: chompedLines fails [] text
    else chompedLines fails (line ++ [b]) text

/-- The encoding of a file, and its lines as the reader takes them. -/
def readLines (file : JisyoFile) : Result (Encoding × List Bytes) := do
  let (jisyoEncoding, jisyoEncodingOptions) ← detectJisyoEncoding file
  let text ← skipUtf8Bom file.bytes jisyoEncodingOptions
  return (jisyoEncoding, chompedLines file.fails [] text)

/-- Every text is a text of ended lines and what stands behind the last end. -/
lemma exists_endedText (fails : Bool) {line : Bytes} (hline : IsLine line) (text : Bytes) :
    ∃ lines last, line ++ text = endedText lines ++ last ∧ (∀ line ∈ lines, IsLine line.1) ∧
      IsLine last ∧ chompedLines fails line text =
        lines.map Prod.fst ++ if last = [] ∨ fails = true then [] else [last.dropLast] := by
  induction text generalizing line with
  | nil => exact ⟨[], line, List.append_nil line, nofun, hline, rfl⟩
  | cons b text ih =>
    rw [chompedLines]
    by_cases hend : b = LF ∨ b = CR
    · obtain ⟨lines, last, htext, hlines, hlast, hchomped⟩ := ih isLine_nil
      obtain ⟨lineEnd, hbytes⟩ : ∃ lineEnd : LineEnd, lineEnd.bytes = [b] := by
        rcases hend with rfl | rfl
        · exact ⟨.lf, rfl⟩
        · exact ⟨.cr, rfl⟩
      refine ⟨(line, lineEnd) :: lines, last, ?_, List.forall_mem_cons.mpr ⟨hline, hlines⟩, hlast,
        ?_⟩
      · rw [endedText, List.flatMap_cons, ← endedText, List.append_assoc _ _ last, ← htext, hbytes]
        simp
      · rw [if_pos hend, hchomped]
        rfl
    · have hlonger : IsLine (line ++ [b]) := by
        intro c hc
        rcases List.mem_append.mp hc with hc | hc
        · exact hline c hc
        · exact List.mem_singleton.mp hc ▸ hend
      obtain ⟨lines, last, htext, hrest⟩ := ih hlonger
      refine ⟨lines, last, ?_, ?_⟩
      · rw [← htext]
        simp
      · rwa [if_neg hend]

section File

variable {t : EncodingTables} {jisyoEncoding : Encoding} {outputEncoding : Option Encoding}
  {file : JisyoFile} {lines : List (Bytes × LineEnd)} {last : Bytes}

/-- **The lines of a file are processed**, the unterminated last one without its last byte. -/
theorem readJisyo_eq (htext : IsTextOf file jisyoEncoding (endedText lines ++ last))
    (hlines : ∀ line ∈ lines, IsLine line.1) (hlast : IsLine last) (m : JisyoEntriesMap) :
    readJisyo t outputEncoding m file = (do
      let m ← processLines t jisyoEncoding outputEncoding m (lines.map Prod.fst)
      if last = [] ∨ file.fails = true then return m
      else processLine t jisyoEncoding outputEncoding m last.dropLast) := by
  obtain ⟨options, hdetect, htext⟩ := htext
  obtain ⟨fuel', isLastCr', fills', hfills, hfuel, hloop⟩ :=
    loop_lineTurn_endedText (t := t) (flatten_fillsOf file.readLengths _) hlines
      (by rw [flatten_fillsOf]; exact Nat.lt_succ_self _)
  rw [readJisyo, hdetect, Outcome.ok_bind]
  dsimp only
  rw [htext, Outcome.ok_bind, hloop]
  congr 1
  funext m
  rw [← hfills] at hlast hfuel ⊢
  exact loop_lineTurn_last hlast hfuel

/-- **A file is its lines as the reader takes them**, whatever its bytes are. -/
theorem readJisyo_eq_processLines (file : JisyoFile) (m : JisyoEntriesMap) :
    readJisyo t outputEncoding m file = (do
      let (jisyoEncoding, lines) ← readLines file
      processLines t jisyoEncoding outputEncoding m lines) := by
  cases hdetect : detectJisyoEncoding file with
  | ok detected =>
    obtain ⟨jisyoEncoding, options⟩ := detected
    cases hskip : skipUtf8Bom file.bytes options with
    | ok text =>
      obtain ⟨lines, last, htext, hlines, hlast, hchomped⟩ :=
        exists_endedText file.fails isLine_nil text
      have hfile : IsTextOf file jisyoEncoding (endedText lines ++ last) :=
        ⟨options, hdetect, by rw [hskip, ← htext, List.nil_append]⟩
      rw [readJisyo_eq hfile hlines hlast, readLines, hdetect, Outcome.ok_bind]
      dsimp only
      rw [hskip, Outcome.ok_bind, hchomped]
      simp only [Outcome.pure_eq, Outcome.ok_bind, processLines, List.foldlM_append]
      congr 1
      funext m
      by_cases hnone : last = [] ∨ file.fails = true
      · rw [if_pos hnone, if_pos hnone]
        rfl
      · rw [if_neg hnone, if_neg hnone, List.foldlM_cons]
        exact (bind_pure _).symm
    | _ => simp [readJisyo, readLines, hdetect, hskip]
  | _ => simp [readJisyo, readLines, hdetect]

/-- The same of the last of several files. -/
lemma getMergedJisyoEntriesMapCore_append (before : List JisyoFile) :
    getMergedJisyoEntriesMapCore t (before ++ [file]) outputEncoding = (do
      let m ← getMergedJisyoEntriesMapCore t before outputEncoding
      readJisyo t outputEncoding m file) := by
  rw [getMergedJisyoEntriesMapCore, List.foldlM_append, getMergedJisyoEntriesMapCore]
  congr 1
  funext m
  rw [List.foldlM_cons]
  cases readJisyo t outputEncoding m file <;> rfl

/-- One file is read into no entries. -/
lemma getMergedJisyoEntriesMapCore_file :
    getMergedJisyoEntriesMapCore t [file] outputEncoding = readJisyo t outputEncoding ∅ file :=
  getMergedJisyoEntriesMapCore_append []

/-- A file that ends with a line end is its lines. -/
lemma getMergedJisyoEntriesMapCore_singleton
    (htext : IsTextOf file jisyoEncoding (endedText lines))
    (hlines : ∀ line ∈ lines, IsLine line.1) :
    getMergedJisyoEntriesMapCore t [file] outputEncoding =
      processLines t jisyoEncoding outputEncoding ∅ (lines.map Prod.fst) := by
  have htext' : IsTextOf file jisyoEncoding (endedText lines ++ []) := by rwa [List.append_nil]
  rw [getMergedJisyoEntriesMapCore_file, readJisyo_eq htext' hlines isLine_nil]
  simp only [true_or, if_true]
  exact bind_pure _

/-- The lines as the reader takes them: an unterminated last one without its last byte, and not at
all where the read behind it fails. -/
def takenLines (fails : Bool) (lines : List (Bytes × LineEnd)) (last : Bytes) : List Bytes :=
  lines.map Prod.fst ++ if last = [] ∨ fails = true then [] else [last.dropLast]

/-- One file is the lines that are taken of it. -/
lemma getMergedJisyoEntriesMapCore_takenLines
    (htext : IsTextOf file jisyoEncoding (endedText lines ++ last))
    (hlines : ∀ line ∈ lines, IsLine line.1) (hlast : IsLine last) :
    getMergedJisyoEntriesMapCore t [file] outputEncoding =
      processLines t jisyoEncoding outputEncoding ∅ (takenLines file.fails lines last) := by
  rw [getMergedJisyoEntriesMapCore_file, readJisyo_eq htext hlines hlast, takenLines, processLines,
    processLines, List.foldlM_append]
  congr 1
  funext m
  by_cases hnone : last = [] ∨ file.fails = true
  · rw [if_pos hnone, if_pos hnone]
    rfl
  · rw [if_neg hnone, if_neg hnone, List.foldlM_cons]
    exact (bind_pure _).symm

/-- The last line is terminated, so that nothing stands behind its end; or it is a comment, begins
with a blank or has no space, with or without its last byte. -/
def EndCarriesNothing (last : Bytes) : Prop :=
  last = [] ∨ SP ∉ last ∨
    2 ≤ last.length ∧ (last.head? = some SEMICOLON ∨ last.head? = some SP ∨ last.head? = some TAB)

/-- A comment is skipped, and so is a line that begins with a blank or has no space. -/
lemma isSkipAndPrintWarning_of_head {line : Bytes}
    (h : line.head? = some SEMICOLON ∨ line.head? = some SP ∨ line.head? = some TAB) :
    isSkipAndPrintWarning line = .ok true := by
  obtain ⟨first, bytes, rfl⟩ : ∃ first bytes, line = first :: bytes :=
    List.exists_cons_of_ne_nil (by rintro rfl; simp at h)
  simp only [List.head?_cons, Option.some.injEq] at h
  rw [isSkipAndPrintWarning, index_cons_zero, Outcome.ok_bind]
  split
  · rfl
  · rcases h with rfl | rfl | rfl <;> rfl

lemma isSkipAndPrintWarning_of_not_mem {line : Bytes} (h : SP ∉ line) :
    isSkipAndPrintWarning line = .ok true := by
  rw [isSkipAndPrintWarning]
  split
  · rfl
  · rename_i hne
    rw [not_or, List.isEmpty_iff] at hne
    obtain ⟨first, bytes, rfl⟩ := List.exists_cons_of_ne_nil hne.1
    rw [index_cons_zero, Outcome.ok_bind, find_singleton_eq_none h]
    dsimp only
    repeat' split
    all_goals rfl

/-- Such a line is skipped, with or without its last byte. -/
lemma EndCarriesNothing.isSkipAndPrintWarning (h : EndCarriesNothing last) :
    isSkipAndPrintWarning last = .ok true ∧ isSkipAndPrintWarning last.dropLast = .ok true := by
  rcases h with rfl | hspace | ⟨hlength, hhead⟩
  · exact ⟨rfl, rfl⟩
  · exact ⟨isSkipAndPrintWarning_of_not_mem hspace,
      isSkipAndPrintWarning_of_not_mem fun hmem => hspace (List.mem_of_mem_dropLast hmem)⟩
  · have hhead' : last.dropLast.head? = last.head? := by
      obtain ⟨b, c, bytes, rfl⟩ : ∃ b c bytes, last = b :: c :: bytes := by
        rcases last with _ | ⟨b, _ | ⟨c, bytes⟩⟩
        · simp at hlength
        · simp at hlength
        · exact ⟨b, c, bytes, rfl⟩
      rfl
    exact ⟨isSkipAndPrintWarning_of_head hhead, isSkipAndPrintWarning_of_head (hhead' ▸ hhead)⟩

lemma processLine_of_skip {line : Bytes} (h : isSkipAndPrintWarning line = .ok true)
    (m : JisyoEntriesMap) : processLine t jisyoEncoding outputEncoding m line = .ok m := by
  rw [processLine, h]
  rfl

/-- **Line ends carry no content**: whatever ends the lines and wherever the reads cut the file, the
entries are those of the logical lines, where the last line is terminated, or is one whose last byte
carries nothing. -/
theorem getMergedJisyoEntriesMapCore_eq_processLines (before : List JisyoFile)
    (htext : IsTextOf file jisyoEncoding (endedText lines ++ last))
    (hlines : ∀ line ∈ lines, IsLine line.1) (hlast : IsLine last) (hfails : file.fails = false)
    (hend : EndCarriesNothing last) :
    getMergedJisyoEntriesMapCore t (before ++ [file]) outputEncoding = (do
      let m ← getMergedJisyoEntriesMapCore t before outputEncoding
      processLines t jisyoEncoding outputEncoding m (lines.map Prod.fst ++ [last])) := by
  obtain ⟨hskip, hskip'⟩ := hend.isSkipAndPrintWarning
  rw [getMergedJisyoEntriesMapCore_append]
  congr 1
  funext m
  rw [readJisyo_eq htext hlines hlast, hfails, processLines, processLines, List.foldlM_append]
  congr 1
  funext m
  rw [List.foldlM_cons, processLine_of_skip hskip, processLine_of_skip hskip']
  split <;> rfl

end File

/-- `abc /d/`. -/
def abcLine : Bytes := ascii "abc /d/"

/-- Two lines and two comments with four kinds of ends, read in pieces that cut a CRLF. -/
theorem getMergedJisyoEntriesMapCore_eq_processLines_abcLine :
    getMergedJisyoEntriesMapCore .empty ([] ++ [⟨abcLine ++ [CR, LF] ++ ascii "; e" ++ [CR] ++
        ascii "xyz /g/h/" ++ [LF] ++ ascii "; i", 16, [7, 4], false⟩]) (some .Euc) = (do
      let m ← getMergedJisyoEntriesMapCore .empty [] (some .Euc)
      processLines .empty .Euc (some .Euc) m
        (([(abcLine, .crlf), (ascii "; e", .cr), (ascii "xyz /g/h/", .lf)] :
          List (Bytes × LineEnd)).map Prod.fst ++ [ascii "; i"])) :=
  getMergedJisyoEntriesMapCore_eq_processLines [] ⟨.None, rfl, rfl⟩ (by decide +kernel)
    (by decide +kernel) rfl (.inr (.inr (by decide +kernel)))

/-- The same line at the end of the file loses its last slash, and with it its only candidate. -/
theorem getMergedJisyoEntriesMapCore_ne_processLines_abcLine :
    detectJisyoEncoding { bytes := abcLine } = .ok (.Euc, .None) ∧
    getMergedJisyoEntriesMapCore .empty [{ bytes := abcLine }] (some .Euc) =
      .ok ((∅ : JisyoEntriesMap).insert (ascii "abc") (ascii "/")) ∧
    processLines .empty .Euc (some .Euc) ∅ [abcLine] =
      .ok ((∅ : JisyoEntriesMap).insert (ascii "abc") (ascii "/d/")) ∧
    getMergedJisyoEntriesMapCore .empty [{ bytes := abcLine }] (some .Euc) ≠
      processLines .empty .Euc (some .Euc) ∅ [abcLine] := by
  have hread : getMergedJisyoEntriesMapCore .empty [{ bytes := abcLine }] (some .Euc) =
      .ok ((∅ : JisyoEntriesMap).insert (ascii "abc") (ascii "/")) := rfl
  have hline : processLines .empty .Euc (some .Euc) ∅ [abcLine] =
      .ok ((∅ : JisyoEntriesMap).insert (ascii "abc") (ascii "/d/")) := rfl
  refine ⟨rfl, hread, hline, ?_⟩
  rw [hread, hline, ne_eq, Outcome.ok.injEq]
  intro heq
  have hget := congrArg (fun m : JisyoEntriesMap => m[ascii "abc"]?) heq
  simp only [Std.ExtTreeMap.getElem?_insert_self] at hget
  exact absurd hget (by decide)

end JisyoReader

end Yaskkserv2
