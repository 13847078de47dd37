import Yaskkserv2.Properties.JisyoLines

/-!
# What a line of a jisyo does

A line is skipped, or it is cut at its first space and its last slash, and its candidates join those
of its midashi.  Which lines are skipped is described here (`isSkipAndPrintWarning_append`), and
what the cut does: a line whose last slash stands before its first space passes the checks, and
stops the program (`getMidashiCandidates_ne_panic_iff`).

Whether the reader comes back from a line does not depend on the entries so far, and neither does
what the line adds to them (`processLine_eq_ok_iff`).
-/

namespace Yaskkserv2

open Framework Dictionary

namespace JisyoReader

/-! ## What is skipped -/

/-- A line that is not skipped, in front of its first space and behind it. -/
structure IsUnskipped (midashi tail : Bytes) : Prop where
  not_spaceCrLfOnly : isSpaceCrLfOnly (midashi ++ SP :: tail) = false
  midashi_ne_nil : midashi ≠ []
  not_comment : midashi.head? ≠ some SEMICOLON
  not_tab : midashi.head? ≠ some TAB
  minimum : JISYO_MINIMUM_LINE_LENGTH ≤ (midashi ++ SP :: tail).length
  maximum : (midashi ++ SP :: tail).length ≤ JISYO_MAXIMUM_LINE_LENGTH
  two_le : 2 ≤ tail.length
  not_multiSpace : tail.head? ≠ some SP
  no_slashes : find [SLASH, SLASH] tail = none

section Append

variable {midashi : Bytes} (hmidashi : SP ∉ midashi)

include hmidashi

/-- **Which lines are skipped.** -/
lemma isSkipAndPrintWarning_append (tail : Bytes) :
    (isSkipAndPrintWarning (midashi ++ SP :: tail) = .ok true ∧ ¬ IsUnskipped midashi tail) ∨
      (isSkipAndPrintWarning (midashi ++ SP :: tail) = .ok false ∧ IsUnskipped midashi tail) := by
  set line := midashi ++ SP :: tail with hline
  have hspace : find [SP] line = some midashi.length := find_singleton hmidashi
  have hlength : line.length = midashi.length + 1 + tail.length := by
    rw [hline, List.length_append, List.length_cons]
    omega
  obtain ⟨first, bytes, hcons⟩ := List.exists_cons_of_ne_nil (show line ≠ [] by simp [hline])
  have hfirst : (index line 0 : Result UInt8) = .ok first := by
    rw [hcons, index_cons_zero]
  obtain ⟨hnil, hhead⟩ : (first = SP ↔ midashi = []) ∧
      ∀ c, c ≠ SP → (first = c ↔ midashi.head? = some c) := by
    cases midashi with
    | nil =>
      obtain rfl : SP = first := (List.cons_eq_cons.mp hcons).1
      exact ⟨by simp, fun c hc => by simp [hc.symm]⟩
    | cons b midashi =>
      obtain rfl : b = first := (List.cons_eq_cons.mp hcons).1
      have hb : b ≠ SP := fun h => hmidashi (h ▸ List.mem_cons_self)
      exact ⟨by simp [hb], fun c _ => by simp⟩
  have htail : (sliceFrom line (midashi.length + 1) : Result Bytes) = .ok tail := by
    rw [sliceFrom_of_le (by omega), hline, List.drop_append]
    simp
  by_cases honly : isSpaceCrLfOnly line = true
  · refine .inl ⟨?_, fun h => ?_⟩
    · rw [isSkipAndPrintWarning, if_pos (.inr honly)]
      rfl
    · exact absurd (honly.symm.trans h.not_spaceCrLfOnly) (by simp)
  have hempty : ¬ (line.isEmpty = true ∨ isSpaceCrLfOnly line = true) := by
    rw [List.isEmpty_iff, hcons] at *
    exact not_or.mpr ⟨List.cons_ne_nil _ _, honly⟩
  rw [isSkipAndPrintWarning, if_neg hempty, hfirst, Outcome.ok_bind, hspace]
  by_cases hcomment : first = SEMICOLON
  · rw [if_pos hcomment]
    exact .inl ⟨rfl, fun h => h.not_comment ((hhead _ (by decide)).mp hcomment)⟩
  rw [if_neg hcomment]
  by_cases hbegin : first = SP
  · rw [if_pos hbegin]
    exact .inl ⟨rfl, fun h => h.midashi_ne_nil (hnil.mp hbegin)⟩
  rw [if_neg hbegin]
  by_cases htab : first = TAB
  · rw [if_pos htab]
    exact .inl ⟨rfl, fun h => h.not_tab ((hhead _ (by decide)).mp htab)⟩
  rw [if_neg htab]
  by_cases hmin : line.length < JISYO_MINIMUM_LINE_LENGTH
  · rw [if_pos hmin]
    exact .inl ⟨rfl, fun h => absurd h.minimum (Nat.not_le.mpr hmin)⟩
  rw [if_neg hmin]
  by_cases hmax : line.length > JISYO_MAXIMUM_LINE_LENGTH
  · rw [if_pos hmax]
    exact .inl ⟨rfl, fun h => absurd h.maximum (Nat.not_le.mpr hmax)⟩
  rw [if_neg hmax]
  dsimp only
  by_cases htwo : line.length < midashi.length + JISYO_MINIMUM_CANDIDATES_LENGTH
  · rw [if_pos htwo]
    refine .inl ⟨rfl, fun h => ?_⟩
    have hle := h.two_le
    rw [JISYO_MINIMUM_CANDIDATES_LENGTH] at htwo
    omega
  rw [if_neg htwo, htail]
  rw [JISYO_MINIMUM_CANDIDATES_LENGTH] at htwo
  obtain ⟨next, rest, rfl⟩ := List.exists_cons_of_ne_nil
    (List.ne_nil_of_length_pos (show 0 < tail.length by omega))
  have hnext : (index line (midashi.length + 1) : Result UInt8) = .ok next := by
    rw [hline, index_append_add]
    rfl
  rw [hnext, Outcome.ok_bind, Outcome.ok_bind]
  by_cases hmulti : next = SP
  · rw [if_pos hmulti]
    exact .inl ⟨rfl, fun h => h.not_multiSpace (congrArg some hmulti)⟩
  rw [if_neg hmulti]
  cases hslashes : find [SLASH, SLASH] (next :: rest) with
  | some i =>
    refine .inl ⟨rfl, fun h => ?_⟩
    exact absurd (hslashes.symm.trans h.no_slashes) (by simp)
  | none =>
    refine .inr ⟨rfl, ⟨Bool.eq_false_iff.mpr honly, mt hnil.mpr hbegin, ?_, ?_, Nat.not_lt.mp hmin,
      Nat.not_lt.mp hmax, by omega, ?_, hslashes⟩⟩
    · exact mt (hhead _ (by decide)).mpr hcomment
    · exact mt (hhead _ (by decide)).mpr htab
    · exact fun h => hmulti (Option.some.inj h)

/-! ## The cut at the first space and the last slash -/

/-- A line is cut behind its last slash. -/
lemma getMidashiCandidates_of_slash {candidates junk : Bytes} (hjunk : SLASH ∉ junk) :
    getMidashiCandidates (midashi ++ SP :: (candidates ++ SLASH :: junk)) =
      .ok (midashi, candidates ++ [SLASH]) := by
  have hspace : find [SP] (midashi ++ SP :: (candidates ++ SLASH :: junk)) = some midashi.length :=
    find_singleton hmidashi
  have hslash : rfind [SLASH] (midashi ++ SP :: (candidates ++ SLASH :: junk)) =
      some (midashi ++ SP :: candidates).length := by
    have happend : midashi ++ SP :: (candidates ++ SLASH :: junk) =
        (midashi ++ SP :: candidates) ++ SLASH :: junk := by simp
    rw [happend, rfind_singleton hjunk]
  have hslice : (slice (midashi ++ SP :: (candidates ++ SLASH :: junk)) (midashi.length + 1)
      ((midashi ++ SP :: candidates).length + 1) : Result Bytes) = .ok (candidates ++ [SLASH]) := by
    have happend := slice_append (ε := SkkError) (midashi ++ [SP]) (candidates ++ [SLASH]) junk
    simp only [List.length_append, List.length_cons, List.length_nil, List.append_assoc,
      List.cons_append, List.nil_append] at happend ⊢
    convert happend using 2
    omega
  rw [getMidashiCandidates, hspace, hslash]
  dsimp only
  rw [sliceTo_append, Outcome.ok_bind, hslice]
  rfl

/-- A line whose last slash stands before its first space stops the program. -/
lemma getMidashiCandidates_of_slash_before (hbefore : SLASH ∈ midashi) {tail : Bytes}
    (htail : SLASH ∉ tail) : getMidashiCandidates (midashi ++ SP :: tail) = .panic := by
  have hspace : find [SP] (midashi ++ SP :: tail) = some midashi.length := find_singleton hmidashi
  obtain ⟨xs, ys, rfl, hys⟩ := exists_last_of_mem hbefore
  have hslash : rfind [SLASH] (xs ++ SLASH :: ys ++ SP :: tail) = some xs.length := by
    have hrest : SLASH ∉ ys ++ SP :: tail := by
      have hsp : SLASH ≠ SP := by decide
      simp [hys, htail, hsp]
    rw [List.append_assoc, List.cons_append, rfind_singleton hrest]
  rw [getMidashiCandidates, hspace, hslash]
  dsimp only
  have hslice : ∀ bytes : Bytes, (slice bytes ((xs ++ SLASH :: ys).length + 1) (xs.length + 1) :
      Result Bytes) = .panic := by
    intro bytes
    apply if_neg
    rw [List.length_append, List.length_cons]
    omega
  rw [sliceTo_append, Outcome.ok_bind, hslice]
  rfl

lemma getMidashiCandidates_of_no_slash {tail : Bytes} (hnone : SLASH ∉ midashi ++ SP :: tail) :
    getMidashiCandidates (midashi ++ SP :: tail) = .error .jisyoRead := by
  rw [getMidashiCandidates, find_singleton hmidashi, rfind_singleton_eq_none hnone]

end Append

/-- A line is cut at its first space and behind its last slash. -/
def IsCutInto (line midashi candidates : Bytes) : Prop :=
  ∃ body junk, line = midashi ++ SP :: (body ++ SLASH :: junk) ∧ SP ∉ midashi ∧ SLASH ∉ junk ∧
    candidates = body ++ [SLASH]

/-- **Where a line is cut.** -/
lemma getMidashiCandidates_eq_ok_iff {line midashi candidates : Bytes} :
    getMidashiCandidates line = .ok (midashi, candidates) ↔ IsCutInto line midashi candidates := by
  constructor
  · intro h
    have hspace : SP ∈ line := by
      by_contra hnot
      rw [getMidashiCandidates, find_singleton_eq_none hnot] at h
      simp at h
    obtain ⟨front, tail, rfl, hfront⟩ := List.eq_append_cons_of_mem hspace
    by_cases htail : SLASH ∈ tail
    · obtain ⟨body, junk, rfl, hjunk⟩ := exists_last_of_mem htail
      rw [getMidashiCandidates_of_slash hfront hjunk] at h
      obtain ⟨rfl, rfl⟩ := Prod.mk.inj (Outcome.ok.inj h)
      exact ⟨body, junk, rfl, hfront, hjunk, rfl⟩
    by_cases hbefore : SLASH ∈ front
    · rw [getMidashiCandidates_of_slash_before hfront hbefore htail] at h
      simp at h
    · have hsp : SLASH ≠ SP := by decide
      rw [getMidashiCandidates_of_no_slash hfront (by simp [hbefore, htail, hsp])] at h
      simp at h
  · rintro ⟨body, junk, rfl, hmidashi, hjunk, rfl⟩
    exact getMidashiCandidates_of_slash hmidashi hjunk

/-- The last slash of a line with a space, if it has one, stands behind the first space. -/
def HasSlashBehind (line : Bytes) : Prop :=
  ∀ space lastSlash, find [SP] line = some space → rfind [SLASH] line = some lastSlash →
    space < lastSlash

/-- **A cut stops the program** exactly where the last slash does not stand behind the first
space. -/
lemma getMidashiCandidates_ne_panic_iff {line : Bytes} :
    getMidashiCandidates line ≠ .panic ↔ HasSlashBehind line := by
  rw [getMidashiCandidates]
  cases hspace : find [SP] line with
  | none => exact iff_of_true (by simp) fun _ _ h => absurd (hspace.symm.trans h) (by simp)
  | some space =>
    cases hslash : rfind [SLASH] line with
    | none => exact iff_of_true (by simp) fun _ _ _ h => absurd (hslash.symm.trans h) (by simp)
    | some lastSlash =>
      obtain ⟨hle, hsp, -⟩ := find_eq_some_iff.mp hspace
      obtain ⟨-, hsl, -⟩ := rfind_eq_some_iff.mp hslash
      have hlt : lastSlash < line.length := by
        by_contra hge
        rw [List.drop_of_length_le (Nat.not_lt.mp hge)] at hsl
        exact absurd hsl (by simp)
      have hne : space ≠ lastSlash := by
        rintro rfl
        obtain ⟨xs, hxs⟩ := hsp
        obtain ⟨ys, hys⟩ := hsl
        exact absurd (List.cons_eq_cons.mp (hxs.trans hys.symm)).1 (by decide)
      have hbehind : HasSlashBehind line ↔ space < lastSlash := by
        refine ⟨fun h => h _ _ hspace hslash, fun h space' lastSlash' hspace' hslash' => ?_⟩
        obtain rfl := Option.some.inj (hspace.symm.trans hspace')
        obtain rfl := Option.some.inj (hslash.symm.trans hslash')
        exact h
      dsimp only
      rw [hbehind, sliceTo_of_le hle, Outcome.ok_bind]
      by_cases hlast : space < lastSlash
      · rw [slice_of_le (by omega) (by omega)]
        exact iff_of_true (by simp) hlast
      · have hslice : (slice line (space + 1) (lastSlash + 1) : Result Bytes) = .panic :=
          if_neg (by omega)
        rw [hslice]
        exact iff_of_false (by simp) hlast

/-! ## What a line adds -/

section Effect

variable (t : EncodingTables) (jisyoEncoding : Encoding) (outputEncoding : Option Encoding)

/-- A midashi as it is stored. -/
def storedMidashi (midashi : Bytes) : Bytes :=
  if jisyoEncoding = .Euc ∨ outputEncoding = none then midashi else Euc.encoded t midashi

/-- Candidates as they are stored, but for duplicates. -/
def convertedCandidates (candidates : Bytes) : Bytes :=
  if outputEncoding = some .Euc ∧ jisyoEncoding = .Utf8 then Euc.encoded t candidates
  else if outputEncoding = some .Utf8 ∧ jisyoEncoding = .Euc then Euc.decoded t candidates
  else candidates

/-- The text of a line in a warning. -/
def lineText (line : Bytes) : Bytes :=
  if jisyoEncoding = .Utf8 then line else Euc.decoded t line

/-- What a line adds to the entries: nothing where it is skipped or has no slash. -/
def entryOf (line : Bytes) : Option (Bytes × Bytes) :=
  if isSkipAndPrintWarning line = .ok true then none
  else
    match getMidashiCandidates line with
    | .ok (midashi, candidates) =>
      some (storedMidashi t jisyoEncoding outputEncoding midashi,
        Candidates.removeDuplicatesBytes
          (convertedCandidates t jisyoEncoding outputEncoding candidates))
    | _ => none

/-- The entries with what a line adds. -/
def addEntry (m : JisyoEntriesMap) : Option (Bytes × Bytes) → JisyoEntriesMap
  | none => m
  | some e => mergeEntry m e.1 e.2

/-- A line gives rise to a warning whose text is needed: it has no slash to cut it at, or the same
candidate twice. -/
def NeedsText (line : Bytes) : Prop :=
  ∀ midashi candidates, IsCutInto line midashi candidates →
    convertedCandidates t jisyoEncoding outputEncoding candidates ≠
      Candidates.removeDuplicatesBytes
        (convertedCandidates t jisyoEncoding outputEncoding candidates)

/-- The reader goes on behind a line: it is skipped, or its last slash stands behind its first space
and the text that is needed of it is UTF-8. -/
def GoesOn (line : Bytes) : Prop :=
  isSkipAndPrintWarning line = .ok true ∨
    HasSlashBehind line ∧
      (NeedsText t jisyoEncoding outputEncoding line →
        isUtf8 (lineText t jisyoEncoding line) = true)

variable {t jisyoEncoding outputEncoding}

lemma needsText_iff_of_cut {line midashi candidates : Bytes}
    (hcut : getMidashiCandidates line = .ok (midashi, candidates)) :
    NeedsText t jisyoEncoding outputEncoding line ↔
      convertedCandidates t jisyoEncoding outputEncoding candidates ≠
        Candidates.removeDuplicatesBytes
          (convertedCandidates t jisyoEncoding outputEncoding candidates) := by
  constructor
  · exact fun h => h _ _ (getMidashiCandidates_eq_ok_iff.mp hcut)
  · intro h midashi' candidates' hcut'
    rw [← getMidashiCandidates_eq_ok_iff, hcut, Outcome.ok.injEq, Prod.mk.injEq] at hcut'
    exact hcut'.2 ▸ h

lemma needsText_of_no_cut {line : Bytes} (h : ∀ cut, getMidashiCandidates line ≠ .ok cut) :
    NeedsText t jisyoEncoding outputEncoding line := fun _ _ hcut =>
  absurd (getMidashiCandidates_eq_ok_iff.mpr hcut) (h _)

lemma encodeMidashiCandidates_eq (midashi candidates : Bytes) :
    encodeMidashiCandidates t (midashi, candidates) jisyoEncoding outputEncoding =
      .ok (storedMidashi t jisyoEncoding outputEncoding midashi,
        convertedCandidates t jisyoEncoding outputEncoding candidates) := by
  rw [encodeMidashiCandidates, storedMidashi, convertedCandidates, Euc.encode_eq, Euc.encode_eq,
    Euc.decode_eq]
  repeat' split
  all_goals rfl

lemma getLineString_eq (line : Bytes) :
    getLineString t line jisyoEncoding =
      if isUtf8 (lineText t jisyoEncoding line) = true then .ok (lineText t jisyoEncoding line)
      else .error .string := by
  rw [getLineString, lineText, Euc.decode_eq]
  by_cases hutf8 : jisyoEncoding = .Utf8
  · rw [if_pos hutf8, if_pos hutf8]
    rfl
  · rw [if_neg hutf8, if_neg hutf8]
    rfl

/-- A line is skipped, or it is cut, has no slash, or stops the program. -/
lemma line_cases (line : Bytes) :
    isSkipAndPrintWarning line = .ok true ∨ isSkipAndPrintWarning line = .ok false ∧
      ((∃ midashi candidates, getMidashiCandidates line = .ok (midashi, candidates)) ∨
        getMidashiCandidates line = .panic ∨ getMidashiCandidates line = .error .jisyoRead) := by
  by_cases hspace : SP ∈ line
  · obtain ⟨midashi, tail, rfl, hmidashi⟩ := List.eq_append_cons_of_mem hspace
    rcases isSkipAndPrintWarning_append hmidashi tail with ⟨hskip, -⟩ | ⟨hskip, -⟩
    · exact .inl hskip
    refine .inr ⟨hskip, ?_⟩
    by_cases htail : SLASH ∈ tail
    · obtain ⟨candidates, junk, rfl, hjunk⟩ := exists_last_of_mem htail
      exact .inl ⟨_, _, getMidashiCandidates_of_slash hmidashi hjunk⟩
    by_cases hbefore : SLASH ∈ midashi
    · exact .inr (.inl (getMidashiCandidates_of_slash_before hmidashi hbefore htail))
    · have hsp : SLASH ≠ SP := by decide
      have hnone : SLASH ∉ midashi ++ SP :: tail := by simp [hbefore, htail, hsp]
      exact .inr (.inr (getMidashiCandidates_of_no_slash hmidashi hnone))
  · exact .inl (isSkipAndPrintWarning_of_not_mem hspace)

/-- **What a line does**: whether the reader goes on behind it does not depend on the entries, and
neither does what the line adds to them. -/
theorem processLine_eq_ok_iff {m m' : JisyoEntriesMap} {line : Bytes} :
    processLine t jisyoEncoding outputEncoding m line = .ok m' ↔
      GoesOn t jisyoEncoding outputEncoding line ∧
        m' = addEntry m (entryOf t jisyoEncoding outputEncoding line) := by
  rcases line_cases line with hskip | ⟨hskip, hcut⟩
  · have hentry : entryOf t jisyoEncoding outputEncoding line = none := if_pos hskip
    rw [processLine, hskip, Outcome.ok_bind, hentry, addEntry]
    constructor
    · intro h
      exact ⟨.inl hskip, (Outcome.ok.inj h).symm⟩
    · rintro ⟨-, rfl⟩
      rfl
  have hnot : isSkipAndPrintWarning line ≠ .ok true := by
    rw [hskip]
    simp
  have hprocess : processLine t jisyoEncoding outputEncoding m line =
      updateJisyoEntriesMap t m line jisyoEncoding outputEncoding := by
    rw [processLine, hskip, Outcome.ok_bind]
    rfl
  have hgoes : GoesOn t jisyoEncoding outputEncoding line ↔ getMidashiCandidates line ≠ .panic ∧
      (NeedsText t jisyoEncoding outputEncoding line →
        isUtf8 (lineText t jisyoEncoding line) = true) := by
    rw [GoesOn, or_iff_right hnot, getMidashiCandidates_ne_panic_iff]
  rw [hprocess, hgoes, updateJisyoEntriesMap, entryOf, if_neg hnot, getLineString_eq]
  rcases hcut with ⟨midashi, candidates, hcut⟩ | hcut | hcut
  · rw [needsText_iff_of_cut hcut, hcut]
    dsimp only
    rw [encodeMidashiCandidates_eq, Outcome.ok_bind]
    dsimp only
    by_cases hdup : convertedCandidates t jisyoEncoding outputEncoding candidates ≠
        Candidates.removeDuplicatesBytes
          (convertedCandidates t jisyoEncoding outputEncoding candidates)
    · rw [if_pos hdup]
      by_cases htext : isUtf8 (lineText t jisyoEncoding line) = true
      · rw [if_pos htext]
        simp [htext, addEntry, eq_comm]
      · rw [if_neg htext]
        simp [htext, hdup]
    · rw [if_neg hdup]
      constructor
      · intro h
        exact ⟨⟨by simp, fun hneeds => absurd hneeds hdup⟩, (Outcome.ok.inj h).symm⟩
      · rintro ⟨-, rfl⟩
        rfl
  · rw [hcut]
    exact iff_of_false (by simp) fun h => h.1.1 rfl
  · have hneeds : NeedsText t jisyoEncoding outputEncoding line := needsText_of_no_cut fun cut => by
      rw [hcut]
      simp
    rw [hcut]
    by_cases htext : isUtf8 (lineText t jisyoEncoding line) = true
    · rw [if_pos htext]
      simp [htext, addEntry, eq_comm]
    · rw [if_neg htext]
      simp [htext, hneeds]

/-- **What the lines of a jisyo do**: they add their entries one after the other. -/
theorem processLines_eq_ok_iff {m m' : JisyoEntriesMap} {lines : List Bytes} :
    processLines t jisyoEncoding outputEncoding m lines = .ok m' ↔
      (∀ line ∈ lines, GoesOn t jisyoEncoding outputEncoding line) ∧
        m' = (lines.map (entryOf t jisyoEncoding outputEncoding)).foldl addEntry m := by
  induction lines generalizing m with
  | nil => simp [processLines, eq_comm]
  | cons line lines ih =>
    rw [processLines, List.foldlM_cons, Outcome.bind_eq_ok, List.map_cons, List.foldl_cons,
      List.forall_mem_cons]
    constructor
    · rintro ⟨m₁, hline, hlines⟩
      obtain ⟨hgoes, rfl⟩ := processLine_eq_ok_iff.mp hline
      obtain ⟨hrest, rfl⟩ := ih.mp hlines
      exact ⟨⟨hgoes, hrest⟩, rfl⟩
    · rintro ⟨⟨hgoes, hrest⟩, rfl⟩
      exact ⟨_, processLine_eq_ok_iff.mpr ⟨hgoes, rfl⟩, ih.mpr ⟨hrest, rfl⟩⟩

/-! ## Any number of files -/

/-- The lines of some files as the reader takes them one after the other, each with the encoding of
its file. -/
def readSteps : List JisyoFile → Result (List (Encoding × Bytes))
  | [] => .ok []
  | file :: files => do
    let (jisyoEncoding, lines) ← readLines file
    let steps ← readSteps files
    return lines.map (jisyoEncoding, ·) ++ steps

variable (t outputEncoding)

/-- The entries after some lines. -/
def entriesAfter (m : JisyoEntriesMap) (steps : List (Encoding × Bytes)) : JisyoEntriesMap :=
  (steps.map fun step => entryOf t step.1 outputEncoding step.2).foldl addEntry m

variable {t outputEncoding}

lemma entriesAfter_append (m : JisyoEntriesMap) (steps steps' : List (Encoding × Bytes)) :
    entriesAfter t outputEncoding m (steps ++ steps') =
      entriesAfter t outputEncoding (entriesAfter t outputEncoding m steps) steps' := by
  rw [entriesAfter, List.map_append, List.foldl_append]
  rfl

lemma foldlM_readJisyo_eq_ok {files : List JisyoFile} {m m' : JisyoEntriesMap}
    (h : files.foldlM (readJisyo t outputEncoding) m = .ok m') :
    ∃ steps, readSteps files = .ok steps ∧ m' = entriesAfter t outputEncoding m steps := by
  induction files generalizing m with
  | nil => exact ⟨[], rfl, (Outcome.ok.inj h).symm⟩
  | cons file files ih =>
    rw [List.foldlM_cons, Outcome.bind_eq_ok] at h
    obtain ⟨m₁, hfile, hfiles⟩ := h
    rw [readJisyo_eq_processLines, Outcome.bind_eq_ok] at hfile
    obtain ⟨⟨jisyoEncoding, lines⟩, hlines, hfile⟩ := hfile
    obtain ⟨-, rfl⟩ := processLines_eq_ok_iff.mp hfile
    obtain ⟨steps, hsteps, rfl⟩ := ih hfiles
    refine ⟨lines.map (jisyoEncoding, ·) ++ steps, ?_, ?_⟩
    · rw [readSteps, hlines, Outcome.ok_bind, hsteps]
      rfl
    · rw [entriesAfter_append]
      congr 1
      rw [entriesAfter, List.map_map]
      rfl

/-- **What some files are read to** are the entries after all their lines. -/
theorem getMergedJisyoEntriesMapCore_eq_ok {files : List JisyoFile} {m : JisyoEntriesMap}
    (h : getMergedJisyoEntriesMapCore t files outputEncoding = .ok m) :
    ∃ steps, readSteps files = .ok steps ∧ m = entriesAfter t outputEncoding ∅ steps :=
  foldlM_readJisyo_eq_ok h

end Effect

end JisyoReader

end Yaskkserv2
