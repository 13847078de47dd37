import Yaskkserv2.Properties.LineEffects
import Yaskkserv2.Properties.TranscodedCandidates
import Yaskkserv2.Properties.Transcoding

/-!
# A jisyo in two encodings

A jisyo in EUC and its transcoding to UTF-8 are read line by line, and what is looked for in a line
is ASCII: so the same lines are skipped and cut in the same places (`isSkipAndPrintWarning_iff`,
`getMidashiCandidates_cases`).  Whether a line is converted before or after its duplicates are
removed and it is merged makes no difference (`entryOf_rel`).

The reader does not go on behind a line whose last slash stands before its first space; where no
line of a text is like that, building commutes with transcoding (`commutes_iff`).  A text whose last
line is not ended loses its last byte, which in the two encodings is not the same part of a
character.
-/

namespace Yaskkserv2

open Framework EncodingTables

namespace JisyoReader

open Dictionary

section Line

variable {R : Bytes → Bytes → Prop} (hR : IsSpelling R) {line line' : Bytes}

include hR

/-! ## The lines that are skipped -/

lemma isLine_of_rel (h : R line line') (hline : IsLine line) : IsLine line' := by
  rintro b hb (rfl | rfl)
  · exact hline _ (((hR.respects (by decide)).mem_iff h).mpr hb) (.inl rfl)
  · exact hline _ (((hR.respects (by decide)).mem_iff h).mpr hb) (.inr rfl)

omit hR in
lemma isSpaceCrLfOnly_eq_false {midashi : Bytes} (hne : midashi ≠ []) (hspace : SP ∉ midashi)
    (hline : IsLine midashi) (tail : Bytes) : isSpaceCrLfOnly (midashi ++ tail) = false := by
  obtain ⟨b, bytes, rfl⟩ := List.exists_cons_of_ne_nil hne
  have hsp : b ≠ SP := fun h => hspace (h ▸ List.mem_cons_self)
  obtain ⟨hlf, hcr⟩ := not_or.mp (hline b List.mem_cons_self)
  simp [isSpaceCrLfOnly, hsp, hlf, hcr]

omit hR in
lemma no_slashes_iff {tail : Bytes} : find [SLASH, SLASH] tail = none ↔
    ∀ x y : Bytes, tail ≠ x ++ SLASH :: ([] ++ SLASH :: y) := by
  rw [find_eq_none_iff_not_isInfix]
  constructor
  · rintro h x y rfl
    exact h ⟨x, y, by simp⟩
  · rintro h ⟨x, y, rfl⟩
    exact h x y (by simp)

/-- What speaks against skipping a line speaks against skipping the other one. -/
lemma IsUnskipped.of_rel {midashi midashi' tail tail' : Bytes} (h : IsUnskipped midashi tail)
    (hmidashi : R midashi midashi') (htail : R tail tail') (hspace : SP ∉ midashi)
    (hline : IsLine midashi)
    (hmin : JISYO_MINIMUM_LINE_LENGTH ≤ (midashi' ++ SP :: tail').length)
    (hmax : (midashi' ++ SP :: tail').length ≤ JISYO_MAXIMUM_LINE_LENGTH) :
    IsUnskipped midashi' tail' := by
  have hslash : Respects R SLASH := hR.respects (by decide)
  have hhead : ∀ {b : UInt8} {x y : Bytes}, b ≤ 0x7f → R x y → x.head? ≠ some b →
      y.head? ≠ some b := fun hb hxy => mt ((hR.respects hb).head?_iff hR.biUnique hxy).mpr
  have hne : midashi' ≠ [] := mt (hslash.eq_nil_iff hR.biUnique hmidashi).mpr h.midashi_ne_nil
  have hspace' : SP ∉ midashi' := mt ((hR.respects (by decide)).mem_iff hmidashi).mpr hspace
  refine ⟨isSpaceCrLfOnly_eq_false hne hspace' (isLine_of_rel hR hmidashi hline) _, hne, ?_, ?_,
    hmin, hmax, ?_, ?_, ?_⟩
  · exact hhead (by decide) hmidashi h.not_comment
  · exact hhead (by decide) hmidashi h.not_tab
  · exact (hR.two_le_length_iff htail).mp h.two_le
  · exact hhead (by decide) htail h.not_multiSpace
  · refine no_slashes_iff.mpr ?_
    rintro x y rfl
    obtain ⟨u, v, rfl, -, hv⟩ := hslash.cut_right htail
    obtain ⟨z, w, rfl, hz, -⟩ := hslash.cut_right hv
    obtain rfl := (hslash.eq_nil_iff hR.biUnique hz).mpr rfl
    exact no_slashes_iff.mp h.no_slashes u w rfl

/-- A line in the limits is skipped where the other one is. -/
lemma isSkipAndPrintWarning_of_rel (h : R line line') (hline : IsLine line)
    (hmin : JISYO_MINIMUM_LINE_LENGTH ≤ line'.length)
    (hmax : line'.length ≤ JISYO_MAXIMUM_LINE_LENGTH)
    (hskip : isSkipAndPrintWarning line' = .ok true) : isSkipAndPrintWarning line = .ok true := by
  have hspace : Respects R SP := hR.respects (by decide)
  by_cases hmem : SP ∈ line
  · obtain ⟨midashi, tail, rfl, hmidashi⟩ := List.eq_append_cons_of_mem hmem
    obtain ⟨midashi', tail', rfl, hmidashi', hrel, hrel'⟩ := hspace.cut_first hmidashi h
    rcases isSkipAndPrintWarning_append hmidashi tail with ⟨hline, -⟩ | ⟨-, hunskipped⟩
    · exact hline
    · have hunskipped' := hunskipped.of_rel hR hrel hrel' hmidashi
        (fun b hb => hline b (List.mem_append_left _ hb)) hmin hmax
      rcases isSkipAndPrintWarning_append hmidashi' tail' with ⟨-, hnot⟩ | ⟨hskip', -⟩
      · exact absurd hunskipped' hnot
      · exact absurd (hskip.symm.trans hskip') (by simp)
  · exact isSkipAndPrintWarning_of_not_mem hmem

/-! ## The cuts -/

/-- **The two lines are cut in the same places**, or in none. -/
lemma getMidashiCandidates_cases (h : R line line') (hmem : SP ∈ line) :
    (∃ midashi candidates midashi' candidates',
      getMidashiCandidates line = .ok (midashi, candidates) ∧
      getMidashiCandidates line' = .ok (midashi', candidates') ∧
      R midashi midashi' ∧ R candidates candidates') ∨
    getMidashiCandidates line = .panic ∧ getMidashiCandidates line' = .panic ∨
    getMidashiCandidates line = .error .jisyoRead ∧
      getMidashiCandidates line' = .error .jisyoRead := by
  have hspace : Respects R SP := hR.respects (by decide)
  have hslash : Respects R SLASH := hR.respects (by decide)
  obtain ⟨midashi, tail, rfl, hmidashi⟩ := List.eq_append_cons_of_mem hmem
  obtain ⟨midashi', tail', rfl, hmidashi', hrel, hrel'⟩ := hspace.cut_first hmidashi h
  by_cases htail : SLASH ∈ tail
  · obtain ⟨candidates, junk, rfl, hjunk⟩ := exists_last_of_mem htail
    obtain ⟨candidates', junk', rfl, hjunk', hcandidates, -⟩ := hslash.cut_last hjunk hrel'
    exact .inl ⟨midashi, candidates ++ [SLASH], midashi', candidates' ++ [SLASH],
      getMidashiCandidates_of_slash hmidashi hjunk, getMidashiCandidates_of_slash hmidashi' hjunk',
      hrel, hslash.concat hcandidates⟩
  have htail' : SLASH ∉ tail' := mt (hslash.mem_iff hrel').mpr htail
  by_cases hbefore : SLASH ∈ midashi
  · exact .inr (.inl ⟨getMidashiCandidates_of_slash_before hmidashi hbefore htail,
      getMidashiCandidates_of_slash_before hmidashi' ((hslash.mem_iff hrel).mp hbefore) htail'⟩)
  · have hsp : SLASH ≠ SP := by decide
    have hnone : SLASH ∉ midashi ++ SP :: tail := by simp [hbefore, htail, hsp]
    have hnone' : SLASH ∉ midashi' ++ SP :: tail' := mt (hslash.mem_iff h).mpr hnone
    exact .inr (.inr ⟨getMidashiCandidates_of_no_slash hmidashi hnone,
      getMidashiCandidates_of_no_slash hmidashi' hnone'⟩)

end Line

/-! ## What a line adds -/

/-- A line of listed codes that decoding and encoding leave unchanged, with its length within the
limits in both encodings. -/
structure IsConvertible (line : Bytes) : Prop where
  listed : ∃ es : List Bytes, (∀ e ∈ es, IsListedCode e) ∧ es.flatten = line
  unchanged : (do
    let text ← Euc.decode shippedTables line
    Euc.encode shippedTables text) = .ok line
  minimum : JISYO_MINIMUM_LINE_LENGTH ≤ line.length ∧
    JISYO_MINIMUM_LINE_LENGTH ≤ (Euc.decoded shippedTables line).length
  maximum : line.length ≤ JISYO_MAXIMUM_LINE_LENGTH ∧
    (Euc.decoded shippedTables line).length ≤ JISYO_MAXIMUM_LINE_LENGTH

/-- The reader goes on behind a line that is skipped, or whose last slash stands behind its first
space. -/
def IsPassed (line : Bytes) : Prop :=
  isSkipAndPrintWarning line = .ok true ∨ HasSlashBehind line

section Effect

variable {line : Bytes} (h : IsConvertible line) (hline : IsLine line)

include h

lemma IsConvertible.isTranscoding : IsTranscoding line (Euc.decoded shippedTables line) := by
  obtain ⟨es, hlisted, rfl⟩ := h.listed
  have hunchanged := h.unchanged
  rw [Euc.decode_eq, Outcome.ok_bind, Euc.encode_eq, Outcome.ok.injEq] at hunchanged
  exact isTranscoding_decoded hlisted hunchanged

/-- A line that is not skipped is cut in both encodings, or stops the reader in both, or has a slash
in neither. -/
lemma IsConvertible.cut_cases (hskip : isSkipAndPrintWarning line ≠ .ok true) :
    (∃ midashi candidates midashi' candidates',
      getMidashiCandidates line = .ok (midashi, candidates) ∧
      getMidashiCandidates (Euc.decoded shippedTables line) = .ok (midashi', candidates') ∧
      IsTranscoding midashi midashi' ∧ IsTranscoding candidates candidates') ∨
    getMidashiCandidates line = .panic ∧
      getMidashiCandidates (Euc.decoded shippedTables line) = .panic ∨
    getMidashiCandidates line = .error .jisyoRead ∧
      getMidashiCandidates (Euc.decoded shippedTables line) = .error .jisyoRead := by
  apply getMidashiCandidates_cases isSpelling_isTranscoding h.isTranscoding
  by_contra hspace
  exact hskip (isSkipAndPrintWarning_of_not_mem hspace)

include hline

/-- **A line is skipped in both encodings or in neither.** -/
lemma IsConvertible.isSkipAndPrintWarning_iff :
    isSkipAndPrintWarning (Euc.decoded shippedTables line) = .ok true ↔
      isSkipAndPrintWarning line = .ok true := by
  have hrel := h.isTranscoding
  constructor
  · exact isSkipAndPrintWarning_of_rel isSpelling_isTranscoding hrel hline h.minimum.2 h.maximum.2
  · exact isSkipAndPrintWarning_of_rel isSpelling_isTranscoding.flip hrel
      (isLine_of_rel isSpelling_isTranscoding hrel hline) h.minimum.1 h.maximum.1

/-- Whether the reader goes on behind a line depends neither on the encoding of the jisyo nor on
that of the output. -/
lemma IsConvertible.goesOn_iff (outputEncoding : Option Encoding) :
    (GoesOn shippedTables .Euc outputEncoding line ↔ IsPassed line) ∧
      (GoesOn shippedTables .Utf8 outputEncoding (Euc.decoded shippedTables line) ↔
        IsPassed line) := by
  have hutf8 := h.isTranscoding.isUtf8
  have htext : lineText shippedTables .Euc line = Euc.decoded shippedTables line := if_neg (by simp)
  have htext' : lineText shippedTables .Utf8 (Euc.decoded shippedTables line) =
      Euc.decoded shippedTables line := if_pos rfl
  rw [GoesOn, GoesOn, IsPassed, htext, htext', h.isSkipAndPrintWarning_iff hline]
  simp only [hutf8, implies_true, and_true, ← getMidashiCandidates_ne_panic_iff]
  by_cases hskip : isSkipAndPrintWarning line = .ok true
  · simp [hskip]
  · rcases h.cut_cases hskip with ⟨_, _, _, _, hcut, hcut', -⟩ | ⟨hcut, hcut'⟩ |
      ⟨hcut, hcut'⟩ <;> simp [hcut, hcut']

/-- **What a line adds** is the same from both encodings, and in the output encodings the same
candidates in two spellings. -/
lemma IsConvertible.entryOf_rel :
    entryOf shippedTables .Utf8 (some .Euc) (Euc.decoded shippedTables line) =
      entryOf shippedTables .Euc (some .Euc) line ∧
    entryOf shippedTables .Utf8 (some .Utf8) (Euc.decoded shippedTables line) =
      entryOf shippedTables .Euc (some .Utf8) line ∧
    Option.Rel (fun e e' => e.1 = e'.1 ∧ IsTranscoding e.2 e'.2)
      (entryOf shippedTables .Euc (some .Euc) line)
      (entryOf shippedTables .Euc (some .Utf8) line) := by
  by_cases hskip : isSkipAndPrintWarning line = .ok true
  · have hskip' := (h.isSkipAndPrintWarning_iff hline).mpr hskip
    simp only [entryOf, if_pos hskip, if_pos hskip']
    exact ⟨trivial, trivial, .none⟩
  have hskip' := mt (h.isSkipAndPrintWarning_iff hline).mp hskip
  simp only [entryOf, if_neg hskip, if_neg hskip']
  rcases h.cut_cases hskip with ⟨midashi, candidates, midashi', candidates', hcut, hcut',
    hmidashi, hcandidates⟩ | ⟨hcut, hcut'⟩ | ⟨hcut, hcut'⟩
  · rw [hcut, hcut']
    have hstored : ∀ o, storedMidashi shippedTables .Euc o midashi = midashi := fun o =>
      if_pos (.inl rfl)
    have hstored' : ∀ o, storedMidashi shippedTables .Utf8 (some o) midashi' = midashi := fun o =>
      (if_neg (by simp)).trans hmidashi.encoded_eq
    have heuc : convertedCandidates shippedTables .Utf8 (some .Euc) candidates' = candidates :=
      (if_pos ⟨rfl, rfl⟩).trans hcandidates.encoded_eq
    have hutf8 : convertedCandidates shippedTables .Euc (some .Utf8) candidates = candidates' :=
      hcandidates.decoded_eq
    have heuc' : convertedCandidates shippedTables .Euc (some .Euc) candidates = candidates := rfl
    have hutf8' : convertedCandidates shippedTables .Utf8 (some .Utf8) candidates' = candidates' :=
      rfl
    dsimp only
    rw [hstored, hstored, hstored', hstored', heuc, heuc', hutf8, hutf8']
    refine ⟨rfl, rfl, .some ⟨rfl, ?_⟩⟩
    exact Candidates.removeDuplicatesBytes_rel isTranscoding_biUnique
      (isTranscoding_respects (by decide)) hcandidates
  · rw [hcut, hcut']
    exact ⟨rfl, rfl, .none⟩
  · rw [hcut, hcut']
    exact ⟨rfl, rfl, .none⟩

end Effect

/-! ## The entries -/

/-- Entries with the same midashi, and candidates in two spellings. -/
def AreTranscoded (m m' : JisyoEntriesMap) : Prop :=
  ∀ midashi : Bytes, Option.Rel IsTranscoding m[midashi]? m'[midashi]?

lemma AreTranscoded.mergeEntry {m m' : JisyoEntriesMap} {midashi candidates candidates' : Bytes}
    (h : AreTranscoded m m') (hcandidates : IsTranscoding candidates candidates') :
    AreTranscoded (mergeEntry m midashi candidates) (mergeEntry m' midashi candidates') := by
  have hinsert : ∀ {c c' : Bytes}, IsTranscoding c c' →
      AreTranscoded (m.insert midashi c) (m'.insert midashi c') := by
    intro c c' hc key
    rw [Std.ExtTreeMap.getElem?_insert, Std.ExtTreeMap.getElem?_insert]
    split
    · exact .some hc
    · exact h key
  have hslash : Respects IsTranscoding SLASH := isTranscoding_respects (by decide)
  have hstored := h midashi
  rw [JisyoReader.mergeEntry, JisyoReader.mergeEntry]
  cases hm : m[midashi]? with
  | none =>
    rw [hm] at hstored
    cases hm' : m'[midashi]? with
    | none => exact hinsert hcandidates
    | some stored' => exact nomatch hm' ▸ hstored
  | some stored =>
    rw [hm] at hstored
    cases hm' : m'[midashi]? with
    | none => exact nomatch hm' ▸ hstored
    | some stored' =>
      rw [hm'] at hstored
      cases hstored with
      | some hstored =>
        apply hinsert
        exact Candidates.mergeTrimmedSlashCandidates_rel isTranscoding_biUnique hslash
          (isTranscoding_respects (by decide))
          (Candidates.trimOneSlash_rel isTranscoding_biUnique hslash hstored)
          (Candidates.trimOneSlash_rel isTranscoding_biUnique hslash hcandidates)

lemma AreTranscoded.foldl_addEntry {es es' : List (Option (Bytes × Bytes))}
    (hes : List.Forall₂ (Option.Rel fun e e' => e.1 = e'.1 ∧ IsTranscoding e.2 e'.2) es es')
    {m m' : JisyoEntriesMap} (h : AreTranscoded m m') :
    AreTranscoded (es.foldl addEntry m) (es'.foldl addEntry m') := by
  induction hes generalizing m m' with
  | nil => exact h
  | cons he hes ih =>
    rw [List.foldl_cons, List.foldl_cons]
    apply ih
    cases he with
    | none => exact h
    | @some e e' he =>
      rw [addEntry, addEntry, ← he.1]
      exact h.mergeEntry he.2

/-- The entries in the other spelling are the entries with every candidates value decoded. -/
lemma AreTranscoded.eq_map {m m' : JisyoEntriesMap} (h : AreTranscoded m m') :
    m' = m.map fun _ candidates => Euc.decoded shippedTables candidates := by
  apply Std.ExtTreeMap.ext_getElem?
  intro midashi
  rw [Std.ExtTreeMap.getElem?_map]
  have hstored := h midashi
  generalize m[midashi]? = stored at hstored
  generalize m'[midashi]? = stored' at hstored
  cases hstored with
  | none => rfl
  | some hstored => rw [Option.map_some, hstored.decoded_eq]

/-! ## The file -/

/-- The files of a text in EUC and in UTF-8 give rise to the same entries, and the entries for
UTF-8 are those for EUC with every candidates value decoded. -/
def CommutesWithTranscoding (euc utf8 : JisyoFile) : Prop :=
  ∃ m : JisyoEntriesMap,
    getMergedJisyoEntriesMap shippedTables [euc] .Euc = .ok m ∧
    getMergedJisyoEntriesMap shippedTables [utf8] .Euc = .ok m ∧
    getMergedJisyoEntriesMap shippedTables [euc] .Utf8 =
      .ok (m.map fun _ candidates => Euc.decoded shippedTables candidates) ∧
    getMergedJisyoEntriesMap shippedTables [utf8] .Utf8 =
      .ok (m.map fun _ candidates => Euc.decoded shippedTables candidates)

/-- The lines of a text in UTF-8. -/
def decodedLines (lines : List (Bytes × LineEnd)) : List (Bytes × LineEnd) :=
  lines.map fun line => (Euc.decoded shippedTables line.1, line.2)

lemma isTranscoding_endedText {lines : List (Bytes × LineEnd)}
    (h : ∀ line ∈ lines, IsConvertible line.1) :
    IsTranscoding (endedText lines) (endedText (decodedLines lines)) := by
  induction lines with
  | nil => exact (isTranscoding_respects (b := LF) (by decide)).nil
  | cons line lines ih =>
    obtain ⟨hline, hlines⟩ := List.forall_mem_cons.mp h
    obtain ⟨bytes, lineEnd⟩ := line
    have hrel := hline.isTranscoding
    have hrest := ih hlines
    have hcr : Respects IsTranscoding CR := isTranscoding_respects (by decide)
    have hlf : Respects IsTranscoding LF := isTranscoding_respects (by decide)
    have hcons : ∀ text, endedText ((text, lineEnd) :: lines) =
        text ++ lineEnd.bytes ++ endedText lines := fun _ => rfl
    have hcons' : endedText (decodedLines ((bytes, lineEnd) :: lines)) =
        Euc.decoded shippedTables bytes ++ lineEnd.bytes ++ endedText (decodedLines lines) := rfl
    rw [hcons, hcons']
    cases lineEnd with
    | lf => simpa [LineEnd.bytes] using hlf.join hrel hrest
    | crlf => simpa [LineEnd.bytes] using hcr.join hrel (hlf.cons hrest)
    | cr => simpa [LineEnd.bytes] using hcr.join hrel hrest

section File

variable {euc utf8 : JisyoFile} {lines : List (Bytes × LineEnd)}

/-- What the EUC file is read to. -/
lemma getMergedJisyoEntriesMap_euc_eq_ok_iff (heuc : IsTextOf euc .Euc (endedText lines))
    (hlines : ∀ line ∈ lines, IsLine line.1) (hconvertible : ∀ line ∈ lines, IsConvertible line.1)
    (outputEncoding : Encoding) (m : JisyoEntriesMap) :
    getMergedJisyoEntriesMap shippedTables [euc] outputEncoding = .ok m ↔
      (∀ line ∈ lines, IsPassed line.1) ∧
        m = (lines.map fun line => entryOf shippedTables .Euc (some outputEncoding) line.1).foldl
          addEntry ∅ := by
  rw [getMergedJisyoEntriesMap, getMergedJisyoEntriesMapCore_singleton heuc hlines,
    processLines_eq_ok_iff, List.map_map, List.forall_mem_map]
  refine and_congr (forall₂_congr fun line hmem => ?_) Iff.rfl
  exact ((hconvertible line hmem).goesOn_iff (hlines line hmem) (some outputEncoding)).1

/-- What the UTF-8 file is read to. -/
lemma getMergedJisyoEntriesMap_utf8_eq_ok_iff
    (hutf8 : IsTextOf utf8 .Utf8 (Euc.decoded shippedTables (endedText lines)))
    (hlines : ∀ line ∈ lines, IsLine line.1) (hconvertible : ∀ line ∈ lines, IsConvertible line.1)
    (outputEncoding : Encoding) (m : JisyoEntriesMap) :
    getMergedJisyoEntriesMap shippedTables [utf8] outputEncoding = .ok m ↔
      (∀ line ∈ lines, IsPassed line.1) ∧
        m = (lines.map fun line => entryOf shippedTables .Utf8 (some outputEncoding)
          (Euc.decoded shippedTables line.1)).foldl addEntry ∅ := by
  have hlines' : ∀ line ∈ decodedLines lines, IsLine line.1 := by
    intro line hline
    obtain ⟨line, hmem, rfl⟩ := List.mem_map.mp hline
    exact isLine_of_rel isSpelling_isTranscoding (hconvertible line hmem).isTranscoding
      (hlines line hmem)
  rw [(isTranscoding_endedText hconvertible).decoded_eq] at hutf8
  rw [getMergedJisyoEntriesMap, getMergedJisyoEntriesMapCore_singleton hutf8 hlines',
    processLines_eq_ok_iff, decodedLines, List.map_map, List.map_map, List.forall_mem_map]
  refine and_congr (forall₂_congr fun line hmem => ?_) Iff.rfl
  exact ((hconvertible line hmem).goesOn_iff (hlines line hmem) (some outputEncoding)).2

/-- The entries of the lines for the two output encodings. -/
lemma areTranscoded_entries (hlines : ∀ line ∈ lines, IsLine line.1)
    (hconvertible : ∀ line ∈ lines, IsConvertible line.1) :
    AreTranscoded
      ((lines.map fun line => entryOf shippedTables .Euc (some .Euc) line.1).foldl addEntry ∅)
      ((lines.map fun line => entryOf shippedTables .Euc (some .Utf8) line.1).foldl addEntry ∅) := by
  refine AreTranscoded.foldl_addEntry ?_ fun midashi => ?_
  · rw [List.forall₂_map_left_iff, List.forall₂_map_right_iff, List.forall₂_same]
    exact fun line hmem => ((hconvertible line hmem).entryOf_rel (hlines line hmem)).2.2
  · rw [Std.ExtTreeMap.getElem?_empty]
    exact .none

/-- **Building commutes with transcoding exactly where the reader goes on behind every line**, of a
text whose last line is ended. -/
theorem commutes_iff (heuc : IsTextOf euc .Euc (endedText lines))
    (hutf8 : IsTextOf utf8 .Utf8 (Euc.decoded shippedTables (endedText lines)))
    (hlines : ∀ line ∈ lines, IsLine line.1) (hconvertible : ∀ line ∈ lines, IsConvertible line.1) :
    CommutesWithTranscoding euc utf8 ↔ ∀ line ∈ lines, IsPassed line.1 := by
  have hread := getMergedJisyoEntriesMap_euc_eq_ok_iff heuc hlines hconvertible
  have hread' := getMergedJisyoEntriesMap_utf8_eq_ok_iff hutf8 hlines hconvertible
  have hentries := fun line hmem => (hconvertible line hmem).entryOf_rel (hlines line hmem)
  have hsame : (lines.map fun line => entryOf shippedTables .Utf8 (some .Euc)
      (Euc.decoded shippedTables line.1)) =
      lines.map fun line => entryOf shippedTables .Euc (some .Euc) line.1 :=
    List.map_congr_left fun line hmem => (hentries line hmem).1
  have hsame' : (lines.map fun line => entryOf shippedTables .Utf8 (some .Utf8)
      (Euc.decoded shippedTables line.1)) =
      lines.map fun line => entryOf shippedTables .Euc (some .Utf8) line.1 :=
    List.map_congr_left fun line hmem => (hentries line hmem).2.1
  have hmap := (areTranscoded_entries hlines hconvertible).eq_map
  constructor
  · rintro ⟨m, hm, -⟩
    exact ((hread .Euc m).mp hm).1
  · intro hpassed
    refine ⟨_, (hread .Euc _).mpr ⟨hpassed, rfl⟩, (hread' .Euc _).mpr ⟨hpassed, ?_⟩,
      (hread .Utf8 _).mpr ⟨hpassed, ?_⟩, (hread' .Utf8 _).mpr ⟨hpassed, ?_⟩⟩
    · rw [hsame]
    · rw [hmap]
    · rw [hsame', hmap]

end File

/-! ## A line with a character past ASCII -/

lemma isTranscoding_ascii {text : Bytes} (h : ∀ b ∈ text, b ≤ 0x7f) : IsTranscoding text text := by
  induction text with
  | nil => exact (isTranscoding_respects (b := LF) (by decide)).nil
  | cons b text ih =>
    obtain ⟨hb, htext⟩ := List.forall_mem_cons.mp h
    exact (isTranscoding_respects hb).cons (ih htext)

lemma isTranscoding_ae : IsTranscoding [0xa9, 0xdc] [0xc3, 0xa6] := by
  refine ⟨[[0xa9, 0xdc]], ⟨List.forall_mem_singleton.mpr ⟨_, isCodeOf_ae.1⟩, .singleton _⟩, rfl, ?_⟩
  rw [List.map_singleton, isCodeOf_ae.1.decoded_eq]
  rfl

/-- The midashi U+00E6 with the candidate `d` twice and U+00E6 behind the last slash. -/
def aeLine : Bytes := [0xa9, 0xdc] ++ SP :: (ascii "/d/d" ++ SLASH :: [0xa9, 0xdc])

/-- The same in UTF-8. -/
def aeText : Bytes := [0xc3, 0xa6] ++ SP :: (ascii "/d/d" ++ SLASH :: [0xc3, 0xa6])

lemma isTranscoding_aeLine : IsTranscoding aeLine aeText :=
  (isTranscoding_respects (by decide)).join isTranscoding_ae
    ((isTranscoding_respects (by decide)).join (isTranscoding_ascii (by decide +kernel))
      isTranscoding_ae)

lemma isLine_aeLine : IsLine aeLine := by decide +kernel

lemma isLine_aeText : IsLine aeText := by decide +kernel

lemma isConvertible_aeLine : IsConvertible aeLine := by
  have hdecoded := isTranscoding_aeLine.decoded_eq
  obtain ⟨es, hes, hflatten, -⟩ := isTranscoding_aeLine
  refine ⟨⟨es, hes.listed, hflatten⟩, ?_, ?_, ?_⟩
  · rw [Euc.decode_eq, Outcome.ok_bind, Euc.encode_eq, hdecoded, isTranscoding_aeLine.encoded_eq]
  · rw [hdecoded]
    exact ⟨by decide, by decide⟩
  · rw [hdecoded]
    exact ⟨by decide, by decide⟩

/-- The files of the line with its end. -/
theorem commutes_iff_aeLine :
    CommutesWithTranscoding { bytes := aeLine ++ [LF] } { bytes := aeText ++ [LF] } ↔
      ∀ line ∈ [(aeLine, LineEnd.lf)], IsPassed line.1 := by
  have hall : ∀ line ∈ [(aeLine, LineEnd.lf)], IsConvertible line.1 :=
    List.forall_mem_singleton.mpr isConvertible_aeLine
  have htext : Euc.decoded shippedTables (endedText [(aeLine, LineEnd.lf)]) = aeText ++ [LF] :=
    ((isTranscoding_respects (by decide)).concat isTranscoding_aeLine).decoded_eq
  refine commutes_iff ⟨.None, rfl, rfl⟩ ?_ (List.forall_mem_singleton.mpr isLine_aeLine) hall
  rw [htext]
  exact ⟨.None, rfl, rfl⟩

lemma isSkipAndPrintWarning_aeText : isSkipAndPrintWarning aeText.dropLast = .ok false := rfl

/-- Whatever the tables are: the candidates of the chomped line are not changed by them. -/
lemma needsText_aeText (t : EncodingTables) : NeedsText t .Utf8 (some .Utf8) aeText.dropLast := by
  have hcandidates : ascii "/d/d/" ≠ Candidates.removeDuplicatesBytes (ascii "/d/d/") := by
    decide +kernel
  exact (needsText_iff_of_cut rfl).mpr hcandidates

lemma isUtf8_lineText_aeText (t : EncodingTables) :
    isUtf8 (lineText t .Utf8 aeText.dropLast) = false := rfl

/-- Without its end the line loses the last byte of a character: the text of its warning is no
UTF-8, so the UTF-8 file is not read. -/
theorem not_commutes_aeLine :
    ¬ ∀ (euc utf8 : JisyoFile) (lines : List (Bytes × LineEnd)) (last : Bytes),
      IsTextOf euc .Euc (endedText lines ++ last) →
      IsTextOf utf8 .Utf8 (Euc.decoded shippedTables (endedText lines ++ last)) →
      euc.fails = false → utf8.fails = false →
      (∀ line ∈ lines, IsLine line.1 ∧ IsConvertible line.1) → IsLine last →
      (last ≠ [] → IsConvertible last) → CommutesWithTranscoding euc utf8 := by
  intro h
  have hutf8 : IsTextOf { bytes := aeText } .Utf8 (endedText [] ++ aeText) := ⟨.None, rfl, rfl⟩
  have hdecoded : Euc.decoded shippedTables (endedText [] ++ aeLine) = endedText [] ++ aeText :=
    isTranscoding_aeLine.decoded_eq
  obtain ⟨m, -, -, -, hread⟩ := h { bytes := aeLine } { bytes := aeText } [] aeLine
    ⟨.None, rfl, rfl⟩ (by rw [hdecoded]; exact hutf8) rfl rfl nofun isLine_aeLine
    fun _ => isConvertible_aeLine
  have hlast : ¬ (aeText = [] ∨ (false = true)) := by
    rw [not_or]
    exact ⟨List.cons_ne_nil _ _, Bool.false_ne_true⟩
  rw [getMergedJisyoEntriesMap, getMergedJisyoEntriesMapCore_file,
    readJisyo_eq hutf8 nofun isLine_aeText, List.map_nil, processLines, List.foldlM_nil,
    Outcome.pure_eq, Outcome.ok_bind, if_neg hlast] at hread
  obtain ⟨hskip | ⟨-, hneeds⟩, -⟩ := processLine_eq_ok_iff.mp hread
  · rw [isSkipAndPrintWarning_aeText] at hskip
    simp at hskip
  · have hchomped := hneeds (needsText_aeText shippedTables)
    exact absurd (hchomped.symm.trans (isUtf8_lineText_aeText shippedTables)) (by simp)

end JisyoReader

end Yaskkserv2
