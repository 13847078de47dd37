import Yaskkserv2.Properties.Answers
import Yaskkserv2.Properties.JisyoFaults
import Yaskkserv2.Properties.StoredCandidates
import Yaskkserv2.Properties.TranscodedJisyo
import Yaskkserv2.Properties.WrittenJisyo

/-!
# A jisyo that was written is read again

`jisyoOf` writes the entries of a dictionary as lines, okuri-ari entries backwards and the others
behind them, in the encoding that is asked for.  The reader skips the comments and converts the
lines back.

So the entries come out as they went in, if they are such that a line can hold them and that the two
conversions of a field undo each other (`IsRegenerable`).  A dictionary built of them is the
dictionary that the jisyo was written of, and the jisyo written of that is the same again
(`create_roundTrip`).
-/

namespace Yaskkserv2

open Framework Dictionary DictionaryCreator DictionaryReader JisyoReader Candidates

namespace Euc

/-! ## Conversions undone -/

open EncodingTables

/-- An ASCII byte stays in a text that is encoded. -/
lemma mem_encoded {d : UInt8} (hd : d ≤ 0x7f) {x : Bytes} (hx : d ∈ x) :
    d ∈ encoded shippedTables x := by
  obtain ⟨front, rest, rfl, hfront⟩ := List.eq_append_cons_of_mem hx
  rw [encoded_append_cons hd hfront]
  exact List.mem_append_right _ List.mem_cons_self

lemma head?_encoded {d : UInt8} (hd : d ≤ 0x7f) {x : Bytes} (hx : x.head? = some d) :
    (encoded shippedTables x).head? = some d := by
  obtain ⟨rest, rfl⟩ := List.head?_eq_some_iff.mp hx
  have hnil : encoded shippedTables [] = [] := translit_nil _
  have hcut := encoded_append_cons hd List.not_mem_nil rest
  rw [List.nil_append, hnil, List.nil_append] at hcut
  rw [hcut, List.head?_cons]

/-- What is encoded to candidates has its slashes where these have them. -/
lemma exists_delimited_of_encoded {x : Bytes} {cs : List Bytes} (hne : cs ≠ [])
    (hcs : AreCandidates cs) (hx : encoded shippedTables x = delimited SLASH cs) :
    ∃ ps, x = delimited SLASH ps ∧ ps ≠ [] ∧ AreCandidates ps := by
  have hnil : encoded shippedTables [] = [] := translit_nil _
  have hpieces : ∀ p ∈ x.splitOn SLASH, SLASH ∉ p := fun p hp => not_mem_of_mem_splitOn hp
  have hsplit : (x.splitOn SLASH).map (encoded shippedTables) = [] :: (cs ++ [[]]) := by
    have hwhole := encoded_intercalate (by decide : SLASH ≤ 0x7f) hpieces
    rw [List.intercalate_splitOn, hx] at hwhole
    have hcut := congrArg (List.splitOn SLASH) hwhole
    rw [splitOn_delimited fun c hc => (hcs c hc).2, List.splitOn_intercalate] at hcut
    · exact hcut.symm
    · intro p hp
      obtain ⟨q, hq, rfl⟩ := List.mem_map.mp hp
      exact not_mem_encoded isSeparator_slash (hpieces q hq)
    · simp [List.splitOn_ne_nil]
  have heq_nil : ∀ p : Bytes, encoded shippedTables p = [] → p = [] := fun p hp => by
    by_contra hnot
    exact encoded_ne_nil hnot hp
  obtain ⟨first, rest, hfirst, hempty, hrest⟩ := List.map_eq_cons_iff.mp hsplit
  obtain ⟨ps, lasts, rfl, hps, hlasts⟩ := List.map_eq_append_iff.mp hrest
  obtain ⟨last, none, rfl, hlast, hnone⟩ := List.map_eq_cons_iff.mp hlasts
  obtain rfl := heq_nil first hempty
  obtain rfl := heq_nil last hlast
  obtain rfl := List.map_eq_nil_iff.mp hnone
  have hmem : ∀ p ∈ ps, SLASH ∉ p := fun p hp =>
    hpieces p (by rw [hfirst]; exact List.mem_cons_of_mem _ (List.mem_append_left _ hp))
  refine ⟨ps, ?_, fun hnil => hne ?_, fun p hp => ⟨fun hpnil => ?_, hmem p hp⟩⟩
  · have hdelimited :
        [SLASH].intercalate ((delimited SLASH ps).splitOn SLASH) = delimited SLASH ps :=
      List.intercalate_splitOn SLASH
    rw [splitOn_delimited hmem, ← hfirst, List.intercalate_splitOn] at hdelimited
    exact hdelimited
  · rw [← hps, hnil, List.map_nil]
  · refine (hcs (encoded shippedTables p) ?_).1 (by rw [hpnil, hnil])
    rw [← hps]
    exact List.mem_map_of_mem hp

end Euc

/-! ## The lines of a jisyo -/

/-- An entry that a line can hold. -/
structure IsWritable (midashi text : Bytes) : Prop where
  midashi_ne_nil : midashi ≠ []
  space_not_mem : SP ∉ midashi
  not_comment : midashi.head? ≠ some SEMICOLON
  not_tab : midashi.head? ≠ some TAB
  isLine_midashi : IsLine midashi
  isLine_text : IsLine text
  candidates : ∃ ps, text = delimited SLASH ps ∧ ps ≠ [] ∧ AreCandidates ps
  length_le : midashi.length + 1 + text.length ≤ JISYO_MAXIMUM_LINE_LENGTH

/-- The line of an entry. -/
def lineOf (p : Bytes × Bytes) : Bytes := p.1 ++ SP :: p.2

namespace IsWritable

variable {midashi text : Bytes} (h : IsWritable midashi text)

include h

lemma isLine_lineOf : IsLine (lineOf (midashi, text)) := by
  intro b hb
  rw [lineOf] at hb
  rcases List.mem_append.mp hb with hb | hb
  · exact h.isLine_midashi b hb
  · rcases List.mem_cons.mp hb with rfl | hb
    · decide
    · exact h.isLine_text b hb

/-- The line is cut into what it was made of. -/
lemma cutLine_lineOf : isSkipAndPrintWarning (lineOf (midashi, text)) = .ok false ∧
    getMidashiCandidates (lineOf (midashi, text)) = .ok (midashi, text) := by
  obtain ⟨ps, htext, hne, hps⟩ := h.candidates
  have hslash : text.head? = some SLASH := by rw [htext, delimited, List.head?_cons]
  have hlong : 3 ≤ text.length := by
    obtain ⟨p, ps, rfl⟩ := List.exists_cons_of_ne_nil hne
    have hp := List.length_pos_iff.mpr (hps p List.mem_cons_self).1
    have hrest := length_delimited_pos SLASH ps
    rw [htext, length_delimited_cons]
    omega
  have hlength : (midashi ++ SP :: text).length = midashi.length + 1 + text.length := by
    rw [List.length_append, List.length_cons]
    omega
  have hmidashi := List.length_pos_iff.mpr h.midashi_ne_nil
  have hunskipped : IsUnskipped midashi text := by
    refine ⟨isSpaceCrLfOnly_eq_false h.midashi_ne_nil h.space_not_mem h.isLine_midashi _,
      h.midashi_ne_nil, h.not_comment, h.not_tab, ?_, ?_, by omega, ?_, ?_⟩
    · rw [JISYO_MINIMUM_LINE_LENGTH, hlength]
      omega
    · rw [hlength]
      exact h.length_le
    · rw [hslash]
      decide
    · rw [htext]
      exact find_pair_delimited (fun p hp => (hps p hp).1) fun p hp => (hps p hp).2
  constructor
  · rcases isSkipAndPrintWarning_append h.space_not_mem text with ⟨-, hnot⟩ | ⟨hgoes, -⟩
    · exact absurd hunskipped hnot
    · exact hgoes
  · have hlast : text = text.dropLast ++ SLASH :: [] := by
      rw [htext]
      exact delimited_eq_dropLast_append
    have hcut : getMidashiCandidates (midashi ++ SP :: (text.dropLast ++ SLASH :: [])) =
        .ok (midashi, text.dropLast ++ [SLASH]) :=
      getMidashiCandidates_of_slash h.space_not_mem List.not_mem_nil
    rw [← hlast] at hcut
    exact hcut

end IsWritable

lemma isSkipAndPrintWarning_comment (rest : Bytes) :
    isSkipAndPrintWarning (SEMICOLON :: rest) = .ok true := by
  by_cases hspace : SP ∈ SEMICOLON :: rest
  · obtain ⟨midashi, tail, hsplit, hmidashi⟩ := List.eq_append_cons_of_mem hspace
    rw [hsplit]
    rcases isSkipAndPrintWarning_append hmidashi tail with ⟨hskip, -⟩ | ⟨-, hunskipped⟩
    · exact hskip
    · obtain ⟨b, bytes, rfl⟩ := List.exists_cons_of_ne_nil hunskipped.midashi_ne_nil
      obtain ⟨rfl, -⟩ := List.cons.inj hsplit
      exact absurd rfl hunskipped.not_comment
  · exact isSkipAndPrintWarning_of_not_mem hspace

/-! ## Entries that can be regenerated -/

namespace JisyoCreator

section Convert

variable (outputJisyoEncoding dictionaryEncoding : Encoding)

/-- Entries that lines can hold, each field of which comes back from the encoding of the jisyo. -/
structure IsRegenerable (m : JisyoEntriesMap) : Prop where
  entries : IsJisyoEntries m
  cr_not_mem : ∀ midashi ∈ m, CR ∉ midashi
  not_comment : ∀ midashi ∈ m, midashi.head? ≠ some SEMICOLON
  not_tab : ∀ midashi ∈ m, midashi.head? ≠ some TAB
  cr_not_mem_text : ∀ midashi text : Bytes, m[midashi]? = some text → CR ∉ text
  nodup : ∀ midashi text : Bytes, m[midashi]? = some text → (candidatesOf text).Nodup
  length_le : ∀ midashi text : Bytes, m[midashi]? = some text →
    (jisyoMidashi EncodingTables.shippedTables outputJisyoEncoding midashi).length + 1 +
      (jisyoCandidates EncodingTables.shippedTables outputJisyoEncoding dictionaryEncoding
        text).length ≤ JISYO_MAXIMUM_LINE_LENGTH
  midashi_back : ∀ midashi ∈ m,
    storedMidashi EncodingTables.shippedTables outputJisyoEncoding (some dictionaryEncoding)
      (jisyoMidashi EncodingTables.shippedTables outputJisyoEncoding midashi) = midashi
  candidates_back : ∀ midashi text : Bytes, m[midashi]? = some text →
    convertedCandidates EncodingTables.shippedTables outputJisyoEncoding (some dictionaryEncoding)
      (jisyoCandidates EncodingTables.shippedTables outputJisyoEncoding dictionaryEncoding text) =
        text

variable {outputJisyoEncoding dictionaryEncoding} {m : JisyoEntriesMap}
  (h : IsRegenerable outputJisyoEncoding dictionaryEncoding m)

include h

namespace IsRegenerable

omit h in
lemma mem_of_get {midashi text : Bytes} (hget : m[midashi]? = some text) : midashi ∈ m := by
  rw [← Std.ExtTreeMap.isSome_getElem?_iff_mem, hget, Option.isSome_some]

lemma midashi_ne_nil {midashi : Bytes} (hmem : midashi ∈ m) : midashi ≠ [] := by
  cases h.entries.starts midashi hmem <;> exact List.cons_ne_nil _ _

/-- A midashi is written as a midashi. -/
lemma jisyoMidashi_cases {midashi : Bytes} (hmem : midashi ∈ m) :
    jisyoMidashi EncodingTables.shippedTables outputJisyoEncoding midashi ≠ [] ∧
      (∀ d : UInt8, d ≤ 0x7f → d ∉ midashi →
        d ∉ jisyoMidashi EncodingTables.shippedTables outputJisyoEncoding midashi) ∧
      ∀ d : UInt8, d ≤ 0x7f → midashi.head? ≠ some d →
        (jisyoMidashi EncodingTables.shippedTables outputJisyoEncoding midashi).head? ≠ some d := by
  have hback := h.midashi_back midashi hmem
  have hne := h.midashi_ne_nil hmem
  cases outputJisyoEncoding with
  | Euc => exact ⟨hne, fun _ _ hnot => hnot, fun _ _ hnot => hnot⟩
  | Utf8 =>
    have hencoded : Euc.encoded EncodingTables.shippedTables
        (jisyoMidashi EncodingTables.shippedTables .Utf8 midashi) = midashi := hback
    refine ⟨fun hnil => ?_, fun d hd hnot hin => ?_, fun d hd hnot hhead => ?_⟩
    · rw [hnil] at hencoded
      exact hne (hencoded.symm.trans (translit_nil _))
    · have hin' := Euc.mem_encoded hd hin
      rw [hencoded] at hin'
      exact hnot hin'
    · have hhead' := Euc.head?_encoded hd hhead
      rw [hencoded] at hhead'
      exact hnot hhead'

/-- Candidates are written as candidates. -/
lemma jisyoCandidates_cases {midashi text : Bytes} (hget : m[midashi]? = some text) :
    (∃ ps, jisyoCandidates EncodingTables.shippedTables outputJisyoEncoding dictionaryEncoding text =
        delimited SLASH ps ∧ ps ≠ [] ∧ AreCandidates ps) ∧
      ∀ d : UInt8, Euc.IsSeparator d → d ∉ text →
        d ∉ jisyoCandidates EncodingTables.shippedTables outputJisyoEncoding dictionaryEncoding
          text := by
  have hback := h.candidates_back midashi text hget
  obtain ⟨cs, hcs, htext⟩ := h.entries.candidates midashi text hget
  have hcandidates := areCandidates_of_isCandidateList hcs
  cases outputJisyoEncoding with
  | Euc =>
    cases dictionaryEncoding with
    | Euc => exact ⟨⟨cs, htext, hcs.ne_nil, hcandidates⟩, fun _ _ hnot => hnot⟩
    | Utf8 =>
      have heq : jisyoCandidates EncodingTables.shippedTables .Euc .Utf8 text =
          Euc.encoded EncodingTables.shippedTables text := rfl
      rw [heq]
      refine ⟨⟨cs.map (Euc.encoded EncodingTables.shippedTables), ?_, by simpa using hcs.ne_nil,
        fun p hp => ?_⟩, fun d hd hnot => Euc.not_mem_encoded hd hnot⟩
      · rw [htext]
        exact encoded_delimited hcandidates
      · obtain ⟨c, hc, rfl⟩ := List.mem_map.mp hp
        exact ⟨Euc.encoded_ne_nil (hcandidates c hc).1,
          Euc.not_mem_encoded Euc.isSeparator_slash (hcandidates c hc).2⟩
  | Utf8 =>
    cases dictionaryEncoding with
    | Euc =>
      have hencoded : Euc.encoded EncodingTables.shippedTables
          (jisyoCandidates EncodingTables.shippedTables .Utf8 .Euc text) = text := hback
      refine ⟨?_, fun d hd hnot hin => ?_⟩
      · rw [htext] at hencoded ⊢
        exact Euc.exists_delimited_of_encoded hcs.ne_nil hcandidates hencoded
      · have hin' := Euc.mem_encoded hd.1 hin
        rw [hencoded] at hin'
        exact hnot hin'
    | Utf8 => exact ⟨⟨cs, htext, hcs.ne_nil, hcandidates⟩, fun _ _ hnot => hnot⟩

/-- An entry is written as a line. -/
lemma isWritable {midashi text : Bytes} (hget : m[midashi]? = some text) :
    IsWritable (jisyoMidashi EncodingTables.shippedTables outputJisyoEncoding midashi)
      (jisyoCandidates EncodingTables.shippedTables outputJisyoEncoding dictionaryEncoding text) := by
  have hmem := mem_of_get hget
  obtain ⟨hne, hnot, hhead⟩ := h.jisyoMidashi_cases hmem
  obtain ⟨hcandidates, hnotText⟩ := h.jisyoCandidates_cases hget
  have hlf := (h.entries.candidates midashi text hget).lf_not_mem
  refine ⟨hne, hnot SP (by decide) (h.entries.space_not_mem _ hmem),
    hhead SEMICOLON (by decide) (h.not_comment _ hmem), hhead TAB (by decide) (h.not_tab _ hmem),
    ?_, ?_, hcandidates, h.length_le _ _ hget⟩
  · rintro b hb (rfl | rfl)
    · exact hnot LF (by decide) (h.entries.lf_not_mem _ hmem) hb
    · exact hnot CR (by decide) (h.cr_not_mem _ hmem) hb
  · rintro b hb (rfl | rfl)
    · exact hnotText LF Euc.isSeparator_lf hlf hb
    · exact hnotText CR Euc.isSeparator_cr (h.cr_not_mem_text _ _ hget) hb

/-- **The line of an entry is read as the entry.** -/
lemma entryOf_lineOf {midashi text : Bytes} (hget : m[midashi]? = some text) :
    GoesOn EncodingTables.shippedTables outputJisyoEncoding (some dictionaryEncoding)
        (lineOf (jisyoEntry EncodingTables.shippedTables outputJisyoEncoding dictionaryEncoding
          (midashi, text))) ∧
      entryOf EncodingTables.shippedTables outputJisyoEncoding (some dictionaryEncoding)
        (lineOf (jisyoEntry EncodingTables.shippedTables outputJisyoEncoding dictionaryEncoding
          (midashi, text))) = some (midashi, text) := by
  obtain ⟨hskip, hcut⟩ := (h.isWritable hget).cutLine_lineOf
  have hdistinct : removeDuplicatesBytes text = text := by
    obtain ⟨cs, hcs, htext⟩ := h.entries.candidates midashi text hget
    have hcandidates := areCandidates_of_isCandidateList hcs
    have hnodup := h.nodup midashi text hget
    rw [htext, candidatesOf_delimited hcandidates] at hnodup
    rw [htext, removeDuplicatesBytes_delimited hcs.ne_nil hcandidates, removeDuplicates,
      removeDuplicatesFrom_of_nodup hnodup fun _ _ => List.not_mem_nil]
  have hback := h.candidates_back midashi text hget
  have hmidashi := h.midashi_back midashi (mem_of_get hget)
  have hline : lineOf (jisyoEntry EncodingTables.shippedTables outputJisyoEncoding
      dictionaryEncoding (midashi, text)) =
        lineOf (jisyoMidashi EncodingTables.shippedTables outputJisyoEncoding midashi,
          jisyoCandidates EncodingTables.shippedTables outputJisyoEncoding dictionaryEncoding
            text) := rfl
  rw [hline]
  have hquiet : ¬ NeedsText EncodingTables.shippedTables outputJisyoEncoding
      (some dictionaryEncoding) (lineOf
        (jisyoMidashi EncodingTables.shippedTables outputJisyoEncoding midashi,
          jisyoCandidates EncodingTables.shippedTables outputJisyoEncoding dictionaryEncoding
            text)) := by
    rw [needsText_iff_of_cut hcut, hback, hdistinct]
    exact not_not.mpr rfl
  refine ⟨.inr ⟨?_, fun hneeds => absurd hneeds hquiet⟩, ?_⟩
  · rw [← getMidashiCandidates_ne_panic_iff, hcut]
    simp
  · rw [entryOf_eq_cutLine, cutLine, if_neg (by rw [hskip]; simp), hcut]
    simp only [Option.map_some, hback, hmidashi, hdistinct]

end IsRegenerable

end Convert

/-! ## The text -/

/-- The first line of a jisyo. -/
def cookieLine : Encoding → Bytes
  | .Euc => ascii ";; -*- mode: fundamental; coding: euc-jis-2004 -*-"
  | .Utf8 => ascii ";; -*- mode: fundamental; coding: utf-8 -*-"

/-- The lines of a jisyo. -/
def linesOfMaps (encoding : Encoding) (okuriAriMap okuriNasiMap : JisyoEntriesMap) : List Bytes :=
  [cookieLine encoding, ascii ";; yaskkserv2 dictionary", ascii ";; okuri-ari entries."] ++
    (okuriAriMap.toList.reverse.map lineOf ++
      (ascii ";; okuri-nasi entries." :: okuriNasiMap.toList.map lineOf))

lemma endedText_map_lf (lines : List Bytes) :
    endedText (lines.map fun line => (line, LineEnd.lf)) = lines.flatMap (· ++ [LF]) := by
  rw [endedText, List.flatMap_map]
  rfl

/-- A jisyo is its lines. -/
lemma write_eq (encoding : Encoding) (okuriAriMap okuriNasiMap : JisyoEntriesMap) :
    write encoding okuriAriMap okuriNasiMap =
      endedText ((linesOfMaps encoding okuriAriMap okuriNasiMap).map fun line =>
        (line, LineEnd.lf)) := by
  have hentries : ∀ ps : List (Bytes × Bytes),
      (ps.map lineOf).flatMap (· ++ [LF]) = ps.flatMap writeEntry := by
    intro ps
    rw [List.flatMap_map]
    refine List.flatMap_congr fun p _ => ?_
    rw [lineOf, writeEntry, entryLine]
    simp
  have hcookie : cookie encoding = cookieLine encoding ++ [LF] := by
    cases encoding <;> decide +kernel
  have hdictionary : ascii ";; yaskkserv2 dictionary\n" =
      ascii ";; yaskkserv2 dictionary" ++ [LF] := by decide +kernel
  have hari : ascii ";; okuri-ari entries.\n" = ascii ";; okuri-ari entries." ++ [LF] := by
    decide +kernel
  have hnasi : ascii ";; okuri-nasi entries.\n" = ascii ";; okuri-nasi entries." ++ [LF] := by
    decide +kernel
  rw [endedText_map_lf, linesOfMaps, write, hcookie, hdictionary, hari, hnasi]
  simp only [List.flatMap_append, List.flatMap_cons, List.flatMap_nil, hentries, List.append_assoc,
    List.append_nil]

/-- The comments of a jisyo are lines, and they are skipped. -/
lemma comments (encoding : Encoding) :
    ∀ line ∈ [cookieLine encoding, ascii ";; yaskkserv2 dictionary", ascii ";; okuri-ari entries.",
      ascii ";; okuri-nasi entries."], IsLine line ∧ isSkipAndPrintWarning line = .ok true := by
  have hcomment : ∀ line : Bytes, (∀ b ∈ line, ¬ (b = LF ∨ b = CR)) ∧
      line.head? = some SEMICOLON → IsLine line ∧ isSkipAndPrintWarning line = .ok true := by
    rintro line ⟨hisLine, hhead⟩
    obtain ⟨rest, rfl⟩ := List.head?_eq_some_iff.mp hhead
    exact ⟨hisLine, isSkipAndPrintWarning_comment rest⟩
  intro line hline
  simp only [List.mem_cons, List.not_mem_nil, or_false] at hline
  apply hcomment
  rcases hline with rfl | rfl | rfl | rfl
  · cases encoding <;> decide +kernel
  all_goals decide +kernel

/-! ## Reading the jisyo -/

/-- Entries of different midashi are not merged. -/
lemma foldl_mergeEntry {ps : List (Bytes × Bytes)} (hps : (ps.map Prod.fst).Nodup)
    {m : JisyoEntriesMap} (hm : ∀ p ∈ ps, p.1 ∉ m) :
    ps.foldl (fun m p => mergeEntry m p.1 p.2) m = ps.foldl (fun m p => m.insert p.1 p.2) m := by
  induction ps generalizing m with
  | nil => rfl
  | cons p ps ih =>
    rw [List.map_cons, List.nodup_cons] at hps
    have hnone : m[p.1]? = none := Std.ExtTreeMap.getElem?_eq_none (hm p List.mem_cons_self)
    rw [List.foldl_cons, List.foldl_cons, mergeEntry, hnone]
    refine ih hps.2 fun q hq => ?_
    rw [Std.ExtTreeMap.mem_insert, not_or]
    refine ⟨fun hcompare => hps.1 ?_, hm q (List.mem_cons_of_mem p hq)⟩
    rw [Std.LawfulEqCmp.eq_of_compare hcompare]
    exact List.mem_map_of_mem hq

section Read

variable {outputJisyoEncoding dictionaryEncoding : Encoding} {m : JisyoEntriesMap}
  (h : IsRegenerable outputJisyoEncoding dictionaryEncoding m)

include h

lemma IsRegenerable.isSingleValued :
    IsSingleValued EncodingTables.shippedTables outputJisyoEncoding m.toList := by
  intro p hp q hq hpq
  have hgetP := Std.ExtTreeMap.mem_toList_iff_getElem?_eq_some.mp hp
  have hgetQ := Std.ExtTreeMap.mem_toList_iff_getElem?_eq_some.mp hq
  have hmidashi : p.1 = q.1 := by
    rw [← h.midashi_back p.1 (mem_of_get hgetP), hpq, h.midashi_back q.1 (mem_of_get hgetQ)]
  rw [hmidashi, hgetQ, Option.some.injEq] at hgetP
  exact Prod.ext hmidashi hgetP.symm

/-- Each of the two maps has the written entries of its kind. -/
lemma IsRegenerable.toList_perm (keep : Bytes × Bytes → Bool) {okuriMap : JisyoEntriesMap}
    (hmap : okuriMap = ((m.toList.filter keep).map
      (jisyoEntry EncodingTables.shippedTables outputJisyoEncoding dictionaryEncoding)).foldl
        (fun m p => m.insert p.1 p.2) (∅ : JisyoEntriesMap)) :
    okuriMap.toList.Perm ((m.toList.filter keep).map
      (jisyoEntry EncodingTables.shippedTables outputJisyoEncoding dictionaryEncoding)) := by
  have hnodup : ∀ m : JisyoEntriesMap, m.toList.Nodup := fun m => by
    refine List.Nodup.of_map Prod.fst ?_
    rw [Std.ExtTreeMap.map_fst_toList_eq_keys]
    exact Std.ExtTreeMap.nodup_keys
  have hsingle : IsSingleValued EncodingTables.shippedTables outputJisyoEncoding
      (m.toList.filter keep) := fun p hp q hq =>
    h.isSingleValued p (List.mem_of_mem_filter hp) q (List.mem_of_mem_filter hq)
  refine (List.perm_ext_iff_of_nodup (hnodup okuriMap) ?_).mpr fun p => ?_
  · exact ((hnodup m).filter keep).map_on fun p hp q hq hpq =>
      hsingle p hp q hq (congrArg Prod.fst hpq)
  · rw [Std.ExtTreeMap.mem_toList_iff_getElem?_eq_some, hmap, getElem?_foldl_jisyoEntry hsingle,
      List.mem_map]

/-- The written entries of one kind are read as those entries. -/
lemma IsRegenerable.filterMap_entryOf (keep : Bytes × Bytes → Bool) :
    ((m.toList.filter keep).map
      (jisyoEntry EncodingTables.shippedTables outputJisyoEncoding dictionaryEncoding)).filterMap
        (fun p => entryOf EncodingTables.shippedTables outputJisyoEncoding (some dictionaryEncoding)
          (lineOf p)) = m.toList.filter keep := by
  rw [List.filterMap_map]
  refine (List.filterMap_congr fun p hp => ?_).trans (List.filterMap_some)
  exact (h.entryOf_lineOf (Std.ExtTreeMap.mem_toList_iff_getElem?_eq_some.mp
    (List.mem_of_mem_filter hp))).2

/-- The lines of the jisyo are read as the entries, in another order. -/
lemma IsRegenerable.filterMap_linesOfMaps_perm :
    ((linesOfMaps outputJisyoEncoding
      (okuriMapsOf EncodingTables.shippedTables outputJisyoEncoding dictionaryEncoding m).okuriAriMap
      (okuriMapsOf EncodingTables.shippedTables outputJisyoEncoding dictionaryEncoding
        m).okuriNasiMap).filterMap (entryOf EncodingTables.shippedTables outputJisyoEncoding
          (some dictionaryEncoding))).Perm m.toList := by
  set maps := okuriMapsOf EncodingTables.shippedTables outputJisyoEncoding dictionaryEncoding m
  set read := entryOf EncodingTables.shippedTables outputJisyoEncoding (some dictionaryEncoding)
  have hkind : ∀ (keep : Bytes × Bytes → Bool) (okuriMap : JisyoEntriesMap),
      okuriMap = ((m.toList.filter keep).map (jisyoEntry EncodingTables.shippedTables
        outputJisyoEncoding dictionaryEncoding)).foldl (fun m p => m.insert p.1 p.2)
          (∅ : JisyoEntriesMap) →
      ((okuriMap.toList.map lineOf).filterMap read).Perm (m.toList.filter keep) := by
    intro keep okuriMap hmap
    rw [List.filterMap_map, ← h.filterMap_entryOf keep]
    exact (h.toList_perm keep hmap).filterMap _
  have hari := hkind (fun p => isOkuriAri p.1) maps.okuriAriMap (okuriAriMap_foldl_add _ _)
  have hnasi := hkind (fun p => !isOkuriAri p.1) maps.okuriNasiMap (okuriNasiMap_foldl_add _ _)
  have hcomment : ∀ line ∈ [cookieLine outputJisyoEncoding, ascii ";; yaskkserv2 dictionary",
      ascii ";; okuri-ari entries.", ascii ";; okuri-nasi entries."], read line = none :=
    fun line hline => if_pos (comments outputJisyoEncoding line hline).2
  have hfront : [cookieLine outputJisyoEncoding, ascii ";; yaskkserv2 dictionary",
      ascii ";; okuri-ari entries."].filterMap read = [] :=
    List.filterMap_eq_nil_iff.mpr fun line hline =>
      hcomment line (List.mem_append_left [ascii ";; okuri-nasi entries."] hline)
  rw [linesOfMaps, List.filterMap_append, hfront, List.nil_append, List.filterMap_append,
    List.filterMap_cons, hcomment (ascii ";; okuri-nasi entries.") (by simp)]
  refine List.Perm.trans (List.Perm.append ?_ hnasi) (List.filter_append_perm _ _)
  exact (((List.reverse_perm _).map lineOf).filterMap read).trans hari

/-- The reader goes on behind every line of the jisyo. -/
lemma IsRegenerable.linesGoOn : ∀ line ∈ linesOfMaps outputJisyoEncoding
    (okuriMapsOf EncodingTables.shippedTables outputJisyoEncoding dictionaryEncoding m).okuriAriMap
    (okuriMapsOf EncodingTables.shippedTables outputJisyoEncoding dictionaryEncoding m).okuriNasiMap,
    IsLine line ∧
      GoesOn EncodingTables.shippedTables outputJisyoEncoding (some dictionaryEncoding) line := by
  have hentry : ∀ (keep : Bytes × Bytes → Bool) (okuriMap : JisyoEntriesMap),
      okuriMap = ((m.toList.filter keep).map (jisyoEntry EncodingTables.shippedTables
        outputJisyoEncoding dictionaryEncoding)).foldl (fun m p => m.insert p.1 p.2)
          (∅ : JisyoEntriesMap) →
      ∀ p ∈ okuriMap.toList, IsLine (lineOf p) ∧ GoesOn EncodingTables.shippedTables
        outputJisyoEncoding (some dictionaryEncoding) (lineOf p) := by
    intro keep okuriMap hmap p hp
    obtain ⟨q, hq, rfl⟩ := List.mem_map.mp ((h.toList_perm keep hmap).mem_iff.mp hp)
    have hget := Std.ExtTreeMap.mem_toList_iff_getElem?_eq_some.mp (List.mem_of_mem_filter hq)
    exact ⟨(h.isWritable hget).isLine_lineOf, (h.entryOf_lineOf hget).1⟩
  have hcomment : ∀ line ∈ [cookieLine outputJisyoEncoding, ascii ";; yaskkserv2 dictionary",
      ascii ";; okuri-ari entries.", ascii ";; okuri-nasi entries."], IsLine line ∧
        GoesOn EncodingTables.shippedTables outputJisyoEncoding (some dictionaryEncoding) line :=
    fun line hmem => ⟨(comments outputJisyoEncoding line hmem).1,
      .inl (comments outputJisyoEncoding line hmem).2⟩
  intro line hmem
  rw [linesOfMaps] at hmem
  rcases List.mem_append.mp hmem with hmem | hmem
  · exact hcomment line (List.mem_append_left [ascii ";; okuri-nasi entries."] hmem)
  rcases List.mem_append.mp hmem with hmem | hmem
  · obtain ⟨p, hp, rfl⟩ := List.mem_map.mp hmem
    exact hentry _ _ (okuriAriMap_foldl_add _ _) p (List.mem_reverse.mp hp)
  rcases List.mem_cons.mp hmem with rfl | hmem
  · exact hcomment _ (by simp)
  · obtain ⟨p, hp, rfl⟩ := List.mem_map.mp hmem
    exact hentry _ _ (okuriNasiMap_foldl_add _ _) p hp

/-- **Jisyo and dictionary are two forms of the same entries.**  Whatever dictionary was built of
the entries, the jisyo that is written of it is the same text; and wherever that text is recognized
as what it is, it is read as the entries again.  So another dictionary that is built of it has the
same index and the same blocks, and its jisyo is that text once more. -/
theorem create_roundTrip :
    (∀ (file : Bytes) (onMemory : OnMemory) (indexMapValues : List (List DictionaryBlockInformation)),
      IsLoaded m file onMemory →
      onMemory.dictionaryFixedHeader.encoding = dictionaryEncoding.toU32 →
      indexMapValues.Perm (onMemory.indexMap.toList.map Prod.snd) →
      create EncodingTables.shippedTables outputJisyoEncoding onMemory indexMapValues file =
        .ok (jisyoOf EncodingTables.shippedTables outputJisyoEncoding dictionaryEncoding m)) ∧
      ∀ jisyo : JisyoFile,
        jisyo.bytes = jisyoOf EncodingTables.shippedTables outputJisyoEncoding dictionaryEncoding m →
        detectJisyoEncoding jisyo = .ok (outputJisyoEncoding, .None) →
        getMergedJisyoEntriesMap EncodingTables.shippedTables [jisyo] dictionaryEncoding = .ok m := by
  refine ⟨fun file onMemory indexMapValues hloaded hencoding hvalues =>
    create_eq_jisyoOf hloaded h.entries hencoding hvalues h.isSingleValued,
    fun jisyo hbytes hdetect => ?_⟩
  set maps := okuriMapsOf EncodingTables.shippedTables outputJisyoEncoding dictionaryEncoding m
    with hmaps
  set lines := linesOfMaps outputJisyoEncoding maps.okuriAriMap maps.okuriNasiMap with hlines
  have hline := h.linesGoOn
  rw [← hmaps, ← hlines] at hline
  have htext : IsTextOf jisyo outputJisyoEncoding
      (endedText (lines.map fun line => (line, LineEnd.lf))) := by
    refine ⟨.None, hdetect, ?_⟩
    rw [hlines, ← write_eq, skipUtf8Bom, hbytes]
    rfl
  rw [getMergedJisyoEntriesMap, getMergedJisyoEntriesMapCore_singleton htext (by
    intro line hmem
    obtain ⟨text, htext, rfl⟩ := List.mem_map.mp hmem
    exact (hline text htext).1)]
  have hfst : (lines.map fun line => (line, LineEnd.lf)).map Prod.fst = lines := by
    rw [List.map_map]
    exact List.map_id _
  rw [hfst]
  refine processLines_eq_ok_iff.mpr ⟨fun line hmem => (hline line hmem).2, ?_⟩
  have hperm := h.filterMap_linesOfMaps_perm
  rw [← hmaps, ← hlines] at hperm
  have hkeys : ∀ ps : List (Bytes × Bytes), ps.Perm m.toList → (ps.map Prod.fst).Nodup := by
    intro ps hps
    rw [(hps.map Prod.fst).nodup_iff, Std.ExtTreeMap.map_fst_toList_eq_keys]
    exact Std.ExtTreeMap.nodup_keys
  rw [foldl_addEntry, foldl_mergeEntry (hkeys _ hperm) fun _ _ => Std.ExtTreeMap.not_mem_empty]
  refine Std.ExtTreeMap.ext_getElem? fun k => Option.ext fun v => ?_
  rw [getElem?_foldl_insert, hperm.mem_iff, Std.ExtTreeMap.mem_toList_iff_getElem?_eq_some,
    Std.ExtTreeMap.getElem?_empty]
  · simp
  · intro p hp q hq hpq
    exact List.inj_on_of_nodup_map (hkeys _ hperm) hp hq hpq

end Read

/-! ## A dictionary in EUC and its jisyo in UTF-8 -/

/-- Entries of ASCII and of U+3042, one of which is okuri-ari. -/
def mixedEntries : JisyoEntriesMap :=
  (((∅ : JisyoEntriesMap).insert (ascii "a") (ascii "/b/c/")).insert [0xa4, 0xa2]
    (ascii "/d/" ++ [0xa4, 0xa2] ++ ascii "/")).insert ([0xa4, 0xa2] ++ ascii "k") (ascii "/e/")

/-- The same in UTF-8. -/
def mixedJisyo : Bytes :=
  write .Utf8 ((∅ : JisyoEntriesMap).insert ([0xe3, 0x81, 0x82] ++ ascii "k") (ascii "/e/"))
    (((∅ : JisyoEntriesMap).insert (ascii "a") (ascii "/b/c/")).insert [0xe3, 0x81, 0x82]
      (ascii "/d/" ++ [0xe3, 0x81, 0x82] ++ ascii "/"))

lemma toList_mixedEntries : mixedEntries.toList = [(ascii "a", ascii "/b/c/"),
    ([0xa4, 0xa2], ascii "/d/" ++ [0xa4, 0xa2] ++ ascii "/"),
    ([0xa4, 0xa2] ++ ascii "k", ascii "/e/")] := rfl

lemma getElem?_mixedEntries {midashi text : Bytes} (h : mixedEntries[midashi]? = some text) :
    midashi = ascii "a" ∧ text = ascii "/b/c/" ∨
      midashi = [0xa4, 0xa2] ∧ text = ascii "/d/" ++ [0xa4, 0xa2] ++ ascii "/" ∨
      midashi = [0xa4, 0xa2] ++ ascii "k" ∧ text = ascii "/e/" := by
  have hp := Std.ExtTreeMap.mem_toList_iff_getElem?_eq_some.mpr h
  simpa [toList_mixedEntries] using hp

lemma mem_mixedEntries {midashi : Bytes} (h : midashi ∈ mixedEntries) :
    midashi = ascii "a" ∨ midashi = [0xa4, 0xa2] ∨ midashi = [0xa4, 0xa2] ++ ascii "k" :=
  (getElem?_mixedEntries (Std.ExtTreeMap.getElem?_eq_some_getElem h)).imp And.left
    (Or.imp And.left And.left)

lemma isJisyoEntries_mixedEntries : IsJisyoEntries mixedEntries where
  space_not_mem midashi h := by
    rcases mem_mixedEntries h with rfl | rfl | rfl <;> decide
  lf_not_mem midashi h := by
    rcases mem_mixedEntries h with rfl | rfl | rfl <;> decide
  starts midashi h := by
    rcases mem_mixedEntries h with rfl | rfl | rfl
    · exact .ascii (by decide)
    · exact .two (.inl ⟨by decide, by decide⟩) ⟨by decide, by decide⟩
    · exact .two (.inl ⟨by decide, by decide⟩) ⟨by decide, by decide⟩
  candidates midashi text h := by
    rcases getElem?_mixedEntries h with ⟨-, rfl⟩ | ⟨-, rfl⟩ | ⟨-, rfl⟩
    · exact ⟨[ascii "b", ascii "c"], ⟨by decide, by decide, by decide, by decide⟩, by decide⟩
    · exact ⟨[ascii "d", [0xa4, 0xa2]], ⟨by decide, by decide, by decide, by decide⟩, by decide⟩
    · exact ⟨[ascii "e"], ⟨by decide, by decide, by decide, by decide⟩, by decide⟩

lemma mem_eucUtf8_a4a2 : 0xa4a200e3818200 ∈ EncodingTable.eucUtf8.take 500 := by decide +kernel

lemma isTranscoding_a4a2 : IsTranscoding [0xa4, 0xa2] [0xe3, 0x81, 0x82] := by
  have hcode : IsCodeOf [0xa4, 0xa2] [[0xe3, 0x81, 0x82]] :=
    .character ⟨by decide, by decide⟩
      (List.mem_map.mpr ⟨_, List.mem_of_mem_take mem_eucUtf8_a4a2, rfl⟩)
  refine ⟨[[0xa4, 0xa2]], ⟨List.forall_mem_singleton.mpr ⟨_, hcode⟩, .singleton _⟩, rfl, ?_⟩
  rw [List.map_singleton, hcode.decoded_eq]
  rfl

/-- What a text of the dictionary is in the jisyo. -/
lemma isTranscoding_mixedEntries :
    IsTranscoding (ascii "a") (ascii "a") ∧ IsTranscoding (ascii "/b/c/") (ascii "/b/c/") ∧
      IsTranscoding [0xa4, 0xa2] [0xe3, 0x81, 0x82] ∧
      IsTranscoding (ascii "/d/" ++ [0xa4, 0xa2] ++ ascii "/")
        (ascii "/d/" ++ [0xe3, 0x81, 0x82] ++ ascii "/") ∧
      IsTranscoding ([0xa4, 0xa2] ++ ascii "k") ([0xe3, 0x81, 0x82] ++ ascii "k") ∧
      IsTranscoding (ascii "/e/") (ascii "/e/") := by
  have hascii : ∀ {text : Bytes}, (∀ b ∈ text, b ≤ 0x7f) → IsTranscoding text text :=
    isTranscoding_ascii
  have hslash := isTranscoding_respects (by decide : SLASH ≤ 0x7f)
  exact ⟨hascii (by decide +kernel), hascii (by decide +kernel), isTranscoding_a4a2,
    hslash.cons ((isTranscoding_respects (by decide : (0x64 : UInt8) ≤ 0x7f)).cons
      (hslash.cons (hslash.concat isTranscoding_a4a2))),
    (isTranscoding_respects (by decide : (0x6b : UInt8) ≤ 0x7f)).concat isTranscoding_a4a2,
    hascii (by decide +kernel)⟩

lemma isRegenerable_mixedEntries : IsRegenerable .Utf8 .Euc mixedEntries := by
  obtain ⟨ha, hbc, hae, hdae, haek, he⟩ := isTranscoding_mixedEntries
  have hmidashi : ∀ midashi ∈ mixedEntries, ∃ y, IsTranscoding midashi y ∧ y.length ≤ 4 := by
    intro midashi hmem
    rcases mem_mixedEntries hmem with rfl | rfl | rfl
    · exact ⟨_, ha, by decide⟩
    · exact ⟨_, hae, by decide⟩
    · exact ⟨_, haek, by decide⟩
  have htext : ∀ midashi text : Bytes, mixedEntries[midashi]? = some text →
      ∃ y, IsTranscoding text y ∧ y.length ≤ 7 := by
    intro midashi text hget
    rcases getElem?_mixedEntries hget with ⟨-, rfl⟩ | ⟨-, rfl⟩ | ⟨-, rfl⟩
    · exact ⟨_, hbc, by decide⟩
    · exact ⟨_, hdae, by decide⟩
    · exact ⟨_, he, by decide⟩
  refine ⟨isJisyoEntries_mixedEntries, ?_, ?_, ?_, ?_, ?_, ?_, ?_, ?_⟩
  · intro midashi hmem
    rcases mem_mixedEntries hmem with rfl | rfl | rfl <;> decide
  · intro midashi hmem
    rcases mem_mixedEntries hmem with rfl | rfl | rfl <;> decide
  · intro midashi hmem
    rcases mem_mixedEntries hmem with rfl | rfl | rfl <;> decide
  · intro midashi text hget
    rcases getElem?_mixedEntries hget with ⟨-, rfl⟩ | ⟨-, rfl⟩ | ⟨-, rfl⟩ <;> decide
  · intro midashi text hget
    rcases getElem?_mixedEntries hget with ⟨-, rfl⟩ | ⟨-, rfl⟩ | ⟨-, rfl⟩ <;> decide
  · intro midashi text hget
    obtain ⟨y, hy, hylen⟩ := hmidashi midashi (IsRegenerable.mem_of_get hget)
    obtain ⟨z, hz, hzlen⟩ := htext midashi text hget
    have hy' : jisyoMidashi EncodingTables.shippedTables .Utf8 midashi = y := hy.decoded_eq
    have hz' : jisyoCandidates EncodingTables.shippedTables .Utf8 .Euc text = z := hz.decoded_eq
    have hmax : 4 + 1 + 7 ≤ JISYO_MAXIMUM_LINE_LENGTH := by decide
    rw [hy', hz']
    omega
  · intro midashi hmem
    obtain ⟨y, hy, -⟩ := hmidashi midashi hmem
    exact (congrArg (Euc.encoded EncodingTables.shippedTables) hy.decoded_eq).trans hy.encoded_eq
  · intro midashi text hget
    obtain ⟨z, hz, -⟩ := htext midashi text hget
    exact (congrArg (Euc.encoded EncodingTables.shippedTables) hz.decoded_eq).trans hz.encoded_eq

lemma jisyoOf_mixedEntries :
    jisyoOf EncodingTables.shippedTables .Utf8 .Euc mixedEntries = mixedJisyo := by
  obtain ⟨ha, hbc, hae, hdae, haek, he⟩ := isTranscoding_mixedEntries
  have hentry : ∀ {midashi text midashi' text' : Bytes}, IsTranscoding midashi midashi' →
      IsTranscoding text text' → ∀ maps : OkuriMaps,
        OkuriMaps.add EncodingTables.shippedTables .Utf8 .Euc maps (midashi, text) =
          maps.insert (isOkuriAri midashi) midashi' text' := by
    intro midashi text midashi' text' hmidashi htext maps
    rw [← hmidashi.decoded_eq, ← htext.decoded_eq]
    rfl
  have hmaps : okuriMapsOf EncodingTables.shippedTables .Utf8 .Euc mixedEntries =
      ((({} : OkuriMaps).insert false (ascii "a") (ascii "/b/c/")).insert false [0xe3, 0x81, 0x82]
        (ascii "/d/" ++ [0xe3, 0x81, 0x82] ++ ascii "/")).insert true
          ([0xe3, 0x81, 0x82] ++ ascii "k") (ascii "/e/") := by
    rw [okuriMapsOf, toList_mixedEntries, List.foldl_cons, List.foldl_cons, List.foldl_cons,
      List.foldl_nil, hentry ha hbc, hentry hae hdae, hentry haek he]
    rfl
  rw [jisyoOf, hmaps]
  rfl

/-- The block of the entries of U+3042. -/
def mixedBlock : Bytes :=
  [LF, 0xa4, 0xa2] ++ ascii " /d/" ++ [0xa4, 0xa2] ++ ascii "/\n" ++ [0xa4, 0xa2] ++ ascii "k /e/\n"

lemma recordFits_mixedEntries : ∀ blockMap, createTemporaryBlockMap mixedEntries = .ok blockMap →
    ∀ p ∈ blockMap.toList, RecordFits p.2 := by
  intro blockMap h p hp alignedBlock informations hblock
  have hmap : createTemporaryBlockMap mixedEntries = .ok
      (((∅ : TemporaryBlockMap).insert #v[0x61, 0, 0, 0] (ascii "\na /b/c/\n")).insert
        #v[0xa4, 0xa2, 0, 0] mixedBlock) := rfl
  rw [hmap, Outcome.ok.injEq] at h
  subst h
  have hlist : p ∈ [(#v[0x61, 0, 0, 0], ascii "\na /b/c/\n"), (#v[0xa4, 0xa2, 0, 0], mixedBlock)] :=
    hp
  rcases List.mem_pair.mp hlist with rfl | rfl
  · have hcut : getDictionaryBlockInformations (ascii "\na /b/c/\n") 0 [] =
        .ok (ascii "\na /b/c/\n" ++ List.replicate 7 0x58, [⟨ascii "a", 0, 9⟩]) := rfl
    rw [hcut, Outcome.ok.injEq, Prod.mk.injEq] at hblock
    rw [← hblock.2]
    decide
  · have hcut : getDictionaryBlockInformations mixedBlock 0 [] =
        .ok (mixedBlock ++ List.replicate 13 0x58, [⟨[0xa4, 0xa2], 0, 19⟩]) := rfl
    rw [hcut, Outcome.ok.injEq, Prod.mk.injEq] at hblock
    rw [← hblock.2]
    decide

/-- An okuri-ari entry and two others, from a dictionary in EUC to a jisyo in UTF-8 and back. -/
theorem create_roundTrip_mixedEntries :
    ∃ file onMemory, DictionaryCreator.create (fun _ => SHA1SUM_ZERO) .Euc emptyTable mixedEntries =
        .ok file ∧
      setup (fun _ => SHA1SUM_ZERO) 1024 (some .empty) file = .ok (onMemory, .empty) ∧
      create EncodingTables.shippedTables .Utf8 onMemory
          (onMemory.indexMap.toList.map Prod.snd).reverse file = .ok mixedJisyo ∧
      getMergedJisyoEntriesMap EncodingTables.shippedTables [{ bytes := mixedJisyo }] .Euc =
        .ok mixedEntries := by
  have htable : onceInitEncodingTable (some .empty) emptyTable = .ok EncodingTables.empty := rfl
  obtain ⟨file, hcreate, hfile⟩ : ∃ file, DictionaryCreator.create (fun _ => SHA1SUM_ZERO) .Euc
      emptyTable mixedEntries = .ok file ∧ file.length < 2 ^ 32 :=
    exists_create _ _ (show createIndexData mixedEntries = .ok ⟨_, _, _⟩ from rfl) (by decide)
  obtain ⟨blockMap, hmap, hfits, -⟩ := setup_create (by decide : 0 < 1024) htable
    isJisyoEntries_mixedEntries.starts hcreate hfile
  obtain ⟨onMemory, -, -, -, hsetup, -, -, -, -, hencoding, -⟩ :=
    hfits (recordFits_mixedEntries blockMap hmap)
  obtain ⟨hwritten, hread⟩ := create_roundTrip isRegenerable_mixedEntries
  rw [jisyoOf_mixedEntries] at hwritten hread
  exact ⟨file, onMemory, hcreate, hsetup,
    hwritten file onMemory _ (isLoaded_of_setup (by decide) htable hcreate hfile hsetup) hencoding
      (List.reverse_perm _), hread _ rfl (by decide +kernel)⟩

end JisyoCreator

end Yaskkserv2
