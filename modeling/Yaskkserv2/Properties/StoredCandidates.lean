import Yaskkserv2.Properties.Delimiters
import Yaskkserv2.Properties.DictionaryFile
import Yaskkserv2.Properties.JisyoEntries
import Yaskkserv2.Properties.LineEffects
import Yaskkserv2.Properties.RepeatedWords

/-!
# What is stored of a jisyo

A dictionary is built from entries whose candidates stand between slashes, and the server relies on
that.  The reader of the jisyo does not check it: it cuts a line at its last slash, converts what it
has cut, drops duplicates in the text and merges it with the text that is there.

It holds of every entry that the reader makes, whatever the files and however many of their lines
share a midashi, as long as the candidates of each line begin with a slash and are not the slash
alone, its midashi begins with a character, and EUC candidates that are stored as UTF-8 are whole
characters (`IsProperLine`).  What is stored of a midashi is then its candidates of all lines,
merged in the order of the lines (`getMergedJisyoEntriesMapCore_stores`).
-/

namespace Yaskkserv2

open Framework Dictionary DictionaryCreator Candidates

namespace Candidates

/-! ## Duplicates in a text -/

lemma removeDuplicatesFrom_concat {seen : List Bytes} {y : Bytes} (xs : List Bytes)
    (hy : y ∈ seen) : removeDuplicatesFrom seen (xs ++ [y]) = removeDuplicatesFrom seen xs := by
  induction xs generalizing seen with
  | nil => simp [removeDuplicatesFrom, hy]
  | cons x xs ih =>
    rw [List.cons_append, removeDuplicatesFrom, removeDuplicatesFrom]
    split
    · exact ih hy
    · rw [ih (List.mem_cons_of_mem x hy)]

/-- What was seen counts only where it comes again. -/
lemma removeDuplicatesFrom_congr {seen seen' xs : List Bytes}
    (h : ∀ x ∈ xs, x ∈ seen ↔ x ∈ seen') :
    removeDuplicatesFrom seen xs = removeDuplicatesFrom seen' xs := by
  induction xs generalizing seen seen' with
  | nil => rfl
  | cons x xs ih =>
    obtain ⟨hx, hxs⟩ := List.forall_mem_cons.mp h
    have hcons : ∀ y ∈ xs, y ∈ x :: seen ↔ y ∈ x :: seen' := fun y hy => by
      rw [List.mem_cons, List.mem_cons, hxs y hy]
    rw [removeDuplicatesFrom, removeDuplicatesFrom, ih hxs, ih hcons]
    by_cases hmem : x ∈ seen
    · rw [if_pos hmem, if_pos (hx.mp hmem)]
    · rw [if_neg hmem, if_neg (mt hx.mpr hmem)]

lemma removeDuplicates_ne_nil {xs : List Bytes} (h : xs ≠ []) : removeDuplicates xs ≠ [] := by
  obtain ⟨x, rest, rfl⟩ := List.exists_cons_of_ne_nil h
  rw [removeDuplicates, removeDuplicatesFrom, if_neg List.not_mem_nil]
  exact List.cons_ne_nil _ _

lemma removeDuplicatesFrom_of_nodup {seen xs : List Bytes} (hxs : xs.Nodup)
    (hseen : ∀ x ∈ xs, x ∉ seen) : removeDuplicatesFrom seen xs = xs := by
  induction xs generalizing seen with
  | nil => rfl
  | cons x xs ih =>
    obtain ⟨hx, hrest⟩ := List.nodup_cons.mp hxs
    rw [removeDuplicatesFrom, if_neg (hseen x List.mem_cons_self), ih hrest fun y hy => ?_]
    rw [List.mem_cons, not_or]
    exact ⟨ne_of_mem_of_not_mem hy hx, hseen y (List.mem_cons_of_mem x hy)⟩

/-- **Duplicates are dropped candidate by candidate**: of the two empty pieces at the ends of the
text the first one stays, and the slash that is written at the end stands for the other. -/
lemma removeDuplicatesBytes_delimited {cs : List Bytes} (hne : cs ≠ []) (h : AreCandidates cs) :
    removeDuplicatesBytes (delimited SLASH cs) = delimited SLASH (removeDuplicates cs) := by
  have hempty : ∀ c ∈ cs, c ∈ [[]] ↔ c ∈ ([] : List Bytes) := by
    intro c hc
    simp [(h c hc).1]
  have hdrop : removeDuplicates ([] :: (cs ++ [[]])) = [] :: removeDuplicates cs := by
    rw [removeDuplicates, removeDuplicatesFrom, if_neg List.not_mem_nil,
      removeDuplicatesFrom_concat cs List.mem_cons_self, removeDuplicatesFrom_congr hempty,
      removeDuplicates]
  have hdistinct := removeDuplicates_ne_nil hne
  obtain ⟨c, rest, hcons⟩ := List.exists_cons_of_ne_nil hdistinct
  rw [removeDuplicatesBytes, splitOn_delimited fun c hc => (h c hc).2, hdrop,
    delimited_eq_intercalate hdistinct, hcons, List.intercalate_cons_cons]
  simp

end Candidates

namespace JisyoReader

/-! ## Candidates of a line -/

/-- What a line is cut into, where it is not skipped and has a slash. -/
def cutLine (line : Bytes) : Option (Bytes × Bytes) :=
  if isSkipAndPrintWarning line = .ok true then none
  else
    match getMidashiCandidates line with
    | .ok cut => some cut
    | _ => none

lemma cutLine_eq_some {line midashi candidates : Bytes}
    (h : cutLine line = some (midashi, candidates)) :
    ∃ body junk, line = midashi ++ SP :: (body ++ SLASH :: junk) ∧ SP ∉ midashi ∧ SLASH ∉ junk ∧
      candidates = body ++ [SLASH] ∧ IsUnskipped midashi (body ++ SLASH :: junk) := by
  rw [cutLine] at h
  split at h
  · simp at h
  rename_i hskip
  have hcut : getMidashiCandidates line = .ok (midashi, candidates) := by
    split at h
    · rename_i cut hcut
      rw [hcut, Option.some.inj h]
    · simp at h
  obtain ⟨body, junk, rfl, hmidashi, hjunk, hcandidates⟩ := getMidashiCandidates_eq_ok_iff.mp hcut
  refine ⟨body, junk, rfl, hmidashi, hjunk, hcandidates, ?_⟩
  rcases isSkipAndPrintWarning_append hmidashi (body ++ SLASH :: junk) with ⟨hyes, -⟩ |
    ⟨-, hunskipped⟩
  · exact absurd hyes hskip
  · exact hunskipped

/-- The candidates between the slashes of a text. -/
def candidatesOf (text : Bytes) : List Bytes := (text.splitOn SLASH).filter (· ≠ [])

lemma candidatesOf_delimited {cs : List Bytes} (h : AreCandidates cs) :
    candidatesOf (delimited SLASH cs) = cs := by
  have hall : cs.filter (· ≠ []) = cs := List.filter_eq_self.mpr fun c hc => by
    simpa using (h c hc).1
  rw [candidatesOf, splitOn_delimited fun c hc => (h c hc).2]
  simpa using hall

/-- Candidates that begin with a slash and are not the slash alone stand between slashes. -/
lemma delimited_of_cutLine {line midashi candidates : Bytes}
    (h : cutLine line = some (midashi, candidates)) (hslash : candidates.head? = some SLASH)
    (hmore : candidates ≠ [SLASH]) :
    candidates = delimited SLASH (candidatesOf candidates) ∧ candidatesOf candidates ≠ [] ∧
      AreCandidates (candidatesOf candidates) := by
  obtain ⟨body, junk, -, -, -, rfl, hunskipped⟩ := cutLine_eq_some h
  obtain ⟨mid, rfl⟩ : ∃ mid, body = SLASH :: mid := by
    cases body with
    | nil => exact absurd rfl hmore
    | cons b mid =>
      rw [List.cons_append, List.head?_cons, Option.some.injEq] at hslash
      exact ⟨mid, by rw [hslash]⟩
  have hslashes : ¬ [SLASH, SLASH] <:+: SLASH :: (mid ++ [SLASH]) := by
    intro hslashes
    refine find_eq_none_iff_not_isInfix.mp hunskipped.no_slashes (hslashes.trans ?_)
    exact ⟨[], junk, by simp⟩
  obtain ⟨htext, hpieces⟩ := exists_delimited hslashes
  have hcandidates : AreCandidates (mid.splitOn SLASH) := fun c hc =>
    ⟨hpieces c hc, not_mem_of_mem_splitOn hc⟩
  have hof : candidatesOf (SLASH :: mid ++ [SLASH]) = mid.splitOn SLASH := by
    rw [List.cons_append, htext, candidatesOf_delimited hcandidates]
  rw [hof]
  exact ⟨htext, List.splitOn_ne_nil SLASH mid, hcandidates⟩

/-! ## Conversion -/

section Convert

variable (jisyoEncoding : Encoding) (outputEncoding : Option Encoding)

/-- Candidates are encoded one by one. -/
lemma encoded_delimited {cs : List Bytes} (h : AreCandidates cs) :
    Euc.encoded EncodingTables.shippedTables (delimited SLASH cs) =
      delimited SLASH (cs.map (Euc.encoded EncodingTables.shippedTables)) := by
  have hnil : Euc.encoded EncodingTables.shippedTables [] = [] := translit_nil _
  have hcons : ∀ text, Euc.encoded EncodingTables.shippedTables (SLASH :: text) =
      SLASH :: Euc.encoded EncodingTables.shippedTables text := fun text => by
    have hcut := Euc.encoded_append_cons Euc.isSeparator_slash.1 List.not_mem_nil text
    rwa [List.nil_append, hnil, List.nil_append] at hcut
  refine map_delimited (by rw [hcons, hnil]) fun c hc text => ?_
  rw [hcons, Euc.encoded_append_cons Euc.isSeparator_slash.1 (h c hc).2, hcons]

/-- A text is encoded, or decoded, or stays as it is. -/
lemma convertedCandidates_cases :
    convertedCandidates EncodingTables.shippedTables jisyoEncoding outputEncoding =
        Euc.encoded EncodingTables.shippedTables ∨
      (jisyoEncoding = .Euc ∧ outputEncoding = some .Utf8) ∧
        convertedCandidates EncodingTables.shippedTables jisyoEncoding outputEncoding =
          Euc.decoded EncodingTables.shippedTables ∨
      convertedCandidates EncodingTables.shippedTables jisyoEncoding outputEncoding = id := by
  by_cases hencode : outputEncoding = some .Euc ∧ jisyoEncoding = .Utf8
  · exact .inl (funext fun candidates => if_pos hencode)
  by_cases hdecode : outputEncoding = some .Utf8 ∧ jisyoEncoding = .Euc
  · exact .inr (.inl ⟨hdecode.symm, funext fun candidates => by
      rw [convertedCandidates, if_neg hencode, if_pos hdecode]⟩)
  · exact .inr (.inr (funext fun candidates => by
      rw [convertedCandidates, if_neg hencode, if_neg hdecode, id]))

/-- EUC candidates that are to be stored as UTF-8 are whole characters. -/
def AreWhole (cs : List Bytes) : Prop :=
  jisyoEncoding = .Euc → outputEncoding = some .Utf8 → ∀ c ∈ cs, Euc.IsEucText c

variable {jisyoEncoding outputEncoding} {cs : List Bytes}
  (hwhole : AreWhole jisyoEncoding outputEncoding cs)

include hwhole

lemma convertedCandidates_ne_nil {c : Bytes} (hc : c ∈ cs) (hne : c ≠ []) :
    convertedCandidates EncodingTables.shippedTables jisyoEncoding outputEncoding c ≠ [] := by
  rcases convertedCandidates_cases jisyoEncoding outputEncoding with heq | ⟨⟨hjisyo, hout⟩, heq⟩ |
    heq
  · rw [heq]
    exact Euc.encoded_ne_nil hne
  · rw [heq]
    exact (hwhole hjisyo hout c hc).decoded_ne_nil hne
  · rw [heq]
    exact hne

lemma not_mem_convertedCandidates {d : UInt8} (hd : Euc.IsSeparator d) {c : Bytes} (hc : c ∈ cs)
    (hnot : d ∉ c) :
    d ∉ convertedCandidates EncodingTables.shippedTables jisyoEncoding outputEncoding c := by
  rcases convertedCandidates_cases jisyoEncoding outputEncoding with heq | ⟨⟨hjisyo, hout⟩, heq⟩ |
    heq
  · rw [heq]
    exact Euc.not_mem_encoded hd hnot
  · rw [heq]
    exact (hwhole hjisyo hout c hc).not_mem_decoded hd hnot
  · rw [heq]
    exact hnot

/-- **Candidates are converted one by one**: no conversion reaches over a slash. -/
lemma convertedCandidates_delimited (h : AreCandidates cs) :
    convertedCandidates EncodingTables.shippedTables jisyoEncoding outputEncoding
        (delimited SLASH cs) =
      delimited SLASH (cs.map
        (convertedCandidates EncodingTables.shippedTables jisyoEncoding outputEncoding)) := by
  rcases convertedCandidates_cases jisyoEncoding outputEncoding with heq | ⟨⟨hjisyo, hout⟩, heq⟩ |
    heq
  · rw [heq]
    exact encoded_delimited h
  · have hnil : Euc.decoded EncodingTables.shippedTables [] = [] := translit_nil _
    have hcons : ∀ text, Euc.decoded EncodingTables.shippedTables (SLASH :: text) =
        SLASH :: Euc.decoded EncodingTables.shippedTables text :=
      Euc.decoded_ascii _ Euc.isSeparator_slash.1
    rw [heq]
    refine map_delimited (by rw [hcons, hnil]) fun c hc text => ?_
    rw [hcons, (hwhole hjisyo hout c hc).decoded_append]
  · rw [heq, List.map_id]
    rfl

end Convert

/-! ## What a proper line adds -/

section Line

variable (jisyoEncoding : Encoding) (outputEncoding : Option Encoding) (line : Bytes)

/-- A line whose candidates can be stored, if it is not skipped and has a slash. -/
structure IsProperLine : Prop where
  starts : ∀ midashi candidates, cutLine line = some (midashi, candidates) →
    StartsWithEucChar
      (storedMidashi EncodingTables.shippedTables jisyoEncoding outputEncoding midashi)
  slash : ∀ midashi candidates, cutLine line = some (midashi, candidates) →
    candidates.head? = some SLASH
  more : ∀ midashi candidates, cutLine line = some (midashi, candidates) → candidates ≠ [SLASH]
  whole : ∀ midashi candidates, cutLine line = some (midashi, candidates) →
    AreWhole jisyoEncoding outputEncoding (candidatesOf candidates)

/-- A midashi and its candidates, as a line adds them. -/
def listedOf : Option (Bytes × List Bytes) :=
  (cutLine line).map fun cut =>
    (storedMidashi EncodingTables.shippedTables jisyoEncoding outputEncoding cut.1,
      removeDuplicates ((candidatesOf cut.2).map
        (convertedCandidates EncodingTables.shippedTables jisyoEncoding outputEncoding)))

/-- A midashi with candidates that the server can look up. -/
structure IsListed (e : Bytes × List Bytes) : Prop where
  starts : StartsWithEucChar e.1
  space_not_mem : SP ∉ e.1
  lf_not_mem : LF ∉ e.1
  candidates : IsCandidateList e.2

variable {jisyoEncoding outputEncoding line}

lemma entryOf_eq_cutLine (t : EncodingTables) :
    entryOf t jisyoEncoding outputEncoding line = (cutLine line).map fun cut =>
      (storedMidashi t jisyoEncoding outputEncoding cut.1,
        removeDuplicatesBytes (convertedCandidates t jisyoEncoding outputEncoding cut.2)) := by
  rw [entryOf, cutLine]
  split
  · rfl
  · cases getMidashiCandidates line <;> rfl

lemma storedMidashi_not_mem {d : UInt8} (hd : Euc.IsSeparator d) {midashi : Bytes}
    (h : d ∉ midashi) :
    d ∉ storedMidashi EncodingTables.shippedTables jisyoEncoding outputEncoding midashi := by
  rw [storedMidashi]
  split
  · exact h
  · exact Euc.not_mem_encoded hd h

section Proper

variable (h : IsProperLine jisyoEncoding outputEncoding line)

include h

/-- A proper line adds its candidates. -/
lemma entryOf_eq_listedOf :
    entryOf EncodingTables.shippedTables jisyoEncoding outputEncoding line =
      (listedOf jisyoEncoding outputEncoding line).map fun e => (e.1, delimited SLASH e.2) := by
  rw [entryOf_eq_cutLine, listedOf]
  cases hcut : cutLine line with
  | none => rfl
  | some cut =>
    obtain ⟨midashi, candidates⟩ := cut
    obtain ⟨htext, hne, hcs⟩ := delimited_of_cutLine hcut (h.slash _ _ hcut) (h.more _ _ hcut)
    have hwhole := h.whole _ _ hcut
    have hconverted : AreCandidates ((candidatesOf candidates).map
        (convertedCandidates EncodingTables.shippedTables jisyoEncoding outputEncoding)) := by
      intro c hc
      obtain ⟨c', hc', rfl⟩ := List.mem_map.mp hc
      exact ⟨convertedCandidates_ne_nil hwhole hc' (hcs c' hc').1,
        not_mem_convertedCandidates hwhole Euc.isSeparator_slash hc' (hcs c' hc').2⟩
    rw [Option.map_some, Option.map_some, Option.map_some]
    dsimp only
    conv_lhs => rw [htext]
    rw [convertedCandidates_delimited hwhole hcs,
      removeDuplicatesBytes_delimited (by simpa using hne) hconverted]

/-- What a proper line adds can be looked up. -/
lemma isListed_of_listedOf (hline : IsLine line) {e : Bytes × List Bytes}
    (he : listedOf jisyoEncoding outputEncoding line = some e) : IsListed e := by
  obtain ⟨⟨midashi, candidates⟩, hcut, rfl⟩ := Option.map_eq_some_iff.mp he
  obtain ⟨-, hne, hcs⟩ := delimited_of_cutLine hcut (h.slash _ _ hcut) (h.more _ _ hcut)
  have hwhole := h.whole _ _ hcut
  obtain ⟨body, junk, rfl, hspace, -, hbody, -⟩ := cutLine_eq_some hcut
  have hlf : LF ∉ midashi ++ SP :: (body ++ SLASH :: junk) := fun hmem => hline LF hmem (.inl rfl)
  have hlfMidashi : LF ∉ midashi := fun hmem => hlf (List.mem_append_left _ hmem)
  have hlfCandidates : ∀ c ∈ candidatesOf candidates, LF ∉ c := by
    intro c hc hmem
    have hin := mem_of_mem_splitOn (List.mem_filter.mp hc).1 hmem
    rw [hbody] at hin
    refine hlf (List.mem_append_right _ (List.mem_cons_of_mem _ ?_))
    rcases List.mem_append.mp hin with hin | hin
    · exact List.mem_append_left _ hin
    · exact List.mem_append_right _ (List.mem_singleton.mp hin ▸ List.mem_cons_self)
  have hmem : ∀ c ∈ removeDuplicates ((candidatesOf candidates).map
      (convertedCandidates EncodingTables.shippedTables jisyoEncoding outputEncoding)),
      ∃ c' ∈ candidatesOf candidates,
        convertedCandidates EncodingTables.shippedTables jisyoEncoding outputEncoding c' = c :=
    fun c hc => List.mem_map.mp (mem_removeDuplicatesFrom.mp hc).1
  refine ⟨h.starts _ _ hcut, storedMidashi_not_mem Euc.isSeparator_space hspace,
    storedMidashi_not_mem Euc.isSeparator_lf hlfMidashi,
    removeDuplicates_ne_nil (by simpa using hne), fun c hc => ?_, fun c hc => ?_, fun c hc => ?_⟩
  all_goals obtain ⟨c', hc', rfl⟩ := hmem c hc
  · exact convertedCandidates_ne_nil hwhole hc' (hcs c' hc').1
  · exact not_mem_convertedCandidates hwhole Euc.isSeparator_slash hc' (hcs c' hc').2
  · exact not_mem_convertedCandidates hwhole Euc.isSeparator_lf hc' (hlfCandidates c' hc')

end Proper

end Line

/-! ## What is stored -/

/-- The candidates of every midashi, with what a line adds: they are merged into those that its
midashi has. -/
def addListed (a : Bytes → List Bytes) : Option (Bytes × List Bytes) → Bytes → List Bytes
  | none => a
  | some e => Function.update a e.1 (mergedCandidates (a e.1) e.2)

/-- A map of entries has the candidates of every midashi, each with its slashes. -/
structure Stores (m : JisyoEntriesMap) (a : Bytes → List Bytes) : Prop where
  get : ∀ midashi : Bytes,
    m[midashi]? = if a midashi = [] then none else some (delimited SLASH (a midashi))
  listed : ∀ midashi, a midashi ≠ [] → IsListed (midashi, a midashi)

lemma areCandidates_of_isCandidateList {cs : List Bytes} (h : IsCandidateList cs) :
    AreCandidates cs := fun c hc => ⟨h.candidate_ne_nil c hc, h.slash_not_mem c hc⟩

/-- Candidate lists are merged to a candidate list. -/
lemma isCandidateList_merged {base new : List Bytes} (hbase : base ≠ [] → IsCandidateList base)
    (hnew : IsCandidateList new) : IsCandidateList (mergedCandidates base new) := by
  by_cases hnil : base = []
  · rw [mergedCandidates, if_pos hnil]
    exact hnew
  have hbase' := hbase hnil
  have hne : mergedCandidates base new ≠ [] := by
    rw [mergedCandidates, if_neg hnil, if_neg hnew.ne_nil]
    simp [hnil]
  refine ⟨hne, fun c hc => ?_, fun c hc => ?_, fun c hc => ?_⟩
  · exact (mem_of_mem_mergedCandidates hc).elim (hbase'.candidate_ne_nil c)
      (hnew.candidate_ne_nil c)
  · exact (mem_of_mem_mergedCandidates hc).elim (hbase'.slash_not_mem c) (hnew.slash_not_mem c)
  · exact (mem_of_mem_mergedCandidates hc).elim (hbase'.lf_not_mem c) (hnew.lf_not_mem c)

lemma stores_empty : Stores ∅ fun _ => [] :=
  ⟨fun midashi => by rw [if_pos rfl, Std.ExtTreeMap.getElem?_empty], fun _ h => absurd rfl h⟩

/-- **One line keeps what is stored in order.** -/
lemma Stores.addEntry {m : JisyoEntriesMap} {a : Bytes → List Bytes} (h : Stores m a)
    {e : Option (Bytes × List Bytes)} (he : ∀ e', e = some e' → IsListed e') :
    Stores (addEntry m (e.map fun e => (e.1, delimited SLASH e.2))) (addListed a e) := by
  cases e with
  | none => exact h
  | some e =>
    obtain ⟨midashi, cs⟩ := e
    have hlisted := he _ rfl
    have hstored : ∀ hne : a midashi ≠ [], AreCandidates (a midashi) := fun hne =>
      areCandidates_of_isCandidateList (h.listed midashi hne).candidates
    have hmerged : IsCandidateList (mergedCandidates (a midashi) cs) :=
      isCandidateList_merged (fun hne => (h.listed midashi hne).candidates) hlisted.candidates
    have hinsert : JisyoReader.addEntry m (some (midashi, delimited SLASH cs)) =
        m.insert midashi (delimited SLASH (mergedCandidates (a midashi) cs)) := by
      rw [JisyoReader.addEntry, mergeEntry, h.get]
      by_cases hnil : a midashi = []
      · rw [if_pos hnil, mergedCandidates, if_pos hnil]
      · rw [if_neg hnil]
        dsimp only
        rw [merge_delimited hnil (hstored hnil) hlisted.candidates.ne_nil
          (areCandidates_of_isCandidateList hlisted.candidates)]
    rw [Option.map_some, hinsert]
    constructor
    · intro key
      rw [Std.ExtTreeMap.getElem?_insert, addListed, Function.update_apply]
      by_cases hkey : key = midashi
      · subst hkey
        rw [if_pos rfl, if_pos (Std.ReflCmp.compare_self), if_neg hmerged.ne_nil]
      · rw [if_neg (fun hcompare => hkey (Std.LawfulEqCmp.eq_of_compare hcompare).symm),
          if_neg hkey]
        exact h.get key
    · intro key hne
      rw [addListed, Function.update_apply] at hne ⊢
      by_cases hkey : key = midashi
      · subst hkey
        rw [if_pos rfl]
        exact ⟨hlisted.starts, hlisted.space_not_mem, hlisted.lf_not_mem, hmerged⟩
      · rw [if_neg hkey] at hne ⊢
        exact h.listed key hne

lemma Stores.foldl_addEntry (es : List (Option (Bytes × List Bytes))) {m : JisyoEntriesMap}
    {a : Bytes → List Bytes} (h : Stores m a) (hes : ∀ e, some e ∈ es → IsListed e) :
    Stores ((es.map (Option.map fun e => (e.1, delimited SLASH e.2))).foldl JisyoReader.addEntry m)
      (es.foldl addListed a) := by
  induction es generalizing m a with
  | nil => exact h
  | cons e es ih =>
    rw [List.map_cons, List.foldl_cons, List.foldl_cons]
    refine ih (h.addEntry fun e' he' => hes e' ?_) fun e' he' => hes e' (List.mem_cons_of_mem e he')
    rw [he']
    exact List.mem_cons_self

/-- What can be looked up of the entries is what the server relies on. -/
lemma Stores.isJisyoEntries {m : JisyoEntriesMap} {a : Bytes → List Bytes} (h : Stores m a) :
    IsJisyoEntries m := by
  have hmem : ∀ midashi : Bytes, midashi ∈ m → IsListed (midashi, a midashi) := by
    intro midashi hmem
    refine h.listed midashi fun hnil => ?_
    have hget := h.get midashi
    rw [if_pos hnil] at hget
    rw [← Std.ExtTreeMap.isSome_getElem?_iff_mem, hget] at hmem
    simp at hmem
  refine ⟨fun midashi hm => (hmem midashi hm).space_not_mem,
    fun midashi hm => (hmem midashi hm).lf_not_mem, fun midashi hm => (hmem midashi hm).starts,
    fun midashi text hget => ?_⟩
  have hin : midashi ∈ m := by
    rw [← Std.ExtTreeMap.isSome_getElem?_iff_mem, hget, Option.isSome_some]
  refine ⟨a midashi, (hmem midashi hin).candidates, ?_⟩
  rw [h.get, if_neg (hmem midashi hin).candidates.ne_nil, Option.some.injEq] at hget
  exact hget.symm

/-- The candidates that some lines have of a midashi, line by line. -/
def listsOf (outputEncoding : Option Encoding) (steps : List (Encoding × Bytes)) (midashi : Bytes) :
    List (List Bytes) :=
  steps.filterMap fun step =>
    ((listedOf step.1 outputEncoding step.2).filter fun e => e.1 = midashi).map (·.2)

/-- What lines make of the candidates of a midashi is told by those that have it. -/
lemma foldl_addListed (outputEncoding : Option Encoding) (steps : List (Encoding × Bytes))
    (a : Bytes → List Bytes) (midashi : Bytes) :
    ((steps.map fun step => listedOf step.1 outputEncoding step.2).foldl addListed a) midashi =
      (listsOf outputEncoding steps midashi).foldl mergedCandidates (a midashi) := by
  induction steps generalizing a with
  | nil => rfl
  | cons step steps ih =>
    rw [List.map_cons, List.foldl_cons, ih, listsOf, listsOf, List.filterMap_cons]
    cases listedOf step.1 outputEncoding step.2 with
    | none => rfl
    | some e =>
      rw [addListed, Function.update_apply, Option.filter_some]
      by_cases hkey : midashi = e.1
      · subst hkey
        rw [if_pos rfl, if_pos (decide_eq_true rfl)]
        rfl
      · rw [if_neg hkey, if_neg (by simpa using Ne.symm hkey)]
        rfl

lemma foldl_mergedCandidates_ne_nil {lists : List (List Bytes)} {base : List Bytes}
    (hlists : ∀ cs ∈ lists, cs ≠ []) (h : base ≠ [] ∨ lists ≠ []) :
    lists.foldl mergedCandidates base ≠ [] := by
  induction lists generalizing base with
  | nil => exact h.resolve_right fun hne => hne rfl
  | cons cs lists ih =>
    obtain ⟨hcs, hlists⟩ := List.forall_mem_cons.mp hlists
    refine ih hlists (.inl ?_)
    rw [mergedCandidates]
    split_ifs with hbase
    · exact hcs
    · simp [hbase]

/-! ## Files -/

/-- A line as the reader takes it has no line end. -/
lemma isLine_of_mem_chompedLines {fails : Bool} {line text : Bytes} (hline : IsLine line)
    {chomped : Bytes} (h : chomped ∈ chompedLines fails line text) : IsLine chomped := by
  obtain ⟨lines, last, -, hlines, hlast, hchomped⟩ := exists_endedText fails hline text
  rw [hchomped, List.mem_append] at h
  rcases h with h | h
  · obtain ⟨ended, hended, rfl⟩ := List.mem_map.mp h
    exact hlines ended hended
  · split at h
    · simp at h
    · rw [List.mem_singleton.mp h]
      exact fun b hb => hlast b (List.dropLast_subset last hb)

lemma isLine_of_readSteps {files : List JisyoFile} {steps : List (Encoding × Bytes)}
    (h : readSteps files = .ok steps) : ∀ step ∈ steps, IsLine step.2 := by
  induction files generalizing steps with
  | nil =>
    obtain rfl := Outcome.ok.inj h
    simp
  | cons file files ih =>
    obtain ⟨⟨jisyoEncoding, lines⟩, hlines, h⟩ := Outcome.bind_eq_ok.mp h
    obtain ⟨rest, hrest, h⟩ := Outcome.bind_eq_ok.mp h
    obtain rfl := Outcome.ok.inj h
    intro step hstep
    rcases List.mem_append.mp hstep with hstep | hstep
    · obtain ⟨line, hline, rfl⟩ := List.mem_map.mp hstep
      obtain ⟨⟨encoding, options⟩, -, hlines⟩ := Outcome.bind_eq_ok.mp hlines
      obtain ⟨text, -, hlines⟩ := Outcome.bind_eq_ok.mp hlines
      obtain ⟨-, rfl⟩ := Prod.mk.inj (Outcome.ok.inj hlines)
      exact isLine_of_mem_chompedLines isLine_nil hline
    · exact ih hrest step hstep

/-- The candidates of a midashi in lines, merged in their order. -/
def candidatesIn (outputEncoding : Option Encoding) (steps : List (Encoding × Bytes))
    (midashi : Bytes) : List Bytes :=
  (listsOf outputEncoding steps midashi).foldl mergedCandidates []

section Files

variable {files : List JisyoFile} {outputEncoding : Option Encoding} {m : JisyoEntriesMap}
  (h : getMergedJisyoEntriesMapCore EncodingTables.shippedTables files outputEncoding = .ok m)
  (hproper : ∀ steps, readSteps files = .ok steps →
    ∀ step ∈ steps, IsProperLine step.1 outputEncoding step.2)

include h hproper

/-- What proper lines list can be looked up, and it is all that is stored. -/
lemma exists_stores : ∃ steps, readSteps files = .ok steps ∧
    (∀ step ∈ steps, ∀ e, listedOf step.1 outputEncoding step.2 = some e → IsListed e) ∧
    Stores m (candidatesIn outputEncoding steps) := by
  obtain ⟨steps, hsteps, rfl⟩ := getMergedJisyoEntriesMapCore_eq_ok h
  have hlines := isLine_of_readSteps hsteps
  have hproper := hproper steps hsteps
  have hlisted : ∀ step ∈ steps, ∀ e, listedOf step.1 outputEncoding step.2 = some e → IsListed e :=
    fun step hstep e he => isListed_of_listedOf (hproper step hstep) (hlines step hstep) he
  have hentries : (steps.map fun step =>
      entryOf EncodingTables.shippedTables step.1 outputEncoding step.2) =
        (steps.map fun step => listedOf step.1 outputEncoding step.2).map
          (Option.map fun e => (e.1, delimited SLASH e.2)) := by
    rw [List.map_map]
    exact List.map_congr_left fun step hstep => entryOf_eq_listedOf (hproper step hstep)
  have hstores := stores_empty.foldl_addEntry
    (steps.map fun step => listedOf step.1 outputEncoding step.2) fun e he => by
      obtain ⟨step, hstep, hsome⟩ := List.mem_map.mp he
      exact hlisted step hstep e hsome
  rw [← hentries] at hstores
  refine ⟨steps, hsteps, hlisted, ?_⟩
  have hcandidates : (steps.map fun step => listedOf step.1 outputEncoding step.2).foldl addListed
      (fun _ => []) = candidatesIn outputEncoding steps :=
    funext fun midashi => foldl_addListed outputEncoding steps (fun _ => []) midashi
  rwa [hcandidates] at hstores

end Files

/-! ## A small jisyo -/

/-- A jisyo in UTF-8 with a comment, two lines of `a` and one of `aab`, that is read in pieces. -/
def listedFile : JisyoFile where
  bytes := [0xef, 0xbb, 0xbf] ++ endedText [(ascii "; listed", .lf), (ascii "a /b/b/", .crlf),
    (ascii "aab /y/z/", .lf), (ascii "a /c/b/", .cr)]
  readLengths := [6, 0, 11]

/-- The entries that are made of it. -/
def listedEntries : JisyoEntriesMap :=
  ((∅ : JisyoEntriesMap).insert (ascii "a") (ascii "/b/c/")).insert (ascii "aab") (ascii "/y/z/")

lemma readSteps_listedFile : readSteps [listedFile] = .ok [(.Utf8, ascii "; listed"),
    (.Utf8, ascii "a /b/b/"), (.Utf8, []), (.Utf8, ascii "aab /y/z/"), (.Utf8, ascii "a /c/b/")] := by
  decide +kernel

lemma getMergedJisyoEntriesMapCore_listedFile :
    getMergedJisyoEntriesMapCore EncodingTables.shippedTables [listedFile] (some .Euc) =
      .ok listedEntries := by
  have hlist : (getMergedJisyoEntriesMapCore EncodingTables.shippedTables [listedFile]
      (some .Euc) >>= fun m => .ok m.toList : Result _) = .ok listedEntries.toList := by
    decide +kernel
  obtain ⟨m, hm, hlist⟩ := Outcome.bind_eq_ok.mp hlist
  rw [hm, Std.ExtTreeMap.toList_inj.mp (Outcome.ok.inj hlist)]

/-- A line of UTF-8 whose midashi begins with ASCII. -/
lemma isProperLine_of_cutLine {line midashi candidates : Bytes}
    (hcut : cutLine line = some (midashi, candidates)) {b : UInt8} {rest : Bytes}
    (hmidashi : Euc.encoded EncodingTables.shippedTables midashi = b :: rest) (hb : b ≤ 0x7f)
    (hslash : candidates.head? = some SLASH) (hmore : candidates ≠ [SLASH]) :
    IsProperLine .Utf8 (some .Euc) line := by
  have hcuts : ∀ {midashi' candidates' : Bytes}, cutLine line = some (midashi', candidates') →
      midashi' = midashi ∧ candidates' = candidates :=
    fun h => Prod.mk.inj (Option.some.inj (h.symm.trans hcut))
  have hstored : storedMidashi EncodingTables.shippedTables .Utf8 (some .Euc) midashi =
      b :: rest := by
    rw [storedMidashi, if_neg (by decide), hmidashi]
  constructor
  · intro midashi' candidates' h
    rw [(hcuts h).1, hstored]
    exact .ascii hb
  · intro midashi' candidates' h
    rw [(hcuts h).2]
    exact hslash
  · intro midashi' candidates' h
    rw [(hcuts h).2]
    exact hmore
  · intro midashi' candidates' _ heuc
    simp at heuc

/-- A line that lists nothing. -/
lemma isProperLine_of_cutLine_eq_none {jisyoEncoding : Encoding} {outputEncoding : Option Encoding}
    {line : Bytes} (hcut : cutLine line = none) :
    IsProperLine jisyoEncoding outputEncoding line := by
  constructor <;> simp [hcut]

lemma isProperLine_of_readSteps_listedFile : ∀ steps, readSteps [listedFile] = .ok steps →
    ∀ step ∈ steps, IsProperLine step.1 (some .Euc) step.2 := by
  intro steps hsteps step hstep
  rw [readSteps_listedFile, Outcome.ok.injEq] at hsteps
  subst hsteps
  have ha : Euc.encoded EncodingTables.shippedTables (ascii "a") = [0x61] := by decide +kernel
  have haab : Euc.encoded EncodingTables.shippedTables (ascii "aab") = [0x61, 0x61, 0x62] := by
    decide +kernel
  simp only [List.mem_cons, List.not_mem_nil, or_false] at hstep
  rcases hstep with rfl | rfl | rfl | rfl | rfl
  · exact isProperLine_of_cutLine_eq_none rfl
  · have hcut : cutLine (ascii "a /b/b/") = some (ascii "a", ascii "/b/b/") := rfl
    exact isProperLine_of_cutLine hcut ha (by decide) rfl (by decide)
  · exact isProperLine_of_cutLine_eq_none rfl
  · have hcut : cutLine (ascii "aab /y/z/") = some (ascii "aab", ascii "/y/z/") := rfl
    exact isProperLine_of_cutLine hcut haab (by decide) rfl (by decide)
  · have hcut : cutLine (ascii "a /c/b/") = some (ascii "a", ascii "/c/b/") := rfl
    exact isProperLine_of_cutLine hcut ha (by decide) rfl (by decide)

end JisyoReader

end Yaskkserv2
