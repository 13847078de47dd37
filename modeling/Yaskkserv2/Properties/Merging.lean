import Yaskkserv2.Candidates
import Yaskkserv2.Framework.KeyedMerge
import Yaskkserv2.Framework.Split

/-!
# What merging candidates comes to

`merge_trimmed_slash_candidates` takes the plain loop where neither text has a semicolon, and the
annotated one elsewhere.  The plain loop is only faster: the two agree wherever it is taken
(`mergeTrimmedSlashCandidates_eq_annotated`).

The loops walk over the base and flag the new candidates whose word they meet.  On candidates
without a word twice this is the merge by key of `Framework.KeyedMerge`, with the word as the key
and an annotation as the mark, so a fold over any number of sources follows the documented rule:
every word once, in the order of its first occurrence, as the first source that annotates it spells
it (`mergeSources_eq_documentedMerge`).  The one text the loops do not see is the empty base: it is
taken for no candidates, also where it is the text of one empty candidate.
-/

namespace Yaskkserv2

open Framework

namespace Candidates

/-! ## The two loops -/

/-- A claim changes no candidate. -/
lemma map_raw_claimWord (word : Bytes) (units : List NewUnit) :
    (claimWord word units).2.map (·.raw) = units.map (·.raw) := by
  induction units with
  | nil => rfl
  | cons v rest ih =>
    rw [claimWord]
    split
    · rfl
    · simp [ih]

lemma mem_of_claimWord {word : Bytes} {units : List NewUnit} {v : NewUnit}
    (h : (claimWord word units).1 = some v) : v ∈ units := by
  induction units with
  | nil => simp [claimWord] at h
  | cons w rest ih =>
    rw [claimWord] at h
    split at h
    · exact List.mem_cons.mpr (.inl (Option.some.inj h).symm)
    · exact List.mem_cons_of_mem _ (ih h)

lemma removeAnnotate_of_not_mem {v : Bytes} (h : SEMICOLON ∉ v) : removeAnnotate v = v := by
  apply List.takeWhile_eq_self_iff.mpr
  intro b hb
  have hne : b ≠ SEMICOLON := fun heq => h (heq ▸ hb)
  simpa using hne

/-- What the plain loop keeps of a new candidate, and what the annotated loop keeps of it, where
there is no annotation. -/
structure SameUnit (p : Bytes × Bool) (v : NewUnit) : Prop where
  raw : v.raw = p.1
  word : v.word = p.1
  add : v.add = p.2
  plain : SEMICOLON ∉ p.1

/-- The plain loop and the annotated one, at the same turn. -/
structure SameMerge (s : Bytes × List (Bytes × Bool)) (t : Bytes × List NewUnit) : Prop where
  result : s.1 = t.1
  units : List.Forall₂ SameUnit s.2 t.2

/-- Where the plain loop clears a flag, the annotated one claims the word. -/
lemma forall₂_clearFlag {ps : List (Bytes × Bool)} {vs : List NewUnit}
    (h : List.Forall₂ SameUnit ps vs) (baseUnit : Bytes) :
    List.Forall₂ SameUnit (clearFlag baseUnit ps) (claimWord baseUnit vs).2 := by
  induction h with
  | nil => exact .nil
  | @cons p v ps vs hpv hrest ih =>
    rw [clearFlag, claimWord, hpv.word]
    by_cases hp : p.1 = baseUnit
    · rw [if_pos hp, if_pos hp]
      exact .cons ⟨hpv.raw, rfl, rfl, hpv.plain⟩ hrest
    · rw [if_neg hp, if_neg hp]
      exact .cons hpv ih

lemma semicolon_not_mem_of_forall₂ {ps : List (Bytes × Bool)} {vs : List NewUnit}
    (h : List.Forall₂ SameUnit ps vs) : ∀ v ∈ vs, SEMICOLON ∉ v.raw := by
  induction h with
  | nil => simp
  | cons hpv _ ih => exact List.forall_mem_cons.mpr ⟨hpv.raw ▸ hpv.plain, ih⟩

/-- **A turn of the plain loop is one of the annotated loop**: neither the base candidate nor a new
one has an annotation, so that the base candidate is written. -/
lemma SameMerge.turn {s : Bytes × List (Bytes × Bool)} {t : Bytes × List NewUnit}
    (h : SameMerge s t) {baseUnit : Bytes} (hbase : SEMICOLON ∉ baseUnit) :
    SameMerge (mergePlainTurn s baseUnit) (mergeAnnotatedTurn t baseUnit) := by
  have hunits := forall₂_clearFlag h.units baseUnit
  have hplain := semicolon_not_mem_of_forall₂ h.units
  rw [mergeAnnotatedTurn, removeAnnotate_of_not_mem hbase]
  rcases hclaim : claimWord baseUnit t.2 with ⟨claimed, rest⟩
  rw [hclaim] at hunits
  cases claimed with
  | none => exact ⟨congrArg (· ++ baseUnit ++ [SLASH]) h.result, hunits⟩
  | some newUnit =>
    dsimp only
    have hmem : newUnit ∈ t.2 := mem_of_claimWord (congrArg Prod.fst hclaim)
    rw [if_neg fun hnew => hplain newUnit hmem hnew.2]
    exact ⟨congrArg (· ++ baseUnit ++ [SLASH]) h.result, hunits⟩

lemma SameMerge.foldl {s : Bytes × List (Bytes × Bool)} {t : Bytes × List NewUnit}
    (h : SameMerge s t) {baseUnits : List Bytes} (hbase : ∀ b ∈ baseUnits, SEMICOLON ∉ b) :
    SameMerge (baseUnits.foldl mergePlainTurn s) (baseUnits.foldl mergeAnnotatedTurn t) := by
  induction baseUnits generalizing s t with
  | nil => exact h
  | cons b rest ih =>
    obtain ⟨hb, hrest⟩ := List.forall_mem_cons.mp hbase
    exact ih (h.turn hb) hrest

/-- The loops end with the same candidates still to be added. -/
lemma SameMerge.written_eq {s : Bytes × List (Bytes × Bool)} {t : Bytes × List NewUnit}
    (h : SameMerge s t) :
    s.1 ++ ((s.2.filter (·.2)).flatMap fun v => v.1 ++ [SLASH]) =
      t.1 ++ ((t.2.filter (·.add)).flatMap fun v => v.raw ++ [SLASH]) := by
  obtain ⟨result, newRawAndAddFlag⟩ := s
  obtain ⟨result', newUnits⟩ := t
  obtain ⟨hresult, hunits⟩ := h
  dsimp only at hresult hunits ⊢
  have hadded : ((newRawAndAddFlag.filter (·.2)).flatMap fun v => v.1 ++ [SLASH]) =
      (newUnits.filter (·.add)).flatMap fun v => v.raw ++ [SLASH] := by
    induction hunits with
    | nil => rfl
    | @cons p v ps vs hpv _ ih =>
      rw [List.filter_cons, List.filter_cons, hpv.add]
      split
      · rw [List.flatMap_cons, List.flatMap_cons, ih, hpv.raw]
      · exact ih
  rw [hresult, hadded]

/-- Without annotations the plain loop does what the annotated one does. -/
lemma mergePlain_eq_annotated {base new : Bytes} (hbase : SEMICOLON ∉ base)
    (hnew : SEMICOLON ∉ new) :
    mergePlainTrimmedSlashCandidates base new = mergeAnnotatedTrimmedSlashCandidates base new := by
  have hpiece : ∀ {text : Bytes}, SEMICOLON ∉ text → ∀ v ∈ text.splitOn SLASH, SEMICOLON ∉ v :=
    fun htext v hv hmem => htext (mem_of_mem_splitOn hv hmem)
  have hstart : SameMerge ([SLASH], (new.splitOn SLASH).map fun v => (v, true))
      ([SLASH], (new.splitOn SLASH).map fun v => ⟨v, removeAnnotate v, true⟩) := by
    refine ⟨rfl, ?_⟩
    rw [List.forall₂_map_left_iff, List.forall₂_map_right_iff, List.forall₂_same]
    intro v hv
    exact ⟨rfl, removeAnnotate_of_not_mem (hpiece hnew v hv), rfl, hpiece hnew v hv⟩
  rw [mergePlainTrimmedSlashCandidates, mergeAnnotatedTrimmedSlashCandidates]
  by_cases hnil : base = []
  · rw [if_pos hnil, if_pos hnil]
    exact hstart.written_eq
  · rw [if_neg hnil, if_neg hnil]
    exact (hstart.foldl (hpiece hbase)).written_eq

/-- Whichever loop is taken, the annotated one would do. -/
lemma mergeTrimmed_eq_mergeAnnotated (base new : Bytes) :
    mergeTrimmedSlashCandidates base new = mergeAnnotatedTrimmedSlashCandidates base new := by
  rw [mergeTrimmedSlashCandidates]
  split
  · rfl
  · rename_i h
    obtain ⟨hbase, hnew⟩ := not_or.mp h
    exact mergePlain_eq_annotated hbase hnew

/-- **The fast merge agrees with the annotated one** on texts without a semicolon, so that the
branch on a semicolon is only an optimisation. -/
theorem mergeTrimmedSlashCandidates_eq_annotated (base new : Bytes) :
    (SEMICOLON ∉ base → SEMICOLON ∉ new →
      mergePlainTrimmedSlashCandidates base new = mergeAnnotatedTrimmedSlashCandidates base new) ∧
    mergeTrimmedSlashCandidates base new = mergeAnnotatedTrimmedSlashCandidates base new :=
  ⟨mergePlain_eq_annotated, mergeTrimmed_eq_mergeAnnotated base new⟩

/-- Candidates that are repeated in either text, and empty ones. -/
theorem mergeTrimmedSlashCandidates_eq_annotated_repeated :
    mergePlainTrimmedSlashCandidates (ascii "a//a") (ascii "b//a/b") = ascii "/a//a/b/b/" ∧
      mergeAnnotatedTrimmedSlashCandidates (ascii "a//a") (ascii "b//a/b") =
        ascii "/a//a/b/b/" := by
  have heq := (mergeTrimmedSlashCandidates_eq_annotated (ascii "a//a") (ascii "b//a/b")).1
    (by decide) (by decide)
  have hplain : mergePlainTrimmedSlashCandidates (ascii "a//a") (ascii "b//a/b") =
      ascii "/a//a/b/b/" := by decide +kernel
  exact ⟨hplain, heq ▸ hplain⟩

/-! ## Merging by word -/

/-- A candidate has an annotation. -/
abbrev IsAnnotated (v : Bytes) : Prop := SEMICOLON ∈ v

/-- What `add` keeps of new candidates while a merge is under way. -/
def flagged (wordOf : Bytes → Bytes) (add : Bytes → Bool) (new : List Bytes) : List NewUnit :=
  new.map fun v => ⟨v, wordOf v, add v⟩

lemma flagged_cons (wordOf : Bytes → Bytes) (add : Bytes → Bool) (v : Bytes) (new : List Bytes) :
    flagged wordOf add (v :: new) = ⟨v, wordOf v, add v⟩ :: flagged wordOf add new := rfl

section Words

variable {wordOf : Bytes → Bytes} {new : List Bytes}

/-- A claim finds the new candidate of its word, and takes the flag from it alone. -/
lemma claimWord_flagged (h : (new.map wordOf).Nodup) (add : Bytes → Bool) (word : Bytes) :
    claimWord word (flagged wordOf add new) =
      ((new.find? fun v => wordOf v = word).map fun v => ⟨v, wordOf v, add v⟩,
        flagged wordOf (fun v => add v && decide (wordOf v ≠ word)) new) := by
  induction new with
  | nil => rfl
  | cons v new ih =>
    obtain ⟨hv, hnew⟩ := List.nodup_cons.mp h
    rw [flagged_cons, claimWord, flagged_cons]
    by_cases hword : wordOf v = word
    · have hrest : flagged wordOf (fun w => add w && decide (wordOf w ≠ word)) new =
          flagged wordOf add new := by
        apply List.map_congr_left
        intro w hw
        have hne : wordOf w ≠ word := fun heq =>
          hv (hword.trans heq.symm ▸ List.mem_map_of_mem hw)
        simp [hne]
      rw [if_pos hword, hrest]
      simp [hword]
    · rw [if_neg hword, ih hnew]
      simp [hword]

end Words

/-- What a turn of the annotated loop writes, and what it claims. -/
lemma mergeAnnotatedTurn_eq (s : Bytes × List NewUnit) (b : Bytes) :
    mergeAnnotatedTurn s b =
      (s.1 ++ ((claimWord (removeAnnotate b) s.2).1.map fun u =>
          KeyedMerge.choose IsAnnotated b u.raw).getD b ++ [SLASH],
        (claimWord (removeAnnotate b) s.2).2) := by
  rw [mergeAnnotatedTurn]
  rcases claimWord (removeAnnotate b) s.2 with ⟨claimed, rest⟩
  cases claimed with
  | none => rfl
  | some u =>
    dsimp only [Option.map_some, Option.getD_some]
    rw [KeyedMerge.choose]
    split <;> rfl

/-- The walk over the base writes what stands for each of its candidates, and takes the flags of
the words it meets. -/
lemma foldl_mergeAnnotatedTurn_flagged {new : List Bytes} (h : (new.map removeAnnotate).Nodup)
    (base : List Bytes) (result : Bytes) (add : Bytes → Bool) :
    base.foldl mergeAnnotatedTurn (result, flagged removeAnnotate add new) =
      (result ++ (base.map (KeyedMerge.replace removeAnnotate IsAnnotated new)).flatMap
          (· ++ [SLASH]),
        flagged removeAnnotate
          (fun v => add v && decide (removeAnnotate v ∉ base.map removeAnnotate)) new) := by
  induction base generalizing result add with
  | nil => simp
  | cons b base ih =>
    have hturn : mergeAnnotatedTurn (result, flagged removeAnnotate add new) b =
        (result ++ KeyedMerge.replace removeAnnotate IsAnnotated new b ++ [SLASH],
          flagged removeAnnotate
            (fun v => add v && decide (removeAnnotate v ≠ removeAnnotate b)) new) := by
      rw [mergeAnnotatedTurn_eq, claimWord_flagged h, KeyedMerge.replace, Option.map_map]
      rfl
    have hadd : ∀ v, (add v && decide (removeAnnotate v ≠ removeAnnotate b) &&
        decide (removeAnnotate v ∉ base.map removeAnnotate)) =
          (add v && decide (removeAnnotate v ∉ (b :: base).map removeAnnotate)) := by
      intro v
      simp only [Bool.and_assoc, List.map_cons, List.mem_cons, not_or, Bool.decide_and]
    rw [List.foldl_cons, hturn, ih]
    simp only [hadd, List.map_cons, List.flatMap_cons, List.append_assoc]

/-- The candidates of one source: at least one, none with a slash, and no word twice. -/
structure IsSource (cs : List Bytes) : Prop where
  ne_nil : cs ≠ []
  slash_not_mem : ∀ c ∈ cs, SLASH ∉ c
  nodup : (cs.map removeAnnotate).Nodup

/-- A text is read as its candidates. -/
lemma IsSource.splitOn_eq {cs : List Bytes} (h : IsSource cs) :
    ([SLASH].intercalate cs).splitOn SLASH = cs :=
  List.splitOn_intercalate SLASH h.slash_not_mem h.ne_nil

lemma intercalate_ne_nil {cs : List Bytes} (hne : cs ≠ []) (hempty : cs ≠ [[]]) :
    [SLASH].intercalate cs ≠ [] := by
  match cs with
  | [] => exact absurd rfl hne
  | [c] => simpa using hempty
  | c :: c' :: rest => simp

/-- **A merge of two sources** is the merge by word, where an annotated candidate is marked. -/
lemma mergeTrimmedSlashCandidates_eq {base new : List Bytes} (hbase : IsSource base)
    (hempty : base ≠ [[]]) (hnew : IsSource new) :
    mergeTrimmedSlashCandidates ([SLASH].intercalate base) ([SLASH].intercalate new) =
      delimited SLASH (KeyedMerge.merge removeAnnotate IsAnnotated base new) := by
  have hfold := foldl_mergeAnnotatedTurn_flagged hnew.nodup base [SLASH] fun _ => true
  have hadded : ((flagged removeAnnotate
      (fun v => true && decide (removeAnnotate v ∉ base.map removeAnnotate)) new).filter
        (·.add)).flatMap (fun v => v.raw ++ [SLASH]) =
      (KeyedMerge.added removeAnnotate base new).flatMap (· ++ [SLASH]) := by
    simp only [flagged, KeyedMerge.added, List.filter_map, List.flatMap_map]
    congr 1
    exact List.filter_congr fun v _ => by simp
  rw [mergeTrimmed_eq_mergeAnnotated, mergeAnnotatedTrimmedSlashCandidates,
    if_neg (intercalate_ne_nil hbase.ne_nil hempty), hbase.splitOn_eq, hnew.splitOn_eq]
  have hunits : (new.map fun v => (⟨v, removeAnnotate v, true⟩ : NewUnit)) =
      flagged removeAnnotate (fun _ => true) new := rfl
  dsimp only
  rw [hunits, hfold]
  dsimp only
  rw [hadded, KeyedMerge.merge, delimited, List.flatMap_append]
  rfl

/-! ## Any number of sources -/

/-- Two texts merged as all callers merge them: trimmed of one slash at either end. -/
def mergeTexts (base new : Bytes) : Bytes :=
  mergeTrimmedSlashCandidates (trimOneSlash base) (trimOneSlash new)

/-- The texts of some sources, merged one after the other. -/
def mergeSources (first : List Bytes) (rest : List (List Bytes)) : Bytes :=
  rest.foldl (fun merged cs => mergeTexts merged (delimited SLASH cs)) (delimited SLASH first)

/-- The spelling of a word among some candidates: the first annotated one, or else the word. -/
def spelling (cs : List Bytes) (word : Bytes) : Bytes :=
  (cs.find? fun c => removeAnnotate c = word ∧ IsAnnotated c).getD word

/-- The documented rule: every word once, in the order of first occurrence. -/
def documentedMerge (cs : List Bytes) : List Bytes :=
  (KeyedMerge.distinctKeys removeAnnotate cs).map (spelling cs)

lemma trimOneSlash_delimited {cs : List Bytes} (h : cs ≠ []) :
    trimOneSlash (delimited SLASH cs) = [SLASH].intercalate cs := by
  have hlast : ∀ text : Bytes, (SLASH :: (text ++ [SLASH])).getLast? = some SLASH := fun text => by
    rw [← List.cons_append, List.getLast?_concat]
  have hinit : ∀ text : Bytes, (SLASH :: (text ++ [SLASH])).dropLast = SLASH :: text := by
    intro text
    rw [← List.cons_append, List.dropLast_concat]
  have hlong : 1 < (SLASH :: ([SLASH].intercalate cs ++ [SLASH])).length := by simp
  rw [delimited_eq_intercalate h, trimOneSlash, if_neg (List.cons_ne_nil _ _)]
  simp only [hlong, hlast, hinit, and_self, if_true, List.head?_cons, List.drop_succ_cons,
    List.drop_zero]

/-- What is gathered by word is what the rule documents. -/
lemma eq_documentedMerge {cs ds : List Bytes}
    (h : KeyedMerge.IsGathered removeAnnotate IsAnnotated cs ds) : ds = documentedMerge cs := by
  rw [documentedMerge, ← h.keys, List.map_map]
  conv_lhs => rw [← List.map_id ds]
  apply List.map_congr_left
  intro d hd
  rw [Function.comp_apply, spelling]
  rcases KeyedMerge.spelling?_eq_some (h.spelled d hd) with ⟨-, hfirst⟩ | ⟨hd, hnone, -⟩
  · rw [hfirst, Option.getD_some, id]
  · rw [hnone, Option.getD_none, removeAnnotate_of_not_mem hd, id]

/-- A merge of two sources is a source again. -/
lemma IsSource.merge {base new : List Bytes} (hbase : IsSource base) (hnew : IsSource new) :
    IsSource (KeyedMerge.merge removeAnnotate IsAnnotated base new) where
  ne_nil := by
    obtain ⟨b, rest, rfl⟩ := List.exists_cons_of_ne_nil hbase.ne_nil
    simp [KeyedMerge.merge]
  slash_not_mem d hd := by
    rcases KeyedMerge.mem_of_mem_merge hd with hd | hd
    · exact hbase.slash_not_mem d hd
    · exact hnew.slash_not_mem d hd
  nodup := ((KeyedMerge.isGathered_self hbase.nodup).merge hnew.nodup).nodup

lemma merge_ne_empty {base new : List Bytes} (hne : base ≠ []) (hempty : base ≠ [[]]) :
    KeyedMerge.merge removeAnnotate IsAnnotated base new ≠ [[]] := by
  obtain ⟨b, rest, rfl⟩ := List.exists_cons_of_ne_nil hne
  intro h
  rw [KeyedMerge.merge, List.map_cons, List.cons_append, List.cons.injEq] at h
  obtain ⟨hb, hrest⟩ := h
  obtain ⟨hnil, -⟩ := List.append_eq_nil_iff.mp hrest
  have hne : b ≠ [] := by
    rintro rfl
    exact hempty (congrArg _ (List.map_eq_nil_iff.mp hnil))
  rw [KeyedMerge.replace] at hb
  cases hfind : new.find? fun n => removeAnnotate n = removeAnnotate b with
  | none => exact hne (by rwa [hfind] at hb)
  | some n =>
    rw [hfind, Option.map_some, Option.getD_some, KeyedMerge.choose] at hb
    split at hb
    · rename_i hchoose
      exact absurd (hb ▸ hchoose.2) List.not_mem_nil
    · exact hne hb

lemma mergeTexts_delimited {base new : List Bytes} (hbase : IsSource base) (hempty : base ≠ [[]])
    (hnew : IsSource new) :
    mergeTexts (delimited SLASH base) (delimited SLASH new) =
      delimited SLASH (KeyedMerge.merge removeAnnotate IsAnnotated base new) := by
  rw [mergeTexts, trimOneSlash_delimited hbase.ne_nil, trimOneSlash_delimited hnew.ne_nil,
    mergeTrimmedSlashCandidates_eq hbase hempty hnew]

/-- The invariant of the fold: the text so far is that of a source which the candidates so far come
to. -/
lemma exists_mergeSources {first : List Bytes} {rest : List (List Bytes)} (hfirst : IsSource first)
    (hempty : first ≠ [[]]) (hrest : ∀ cs ∈ rest, IsSource cs) :
    ∃ ds, mergeSources first rest = delimited SLASH ds ∧ IsSource ds ∧ ds ≠ [[]] ∧
      KeyedMerge.IsGathered removeAnnotate IsAnnotated (first ++ rest.flatten) ds := by
  induction rest using List.reverseRecOn with
  | nil =>
    refine ⟨first, rfl, hfirst, hempty, ?_⟩
    rw [List.flatten_nil, List.append_nil]
    exact KeyedMerge.isGathered_self hfirst.nodup
  | append_singleton rest cs ih =>
    obtain ⟨hrest, hcs⟩ := List.forall_mem_append.mp hrest
    have hcs := hcs cs (List.mem_singleton_self cs)
    obtain ⟨ds, hmerged, hds, hne, hgathered⟩ := ih hrest
    refine ⟨KeyedMerge.merge removeAnnotate IsAnnotated ds cs, ?_, hds.merge hcs,
      merge_ne_empty hds.ne_nil hne, ?_⟩
    · rw [mergeSources, List.foldl_append, List.foldl_cons, List.foldl_nil, ← mergeSources,
        hmerged, mergeTexts_delimited hds hne hcs]
    · rw [List.flatten_append, List.flatten_singleton, ← List.append_assoc]
      exact hgathered.merge hcs.nodup

/-- **Merging sources follows the documented rule**, where the first source is not the one empty
candidate, whose text is taken for no candidates.  Merging one of them again changes nothing, and
the merge is associative. -/
theorem mergeSources_eq_documentedMerge {first : List Bytes} {rest : List (List Bytes)}
    (hfirst : IsSource first) (hempty : first ≠ [[]]) (hrest : ∀ cs ∈ rest, IsSource cs) :
    mergeSources first rest = delimited SLASH (documentedMerge (first ++ rest.flatten)) ∧
    (∀ cs ∈ first :: rest,
      mergeTexts (mergeSources first rest) (delimited SLASH cs) = mergeSources first rest) ∧
    ∀ second third, IsSource second → second ≠ [[]] → IsSource third →
      mergeTexts (mergeTexts (delimited SLASH first) (delimited SLASH second))
          (delimited SLASH third) =
        mergeTexts (delimited SLASH first)
          (mergeTexts (delimited SLASH second) (delimited SLASH third)) := by
  obtain ⟨ds, hmerged, hds, hne, hgathered⟩ := exists_mergeSources hfirst hempty hrest
  refine ⟨?_, ?_, ?_⟩
  · rw [hmerged, eq_documentedMerge hgathered]
  · intro cs hcs
    have hsource : IsSource cs := by
      rcases List.mem_cons.mp hcs with rfl | hcs
      · exact hfirst
      · exact hrest cs hcs
    have hsubset : ∀ c ∈ cs, c ∈ first ++ rest.flatten := by
      intro c hc
      rcases List.mem_cons.mp hcs with rfl | hcs
      · exact List.mem_append_left _ hc
      · exact List.mem_append_right _ (List.mem_flatten.mpr ⟨cs, hcs, hc⟩)
    rw [hmerged, mergeTexts_delimited hds hne hsource, hgathered.merge_of_subset hsubset]
  · intro second third hsecond hsecondEmpty hthird
    rw [mergeTexts_delimited hfirst hempty hsecond,
      mergeTexts_delimited (hfirst.merge hsecond) (merge_ne_empty hfirst.ne_nil hempty) hthird,
      mergeTexts_delimited hsecond hsecondEmpty hthird,
      mergeTexts_delimited hfirst hempty (hsecond.merge hthird),
      KeyedMerge.merge_assoc hfirst.nodup hsecond.nodup hthird.nodup]

/-- The sources `/a/b;x/`, `/b;y/a;z/` and `/c/a;w/`. -/
theorem mergeSources_eq_documentedMerge_three :
    mergeSources [ascii "a", ascii "b;x"] [[ascii "b;y", ascii "a;z"], [ascii "c", ascii "a;w"]] =
      delimited SLASH (documentedMerge
        [ascii "a", ascii "b;x", ascii "b;y", ascii "a;z", ascii "c", ascii "a;w"]) := by
  refine (mergeSources_eq_documentedMerge ⟨by decide, by decide, by decide⟩ (by decide) ?_).1
  intro cs hcs
  rcases List.mem_pair.mp hcs with rfl | rfl
  · exact ⟨by decide, by decide, by decide⟩
  · exact ⟨by decide, by decide, by decide⟩

/-- Merged with `/a/`, the text `//` of one empty candidate loses it. -/
theorem not_documentedMerge_empty :
    IsSource [[]] ∧ IsSource [ascii "a"] ∧
      mergeSources [[]] [[ascii "a"]] ≠
        delimited SLASH (documentedMerge ([[]] ++ [[ascii "a"]].flatten)) :=
  ⟨⟨by decide, by decide, by decide⟩, ⟨by decide, by decide, by decide⟩, by decide⟩

end Candidates

end Yaskkserv2
