import Yaskkserv2.Properties.Merging

/-!
# Merging candidates with a word more than once

A stored text may spell one word in several ways, `/a;x/a;y/`.  A base candidate then takes the flag
of the first new candidate of its word alone, and the others are written behind the base.  What a
merge of any two candidate lists writes is `mergeTrimmedSlashCandidates_eq_unclaimed`.

Which candidates there are does not depend on which of two lists is the base, where one of them has
no annotations and nothing twice (`mem_merge_comm`).
-/

namespace Yaskkserv2

open Framework

namespace Candidates

/-! ## Duplicates -/

lemma mem_removeDuplicatesFrom {seen xs : List Bytes} {x : Bytes} :
    x ∈ removeDuplicatesFrom seen xs ↔ x ∈ xs ∧ x ∉ seen := by
  induction xs generalizing seen with
  | nil => simp [removeDuplicatesFrom]
  | cons y ys ih =>
    rw [removeDuplicatesFrom]
    by_cases hy : y ∈ seen
    · rw [if_pos hy, ih, List.mem_cons]
      grind
    · rw [if_neg hy, List.mem_cons, ih, List.mem_cons, List.mem_cons]
      grind

lemma nodup_removeDuplicatesFrom (seen xs : List Bytes) : (removeDuplicatesFrom seen xs).Nodup := by
  induction xs generalizing seen with
  | nil => exact List.nodup_nil
  | cons y ys ih =>
    rw [removeDuplicatesFrom]
    split
    · exact ih seen
    · refine List.nodup_cons.mpr ⟨fun h => ?_, ih _⟩
      exact (mem_removeDuplicatesFrom.mp h).2 List.mem_cons_self

lemma nodup_removeDuplicates (xs : List Bytes) : (removeDuplicates xs).Nodup :=
  nodup_removeDuplicatesFrom [] xs

/-! ## A merge -/

/-- The units that a claim of every word in turn leaves. -/
def claimAll (words : List Bytes) (units : List NewUnit) : List NewUnit :=
  words.foldl (fun units word => (claimWord word units).2) units

/-- The new candidates that no base candidate has claimed. -/
def unclaimed (base new : List Bytes) : List Bytes :=
  ((claimAll (base.map removeAnnotate) (flagged removeAnnotate (fun _ => true) new)).filter
    (·.add)).map (·.raw)

/-- The units of some candidates know their words. -/
def KnowWords (units : List NewUnit) : Prop := ∀ u ∈ units, u.word = removeAnnotate u.raw

lemma knowWords_flagged (add : Bytes → Bool) (new : List Bytes) :
    KnowWords (flagged removeAnnotate add new) := by
  intro u hu
  obtain ⟨v, -, rfl⟩ := List.mem_map.mp hu
  rfl

/-! ## A claim -/

lemma claimWord_fst (word : Bytes) (units : List NewUnit) :
    (claimWord word units).1 = units.find? fun u => u.word = word := by
  induction units with
  | nil => rfl
  | cons v rest ih =>
    rw [claimWord]
    by_cases hv : v.word = word <;> simp [hv, ih]

/-- A claim takes one flag: that of the first unit with the word. -/
lemma mem_claimWord {word : Bytes} {units : List NewUnit} {u : NewUnit}
    (h : u ∈ (claimWord word units).2) :
    u ∈ units ∨
      ∃ v, units.find? (fun v => v.word = word) = some v ∧ u = { v with add := false } := by
  induction units with
  | nil => exact absurd h List.not_mem_nil
  | cons v rest ih =>
    rw [claimWord] at h
    by_cases hv : v.word = word
    · rw [if_pos hv, List.mem_cons] at h
      rcases h with rfl | h
      · exact .inr ⟨v, by simp [hv], rfl⟩
      · exact .inl (List.mem_cons_of_mem _ h)
    · rw [if_neg hv, List.mem_cons] at h
      rcases h with rfl | h
      · exact .inl List.mem_cons_self
      · rcases ih h with h | ⟨w, hw, rfl⟩
        · exact .inl (List.mem_cons_of_mem _ h)
        · exact .inr ⟨w, by simp [hv, hw], rfl⟩

lemma KnowWords.claimWord {units : List NewUnit} (h : KnowWords units) (word : Bytes) :
    KnowWords (claimWord word units).2 := by
  intro u hu
  rcases mem_claimWord hu with hu | ⟨v, hv, rfl⟩
  · exact h u hu
  · exact h v (List.mem_of_find?_eq_some hv)

lemma map_raw_claimAll (words : List Bytes) (units : List NewUnit) :
    (claimAll words units).map (·.raw) = units.map (·.raw) := by
  induction words generalizing units with
  | nil => rfl
  | cons word words ih =>
    rw [claimAll, List.foldl_cons, ← claimAll, ih, map_raw_claimWord]

lemma KnowWords.find?_eq {units : List NewUnit} (h : KnowWords units) (word : Bytes) :
    (units.find? fun u => u.word = word).map (·.raw) =
      (units.map (·.raw)).find? fun n => removeAnnotate n = word := by
  rw [List.find?_map]
  congr 1
  exact List.find?_congr fun u hu => by simp [h u hu]

/-- **The walk over the base**, whatever the new candidates are: each base candidate is written as
what stands for it, and every word of the base is claimed once for each time it occurs. -/
lemma foldl_mergeAnnotatedTurn_eq {units : List NewUnit} (h : KnowWords units) (base : List Bytes)
    (result : Bytes) :
    base.foldl mergeAnnotatedTurn (result, units) =
      (result ++ (base.map (KeyedMerge.replace removeAnnotate IsAnnotated
          (units.map (·.raw)))).flatMap (· ++ [SLASH]),
        claimAll (base.map removeAnnotate) units) := by
  induction base generalizing result units with
  | nil => simp [claimAll]
  | cons b base ih =>
    have hturn : mergeAnnotatedTurn (result, units) b =
        (result ++ KeyedMerge.replace removeAnnotate IsAnnotated (units.map (·.raw)) b ++ [SLASH],
          (claimWord (removeAnnotate b) units).2) := by
      have hfind := h.find?_eq (removeAnnotate b)
      have hfst := claimWord_fst (removeAnnotate b) units
      rw [KeyedMerge.replace, ← hfind, ← hfst, mergeAnnotatedTurn_eq, Option.map_map]
      rfl
    rw [List.foldl_cons, hturn, ih (h.claimWord _), map_raw_claimWord]
    simp only [List.map_cons, List.flatMap_cons, List.append_assoc, claimAll, List.foldl_cons]

/-- **A merge of any two candidate lists.** -/
theorem mergeTrimmedSlashCandidates_eq_unclaimed {base new : List Bytes} (hbase : base ≠ [])
    (hempty : base ≠ [[]]) (hbaseSlash : ∀ b ∈ base, SLASH ∉ b) (hnew : new ≠ [])
    (hnewSlash : ∀ n ∈ new, SLASH ∉ n) :
    mergeTrimmedSlashCandidates ([SLASH].intercalate base) ([SLASH].intercalate new) =
      delimited SLASH
        (base.map (KeyedMerge.replace removeAnnotate IsAnnotated new) ++ unclaimed base new) := by
  have hfold := foldl_mergeAnnotatedTurn_eq (knowWords_flagged (fun _ => true) new) base [SLASH]
  have hraw : (flagged removeAnnotate (fun _ => true) new).map (·.raw) = new := by
    simp [flagged, Function.comp_def]
  have hunits : (new.map fun v => (⟨v, removeAnnotate v, true⟩ : NewUnit)) =
      flagged removeAnnotate (fun _ => true) new := rfl
  rw [hraw] at hfold
  rw [mergeTrimmed_eq_mergeAnnotated, mergeAnnotatedTrimmedSlashCandidates,
    if_neg (intercalate_ne_nil hbase hempty), List.splitOn_intercalate SLASH hbaseSlash hbase,
    List.splitOn_intercalate SLASH hnewSlash hnew]
  dsimp only
  rw [hunits, hfold]
  dsimp only
  rw [delimited, List.flatMap_append, unclaimed, ← List.cons_append]
  simp only [List.flatMap_map, List.singleton_append]

/-- A merge into nothing writes the new candidates. -/
lemma mergeTrimmedSlashCandidates_nil {new : List Bytes} (hnew : new ≠ [])
    (hslash : ∀ n ∈ new, SLASH ∉ n) :
    mergeTrimmedSlashCandidates [] ([SLASH].intercalate new) = delimited SLASH new := by
  have hall : ((new.map fun v => (⟨v, removeAnnotate v, true⟩ : NewUnit)).filter (·.add)) =
      new.map fun v => ⟨v, removeAnnotate v, true⟩ := by
    refine List.filter_eq_self.mpr fun u hu => ?_
    obtain ⟨v, -, rfl⟩ := List.mem_map.mp hu
    rfl
  rw [mergeTrimmed_eq_mergeAnnotated, mergeAnnotatedTrimmedSlashCandidates, if_pos rfl,
    List.splitOn_intercalate SLASH hslash hnew]
  dsimp only
  rw [hall, List.flatMap_map]
  rfl

/-! ## What is left unclaimed -/

lemma mem_of_mem_unclaimed {base new : List Bytes} {c : Bytes} (h : c ∈ unclaimed base new) :
    c ∈ new := by
  obtain ⟨u, hu, rfl⟩ := List.mem_map.mp h
  have hmem : u.raw ∈ (claimAll (base.map removeAnnotate)
      (flagged removeAnnotate (fun _ => true) new)).map (·.raw) :=
    List.mem_map_of_mem (List.mem_filter.mp hu).1
  rw [map_raw_claimAll] at hmem
  simpa [flagged, Function.comp_def] using hmem

/-- The invariant of the claims: what is not to be added any more is the first candidate of a word
that has been claimed. -/
def ClaimedFirst (new words : List Bytes) (units : List NewUnit) : Prop :=
  ∀ u ∈ units, u.add = true ∨ ∃ word ∈ words, removeAnnotate u.raw = word ∧
    new.find? (fun n => removeAnnotate n = word) = some u.raw

lemma ClaimedFirst.claimAll {new done : List Bytes} (words : List Bytes) {units : List NewUnit}
    (hknow : KnowWords units) (hraw : units.map (·.raw) = new) (h : ClaimedFirst new done units) :
    ClaimedFirst new (done ++ words) (claimAll words units) := by
  induction words generalizing done units with
  | nil => simpa [Candidates.claimAll] using h
  | cons word words ih =>
    rw [Candidates.claimAll, List.foldl_cons, ← Candidates.claimAll, List.append_cons]
    refine ih (hknow.claimWord word) ((map_raw_claimWord word units).trans hraw) fun u hu => ?_
    rcases mem_claimWord hu with hu | ⟨v, hv, rfl⟩
    · refine (h u hu).imp_right fun hclaimed => ?_
      obtain ⟨word', hword', heq⟩ := hclaimed
      exact ⟨word', List.mem_append_left _ hword', heq⟩
    · have hfind := hknow.find?_eq word
      have hword : v.word = word := by simpa using List.find?_some hv
      rw [hv, hraw] at hfind
      refine .inr ⟨word, by simp, ?_, hfind.symm⟩
      rw [← hword, hknow v (List.mem_of_find?_eq_some hv)]

/-- A new candidate is written behind the base, or a base candidate has claimed the first one of its
word and the candidate is that one. -/
lemma mem_unclaimed_or (base : List Bytes) {new : List Bytes} {c : Bytes} (h : c ∈ new) :
    c ∈ unclaimed base new ∨ ∃ b ∈ base, removeAnnotate b = removeAnnotate c ∧
      new.find? (fun n => removeAnnotate n = removeAnnotate b) = some c := by
  have hraw : (flagged removeAnnotate (fun _ => true) new).map (·.raw) = new := by
    simp [flagged, Function.comp_def]
  have hstart : ClaimedFirst new [] (flagged removeAnnotate (fun _ => true) new) := by
    intro u hu
    obtain ⟨v, -, rfl⟩ := List.mem_map.mp hu
    exact .inl rfl
  have hclaimed := hstart.claimAll (base.map removeAnnotate) (knowWords_flagged _ new) hraw
  have hmem : c ∈ (claimAll (base.map removeAnnotate)
      (flagged removeAnnotate (fun _ => true) new)).map (·.raw) := by
    rwa [map_raw_claimAll, hraw]
  obtain ⟨u, hu, rfl⟩ := List.mem_map.mp hmem
  rcases hclaimed u hu with hadd | ⟨word, hword, heq, hfind⟩
  · exact .inl (List.mem_map.mpr ⟨u, List.mem_filter.mpr ⟨hu, hadd⟩, rfl⟩)
  · rw [List.nil_append] at hword
    obtain ⟨b, hb, rfl⟩ := List.mem_map.mp hword
    exact .inr ⟨b, hb, heq.symm, hfind⟩

/-- Where no word occurs twice among the new candidates, those of other words are left. -/
lemma unclaimed_of_nodup {base new : List Bytes} (h : (new.map removeAnnotate).Nodup) :
    unclaimed base new = KeyedMerge.added removeAnnotate base new := by
  have hplain := foldl_mergeAnnotatedTurn_flagged h base [] fun _ => true
  rw [foldl_mergeAnnotatedTurn_eq (knowWords_flagged _ new)] at hplain
  obtain ⟨-, hunits⟩ := Prod.mk.inj hplain
  rw [unclaimed, hunits]
  simp only [flagged, KeyedMerge.added, List.filter_map, List.map_map]
  conv_rhs => rw [← List.map_id (new.filter _)]
  congr 1
  exact List.filter_congr fun v _ => by simp

/-! ## Which of two lists is the base -/

section Plain

variable {base plain : List Bytes} (hplain : ∀ c ∈ plain, ¬ IsAnnotated c)

include hplain

lemma map_removeAnnotate_plain : plain.map removeAnnotate = plain := by
  conv_rhs => rw [← List.map_id plain]
  exact List.map_congr_left fun c hc => removeAnnotate_of_not_mem (hplain c hc)

/-- A candidate without annotation takes no other one's place. -/
lemma replace_plain (b : Bytes) : KeyedMerge.replace removeAnnotate IsAnnotated plain b = b := by
  rw [KeyedMerge.replace]
  cases hfind : plain.find? fun n => removeAnnotate n = removeAnnotate b with
  | none => rfl
  | some n =>
    have hn := hplain n (List.mem_of_find?_eq_some hfind)
    exact if_neg fun h => hn h.2

/-- Behind a base stand the plain candidates that the base does not spell. -/
lemma mem_merge_plain (hnodup : plain.Nodup) {c : Bytes} :
    c ∈ base.map (KeyedMerge.replace removeAnnotate IsAnnotated plain) ++ unclaimed base plain ↔
      c ∈ base ∨ c ∈ plain ∧ c ∉ base.map removeAnnotate := by
  have hwords : (plain.map removeAnnotate).Nodup := by
    rwa [map_removeAnnotate_plain hplain]
  have hbase : base.map (KeyedMerge.replace removeAnnotate IsAnnotated plain) = base := by
    conv_rhs => rw [← List.map_id base]
    exact List.map_congr_left fun b _ => replace_plain hplain b
  rw [hbase, unclaimed_of_nodup hwords, List.mem_append, KeyedMerge.added, List.mem_filter]
  refine or_congr_right (and_congr_right fun hc => ?_)
  simp only [removeAnnotate_of_not_mem (hplain c hc), decide_eq_true_eq]

/-- As a base, plain candidates are spelled as the new ones spell them, and no other spelling of the
new ones is lost. -/
lemma mem_plain_merge {c : Bytes} :
    c ∈ plain.map (KeyedMerge.replace removeAnnotate IsAnnotated base) ++ unclaimed plain base ↔
      c ∈ base ∨ c ∈ plain ∧ c ∉ base.map removeAnnotate := by
  have hself : ∀ {v : Bytes}, ¬ IsAnnotated v → removeAnnotate v = v := removeAnnotate_of_not_mem
  rw [List.mem_append]
  constructor
  · rintro (h | h)
    · obtain ⟨g, hg, rfl⟩ := List.mem_map.mp h
      rw [KeyedMerge.replace]
      cases hfind : base.find? fun n => removeAnnotate n = removeAnnotate g with
      | none =>
        refine .inr ⟨hg, fun hmem => ?_⟩
        obtain ⟨n, hn, heq⟩ := List.mem_map.mp hmem
        have hne := List.find?_eq_none.mp hfind n hn
        simp [heq, hself (hplain g hg)] at hne
      | some n =>
        have hn := List.mem_of_find?_eq_some hfind
        have hword : removeAnnotate n = removeAnnotate g := by simpa using List.find?_some hfind
        left
        rw [Option.map_some, Option.getD_some, KeyedMerge.choose]
        split
        · exact hn
        · rename_i hchoose
          -- neither is annotated, so the two are the same
          have hnplain : ¬ IsAnnotated n := fun h => hchoose ⟨hplain g hg, h⟩
          rw [hself hnplain, hself (hplain g hg)] at hword
          exact hword ▸ hn
    · exact .inl (mem_of_mem_unclaimed h)
  · rintro (h | ⟨h, hnot⟩)
    · rcases mem_unclaimed_or plain h with hleft | ⟨g, hg, hword, hfind⟩
      · exact .inr hleft
      · refine .inl (List.mem_map.mpr ⟨g, hg, ?_⟩)
        rw [KeyedMerge.replace, hfind, Option.map_some, Option.getD_some, KeyedMerge.choose]
        split
        · rfl
        · rename_i hchoose
          have hcplain : ¬ IsAnnotated c := fun h => hchoose ⟨hplain g hg, h⟩
          rwa [hself hcplain, hself (hplain g hg)] at hword
    · refine .inl (List.mem_map.mpr ⟨c, h, ?_⟩)
      have hfind : base.find? (fun n => removeAnnotate n = removeAnnotate c) = none := by
        rw [hself (hplain c h)]
        exact (KeyedMerge.find?_eq_none_of_not_mem IsAnnotated hnot).1
      rw [KeyedMerge.replace, hfind]
      rfl

/-- **Which of two lists is the base changes the order alone**, where one of them has no annotations
and nothing twice. -/
theorem mem_merge_comm (hnodup : plain.Nodup) {c : Bytes} :
    c ∈ plain.map (KeyedMerge.replace removeAnnotate IsAnnotated base) ++ unclaimed plain base ↔
      c ∈ base.map (KeyedMerge.replace removeAnnotate IsAnnotated plain) ++
        unclaimed base plain :=
  (mem_plain_merge hplain).trans (mem_merge_plain hplain hnodup).symm

end Plain

/-! ## Two lists of candidates -/

/-- What an answer has of a base and of candidates that are merged into it. -/
def mergedCandidates (base new : List Bytes) : List Bytes :=
  if base = [] then new
  else if new = [] then base
  else base.map (KeyedMerge.replace removeAnnotate IsAnnotated new) ++ unclaimed base new

/-- Candidates that can be told apart in an answer. -/
def AreCandidates (cs : List Bytes) : Prop := ∀ c ∈ cs, c ≠ [] ∧ SLASH ∉ c

lemma AreCandidates.ne_singleton_nil {cs : List Bytes} (h : AreCandidates cs) : cs ≠ [[]] := by
  rintro rfl
  exact (h [] List.mem_cons_self).1 rfl

/-- A merge has the candidates of its two lists and no others. -/
lemma mem_of_mem_mergedCandidates {base new : List Bytes} {c : Bytes}
    (h : c ∈ mergedCandidates base new) : c ∈ base ∨ c ∈ new := by
  rw [mergedCandidates] at h
  split at h
  · exact .inr h
  split at h
  · exact .inl h
  rcases List.mem_append.mp h with h | h
  · have hmem : c ∈ KeyedMerge.merge removeAnnotate IsAnnotated base new :=
      List.mem_append_left _ h
    exact KeyedMerge.mem_of_mem_merge hmem
  · exact .inr (mem_of_mem_unclaimed h)

lemma mergedCandidates_nil (base : List Bytes) : mergedCandidates base [] = base := by
  by_cases hbase : base = []
  · rw [mergedCandidates, if_pos hbase, hbase]
  · rw [mergedCandidates, if_neg hbase, if_pos rfl]

lemma AreCandidates.merged {base new : List Bytes} (hbase : AreCandidates base)
    (hnew : AreCandidates new) : AreCandidates (mergedCandidates base new) := fun c hc =>
  (mem_of_mem_mergedCandidates hc).elim (hbase c) (hnew c)

section Plain

variable {base plain : List Bytes} (hplain : ∀ c ∈ plain, ¬ IsAnnotated c)

include hplain

lemma mem_mergedCandidates_comm (hnodup : plain.Nodup) {c : Bytes} :
    c ∈ mergedCandidates plain base ↔ c ∈ mergedCandidates base plain := by
  unfold mergedCandidates
  by_cases hbaseNil : base = []
  · rw [if_pos hbaseNil, if_pos hbaseNil, hbaseNil]
    by_cases hplainNil : plain = []
    · rw [if_pos hplainNil, hplainNil]
    · rw [if_neg hplainNil]
  by_cases hplainNil : plain = []
  · rw [if_pos hplainNil, if_neg hbaseNil, if_pos hplainNil]
  · rw [if_neg hplainNil, if_neg hbaseNil, if_neg hbaseNil, if_neg hplainNil]
    exact mem_merge_comm hplain hnodup

/-- What plain candidates are merged into stays as it is. -/
lemma isPrefix_mergedCandidates : base <+: mergedCandidates base plain := by
  have hself : base.map (KeyedMerge.replace removeAnnotate IsAnnotated plain) = base := by
    conv_rhs => rw [← List.map_id base]
    exact List.map_congr_left fun d _ => replace_plain hplain d
  rw [mergedCandidates, hself]
  split_ifs with hbaseNil hplainNil
  · rw [hbaseNil]
    exact List.nil_prefix
  · exact List.prefix_refl _
  · exact List.prefix_append _ _

/-- Plain candidates keep their words and their order as a base. -/
lemma isPrefix_map_mergedCandidates :
    plain <+: (mergedCandidates plain base).map removeAnnotate := by
  have hwords : plain.map removeAnnotate = plain := map_removeAnnotate_plain hplain
  rw [mergedCandidates]
  split_ifs with hplainNil
  · rw [hplainNil]
    exact List.nil_prefix
  · rw [hwords]
  · have hkeys : (plain.map (KeyedMerge.replace removeAnnotate IsAnnotated base)).map
        removeAnnotate = plain := by
      rw [List.map_map]
      conv_rhs => rw [← hwords]
      exact List.map_congr_left fun v _ => KeyedMerge.key_replace base v
    rw [List.map_append, hkeys]
    exact List.prefix_append _ _

end Plain

/-- A merge of stored candidates. -/
lemma merge_delimited {base new : List Bytes} (hbaseNe : base ≠ []) (hbase : AreCandidates base)
    (hnewNe : new ≠ []) (hnew : AreCandidates new) :
    mergeTrimmedSlashCandidates (trimOneSlash (delimited SLASH base))
      (trimOneSlash (delimited SLASH new)) = delimited SLASH (mergedCandidates base new) := by
  rw [trimOneSlash_delimited hbaseNe, trimOneSlash_delimited hnewNe,
    mergeTrimmedSlashCandidates_eq_unclaimed hbaseNe hbase.ne_singleton_nil
      (fun b hb => (hbase b hb).2) hnewNe fun n hn => (hnew n hn).2, mergedCandidates,
    if_neg hbaseNe, if_neg hnewNe]

end Candidates

end Yaskkserv2
