import Yaskkserv2.Framework.Correspondence
import Yaskkserv2.Properties.Merging

/-!
# Candidates in two spellings

The operations on candidates compare them and look at slashes and semicolons only.  So they keep
every one-to-one correspondence of texts that respects these two: what they make of corresponding
texts corresponds (`removeDuplicatesBytes_rel`, `trimOneSlash_rel`,
`mergeTrimmedSlashCandidates_rel`).
-/

namespace Yaskkserv2

open Framework

namespace Candidates

section

variable {R : Bytes → Bytes → Prop} (hR : Relator.BiUnique R) (hslash : Respects R SLASH)

include hR

/-! ## Duplicates -/

lemma removeDuplicatesFrom_rel {seen seen' xs ys : List Bytes} (hseen : List.Forall₂ R seen seen')
    (h : List.Forall₂ R xs ys) :
    List.Forall₂ R (removeDuplicatesFrom seen xs) (removeDuplicatesFrom seen' ys) := by
  induction h generalizing seen seen' with
  | nil => exact .nil
  | @cons x y xs ys hxy hs ih =>
    have hmem : x ∈ seen ↔ y ∈ seen' := List.rel_mem hR hxy hseen
    rw [removeDuplicatesFrom, removeDuplicatesFrom]
    by_cases hx : x ∈ seen
    · rw [if_pos hx, if_pos (hmem.mp hx)]
      exact ih hseen
    · rw [if_neg hx, if_neg (mt hmem.mpr hx)]
      exact .cons hxy (ih (.cons hxy hseen))

include hslash

lemma removeDuplicatesBytes_rel {x y : Bytes} (h : R x y) :
    R (removeDuplicatesBytes x) (removeDuplicatesBytes y) :=
  hslash.concat (hslash.intercalate (removeDuplicatesFrom_rel hR .nil (hslash.splitOn h)))

lemma trimOneSlash_rel {x y : Bytes} (h : R x y) : R (trimOneSlash x) (trimOneSlash y) := by
  have hfront : ∀ {x y : Bytes}, R x y →
      R (if x.head? = some SLASH then x.drop 1 else x)
        (if y.head? = some SLASH then y.drop 1 else y) := by
    intro x y h
    by_cases hx : x.head? = some SLASH
    · rw [if_pos hx, if_pos ((hslash.head?_iff hR h).mp hx)]
      obtain ⟨x, rfl⟩ := List.head?_eq_some_iff.mp hx
      obtain ⟨z, rfl, hz⟩ := hslash.eq_cons_of_eq_cons hR h
      exact hz
    · rw [if_neg hx, if_neg (mt (hslash.head?_iff hR h).mpr hx)]
      exact h
  have hback : R (if 1 < x.length ∧ x.getLast? = some SLASH then x.dropLast else x)
      (if 1 < y.length ∧ y.getLast? = some SLASH then y.dropLast else y) := by
    by_cases hlast : x.getLast? = some SLASH
    · obtain ⟨u, rfl⟩ := List.getLast?_eq_some_iff.mp hlast
      obtain ⟨v, rfl, huv⟩ := hslash.eq_concat_of_eq_concat hR h
      have hlength : 1 < (u ++ [SLASH]).length ↔ 1 < (v ++ [SLASH]).length := by
        have hne := not_congr (hslash.eq_nil_iff hR huv)
        rw [← ne_eq, ← List.length_pos_iff, ← ne_eq, ← List.length_pos_iff] at hne
        simpa using hne
      by_cases hu : 1 < (u ++ [SLASH]).length
      · rw [if_pos ⟨hu, List.getLast?_concat⟩, if_pos ⟨hlength.mp hu, List.getLast?_concat⟩,
          List.dropLast_concat, List.dropLast_concat]
        exact huv
      · rw [if_neg fun hc => hu hc.1, if_neg fun hc => hu (hlength.mpr hc.1)]
        exact h
    · rw [if_neg fun hc => hlast hc.2,
        if_neg fun hc => hlast ((hslash.getLast?_iff hR h).mpr hc.2)]
      exact h
  rw [trimOneSlash, trimOneSlash]
  by_cases hnil : x = []
  · rw [if_pos hnil, if_pos ((hslash.eq_nil_iff hR h).mp hnil)]
    exact h
  · rw [if_neg hnil, if_neg (mt (hslash.eq_nil_iff hR h).mpr hnil)]
    exact hfront hback

omit hslash

/-! ## Merging -/

/-- New candidates in two spellings. -/
structure NewUnit.Rel (R : Bytes → Bytes → Prop) (v w : NewUnit) : Prop where
  raw : R v.raw w.raw
  word : R v.word w.word
  add : v.add = w.add

/-- A word is claimed in both spellings or in neither. -/
lemma claimWord_rel {word word' : Bytes} {vs ws : List NewUnit} (hword : R word word')
    (h : List.Forall₂ (NewUnit.Rel R) vs ws) :
    Option.Rel (NewUnit.Rel R) (claimWord word vs).1 (claimWord word' ws).1 ∧
      List.Forall₂ (NewUnit.Rel R) (claimWord word vs).2 (claimWord word' ws).2 := by
  induction h with
  | nil => exact ⟨.none, .nil⟩
  | @cons v w vs ws hvw hs ih =>
    have heq : v.word = word ↔ w.word = word' := Relator.rel_eq hR hvw.word hword
    rw [claimWord, claimWord]
    by_cases hv : v.word = word
    · rw [if_pos hv, if_pos (heq.mp hv)]
      exact ⟨.some hvw, .cons ⟨hvw.raw, hvw.word, rfl⟩ hs⟩
    · rw [if_neg hv, if_neg (mt heq.mpr hv)]
      exact ⟨ih.1, .cons hvw ih.2⟩

omit hR in
include hslash in
/-- What no base candidate has claimed is written behind, one candidate after the other. -/
lemma unclaimed_rel {u v : Bytes} {vs ws : List NewUnit} (huv : R u v)
    (h : List.Forall₂ (NewUnit.Rel R) vs ws) :
    R (u ++ [SLASH] ++ (vs.filter (·.add)).flatMap fun v => v.raw ++ [SLASH])
      (v ++ [SLASH] ++ (ws.filter (·.add)).flatMap fun v => v.raw ++ [SLASH]) := by
  induction h generalizing u v with
  | nil => simpa using hslash.concat huv
  | @cons x y xs ys hxy hs ih =>
    by_cases hadd : x.add = true
    · have hmore := ih (hslash.join huv hxy.raw)
      rw [List.filter_cons_of_pos hadd, List.filter_cons_of_pos (hxy.add ▸ hadd)]
      simpa using hmore
    · rw [List.filter_cons_of_neg hadd, List.filter_cons_of_neg (hxy.add ▸ hadd)]
      exact ih huv

/-- A merge under way in two spellings: what is written ends with a slash. -/
structure MergeRel (R : Bytes → Bytes → Prop) (s s' : Bytes × List NewUnit) : Prop where
  written : ∃ x y, s.1 = x ++ [SLASH] ∧ s'.1 = y ++ [SLASH] ∧ R x y
  units : List.Forall₂ (NewUnit.Rel R) s.2 s'.2

variable (hsemicolon : Respects R SEMICOLON)

include hslash hsemicolon

omit hR hslash in
/-- Which of two candidates of a word is written does not depend on the spelling. -/
lemma choose_rel {x x' y y' : Bytes} (h : R x y) (h' : R x' y') :
    R (KeyedMerge.choose IsAnnotated x x') (KeyedMerge.choose IsAnnotated y y') := by
  rw [KeyedMerge.choose, KeyedMerge.choose]
  by_cases hchoose : ¬ IsAnnotated x ∧ IsAnnotated x'
  · rw [if_pos hchoose, if_pos ⟨mt (hsemicolon.mem_iff h).mpr hchoose.1,
      (hsemicolon.mem_iff h').mp hchoose.2⟩]
    exact h'
  · rw [if_neg hchoose, if_neg fun hc => hchoose ⟨mt (hsemicolon.mem_iff h).mp hc.1,
      (hsemicolon.mem_iff h').mpr hc.2⟩]
    exact h

lemma mergeAnnotatedTurn_rel {s s' : Bytes × List NewUnit} {x y : Bytes} (h : MergeRel R s s')
    (hxy : R x y) : MergeRel R (mergeAnnotatedTurn s x) (mergeAnnotatedTurn s' y) := by
  obtain ⟨⟨u, v, hs, hs', huv⟩, hunits⟩ := h
  obtain ⟨hclaimed, hrest⟩ := claimWord_rel hR (hsemicolon.takeWhile hxy) hunits
  have hwrite : ∀ {x y : Bytes}, R x y →
      ∃ z z', s.1 ++ x ++ [SLASH] = z ++ [SLASH] ∧ s'.1 ++ y ++ [SLASH] = z' ++ [SLASH] ∧
        R z z' := by
    intro x y hxy
    refine ⟨u ++ SLASH :: x, v ++ SLASH :: y, ?_, ?_, hslash.join huv hxy⟩
    · simp [hs]
    · simp [hs']
  rw [mergeAnnotatedTurn_eq, mergeAnnotatedTurn_eq]
  refine ⟨hwrite ?_, hrest⟩
  rw [removeAnnotate, removeAnnotate]
  generalize (claimWord (x.takeWhile (· ≠ SEMICOLON)) s.2).1 = claimed at hclaimed ⊢
  generalize (claimWord (y.takeWhile (· ≠ SEMICOLON)) s'.2).1 = claimed' at hclaimed ⊢
  cases hclaimed with
  | none => exact hxy
  | some hunit => exact choose_rel hsemicolon hxy hunit.raw

lemma mergeAnnotatedTrimmedSlashCandidates_rel {base base' new new' : Bytes} (hbase : R base base')
    (hnew : R new new') :
    R (mergeAnnotatedTrimmedSlashCandidates base new)
      (mergeAnnotatedTrimmedSlashCandidates base' new') := by
  have hunits : List.Forall₂ (NewUnit.Rel R)
      ((new.splitOn SLASH).map fun v => ⟨v, removeAnnotate v, true⟩)
      ((new'.splitOn SLASH).map fun v => ⟨v, removeAnnotate v, true⟩) := by
    rw [List.forall₂_map_left_iff, List.forall₂_map_right_iff]
    exact (hslash.splitOn hnew).imp fun _ _ h => ⟨h, hsemicolon.takeWhile h, rfl⟩
  have hstep : Relator.LiftFun (MergeRel R) (Relator.LiftFun R (MergeRel R))
      mergeAnnotatedTurn mergeAnnotatedTurn :=
    fun _ _ h _ _ hxy => mergeAnnotatedTurn_rel hR hslash hsemicolon h hxy
  have hstart : MergeRel R ([SLASH], (new.splitOn SLASH).map fun v => ⟨v, removeAnnotate v, true⟩)
      ([SLASH], (new'.splitOn SLASH).map fun v => ⟨v, removeAnnotate v, true⟩) :=
    ⟨⟨[], [], rfl, rfl, hslash.nil⟩, hunits⟩
  rw [mergeAnnotatedTrimmedSlashCandidates, mergeAnnotatedTrimmedSlashCandidates]
  by_cases hnil : base = []
  · rw [if_pos hnil, if_pos ((hslash.eq_nil_iff hR hbase).mp hnil)]
    exact unclaimed_rel hslash hslash.nil hunits
  · rw [if_neg hnil, if_neg (mt (hslash.eq_nil_iff hR hbase).mpr hnil)]
    obtain ⟨⟨u, v, hresult, hresult', huv⟩, hleft⟩ :=
      List.rel_foldl hstep hstart (hslash.splitOn hbase)
    dsimp only
    rw [hresult, hresult']
    exact unclaimed_rel hslash huv hleft

/-- **A merge keeps the correspondence**, whichever spelling survives. -/
theorem mergeTrimmedSlashCandidates_rel {base base' new new' : Bytes} (hbase : R base base')
    (hnew : R new new') :
    R (mergeTrimmedSlashCandidates base new) (mergeTrimmedSlashCandidates base' new') := by
  rw [mergeTrimmed_eq_mergeAnnotated, mergeTrimmed_eq_mergeAnnotated]
  exact mergeAnnotatedTrimmedSlashCandidates_rel hR hslash hsemicolon hbase hnew

end

end Candidates

end Yaskkserv2
