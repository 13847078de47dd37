import Yaskkserv2.Candidates
import Yaskkserv2.Framework.Split

/-!
# Quoted candidates

A candidate that comes from outside is quoted before it stands between slashes.  What is written
for a byte is one of four things (`QuotedAs`); from this a quoted text holds no delimiter
(`not_mem_quote`), and two texts that are quoted alike are equal (`quote_injective`): a form
`(concat ..)` is followed by a bare double quote, and text that merely looks like one is not.
-/

namespace Yaskkserv2

open Framework

namespace Candidates

/-- A candidate as it is written, without the slash before it. -/
abbrev quote (source : Bytes) : Bytes := quoteAndAddPrefix source none

/-- A byte that is written as it is. -/
def IsPlain (b : UInt8) : Prop :=
  b ≠ CR ∧ b ≠ LF ∧ b ≠ 0x5c ∧ b ≠ 0x22 ∧ b ≠ SEMICOLON ∧ b ≠ SLASH

/-- What the form for a delimiter begins with, between the parenthesis and the double quote. -/
def concatHead : Bytes := ascii "concat "

/-- The form that stands for a delimiter, and ends in its octal digits. -/
def concatForm (octal : Bytes) : Bytes := 0x28 :: (concatHead ++ 0x22 :: octal)

/-- The delimiters that are written as a form. -/
def IsFormOf (b : UInt8) (octal : Bytes) : Prop :=
  b = SEMICOLON ∧ octal = ascii "\\073\")" ∨ b = SLASH ∧ octal = ascii "\\057\")"

/-- What is written for a byte: nothing, the byte, the byte after a backslash, or a form. -/
inductive QuotedAs : UInt8 → Bytes → Prop
  | dropped {b : UInt8} (h : b = CR ∨ b = LF) : QuotedAs b []
  | plain {b : UInt8} (h : IsPlain b) : QuotedAs b [b]
  | escaped {b : UInt8} (h : b = 0x5c ∨ b = 0x22) : QuotedAs b [0x5c, b]
  | form {b : UInt8} {octal : Bytes} (h : IsFormOf b octal) : QuotedAs b (concatForm octal)

variable {source source' : Bytes}

lemma quotedAs_quoteByte (b : UInt8) : QuotedAs b (quoteByte b) := by
  by_cases hend : b = CR ∨ b = LF
  · rw [quoteByte, if_pos hend]
    exact .dropped hend
  · by_cases hbackslash : b = 0x5c
    · subst hbackslash
      exact .escaped (Or.inl rfl)
    · by_cases hdouble : b = 0x22
      · subst hdouble
        exact .escaped (Or.inr rfl)
      · by_cases hsemicolon : b = SEMICOLON
        · subst hsemicolon
          exact .form (Or.inl ⟨rfl, rfl⟩)
        · by_cases hslash : b = SLASH
          · subst hslash
            exact .form (Or.inr ⟨rfl, rfl⟩)
          · rw [quoteByte, if_neg hend, if_neg hbackslash, if_neg hdouble, if_neg hsemicolon,
              if_neg hslash]
            rw [not_or] at hend
            exact .plain ⟨hend.1, hend.2, hbackslash, hdouble, hsemicolon, hslash⟩

lemma quote_cons (b : UInt8) (source : Bytes) :
    quote (b :: source) = quoteByte b ++ quote source := by
  simp [quoteAndAddPrefix]

lemma quoteAndAddPrefix_some (source : Bytes) (start : UInt8) :
    quoteAndAddPrefix source (some start) = start :: quote source := by
  simp [quoteAndAddPrefix]

/-! ## Delimiters -/

/-- The bytes that stand in no quoted text. -/
def IsDelimiter (b : UInt8) : Prop := b = CR ∨ b = LF ∨ b = SEMICOLON ∨ b = SLASH

lemma not_mem_concatForm {b d : UInt8} {octal : Bytes} (hd : IsDelimiter d)
    (hform : IsFormOf b octal) : d ∉ concatForm octal := by
  rcases hform with ⟨-, rfl⟩ | ⟨-, rfl⟩ <;>
    rcases hd with rfl | rfl | rfl | rfl <;> decide +kernel

lemma not_mem_quoteByte {b d : UInt8} (hd : IsDelimiter d) : d ∉ quoteByte b := by
  intro h
  have hquoted := quotedAs_quoteByte b
  revert hquoted h
  generalize quoteByte b = q
  intro h hquoted
  cases hquoted with
  | dropped => exact List.not_mem_nil h
  | plain hplain =>
    obtain rfl := List.mem_singleton.mp h
    obtain ⟨hcr, hlf, -, -, hsemicolon, hslash⟩ := hplain
    rcases hd with rfl | rfl | rfl | rfl
    · exact hcr rfl
    · exact hlf rfl
    · exact hsemicolon rfl
    · exact hslash rfl
  | escaped hb =>
    have hd' : d = 0x5c ∨ d = b := by simpa using h
    rcases hd' with rfl | rfl
    · rcases hd with h | h | h | h <;> exact absurd h (by decide)
    · rcases hb with rfl | rfl <;> rcases hd with h | h | h | h <;> exact absurd h (by decide)
  | form hform => exact not_mem_concatForm hd hform h

/-- No delimiter stands in a quoted text. -/
lemma not_mem_quote {d : UInt8} (hd : IsDelimiter d) (source : Bytes) : d ∉ quote source := by
  intro h
  obtain ⟨b, -, hb⟩ := List.mem_flatMap.mp (by simpa [quoteAndAddPrefix] using h)
  exact not_mem_quoteByte hd hb

/-- Only line ends are dropped. -/
lemma quoteByte_ne_nil {b : UInt8} (hb : ¬ (b = CR ∨ b = LF)) : quoteByte b ≠ [] := by
  have hquoted := quotedAs_quoteByte b
  intro hnil
  rw [hnil] at hquoted
  cases hquoted with
  | dropped h => exact hb h

/-- A byte that is not dropped leaves something. -/
lemma quote_ne_nil (h : source.filter (fun b => b ≠ CR ∧ b ≠ LF) ≠ []) : quote source ≠ [] := by
  obtain ⟨b, hb⟩ := List.exists_mem_of_ne_nil _ h
  rw [List.mem_filter, decide_eq_true_eq] at hb
  intro hnil
  have hbyte : quoteByte b = [] := by
    refine List.flatMap_eq_nil_iff.mp ?_ b hb.1
    simpa [quoteAndAddPrefix] using hnil
  exact quoteByte_ne_nil (not_or.mpr hb.2) hbyte

/-! ## Texts that are quoted alike -/

/-- A double quote in a quoted text has a backslash or a parenthesis before it. -/
lemma not_prefix_quote {p : Bytes} (hp : ∀ x ∈ p, x ≠ 0x5c ∧ x ≠ 0x28) :
    ¬ p ++ [0x22] <+: quote source := by
  induction source generalizing p with
  | nil => simp [quoteAndAddPrefix]
  | cons b source ih =>
    rw [quote_cons]
    have hquoted := quotedAs_quoteByte b
    revert hquoted
    generalize quoteByte b = q
    intro hquoted h
    cases p with
    | nil =>
      cases hquoted with
      | dropped => exact ih (by simp) h
      | plain hplain => exact hplain.2.2.2.1 (List.cons_prefix_cons.mp h).1.symm
      | escaped => simp at h
      | form => exact absurd (List.cons_prefix_cons.mp h).1 (by decide)
    | cons x p =>
      have hx := hp x List.mem_cons_self
      cases hquoted with
      | dropped => exact ih hp h
      | plain =>
        have h' : x = b ∧ p ++ [0x22] <+: quote source := by simpa using h
        exact ih (fun y hy => hp y (List.mem_cons_of_mem x hy)) h'.2
      | escaped => exact hx.1 (by simpa using (List.cons_prefix_cons.mp h).1)
      | form => exact hx.2 (List.cons_prefix_cons.mp h).1

lemma quote_ne_concatHead (octal rest : Bytes) :
    quote source ≠ concatHead ++ 0x22 :: octal ++ rest := by
  intro h
  have hhead : ∀ x ∈ concatHead, x ≠ 0x5c ∧ x ≠ 0x28 := by decide +kernel
  have hstart : concatHead ++ [0x22] <+: quote source := ⟨octal ++ rest, by simp [h]⟩
  exact not_prefix_quote hhead hstart

lemma IsFormOf.length_eq {b : UInt8} {octal : Bytes} (h : IsFormOf b octal) : octal.length = 6 := by
  rcases h with ⟨-, rfl⟩ | ⟨-, rfl⟩ <;> decide +kernel

/-- The octal digits tell the delimiters apart. -/
lemma IsFormOf.eq {b b' : UInt8} {octal : Bytes} (h : IsFormOf b octal) (h' : IsFormOf b' octal) :
    b = b' := by
  rcases h with ⟨rfl, rfl⟩ | ⟨rfl, rfl⟩ <;> rcases h' with ⟨rfl, h'⟩ | ⟨rfl, h'⟩
  · rfl
  · exact absurd h' (by decide +kernel)
  · exact absurd h' (by decide +kernel)
  · rfl

/-- A byte that is not dropped is known from what a quoted text begins with. -/
lemma eq_of_quoteByte_append_eq {b b' : UInt8} (hb : ¬ (b = CR ∨ b = LF))
    (hb' : ¬ (b' = CR ∨ b' = LF))
    (h : quoteByte b ++ quote source = quoteByte b' ++ quote source') : b = b' := by
  have hquoted := quotedAs_quoteByte b
  have hquoted' := quotedAs_quoteByte b'
  revert hquoted hquoted' h
  generalize quoteByte b = q
  generalize quoteByte b' = q'
  intro h hquoted hquoted'
  cases hquoted with
  | dropped hend => exact absurd hend hb
  | plain hplain =>
    cases hquoted' with
    | dropped hend => exact absurd hend hb'
    | plain => exact (List.cons.inj h).1
    | escaped => exact absurd (List.cons.inj h).1 hplain.2.2.1
    | form => exact absurd (List.cons.inj h).2 (quote_ne_concatHead _ _)
  | escaped =>
    cases hquoted' with
    | dropped hend => exact absurd hend hb'
    | plain hplain => exact absurd (List.cons.inj h).1.symm hplain.2.2.1
    | escaped => exact (List.cons.inj (List.cons.inj h).2).1
    | form => exact absurd (List.cons.inj h).1 (by decide)
  | @form octal hform =>
    cases hquoted' with
    | dropped hend => exact absurd hend hb'
    | plain => exact absurd (List.cons.inj h).2.symm (quote_ne_concatHead _ _)
    | escaped => exact absurd (List.cons.inj h).1 (by decide)
    | @form octal' hform' =>
      have hdigits : octal ++ quote source = octal' ++ quote source' := by
        simpa [concatForm] using h
      have hoctal := (List.append_inj hdigits (by rw [hform.length_eq, hform'.length_eq])).1
      exact hform.eq (hoctal ▸ hform')

/-- Texts without line ends that are quoted alike are equal. -/
lemma quote_injective (hsource : ∀ b ∈ source, ¬ (b = CR ∨ b = LF))
    (hsource' : ∀ b ∈ source', ¬ (b = CR ∨ b = LF)) (h : quote source = quote source') :
    source = source' := by
  induction source generalizing source' with
  | nil =>
    cases source' with
    | nil => rfl
    | cons b' source' =>
      have hnil : quote (b' :: source') = [] := h.symm
      refine absurd hnil (quote_ne_nil (List.ne_nil_of_mem (a := b') ?_))
      simpa using hsource' b' List.mem_cons_self
  | cons b source ih =>
    cases source' with
    | nil =>
      refine absurd h (quote_ne_nil (List.ne_nil_of_mem (a := b) ?_))
      simpa using hsource b List.mem_cons_self
    | cons b' source' =>
      obtain ⟨hb, hsource⟩ := List.forall_mem_cons.mp hsource
      obtain ⟨hb', htail'⟩ := List.forall_mem_cons.mp hsource'
      rw [quote_cons, quote_cons] at h
      obtain rfl := eq_of_quoteByte_append_eq hb hb' h
      have hrest : quote source = quote source' := List.append_cancel_left h
      rw [ih hsource htail' hrest]

/-! ## Texts that need no quoting -/

lemma needQuote_eq_false_iff : needQuote source = false ↔ ∀ b ∈ source, IsPlain b := by
  simp [needQuote, IsPlain, and_assoc]

/-- Nothing gets shorter, but for the line ends. -/
lemma length_le_length_quote (h : ∀ b ∈ source, ¬ (b = CR ∨ b = LF)) :
    source.length ≤ (quote source).length := by
  induction source with
  | nil => exact Nat.zero_le _
  | cons b source ih =>
    obtain ⟨hb, hsource⟩ := List.forall_mem_cons.mp h
    have hbyte : 1 ≤ (quoteByte b).length := by
      rw [Nat.one_le_iff_ne_zero, Ne, List.length_eq_zero_iff]
      exact quoteByte_ne_nil hb
    have hrest := ih hsource
    rw [quote_cons, List.length_append, List.length_cons]
    omega

/-- Quoting leaves a text as it is exactly when no byte of it needs quoting. -/
lemma quote_eq_self_iff : quote source = source ↔ needQuote source = false := by
  rw [needQuote_eq_false_iff]
  constructor
  · intro h
    induction source with
    | nil => exact fun b hb => absurd hb List.not_mem_nil
    | cons b source ih =>
      have hfree : ∀ d, IsDelimiter d → d ∉ b :: source := fun d hd => h ▸ not_mem_quote hd _
      have hlength : source.length ≤ (quote source).length := by
        refine length_le_length_quote fun c hc hend => ?_
        exact hfree c (hend.elim Or.inl fun hlf => Or.inr (Or.inl hlf)) (List.mem_cons_of_mem b hc)
      have hdelimiter : ¬ IsDelimiter b := fun hb => hfree b hb List.mem_cons_self
      rw [quote_cons] at h
      have hquoted := quotedAs_quoteByte b
      revert hquoted h
      generalize quoteByte b = q
      intro h hquoted
      cases hquoted with
      | dropped hend =>
        exact absurd (hend.elim Or.inl fun hlf => Or.inr (Or.inl hlf)) hdelimiter
      | plain hplain => exact List.forall_mem_cons.mpr ⟨hplain, ih (List.cons.inj h).2⟩
      | escaped =>
        have hlong := congrArg List.length h
        simp only [List.length_append, List.length_cons, List.length_nil] at hlong
        omega
      | form hform =>
        exact absurd (hform.imp And.left And.left) fun hb => hdelimiter (Or.inr (Or.inr hb))
  · intro h
    induction source with
    | nil => rfl
    | cons b source ih =>
      obtain ⟨hb, hsource⟩ := List.forall_mem_cons.mp h
      rw [quote_cons, ih hsource]
      have hquoted := quotedAs_quoteByte b
      revert hquoted
      generalize quoteByte b = q
      intro hquoted
      cases hquoted with
      | dropped hend => exact absurd hend (not_or.mpr ⟨hb.1, hb.2.1⟩)
      | plain => rfl
      | escaped hescaped => exact absurd hescaped (not_or.mpr ⟨hb.2.2.1, hb.2.2.2.1⟩)
      | form hform =>
        exact absurd (hform.imp And.left And.left) (not_or.mpr hb.2.2.2.2)

/-! ## A list of quoted candidates -/

/-- The candidates that an outside source has found, as one text. -/
def quotedCandidates (candidates : List Bytes) : Bytes :=
  candidates.flatMap fun v => quoteAndAddPrefix v (some SLASH)

lemma quotedCandidates_eq (candidates : List Bytes) :
    quotedCandidates candidates = (candidates.map quote).flatMap (SLASH :: ·) := by
  simp only [quotedCandidates, List.flatMap_map, quoteAndAddPrefix_some]

lemma splitOn_quotedCandidates (candidates : List Bytes) :
    (quotedCandidates candidates).splitOn SLASH = [] :: candidates.map quote := by
  rw [quotedCandidates_eq]
  refine splitOn_flatMap_cons fun x hx => ?_
  obtain ⟨v, -, rfl⟩ := List.mem_map.mp hx
  exact not_mem_quote (Or.inr (Or.inr (Or.inr rfl))) v

lemma not_mem_quotedCandidates {d : UInt8} (hd : IsDelimiter d) (hslash : d ≠ SLASH)
    (candidates : List Bytes) : d ∉ quotedCandidates candidates := by
  intro h
  rw [quotedCandidates_eq] at h
  obtain ⟨x, hx, hdx⟩ := List.mem_flatMap.mp h
  obtain ⟨v, -, rfl⟩ := List.mem_map.mp hx
  rcases List.mem_cons.mp hdx with rfl | hdx
  · exact hslash rfl
  · exact not_mem_quote hd v hdx

/-- The slash before the first candidate is the one that is trimmed. -/
lemma trimOneSlash_quotedCandidates {candidates : List Bytes} (hne : candidates ≠ [])
    (h : ∀ v ∈ candidates, v.filter (fun b => b ≠ CR ∧ b ≠ LF) ≠ []) :
    (trimOneSlash (quotedCandidates candidates)).splitOn SLASH = candidates.map quote := by
  have hsplit := splitOn_quotedCandidates candidates
  obtain ⟨rest, hrest⟩ : ∃ rest, quotedCandidates candidates = SLASH :: rest := by
    obtain ⟨v, vs, rfl⟩ := List.exists_cons_of_ne_nil hne
    exact ⟨quote v ++ quotedCandidates vs, by simp [quotedCandidates, quoteAndAddPrefix_some]⟩
  have hlast : (quotedCandidates candidates).getLast? ≠ some SLASH := by
    obtain ⟨front, v, rfl⟩ := (List.eq_nil_or_concat' candidates).resolve_left hne
    obtain ⟨q, b, hq⟩ : ∃ q b, quote v = q ++ [b] :=
      (List.eq_nil_or_concat' (quote v)).resolve_left (quote_ne_nil (h v (by simp)))
    have hb : b ≠ SLASH := by
      rintro rfl
      exact not_mem_quote (d := SLASH) (Or.inr (Or.inr (Or.inr rfl))) v (by simp [hq])
    have htext : quotedCandidates (front ++ [v]) = (quotedCandidates front ++ SLASH :: q) ++ [b] := by
      simp [quotedCandidates, quoteAndAddPrefix_some, hq]
    rw [htext, List.getLast?_concat]
    simpa using hb
  have htrim : trimOneSlash (quotedCandidates candidates) = rest := by
    rw [trimOneSlash, if_neg (by simp [hrest])]
    simp only [hlast, and_false, if_false]
    simp [hrest]
  rw [hrest, splitOn_cons_self] at hsplit
  rw [htrim]
  exact (List.cons.inj hsplit).2

/-- Quoting is safe and loses nothing: a list of quoted candidates holds no line end and no
semicolon and is split into the quoted candidates, no two texts without line ends are quoted alike,
and a text stays as it is exactly when it needs no quoting. -/
theorem quote_safe :
    (∀ candidates : List Bytes,
      (∀ v ∈ candidates, v.filter (fun b => b ≠ CR ∧ b ≠ LF) ≠ []) →
        (∀ b ∈ quotedCandidates candidates, b ≠ CR ∧ b ≠ LF ∧ b ≠ SEMICOLON) ∧
        (quotedCandidates candidates).splitOn SLASH = [] :: candidates.map quote ∧
        (candidates ≠ [] →
          (trimOneSlash (quotedCandidates candidates)).splitOn SLASH = candidates.map quote)) ∧
    (∀ source source' : Bytes, (CR ∉ source ∧ LF ∉ source) → (CR ∉ source' ∧ LF ∉ source') →
      quote source = quote source' → source = source') ∧
    ∀ source : Bytes, quote source = source ↔ needQuote source = false := by
  refine ⟨fun candidates h => ⟨?_, splitOn_quotedCandidates candidates, ?_⟩, ?_, ?_⟩
  · intro b hb
    refine ⟨?_, ?_, ?_⟩
    · rintro rfl
      exact not_mem_quotedCandidates (Or.inl rfl) (by decide) candidates hb
    · rintro rfl
      exact not_mem_quotedCandidates (Or.inr (Or.inl rfl)) (by decide) candidates hb
    · rintro rfl
      exact not_mem_quotedCandidates (Or.inr (Or.inr (Or.inl rfl))) (by decide) candidates hb
  · exact fun hne => trimOneSlash_quotedCandidates hne h
  · intro source source' hsource hsource' h
    refine quote_injective ?_ ?_ h
    · rintro b hb (rfl | rfl)
      · exact hsource.1 hb
      · exact hsource.2 hb
    · rintro b hb (rfl | rfl)
      · exact hsource'.1 hb
      · exact hsource'.2 hb
  · exact fun source => quote_eq_self_iff

/-- The candidates `a/b` and `(concat "\057")`, which looks like a quoted slash. -/
theorem quote_safe_slash :
    (quotedCandidates [[0x61, SLASH, 0x62], ascii "(concat \"\\057\")"]).splitOn SLASH =
      [] :: [[0x61, SLASH, 0x62], ascii "(concat \"\\057\")"].map quote ∧
    quote [SLASH] ≠ quote (ascii "(concat \"\\057\")") := by
  refine ⟨(quote_safe.1 _ (by decide +kernel)).2.1, fun h => ?_⟩
  have heq := quote_safe.2.1 [SLASH] (ascii "(concat \"\\057\")") (by decide)
    (by decide +kernel) h
  exact absurd heq (by decide +kernel)

end Candidates

end Yaskkserv2
