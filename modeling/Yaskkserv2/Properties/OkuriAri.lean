import Yaskkserv2.Server.DictionaryReader

/-!
# Okuri-ari headwords

`is_okuri_ari` looks at the last three bytes of a headword only.  Read as characters, a headword
is okuri-ari when it ends in a hiragana and a lower-case letter; the three bytes say so for every
headword except one that ends in a three-byte code whose last two bytes look like a hiragana
(`isOkuriAri_flatten_iff`).
-/

namespace Yaskkserv2

open Framework DictionaryReader

/-- A byte of a code of more than one byte. -/
def IsEucByte (b : UInt8) : Prop := 0xa1 ≤ b ∧ b ≤ 0xfe

/-- A character of an EUC text: one byte below `0x80`, two bytes, or `0x8f` and two bytes. -/
inductive IsEucCharacter : Bytes → Prop
  | single {b : UInt8} (h : b < 0x80) : IsEucCharacter [b]
  | double {lead trail : UInt8} (hlead : lead = 0x8e ∨ IsEucByte lead) (htrail : IsEucByte trail) :
      IsEucCharacter [lead, trail]
  | triple {middle trail : UInt8} (hmiddle : IsEucByte middle) (htrail : IsEucByte trail) :
      IsEucCharacter [0x8f, middle, trail]

/-- The second byte of a hiragana. -/
def IsHiraganaTrail (b : UInt8) : Prop := 0xa1 ≤ b ∧ b ≤ 0xf3

def IsLowercaseLetter (b : UInt8) : Prop := 0x61 ≤ b ∧ b ≤ 0x7a

/-- The characters of an okuri-ari headword: the last is a lower-case letter, and the one before it
a hiragana. -/
def IsOkuriAriMidashi (cs : List Bytes) : Prop :=
  ∃ front kana letter, cs = front ++ [[0xa4, kana], [letter]] ∧
    IsHiraganaTrail kana ∧ IsLowercaseLetter letter

/-- The last character is a lower-case letter, and the one before it a three-byte code that ends in
the bytes of a hiragana. -/
def EndsInTripleLikeHiragana (cs : List Bytes) : Prop :=
  ∃ front kana letter, cs = front ++ [[0x8f, 0xa4, kana], [letter]] ∧
    IsHiraganaTrail kana ∧ IsLowercaseLetter letter

variable {cs front : List Bytes} {kana letter : UInt8}

/-! ## The last three bytes -/

lemma isOkuriAri_append (text : Bytes) (third second last : UInt8) :
    isOkuriAri (text ++ [third, second, last]) = true ↔
      third = 0xa4 ∧ IsHiraganaTrail second ∧ IsLowercaseLetter last := by
  simp only [isOkuriAri, List.reverse_append, List.reverse_cons, List.reverse_nil, List.nil_append,
    List.cons_append, Bool.and_eq_true, decide_eq_true_eq, beq_iff_eq, IsHiraganaTrail,
    IsLowercaseLetter]
  tauto

/-- What the function tests. -/
lemma isOkuriAri_iff {midashi : Bytes} :
    isOkuriAri midashi = true ↔ ∃ text kana letter, midashi = text ++ [0xa4, kana, letter] ∧
      IsHiraganaTrail kana ∧ IsLowercaseLetter letter := by
  constructor
  · intro h
    have hlength : 3 ≤ midashi.length := by
      rw [← List.length_reverse]
      unfold isOkuriAri at h
      split at h
      · next heq => simp [heq]
      · exact absurd h Bool.false_ne_true
    obtain ⟨third, second, last, hdrop⟩ : ∃ third second last,
        midashi.drop (midashi.length - 3) = [third, second, last] :=
      List.length_eq_three.mp (by rw [List.length_drop]; omega)
    have hsplit : midashi = midashi.take (midashi.length - 3) ++ [third, second, last] := by
      rw [← hdrop, List.take_append_drop]
    rw [hsplit, isOkuriAri_append] at h
    obtain ⟨rfl, hkana, hletter⟩ := h
    exact ⟨_, second, last, hsplit, hkana, hletter⟩
  · rintro ⟨text, kana, letter, rfl, hkana, hletter⟩
    exact (isOkuriAri_append text 0xa4 kana letter).mpr ⟨rfl, hkana, hletter⟩

/-! ## Bytes and characters -/

lemma not_lt_of_isEucByte {b : UInt8} (h : IsEucByte b) : ¬ b < 0x80 := by
  obtain ⟨h, -⟩ := h
  rw [UInt8.le_iff_toNat_le] at h
  rw [UInt8.lt_iff_toNat_lt]
  change 161 ≤ b.toNat at h
  change ¬ b.toNat < 128
  omega

lemma IsLowercaseLetter.lt {b : UInt8} (h : IsLowercaseLetter b) : b < 0x80 := by
  obtain ⟨-, h⟩ := h
  rw [UInt8.le_iff_toNat_le] at h
  rw [UInt8.lt_iff_toNat_lt]
  change b.toNat ≤ 122 at h
  change b.toNat < 128
  omega

lemma IsHiraganaTrail.isEucByte {b : UInt8} (h : IsHiraganaTrail b) : IsEucByte b :=
  ⟨h.1, UInt8.le_trans h.2 (by decide)⟩

/-- A character that ends in a byte below `0x80` is that byte. -/
lemma IsEucCharacter.eq_of_getLast {c x : Bytes} {b : UInt8} (hc : IsEucCharacter c)
    (hb : b < 0x80) (h : c = x ++ [b]) : x = [] := by
  have hlast : c.getLast? = some b := by rw [h, List.getLast?_concat]
  cases hc with
  | single h' =>
    have hlength := congrArg List.length h
    simpa using hlength
  | @double lead trail _ htrail =>
    have htrail' : trail = b := by simpa using hlast
    exact absurd hb (not_lt_of_isEucByte (htrail' ▸ htrail))
  | @triple middle trail _ htrail =>
    have htrail' : trail = b := by simpa using hlast
    exact absurd hb (not_lt_of_isEucByte (htrail' ▸ htrail))

lemma IsEucCharacter.ne_nil {c : Bytes} (hc : IsEucCharacter c) : c ≠ [] := by
  cases hc <;> exact List.cons_ne_nil _ _

/-- A text of characters that ends in a byte below `0x80` ends in that character. -/
lemma eq_concat_of_flatten_eq {text : Bytes} {b : UInt8} (hcs : ∀ c ∈ cs, IsEucCharacter c)
    (hb : b < 0x80) (h : cs.flatten = text ++ [b]) :
    ∃ front, cs = front ++ [[b]] ∧ front.flatten = text := by
  cases List.eq_nil_or_concat' cs with
  | inl hnil => simp [hnil] at h
  | inr hconcat =>
    obtain ⟨front, c, rfl⟩ := hconcat
    have hc := hcs c (by simp)
    obtain ⟨x, last, rfl⟩ : ∃ x last, c = x ++ [last] := by
      rcases List.eq_nil_or_concat' c with rfl | h
      · exact absurd rfl hc.ne_nil
      · exact h
    rw [List.flatten_append, List.flatten_singleton, ← List.append_assoc] at h
    obtain ⟨htext, hlast⟩ := List.append_inj' h rfl
    obtain rfl : last = b := by simpa using hlast
    obtain rfl := hc.eq_of_getLast hb rfl
    exact ⟨front, rfl, by simpa using htext⟩

/-- A text of characters that ends in the two bytes of a hiragana ends in that hiragana, or in a
three-byte code. -/
lemma eq_concat_of_flatten_eq_hiragana {text : Bytes} (hcs : ∀ c ∈ cs, IsEucCharacter c)
    (hkana : IsHiraganaTrail kana) (h : cs.flatten = text ++ [0xa4, kana]) :
    ∃ front, cs = front ++ [[0xa4, kana]] ∨ cs = front ++ [[0x8f, 0xa4, kana]] := by
  cases List.eq_nil_or_concat' cs with
  | inl hnil => simp [hnil] at h
  | inr hconcat =>
    obtain ⟨front, c, rfl⟩ := hconcat
    refine ⟨front, ?_⟩
    have hreverse := congrArg List.reverse h
    rw [List.flatten_append, List.flatten_singleton] at hreverse
    cases hcs c (by simp) with
    | @single b hb =>
      have hkana' : b = kana := by simpa using congrArg List.head? hreverse
      exact absurd (hkana' ▸ hb) (not_lt_of_isEucByte hkana.isEucByte)
    | double _ _ =>
      simp only [List.reverse_append, List.reverse_cons, List.reverse_nil, List.nil_append,
        List.cons_append, List.cons.injEq] at hreverse
      obtain ⟨rfl, rfl, -⟩ := hreverse
      exact Or.inl rfl
    | triple _ _ =>
      simp only [List.reverse_append, List.reverse_cons, List.reverse_nil, List.nil_append,
        List.cons_append, List.cons.injEq] at hreverse
      obtain ⟨rfl, rfl, -⟩ := hreverse
      exact Or.inr rfl

/-! ## Okuri-ari by bytes and by characters -/

/-- The headwords that the function takes for okuri-ari. -/
lemma isOkuriAri_flatten (hcs : ∀ c ∈ cs, IsEucCharacter c) :
    isOkuriAri cs.flatten = true ↔ IsOkuriAriMidashi cs ∨ EndsInTripleLikeHiragana cs := by
  constructor
  · intro h
    obtain ⟨text, kana, letter, htext, hkana, hletter⟩ := isOkuriAri_iff.mp h
    have hcut : cs.flatten = (text ++ [0xa4, kana]) ++ [letter] := by simp [htext]
    obtain ⟨front, rfl, hfront⟩ := eq_concat_of_flatten_eq hcs hletter.lt hcut
    have hchars : ∀ c ∈ front, IsEucCharacter c := by
      intro c hc
      exact hcs c (List.mem_append_left _ hc)
    obtain ⟨front', rfl | rfl⟩ := eq_concat_of_flatten_eq_hiragana hchars hkana hfront
    · exact Or.inl ⟨front', kana, letter, by simp, hkana, hletter⟩
    · exact Or.inr ⟨front', kana, letter, by simp, hkana, hletter⟩
  · rintro (⟨front, kana, letter, rfl, hkana, hletter⟩ |
      ⟨front, kana, letter, rfl, hkana, hletter⟩)
    · exact isOkuriAri_iff.mpr ⟨front.flatten, kana, letter, by simp, hkana, hletter⟩
    · exact isOkuriAri_iff.mpr ⟨front.flatten ++ [0x8f], kana, letter, by simp, hkana, hletter⟩

lemma not_isOkuriAriMidashi (h : EndsInTripleLikeHiragana cs) : ¬ IsOkuriAriMidashi cs := by
  rintro ⟨front, kana, letter, hcs, -, -⟩
  obtain ⟨front', kana', letter', hcs', -, -⟩ := h
  have hreverse := congrArg List.reverse (hcs.symm.trans hcs')
  simp at hreverse

/-- The bytes and the characters agree on whether a headword is okuri-ari, unless it ends in a
three-byte code that looks like a hiragana. -/
theorem isOkuriAri_flatten_iff (cs : List Bytes) (hcs : ∀ c ∈ cs, IsEucCharacter c) :
    (isOkuriAri cs.flatten = true ↔ IsOkuriAriMidashi cs) ↔ ¬ EndsInTripleLikeHiragana cs := by
  rw [isOkuriAri_flatten hcs]
  constructor
  · intro h hends
    exact not_isOkuriAriMidashi hends (h.mp (Or.inr hends))
  · intro h
    exact or_iff_left h

/-- The characters `か` and `k`. -/
theorem isOkuriAri_flatten_iff_kak :
    (∀ c ∈ ([[0xa4, 0xab], [0x6b]] : List Bytes), IsEucCharacter c) ∧
    ((isOkuriAri [0xa4, 0xab, 0x6b] = true ↔ IsOkuriAriMidashi [[0xa4, 0xab], [0x6b]]) ↔
      ¬ EndsInTripleLikeHiragana [[0xa4, 0xab], [0x6b]]) := by
  have hcs : ∀ c ∈ ([[0xa4, 0xab], [0x6b]] : List Bytes), IsEucCharacter c := by
    intro c hc
    rcases List.mem_cons.mp hc with rfl | hc
    · exact .double (Or.inr ⟨by decide, by decide⟩) ⟨by decide, by decide⟩
    · rw [List.mem_singleton.mp hc]
      exact .single (by decide)
  exact ⟨hcs, isOkuriAri_flatten_iff [[0xa4, 0xab], [0x6b]] hcs⟩

/-- The three-byte code `8f a4 a1` and `a`: taken for okuri-ari, though there is no hiragana. -/
theorem isOkuriAri_triple :
    ¬ ∀ cs : List Bytes, (∀ c ∈ cs, IsEucCharacter c) →
      (isOkuriAri cs.flatten = true ↔ IsOkuriAriMidashi cs) := by
  intro h
  have hcs : ∀ c ∈ ([[0x8f, 0xa4, 0xa1], [0x61]] : List Bytes), IsEucCharacter c := by
    intro c hc
    rcases List.mem_cons.mp hc with rfl | hc
    · exact .triple ⟨by decide, by decide⟩ ⟨by decide, by decide⟩
    · rw [List.mem_singleton.mp hc]
      exact .single (by decide)
  have hokuri := (h [[0x8f, 0xa4, 0xa1], [0x61]] hcs).mp rfl
  exact not_isOkuriAriMidashi ⟨[], 0xa1, 0x61, rfl, ⟨by decide, by decide⟩, by decide, by decide⟩
    hokuri

/-! ## The characters of any text -/

instance : DecidablePred IsEucByte := fun _ => inferInstanceAs (Decidable (_ ∧ _))

instance : DecidablePred IsHiraganaTrail := fun _ => inferInstanceAs (Decidable (_ ∧ _))

instance : DecidablePred IsLowercaseLetter := fun _ => inferInstanceAs (Decidable (_ ∧ _))

/-- Two bytes that are a character. -/
def IsDouble (lead trail : UInt8) : Prop := (lead = 0x8e ∨ IsEucByte lead) ∧ IsEucByte trail

instance (lead trail : UInt8) : Decidable (IsDouble lead trail) :=
  inferInstanceAs (Decidable (_ ∧ _))

/-- The characters of a text.  A byte that begins no character stands for itself. -/
def eucCharacters : Bytes → List Bytes
  | [] => []
  | [a] => [[a]]
  | [a, b] => if IsDouble a b then [[a, b]] else [[a], [b]]
  | a :: b :: c :: rest =>
    if a = 0x8f ∧ IsEucByte b ∧ IsEucByte c then [a, b, c] :: eucCharacters rest
    else if IsDouble a b then [a, b] :: eucCharacters (c :: rest)
    else [a] :: eucCharacters (b :: c :: rest)

lemma flatten_eucCharacters (text : Bytes) : (eucCharacters text).flatten = text := by
  induction text using eucCharacters.induct with
  | case1 => rfl
  | case2 a => rfl
  | case3 a b h => simp [eucCharacters, h]
  | case4 a b h => simp [eucCharacters, h]
  | case5 a b c rest h ih => rw [eucCharacters, if_pos h, List.flatten_cons, ih]; rfl
  | case6 a b c rest h h' ih =>
    rw [eucCharacters, if_neg h, if_pos h', List.flatten_cons, ih]
    rfl
  | case7 a b c rest h h' ih =>
    rw [eucCharacters, if_neg h, if_neg h', List.flatten_cons, ih]
    rfl

/-- A character at the front of a text is its first. -/
lemma IsEucCharacter.eucCharacters_append {c : Bytes} (hc : IsEucCharacter c) (rest : Bytes) :
    eucCharacters (c ++ rest) = c :: eucCharacters rest := by
  cases hc with
  | @single b hb =>
    have hlead : ∀ trail, ¬ IsDouble b trail := by
      rintro trail ⟨rfl | hlead, -⟩
      · exact absurd hb (by decide)
      · exact not_lt_of_isEucByte hlead hb
    have hthree : b ≠ 0x8f := by
      rintro rfl
      exact absurd hb (by decide)
    match rest with
    | [] => rfl
    | [trail] => simp [eucCharacters, hlead]
    | b₁ :: b₂ :: rest => simp [eucCharacters, hlead, hthree]
  | @double lead trail hlead htrail =>
    have hdouble : IsDouble lead trail := ⟨hlead, htrail⟩
    have hthree : lead ≠ 0x8f := by
      rintro rfl
      rcases hlead with hlead | hlead
      · exact absurd hlead (by decide)
      · exact absurd hlead.1 (by decide)
    cases rest with
    | nil => simp [eucCharacters, hdouble]
    | cons b rest => simp [eucCharacters, hdouble, hthree]
  | triple hmiddle htrail => simp [eucCharacters, hmiddle, htrail]

/-- The characters of a text that is made of characters are these. -/
lemma eucCharacters_flatten (hcs : ∀ c ∈ cs, IsEucCharacter c) : eucCharacters cs.flatten = cs := by
  induction cs with
  | nil => rfl
  | cons c cs ih =>
    obtain ⟨hc, hcs⟩ := List.forall_mem_cons.mp hcs
    rw [List.flatten_cons, hc.eucCharacters_append, ih hcs]

/-- What decides whether characters are an okuri-ari headword. -/
def endsInOkuri (cs : List Bytes) : Bool :=
  match cs.reverse with
  | [letter] :: [lead, kana] :: _ =>
    lead = 0xa4 ∧ IsHiraganaTrail kana ∧ IsLowercaseLetter letter
  | _ => false

lemma endsInOkuri_iff : endsInOkuri cs = true ↔ IsOkuriAriMidashi cs := by
  constructor
  · intro h
    unfold endsInOkuri at h
    split at h
    · rename_i letter lead kana front hcs
      obtain ⟨rfl, hkana, hletter⟩ := of_decide_eq_true h
      exact ⟨front.reverse, kana, letter, by simpa using congrArg List.reverse hcs, hkana, hletter⟩
    · exact absurd h Bool.false_ne_true
  · rintro ⟨front, kana, letter, rfl, hkana, hletter⟩
    simp [endsInOkuri, hkana, hletter]

instance : DecidablePred IsOkuriAriMidashi := fun _ => decidable_of_iff _ endsInOkuri_iff

/-- The bytes take every okuri-ari headword for one. -/
lemma isOkuriAri_of_isOkuriAriMidashi {midashi : Bytes}
    (h : IsOkuriAriMidashi (eucCharacters midashi)) : isOkuriAri midashi = true := by
  obtain ⟨front, kana, letter, hcs, hkana, hletter⟩ := h
  refine isOkuriAri_iff.mpr ⟨front.flatten, kana, letter, ?_, hkana, hletter⟩
  rw [← flatten_eucCharacters midashi, hcs]
  simp

end Yaskkserv2
