import Yaskkserv2.MakeDictionary.JisyoCreator
import Yaskkserv2.MakeDictionary.JisyoReader
import Yaskkserv2.Properties.CodeTexts

/-!
# The detected encoding of a written jisyo

The scan of `detect_encoding` cuts a text into characters of several bytes and single bytes
(`pieces`), and counts the characters and the bytes that are no ASCII.  The line that names the
encoding of a jisyo is looked at only where the two counts are close.  So a written jisyo is
detected as what it is exactly under `IsRecognized` (`detectEncoding_write_iff`): EUC codes that
look like characters of UTF-8 outweigh the first line.

Two kinds of entries are always recognized: in UTF-8 those of characters, none of them zero, without
the name of EUC (`isRecognized_utf8`), and in EUC those in which no byte looks like the first one of
a character with its second one behind it (`isRecognized_euc`).
-/

namespace Yaskkserv2

open Framework EncodingTable

/-! ## The pieces of a text -/

instance : DecidablePred IsMultibyte
  | [b₀, b₁] => inferInstanceAs (Decidable ((0xc2 ≤ b₀ ∧ b₀ ≤ 0xdf) ∧ isContinuation b₁))
  | [b₀, b₁, b₂] =>
    inferInstanceAs (Decidable
      ((0xe0 ≤ b₀ ∧ b₀ ≤ 0xef) ∧ isContinuation b₁ ∧ isContinuation b₂))
  | [b₀, b₁, b₂, b₃] =>
    inferInstanceAs (Decidable
      ((0xf0 ≤ b₀ ∧ b₀ ≤ 0xf7) ∧ isContinuation b₁ ∧ isContinuation b₂ ∧ isContinuation b₃))
  | [] => inferInstanceAs (Decidable False)
  | [_] => inferInstanceAs (Decidable False)
  | _ :: _ :: _ :: _ :: _ :: _ => inferInstanceAs (Decidable False)

/-- The number of bytes of the character of several bytes at the front of a text, or one. -/
def frontLength (text : Bytes) : ℕ :=
  if IsMultibyte (text.take 2) then 2
  else if IsMultibyte (text.take 3) then 3
  else if IsMultibyte (text.take 4) then 4
  else 1

lemma frontLength_pos (text : Bytes) : 0 < frontLength text := by
  unfold frontLength
  split_ifs <;> omega

/-- The characters of several bytes and the single bytes of a text, while four bytes are left. -/
def pieces (text : Bytes) : List Bytes :=
  if _h : 4 ≤ text.length then text.take (frontLength text) :: pieces (text.drop (frontLength text))
  else []
termination_by text.length
decreasing_by
  rw [List.length_drop]
  have := frontLength_pos text
  omega

/-- A byte that is no character of ASCII, the zero byte among them. -/
def IsStray (piece : Bytes) : Prop := ∃ b, piece = [b] ∧ ¬ (0x01 ≤ b ∧ b ≤ 0x7f)

instance : DecidablePred IsStray
  | [b] => decidable_of_iff (¬ (0x01 ≤ b ∧ b ≤ 0x7f)) (by simp [IsStray])
  | [] => isFalse (by simp [IsStray])
  | _ :: _ :: _ => isFalse (by simp [IsStray])

/-- How many characters of several bytes a text holds. -/
def characterCount (text : Bytes) : ℕ := (pieces text).countP fun piece => IsMultibyte piece

/-- How many bytes of a text are no part of a character. -/
def strayCount (text : Bytes) : ℕ := (pieces text).countP fun piece => IsStray piece

variable {text : Bytes}

lemma pieces_of_le (h : 4 ≤ text.length) :
    pieces text = text.take (frontLength text) :: pieces (text.drop (frontLength text)) := by
  rw [pieces, dif_pos h]

lemma pieces_of_lt (h : text.length < 4) : pieces text = [] := by
  rw [pieces, dif_neg (by omega)]

/-! ## The scan -/

/-- A turn of the scan takes a piece. -/
lemma scanUtf8_eq (b₀ b₁ b₂ b₃ : UInt8) (rest : Bytes) :
    scanUtf8 b₀ b₁ b₂ b₃ =
      (frontLength (b₀ :: b₁ :: b₂ :: b₃ :: rest),
        if IsMultibyte ((b₀ :: b₁ :: b₂ :: b₃ :: rest).take
          (frontLength (b₀ :: b₁ :: b₂ :: b₃ :: rest))) then 1 else 0,
        if IsStray ((b₀ :: b₁ :: b₂ :: b₃ :: rest).take
          (frontLength (b₀ :: b₁ :: b₂ :: b₃ :: rest))) then 1 else 0) := by
  have hlength : frontLength (b₀ :: b₁ :: b₂ :: b₃ :: rest) =
      if IsMultibyte [b₀, b₁] then 2 else if IsMultibyte [b₀, b₁, b₂] then 3
        else if IsMultibyte [b₀, b₁, b₂, b₃] then 4 else 1 := rfl
  have hscan : scanUtf8 b₀ b₁ b₂ b₃ =
      if IsMultibyte [b₀, b₁] then (2, 1, 0) else if IsMultibyte [b₀, b₁, b₂] then (3, 1, 0)
        else if IsMultibyte [b₀, b₁, b₂, b₃] then (4, 1, 0)
        else if 0x01 ≤ b₀ ∧ b₀ ≤ 0x7f then (1, 0, 0) else (1, 0, 1) := rfl
  have hstray (b : UInt8) : IsStray [b] ↔ ¬ (0x01 ≤ b ∧ b ≤ 0x7f) := by simp [IsStray]
  have hnotStray (b b' : UInt8) (rest : Bytes) : ¬ IsStray (b :: b' :: rest) := by simp [IsStray]
  have hsingle : ¬ IsMultibyte [b₀] := id
  rw [hscan, hlength]
  by_cases h2 : IsMultibyte [b₀, b₁]
  · rw [if_pos h2, if_pos h2, List.take_succ_cons, List.take_succ_cons, List.take_zero, if_pos h2,
      if_neg (hnotStray b₀ b₁ [])]
  · rw [if_neg h2, if_neg h2]
    by_cases h3 : IsMultibyte [b₀, b₁, b₂]
    · rw [if_pos h3, if_pos h3, List.take_succ_cons, List.take_succ_cons, List.take_succ_cons,
        List.take_zero, if_pos h3, if_neg (hnotStray b₀ b₁ [b₂])]
    · rw [if_neg h3, if_neg h3]
      by_cases h4 : IsMultibyte [b₀, b₁, b₂, b₃]
      · rw [if_pos h4, if_pos h4, List.take_succ_cons, List.take_succ_cons, List.take_succ_cons,
          List.take_succ_cons, List.take_zero, if_pos h4, if_neg (hnotStray b₀ b₁ [b₂, b₃])]
      · rw [if_neg h4, if_neg h4, List.take_succ_cons, List.take_zero, if_neg hsingle]
        by_cases hascii : 0x01 ≤ b₀ ∧ b₀ ≤ 0x7f
        · rw [if_pos hascii, if_neg (fun h => (hstray b₀).mp h hascii)]
        · rw [if_neg hascii, if_pos ((hstray b₀).mpr hascii)]

lemma exists_cons_of_le (h : 4 ≤ text.length) :
    ∃ b₀ b₁ b₂ b₃ rest, text = b₀ :: b₁ :: b₂ :: b₃ :: rest := by
  rcases text with _ | ⟨b₀, _ | ⟨b₁, _ | ⟨b₂, _ | ⟨b₃, rest⟩⟩⟩⟩
  all_goals first | exact ⟨_, _, _, _, _, rfl⟩ | simp at h

lemma frontLength_le (h : 4 ≤ text.length) : frontLength text ≤ text.length := by
  unfold frontLength
  split_ifs <;> omega

/-- The scan counts the pieces of what is ahead of it. -/
lemma detectLoop_eq {buffer : Bytes} {fuel i : ℕ} {valid invalid : ℤ} (hi : i ≤ buffer.length)
    (hfuel : buffer.length < i + fuel) :
    detectLoop buffer fuel i valid invalid =
      .ok (valid + characterCount (buffer.drop i), invalid + strayCount (buffer.drop i)) := by
  induction fuel generalizing i valid invalid with
  | zero => omega
  | succ fuel ih =>
    rw [detectLoop]
    by_cases hmore : i < buffer.length - 3
    · have hlength : 4 ≤ (buffer.drop i).length := by
        rw [List.length_drop]
        omega
      obtain ⟨b₀, b₁, b₂, b₃, rest, hdrop⟩ : ∃ b₀ b₁ b₂ b₃ rest,
          buffer.drop i = b₀ :: b₁ :: b₂ :: b₃ :: rest := exists_cons_of_le hlength
      have hindex (k : ℕ) (b : UInt8) (hb : (b₀ :: b₁ :: b₂ :: b₃ :: rest)[k]? = some b) :
          (index buffer (i + k) : Result UInt8) = .ok b := by
        rw [index_eq_ok, ← List.getElem?_drop, hdrop, hb]
      have hfirst : (index buffer i : Result UInt8) = .ok b₀ := hindex 0 b₀ rfl
      have hnext := frontLength_le hlength
      rw [if_pos hmore, hfirst, Outcome.ok_bind, hindex 1 b₁ rfl, Outcome.ok_bind,
        hindex 2 b₂ rfl, Outcome.ok_bind, hindex 3 b₃ rfl, Outcome.ok_bind,
        scanUtf8_eq b₀ b₁ b₂ b₃ rest, ← hdrop]
      dsimp only
      rw [ih (by rw [List.length_drop] at hnext; omega)
        (by have := frontLength_pos (buffer.drop i); omega), ← List.drop_drop]
      rw [characterCount, strayCount, characterCount, strayCount, pieces_of_le hlength,
        List.countP_cons, List.countP_cons]
      simp only [decide_eq_true_eq]
      congr 2
      · split <;> push_cast <;> ring
      · split <;> push_cast <;> ring
    · rw [if_neg hmore]
      have hshort : (buffer.drop i).length < 4 := by
        rw [List.length_drop]
        omega
      rw [characterCount, strayCount, pieces_of_lt hshort]
      simp

/-! ## A written jisyo -/

/-- The part of a written jisyo that `detect_jisyo_encoding` reads. -/
def writtenHead (encoding : Encoding) (okuriAriMap okuriNasiMap : JisyoEntriesMap) : Bytes :=
  (JisyoCreator.write encoding okuriAriMap okuriNasiMap).take JISYO_ENCODING_DETECT_BUFFER_LENGTH

/-- When a text is detected as what its first line says: an EUC text has fewer characters of UTF-8
than a hundredth of its length above its other bytes; a UTF-8 text has that many of them, or not so
many other bytes and nowhere the name of EUC. -/
def IsRecognized (encoding : Encoding) (text : Bytes) : Prop :=
  match encoding with
  | .Euc => characterCount text < strayCount text + text.length / 100
  | .Utf8 =>
    strayCount text + text.length / 100 ≤ characterCount text ∨
      (strayCount text < characterCount text + text.length / 100 ∧
        ¬ ascii "coding: euc-" <:+: text)

lemma isSome_find_iff {p : Bytes} : (find p text).isSome = true ↔ p <:+: text := by
  rw [← not_iff_not, ← find_eq_none_iff_not_isInfix]
  cases find p text <;> simp

/-- What is detected of a text without a byte order mark. -/
lemma detectEncoding_eq (hlength : 3 ≤ text.length) (hbom : text.take 3 ≠ [0xef, 0xbb, 0xbf]) :
    detectEncoding text =
      if |(characterCount text : ℤ) - strayCount text| < (text.length : ℤ) / 100 then
        if ascii "coding: euc-" <:+: text then .ok (.Euc, .None)
        else if ascii "coding: utf-8" <:+: text then .ok (.Utf8, .None)
        else if (characterCount text : ℤ) ≤ min 1000 ((text.length : ℤ) / 1000) ∧
            (strayCount text : ℤ) ≤ min 1000 ((text.length : ℤ) / 1000) then .ok (.Euc, .None)
        else .error .encoding
      else if (characterCount text : ℤ) > strayCount text then .ok (.Utf8, .None)
      else .ok (.Euc, .None) := by
  have hloop : detectLoop text (text.length + 1) 0 0 0 =
      .ok ((characterCount text : ℤ), (strayCount text : ℤ)) := by
    rw [detectLoop_eq (Nat.zero_le _) (by omega), List.drop_zero, zero_add, zero_add]
  rw [detectEncoding, if_neg (fun h => hbom h.2), checkedSub, if_pos hlength]
  simp only [Outcome.ok_bind, Outcome.pure_eq, hloop, isSome_find_iff]

section Written

variable (encoding : Encoding) (okuriAriMap okuriNasiMap : JisyoEntriesMap)

lemma cookie_isPrefix :
    JisyoCreator.cookie encoding <+: writtenHead encoding okuriAriMap okuriNasiMap := by
  rw [writtenHead, List.prefix_take_iff, JisyoCreator.write]
  refine ⟨List.prefix_append _ _, ?_⟩
  cases encoding <;> decide +kernel

/-- The comments alone are long enough for the counts to differ by something. -/
lemma le_length_writtenHead :
    100 ≤ (writtenHead encoding okuriAriMap okuriNasiMap).length := by
  have hcookie : 40 ≤ (JisyoCreator.cookie encoding).length := by
    cases encoding <;> decide +kernel
  have hcomments : (ascii ";; yaskkserv2 dictionary\n").length = 25 ∧
      (ascii ";; okuri-ari entries.\n").length = 22 ∧
      (ascii ";; okuri-nasi entries.\n").length = 23 := by decide +kernel
  rw [writtenHead, List.length_take, JisyoCreator.write]
  simp only [List.length_append, hcomments, JISYO_ENCODING_DETECT_BUFFER_LENGTH]
  omega

lemma take_three_writtenHead :
    (writtenHead encoding okuriAriMap okuriNasiMap).take 3 = [SEMICOLON, SEMICOLON, SP] := by
  obtain ⟨rest, hrest⟩ := cookie_isPrefix encoding okuriAriMap okuriNasiMap
  rw [← hrest]
  cases encoding <;> rfl

lemma euc_isInfix : ascii "coding: euc-" <:+: writtenHead .Euc okuriAriMap okuriNasiMap := by
  have hcookie : ascii "coding: euc-" <:+: JisyoCreator.cookie .Euc := by decide +kernel
  exact hcookie.trans (cookie_isPrefix .Euc okuriAriMap okuriNasiMap).isInfix

lemma utf8_isInfix : ascii "coding: utf-8" <:+: writtenHead .Utf8 okuriAriMap okuriNasiMap := by
  have hcookie : ascii "coding: utf-8" <:+: JisyoCreator.cookie .Utf8 := by decide +kernel
  exact hcookie.trans (cookie_isPrefix .Utf8 okuriAriMap okuriNasiMap).isInfix

/-- A written jisyo is detected as what it is exactly where it is recognized. -/
theorem detectEncoding_write_iff :
    detectEncoding (writtenHead encoding okuriAriMap okuriNasiMap) = .ok (encoding, .None) ↔
      IsRecognized encoding (writtenHead encoding okuriAriMap okuriNasiMap) := by
  have hlength := le_length_writtenHead encoding okuriAriMap okuriNasiMap
  have hbom : (writtenHead encoding okuriAriMap okuriNasiMap).take 3 ≠ [0xef, 0xbb, 0xbf] := by
    rw [take_three_writtenHead]
    decide
  rw [detectEncoding_eq (by omega) hbom]
  unfold IsRecognized
  generalize characterCount (writtenHead encoding okuriAriMap okuriNasiMap) = valid
  generalize strayCount (writtenHead encoding okuriAriMap okuriNasiMap) = invalid
  cases encoding with
  | Euc =>
    have hname := euc_isInfix okuriAriMap okuriNasiMap
    generalize writtenHead .Euc okuriAriMap okuriNasiMap = text at *
    rw [if_pos hname]
    dsimp only
    split_ifs with hclose hmore
    all_goals rw [abs_lt] at hclose
    · simp only [true_iff]
      omega
    · simp only [Outcome.ok.injEq, Prod.mk.injEq, reduceCtorEq, false_and, false_iff]
      omega
    · simp only [true_iff]
      omega
  | Utf8 =>
    have hname := utf8_isInfix okuriAriMap okuriNasiMap
    generalize writtenHead .Utf8 okuriAriMap okuriNasiMap = text at *
    rw [if_pos hname]
    dsimp only
    split_ifs with hclose heuc hmore
    all_goals rw [abs_lt] at hclose
    · simp only [heuc, not_true_eq_false, and_false, or_false, Outcome.ok.injEq, Prod.mk.injEq,
        reduceCtorEq, false_and, false_iff]
      omega
    · simp only [heuc, not_false_eq_true, and_true, true_iff]
      omega
    · simp only [true_iff]
      omega
    · simp only [Outcome.ok.injEq, Prod.mk.injEq, reduceCtorEq, false_and, false_iff, not_or]
      omega

end Written

/-! ## Texts of characters -/

lemma length_of_isMultibyte {c : Bytes} (h : IsMultibyte c) : 2 ≤ c.length ∧ c.length ≤ 4 := by
  rcases h.cases with ⟨b₀, b₁, rfl, -⟩ | ⟨b₀, b₁, b₂, rfl, -⟩ | ⟨b₀, b₁, b₂, b₃, rfl, -⟩ <;> simp

/-- A character at the front of a text is its first piece. -/
lemma frontLength_append {c : Bytes} (h : IsCharacter c) (rest : Bytes) :
    frontLength (c ++ rest) = c.length := by
  have heq (k : ℕ) (hk : IsMultibyte ((c ++ rest).take k)) : (c ++ rest).take k = c := by
    have hcut : (c ++ rest).take k ++ (c ++ rest).drop k = c ++ rest := List.take_append_drop k _
    exact (IsCharacter.append_inj (Or.inr hk) h hcut).1
  have hfront (k : ℕ) (hk : IsMultibyte ((c ++ rest).take k)) :
      IsMultibyte c ∧ 2 ≤ c.length ∧ c.length ≤ k := by
    have hc : IsMultibyte c := heq k hk ▸ hk
    have hle := List.length_take_le k (c ++ rest)
    rw [heq k hk] at hle
    exact ⟨hc, (length_of_isMultibyte hc).1, hle⟩
  have hne (k : ℕ) (hk : ¬ IsMultibyte ((c ++ rest).take k)) (hc : IsMultibyte c) :
      c.length ≠ k := by
    rintro rfl
    exact hk (by rwa [List.take_left])
  unfold frontLength
  split_ifs with h2 h3 h4
  · obtain ⟨-, hlower, hupper⟩ := hfront 2 h2
    omega
  · obtain ⟨hc, hlower, hupper⟩ := hfront 3 h3
    have := hne 2 h2 hc
    omega
  · obtain ⟨hc, hlower, hupper⟩ := hfront 4 h4
    have := hne 2 h2 hc
    have := hne 3 h3 hc
    omega
  · rcases h with ⟨b, -, rfl⟩ | hc
    · rfl
    · have := length_of_isMultibyte hc
      have := hne 2 h2 hc
      have := hne 3 h3 hc
      have := hne 4 h4 hc
      omega

lemma not_isStray {c : Bytes} (h : IsCharacter c) (hne : c ≠ [0]) : ¬ IsStray c := by
  rintro ⟨b, rfl, hb⟩
  rcases h with ⟨b', hb', heq⟩ | hc
  · obtain rfl : b = b' := by simpa using heq
    refine hb ⟨?_, hb'⟩
    rw [UInt8.le_iff_toNat_le]
    by_contra hzero
    have hb0 : b.toNat = 0 := by
      change ¬ 1 ≤ b.toNat at hzero
      omega
    exact hne (by rw [UInt8.toNat_inj.mp (hb0.trans rfl : b.toNat = (0 : UInt8).toNat)])
  · exact absurd (length_of_isMultibyte hc).1 (by simp)

/-- A text of characters has no stray bytes but its zero bytes. -/
lemma strayCount_take_flatten {cs : List Bytes} (h : ∀ c ∈ cs, IsCharacter c ∧ c ≠ [0]) (n : ℕ) :
    strayCount (cs.flatten.take n) = 0 := by
  induction cs generalizing n with
  | nil => simp [strayCount, pieces_of_lt]
  | cons c cs ih =>
    obtain ⟨hc, hzero⟩ := h c List.mem_cons_self
    have hcs : ∀ c ∈ cs, IsCharacter c ∧ c ≠ [0] := fun c' hc' => h c' (List.mem_cons_of_mem c hc')
    by_cases hlength : 4 ≤ ((c :: cs).flatten.take n).length
    · have hcn : c.length ≤ n := by
        have hlen : c.length ≤ 4 := by
          rcases hc with ⟨b, -, rfl⟩ | hc
          · simp
          · exact (length_of_isMultibyte hc).2
        rw [List.length_take] at hlength
        omega
      have hcut : (c :: cs).flatten.take n = c ++ cs.flatten.take (n - c.length) := by
        rw [List.flatten_cons, List.take_append, List.take_of_length_le hcn]
      rw [hcut] at hlength ⊢
      rw [strayCount, pieces_of_le hlength, frontLength_append hc, List.take_left, List.drop_left,
        List.countP_cons_of_neg (by simpa using not_isStray hc hzero)]
      exact ih hcs (n - c.length)
    · rw [strayCount, pieces_of_lt (by omega), List.countP_nil]

/-- A jisyo in UTF-8 is recognized, unless it holds a zero byte or the name of EUC. -/
theorem isRecognized_utf8 {okuriAriMap okuriNasiMap : JisyoEntriesMap} {cs : List Bytes}
    (hcs : ∀ c ∈ cs, IsCharacter c ∧ c ≠ [0])
    (hwritten : JisyoCreator.write .Utf8 okuriAriMap okuriNasiMap = cs.flatten)
    (hname : ¬ ascii "coding: euc-" <:+: writtenHead .Utf8 okuriAriMap okuriNasiMap) :
    IsRecognized .Utf8 (writtenHead .Utf8 okuriAriMap okuriNasiMap) := by
  have hlength := le_length_writtenHead .Utf8 okuriAriMap okuriNasiMap
  have hstray : strayCount (writtenHead .Utf8 okuriAriMap okuriNasiMap) = 0 := by
    rw [writtenHead, hwritten]
    exact strayCount_take_flatten hcs _
  rw [IsRecognized, hstray]
  right
  exact ⟨by omega, hname⟩

/-! ## Texts without characters of UTF-8 -/

/-- Nowhere in a text do two bytes look like the first two of a character of several bytes.  So it
is with texts of EUC codes whose bytes are below `c2`, and with codes that begin below it and stand
one by one between characters of ASCII. -/
def IsUnlikeUtf8 (text : Bytes) : Prop :=
  text.IsChain fun b b' => ¬ (0xc2 ≤ b ∧ isContinuation b' = true)

/-- A character of several bytes begins with two such bytes. -/
lemma IsUnlikeUtf8.not_isMultibyte_take (h : IsUnlikeUtf8 text) (n : ℕ) :
    ¬ IsMultibyte (text.take n) := by
  intro hmultibyte
  have htake : IsUnlikeUtf8 (text.take n) := List.IsChain.take h n
  rcases hmultibyte.cases with ⟨b₀, b₁, heq, hlead, hnext⟩ | ⟨b₀, b₁, b₂, heq, hlead, hnext, -⟩ |
    ⟨b₀, b₁, b₂, b₃, heq, hlead, hnext, -⟩
  all_goals
    rw [heq] at htake
    exact (List.isChain_cons_cons.mp htake).1
      ⟨UInt8.le_trans (by decide : (0xc2 : UInt8) ≤ _) hlead.1, hnext⟩

lemma IsUnlikeUtf8.characterCount_eq_zero (h : IsUnlikeUtf8 text) : characterCount text = 0 := by
  rw [characterCount]
  induction text using pieces.induct with
  | case1 text hlength ih =>
    rw [pieces_of_le hlength, List.countP_cons_of_neg (by simpa using h.not_isMultibyte_take _)]
    exact ih (List.IsChain.drop h _)
  | case2 text hlength => rw [pieces_of_lt (by omega), List.countP_nil]

/-- Texts are put together at a character of ASCII. -/
lemma IsUnlikeUtf8.append_cons {x y : Bytes} (hx : IsUnlikeUtf8 x) {d : UInt8} (hd : d ≤ 0x7f)
    (hy : IsUnlikeUtf8 y) : IsUnlikeUtf8 (x ++ d :: y) := by
  have hlead : ¬ 0xc2 ≤ d := fun h => absurd (UInt8.le_trans h hd) (by decide)
  have hnext : isContinuation d ≠ true := by
    intro h
    simp only [isContinuation, Bool.and_eq_true, decide_eq_true_eq] at h
    exact absurd (UInt8.le_trans h.1 hd) (by decide)
  refine List.IsChain.append hx (List.IsChain.cons hy fun b _ hb => hlead hb.1) fun b _ b' hb' => ?_
  rw [List.head?_cons, Option.mem_some_iff] at hb'
  subst hb'
  exact fun hb => hnext hb.2

lemma IsUnlikeUtf8.ascii_append {x y : Bytes} (hx : ∀ b ∈ x, b ≤ 0x7f) (hy : IsUnlikeUtf8 y) :
    IsUnlikeUtf8 (x ++ y) := by
  induction x with
  | nil => exact hy
  | cons b x ih =>
    obtain ⟨hb, hx⟩ := List.forall_mem_cons.mp hx
    exact IsUnlikeUtf8.append_cons .nil hb (ih hx)

lemma IsUnlikeUtf8.flatMap_writeEntry {ps : List (Bytes × Bytes)}
    (hps : ∀ p ∈ ps, IsUnlikeUtf8 p.1 ∧ IsUnlikeUtf8 p.2) {y : Bytes} (hy : IsUnlikeUtf8 y) :
    IsUnlikeUtf8 (ps.flatMap JisyoCreator.writeEntry ++ y) := by
  induction ps with
  | nil => exact hy
  | cons p ps ih =>
    obtain ⟨⟨hmidashi, hcandidates⟩, hps⟩ := List.forall_mem_cons.mp hps
    have hentry : (p :: ps).flatMap JisyoCreator.writeEntry ++ y =
        p.1 ++ SP :: (p.2 ++ LF :: (ps.flatMap JisyoCreator.writeEntry ++ y)) := by
      simp [JisyoCreator.writeEntry, DictionaryCreator.entryLine]
    rw [hentry]
    exact hmidashi.append_cons (by decide) (hcandidates.append_cons (by decide) (ih hps))

/-- A jisyo in EUC is recognized if nothing in its entries looks like a character of UTF-8. -/
theorem isRecognized_euc {okuriAriMap okuriNasiMap : JisyoEntriesMap}
    (hari : ∀ p ∈ okuriAriMap.toList, IsUnlikeUtf8 p.1 ∧ IsUnlikeUtf8 p.2)
    (hnasi : ∀ p ∈ okuriNasiMap.toList, IsUnlikeUtf8 p.1 ∧ IsUnlikeUtf8 p.2) :
    IsRecognized .Euc (writtenHead .Euc okuriAriMap okuriNasiMap) := by
  have hlength := le_length_writtenHead .Euc okuriAriMap okuriNasiMap
  have hentries := IsUnlikeUtf8.flatMap_writeEntry hnasi .nil
  rw [List.append_nil] at hentries
  have hwritten : IsUnlikeUtf8 (JisyoCreator.write .Euc okuriAriMap okuriNasiMap) :=
    .ascii_append (by decide +kernel) <| .ascii_append (by decide +kernel) <|
      .ascii_append (by decide +kernel) <|
        .flatMap_writeEntry (fun p hp => hari p (List.mem_reverse.mp hp)) <|
          .ascii_append (by decide +kernel) hentries
  have hcount : characterCount (writtenHead .Euc okuriAriMap okuriNasiMap) = 0 :=
    IsUnlikeUtf8.characterCount_eq_zero (List.IsChain.take hwritten _)
  rw [IsRecognized, hcount]
  omega

/-! ## A jisyo that is taken for UTF-8 -/

/-- A text of characters of the table, in either encoding. -/
def IsTableText : Encoding → Bytes → Prop
  | .Euc, text => ∃ es : List Bytes, (∀ e ∈ es, IsListedCode e) ∧ text = es.flatten
  | .Utf8, text => ∃ cs : List Bytes, IsRepertoireText cs ∧ text = cs.flatten

def IsTableMap (encoding : Encoding) (m : JisyoEntriesMap) : Prop :=
  ∀ p ∈ m.toList, IsTableText encoding p.1 ∧ IsTableText encoding p.2

/-- The entry of `a`, with the one candidate U+8463. -/
def entryOfA : JisyoEntriesMap := (∅ : JisyoEntriesMap).insert [0x61] [SLASH, 0xc6, 0xa1, SLASH]

lemma mem_eucUtf8_c6a1 : 0xc6a100e891a300 ∈ (eucUtf8.drop 3000).take 1000 := by decide +kernel

lemma isListedCode_ascii {b : UInt8} (hb : b ≤ 0x7f) : IsListedCode [b] := ⟨_, .ascii hb⟩

lemma isListedCode_c6a1 : IsListedCode [0xc6, 0xa1] := by
  have hmem := List.mem_of_mem_drop (List.mem_of_mem_take mem_eucUtf8_c6a1)
  exact ⟨_, .character ⟨by decide, by decide⟩ (List.mem_map.mpr ⟨_, hmem, rfl⟩)⟩

lemma isTableMap_entryOfA : IsTableMap .Euc entryOfA := by
  have hlist : entryOfA.toList = [([0x61], [SLASH, 0xc6, 0xa1, SLASH])] := rfl
  intro p hp
  rw [hlist, List.mem_singleton] at hp
  subst hp
  constructor
  · exact ⟨[[0x61]], by simpa using isListedCode_ascii (by decide), rfl⟩
  · refine ⟨[[SLASH], [0xc6, 0xa1], [SLASH]], ?_, rfl⟩
    have hslash : IsListedCode [SLASH] := isListedCode_ascii (by decide)
    simp [hslash, isListedCode_c6a1]

/-- A jisyo of one entry, in EUC, is taken for UTF-8. -/
theorem detectEncoding_write_entryOfA :
    ¬ ∀ (encoding : Encoding) (okuriAriMap okuriNasiMap : JisyoEntriesMap),
      IsTableMap encoding okuriAriMap → IsTableMap encoding okuriNasiMap →
      detectEncoding (writtenHead encoding okuriAriMap okuriNasiMap) = .ok (encoding, .None) := by
  intro h
  have hempty : IsTableMap .Euc ∅ := by
    intro p hp
    exact absurd hp List.not_mem_nil
  have hdetect := h .Euc ∅ entryOfA hempty isTableMap_entryOfA
  exact absurd hdetect (by decide +kernel)

end Yaskkserv2
