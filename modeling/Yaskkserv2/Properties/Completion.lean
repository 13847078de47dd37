import Yaskkserv2.Properties.Delimiters
import Yaskkserv2.Properties.ExactLookup

/-!
# Completion

A request `4midashi ` asks for the midashi that begin with a prefix.  The extensions of a prefix
form an interval of the entries of its key, so they lie in one unit or in several that follow one
another, and a walk from unit to unit finds all of them.

The walk starts at the unit that an exact look-up of the prefix would search, and ends there if that
unit has nothing to offer.  So it misses completions that all lie in later units: it is complete
exactly when no unit but the first begins after the prefix and at or before the first completion.

Two things are lost on the way to the reply.  The walk drops what it takes for okuri-ari by its last
bytes, and a UTF-8 reply is converted as a whole, so that a midashi that ends in the middle of a
character takes the slash before the next one for its second byte.  Where neither happens the reply
is the list of the completions (`readAbbrev_isComplete`).
-/

namespace Yaskkserv2

open Framework Dictionary DictionaryCreator

namespace DictionaryReader

/-! ## What is asked for -/

/-- The completions of a prefix among some midashi: those that begin with it and are not
okuri-ari. -/
def completionsOf (midashi : Bytes) (words : List Bytes) : List Bytes :=
  words.filter fun word => midashi <+: word ∧ ¬ IsOkuriAriMidashi (eucCharacters word)

/-- A completion as a reply shows it: quoted, and converted on its own. -/
def shownWord (t : EncodingTables) (encoding : Encoding) (word : Bytes) : Bytes :=
  if encoding = .Utf8 then Euc.decoded t (Candidates.quote word) else Candidates.quote word

/-- The reply that lists some completions. -/
def completionReply (t : EncodingTables) (encoding : Encoding) (words : List Bytes) : Bytes :=
  if words = [] then [0x31] else [0x31] ++ delimited SLASH (words.map (shownWord t encoding))

lemma completionReply_eq_iff {t : EncodingTables} {encoding : Encoding} {words : List Bytes} :
    completionReply t encoding words = [0x31] ↔ words = [] := by
  unfold completionReply
  split
  · rename_i h
    simp [h]
  · rename_i h
    simp [h, delimited_ne_nil]

/-! ## What is found -/

/-- What the walk collects: it tells okuri-ari by the last bytes. -/
def collectedOf (midashi : Bytes) (words : List Bytes) : List Bytes :=
  words.filter fun word => midashi <+: word ∧ isOkuriAri word = false

/-- Completions as they are written one behind the other. -/
def quoted (words : List Bytes) : Bytes :=
  words.flatMap fun word => Candidates.quoteAndAddPrefix word (some SLASH)

/-- What is written of the completions that were found: in UTF-8 they are converted together. -/
def abbrevReply (t : EncodingTables) (encoding : Encoding) (words : List Bytes) : Bytes :=
  if words = [] then [0x31]
  else if encoding = .Utf8 then Euc.decoded t ([0x31] ++ quoted words) ++ [SLASH]
  else [0x31] ++ quoted words ++ [SLASH]

/-- Every okuri-ari midashi is taken for one. -/
lemma collectedOf_eq_filter (midashi : Bytes) (words : List Bytes) :
    collectedOf midashi words =
      (completionsOf midashi words).filter fun word => isOkuriAri word = false := by
  rw [completionsOf, List.filter_filter, collectedOf]
  refine List.filter_congr fun word _ => ?_
  rw [← Bool.decide_and, decide_eq_decide]
  constructor
  · rintro ⟨hstart, hokuri⟩
    refine ⟨hokuri, hstart, fun h => ?_⟩
    rw [isOkuriAri_of_isOkuriAriMidashi h] at hokuri
    exact Bool.noConfusion hokuri
  · exact fun h => ⟨h.2.1, h.1⟩

lemma mem_completionsOf {midashi word : Bytes} {words : List Bytes} :
    word ∈ completionsOf midashi words ↔
      word ∈ words ∧ midashi <+: word ∧ ¬ IsOkuriAriMidashi (eucCharacters word) := by
  rw [completionsOf, List.mem_filter, decide_eq_true_eq]

@[simp] lemma collectedOf_nil (midashi : Bytes) : collectedOf midashi [] = [] := rfl

lemma collectedOf_append (midashi : Bytes) (words words' : List Bytes) :
    collectedOf midashi (words ++ words') =
      collectedOf midashi words ++ collectedOf midashi words' := List.filter_append ..

lemma collectedOf_eq_nil {midashi : Bytes} {words : List Bytes}
    (h : ∀ word ∈ words, ¬ midashi <+: word) : collectedOf midashi words = [] := by
  rw [collectedOf, List.filter_eq_nil_iff]
  intro word hword hcompletes
  exact h word hword (of_decide_eq_true hcompletes).1

lemma mem_collectedOf {midashi word : Bytes} {words : List Bytes} :
    word ∈ collectedOf midashi words ↔
      word ∈ words ∧ midashi <+: word ∧ isOkuriAri word = false := by
  rw [collectedOf, List.mem_filter, decide_eq_true_eq]

@[simp] lemma quoted_nil : quoted [] = [] := rfl

@[simp] lemma quoted_append (words words' : List Bytes) :
    quoted (words ++ words') = quoted words ++ quoted words' := List.flatMap_append

lemma quoted_cons (word : Bytes) (words : List Bytes) :
    quoted (word :: words) = Candidates.quoteAndAddPrefix word (some SLASH) ++ quoted words :=
  List.flatMap_cons

/-- A reply with completions is longer than the one without. -/
lemma abbrevReply_eq_iff {t : EncodingTables} {encoding : Encoding} {words : List Bytes} :
    abbrevReply t encoding words = [0x31] ↔ words = [] := by
  unfold abbrevReply
  have hone : ∀ text, Euc.decoded t (0x31 :: text) = 0x31 :: Euc.decoded t text :=
    fun text => Euc.decoded_ascii t (by decide) text
  split
  · rename_i h
    simp [h]
  · rename_i h
    split <;> simp [h, hone]

/-- Completions are shown word by word where all but the last are made of whole characters: none
runs into the next one when they are converted together. -/
lemma abbrevReply_eq_completionReply {t : EncodingTables} {encoding : Encoding} {words : List Bytes}
    (hwords : encoding = .Utf8 → ∀ word ∈ words.dropLast, Euc.IsEucText word) :
    abbrevReply t encoding words = completionReply t encoding words := by
  have hquoted : quoted words = words.flatMap fun word => SLASH :: Candidates.quote word :=
    List.flatMap_congr fun word _ => Candidates.quoteAndAddPrefix_some word SLASH
  rw [abbrevReply, completionReply]
  split
  · rfl
  rename_i hne
  rw [← flatMap_cons_append, List.flatMap_map, hquoted]
  split
  · rename_i hutf8
    have hcons : ∀ {b : UInt8} (text : Bytes), b ≤ 0x7f →
        Euc.decoded t (b :: text) = b :: Euc.decoded t text :=
      fun text hb => Euc.decoded_ascii t hb text
    have hshown : Euc.decoded t (words.flatMap fun word => SLASH :: Candidates.quote word) =
        words.flatMap fun word => SLASH :: shownWord t encoding word := by
      have hall := hwords hutf8
      clear hne hwords hquoted
      induction words with
      | nil => exact translit_nil _
      | cons word words ih =>
        cases words with
        | nil =>
          rw [List.flatMap_singleton, List.flatMap_singleton, hcons _ (by decide), shownWord,
            if_pos hutf8]
        | cons next words =>
          obtain ⟨hword, hall⟩ := List.forall_mem_cons.mp hall
          have hrest := ih hall
          generalize next :: words = rest at hrest
          rw [List.flatMap_cons, List.cons_append, hcons _ (by decide),
            hword.quote.decoded_append, hrest, List.flatMap_cons, shownWord, if_pos hutf8,
            List.cons_append]
    rw [List.singleton_append, hcons _ (by decide), hshown, List.cons_append,
      List.singleton_append]
  · rename_i heuc
    have hshown : ∀ word, shownWord t encoding word = Candidates.quote word := fun _ => if_neg heuc
    simp only [hshown, List.append_assoc]

/-- In EUC the reply tells its completions. -/
lemma completionReply_inj {t : EncodingTables} {words words' : List Bytes}
    (hwords : ∀ word ∈ words, ∀ b ∈ word, ¬ (b = CR ∨ b = LF))
    (hwords' : ∀ word ∈ words', ∀ b ∈ word, ¬ (b = CR ∨ b = LF))
    (h : completionReply t .Euc words = completionReply t .Euc words') : words = words' := by
  by_cases hnil : words = []
  · rw [hnil] at h ⊢
    exact (completionReply_eq_iff.mp h.symm).symm
  by_cases hnil' : words' = []
  · rw [hnil'] at h ⊢
    exact completionReply_eq_iff.mp h
  have hshown : shownWord t .Euc = Candidates.quote := rfl
  have hslash : ∀ {words : List Bytes}, ∀ x ∈ words.map Candidates.quote, SLASH ∉ x := by
    intro words x hx
    obtain ⟨word, -, rfl⟩ := List.mem_map.mp hx
    exact Candidates.not_mem_quote (.inr (.inr (.inr rfl))) word
  rw [completionReply, if_neg hnil, completionReply, if_neg hnil', hshown] at h
  have hquotes := delimited_inj hslash hslash (List.append_cancel_left h)
  clear h hnil hnil'
  induction words generalizing words' with
  | nil => exact (List.map_eq_nil_iff.mp hquotes.symm).symm
  | cons word words ih =>
    obtain ⟨word', rest, rfl, hword, hrest⟩ := List.map_eq_cons_iff.mp hquotes.symm
    obtain ⟨hfirst, hwords⟩ := List.forall_mem_cons.mp hwords
    obtain ⟨hfirst', hwords'⟩ := List.forall_mem_cons.mp hwords'
    rw [Candidates.quote_injective hfirst hfirst' hword.symm, ih hwords hwords' hrest.symm]

/-! ## A unit -/

/-- The midashi of some entries. -/
abbrev midashiOf (es : List Entry) : List Bytes := es.map (·.midashi)

lemma midashiOf_append (es fs : List Entry) :
    midashiOf (es ++ fs) = midashiOf es ++ midashiOf fs := List.map_append

/-- An entry begins with a prefix without space when its midashi does. -/
lemma prefix_text_append_iff {midashi : Bytes} (hmidashi : SP ∉ midashi) (e : Entry)
    (rest : Bytes) : midashi <+: e.text ++ rest ↔ midashi <+: e.midashi := by
  rw [Entry.text, List.append_assoc, List.cons_append]
  exact prefix_append_cons_iff hmidashi

section Unit

variable {midashi : Bytes} (hmidashi : SP ∉ midashi) (maxServerCompletions : ℕ)

/-- The search goes on from inside an entry: what is left of it, then the other entries. -/
lemma find_append_layout {junk : Bytes} (hjunk : LF ∉ junk) (es : List Entry) :
    find (LF :: midashi) (junk ++ layout es) =
      (find (LF :: midashi) (layout es)).map (· + junk.length) := by
  apply find_append_of_not_isPrefix
  intro j hj hstart
  rw [List.drop_append_of_le_length hj.le, List.drop_eq_getElem_cons hj, List.cons_append,
    List.cons_prefix_cons] at hstart
  exact hjunk (hstart.1 ▸ List.getElem_mem hj)

/-- A turn that finds nothing breaks. -/
lemma abbrevTurn_of_none {head junk : Bytes} (hjunk : LF ∉ junk) {es : List Entry}
    (h : find (LF :: midashi) (layout es) = none) (result : Bytes) (foundCount : ℕ) :
    abbrevTurn midashi (head ++ (junk ++ layout es)) maxServerCompletions
        ⟨head.length, result, foundCount⟩ =
      .ok (.inr (foundCount == 0, ⟨head.length, result, foundCount⟩)) := by
  have hfind : find ([LF] ++ midashi) (junk ++ layout es) = none := by
    rw [List.singleton_append, find_append_layout hjunk, h, Option.map_none]
  rw [abbrevTurn]
  dsimp only
  rw [sliceFrom_append, Outcome.ok_bind, hfind]
  rfl

/-- A turn that finds an entry counts it if it is a completion, and goes on at its space. -/
lemma abbrevTurn_of_some {head junk : Bytes} (hjunk : LF ∉ junk) {pre post : List Entry}
    {e : Entry} (h : find (LF :: midashi) (layout (pre ++ e :: post)) =
      some ((layout pre).length - 1)) (he : midashi <+: e.midashi) (result : Bytes)
    (foundCount : ℕ) :
    ∃ head' junk', LF ∉ junk' ∧
      head ++ (junk ++ layout (pre ++ e :: post)) = head' ++ (junk' ++ layout post) ∧
      abbrevTurn midashi (head ++ (junk ++ layout (pre ++ e :: post))) maxServerCompletions
          ⟨head.length, result, foundCount⟩ =
        .ok (if isOkuriAri e.midashi then .inl ⟨head'.length, result, foundCount⟩
          else if foundCount + 1 ≥ maxServerCompletions then
            .inr (true, ⟨head'.length, result ++ quoted [e.midashi], foundCount + 1⟩)
          else .inl ⟨head'.length, result ++ quoted [e.midashi], foundCount + 1⟩) := by
  have hlf : LF ≠ SP := by decide
  have hpos := length_layout_pos pre
  obtain ⟨word, hword⟩ := he
  have hspace : SP ∉ word := by
    intro hmem
    exact e.space_not_mem (hword ▸ List.mem_append_right midashi hmem)
  -- the buffer, cut before the entry, behind the prefix and at the space
  set start : Bytes := head ++ (junk ++ ((layout pre).dropLast ++ [LF])) with hstart
  have hbuffer : head ++ (junk ++ layout (pre ++ e :: post)) =
      start ++ (midashi ++ (word ++ SP :: (e.candidates ++ layout post))) := by
    rw [hstart, layout_append, layout_cons, Entry.text, ← hword]
    simp
  have hstartLength : start.length = head.length + ((layout pre).length - 1 + junk.length) + 1 := by
    simp only [hstart, List.length_append, List.length_dropLast, List.length_singleton]
    omega
  have hspaceStart : (start ++ midashi).length =
      head.length + ((layout pre).length - 1 + junk.length) + ([LF] ++ midashi).length := by
    simp only [List.length_append, hstartLength, List.length_singleton]
    omega
  refine ⟨start ++ e.midashi, SP :: e.candidates, ?_, ?_, ?_⟩
  · rw [List.mem_cons, not_or]
    exact ⟨hlf, e.lf_not_mem_candidates⟩
  · rw [hbuffer, ← hword]
    simp
  · have hend : (start ++ midashi).length + word.length = (start ++ e.midashi).length := by
      rw [← hword]
      simp only [List.length_append]
      omega
    have hfound : (slice (start ++ (midashi ++ (word ++ SP :: (e.candidates ++ layout post))))
        start.length ((start ++ midashi).length + word.length) : Result Bytes) =
          .ok e.midashi := by
      have hmiddle := slice_append (ε := SkkError) start e.midashi
        (SP :: (e.candidates ++ layout post))
      have hlength : (start ++ e.midashi).length = start.length + e.midashi.length :=
        List.length_append
      rw [hend, hlength]
      rw [← hword] at hmiddle ⊢
      rw [← List.append_assoc midashi]
      exact hmiddle
    have hrest : (sliceFrom (start ++ (midashi ++ (word ++ SP :: (e.candidates ++ layout post))))
        (start ++ midashi).length : Result Bytes) =
          .ok (word ++ SP :: (e.candidates ++ layout post)) := by
      rw [← List.append_assoc start]
      exact sliceFrom_append _ _
    have hfind : find ([LF] ++ midashi) (junk ++ layout (pre ++ e :: post)) =
        some ((layout pre).length - 1 + junk.length) := by
      rw [List.singleton_append, find_append_layout hjunk, h, Option.map_some]
    rw [abbrevTurn]
    dsimp only
    rw [sliceFrom_append, Outcome.ok_bind, hfind]
    dsimp only
    rw [← hspaceStart, ← hstartLength, hbuffer, hrest, Outcome.ok_bind, find_singleton hspace]
    dsimp only
    rw [hfound, Outcome.ok_bind, hend, quoted_cons, quoted_nil, List.append_nil]
    split
    · rfl
    · split <;> rfl

/-- The completions of a unit, where the first entry that begins with the prefix is known. -/
lemma collectedOf_split {pre post : List Entry} {e : Entry}
    (hpre : ∀ f ∈ pre, ¬ midashi <+: f.midashi) (he : midashi <+: e.midashi) :
    collectedOf midashi (midashiOf (pre ++ e :: post)) =
      if isOkuriAri e.midashi then collectedOf midashi (midashiOf post)
      else e.midashi :: collectedOf midashi (midashiOf post) := by
  have hnil : collectedOf midashi (midashiOf pre) = [] := by
    apply collectedOf_eq_nil
    intro word hword
    obtain ⟨f, hf, rfl⟩ := List.mem_map.mp hword
    exact hpre f hf
  rw [midashiOf, List.map_append, collectedOf_append, hnil, List.nil_append, List.map_cons,
    collectedOf, List.filter_cons]
  by_cases hokuri : isOkuriAri e.midashi <;> simp [hokuri, he, collectedOf]

variable (hne : midashi ≠ [])

include hmidashi hne

/-- What a search for the prefix finds: the first entry that begins with it. -/
lemma find_prefix_layout (es : List Entry) :
    (find (LF :: midashi) (layout es) = none ∧ collectedOf midashi (midashiOf es) = []) ∨
      ∃ pre e post, es = pre ++ e :: post ∧
        find (LF :: midashi) (layout es) = some ((layout pre).length - 1) ∧
        midashi <+: e.midashi ∧ ∀ f ∈ pre, ¬ midashi <+: f.midashi := by
  have hlf := lf_not_mem_of_mem_texts es
  cases hfind : find (LF :: midashi) (layout es) with
  | none =>
    refine .inl ⟨rfl, collectedOf_eq_nil fun word hword hstart => ?_⟩
    obtain ⟨e, he, rfl⟩ := List.mem_map.mp hword
    obtain ⟨pre, post, rfl⟩ := List.append_of_mem he
    refine find_delimited_eq_none hlf hfind (by rw [List.map_append, List.map_cons]) ?_
    exact (prefix_text_append_iff hmidashi e _).mpr hstart
  | some i =>
    obtain ⟨pre, x, post, hsplit, hlength, hstart, hfirst⟩ :=
      find_delimited_eq_some hne hlf hfind
    obtain ⟨fs, rest, rfl, rfl, hrest⟩ := List.map_eq_append_iff.mp hsplit
    obtain ⟨e, gs, rfl, rfl, rfl⟩ := List.map_eq_cons_iff.mp hrest
    refine .inr ⟨fs, e, gs, rfl, ?_, (prefix_text_append_iff hmidashi e _).mp hstart, ?_⟩
    · rw [layout, ← hlength, Nat.add_sub_cancel]
    · intro f hf hbefore
      obtain ⟨fs₁, fs₂, rfl⟩ := List.append_of_mem hf
      refine hfirst (fs₁.map Entry.text) f.text (fs₂.map Entry.text) (by simp) ?_
      exact (prefix_text_append_iff hmidashi f _).mpr hbefore

/-- **The scan of a unit**, from inside an entry on: it goes on until there are as many completions
as are wanted, or no more entries that begin with the prefix. -/
lemma loop_abbrevTurn {fuel foundCount : ℕ} {head junk : Bytes} (hjunk : LF ∉ junk)
    (es : List Entry) (hfuel : es.length < fuel) (result : Bytes)
    (hfound : foundCount < maxServerCompletions) :
    ∃ offset, loop (abbrevTurn midashi (head ++ (junk ++ layout es)) maxServerCompletions) fuel
        ⟨head.length, result, foundCount⟩ = .ok
      (let words := collectedOf midashi (midashiOf es)
      if maxServerCompletions ≤ foundCount + words.length then
        (true, ⟨offset, result ++ quoted (words.take (maxServerCompletions - foundCount)),
          maxServerCompletions⟩)
      else (foundCount + words.length == 0,
        ⟨offset, result ++ quoted words, foundCount + words.length⟩)) := by
  induction fuel generalizing es head junk result foundCount with
  | zero => omega
  | succ fuel ih =>
    rcases find_prefix_layout hmidashi hne es with ⟨hnone, hwords⟩ |
      ⟨pre, e, post, rfl, hsome, he, hpre⟩
    · rw [loop_break (abbrevTurn_of_none maxServerCompletions hjunk hnone result foundCount)]
      refine ⟨head.length, ?_⟩
      dsimp only
      rw [hwords, if_neg (by simpa using hfound)]
      simp
    · obtain ⟨head', junk', hjunk', hbuffer, hturn⟩ :=
        abbrevTurn_of_some maxServerCompletions hjunk hsome he result foundCount
      have hpost : post.length < fuel := by
        rw [List.length_append, List.length_cons] at hfuel
        omega
      rw [collectedOf_split hpre he]
      by_cases hokuri : isOkuriAri e.midashi
      · rw [if_pos hokuri] at hturn
        rw [loop_continue hturn, hbuffer, if_pos hokuri]
        exact ih hjunk' post hpost result hfound
      · rw [if_neg hokuri] at hturn
        rw [if_neg hokuri]
        by_cases henough : foundCount + 1 ≥ maxServerCompletions
        · rw [if_pos henough] at hturn
          have hone : maxServerCompletions - foundCount = 1 := by omega
          have hmax : foundCount + 1 = maxServerCompletions := by omega
          rw [loop_break hturn]
          refine ⟨head'.length, ?_⟩
          dsimp only
          rw [if_pos (by rw [List.length_cons]; omega), hone, hmax, List.take_succ_cons,
            List.take_zero]
        · rw [if_neg henough] at hturn
          rw [loop_continue hturn, hbuffer]
          obtain ⟨offset, hloop⟩ := ih hjunk' post hpost (result ++ quoted [e.midashi])
            (by omega : foundCount + 1 < maxServerCompletions)
          refine ⟨offset, ?_⟩
          rw [hloop]
          dsimp only
          have hcount : foundCount + 1 +
              (collectedOf midashi (midashiOf post)).length = foundCount +
                (e.midashi :: collectedOf midashi (midashiOf post)).length := by
            rw [List.length_cons]
            omega
          have htake : maxServerCompletions - foundCount =
              maxServerCompletions - (foundCount + 1) + 1 := by omega
          rw [hcount, htake, List.take_succ_cons, List.append_assoc, List.append_assoc,
            ← quoted_append, ← quoted_append]
          rfl

/-- What the scan of a whole unit leaves. -/
lemma abbrevUnit_eq (es : List Entry) (result : Bytes) {foundCount : ℕ}
    (hfound : foundCount < maxServerCompletions) :
    ∃ offset, abbrevUnit midashi (layout es) maxServerCompletions result foundCount = .ok
      (let words := collectedOf midashi (midashiOf es)
      if maxServerCompletions ≤ foundCount + words.length then
        (true, ⟨offset, result ++ quoted (words.take (maxServerCompletions - foundCount)),
          maxServerCompletions⟩)
      else (foundCount + words.length == 0,
        ⟨offset, result ++ quoted words, foundCount + words.length⟩)) := by
  have hlength : es.length < (layout es).length + 1 := by
    induction es with
    | nil => simp
    | cons e es ih =>
      rw [length_layout_cons, List.length_cons]
      omega
  have hjunk : LF ∉ ([] : Bytes) := List.not_mem_nil
  exact @loop_abbrevTurn _ hmidashi maxServerCompletions hne _ foundCount [] [] hjunk es hlength
    result hfound

end Unit

/-! ## From unit to unit -/

section Units

variable {midashi : Bytes} (hmidashi : SP ∉ midashi) (hne : midashi ≠ [])
  {maxServerCompletions : ℕ} {file : Bytes} {blocksOffset : UInt32} {es : List Entry}
  {informations : List DictionaryBlockInformation} {units : List (List Entry)}

include hmidashi hne

/-- One unit of the walk. -/
lemma abbrevUnits_eq {i : ℕ} (hi : i < informations.length) {u : List Entry}
    (hunit : IsUnitAt file blocksOffset informations[i] u) {foundCount : ℕ}
    (hgo : 0 < foundCount → midashi <+: firstMidashi u)
    (hfound : foundCount < maxServerCompletions) (result : Bytes) {f : DictionaryFile}
    (hf : f.Holds file) :
    ∃ f', f'.Holds file ∧
      abbrevUnits midashi informations blocksOffset maxServerCompletions i result foundCount f =
        (let words := collectedOf midashi (midashiOf u)
        if maxServerCompletions ≤ foundCount + words.length then
          (.ok (result ++ quoted (words.take (maxServerCompletions - foundCount))), f')
        else if foundCount + words.length = 0 ∨ i = 0 then (.ok (result ++ quoted words), f')
        else abbrevUnits midashi informations blocksOffset maxServerCompletions (i - 1)
          (result ++ quoted words) (foundCount + words.length) f') := by
  obtain ⟨f', hread, hf'⟩ := hf.read hunit.end_le
  obtain ⟨offset, hscan⟩ := abbrevUnit_eq hmidashi maxServerCompletions hne u result hfound
  refine ⟨f', hf', ?_⟩
  have hgo' : ¬ (0 < foundCount ∧ ¬ midashi <+: informations[i].midashi) := by
    rw [hunit.midashi]
    exact fun h => h.2 (hgo h.1)
  rw [abbrevUnits.eq_def]
  dsimp only
  rw [index_of_lt hi]
  dsimp only
  rw [if_neg hgo', hread, hunit.whole]
  dsimp only
  rw [Outcome.ok_bind, hscan]
  dsimp only
  by_cases henough : maxServerCompletions ≤
      foundCount + (collectedOf midashi (midashiOf u)).length
  · rw [if_pos henough, if_pos henough]
    rfl
  · rw [if_neg henough, if_neg henough]
    dsimp only
    by_cases hzero : foundCount + (collectedOf midashi (midashiOf u)).length = 0
    · rw [if_pos (Or.inl hzero), hzero]
      rfl
    · have hfalse : (foundCount + (collectedOf midashi (midashiOf u)).length == 0) = false :=
        beq_false_of_ne hzero
      rw [hfalse, if_neg Bool.false_ne_true]
      cases i with
      | zero => rw [if_pos (Or.inr rfl)]
      | succ i => rw [if_neg (by omega), Nat.add_sub_cancel]

omit hmidashi hne in
/-- Where a unit above the prefix does not begin with it, no entry from there on does. -/
lemma collectedOf_eq_nil_of_not_starts
    (h : IsUnitsOf file blocksOffset es informations units) {u : List Entry}
    {pre post : List (List Entry)} (hsplit : units = pre ++ u :: post)
    (hle : midashi ≤ firstMidashi u) (hstarts : ¬ midashi <+: firstMidashi u) :
    collectedOf midashi (midashiOf (u :: post).flatten) = [] := by
  apply collectedOf_eq_nil
  intro word hword hstart
  obtain ⟨e, he, rfl⟩ := List.mem_map.mp hword
  have hfirst : firstMidashi u ≤ e.midashi := h.firstMidashi_le_of_split hsplit he
  exact hstarts (prefix_of_le_of_le hle hfirst hstart)

/-- **The walk, once something was found**, collects the completions of all units to come: where it
stops, no later entry begins with the prefix. -/
lemma abbrevUnits_of_pos (h : IsUnitsOf file blocksOffset es informations units)
    {u : List Entry} {pre post : List (List Entry)} (hsplit : units = pre ++ u :: post)
    (hle : midashi ≤ firstMidashi u) {foundCount : ℕ} (hpos : 0 < foundCount)
    (hfound : foundCount < maxServerCompletions) (result : Bytes) {f : DictionaryFile}
    (hf : f.Holds file) :
    ∃ f', f'.Holds file ∧
      abbrevUnits midashi informations blocksOffset maxServerCompletions post.length result
          foundCount f =
        (.ok (result ++ quoted ((collectedOf midashi (midashiOf (u :: post).flatten)).take
          (maxServerCompletions - foundCount))), f') := by
  obtain ⟨hi, hunit⟩ := h.unitAt_of_split hsplit
  by_cases hstarts : midashi <+: firstMidashi u
  · obtain ⟨f', hf', hstep⟩ := abbrevUnits_eq hmidashi hne hi hunit (fun _ => hstarts) hfound
      result hf
    rw [hstep, List.flatten_cons, midashiOf_append, collectedOf_append]
    dsimp only
    by_cases henough : maxServerCompletions ≤
        foundCount + (collectedOf midashi (midashiOf u)).length
    · rw [if_pos henough, List.take_append_of_le_length (by omega)]
      exact ⟨f', hf', rfl⟩
    · rw [if_neg henough, List.take_append, List.take_of_length_le (by omega)]
      cases post with
      | nil =>
        rw [if_pos (Or.inr List.length_nil)]
        exact ⟨f', hf', by simp⟩
      | cons v post =>
        have hsplit' : units = (pre ++ [u]) ++ v :: post := by simp [hsplit]
        have hle' : midashi ≤ firstMidashi v :=
          List.le_trans hle (List.le_of_lt (h.firstMidashi_lt hsplit List.mem_cons_self))
        obtain ⟨f'', hf'', hrest⟩ := abbrevUnits_of_pos h hsplit' hle'
          (by omega : 0 < foundCount + (collectedOf midashi (midashiOf u)).length)
          (by omega) (result ++ quoted (collectedOf midashi (midashiOf u))) hf'
        have hmore : ¬ (foundCount + (collectedOf midashi (midashiOf u)).length = 0 ∨
            (v :: post).length = 0) := by
          rw [List.length_cons]
          omega
        rw [if_neg hmore, List.length_cons, Nat.add_sub_cancel, hrest, quoted_append,
          List.append_assoc, Nat.sub_sub]
        exact ⟨f'', hf'', rfl⟩
  · rw [collectedOf_eq_nil_of_not_starts h hsplit hle hstarts, abbrevUnits.eq_def]
    dsimp only
    rw [index_of_lt hi]
    dsimp only
    rw [hunit.midashi, if_pos ⟨hpos, hstarts⟩]
    exact ⟨f, hf, by simp⟩
termination_by post.length

/-- **The walk from its start** ends at once if the first unit has no completion, and collects all
otherwise. -/
lemma abbrevUnits_of_zero (h : IsUnitsOf file blocksOffset es informations units)
    {u : List Entry} {pre post : List (List Entry)} (hsplit : units = pre ++ u :: post)
    (habove : ∀ w ∈ post, midashi < firstMidashi w) (hmax : 0 < maxServerCompletions)
    (result : Bytes) {f : DictionaryFile} (hf : f.Holds file) :
    ∃ f', f'.Holds file ∧
      abbrevUnits midashi informations blocksOffset maxServerCompletions post.length result 0 f =
        (.ok (if collectedOf midashi (midashiOf u) = [] then result
          else result ++ quoted ((collectedOf midashi (midashiOf (u :: post).flatten)).take
            maxServerCompletions)), f') := by
  obtain ⟨hi, hunit⟩ := h.unitAt_of_split hsplit
  obtain ⟨f', hf', hstep⟩ := abbrevUnits_eq hmidashi hne hi hunit (by omega) hmax result hf
  rw [hstep, List.flatten_cons, midashiOf_append, collectedOf_append]
  dsimp only
  by_cases hwords : collectedOf midashi (midashiOf u) = []
  · rw [if_pos hwords, hwords, if_neg (by simpa using hmax.ne'), if_pos (by simp)]
    exact ⟨f', hf', by simp⟩
  have hpos : 0 < (collectedOf midashi (midashiOf u)).length := List.length_pos_iff.mpr hwords
  rw [if_neg hwords, Nat.zero_add, Nat.sub_zero]
  by_cases henough : maxServerCompletions ≤ (collectedOf midashi (midashiOf u)).length
  · rw [if_pos henough, List.take_append_of_le_length henough]
    exact ⟨f', hf', rfl⟩
  · rw [if_neg henough, List.take_append, List.take_of_length_le (by omega)]
    cases post with
    | nil =>
      rw [if_pos (Or.inr List.length_nil)]
      exact ⟨f', hf', by simp⟩
    | cons v post =>
      have hsplit' : units = (pre ++ [u]) ++ v :: post := by simp [hsplit]
      obtain ⟨f'', hf'', hrest⟩ := abbrevUnits_of_pos hmidashi hne h hsplit'
        (List.le_of_lt (habove v List.mem_cons_self)) hpos (Nat.lt_of_not_le henough)
        (result ++ quoted (collectedOf midashi (midashiOf u))) hf'
      have hmore : ¬ ((collectedOf midashi (midashiOf u)).length = 0 ∨
          (v :: post).length = 0) := by
        rw [List.length_cons]
        omega
      rw [if_neg hmore, List.length_cons, Nat.add_sub_cancel, hrest, quoted_append,
        List.append_assoc]
      exact ⟨f'', hf'', rfl⟩

omit hmidashi hne in
/-- Where the walk starts: at the last unit that does not begin after the prefix, or else at the
first. -/
lemma exists_start (midashi : Bytes)
    (h : IsUnitsOf file blocksOffset es informations units) :
    ∃ u pre post, units = pre ++ u :: post ∧
      (do
        let i ← getBlockInformationsIndex midashi informations
        if i ≥ informations.length then checkedSub i 1 else return i : Result ℕ) =
          .ok post.length ∧
      (∀ w ∈ post, midashi < firstMidashi w) ∧ (pre ≠ [] → firstMidashi u ≤ midashi) := by
  rw [getBlockInformationsIndex_eq midashi h.length_lt h.isDescending, Outcome.ok_bind]
  have hfirst : ∀ w ∈ units, (∀ e ∈ w, midashi < e.midashi) → midashi < firstMidashi w := by
    intro w hw hall
    obtain ⟨e, w, rfl⟩ := List.exists_cons_of_ne_nil (h.ne_nil w hw)
    exact hall e List.mem_cons_self
  rcases h.search midashi with ⟨hend, habove⟩ |
    ⟨hi, u, pre, post, hsplit, hlength, -, hle, hpost, -⟩
  · have hlength := List.length_pos_iff.mpr h.informations_ne_nil
    rw [h.length_eq] at hlength
    obtain ⟨u, post, rfl⟩ := List.exists_cons_of_length_pos hlength
    refine ⟨u, [], post, rfl, ?_, ?_, fun hpre => absurd rfl hpre⟩
    · rw [hend, if_pos le_rfl, h.length_eq, List.length_cons, checkedSub, if_pos (by omega),
        Nat.add_sub_cancel]
    · intro w hw
      refine hfirst w (List.mem_cons_of_mem u hw) fun e he => habove e ?_
      rw [← h.flatten]
      exact List.mem_flatten_of_mem (List.mem_cons_of_mem u hw) he
  · refine ⟨u, pre, post, hsplit, ?_, ?_, fun _ => hle⟩
    · rw [if_neg (by omega), hlength]
      rfl
    · exact fun w hw => hfirst w (by simp [hsplit, hw]) (hpost w hw)

/-- No unit but the first of a key begins after the prefix and at or before the first completion. -/
def NoUnitBegins (midashi : Bytes) (words : List Bytes)
    (informations : List DictionaryBlockInformation) : Prop :=
  ∀ word ∈ words.head?, ∀ v ∈ informations.dropLast,
    ¬ (midashi < v.midashi ∧ v.midashi ≤ word)

omit hmidashi hne in
/-- The completions of a key lie from the start of the walk on. -/
lemma collectedOf_of_start (h : IsUnitsOf file blocksOffset es informations units)
    {u : List Entry} {pre post : List (List Entry)} (hsplit : units = pre ++ u :: post)
    (hpre : pre ≠ [] → firstMidashi u ≤ midashi) :
    collectedOf midashi (midashiOf es) =
      collectedOf midashi (midashiOf u) ++ collectedOf midashi (midashiOf post.flatten) := by
  have hnil : collectedOf midashi (midashiOf pre.flatten) = [] := by
    apply collectedOf_eq_nil
    intro word hword hstart
    obtain ⟨e, he, rfl⟩ := List.mem_map.mp hword
    obtain ⟨w, hw, hew⟩ := List.mem_flatten.mp he
    have hlt := h.lt_firstMidashi_of_split hsplit hw hew
    have hle := hpre (List.ne_nil_of_mem hw)
    exact absurd (le_of_isPrefix hstart) (List.not_le.mpr (Std.lt_of_lt_of_le hlt hle))
  rw [← h.flatten, hsplit, List.flatten_append, List.flatten_cons, midashiOf_append,
    midashiOf_append, collectedOf_append, collectedOf_append, hnil, List.nil_append]

omit hmidashi hne in
/-- **The walk starts in the right unit** exactly when no unit begins between the prefix and the
first completion. -/
lemma noUnitBegins_iff (h : IsUnitsOf file blocksOffset es informations units)
    {u : List Entry} {pre post : List (List Entry)} (hsplit : units = pre ++ u :: post)
    (habove : ∀ w ∈ post, midashi < firstMidashi w)
    (hpre : pre ≠ [] → firstMidashi u ≤ midashi) :
    NoUnitBegins midashi (collectedOf midashi (midashiOf es)) informations ↔
      (collectedOf midashi (midashiOf u) = [] →
        collectedOf midashi (midashiOf es) = []) := by
  rw [collectedOf_of_start h hsplit hpre]
  constructor
  · intro hnone hwords
    rw [hwords, List.nil_append]
    rw [hwords, List.nil_append] at hnone
    by_contra hmore
    -- the first completion lies in a unit behind the first one
    obtain ⟨word, words, hcons⟩ := List.exists_cons_of_ne_nil hmore
    have hmem : word ∈ collectedOf midashi (midashiOf post.flatten) := by
      rw [hcons]
      exact List.mem_cons_self
    obtain ⟨e, he, rfl⟩ := List.mem_map.mp (mem_collectedOf.mp hmem).1
    obtain ⟨w, hw, hew⟩ := List.mem_flatten.mp he
    have htail : w ∈ units.tail.reverse := by
      rw [List.mem_reverse, hsplit]
      cases pre <;> simp [hw]
    obtain ⟨v, hv, hvw⟩ := exists_of_forall₂_of_mem h.unitsAt_dropLast.flip htail
    refine hnone e.midashi (by rw [hcons]; rfl) v hv ?_
    rw [hvw.midashi]
    exact ⟨habove w hw, h.firstMidashi_le (by simp [hsplit, hw]) hew⟩
  · intro himp word hword v hv hbetween
    obtain ⟨w, hw, hvw⟩ := exists_of_forall₂_of_mem h.unitsAt_dropLast hv
    rw [List.mem_reverse] at hw
    rw [hvw.midashi] at hbetween
    by_cases hwords : collectedOf midashi (midashiOf u) = []
    · rw [hwords, List.nil_append] at hword
      rw [hwords, List.nil_append] at himp
      rw [himp rfl] at hword
      simp at hword
    · obtain ⟨first, words, hcons⟩ := List.exists_cons_of_ne_nil hwords
      rw [hcons, List.cons_append, List.head?_cons, Option.mem_some_iff] at hword
      subst hword
      have hmem : first ∈ collectedOf midashi (midashiOf u) := by simp [hcons]
      obtain ⟨e, he, rfl⟩ := List.mem_map.mp (mem_collectedOf.mp hmem).1
      -- the units behind the start begin after its entries, the others not after the prefix
      have hcases : w ∈ post ∨ (pre ≠ [] ∧ firstMidashi w ≤ firstMidashi u) := by
        cases pre with
        | nil =>
          rw [hsplit] at hw
          exact .inl hw
        | cons z pre =>
          rw [hsplit, List.cons_append, List.tail_cons, List.mem_append, List.mem_cons] at hw
          rcases hw with hw | rfl | hw
          · refine .inr ⟨List.cons_ne_nil _ _, List.le_of_lt ?_⟩
            have hne : w ≠ [] := h.ne_nil w (by simp [hsplit, hw])
            obtain ⟨f, w, rfl⟩ := List.exists_cons_of_ne_nil hne
            exact h.lt_firstMidashi_of_split hsplit (List.mem_cons_of_mem z hw)
              List.mem_cons_self
          · exact .inr ⟨List.cons_ne_nil _ _, List.le_refl _⟩
          · exact .inl hw
      rcases hcases with hpost | ⟨hne, hle⟩
      · obtain ⟨post₁, post₂, rfl⟩ := List.append_of_mem hpost
        have hsplit' : units = (pre ++ u :: post₁) ++ w :: post₂ := by simp [hsplit]
        have hlt := h.lt_firstMidashi_of_split hsplit' (by simp) he
        exact absurd hbetween.2 (List.not_le.mpr hlt)
      · exact absurd hbetween.1 (List.not_lt.mpr (List.le_trans hle (hpre hne)))

/-- **The completions of a key**: all of them, or none where the walk starts in the wrong unit. -/
theorem readDictionaryForReadAbbrev_eq
    (h : IsUnitsOf file blocksOffset es informations units) (t : EncodingTables)
    (hmax : 0 < maxServerCompletions) (encoding : Encoding) {f : DictionaryFile}
    (hf : f.Holds file) :
    ∃ f' found, f'.Holds file ∧
      readDictionaryForReadAbbrev t midashi informations blocksOffset f [0x31]
          maxServerCompletions encoding =
        (.ok (if encoding = .Utf8 then Euc.decoded t ([0x31] ++ quoted found)
          else [0x31] ++ quoted found), f') ∧
      (NoUnitBegins midashi (collectedOf midashi (midashiOf es)) informations →
        found = (collectedOf midashi (midashiOf es)).take maxServerCompletions) ∧
      (¬ NoUnitBegins midashi (collectedOf midashi (midashiOf es)) informations →
        found = [] ∧ collectedOf midashi (midashiOf es) ≠ []) := by
  obtain ⟨u, pre, post, hsplit, hstart, habove, hpre⟩ := exists_start midashi h
  obtain ⟨f', hf', hwalk⟩ := abbrevUnits_of_zero hmidashi hne h hsplit habove hmax [0x31] hf
  have hiff := noUnitBegins_iff h hsplit habove hpre
  have hwords : collectedOf midashi (midashiOf (u :: post).flatten) =
      collectedOf midashi (midashiOf es) := by
    rw [collectedOf_of_start h hsplit hpre, List.flatten_cons, midashiOf_append,
      collectedOf_append]
  have hdecode : ∀ text : Bytes, (Outcome.ok text >>= fun result =>
      if encoding = .Utf8 then Euc.decode t result else .ok result : Result Bytes) =
        .ok (if encoding = .Utf8 then Euc.decoded t text else text) := by
    intro text
    rw [Outcome.ok_bind, Euc.decode_eq]
    split <;> rfl
  rw [hwords] at hwalk
  rw [readDictionaryForReadAbbrev, hstart]
  dsimp only
  rw [hwalk]
  dsimp only
  rw [hdecode]
  by_cases hstartWords : collectedOf midashi (midashiOf u) = []
  · rw [if_pos hstartWords]
    refine ⟨f', [], hf', by rw [quoted_nil, List.append_nil], fun hnone => ?_, fun hsome => ?_⟩
    · rw [hiff.mp hnone hstartWords, List.take_nil]
    · refine ⟨rfl, fun hnil => hsome (hiff.mpr fun _ => hnil)⟩
  · rw [if_neg hstartWords]
    exact ⟨f', _, hf', rfl, fun _ => rfl,
      fun hsome => absurd (hiff.mpr fun hnil => absurd hnil hstartWords) hsome⟩

end Units

/-! ## A request -/

/-- No unit of the key of a prefix hides the completions in the units behind it. -/
def NoUnitHides (r : DictionaryReader) (midashi : Bytes) (words : List Bytes) : Prop :=
  ∃ key, getDictionaryMidashiKey midashi = .ok key ∧
    ∀ informations, getBlockInformationVectors r.onMemory key = .ok (some informations) →
      NoUnitBegins midashi words informations

/-- **Nothing comes between a prefix and its completions**: no unit hides them, and none of the
first ones, as many as the server returns, is taken for okuri-ari by its last bytes. -/
structure CompletesAll (r : DictionaryReader) (midashi : Bytes) (words : List Bytes) : Prop where
  noUnitHides : NoUnitHides r midashi words
  notTaken : ∀ word ∈ words.take r.config.maxServerCompletions, isOkuriAri word = false

/-- Only the first completion matters. -/
lemma noUnitHides_congr {r : DictionaryReader} {midashi : Bytes} {words words' : List Bytes}
    (h : words.head? = words'.head?) :
    NoUnitHides r midashi words ↔ NoUnitHides r midashi words' := by
  simp only [NoUnitHides, NoUnitBegins, h]

/-- A list without its first elements is not looked at where they all pass. -/
lemma take_filter_of_forall {words : List Bytes} {p : Bytes → Bool} {n : ℕ}
    (h : ∀ word ∈ words.take n, p word = true) : (words.filter p).take n = words.take n := by
  have hsplit : words.filter p = words.take n ++ (words.drop n).filter p := by
    rw [← List.filter_eq_self.mpr h, ← List.filter_append, List.take_append_drop]
  rw [hsplit, List.take_append, List.take_take, min_self, List.length_take]
  by_cases hn : n ≤ words.length
  · rw [min_eq_left hn, Nat.sub_self, List.take_zero, List.append_nil]
  · rw [List.drop_eq_nil_of_le (by omega), List.filter_nil, List.take_nil, List.append_nil]

/-- Nothing comes between exactly where the walk collects the first completions. -/
lemma completesAll_iff {r : DictionaryReader} (hmax : 1 ≤ r.config.maxServerCompletions)
    {m : JisyoEntriesMap} {midashi : Bytes} :
    CompletesAll r midashi (completionsOf midashi m.keys) ↔
      NoUnitHides r midashi (collectedOf midashi m.keys) ∧
      (collectedOf midashi m.keys).take r.config.maxServerCompletions =
        (completionsOf midashi m.keys).take r.config.maxServerCompletions := by
  have hmaxNe : r.config.maxServerCompletions ≠ 0 := by omega
  have hfirst : (collectedOf midashi m.keys).take r.config.maxServerCompletions =
      (completionsOf midashi m.keys).take r.config.maxServerCompletions →
      (completionsOf midashi m.keys).head? = (collectedOf midashi m.keys).head? := by
    intro h
    have hhead := congrArg List.head? h
    rw [List.head?_take, List.head?_take, if_neg hmaxNe, if_neg hmaxNe] at hhead
    exact hhead.symm
  constructor
  · rintro ⟨hhides, htaken⟩
    have htake : (collectedOf midashi m.keys).take r.config.maxServerCompletions =
        (completionsOf midashi m.keys).take r.config.maxServerCompletions := by
      rw [collectedOf_eq_filter]
      exact take_filter_of_forall fun word hword => decide_eq_true (htaken word hword)
    exact ⟨(noUnitHides_congr (hfirst htake)).mp hhides, htake⟩
  · rintro ⟨hhides, htake⟩
    refine ⟨(noUnitHides_congr (hfirst htake)).mpr hhides, fun word hword => ?_⟩
    rw [← htake] at hword
    exact (mem_collectedOf.mp (List.mem_of_mem_take hword)).2.2

section Request

variable {m : JisyoEntriesMap} (hm : IsJisyoEntries m) {midashi : Bytes}
  {key key' : DictionaryMidashiKey}

include hm

lemma midashiOf_entriesOf (key : DictionaryMidashiKey) :
    midashiOf (entriesOf m hm.isEntry key) =
      (m.toList.filter fun p => getDictionaryMidashiKey p.1 = .ok key).map (·.1) := by
  rw [midashiOf, entriesOf, List.map_pmap]
  exact List.pmap_eq_map (f := Prod.fst) _

/-- The entries of a key have some of the completions. -/
lemma sublist_collectedOf_entriesOf (midashi : Bytes) (key : DictionaryMidashiKey) :
    (collectedOf midashi (midashiOf (entriesOf m hm.isEntry key))).Sublist
      (collectedOf midashi m.keys) := by
  rw [midashiOf_entriesOf hm, ← Std.ExtTreeMap.map_fst_toList_eq_keys]
  exact (List.filter_sublist.map _).filter _

/-- The completions among all midashi of the entries are those of one key. -/
lemma collectedOf_keys (hkey : getDictionaryMidashiKey midashi = .ok key)
    (hkey' : IsEucKey key → key' = key) :
    collectedOf midashi m.keys =
      collectedOf midashi (midashiOf (entriesOf m hm.isEntry key')) := by
  rw [midashiOf_entriesOf hm, ← Std.ExtTreeMap.map_fst_toList_eq_keys, collectedOf, collectedOf,
    List.filter_map, List.filter_map, List.filter_filter]
  congr 1
  apply List.filter_congr
  intro p hp
  rw [Function.comp_apply]
  by_cases hcompletes : midashi <+: p.1 ∧ isOkuriAri p.1 = false
  swap
  · rw [decide_eq_false hcompletes, Bool.false_and]
  rw [decide_eq_true hcompletes, Bool.true_and, eq_comm]
  -- a midashi that begins with the prefix has its key
  obtain ⟨rest, hrest⟩ := hcompletes.1
  have hpkey : getDictionaryMidashiKey p.1 = .ok key := by
    rw [← hrest]
    exact getDictionaryMidashiKey_append hkey rest
  have hmem : p.1 ∈ m := by
    rw [← Std.ExtTreeMap.isSome_getElem?_iff_mem,
      Std.ExtTreeMap.mem_toList_iff_getElem?_eq_some.mp hp, Option.isSome_some]
  have heuc : IsEucKey key := ⟨p.1, hm.starts p.1 hmem, hpkey⟩
  rw [hkey' heuc]
  exact decide_eq_true hpkey

/-- The midashi that complete a prefix with a key have the key. -/
lemma collectedOf_keys_eq_nil (hkey : getDictionaryMidashiKey midashi = .ok key)
    (hempty : IsEucKey key → entriesOf m hm.isEntry key = []) :
    collectedOf midashi m.keys = [] := by
  by_cases heuc : IsEucKey key
  · rw [collectedOf_keys hm hkey fun _ => rfl, hempty heuc]
    rfl
  · refine collectedOf_eq_nil fun word hword hstart => ?_
    obtain ⟨rest, hrest⟩ := hstart
    refine heuc ⟨word, hm.starts word (Std.ExtTreeMap.mem_keys.mp hword), ?_⟩
    rw [← hrest]
    exact getDictionaryMidashiKey_append hkey rest

end Request

/-- The slash that `read_abbrev` writes behind what was found. -/
lemma abbrevReply_of_found (t : EncodingTables) (encoding : Encoding) (found : List Bytes) :
    (if (if encoding = .Utf8 then Euc.decoded t ([0x31] ++ quoted found)
        else [0x31] ++ quoted found).length > 1 then
      (if encoding = .Utf8 then Euc.decoded t ([0x31] ++ quoted found)
        else [0x31] ++ quoted found) ++ [SLASH]
      else if encoding = .Utf8 then Euc.decoded t ([0x31] ++ quoted found)
        else [0x31] ++ quoted found) = abbrevReply t encoding found := by
  have hone : ∀ text, Euc.decoded t (0x31 :: text) = 0x31 :: Euc.decoded t text :=
    fun text => Euc.decoded_ascii t (by decide) text
  have hnil : Euc.decoded t [] = [] := translit_nil _
  have hslash : ∀ text, Euc.decoded t (SLASH :: text) = SLASH :: Euc.decoded t text :=
    fun text => Euc.decoded_ascii t (by decide) text
  unfold abbrevReply
  cases found with
  | nil => cases encoding <;> simp [hone, hnil]
  | cons word words =>
    rw [if_neg (List.cons_ne_nil word words)]
    cases encoding <;> simp [quoted_cons, Candidates.quoteAndAddPrefix, hone, hslash]

section Loaded

variable {m : JisyoEntriesMap} (hm : IsJisyoEntries m) {file : Bytes} {r : DictionaryReader}
  (hloaded : IsLoaded m file r.onMemory) {encoding : Encoding}
  (hencoding : r.onMemory.dictionaryFixedHeader.encoding = encoding.toU32)
  (hmax : 1 ≤ r.config.maxServerCompletions) {s : Session} (hs : s.dictionaryFile.Holds file)
  {midashi : Bytes} (hspace : SP ∉ midashi)

include hm hloaded hencoding hmax hs hspace

/-- **What `read_abbrev` replies**, whatever byte ends the request: the first that the walk would
collect of all midashi, or nothing where a unit hides them. -/
lemma readAbbrev_collects (hne : midashi ≠ []) {last : UInt8} {key : DictionaryMidashiKey}
    (hkey : getDictionaryMidashiKey (midashi ++ [last]) = .ok key) :
    ∃ f found, f.Holds file ∧
      r.readAbbrev s ([0x34] ++ midashi ++ [last]) =
        (.ok (abbrevReply r.tables encoding found), { s with dictionaryFile := f }) ∧
      found.Sublist (collectedOf midashi m.keys) ∧
      found.length ≤ r.config.maxServerCompletions ∧
      (NoUnitHides r midashi (collectedOf midashi m.keys) →
        found = (collectedOf midashi m.keys).take r.config.maxServerCompletions) ∧
      (getDictionaryMidashiKey midashi = .ok key →
        ¬ NoUnitHides r midashi (collectedOf midashi m.keys) →
          found = [] ∧ collectedOf midashi m.keys ≠ []) := by
  -- a key of the prefix alone is the key of the request
  have hprefix : ∀ key', getDictionaryMidashiKey midashi = .ok key' → key' = key := by
    intro key' hkey'
    rw [getDictionaryMidashiKey_append hkey', Outcome.ok.injEq] at hkey
    exact hkey
  unfold readAbbrev
  rw [getMidashi_append_last, Outcome.ok_bind, sliceFrom_append_last, Outcome.ok_bind, hkey,
    Outcome.ok_bind]
  rcases hloaded.lookup hm.isEntry hm.starts key with ⟨hnone, hempty⟩ |
    ⟨key', informations, units, hsome, hkey', hunits⟩
  · rw [hnone]
    refine ⟨s.dictionaryFile, [], hs, rfl, List.nil_sublist _, Nat.zero_le _, ?_, ?_⟩
    · rintro ⟨key', hmidashi, -⟩
      obtain rfl := hprefix key' hmidashi
      rw [collectedOf_keys_eq_nil hm hmidashi hempty, List.take_nil]
    · intro hmidashi hhides
      refine absurd ⟨key, hmidashi, fun informations hsome => ?_⟩ hhides
      rw [hnone] at hsome
      simp at hsome
  · obtain ⟨f, found, hf, hread, hcomplete, hmissed⟩ := readDictionaryForReadAbbrev_eq hspace hne
      hunits r.tables hmax encoding hs
    have hsublist := sublist_collectedOf_entriesOf hm midashi key'
    refine ⟨f, found, hf, ?_, ?_, ?_, ?_, ?_⟩
    · rw [hsome]
      dsimp only [Outcome.ok_bind, Outcome.pure_eq]
      rw [hencoding, Encoding.fromU32_toU32]
      dsimp only
      rw [hread]
      dsimp only
      rw [Outcome.ok_bind, abbrevReply_of_found]
    · by_cases hbegins : NoUnitBegins midashi
        (collectedOf midashi (midashiOf (entriesOf m hm.isEntry key'))) informations
      · rw [hcomplete hbegins]
        exact (List.take_sublist _ _).trans hsublist
      · rw [(hmissed hbegins).1]
        exact List.nil_sublist _
    · by_cases hbegins : NoUnitBegins midashi
        (collectedOf midashi (midashiOf (entriesOf m hm.isEntry key'))) informations
      · rw [hcomplete hbegins]
        exact List.length_take_le _ _
      · rw [(hmissed hbegins).1]
        exact Nat.zero_le _
    · rintro ⟨key'', hmidashi, hall⟩
      obtain rfl := hprefix key'' hmidashi
      rw [collectedOf_keys hm hmidashi hkey'] at hall ⊢
      exact hcomplete (hall informations hsome)
    · intro hmidashi hhides
      rw [collectedOf_keys hm hmidashi hkey'] at hhides ⊢
      refine hmissed fun hbegins => hhides ⟨key, hmidashi, fun informations' hsome' => ?_⟩
      obtain rfl : informations = informations' := by
        rw [hsome] at hsome'
        simpa using hsome'
      exact hbegins

end Loaded

/-- A request for completions is answered with the first of them, in their order, and with `1` alone
only where there is none. -/
def AnswersCompletely (r : DictionaryReader) (m : JisyoEntriesMap) (encoding : Encoding)
    (s : Session) (midashi : Bytes) : Prop :=
  ∃ reply s', r.readAbbrev s ([0x34] ++ midashi ++ [SP]) = (.ok reply, s') ∧
    reply = completionReply r.tables encoding
      ((completionsOf midashi m.keys).take r.config.maxServerCompletions) ∧
    (reply = [0x31] ↔ completionsOf midashi m.keys = [])

/-- **Completion, end to end.**  A dictionary that was built from entries and loaded answers a
request with the first completions of the prefix where nothing comes between them, and where in
UTF-8 all of these but the last are made of whole characters.  In EUC it does so nowhere else, as
long as the midashi can be told from what is quoted of them; and in neither encoding does it where a
unit hides what the walk would collect. -/
theorem readAbbrev_isComplete {m : JisyoEntriesMap} (hm : IsJisyoEntries m) {file : Bytes}
    (r : DictionaryReader) (hloaded : IsLoaded m file r.onMemory) {encoding : Encoding}
    (hencoding : r.onMemory.dictionaryFixedHeader.encoding = encoding.toU32)
    (hmax : 1 ≤ r.config.maxServerCompletions) {s : Session} (hs : s.dictionaryFile.Holds file)
    {midashi : Bytes} (hspace : SP ∉ midashi) {key : DictionaryMidashiKey}
    (hkey : getDictionaryMidashiKey midashi = .ok key) :
    (CompletesAll r midashi (completionsOf midashi m.keys) →
      (encoding = .Utf8 → ∀ word ∈ ((completionsOf midashi m.keys).take
        r.config.maxServerCompletions).dropLast, Euc.IsEucText word) →
        AnswersCompletely r m encoding s midashi) ∧
      (encoding = .Euc → (∀ word ∈ m, CR ∉ word) → AnswersCompletely r m encoding s midashi →
        CompletesAll r midashi (completionsOf midashi m.keys)) ∧
      (AnswersCompletely r m encoding s midashi →
        NoUnitHides r midashi (collectedOf midashi m.keys)) := by
  have hne : midashi ≠ [] := by
    rintro rfl
    simp [getDictionaryMidashiKey, index] at hkey
  have hmaxNe : r.config.maxServerCompletions ≠ 0 := by omega
  obtain ⟨f, found, -, hread, -, -, htaken, hmissed⟩ := readAbbrev_collects hm hloaded hencoding
    hmax hs hspace hne (getDictionaryMidashiKey_append hkey [SP])
  have hreply : ∀ {reply : Bytes} {s' : Session},
      r.readAbbrev s ([0x34] ++ midashi ++ [SP]) = (.ok reply, s') →
        reply = abbrevReply r.tables encoding found := by
    intro reply s' h
    rw [hread, Prod.mk.injEq, Outcome.ok.injEq] at h
    exact h.1.symm
  have hhides : AnswersCompletely r m encoding s midashi →
      NoUnitHides r midashi (collectedOf midashi m.keys) := by
    rintro ⟨reply, s', h, -, hiff⟩
    by_contra hnot
    obtain ⟨rfl, hmore⟩ := hmissed hkey hnot
    obtain rfl := hreply h
    rw [collectedOf_eq_filter, hiff.mp (abbrevReply_eq_iff.mpr rfl)] at hmore
    exact hmore rfl
  refine ⟨fun hall hwhole => ?_, fun heuc hcr hanswers => ?_, hhides⟩
  · obtain ⟨hnot, htake⟩ := (completesAll_iff hmax).mp hall
    have hfound := htaken hnot
    rw [htake] at hfound
    refine ⟨_, _, hread, ?_, ?_⟩
    · rw [hfound]
      exact abbrevReply_eq_completionReply hwhole
    · rw [abbrevReply_eq_iff, hfound, List.take_eq_nil_iff]
      simp [hmaxNe]
  · have hnot := hhides hanswers
    obtain ⟨reply, s', h, htext, -⟩ := hanswers
    have hends : ∀ {words : List Bytes}, words ⊆ m.keys →
        ∀ word ∈ words, ∀ b ∈ word, ¬ (b = CR ∨ b = LF) := by
      rintro words hwords word hword b hb (rfl | rfl)
      · exact hcr word (Std.ExtTreeMap.mem_keys.mp (hwords hword)) hb
      · exact hm.lf_not_mem word (Std.ExtTreeMap.mem_keys.mp (hwords hword)) hb
    rw [hreply h, heuc, abbrevReply_eq_completionReply (by simp)] at htext
    have hfound := completionReply_inj
      (hends ((htaken hnot).symm ▸ fun word hword =>
        (mem_collectedOf.mp (List.mem_of_mem_take hword)).1))
      (hends fun word hword => (List.mem_filter.mp (List.mem_of_mem_take hword)).1) htext
    rw [htaken hnot] at hfound
    exact (completesAll_iff hmax).mpr ⟨hnot, hfound⟩

lemma completionsOf_straddlingEntries :
    completionsOf (ascii "a") straddlingEntries.keys = [ascii "a", ascii "aab"] := rfl

/-- The first completion of `a` is in the first unit of its key. -/
lemma completesAll_straddlingEntries (r : DictionaryReader) :
    CompletesAll r (ascii "a") (completionsOf (ascii "a") straddlingEntries.keys) := by
  rw [completionsOf_straddlingEntries]
  refine ⟨⟨_, rfl, fun informations _ word hword v _ hbetween => ?_⟩, ?_⟩
  · rw [List.head?_cons, Option.mem_some_iff] at hword
    subst hword
    exact absurd hbetween.2 (List.not_le.mpr hbetween.1)
  · intro word hword
    rcases List.mem_pair.mp (List.mem_of_mem_take hword) with rfl | rfl <;> rfl

/-- The prefix `a` and its extension lie in two units. -/
theorem readAbbrev_isComplete_straddlingEntries :
    ∃ file onMemory s',
      create (fun _ => SHA1SUM_ZERO) .Utf8 emptyTable straddlingEntries = .ok file ∧
      setup (fun _ => SHA1SUM_ZERO) 1024 none file = .ok (onMemory, .empty) ∧
      readAbbrev ⟨{}, onMemory, .empty⟩ ⟨{ file := file, buffer := [] }, ∅⟩ (ascii "4a ") =
        (.ok (ascii "1/a/aab/"), s') := by
  obtain ⟨file, onMemory, hcreate, hsetup, hloaded, hencoding⟩ :=
    exists_loaded_straddlingEntries .Utf8 onceInit_emptyTable
  have hholds : DictionaryFile.Holds file { file := file, buffer := [] } :=
    ⟨rfl, rfl, Nat.zero_le _, rfl⟩
  have hspace : SP ∉ ascii "a" := by decide
  obtain ⟨reply, s', hread, rfl, -⟩ := (readAbbrev_isComplete isJisyoEntries_straddlingEntries
    ⟨{}, onMemory, .empty⟩ hloaded hencoding (show 1 ≤ 64 by decide)
    (s := ⟨{ file := file, buffer := [] }, ∅⟩) hholds hspace rfl).1
    (completesAll_straddlingEntries _) (by
      intro _ word hword
      rw [completionsOf_straddlingEntries] at hword
      rcases List.mem_pair.mp (List.mem_of_mem_take (List.mem_of_mem_dropLast hword)) with rfl | rfl
      · exact Euc.isEucText_of_ascii (by decide +kernel)
      · exact Euc.isEucText_of_ascii (by decide +kernel))
  have htext : completionReply .empty .Utf8 [ascii "a", ascii "aab"] = ascii "1/a/aab/" := by
    have hquote : Candidates.quote (ascii "a") = ascii "a" ∧
        Candidates.quote (ascii "aab") = ascii "aab" := by decide
    rw [completionReply, if_neg (List.cons_ne_nil _ _), List.map_cons, List.map_singleton,
      shownWord, shownWord, if_pos rfl, if_pos rfl, hquote.1, hquote.2,
      Euc.decoded_of_ascii .empty (x := ascii "a") (by decide +kernel),
      Euc.decoded_of_ascii .empty (x := ascii "aab") (by decide +kernel)]
    decide
  have htake : [ascii "a", ascii "aab"].take 64 = [ascii "a", ascii "aab"] := rfl
  rw [completionsOf_straddlingEntries, htake, htext] at hread
  exact ⟨file, onMemory, s', hcreate, hsetup, hread⟩

/-- Builds the dictionary of some entries, loads it and asks for completions. -/
def completeFrom (m : JisyoEntriesMap) (request : Bytes) : Result Bytes := do
  let file ← create (fun _ => SHA1SUM_ZERO) .Euc emptyTable m
  let (onMemory, t) ← setup (fun _ => SHA1SUM_ZERO) 1024 none file
  (readAbbrev ⟨{}, onMemory, t⟩ ⟨{ file := file, buffer := [] }, ∅⟩ request).1

/-- The first unit begins at `a`, the second after the prefix, at the completion itself. -/
lemma not_noUnitBegins_straddlingUnits :
    ¬ NoUnitBegins (ascii "aa") [ascii "aab"] straddlingUnits := by
  intro h
  exact h (ascii "aab") rfl ⟨ascii "aab", 2045, 11⟩ List.mem_cons_self ⟨by decide, by decide⟩

lemma completeFrom_straddlingEntries :
    completeFrom straddlingEntries (ascii "4aa ") = .ok [0x31] := by
  obtain ⟨file, hcreate, hfile⟩ := exists_create_straddlingEntries .Euc
  have hm := isJisyoEntries_straddlingEntries
  obtain ⟨blockMap, hmap, hfits, -⟩ := setup_create (by decide : 0 < 1024) onceInit_emptyTable
    hm.starts hcreate hfile
  obtain ⟨onMemory, r, blockMap', built, hsetup, -, hmap', hbuilt, -, hencoding, -, -, hlookup⟩ :=
    hfits (recordFits_straddlingEntries blockMap hmap)
  have hloaded := isLoaded_of_setup (by decide) onceInit_emptyTable hcreate hfile hsetup
  rw [createTemporaryBlockMap_straddlingEntries, Outcome.ok.injEq] at hmap'
  subst hmap'
  obtain ⟨aligned, hbuilt', -⟩ := buildBlocks_straddlingBlockMap
  obtain rfl := Outcome.ok.inj (hbuilt'.symm.trans hbuilt)
  have heuc : IsEucKey #v[0x61, 0, 0, 0] := ⟨ascii "a", .ascii (by decide), rfl⟩
  have hholds : DictionaryFile.Holds file { file := file, buffer := [] } :=
    ⟨rfl, rfl, Nat.zero_le _, rfl⟩
  have hspace : SP ∉ ascii "aa" := by decide
  have hkeys : collectedOf (ascii "aa") straddlingEntries.keys = [ascii "aab"] := rfl
  obtain ⟨f, found, -, hread, -, -, -, hmissed⟩ := readAbbrev_collects hm
    (r := ⟨{}, onMemory, .empty⟩) hloaded hencoding (show 1 ≤ 64 by decide)
    (s := ⟨{ file := file, buffer := [] }, ∅⟩) hholds hspace (List.cons_ne_nil _ _)
    (rfl : getDictionaryMidashiKey (ascii "aa" ++ [SP]) = .ok _)
  rw [hkeys] at hmissed
  obtain ⟨rfl, -⟩ := hmissed rfl (by
    rintro ⟨key, hkey, hall⟩
    obtain rfl := Outcome.ok.inj hkey
    exact not_noUnitBegins_straddlingUnits (hall straddlingUnits (hlookup _ heuc)))
  rw [completeFrom, hcreate, Outcome.ok_bind, hsetup, Outcome.ok_bind]
  exact congrArg Prod.fst hread

theorem not_readAbbrev_isComplete_straddlingEntries :
    ∃ file onMemory t,
      create (fun _ => SHA1SUM_ZERO) .Euc emptyTable straddlingEntries = .ok file ∧
      setup (fun _ => SHA1SUM_ZERO) 1024 none file = .ok (onMemory, t) ∧
      (readAbbrev ⟨{}, onMemory, t⟩ ⟨{ file := file, buffer := [] }, ∅⟩ (ascii "4aa ")).1 =
        .ok [0x31] ∧
      completionsOf (ascii "aa") straddlingEntries.keys = [ascii "aab"] ∧
      ¬ AnswersCompletely ⟨{}, onMemory, t⟩ straddlingEntries .Euc
        ⟨{ file := file, buffer := [] }, ∅⟩ (ascii "aa") := by
  have hrun := completeFrom_straddlingEntries
  rw [completeFrom, Outcome.bind_eq_ok] at hrun
  obtain ⟨file, hcreate, hrun⟩ := hrun
  rw [Outcome.bind_eq_ok] at hrun
  obtain ⟨⟨onMemory, t⟩, hsetup, hread⟩ := hrun
  refine ⟨file, onMemory, t, hcreate, hsetup, hread, rfl, ?_⟩
  rintro ⟨reply, s', hreply, -, hiff⟩
  have hnone : reply = [0x31] := Outcome.ok.inj ((congrArg Prod.fst hreply).symm.trans hread)
  exact absurd (hiff.mp hnone) (by decide)

end DictionaryReader

end Yaskkserv2
