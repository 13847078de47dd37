import Yaskkserv2.Framework.Split
import Yaskkserv2.MakeDictionary.JisyoCreator
import Yaskkserv2.Properties.AllUnits
import Yaskkserv2.Properties.TotalTranscoding

/-!
# The jisyo of a dictionary

The writer of a jisyo parses the units that it comes across and collects their entries, converted,
in two maps.  The units come in an order that is not the program's to decide, and what is written
does not depend on it: it is told by the entries that the dictionary was built of (`jisyoOf`), as
long as no two of them are converted to one midashi (`create_eq_jisyoOf`).
-/

namespace Yaskkserv2

open Framework Dictionary DictionaryCreator DictionaryReader

/-! ## Maps from lists -/

section Collect

variable {κ ν : Type*} {cmp : κ → κ → Ordering} [Std.TransCmp cmp] [Std.LawfulEqCmp cmp]

/-- The entries of a list that agree on their keys, put into a map one by one. -/
lemma getElem?_foldl_insert {l : List (κ × ν)} (hl : ∀ p ∈ l, ∀ q ∈ l, p.1 = q.1 → p = q)
    (m : Std.ExtTreeMap κ ν cmp) {k : κ} {v : ν} :
    (l.foldl (fun m p => m.insert p.1 p.2) m)[k]? = some v ↔
      (k, v) ∈ l ∨ k ∉ l.map Prod.fst ∧ m[k]? = some v := by
  induction l generalizing m with
  | nil => simp
  | cons p l ih =>
    have htail : ∀ p ∈ l, ∀ q ∈ l, p.1 = q.1 → p = q := fun p hp q hq =>
      hl p (List.mem_cons_of_mem _ hp) q (List.mem_cons_of_mem _ hq)
    rw [List.foldl_cons, ih htail, Std.ExtTreeMap.getElem?_insert, List.mem_cons, List.map_cons,
      List.mem_cons]
    by_cases hk : p.1 = k
    · subst hk
      rw [if_pos Std.ReflCmp.compare_self, Option.some.injEq]
      constructor
      · rintro (hmem | ⟨-, rfl⟩)
        · exact .inl (.inr hmem)
        · exact .inl (.inl rfl)
      · rintro ((heq | hmem) | ⟨hnot, -⟩)
        · by_cases hin : p.1 ∈ l.map Prod.fst
          · obtain ⟨q, hq, hqp⟩ := List.mem_map.mp hin
            have hsame := hl q (List.mem_cons_of_mem p hq) p List.mem_cons_self hqp
            rw [heq, ← hsame]
            exact .inl hq
          · exact .inr ⟨hin, (congrArg Prod.snd heq).symm⟩
        · exact .inl hmem
        · exact absurd (.inl rfl) hnot
    · rw [if_neg fun hcompare => hk (Std.LawfulEqCmp.eq_of_compare hcompare)]
      have hne : (k, v) ≠ p := fun heq => hk (congrArg Prod.fst heq).symm
      simp [hne, Ne.symm hk]

end Collect

namespace JisyoCreator

/-! ## A unit -/

section Unit

variable (t : EncodingTables) (outputJisyoEncoding dictionaryEncoding : Encoding)

/-- The midashi of a dictionary as it is written. -/
def jisyoMidashi (midashi : Bytes) : Bytes :=
  if outputJisyoEncoding = .Euc then midashi else Euc.decoded t midashi

/-- Candidates of a dictionary as they are written. -/
def jisyoCandidates (candidates : Bytes) : Bytes :=
  if outputJisyoEncoding = .Euc ∧ dictionaryEncoding = .Utf8 then Euc.encoded t candidates
  else if outputJisyoEncoding = .Utf8 ∧ dictionaryEncoding = .Euc then Euc.decoded t candidates
  else candidates

/-- An entry of a dictionary as it is written. -/
def jisyoEntry (entry : Bytes × Bytes) : Bytes × Bytes :=
  (jisyoMidashi t outputJisyoEncoding entry.1,
    jisyoCandidates t outputJisyoEncoding dictionaryEncoding entry.2)

/-- The maps with one more entry of the dictionary. -/
def OkuriMaps.add (maps : OkuriMaps) (entry : Bytes × Bytes) : OkuriMaps :=
  maps.insert (isOkuriAri entry.1) (jisyoMidashi t outputJisyoEncoding entry.1)
    (jisyoCandidates t outputJisyoEncoding dictionaryEncoding entry.2)

variable {t outputJisyoEncoding dictionaryEncoding}

lemma convertMidashi_eq (midashi : Bytes) :
    convertMidashi t outputJisyoEncoding midashi =
      .ok (jisyoMidashi t outputJisyoEncoding midashi) := by
  rw [convertMidashi, jisyoMidashi, Euc.decode_eq]
  split <;> rfl

lemma convertCandidates_eq (candidates : Bytes) :
    convertCandidates t outputJisyoEncoding dictionaryEncoding candidates =
      .ok (jisyoCandidates t outputJisyoEncoding dictionaryEncoding candidates) := by
  rw [convertCandidates, jisyoCandidates, Euc.encode_eq, Euc.decode_eq]
  repeat' split
  all_goals rfl

/-- An entry as a pair. -/
def entryPair (e : Entry) : Bytes × Bytes := (e.midashi, e.candidates)

lemma getOkuriAriNasiMapsTurn_layout_cons (pre : Bytes) (e : Entry) (es : List Entry)
    (maps : OkuriMaps) :
    getOkuriAriNasiMapsTurn t outputJisyoEncoding dictionaryEncoding (pre ++ layout (e :: es))
        (pre.length, maps) =
      .ok (.inl ((pre ++ LF :: e.text).length,
        maps.add t outputJisyoEncoding dictionaryEncoding (entryPair e))) := by
  obtain ⟨rest, hrest⟩ : ∃ rest, layout es = LF :: rest := ⟨_, rfl⟩
  have hlayout : layout (e :: es) = (LF :: e.midashi) ++ SP :: (e.candidates ++ LF :: rest) := by
    rw [layout_cons, hrest, Entry.text]
    simp
  have hsp : SP ∉ LF :: e.midashi := by
    rw [List.mem_cons, not_or]
    exact ⟨by decide, e.space_not_mem⟩
  have hlf : LF ∉ SP :: e.candidates := by
    rw [List.mem_cons, not_or]
    exact ⟨by decide, e.lf_not_mem_candidates⟩
  set front := LF :: e.midashi with hfront
  have htail : (sliceFrom (pre ++ layout (e :: es)) pre.length : Result Bytes) =
      .ok (layout (e :: es)) := sliceFrom_append pre _
  have hspace : find [SP] (layout (e :: es)) = some front.length := by
    rw [hlayout]
    exact find_singleton hsp
  have hline : (sliceFrom (pre ++ layout (e :: es)) (pre.length + front.length) : Result Bytes) =
      .ok (SP :: (e.candidates ++ LF :: rest)) := by
    rw [hlayout, ← List.append_assoc, ← List.length_append]
    exact sliceFrom_append _ _
  have hend : find [LF] (SP :: (e.candidates ++ LF :: rest)) = some (SP :: e.candidates).length := by
    rw [← List.cons_append]
    exact find_singleton hlf
  have hcandidates : (slice (pre ++ layout (e :: es)) (pre.length + front.length + 1)
      (pre.length + front.length + (SP :: e.candidates).length) : Result Bytes) =
        .ok e.candidates := by
    have hwhole : pre ++ layout (e :: es) =
        (pre ++ front ++ [SP]) ++ (e.candidates ++ LF :: rest) := by
      rw [hlayout]
      simp
    have hstart : pre.length + front.length + 1 = (pre ++ front ++ [SP]).length := by
      simp only [List.length_append, List.length_singleton]
    have hstop : pre.length + front.length + (SP :: e.candidates).length =
        (pre ++ front ++ [SP]).length + e.candidates.length := by
      simp only [List.length_append, List.length_cons, List.length_nil]
      omega
    rw [hwhole, hstart, hstop]
    exact slice_append _ _ _
  have hmidashi : (slice (pre ++ layout (e :: es)) (pre.length + 1) (pre.length + front.length) :
      Result Bytes) = .ok e.midashi := by
    have hwhole : pre ++ layout (e :: es) =
        (pre ++ [LF]) ++ (e.midashi ++ SP :: (e.candidates ++ LF :: rest)) := by
      rw [hlayout, hfront]
      simp
    have hstart : pre.length + 1 = (pre ++ [LF]).length := by simp
    have hstop : pre.length + front.length = (pre ++ [LF]).length + e.midashi.length := by
      rw [hfront]
      simp only [List.length_append, List.length_cons, List.length_nil]
      omega
    rw [hwhole, hstart, hstop]
    exact slice_append _ _ _
  rw [getOkuriAriNasiMapsTurn, htail, Outcome.ok_bind, hspace]
  dsimp only
  rw [hline, Outcome.ok_bind, hend]
  dsimp only
  rw [hcandidates, Outcome.ok_bind, convertCandidates_eq, Outcome.ok_bind, hmidashi,
    Outcome.ok_bind, convertMidashi_eq, Outcome.ok_bind]
  have hnext : pre.length + (front.length + (SP :: e.candidates).length) =
      (pre ++ LF :: e.text).length := by
    rw [hfront, Entry.text]
    simp only [List.length_append, List.length_cons]
    omega
  rw [hnext]
  rfl

lemma getOkuriAriNasiMapsTurn_layout_nil (pre : Bytes) (maps : OkuriMaps) :
    getOkuriAriNasiMapsTurn t outputJisyoEncoding dictionaryEncoding (pre ++ layout [])
        (pre.length, maps) = .ok (.inr maps) := by
  have htail : (sliceFrom (pre ++ layout []) pre.length : Result Bytes) = .ok (layout []) :=
    sliceFrom_append pre _
  rw [getOkuriAriNasiMapsTurn, htail, Outcome.ok_bind, layout_nil,
    find_singleton_eq_none (by decide)]
  rfl

lemma loop_getOkuriAriNasiMapsTurn (pre : Bytes) (es : List Entry) (maps : OkuriMaps) {fuel : ℕ}
    (hfuel : es.length < fuel) :
    loop (getOkuriAriNasiMapsTurn t outputJisyoEncoding dictionaryEncoding (pre ++ layout es)) fuel
        (pre.length, maps) =
      .ok ((es.map entryPair).foldl (OkuriMaps.add t outputJisyoEncoding dictionaryEncoding)
        maps) := by
  induction es generalizing pre maps fuel with
  | nil =>
    obtain ⟨fuel, rfl⟩ := Nat.exists_eq_add_of_lt hfuel
    exact loop_break (getOkuriAriNasiMapsTurn_layout_nil pre maps) _
  | cons e es ih =>
    obtain ⟨fuel, rfl⟩ : ∃ n, fuel = n + 1 := ⟨fuel - 1, by omega⟩
    have hmore : pre ++ layout (e :: es) = (pre ++ LF :: e.text) ++ layout es := by
      rw [layout_cons]
      simp
    rw [loop_continue (getOkuriAriNasiMapsTurn_layout_cons pre e es maps), hmore]
    exact ih _ _ (by simpa using hfuel)

/-- **A unit is parsed into its entries.** -/
lemma getOkuriAriNasiMaps_layout (es : List Entry) (maps : OkuriMaps) :
    getOkuriAriNasiMaps t outputJisyoEncoding dictionaryEncoding (layout es) maps =
      .ok ((es.map entryPair).foldl (OkuriMaps.add t outputJisyoEncoding dictionaryEncoding)
        maps) := by
  have hlength : es.length < (layout es).length + 1 := by
    rw [layout, delimited, List.length_cons, List.length_flatMap]
    have hsum : es.length ≤ ((es.map Entry.text).map fun x => (x ++ [LF]).length).sum := by
      rw [List.map_map]
      refine (List.length_le_sum_of_one_le _ ?_).trans' (by simp)
      intro n hn
      obtain ⟨e, -, rfl⟩ := List.mem_map.mp hn
      simp
    omega
  exact loop_getOkuriAriNasiMapsTurn [] es maps hlength

end Unit

/-! ## The units of the dictionary -/

lemma Entry.text_injective {e f : Entry} (h : e.text = f.text) : e = f := by
  have hlength : e.midashi.length = f.midashi.length := by
    have he : find [SP] e.text = some e.midashi.length := find_singleton e.space_not_mem
    have hf : find [SP] f.text = some f.midashi.length := find_singleton f.space_not_mem
    rw [h, hf] at he
    exact (Option.some.inj he).symm
  obtain ⟨hmidashi, hcandidates⟩ := List.append_inj h hlength
  obtain ⟨-, hcandidates⟩ := List.cons.inj hcandidates
  cases e
  cases f
  simp_all

/-- A unit has no two readings. -/
lemma layout_injective {es fs : List Entry} (h : layout es = layout fs) : es = fs := by
  have hsplit := congrArg (List.splitOn LF) h
  rw [layout, layout, splitOn_delimited (lf_not_mem_of_mem_texts es),
    splitOn_delimited (lf_not_mem_of_mem_texts fs)] at hsplit
  have htexts := List.append_cancel_right (List.cons.inj hsplit).2
  exact List.map_injective_iff.mpr (fun _ _ => Entry.text_injective) htexts

section Dictionary

variable {t : EncodingTables} {outputJisyoEncoding dictionaryEncoding : Encoding}
  {m : JisyoEntriesMap} {file : Bytes} {onMemory : OnMemory}
  (hencoding : onMemory.dictionaryFixedHeader.encoding = dictionaryEncoding.toU32)

include hencoding

/-- The units of the index are read one after the other. -/
lemma foldlM_readDictionaryBlockInformation {informations : List DictionaryBlockInformation}
    {units : List (List Entry)}
    (h : List.Forall₂ (IsUnitAt file onMemory.dictionaryFixedHeader.blocksOffset) informations units)
    (maps : OkuriMaps) :
    informations.foldlM (readDictionaryBlockInformation t outputJisyoEncoding onMemory file) maps =
      .ok ((units.flatten.map entryPair).foldl
        (OkuriMaps.add t outputJisyoEncoding dictionaryEncoding) maps) := by
  induction h generalizing maps with
  | nil => rfl
  | @cons v u informations units hv _ ih =>
    have hend := hv.end_le
    have hread : readExact file
        (onMemory.dictionaryFixedHeader.blocksOffset.toNat + v.offset.toNat) v.length.toNat =
          .ok (layout u) := by
      rw [readExact, hv.whole, ← hv.whole, List.length_take, List.length_drop]
      exact if_pos (by omega)
    rw [List.foldlM_cons, readDictionaryBlockInformation, hread, Outcome.ok_bind, hencoding,
      Encoding.fromU32_toU32, Outcome.ok_bind, getOkuriAriNasiMaps_layout, Outcome.ok_bind, ih,
      List.flatten_cons, List.map_append, List.foldl_append]

omit hencoding in
/-- What the index lists, read as units: entries of the map, and all of those of its keys. -/
lemma exists_units (hm : IsJisyoEntries m) {lists : List (List DictionaryBlockInformation)}
    (hlists : ∀ informations ∈ lists, informations = [] ∨ ∃ key units,
      IsUnitsOf file onMemory.dictionaryFixedHeader.blocksOffset (entriesOf m hm.isEntry key)
        informations units) :
    ∃ us, List.Forall₂ (IsUnitAt file onMemory.dictionaryFixedHeader.blocksOffset)
        lists.flatten us ∧
      (∀ e ∈ us.flatten, m[e.midashi]? = some e.candidates) ∧
      ∀ informations ∈ lists, ∀ units, List.Forall₂
        (IsUnitAt file onMemory.dictionaryFixedHeader.blocksOffset) informations units →
        ∀ e ∈ units.flatten, e ∈ us.flatten := by
  have hsame : ∀ {informations : List DictionaryBlockInformation} {us vs : List (List Entry)},
      List.Forall₂ (IsUnitAt file onMemory.dictionaryFixedHeader.blocksOffset) informations us →
      List.Forall₂ (IsUnitAt file onMemory.dictionaryFixedHeader.blocksOffset) informations vs →
      us = vs := by
    intro informations us vs hus hvs
    induction hus generalizing vs with
    | nil => exact (List.forall₂_nil_left_iff.mp hvs).symm
    | cons hu _ ih =>
      obtain ⟨v, vs, hv, htail, rfl⟩ := List.forall₂_cons_left_iff.mp hvs
      rw [ih htail, layout_injective (hu.whole.symm.trans hv.whole)]
  induction lists with
  | nil => exact ⟨[], .nil, by simp, by simp⟩
  | cons informations lists ih =>
    obtain ⟨hfirst, hrest⟩ := List.forall_mem_cons.mp hlists
    obtain ⟨us, hus, hentries, hall⟩ := ih hrest
    obtain ⟨ws, hws, hwsEntries⟩ : ∃ ws, List.Forall₂
        (IsUnitAt file onMemory.dictionaryFixedHeader.blocksOffset) informations ws ∧
        ∀ e ∈ ws.flatten, m[e.midashi]? = some e.candidates := by
      rcases hfirst with rfl | ⟨key, units, hunits⟩
      · exact ⟨[], .nil, by simp⟩
      · refine ⟨units.reverse, hunits.unitsAt, fun e he => ?_⟩
        have hmem : e ∈ units.flatten := by
          obtain ⟨u, hu, heu⟩ := List.mem_flatten.mp he
          exact List.mem_flatten.mpr ⟨u, List.mem_reverse.mp hu, heu⟩
        rw [hunits.flatten] at hmem
        exact (mem_entriesOf.mp hmem).1
    refine ⟨ws ++ us, ?_, ?_, ?_⟩
    · rw [List.flatten_cons]
      exact List.rel_append hws hus
    · rw [List.flatten_append]
      exact fun e he => (List.mem_append.mp he).elim (hwsEntries e) (hentries e)
    · intro informations' hmem units hunits e he
      rw [List.flatten_append]
      rcases List.mem_cons.mp hmem with rfl | hmem
      · rw [hsame hunits hws] at he
        exact List.mem_append_left _ he
      · exact List.mem_append_right _ (hall informations' hmem units hunits e he)

end Dictionary

/-! ## The jisyo -/

section Jisyo

variable (t : EncodingTables) (outputJisyoEncoding dictionaryEncoding : Encoding)

/-- The two maps of the entries of a dictionary. -/
def okuriMapsOf (m : JisyoEntriesMap) : OkuriMaps :=
  m.toList.foldl (OkuriMaps.add t outputJisyoEncoding dictionaryEncoding) {}

/-- The jisyo of the entries of a dictionary. -/
def jisyoOf (m : JisyoEntriesMap) : Bytes :=
  write outputJisyoEncoding (okuriMapsOf t outputJisyoEncoding dictionaryEncoding m).okuriAriMap
    (okuriMapsOf t outputJisyoEncoding dictionaryEncoding m).okuriNasiMap

variable {t outputJisyoEncoding dictionaryEncoding}

lemma okuriAriMap_foldl_add (ps : List (Bytes × Bytes)) (maps : OkuriMaps) :
    (ps.foldl (OkuriMaps.add t outputJisyoEncoding dictionaryEncoding) maps).okuriAriMap =
      ((ps.filter fun p => isOkuriAri p.1).map
        (jisyoEntry t outputJisyoEncoding dictionaryEncoding)).foldl
          (fun m p => m.insert p.1 p.2) maps.okuriAriMap := by
  induction ps generalizing maps with
  | nil => rfl
  | cons p ps ih =>
    rw [List.foldl_cons, ih, List.filter_cons, OkuriMaps.add, OkuriMaps.insert]
    cases isOkuriAri p.1 <;> rfl

lemma okuriNasiMap_foldl_add (ps : List (Bytes × Bytes)) (maps : OkuriMaps) :
    (ps.foldl (OkuriMaps.add t outputJisyoEncoding dictionaryEncoding) maps).okuriNasiMap =
      ((ps.filter fun p => !isOkuriAri p.1).map
        (jisyoEntry t outputJisyoEncoding dictionaryEncoding)).foldl
          (fun m p => m.insert p.1 p.2) maps.okuriNasiMap := by
  induction ps generalizing maps with
  | nil => rfl
  | cons p ps ih =>
    rw [List.foldl_cons, ih, List.filter_cons, OkuriMaps.add, OkuriMaps.insert]
    cases isOkuriAri p.1 <;> rfl

variable (t outputJisyoEncoding) in
/-- Entries of a dictionary that are written under one midashi are one entry. -/
def IsSingleValued (ps : List (Bytes × Bytes)) : Prop :=
  ∀ p ∈ ps, ∀ q ∈ ps,
    jisyoMidashi t outputJisyoEncoding p.1 = jisyoMidashi t outputJisyoEncoding q.1 → p = q

lemma getElem?_foldl_jisyoEntry {ps : List (Bytes × Bytes)}
    (hps : IsSingleValued t outputJisyoEncoding ps) {k v : Bytes} :
    ((ps.map (jisyoEntry t outputJisyoEncoding dictionaryEncoding)).foldl
      (fun m p => m.insert p.1 p.2) (∅ : JisyoEntriesMap))[k]? = some v ↔
        ∃ p ∈ ps, jisyoEntry t outputJisyoEncoding dictionaryEncoding p = (k, v) := by
  have hagree : ∀ p ∈ ps.map (jisyoEntry t outputJisyoEncoding dictionaryEncoding),
      ∀ q ∈ ps.map (jisyoEntry t outputJisyoEncoding dictionaryEncoding), p.1 = q.1 → p = q := by
    intro p hp q hq hpq
    obtain ⟨p', hp', rfl⟩ := List.mem_map.mp hp
    obtain ⟨q', hq', rfl⟩ := List.mem_map.mp hq
    rw [hps p' hp' q' hq' hpq]
  rw [getElem?_foldl_insert hagree, Std.ExtTreeMap.getElem?_empty, List.mem_map]
  simp

/-- The two maps are told by what is in them. -/
lemma foldl_add_congr {ps qs : List (Bytes × Bytes)}
    (hps : IsSingleValued t outputJisyoEncoding ps) (h : ∀ p, p ∈ ps ↔ p ∈ qs) :
    ps.foldl (OkuriMaps.add t outputJisyoEncoding dictionaryEncoding) {} =
      qs.foldl (OkuriMaps.add t outputJisyoEncoding dictionaryEncoding) {} := by
  have hqs : IsSingleValued t outputJisyoEncoding qs := fun p hp q hq =>
    hps p ((h p).mpr hp) q ((h q).mpr hq)
  have hfilter : ∀ keep : Bytes × Bytes → Bool,
      ((ps.filter keep).map (jisyoEntry t outputJisyoEncoding dictionaryEncoding)).foldl
          (fun m p => m.insert p.1 p.2) (∅ : JisyoEntriesMap) =
        ((qs.filter keep).map (jisyoEntry t outputJisyoEncoding dictionaryEncoding)).foldl
          (fun m p => m.insert p.1 p.2) (∅ : JisyoEntriesMap) := by
    intro keep
    have hpsKeep : IsSingleValued t outputJisyoEncoding (ps.filter keep) := fun p hp q hq =>
      hps p (List.mem_of_mem_filter hp) q (List.mem_of_mem_filter hq)
    have hqsKeep : IsSingleValued t outputJisyoEncoding (qs.filter keep) := fun p hp q hq =>
      hqs p (List.mem_of_mem_filter hp) q (List.mem_of_mem_filter hq)
    refine Std.ExtTreeMap.ext_getElem? fun k => Option.ext fun v => ?_
    rw [getElem?_foldl_jisyoEntry hpsKeep, getElem?_foldl_jisyoEntry hqsKeep]
    simp only [List.mem_filter, h]
  have hext : ∀ maps maps' : OkuriMaps, maps.okuriAriMap = maps'.okuriAriMap →
      maps.okuriNasiMap = maps'.okuriNasiMap → maps = maps' := by
    intro maps maps' hari hnasi
    cases maps
    cases maps'
    rw [OkuriMaps.mk.injEq]
    exact ⟨hari, hnasi⟩
  apply hext
  · rw [okuriAriMap_foldl_add, okuriAriMap_foldl_add]
    exact hfilter _
  · rw [okuriNasiMap_foldl_add, okuriNasiMap_foldl_add]
    exact hfilter _

variable {m : JisyoEntriesMap} {file : Bytes} {onMemory : OnMemory}

/-- **The jisyo of a dictionary is told by its entries**: neither the order of the index nor the
places of the units show. -/
theorem create_eq_jisyoOf (h : IsLoaded m file onMemory) (hm : IsJisyoEntries m)
    (hencoding : onMemory.dictionaryFixedHeader.encoding = dictionaryEncoding.toU32)
    {indexMapValues : List (List DictionaryBlockInformation)}
    (hvalues : indexMapValues.Perm (onMemory.indexMap.toList.map Prod.snd))
    (hsingle : IsSingleValued t outputJisyoEncoding m.toList) :
    create t outputJisyoEncoding onMemory indexMapValues file =
      .ok (jisyoOf t outputJisyoEncoding dictionaryEncoding m) := by
  have hlists : ∀ informations, informations ∈ indexMapValues ++ onMemory.indexAsciiHiraganaVec ↔
      Indexed onMemory.indexMap onMemory.indexAsciiHiraganaVec informations := by
    intro informations
    rw [List.mem_append, hvalues.mem_iff, List.mem_map, Indexed]
    refine or_congr ⟨?_, ?_⟩ Iff.rfl
    · rintro ⟨p, hp, rfl⟩
      exact ⟨p.1, Std.ExtTreeMap.mem_toList_iff_getElem?_eq_some.mp hp⟩
    · rintro ⟨key, hkey⟩
      exact ⟨(key, informations), Std.ExtTreeMap.mem_toList_iff_getElem?_eq_some.mpr hkey, rfl⟩
  obtain ⟨us, hus, hentries, hall⟩ := exists_units hm fun informations hmem =>
    h.indexed_cases hm ((hlists informations).mp hmem)
  have hmem : ∀ p, p ∈ us.flatten.map entryPair ↔ p ∈ m.toList := by
    intro p
    rw [List.mem_map, Std.ExtTreeMap.mem_toList_iff_getElem?_eq_some]
    constructor
    · rintro ⟨e, he, rfl⟩
      exact hentries e he
    · intro hget
      obtain ⟨informations, key, units, hindexed, hunits, e, he, hmidashi, hcandidates⟩ :=
        h.exists_indexed hm hget
      rw [← hunits.flatten] at he
      refine ⟨e, hall informations ((hlists informations).mpr hindexed) units.reverse
        hunits.unitsAt e ?_, Prod.ext hmidashi hcandidates⟩
      obtain ⟨u, hu, heu⟩ := List.mem_flatten.mp he
      exact List.mem_flatten.mpr ⟨u, List.mem_reverse.mpr hu, heu⟩
  have hsingle' : IsSingleValued t outputJisyoEncoding (us.flatten.map entryPair) :=
    fun p hp q hq => hsingle p ((hmem p).mp hp) q ((hmem q).mp hq)
  rw [create, foldlM_readDictionaryBlockInformation hencoding hus, Outcome.ok_bind,
    foldl_add_congr hsingle' hmem]
  rfl

end Jisyo

end JisyoCreator

end Yaskkserv2
