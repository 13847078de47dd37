import Yaskkserv2.Properties.Service
import Yaskkserv2.Properties.StoredCandidates

/-!
# From the jisyo to the replies

Between the lines of a jisyo and the reply to a client lie two programs and a file: the reader of
the jisyo, the builder, the loader, and the server with its event loop.  None of that is seen by
somebody who knows the jisyo and types a midashi.

`IsServed` says what that person may expect, from the candidates that the lines of the jisyo list.
Only for completions it matters how the dictionary was cut: a unit may hide them.
`System.replies_areServed` puts the two programs together: a dictionary that is built from proper
lines, and loaded, is served so, in every run.
-/

namespace Yaskkserv2

open Framework Dictionary DictionaryCreator JisyoReader

/-- What is stored has candidates. -/
lemma JisyoReader.Stores.mem_iff {m : JisyoEntriesMap} {candidates : Bytes → List Bytes}
    (h : Stores m candidates) {midashi : Bytes} : midashi ∈ m ↔ candidates midashi ≠ [] := by
  rw [← Std.ExtTreeMap.isSome_getElem?_iff_mem, h.get]
  by_cases hnil : candidates midashi = []
  · simp [hnil]
  · simp [hnil]

namespace DictionaryReader

/-! ## What a reader of the jisyo may expect -/

/-- All completions of a prefix among what is listed, in their order. -/
structure AreCompletions (candidates : Bytes → List Bytes) (midashi : Bytes) (all : List Bytes) :
    Prop where
  ordered : all.Pairwise (· < ·)
  mem_iff : ∀ word, word ∈ all ↔
    candidates word ≠ [] ∧ midashi <+: word ∧ ¬ IsOkuriAriMidashi (eucCharacters word)

/-- Completions of a prefix that are offered. -/
def IsOffered (r : DictionaryReader) (candidates : Bytes → List Bytes) (midashi : Bytes)
    (words : List Bytes) : Prop :=
  ∃ all, AreCompletions candidates midashi all ∧ IsCompletionList r midashi all words

/-- **What is expected** of the reply to a request, other than `0`, where these candidates are
listed of each midashi. -/
inductive IsServed (r : DictionaryReader) (encoding : Encoding) (candidates : Bytes → List Bytes)
    (request : Bytes) : Bytes → Prop
  | plain {command : UInt8} (head : request.head? = some command)
      (other : command ≠ 0x30 ∧ command ≠ 0x31 ∧ command ≠ 0x34) :
    IsServed r encoding candidates request (r.plainReply command)
  | error (head : request.head? = some 0x31 ∨ request.head? = some 0x34)
      (refused : Refuses (r.eucRequest request)) :
    IsServed r encoding candidates request PROTOCOL_RESULT_ERROR
  | found {midashi : Bytes} {last : UInt8}
      (euc : r.eucRequest request = [0x31] ++ midashi ++ [last])
      (answers : ¬ Refuses ([0x31] ++ midashi ++ [last])) (listed : candidates midashi ≠ []) :
    IsServed r encoding candidates request
      ([0x31] ++ delimited SLASH (candidates midashi) ++ [LF])
  | notFound {midashi : Bytes} {last : UInt8}
      (euc : r.eucRequest request = [0x31] ++ midashi ++ [last])
      (answers : ¬ Refuses ([0x31] ++ midashi ++ [last])) (missing : candidates midashi = []) :
    IsServed r encoding candidates request (echo ([0x34] ++ midashi ++ [last]))
  | completed {midashi : Bytes} {last : UInt8} {words : List Bytes}
      (euc : r.eucRequest request = [0x34] ++ midashi ++ [last])
      (answers : ¬ Refuses ([0x34] ++ midashi ++ [last]))
      (offered : IsOffered r candidates midashi words) (some : words ≠ [])
      (shown : (encoding = .Utf8 → ∀ word ∈ words.dropLast, Euc.IsEucText word) →
        abbrevReply r.tables encoding words = completionReply r.tables encoding words) :
    IsServed r encoding candidates request (abbrevReply r.tables encoding words ++ [LF])
  | notCompleted {midashi : Bytes} {last : UInt8}
      (euc : r.eucRequest request = [0x34] ++ midashi ++ [last])
      (answers : ¬ Refuses ([0x34] ++ midashi ++ [last]))
      (offered : IsOffered r candidates midashi []) :
    IsServed r encoding candidates request (echo ([0x34] ++ midashi ++ [last]))

section Stores

variable {m : JisyoEntriesMap} {candidates : Bytes → List Bytes} (h : Stores m candidates)
  {r : DictionaryReader}

include h

/-- The completions among what is stored are those among what is listed. -/
lemma areCompletions_completionsOf (midashi : Bytes) :
    AreCompletions candidates midashi (completionsOf midashi m.keys) where
  ordered := by
    have hkeys : m.keys.Pairwise (· < ·) :=
      Std.ExtTreeMap.ordered_keys.imp fun hlt => compare_eq_lt_iff.mp hlt
    exact hkeys.filter _
  mem_iff word := by rw [mem_completionsOf, Std.ExtTreeMap.mem_keys, h.mem_iff]

/-- What the server promises of its entries is what the jisyo promises. -/
lemma IsReply.isServed {encoding : Encoding} {request reply : Bytes}
    (hreply : IsReply r m encoding request reply) :
    IsServed r encoding candidates request reply := by
  cases hreply with
  | plain head other => exact .plain head other
  | error head refused => exact .error head refused
  | found euc answers stored =>
    rw [h.get] at stored
    split at stored
    · simp at stored
    · rename_i hne
      rw [← Option.some.inj stored]
      exact .found euc answers hne
  | notFound euc answers missing =>
    exact .notFound euc answers (not_not.mp (mt h.mem_iff.mpr missing))
  | completed euc answers offered some shown =>
    exact .completed euc answers ⟨_, areCompletions_completionsOf h _, offered⟩ some shown
  | notCompleted euc answers offered =>
    exact .notCompleted euc answers ⟨_, areCompletions_completionsOf h _, offered⟩

end Stores

end DictionaryReader

/-! ## Runs -/

open DictionaryReader

lemma recordFits_listedEntries : ∀ blockMap, createTemporaryBlockMap listedEntries = .ok blockMap →
    ∀ p ∈ blockMap.toList, RecordFits p.2 := by
  intro blockMap h
  have hmap : createTemporaryBlockMap listedEntries = .ok ((∅ : TemporaryBlockMap).insert
      #v[0x61, 0, 0, 0] (ascii "\na /b/c/\naab /y/z/\n")) := rfl
  rw [hmap, Outcome.ok.injEq] at h
  subst h
  intro p hp alignedBlock informations hblock
  obtain rfl : p = (#v[0x61, 0, 0, 0], ascii "\na /b/c/\naab /y/z/\n") := by
    simpa using (show p ∈ [(#v[0x61, 0, 0, 0], ascii "\na /b/c/\naab /y/z/\n")] from hp)
  have hcut : getDictionaryBlockInformations (ascii "\na /b/c/\naab /y/z/\n") 0 [] =
      .ok (ascii "\na /b/c/\naab /y/z/\nXXXXXXXXXXXXX", [⟨ascii "a", 0, 19⟩]) := rfl
  rw [hcut, Outcome.ok.injEq, Prod.mk.injEq] at hblock
  rw [← hblock.2]
  decide

end Yaskkserv2
