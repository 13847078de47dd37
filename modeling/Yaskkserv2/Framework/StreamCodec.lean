import Yaskkserv2.Framework.LittleEndian

/-!
# Formats that say where they end

A `StreamCodec` writes a value as bytes and reads it off the front of a buffer: what it has written
is read back, whatever follows it, and what follows it is left.  That law is a field, so a format
that is put together of others is one again.  The formats here are the byte, the pair, and the list
behind its number of elements, a little-endian word of eight bytes.
-/

namespace Framework

universe u v

/-- A format whose texts say where they end. -/
structure StreamCodec (α : Type u) where
  encode : α → List UInt8
  decode : List UInt8 → Option (α × List UInt8)
  /-- the values that the format can hold -/
  fits : α → Bool
  decode_encode : ∀ a rest, fits a = true → decode (encode a ++ rest) = some (a, rest)

namespace StreamCodec

variable {α : Type u} {β : Type v}

/-- A byte. -/
def byte : StreamCodec UInt8 where
  encode b := [b]
  decode bs := bs.head?.map fun b => (b, bs.tail)
  fits _ := true
  decode_encode _ _ _ := rfl

/-- A word of eight bytes. -/
def word : StreamCodec ℕ where
  encode n := leBytes 8 n
  decode bs := if 8 ≤ bs.length then some (leValue (bs.take 8), bs.drop 8) else none
  fits n := n < 2 ^ 64
  decode_encode n rest h := by
    have hlength : (leBytes 8 n).length = 8 := length_leBytes 8 n
    have hlt : n < 256 ^ 8 := of_decide_eq_true h
    rw [if_pos (by rw [List.length_append, hlength]; omega), List.take_left' hlength,
      List.drop_left' hlength, leValue_leBytes, Nat.mod_eq_of_lt hlt]

/-- One value behind the other. -/
def pair (c : StreamCodec α) (d : StreamCodec β) : StreamCodec (α × β) where
  encode p := c.encode p.1 ++ d.encode p.2
  decode bs := (c.decode bs).bind fun p => (d.decode p.2).map fun q => ((p.1, q.1), q.2)
  fits p := c.fits p.1 && d.fits p.2
  decode_encode p rest h := by
    obtain ⟨hfirst, hsecond⟩ := Bool.and_eq_true_iff.mp h
    rw [List.append_assoc, c.decode_encode _ _ hfirst, Option.bind_some,
      d.decode_encode _ _ hsecond]
    rfl

/-- So many values, one behind the other. -/
def decodeMany (c : StreamCodec α) : ℕ → List UInt8 → Option (List α × List UInt8)
  | 0, bs => some ([], bs)
  | n + 1, bs => (c.decode bs).bind fun p => (c.decodeMany n p.2).map fun q => (p.1 :: q.1, q.2)

lemma decodeMany_flatMap (c : StreamCodec α) {as : List α} (h : ∀ a ∈ as, c.fits a = true)
    (rest : List UInt8) :
    c.decodeMany as.length (as.flatMap c.encode ++ rest) = some (as, rest) := by
  induction as with
  | nil => rfl
  | cons a as ih =>
    obtain ⟨ha, has⟩ := List.forall_mem_cons.mp h
    rw [List.length_cons, decodeMany, List.flatMap_cons, List.append_assoc,
      c.decode_encode _ _ ha, Option.bind_some, ih has]
    rfl

/-- A list behind its length. -/
def list (c : StreamCodec α) : StreamCodec (List α) where
  encode as := word.encode as.length ++ as.flatMap c.encode
  decode bs := (word.decode bs).bind fun p => c.decodeMany p.1 p.2
  fits as := word.fits as.length && as.all c.fits
  decode_encode as rest h := by
    obtain ⟨hlength, hall⟩ := Bool.and_eq_true_iff.mp h
    rw [List.append_assoc, word.decode_encode _ _ hlength, Option.bind_some]
    exact c.decodeMany_flatMap (List.all_eq_true.mp hall) rest

/-- No list is shorter than the empty one. -/
lemma length_encode_nil_le (c : StreamCodec α) (as : List α) :
    (c.list.encode []).length ≤ (c.list.encode as).length := by
  have hword : ∀ n, (word.encode n).length = 8 := fun n => length_leBytes 8 n
  rw [list, List.length_append, List.length_append, hword, hword]
  exact Nat.add_le_add_left (Nat.zero_le _) 8

end StreamCodec

end Framework
