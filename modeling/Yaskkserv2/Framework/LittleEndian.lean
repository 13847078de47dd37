import Yaskkserv2.Framework.Outcome

/-!
# Little-endian words

The memory image of a `u32` on a little-endian machine: four bytes, least significant first.
`ofLeU32` reads one off the front of a buffer, and undoes `leU32` whatever follows it
(`ofLeU32_append`).
-/

namespace Framework

/-- The `w` low bytes of a number, least significant first. -/
def leBytes : ℕ → ℕ → List UInt8
  | 0, _ => []
  | w + 1, n => UInt8.ofNat n :: leBytes w (n / 256)

/-- The number whose bytes these are. -/
def leValue (bs : List UInt8) : ℕ := bs.foldr (fun b n => b.toNat + 256 * n) 0

@[simp] lemma length_leBytes (w n : ℕ) : (leBytes w n).length = w := by
  induction w generalizing n with
  | zero => rfl
  | succ w ih => simp [leBytes, ih]

lemma leValue_leBytes (w n : ℕ) : leValue (leBytes w n) = n % 256 ^ w := by
  induction w generalizing n with
  | zero => simp [leBytes, leValue, Nat.mod_one]
  | succ w ih =>
    have hcons : leValue (leBytes (w + 1) n) = n % 256 + 256 * leValue (leBytes w (n / 256)) := by
      simp [leBytes, leValue]
    rw [hcons, ih, pow_succ', Nat.mod_mul]

/-- The four bytes of a word. -/
def leU32 (v : UInt32) : List UInt8 := leBytes 4 v.toNat

/-- The word at the front of a buffer. -/
def ofLeU32 (bs : List UInt8) : UInt32 := UInt32.ofNat (leValue (bs.take 4))

@[simp] lemma length_leU32 (v : UInt32) : (leU32 v).length = 4 := length_leBytes 4 _

@[simp] lemma ofLeU32_append (v : UInt32) (rest : List UInt8) :
    ofLeU32 (leU32 v ++ rest) = v := by
  have hlt : v.toNat < 256 ^ 4 := v.toNat_lt
  rw [ofLeU32, List.take_left' (length_leU32 v), leU32, leValue_leBytes, Nat.mod_eq_of_lt hlt,
    UInt32.ofNat_toNat]

end Framework
