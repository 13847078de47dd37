import Mathlib

/-!
# Outcomes of fallible code

A call of a systems program ends in one of four ways: it returns a value, it returns an error
that its caller handles, it stops the thread (an index out of range, a failed assertion, an
arithmetic underflow), or it never comes back.  `Outcome ε α` keeps the four apart, so that
"returns an error" and "kills the process" are different facts about a program.

The module gives the monad and its equation lemmas, the checked accesses a program makes to a
buffer (`index`, `slice`, `sliceFrom`, `sliceTo`), and one bounded loop `loop` with its rule
`loop_total`: an invariant and a measure that every turn lowers give a result for every fuel
above the measure.
-/

namespace Framework

universe u v w

/-- What a call comes to. -/
inductive Outcome (ε : Type u) (α : Type v) : Type (max u v) where
  /-- the call returns a value -/
  | ok (value : α)
  /-- the call returns an error to its caller -/
  | error (e : ε)
  /-- the call stops the thread -/
  | panic
  /-- the call has not come back within its fuel -/
  | diverge
  deriving DecidableEq, Repr

namespace Outcome

variable {ε : Type u} {α β : Type v}

/-- Sequencing: everything but a value is passed on. -/
protected def bind : Outcome ε α → (α → Outcome ε β) → Outcome ε β
  | ok a, f => f a
  | error e, _ => error e
  | panic, _ => panic
  | diverge, _ => diverge

instance : Monad (Outcome.{u, v} ε) where
  pure := ok
  bind := Outcome.bind

@[simp] lemma pure_eq (a : α) : (pure a : Outcome ε α) = ok a := rfl
@[simp] lemma ok_bind (a : α) (f : α → Outcome ε β) : (ok a >>= f) = f a := rfl
@[simp] lemma error_bind (e : ε) (f : α → Outcome ε β) : (error e >>= f) = error e := rfl
@[simp] lemma panic_bind (f : α → Outcome ε β) : ((panic : Outcome ε α) >>= f) = panic := rfl
@[simp] lemma diverge_bind (f : α → Outcome ε β) :
    ((diverge : Outcome ε α) >>= f) = diverge := rfl

@[simp] lemma map_ok (f : α → β) (a : α) : f <$> (ok a : Outcome ε α) = ok (f a) := rfl

instance : LawfulMonad (Outcome.{u, v} ε) :=
  LawfulMonad.mk' _ (fun x => by cases x <;> rfl) (fun _ _ => rfl)
    (fun x _ _ => by cases x <;> rfl)

/-- A sequence returns a value exactly when each of its two halves does. -/
lemma bind_eq_ok {x : Outcome ε α} {f : α → Outcome ε β} {b : β} :
    (x >>= f) = ok b ↔ ∃ a, x = ok a ∧ f a = ok b := by
  cases x <;> simp

/-- The call comes back to its caller: it neither panics nor runs forever. -/
def Returns : Outcome ε α → Prop
  | ok _ => True
  | error _ => True
  | panic => False
  | diverge => False

@[simp] lemma returns_ok (a : α) : (ok a : Outcome ε α).Returns := trivial
@[simp] lemma returns_error (e : ε) : (error e : Outcome ε α).Returns := trivial
@[simp] lemma not_returns_panic : ¬ (panic : Outcome ε α).Returns := id
@[simp] lemma not_returns_diverge : ¬ (diverge : Outcome ε α).Returns := id

instance (x : Outcome ε α) : Decidable x.Returns := by
  cases x <;> simp only [Returns] <;> infer_instance

/-- The call returns no error: it returns a value, if it comes back. -/
def ErrorFree (x : Outcome ε α) : Prop := ∀ e, x ≠ error e

lemma errorFree_ok (a : α) : (ok a : Outcome ε α).ErrorFree := fun _ => by simp

lemma errorFree_panic : (panic : Outcome ε α).ErrorFree := fun _ => by simp

lemma ErrorFree.bind {x : Outcome ε α} {f : α → Outcome ε β} (hx : x.ErrorFree)
    (hf : ∀ a, (f a).ErrorFree) : (x >>= f).ErrorFree := by
  cases x with
  | ok a => exact hf a
  | error e => exact absurd rfl (hx e)
  | panic | diverge => simp [ErrorFree]

lemma ErrorFree.mapM {f : α → Outcome ε β} (hf : ∀ a, (f a).ErrorFree) (xs : List α) :
    (xs.mapM f).ErrorFree := by
  induction xs with
  | nil => exact errorFree_ok []
  | cons x xs ih =>
    rw [List.mapM_cons]
    exact (hf x).bind fun a => ih.bind fun as => errorFree_ok (a :: as)

end Outcome

/-! ## Checked access to a buffer -/

section Access

variable {ε : Type u} {α : Type v}

open Outcome

/-- `xs[i]`. -/
def index (xs : List α) (i : ℕ) : Outcome ε α :=
  match xs[i]? with
  | some x => ok x
  | none => panic

/-- `&xs[i..j]`. -/
def slice (xs : List α) (i j : ℕ) : Outcome ε (List α) :=
  if i ≤ j ∧ j ≤ xs.length then ok ((xs.take j).drop i) else panic

/-- `&xs[i..]`. -/
def sliceFrom (xs : List α) (i : ℕ) : Outcome ε (List α) :=
  if i ≤ xs.length then ok (xs.drop i) else panic

/-- `&xs[..j]`. -/
def sliceTo (xs : List α) (j : ℕ) : Outcome ε (List α) :=
  if j ≤ xs.length then ok (xs.take j) else panic

@[simp] lemma index_cons_zero (x : α) (xs : List α) :
    (index (x :: xs) 0 : Outcome ε α) = ok x := rfl

lemma index_eq_ok {xs : List α} {i : ℕ} {x : α} :
    (index xs i : Outcome ε α) = ok x ↔ xs[i]? = some x := by
  unfold index
  cases xs[i]? <;> simp

lemma index_of_lt {xs : List α} {i : ℕ} (h : i < xs.length) :
    (index xs i : Outcome ε α) = ok xs[i] := by
  rw [index_eq_ok, List.getElem?_eq_getElem h]

lemma index_append_of_eq_ok {xs : List α} {i : ℕ} {x : α}
    (h : (index xs i : Outcome ε α) = ok x) (ys : List α) :
    (index (xs ++ ys) i : Outcome ε α) = ok x := by
  rw [index_eq_ok] at h ⊢
  have hlt : i < xs.length := (List.getElem?_eq_some_iff.mp h).1
  rw [List.getElem?_append_left hlt, h]

lemma slice_of_le {xs : List α} {i j : ℕ} (hij : i ≤ j) (hj : j ≤ xs.length) :
    (slice xs i j : Outcome ε (List α)) = ok ((xs.take j).drop i) := if_pos ⟨hij, hj⟩

lemma sliceFrom_of_le {xs : List α} {i : ℕ} (h : i ≤ xs.length) :
    (sliceFrom xs i : Outcome ε (List α)) = ok (xs.drop i) := if_pos h

lemma sliceTo_of_le {xs : List α} {j : ℕ} (h : j ≤ xs.length) :
    (sliceTo xs j : Outcome ε (List α)) = ok (xs.take j) := if_pos h

lemma sliceTo_of_lt {xs : List α} {j : ℕ} (h : xs.length < j) :
    (sliceTo xs j : Outcome ε (List α)) = panic := if_neg (by omega)

/-- An access beyond a prefix is an access to what follows the prefix. -/
lemma index_append_add (xs ys : List α) (k : ℕ) :
    (index (xs ++ ys) (xs.length + k) : Outcome ε α) = index ys k := by
  simp only [index, List.getElem?_append_right (Nat.le_add_right _ _), Nat.add_sub_cancel_left]

lemma index_append_length (xs ys : List α) :
    (index (xs ++ ys) xs.length : Outcome ε α) = index ys 0 := index_append_add xs ys 0

lemma slice_append_add (xs ys : List α) (i j : ℕ) :
    (slice (xs ++ ys) (xs.length + i) (xs.length + j) : Outcome ε (List α)) = slice ys i j := by
  simp only [slice, List.length_append, Nat.add_le_add_iff_left]
  congr 2
  simp [List.take_append, List.drop_append]

lemma slice_append_length (xs ys : List α) (j : ℕ) :
    (slice (xs ++ ys) xs.length (xs.length + j) : Outcome ε (List α)) = slice ys 0 j :=
  slice_append_add xs ys 0 j

/-- The middle of three pieces, as a slice. -/
lemma slice_append (xs ys zs : List α) :
    (slice (xs ++ (ys ++ zs)) xs.length (xs.length + ys.length) : Outcome ε (List α)) =
      ok ys := by
  rw [slice_of_le (by omega) (by simp only [List.length_append]; omega)]
  simp [List.take_append]

lemma sliceFrom_append (xs ys : List α) :
    (sliceFrom (xs ++ ys) xs.length : Outcome ε (List α)) = ok ys := by
  rw [sliceFrom_of_le (by simp)]
  simp

lemma sliceTo_append (xs ys : List α) :
    (sliceTo (xs ++ ys) xs.length : Outcome ε (List α)) = ok xs := by
  rw [sliceTo_of_le (by simp)]
  simp

end Access

/-! ## Bounded loops -/

section Loop

variable {ε : Type u} {σ β : Type v}

open Outcome

/-- A `loop { .. }` whose body either goes on with a new state (`inl`) or breaks with a value
(`inr`), cut off after `fuel` turns. -/
def loop (step : σ → Outcome ε (σ ⊕ β)) : ℕ → σ → Outcome ε β
  | 0, _ => diverge
  | fuel + 1, s => step s >>= fun
    | .inl s' => loop step fuel s'
    | .inr b => ok b

lemma loop_continue {step : σ → Outcome ε (σ ⊕ β)} {s s' : σ} (h : step s = ok (.inl s'))
    (fuel : ℕ) : loop step (fuel + 1) s = loop step fuel s' := by
  rw [loop, h, ok_bind]

lemma loop_break {step : σ → Outcome ε (σ ⊕ β)} {s : σ} {b : β} (h : step s = ok (.inr b))
    (fuel : ℕ) : loop step (fuel + 1) s = ok b := by
  rw [loop, h, ok_bind]

lemma loop_error {step : σ → Outcome ε (σ ⊕ β)} {s : σ} {e : ε} (h : step s = error e)
    (fuel : ℕ) : loop step (fuel + 1) s = error e := by
  rw [loop, h, error_bind]

lemma loop_panic {step : σ → Outcome ε (σ ⊕ β)} {s : σ} (h : step s = panic)
    (fuel : ℕ) : loop step (fuel + 1) s = panic := by
  rw [loop, h, panic_bind]

/-- The rule for a loop that always breaks: every turn from a state of the invariant either
breaks with a value of the postcondition, or keeps the invariant and lowers the measure. -/
theorem loop_total {step : σ → Outcome ε (σ ⊕ β)} (inv : σ → Prop) (post : β → Prop)
    (measure : σ → ℕ)
    (turn : ∀ s, inv s →
      (∃ s', step s = ok (.inl s') ∧ inv s' ∧ measure s' < measure s) ∨
      (∃ b, step s = ok (.inr b) ∧ post b))
    {fuel : ℕ} {s : σ} (hs : inv s) (hfuel : measure s < fuel) :
    ∃ b, loop step fuel s = ok b ∧ post b := by
  induction fuel generalizing s with
  | zero => omega
  | succ fuel ih =>
    rcases turn s hs with ⟨s', hstep, hs', hlt⟩ | ⟨b, hstep, hb⟩
    · rw [loop_continue hstep]
      exact ih hs' (by omega)
    · exact ⟨b, loop_break hstep fuel, hb⟩

/-- The rule for a loop that has broken: what every turn keeps holds when it breaks. -/
theorem loop_partial {step : σ → Outcome ε (σ ⊕ β)} (inv : σ → Prop) (post : β → Prop)
    (next : ∀ s s', inv s → step s = ok (.inl s') → inv s')
    (last : ∀ s b, inv s → step s = ok (.inr b) → post b)
    {fuel : ℕ} {s : σ} {b : β} (hs : inv s) (h : loop step fuel s = ok b) : post b := by
  induction fuel generalizing s with
  | zero => simp [loop] at h
  | succ fuel ih =>
    rw [loop, bind_eq_ok] at h
    obtain ⟨r, hstep, hrest⟩ := h
    rcases r with s' | b'
    · exact ih (next s s' hs hstep) hrest
    · rw [ok.injEq] at hrest
      rw [← hrest]
      exact last s b' hs hstep

/-- A map of the states and the results that every turn respects is respected by the loop. -/
theorem loop_map {τ γ : Type v} {step : σ → Outcome ε (σ ⊕ β)} {step' : τ → Outcome ε (τ ⊕ γ)}
    (f : σ → τ) (g : β → γ) (turn : ∀ s, step' (f s) = Sum.map f g <$> step s) (fuel : ℕ)
    (s : σ) : loop step' fuel (f s) = g <$> loop step fuel s := by
  induction fuel generalizing s with
  | zero => rfl
  | succ fuel ih =>
    rw [loop, loop, turn, map_bind, bind_map_left]
    congr 1
    funext r
    rcases r with s' | b
    · exact ih s'
    · rfl

end Loop

end Framework
