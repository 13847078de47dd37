import Mathlib

/-!
# Layered settings

A setting that two sources may give has the value of the first source that gives it, else its
default (`layered`).  A program that does not remember which source gave a value may fill in the
second source wherever the value is still the default (`fillIn`); the two differ only for a value
that was given and is the default (`fillIn_eq_layered_iff`).
-/

namespace Framework

variable {α : Type*} {given assigned : Option α} {value default : α}

/-- The value that was given, else the one assigned, else the default. -/
def layered (given assigned : Option α) (default : α) : α := (given.or assigned).getD default

/-- The value as it is, or the one assigned where it is the default. -/
def fillIn [DecidableEq α] (default value : α) (assigned : Option α) : α :=
  if value = default then assigned.getD value else value

@[simp] lemma layered_none_left : layered none assigned default = assigned.getD default := by
  rw [layered, Option.none_or]

@[simp] lemma layered_none_right : layered given none default = given.getD default := by
  rw [layered, Option.or_none]

@[simp] lemma layered_some (given : α) : layered (some given) assigned default = given := rfl

@[simp] lemma fillIn_none [DecidableEq α] : fillIn default value none = value := by
  rw [fillIn, Option.getD_none, ite_self]

lemma fillIn_self [DecidableEq α] (default : α) (assigned : Option α) :
    fillIn default default assigned = assigned.getD default := if_pos rfl

lemma fillIn_of_ne [DecidableEq α] (h : value ≠ default) : fillIn default value assigned = value :=
  if_neg h

/-- What was given stays, unless it is the default and another value is assigned. -/
lemma fillIn_eq_layered_iff [DecidableEq α] :
    fillIn default (given.getD default) assigned = layered given assigned default ↔
      ∀ v ∈ given, v = default → ∀ w ∈ assigned, w = default := by
  cases given with
  | none => simp [fillIn_self]
  | some v =>
    by_cases hv : v = default
    · subst hv
      cases assigned <;> simp [fillIn_self]
    · simp [fillIn_of_ne hv, hv]

end Framework
