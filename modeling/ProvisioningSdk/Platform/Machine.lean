import Mathlib.Algebra.Group.Nat.Defs

/-!
# The Machine

The arithmetic of the C types and the ways a program stops, shared by all
models.

## Main definitions

* `u32`, `u32Pred`, `u64`: Unsigned arithmetic that wraps.
* `Fault`: What stops a program before it returns.

## Theorems

* `bind_eq_ok`: A computation in two parts returns if both do.
-/

namespace ProvisioningSdk

/-- The value of a `uint32_t` expression. -/
def u32 (x : Nat) : Nat := x % 2 ^ 32

theorem u32_of_lt (x : Nat) (h : x < 2 ^ 32) : u32 x = x := Nat.mod_eq_of_lt h

/-- One less than a `uint32_t`, wrapping below zero. -/
def u32Pred (x : Nat) : Nat := if x = 0 then 2 ^ 32 - 1 else x - 1

theorem u32Pred_of_pos (x : Nat) (h : 0 < x) : u32Pred x = x - 1 := if_neg (by omega)

/-- The value of a `size_t` expression. -/
def u64 (x : Nat) : Nat := x % 2 ^ 64

theorem u64_of_lt (x : Nat) (h : x < 2 ^ 64) : u64 x = x := Nat.mod_eq_of_lt h

/-- What stops a program before it returns. -/
inductive Fault
  | nullDereference
  | assertionFailed
  deriving DecidableEq, Repr

/-- A computation that goes on after a first one. -/
theorem bind_eq_ok {ε α β : Type} {x : Except ε α} {f : α → Except ε β} {b : β} :
    (x >>= f) = .ok b ↔ ∃ a, x = .ok a ∧ f a = .ok b := by
  cases x with
  | error e =>
      constructor
      · intro h
        cases h
      · rintro ⟨a, h, -⟩
        cases h
  | ok a =>
      constructor
      · intro h
        exact ⟨a, rfl, h⟩
      · rintro ⟨a', h, hf⟩
        cases h
        exact hf

end ProvisioningSdk
