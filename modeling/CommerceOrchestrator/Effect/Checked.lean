/-
# `CommerceOrchestrator.Effect.Checked` — machine arithmetic that may go out of range

An operation on machine integers gives the exact result if that fits, and nothing if it does
not.
-/
import Mathlib.Algebra.Order.Ring.Nat

namespace Effect

variable {w a b n : Nat}

/-- `a + b` on unsigned integers of `w` bits. -/
def checkedAdd (w a b : Nat) : Option Nat := if a + b < 2 ^ w then some (a + b) else none

/-- `a << n` on unsigned integers of `w` bits, for which there must be `n` bits to shift by. -/
def checkedShl (w a n : Nat) : Option Nat := if n < w then some (a <<< n % 2 ^ w) else none

theorem checkedAdd_eq (h : a + b < 2 ^ w) : checkedAdd w a b = some (a + b) := if_pos h

/-- A single bit stays in the word. -/
theorem checkedShl_one (h : n < w) : checkedShl w 1 n = some (2 ^ n) := by
  rw [checkedShl, if_pos h, Nat.one_shiftLeft,
    Nat.mod_eq_of_lt (Nat.pow_lt_pow_right one_lt_two h)]

end Effect
