/-
# `CommerceOrchestrator.Text.Decimal` — 64-bit integers in decimal

An integer is written with its digits and a minus sign if it is negative, and read back from
a sign that may be missing and at least one digit, if it fits.
-/
import CommerceOrchestrator.Text.Chars

namespace Text

/-- `format!("{n}")`. -/
def renderInt (n : Int64) : Chars :=
  if n.toInt < 0 then '-' :: Nat.toDigits 10 n.toInt.natAbs else Nat.toDigits 10 n.toInt.natAbs

/-- The number that digits denote; there is at least one. -/
def digits (s : Chars) : Option Nat :=
  if s ≠ [] ∧ s.all Char.isDigit then some (Nat.ofDigitChars 10 s 0) else none

/-- The integer, if it fits. -/
def fit (n : Int) : Option Int64 :=
  if -2 ^ 63 ≤ n ∧ n < 2 ^ 63 then some (.ofInt n) else none

/-- `str::parse::<i64>`. -/
def parseInt : Chars → Option Int64
  | '-' :: s => (digits s).bind fun n => fit (-n)
  | '+' :: s => (digits s).bind fun n => fit n
  | s => (digits s).bind fun n => fit n

theorem digits_toDigits (n : Nat) : digits (Nat.toDigits 10 n) = some n := by
  rw [digits, if_pos, Nat.ofDigitChars_ten_toDigits]
  refine ⟨Nat.toDigits_ne_nil, List.all_eq_true.mpr fun c hc => ?_⟩
  exact Nat.isDigit_of_mem_toDigits (by omega) (by omega) hc

theorem fit_toInt (n : Int64) : fit n.toInt = some n := by
  rw [fit, if_pos ⟨n.minValue_le_toInt, n.toInt_lt⟩, Int64.ofInt_toInt]

theorem fit_of_range {n : Int} (h : -2 ^ 63 ≤ n ∧ n < 2 ^ 63) : fit n = some (.ofInt n) := if_pos h

theorem fit_eq_none {n : Int} (h : ¬ (-2 ^ 63 ≤ n ∧ n < 2 ^ 63)) : fit n = none := if_neg h

theorem parseInt_of_digit {c : Char} {s : Chars} (hc : c.isDigit = true) :
    parseInt (c :: s) = (digits (c :: s)).bind fun n => fit n := by
  unfold parseInt
  split
  · next he =>
      obtain ⟨rfl, -⟩ := List.cons.inj he
      cases hc
  · next he =>
      obtain ⟨rfl, -⟩ := List.cons.inj he
      cases hc
  · rfl

/-- **What is written is read back.** -/
theorem parseInt_renderInt (n : Int64) : parseInt (renderInt n) = some n := by
  rw [renderInt]
  split
  · next hneg =>
      show (digits _).bind _ = _
      rw [digits_toDigits, Option.bind_some, Int.ofNat_natAbs_of_nonpos hneg.le, Int.neg_neg,
        fit_toInt]
  · next hpos =>
      have hread : parseInt (Nat.toDigits 10 n.toInt.natAbs) =
          (digits (Nat.toDigits 10 n.toInt.natAbs)).bind fun k => fit k := by
        obtain ⟨c, s, hs⟩ := List.exists_cons_of_ne_nil
          (Nat.toDigits_ne_nil (b := 10) (n := n.toInt.natAbs))
        have hc : c ∈ Nat.toDigits 10 n.toInt.natAbs := hs ▸ List.mem_cons_self
        rw [hs]
        exact parseInt_of_digit (Nat.isDigit_of_mem_toDigits (by omega) (by omega) hc)
      rw [hread, digits_toDigits, Option.bind_some, Int.natAbs_of_nonneg (not_lt.mp hpos),
        fit_toInt]

/-- The characters it is written with. -/
theorem mem_renderInt {n : Int64} {c : Char} (h : c ∈ renderInt n) : c = '-' ∨ c.isDigit = true := by
  rw [renderInt] at h
  split at h
  · rcases List.mem_cons.mp h with rfl | h
    · exact Or.inl rfl
    · exact Or.inr (Nat.isDigit_of_mem_toDigits (by omega) (by omega) h)
  · exact Or.inr (Nat.isDigit_of_mem_toDigits (by omega) (by omega) h)

end Text
