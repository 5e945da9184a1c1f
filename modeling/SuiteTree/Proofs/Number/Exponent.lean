import Mathlib.Algebra.Order.Field.Rat
import Mathlib.Data.Int.Log
import Mathlib.Data.Rat.Floor
import SuiteTree.Number.Tolerance

/-!
# The binary exponent of a double

A magnitude other than zero has one binary exponent: the `e` with `2 ^ (e - 1) ≤ m * 2 ^ q < 2 ^ e`.
It is computed from an estimate of the logarithm that may be off by one, and the estimate is checked
against a power of two. In the middle of the range of doubles that repairs every such estimate.
Where the power is infinite or zero the comparison has only one outcome, and the correction steps
away from an estimate that is right.
-/

namespace SuiteTree.Number

theorem power_eq (base : Nat) (e : Int) : power base e = base ^ e.toNat := rfl

namespace Binary

variable {b : Binary} {e estimate : Int}

/-- The number that the magnitude stands for. -/
def value (b : Binary) : ℚ :=
  b.m * 2 ^ b.q

/-- The number is at least half of `2 ^ e` and less than `2 ^ e`. -/
structure HasExponent (b : Binary) (e : Int) : Prop where
  lower : 2 ^ (e - 1) ≤ b.value
  upper : b.value < 2 ^ e

theorem two_pow_toNat (k : Int) : (2 : ℚ) ^ k.toNat = 2 ^ k * 2 ^ (-k).toNat := by
  rw [← zpow_natCast, ← zpow_natCast, ← zpow_add₀ two_ne_zero]
  congr 1
  omega

theorem two_zpow_le_iff {k l : Int} : (2 : ℚ) ^ k ≤ 2 ^ l ↔ k ≤ l :=
  zpow_le_zpow_iff_right₀ one_lt_two

theorem two_zpow_lt_iff {k l : Int} : (2 : ℚ) ^ k < 2 ^ l ↔ k < l :=
  zpow_lt_zpow_iff_right₀ one_lt_two

/-- The comparison between naturals is the one between the numbers. -/
theorem reaches_iff (b : Binary) (e : Int) : b.reaches e = true ↔ 2 ^ e ≤ b.value := by
  have shifted : (2 : ℚ) ^ e = 2 ^ (e - b.q) * 2 ^ b.q := by
    rw [← zpow_add₀ two_ne_zero, Int.sub_add_cancel]
  have scale : (0 : ℚ) < 2 ^ b.q := zpow_pos two_pos _
  have room : (0 : ℚ) < 2 ^ (-(e - b.q)).toNat := pow_pos two_pos _
  rw [reaches, decide_eq_true_eq, value, shifted, mul_le_mul_iff_left₀ scale, power_eq, power_eq,
    ← Int.neg_sub e b.q, ← Nat.cast_le (α := ℚ)]
  push_cast
  rw [two_pow_toNat, mul_le_mul_iff_left₀ room]

theorem two_zpow_top_le (nonzero : b.m ≠ 0) : 2 ^ b.top ≤ b.value := by
  have digit : ((2 ^ b.m.log2 : ℕ) : ℚ) ≤ b.m := Nat.cast_le.2 (Nat.log2_self_le nonzero)
  rw [top, value, zpow_add₀ two_ne_zero, mul_comm, zpow_natCast]
  push_cast at digit
  exact mul_le_mul_of_nonneg_right digit (zpow_pos two_pos _).le

theorem value_lt_two_zpow (b : Binary) : b.value < 2 ^ (b.top + 1) := by
  have digit : (b.m : ℚ) < ((2 ^ (b.m.log2 + 1) : ℕ) : ℚ) := Nat.cast_lt.2 Nat.lt_log2_self
  have next : b.top + 1 = b.q + ((b.m.log2 + 1 : ℕ) : Int) := by
    rw [top]
    omega
  rw [next, value, zpow_add₀ two_ne_zero, mul_comm, zpow_natCast]
  push_cast at digit
  exact mul_lt_mul_of_pos_left digit (zpow_pos two_pos _)

/-- The leading digit stands at the whole part of the logarithm. -/
theorem log_value (nonzero : b.m ≠ 0) : Int.log 2 b.value = b.top := by
  have positive : 0 < b.value := (zpow_pos two_pos b.top).trans_le (two_zpow_top_le nonzero)
  apply le_antisymm
  · have below : b.value < ((2 : ℕ) : ℚ) ^ (b.top + 1) := b.value_lt_two_zpow
    exact Int.lt_add_one_iff.1 ((Int.lt_zpow_iff_log_lt one_lt_two positive).1 below)
  · have above : ((2 : ℕ) : ℚ) ^ b.top ≤ b.value := two_zpow_top_le nonzero
    exact (Int.zpow_le_iff_le_log one_lt_two positive).1 above

theorem reaches_iff_le_top (nonzero : b.m ≠ 0) : b.reaches e = true ↔ e ≤ b.top := by
  rw [reaches_iff]
  constructor
  · intro reached
    have less := two_zpow_lt_iff.1 (reached.trans_lt b.value_lt_two_zpow)
    omega
  · intro low
    exact (two_zpow_le_iff.2 low).trans (two_zpow_top_le nonzero)

theorem hasExponent_iff (nonzero : b.m ≠ 0) : b.HasExponent e ↔ e = b.top + 1 := by
  constructor
  · intro has
    have low := two_zpow_lt_iff.1 (has.lower.trans_lt b.value_lt_two_zpow)
    have high := two_zpow_lt_iff.1 ((two_zpow_top_le nonzero).trans_lt has.upper)
    omega
  · rintro rfl
    refine ⟨?_, b.value_lt_two_zpow⟩
    rw [Int.add_sub_cancel]
    exact two_zpow_top_le nonzero

/-- The correction steps away from the exponent: the power of two for the estimate is infinite
although the estimate is not too large, or it is zero although the estimate is not too small. -/
def Diverts (b : Binary) (estimate : Int) : Prop :=
  (1023 ≤ estimate ∧ estimate ≤ Int.log 2 b.value) ∨
    (Int.log 2 b.value ≤ estimate ∧ estimate ≤ -1025)

/-- Estimates are not led astray between `2 ^ -1024` and `2 ^ 1023`. -/
theorem not_diverts (nonzero : b.m ≠ 0) (low : 2 ^ (-1024 : Int) ≤ b.value)
    (high : b.value < 2 ^ (1023 : Int)) (estimate : Int) : ¬ b.Diverts estimate := by
  have least := two_zpow_lt_iff.1 (low.trans_lt b.value_lt_two_zpow)
  have most := two_zpow_lt_iff.1 ((two_zpow_top_le nonzero).trans_lt high)
  rw [Diverts, log_value nonzero]
  omega

/-- An estimate that is off by at most one is repaired exactly if the correction does not step
away. -/
theorem hasExponent_correctExponent_iff (nonzero : b.m ≠ 0)
    (close : |estimate - Int.log 2 b.value| ≤ 1) :
    b.HasExponent (correctExponent b (estimate + 1)) ↔ ¬ b.Diverts estimate := by
  rw [log_value nonzero, abs_le] at close
  rw [hasExponent_iff nonzero, Diverts, log_value nonzero, correctExponent]
  simp only [reaches_iff_le_top nonzero]
  split_ifs <;> omega

/-- The logarithm is rounded to the exponent of the next power of two at most. -/
theorem abs_logFloor_sub_le (nonzero : b.m ≠ 0) : |logFloor b - Int.log 2 b.value| ≤ 1 := by
  rw [log_value nonzero, logFloor, abs_le]
  split_ifs <;> omega

end Binary

/-- A double other than zero has one binary exponent. It is found from every estimate of the
logarithm that is off by at most one, unless the power of two for the estimate leaves the range of
doubles and the correction steps away. That does not happen from `2 ^ -1024` up to `2 ^ 1023`. -/
theorem binaryExponent_right_between {x : Float} {negative : Bool} {b : Binary}
    (finite : Reading.ofFloat x = .finite negative b) (nonzero : b.m ≠ 0) :
    (∃! e, b.HasExponent e) ∧
      (∀ estimate, |estimate - Int.log 2 b.value| ≤ 1 →
        (b.HasExponent (correctExponent b (estimate + 1)) ↔ ¬ b.Diverts estimate)) ∧
      (b.HasExponent (binaryExponent x) ↔ ¬ b.Diverts (logFloor b)) ∧
      (2 ^ (-1024 : Int) ≤ b.value → b.value < 2 ^ (1023 : Int) →
        ∀ estimate, ¬ b.Diverts estimate) := by
  have computed : binaryExponent x = correctExponent b (logFloor b + 1) := by
    rw [binaryExponent, finite]
    exact if_neg nonzero
  refine ⟨⟨b.top + 1, (Binary.hasExponent_iff nonzero).2 rfl, fun e =>
    (Binary.hasExponent_iff nonzero).1⟩, fun estimate =>
      Binary.hasExponent_correctExponent_iff nonzero, ?_, Binary.not_diverts nonzero⟩
  rw [computed]
  exact Binary.hasExponent_correctExponent_iff nonzero (Binary.abs_logFloor_sub_le nonzero)

/-- The least double for which every such estimate will do is `2 ^ -1024`. -/
theorem least_exponent_right :
    let x := Float.ofBits 0x0004000000000000
    let b : Binary := ⟨0x4000000000000, -1074, false⟩
    Reading.ofFloat x = .finite false b ∧ b.m ≠ 0 ∧ b.HasExponent (binaryExponent x) := by
  intro x b
  have finite : Reading.ofFloat x = .finite false b := by decide +kernel
  have nonzero : b.m ≠ 0 := by decide
  have low : 2 ^ (-1024 : Int) ≤ b.value := (b.reaches_iff _).1 (by decide)
  have high : b.value < 2 ^ (1023 : Int) :=
    b.value_lt_two_zpow.trans_le (Binary.two_zpow_le_iff.2 (by decide +kernel))
  obtain ⟨-, -, computed, between⟩ := binaryExponent_right_between finite nonzero
  exact ⟨finite, nonzero, computed.2 (between low high _)⟩

/-- The exponent is too small for `3 * 2 ^ 1022` and too large for `3 * 2 ^ -1026`. -/
theorem exponent_wrong_at_ends :
    (let x := Float.ofBits 0x7FE8000000000000
      let b : Binary := ⟨0x18000000000000, 971, false⟩
      Reading.ofFloat x = .finite false b ∧ b.m ≠ 0 ∧ binaryExponent x = 1023 ∧
        b.HasExponent 1024 ∧ ¬ b.HasExponent (binaryExponent x)) ∧
    (let x := Float.ofBits 0x0003000000000000
      let b : Binary := ⟨0x3000000000000, -1074, false⟩
      Reading.ofFloat x = .finite false b ∧ b.m ≠ 0 ∧ binaryExponent x = -1023 ∧
        b.HasExponent (-1024) ∧ ¬ b.HasExponent (binaryExponent x)) := by
  constructor
  all_goals
    intro x b
    have nonzero : b.m ≠ 0 := by decide
    simp only [Binary.hasExponent_iff nonzero]
    decide +kernel

end SuiteTree.Number
