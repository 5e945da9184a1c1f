import Mathlib
import SuiteTree.Number.Tolerance

/-!
# Doubles within a distance

A comparison of doubles can fail for two reasons: the doubles are ordered the other way, or one of
them is no number. A tolerance check asks whether a distance is greater than the tolerance, so it
passes in both cases. This module says which doubles these are. The arithmetic of doubles is defined
on their unpacked forms; the lemmas on those come first.
-/

namespace SuiteTree.Number

open Float.Model (UnpackedFloat)
open Float.Model.Format (binary64)
open Float.Model.UnpackedFloat (Sign)

section Packing

variable (s : Sign) (m : Nat) (e : Int)

@[simp] theorem isNaN_notANumber : UnpackedFloat.notANumber.isNaN = true := rfl

@[simp] theorem isNaN_infinity : (UnpackedFloat.infinity s).isNaN = false := rfl

@[simp] theorem isNaN_zero : (UnpackedFloat.zero s).isNaN = false := rfl

@[simp] theorem isNaN_finite (pos : 0 < m) : (UnpackedFloat.finite s m e pos).isNaN = false := rfl

@[simp] theorem isNaN_round : (UnpackedFloat.round binary64 s m e).isNaN = false := by
  simp only [UnpackedFloat.round, UnpackedFloat.roundWithAccuracy]
  split <;> rfl

@[simp] theorem isNaN_normalize (k : Int) :
    (UnpackedFloat.normalize binary64 k e s).isNaN = false := by
  unfold UnpackedFloat.normalize
  split <;> simp

theorem isNaN_unpack (b : BitVec binary64.numBits) :
    (UnpackedFloat.unpack binary64 b).isNaN = UnpackedFloat.isNaNBits b := by
  simp only [UnpackedFloat.unpack, UnpackedFloat.isNaNBits]
  split <;> split <;> (try split) <;> simp_all

/-- What is no number stays so when it is packed, and nothing else becomes so. -/
@[simp] theorem isNaN_unpack_pack (x : UnpackedFloat) :
    (UnpackedFloat.unpack binary64 (UnpackedFloat.pack binary64 x)).isNaN = x.isNaN := by
  rw [isNaN_unpack]
  fun_cases UnpackedFloat.pack binary64 x with
  | case1 => exact UnpackedFloat.isNaNBits_packedNaN
  | case2 => simp [UnpackedFloat.isNaNBits, UnpackedFloat.packedInfinity]
  | case3 => simp [UnpackedFloat.isNaNBits, UnpackedFloat.packedZero]
  | case4 => simp [UnpackedFloat.isNaNBits, UnpackedFloat.packedInfinity]
  | case5 s m e _ digits biased fits =>
      have finite : BitVec.ofNat binary64.exponentBits biased ≠ -1#_ := by
        rw [BitVec.neg_one_eq_allOnes, Ne, ← BitVec.toNat_inj, BitVec.toNat_ofNat,
          BitVec.toNat_allOnes, Nat.mod_eq_of_lt (by omega)]
        omega
      simp only [UnpackedFloat.isNaNBits, UnpackedFloat.unpackExponent_packComponents, finite,
        false_and, isNaN_finite, decide_false]
  | case6 => simp [UnpackedFloat.isNaNBits]

end Packing

section Operations

variable {x y : UnpackedFloat}

/-- A difference is no number if an operand is none, and for two infinities of one sign. -/
theorem isNaN_sub_iff : (UnpackedFloat.sub binary64 x y).isNaN = true ↔
    x.isNaN = true ∨ y.isNaN = true ∨ x.isInf = true ∧ x.beq y = true := by
  cases x <;> cases y
  case infinity.infinity s s' => cases s <;> cases s' <;> decide
  case zero.zero s s' => cases s <;> cases s' <;> decide
  case infinity.zero s s' => cases s <;> cases s' <;> decide
  case infinity.finite s _ _ _ _ =>
    cases s <;> simp [UnpackedFloat.sub, UnpackedFloat.beq, UnpackedFloat.compare]
  all_goals simp [UnpackedFloat.sub, UnpackedFloat.isInf]

theorem isNaN_abs : x.abs.isNaN = x.isNaN := by
  cases x <;> rfl

/-- What is no number has no place in the order, and everything else has one. -/
theorem compare_eq_none_iff : x.compare y = none ↔ x.isNaN = true ∨ y.isNaN = true := by
  cases x with
  | notANumber => simp [UnpackedFloat.compare]
  | infinity s => cases y <;> cases s <;> simp [UnpackedFloat.compare]
  | zero s =>
      cases y with
      | notANumber => simp [UnpackedFloat.compare]
      | zero => simp [UnpackedFloat.compare]
      | infinity s' | finite s' => cases s' <;> simp [UnpackedFloat.compare]
  | finite s =>
      cases y with
      | notANumber => simp [UnpackedFloat.compare]
      | zero => cases s <;> simp [UnpackedFloat.compare]
      | infinity s' | finite s' => cases s <;> cases s' <;> simp [UnpackedFloat.compare]

theorem compare_swap (x y : UnpackedFloat) : y.compare x = (x.compare y).map Ordering.swap := by
  cases x with
  | notANumber => cases y <;> rfl
  | infinity s =>
      cases y with
      | infinity s' => cases s <;> cases s' <;> rfl
      | _ => cases s <;> rfl
  | zero s =>
      cases y with
      | infinity s' | finite s' => cases s' <;> rfl
      | _ => rfl
  | finite s m e =>
      cases y with
      | notANumber => rfl
      | zero => cases s <;> rfl
      | infinity s' => cases s' <;> rfl
      | finite s' m' e' =>
          have exponents : compare e' e = (compare e e').swap := Std.OrientedOrd.eq_swap
          have mantissas : compare m' m = (compare m m').swap := Std.OrientedOrd.eq_swap
          cases s <;> cases s' <;>
            simp [UnpackedFloat.compare, exponents, mantissas, Ordering.swap_then]

end Operations

section Doubles

variable {x y : Float}

theorem lt_iff : x < y ↔ x.toModel.unpack.compare y.toModel.unpack = some .lt :=
  decide_eq_true_iff.trans beq_iff_eq

theorem le_iff : x ≤ y ↔ (x.toModel.unpack.compare y.toModel.unpack).any (·.isLE) = true :=
  decide_eq_true_iff

theorem beq_iff : (x == y) = true ↔ x.toModel.unpack.compare y.toModel.unpack = some .eq := by
  show (x.toModel.unpack.compare y.toModel.unpack == some .eq) = true ↔ _
  exact beq_iff_eq

theorem not_le_of_isNaN (undefined : x.isNaN = true ∨ y.isNaN = true) : ¬ x ≤ y := by
  rw [le_iff, compare_eq_none_iff.2 undefined]
  simp

theorem not_beq_of_isNaN (undefined : x.isNaN = true ∨ y.isNaN = true) : ¬ (x == y) = true := by
  rw [beq_iff, compare_eq_none_iff.2 undefined]
  simp

/-- Two doubles are not ordered one way exactly if they are ordered the other way or one of them is
no number. -/
theorem not_lt_iff : ¬ x < y ↔ y ≤ x ∨ x.isNaN = true ∨ y.isNaN = true := by
  have unordered : x.toModel.unpack.compare y.toModel.unpack = none ↔
      x.isNaN = true ∨ y.isNaN = true := compare_eq_none_iff
  rw [lt_iff, le_iff, compare_swap x.toModel.unpack, ← unordered]
  cases x.toModel.unpack.compare y.toModel.unpack with
  | none => simp
  | some order => cases order <;> simp

/-- The distance of two doubles is no number if one of them is none, and for an infinity and
itself. -/
theorem isNaN_distance_iff : (x - y).abs.isNaN = true ↔
    x.isNaN = true ∨ y.isNaN = true ∨ x.isInf = true ∧ (x == y) = true := by
  have packed : (x - y).abs.isNaN =
      (UnpackedFloat.sub binary64 x.toModel.unpack y.toModel.unpack).isNaN :=
    (isNaN_unpack_pack _).trans (isNaN_abs.trans (isNaN_unpack_pack _))
  rw [packed]
  exact isNaN_sub_iff

end Doubles

/-- What a tolerance check is to find out: the two doubles are equal, or their distance is at most
the tolerance. -/
def Agree (actual limit tolerance : Float) : Prop :=
  (actual == limit) = true ∨ (actual - limit).abs ≤ tolerance

instance (actual limit tolerance : Float) : Decidable (Agree actual limit tolerance) :=
  inferInstanceAs (Decidable (_ ∨ _))

/-- One of the three doubles of a tolerance check is no number. -/
def Undefined (actual limit tolerance : Float) : Prop :=
  actual.isNaN = true ∨ limit.isNaN = true ∨ tolerance.isNaN = true

section Agreement

variable {actual limit tolerance : Float}

/-- The distance is not found greater than the tolerance if it is at most the tolerance, for an
infinity and itself, and where one of the three is no number. -/
theorem farther_eq_false_iff : farther actual limit tolerance = false ↔
    (actual - limit).abs ≤ tolerance ∨ actual.isInf = true ∧ (actual == limit) = true ∨
      Undefined actual limit tolerance := by
  have nearer : farther actual limit tolerance = false ↔
      ¬ tolerance < (actual - limit).abs := decide_eq_false_iff_not
  rw [nearer, not_lt_iff, isNaN_distance_iff, Undefined]
  simp only [or_assoc, or_comm, or_left_comm]

theorem not_farther_of_undefined (undefined : Undefined actual limit tolerance) :
    farther actual limit tolerance = false :=
  farther_eq_false_iff.2 (.inr (.inr undefined))

/-- A double that is no number agrees with none. -/
theorem not_agree_of_isNaN (undefined : actual.isNaN = true ∨ limit.isNaN = true) :
    ¬ Agree actual limit tolerance := by
  rintro (same | near)
  · exact not_beq_of_isNaN undefined same
  · have distance : (actual - limit).abs.isNaN = true :=
      isNaN_distance_iff.2 (undefined.imp_right .inl)
    exact not_le_of_isNaN (.inl distance) near

theorem agrees_or_undefined (nearer : farther actual limit tolerance = false) :
    Agree actual limit tolerance ∨ Undefined actual limit tolerance := by
  obtain near | ⟨-, same⟩ | undefined := farther_eq_false_iff.1 nearer
  · exact .inl (.inr near)
  · exact .inl (.inl same)
  · exact .inr undefined

/-- The doubles are not found farther apart than the tolerance although they do not agree: this is
so exactly if one of them is no number, or the tolerance is none and they differ. -/
theorem overlooked_iff :
    farther actual limit tolerance = false ∧ ¬ Agree actual limit tolerance ↔
      actual.isNaN = true ∨ limit.isNaN = true ∨
        tolerance.isNaN = true ∧ (actual == limit) = false := by
  constructor
  · rintro ⟨nearer, apart⟩
    obtain undefined | undefined | undefined := (agrees_or_undefined nearer).resolve_left apart
    · exact .inl undefined
    · exact .inr (.inl undefined)
    · exact .inr (.inr ⟨undefined, Bool.eq_false_iff.2 fun same => apart (.inl same)⟩)
  · rintro (undefined | undefined | ⟨undefined, differ⟩)
    · exact ⟨not_farther_of_undefined (.inl undefined), not_agree_of_isNaN (.inl undefined)⟩
    · exact ⟨not_farther_of_undefined (.inr (.inl undefined)),
        not_agree_of_isNaN (.inr undefined)⟩
    · refine ⟨not_farther_of_undefined (.inr (.inr undefined)), ?_⟩
      rintro (same | near)
      · exact Bool.eq_false_iff.1 differ same
      · exact not_le_of_isNaN (.inr undefined) near

end Agreement

end SuiteTree.Number
