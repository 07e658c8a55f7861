import EditGuard.Number.Numeral
import Mathlib.Tactic.SplitIfs

/-!
# The order of numbers

Floating point numbers are ordered as the standard has it: the order of two numbers turned
around is the reverse of their order, and only a NaN is not equal to itself or has no order
to a number.  Integers and the numbers in texts are never NaN.
-/

namespace EditGuard

open Float.Model

/-! ## The order of floating point numbers -/

namespace Unpacked

/-- The order turned around is the reverse. -/
theorem compare_swap (a b : UnpackedFloat) : b.compare a = (a.compare b).map Ordering.swap := by
  -- Only numbers of the same sign are compared by their parts.
  have finite : ∀ (m n : Nat) (e f : Int),
      (compare f e).then (compare n m) = ((compare e f).then (compare m n)).swap := by
    intro m n e f
    rw [Ordering.swap_then, Int.compare_swap, Nat.compare_swap]
  rcases a with s | _ | s | ⟨s, m, e, _⟩ <;> rcases b with t | _ | t | ⟨t, n, f, _⟩
  case finite.finite =>
    cases s <;> cases t
    case negative.negative => exact congrArg (fun o : Ordering => some o.swap) (finite m n e f)
    case positive.positive => exact congrArg some (finite m n e f)
    all_goals rfl
  -- Where there are signs, they decide.
  all_goals try cases s
  all_goals try cases t
  all_goals rfl

/-- Only a NaN is not equal to itself. -/
theorem compare_self {a : UnpackedFloat} (notNaN : a.isNaN = false) : a.compare a = some .eq := by
  rcases a with s | _ | s | ⟨s, m, e, _⟩
  case infinity => cases s <;> rfl
  case notANumber => contradiction
  case zero => rfl
  case finite =>
    have same : (compare e e).then (compare m m) = .eq := by
      rw [Std.compare_self, Std.compare_self]
      rfl
    cases s with
    | negative => exact congrArg (fun o : Ordering => some o.swap) same
    | positive => exact congrArg some same

/-- Only a NaN has no order. -/
theorem isNaN_of_compare {a b : UnpackedFloat} (unordered : a.compare b = none) :
    a.isNaN = true ∨ b.isNaN = true := by
  rcases a with s | _ | s | ⟨s, m, e, _⟩
  case notANumber => exact .inl rfl
  all_goals
    right
    rcases b with t | _ | t | ⟨t, n, f, _⟩
    case notANumber => rfl
    all_goals try cases s
    all_goals try cases t
    all_goals cases unordered

end Unpacked

namespace Number

/-- The tests of the order are those of the standard. -/
theorem compareFloat_eq (x y : Float) : compareFloat x y = x.toModel.compare y.toModel := by
  have less : ∀ x y : Float, x < y ↔ x.toModel.compare y.toModel = some .lt := by
    intro x y
    change decide (x.toModel.lt y.toModel = true) = true ↔ _
    rw [decide_eq_true_eq]
    exact beq_iff_eq
  have equal : (x == y) = true ↔ x.toModel.compare y.toModel = some .eq :=
    beq_iff_eq (a := x.toModel.compare y.toModel)
  have swap : y.toModel.compare x.toModel = (x.toModel.compare y.toModel).map Ordering.swap :=
    Unpacked.compare_swap _ _
  rw [compareFloat]
  simp only [less, equal, swap]
  rcases x.toModel.compare y.toModel with _ | _ | _ | _ <;> rfl

theorem compareFloat_swap (x y : Float) :
    compareFloat y x = (compareFloat x y).map Ordering.swap := by
  rw [compareFloat_eq, compareFloat_eq]
  exact Unpacked.compare_swap _ _

theorem compareFloat_self {x : Float} (notNaN : x.isNaN = false) :
    compareFloat x x = some .eq := by
  rw [compareFloat_eq]
  exact Unpacked.compare_self notNaN

theorem compareFloat_of_beq {x y : Float} (same : (x == y) = true) :
    compareFloat x y = some .eq := by
  rw [compareFloat_eq]
  exact (beq_iff_eq (a := x.toModel.compare y.toModel)).mp same

theorem isNaN_of_compareFloat {x y : Float} (unordered : compareFloat x y = none) :
    x.isNaN = true ∨ y.isNaN = true := by
  rw [compareFloat_eq] at unordered
  exact Unpacked.isNaN_of_compare unordered

/-! ## What is no NaN -/

/-- A pattern is a NaN only if its exponent is full and its mantissa is not zero. -/
theorem isNaN_unpack {b : BitVec Format.binary64.numBits}
    (special : UnpackedFloat.unpackExponent b = -1#_ → UnpackedFloat.unpackMantissa b = 0#_) :
    (UnpackedFloat.unpack Format.binary64 b).isNaN = false := by
  by_cases full : UnpackedFloat.unpackExponent b = -1#_
  · rw [show UnpackedFloat.unpack Format.binary64 b = _ from if_pos full, if_pos (special full)]
    rfl
  · rw [show UnpackedFloat.unpack Format.binary64 b = _ from if_neg full]
    by_cases low : UnpackedFloat.unpackExponent b = 0#_
    · rw [if_pos low]
      by_cases zero : UnpackedFloat.unpackMantissa b = 0#_
      · rw [dif_pos zero]
        rfl
      · rw [dif_neg zero]
        rfl
    · rw [if_neg low]
      rfl

/-- What is packed is no NaN unless it was one. -/
theorem isNaN_pack {f : UnpackedFloat} (notNaN : f.isNaN = false) :
    (Float.Model.pack f).unpack.isNaN = false := by
  apply isNaN_unpack
  change UnpackedFloat.unpackExponent (UnpackedFloat.pack Format.binary64 f) = -1#_ →
    UnpackedFloat.unpackMantissa (UnpackedFloat.pack Format.binary64 f) = 0#_
  fun_cases UnpackedFloat.pack Format.binary64 f
  case case1 => contradiction
  case case2 s => simp [UnpackedFloat.packedInfinity]
  case case3 s => simp [UnpackedFloat.packedZero]
  case case4 => simp [UnpackedFloat.packedInfinity]
  case case5 s m e hm mantissaBits exponent below normal =>
    rw [UnpackedFloat.unpackExponent_packComponents]
    intro full
    -- The exponent fits its field and does not fill it.
    have small : ¬2 ^ 11 ≤ exponent + 1 := below
    have filled : exponent % 2 ^ 11 = 2 ^ 11 - 1 := congrArg BitVec.toNat full
    omega
  case case6 s m e hm mantissaBits exponent below subnormal =>
    rw [UnpackedFloat.unpackExponent_packComponents]
    intro full
    cases full

theorem isNaN_roundWithAccuracy (sign : UnpackedFloat.Sign) (mantissa : Nat) (exponent : Int)
    (accuracy : UnpackedFloat.Accuracy) :
    (UnpackedFloat.roundWithAccuracy Format.binary64 sign mantissa exponent accuracy).isNaN =
      false := by
  fun_cases UnpackedFloat.roundWithAccuracy Format.binary64 sign mantissa exponent accuracy
  · rfl
  · rfl

/-- A product with a number that is finite and not zero is a NaN only if the other factor is. -/
theorem isNaN_mul {f : UnpackedFloat} (notNaN : f.isNaN = false) (s : UnpackedFloat.Sign) (m : Nat)
    (e : Int) (pos : 0 < m) :
    (UnpackedFloat.mul Format.binary64 f (.finite s m e pos)).isNaN = false := by
  cases f with
  | infinity sign => rfl
  | notANumber => contradiction
  | zero sign => rfl
  | finite sign mantissa exponent _ => exact isNaN_roundWithAccuracy _ _ _ _

/-- Nor is a quotient by such a number. -/
theorem isNaN_div {f : UnpackedFloat} (notNaN : f.isNaN = false) (s : UnpackedFloat.Sign) (m : Nat)
    (e : Int) (pos : 0 < m) :
    (UnpackedFloat.div Format.binary64 f (.finite s m e pos)).isNaN = false := by
  cases f with
  | infinity sign => rfl
  | notANumber => contradiction
  | zero sign => rfl
  | finite sign mantissa exponent _ => exact isNaN_roundWithAccuracy _ _ _ _

theorem isNaN_ofInt (n : Int) : (UnpackedFloat.ofInt Format.binary64 n).isNaN = false := by
  rw [UnpackedFloat.ofInt]
  fun_cases UnpackedFloat.normalize
  · exact isNaN_roundWithAccuracy _ _ _ _
  · rfl
  · exact isNaN_roundWithAccuracy _ _ _ _

theorem isNaN_ofScientific_model (m : Nat) (e : Int) :
    (UnpackedFloat.ofScientific Format.binary64 m e).isNaN = false := by
  fun_cases UnpackedFloat.ofScientific Format.binary64 m e
  · rfl
  · rfl
  · rfl
  · exact isNaN_mul rfl _ _ _ _
  · exact isNaN_div rfl _ _ _ _

/-- Numbers that are finite and not zero. -/
def IsRegular : UnpackedFloat → Bool
  | .finite .. => true
  | _ => false

/-- The powers of ten that the library keeps are finite and not zero. -/
theorem isRegular_power : ∀ x ∈ Float.exactlyRepresentablePowersOfTen,
    IsRegular x.toModel.unpack = true := by
  decide +kernel

theorem isNaN_mul_of_isRegular {x y : Float} (notNaN : x.isNaN = false)
    (regular : IsRegular y.toModel.unpack = true) : (x * y).isNaN = false := by
  apply isNaN_pack
  cases unpacked : y.toModel.unpack with
  | finite s m e pos => exact isNaN_mul notNaN s m e pos
  | _ =>
      rw [unpacked] at regular
      contradiction

theorem isNaN_div_of_isRegular {x y : Float} (notNaN : x.isNaN = false)
    (regular : IsRegular y.toModel.unpack = true) : (x / y).isNaN = false := by
  apply isNaN_pack
  cases unpacked : y.toModel.unpack with
  | finite s m e pos => exact isNaN_div notNaN s m e pos
  | _ =>
      rw [unpacked] at regular
      contradiction

theorem isNaN_ofScientific (m : Nat) (negative : Bool) (e : Nat) :
    (Float.ofScientific m negative e).isNaN = false := by
  have whole : m.toUInt64.toFloat.isNaN = false := isNaN_pack (isNaN_ofInt _)
  rw [Float.ofScientific]
  split_ifs with small divided
  · exact isNaN_div_of_isRegular whole (isRegular_power _ (Array.getElem_mem _))
  · exact isNaN_mul_of_isRegular whole (isRegular_power _ (Array.getElem_mem _))
  · exact isNaN_pack (isNaN_ofScientific_model _ _)
  · exact isNaN_pack (isNaN_ofScientific_model _ _)

theorem isNaN_neg {x : Float} (notNaN : x.isNaN = false) : (-x).isNaN = false := by
  apply isNaN_pack
  change x.toModel.unpack.isNaN = false at notNaN
  cases unpacked : x.toModel.unpack with
  | notANumber =>
      rw [unpacked] at notNaN
      contradiction
  | _ => rfl

theorem isNaN_ofNat (n : Nat) : (Float.ofNat n).isNaN = false :=
  isNaN_ofScientific n false 0

theorem isNaN_floatOfInt (n : Int64) : (floatOfInt n).isNaN = false := by
  rw [floatOfInt]
  cases n.toInt with
  | ofNat n => exact isNaN_ofNat n
  | negSucc n => exact isNaN_neg (isNaN_ofNat (n + 1))

theorem isNaN_ofDecimal (mantissa : Nat) (exponent : Int) :
    (Decimal.ofDecimal mantissa exponent).isNaN = false := by
  simp only [Decimal.ofDecimal]
  split_ifs
  · exact isNaN_ofNat 0
  · decide +kernel
  · exact isNaN_ofNat 0
  · exact isNaN_ofScientific _ _ _

/-! ## The order of numbers -/

/-- Whether a number is none. -/
def isNaN : Number → Bool
  | int _ => false
  | float x => x.isNaN

theorem isNaN_toFloat {n : Number} : n.toFloat.isNaN = n.isNaN := by
  cases n with
  | int n => exact isNaN_floatOfInt n
  | float x => rfl

theorem isNaN_exactOr (n : Int) {approximation : Float} (notNaN : approximation.isNaN = false) :
    (exactOr n approximation).isNaN = false := by
  rw [exactOr]
  split_ifs
  · rfl
  · exact notNaN

theorem isNaN_value (n : Numeral) : n.value.isNaN = false := by
  have magnitude : n.magnitude.isNaN = false := isNaN_ofDecimal _ _
  have signed : (if n.negative then -n.magnitude else n.magnitude).isNaN = false := by
    split_ifs
    · exact isNaN_neg magnitude
    · exact magnitude
  unfold Numeral.value
  by_cases plain : n.fraction.isNone && n.exponent.isNone
  · rw [if_pos plain]
    exact isNaN_exactOr _ signed
  · rw [if_neg plain]
    exact signed

/-- The number that a text denotes is no NaN. -/
theorem isNaN_of_ofText? {text : String} {n : Number} (denotes : ofText? text = some n) :
    n.isNaN = false := by
  unfold ofText? at denotes
  split at denotes
  · cases denotes
    exact isNaN_value _
  · cases denotes

theorem isNaN_ofTextPrefix (text : String) : (ofTextPrefix text).isNaN = false := by
  unfold ofTextPrefix
  split
  · exact isNaN_value _
  · rfl

/-- The order of two numbers turned around is the reverse. -/
theorem compare?_swap (a b : Number) : b.compare? a = (a.compare? b).map Ordering.swap := by
  cases a with
  | int m =>
      cases b with
      | int n => exact congrArg some (Int.compare_swap _ _).symm
      | float y => exact compareFloat_swap _ _
  | float x => cases b <;> exact compareFloat_swap _ _

/-- A number that is no NaN is equal to itself. -/
theorem compare?_self {n : Number} (notNaN : n.isNaN = false) : n.compare? n = some .eq := by
  cases n with
  | int n => exact congrArg some Std.ReflCmp.compare_self
  | float x => exact compareFloat_self notNaN

/-- Only a NaN has no order. -/
theorem isNaN_of_compare? {a b : Number} (unordered : a.compare? b = none) :
    a.isNaN = true ∨ b.isNaN = true := by
  rw [← isNaN_toFloat, ← isNaN_toFloat (n := b)]
  cases a with
  | int m =>
      cases b with
      | int n => cases unordered
      | float y => exact isNaN_of_compareFloat unordered
  | float x => cases b <;> exact isNaN_of_compareFloat unordered

end Number

end EditGuard
