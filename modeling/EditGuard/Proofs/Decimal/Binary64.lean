import EditGuard.Decimal.Binary64
import Mathlib.Tactic.SplitIfs

/-!
# Finite numbers and their bit patterns

A finite number is decoded to a sign, a mantissa and an exponent from which its bit pattern can
be put together again, so that the decoding tells finite numbers apart.
-/

namespace EditGuard.Decimal

open Float.Model

/-- A mantissa and an exponent as bit patterns hold them: only with the least exponent the
mantissa may have less than fifty-three bits. -/
structure Canonical (mantissa : Nat) (exponent : Int) : Prop where
  mantissa_lt : mantissa < 0x20000000000000
  least_le : -1074 ≤ exponent
  le_greatest : exponent ≤ 971
  normal : -1074 < exponent → 0x10000000000000 ≤ mantissa

namespace Binary64

theorem eq_of_toBits_eq {x y : Float} (same : x.toBits = y.toBits) : x = y := by
  obtain ⟨⟨a, _⟩⟩ := x
  obtain ⟨⟨b, _⟩⟩ := y
  obtain rfl : a = b := same
  rfl

/-! ## Which patterns are finite -/

theorem exponent_ne_of_isFinite {x : Float} (isFinite : x.isFinite = true) :
    x.toBits.toNat >>> 52 % 0x800 ≠ 2047 := by
  intro full
  have field : @UnpackedFloat.unpackExponent Format.binary64 x.toBits.toBitVec = -1#11 := by
    apply BitVec.eq_of_toNat_eq
    rw [UnpackedFloat.unpackExponent, BitVec.toNat_cast, BitVec.extractLsb_toNat]
    exact full
  have notFinite : x.isFinite = false := by
    change (UnpackedFloat.unpack Format.binary64 x.toBits.toBitVec).isFinite = false
    rw [show UnpackedFloat.unpack Format.binary64 x.toBits.toBitVec = _ from if_pos field]
    split_ifs
    · rfl
    · rfl
  rw [isFinite] at notFinite
  cases notFinite

theorem isInf_of_isFinite {x : Float} (isFinite : x.isFinite = true) : x.isInf = false := by
  change x.toModel.unpack.isFinite = true at isFinite
  change x.toModel.unpack.isInf = false
  cases decoded : x.toModel.unpack with
  | infinity sign =>
      rw [decoded] at isFinite
      cases isFinite
  | _ => rfl

/-- A finite number has a sign, a mantissa and an exponent. -/
theorem exists_of_isFinite {x : Float} (isFinite : x.isFinite = true) :
    ∃ negative mantissa exponent, ofFloat x = .finite negative mantissa exponent := by
  have notFull := exponent_ne_of_isFinite isFinite
  simp only [ofFloat, if_neg notFull]
  split_ifs
  · exact ⟨_, _, _, rfl⟩
  · exact ⟨_, _, _, rfl⟩

/-! ## The pattern of a finite number -/

/-- The bit pattern of a sign, a mantissa and an exponent. -/
def pattern (negative : Bool) (mantissa : Nat) (exponent : Int) : Nat :=
  (if negative then 0x8000000000000000 else 0) +
    if mantissa < 0x10000000000000 then mantissa
    else (exponent + 1075).toNat * 0x10000000000000 + (mantissa - 0x10000000000000)

theorem ofFloat_eq_finite {x : Float} {negative : Bool} {mantissa : Nat} {exponent : Int}
    (decoded : ofFloat x = .finite negative mantissa exponent) :
    Canonical mantissa exponent ∧ x.toBits.toNat = pattern negative mantissa exponent := by
  have bound : x.toBits.toNat < 0x10000000000000000 := x.toBits.toNat_lt
  have sign : (if decide (0x8000000000000000 ≤ x.toBits.toNat) = true then 0x8000000000000000
      else 0) = x.toBits.toNat / 0x8000000000000000 * 0x8000000000000000 := by
    simp only [decide_eq_true_eq]
    split_ifs with negative
    · omega
    · omega
  simp only [ofFloat, Nat.shiftRight_eq_div_pow] at decoded
  split_ifs at decoded with full zero least
  · cases decoded
    refine ⟨⟨by omega, by omega, by omega, by omega⟩, ?_⟩
    rw [pattern, sign, if_pos (by omega)]
    omega
  · cases decoded
    refine ⟨⟨by omega, by omega, by omega, by omega⟩, ?_⟩
    rw [pattern, sign, if_neg (by omega)]
    omega

/-- Finite numbers with the same sign, mantissa and exponent are the same. -/
theorem eq_of_ofFloat_eq {x y : Float} {negative : Bool} {mantissa : Nat} {exponent : Int}
    (left : ofFloat x = .finite negative mantissa exponent)
    (right : ofFloat y = .finite negative mantissa exponent) : x = y := by
  have bits := (ofFloat_eq_finite left).2.trans (ofFloat_eq_finite right).2.symm
  exact eq_of_toBits_eq (UInt64.toNat_inj.mp bits)

end Binary64

end EditGuard.Decimal
