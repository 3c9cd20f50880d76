import Mathlib.Tactic.Ring
import Mathlib.Tactic.NormNum

/-!
Machine words as residues of integers. C evaluates a mixed product or quotient
of an `int64_t` and a `uint64_t` in `uint64_t`, and converts back modulo `2^64`
on assignment. `UInt64.ofInt` is a homomorphism from the integers, so such an
expression is computed by writing every operand as a residue, collecting one
integer under `ofInt`, and leaving the words once that integer is in range.
Signed quotients and remainders are truncated: their magnitudes are those of
the magnitudes, and a dividend that is not negative has the usual ones.
-/

namespace ZephyrWorkshop.Words

theorem toNat_ofInt (x : Int) : (UInt64.ofInt x).toNat = (x % 2 ^ 64).toNat := by
  have small : (x % 2 ^ 64).toNat < 2 ^ 64 := by omega
  exact UInt64.toNat_ofNat_of_lt' small

/-- A residue in range is the integer itself. -/
theorem toNat_ofInt_of_range {x : Int} (low : 0 ≤ x) (high : x < 2 ^ 64) :
    ((UInt64.ofInt x).toNat : Int) = x := by
  rw [toNat_ofInt, Int.emod_eq_of_lt low high, Int.toNat_of_nonneg low]

theorem ofNat_eq_ofInt (n : Nat) : UInt64.ofNat n = UInt64.ofInt n := by
  apply UInt64.toNat_inj.mp
  rw [toNat_ofInt, UInt64.toNat_ofNat']
  omega

theorem ofInt_toNat (u : UInt64) : UInt64.ofInt (u.toNat : Int) = u := by
  apply UInt64.toNat_inj.mp
  rw [toNat_ofInt]
  have := u.toNat_lt
  omega

private theorem bmod_emod_64 (x : Int) : x.bmod (2 ^ 64) % 2 ^ 64 = x % 2 ^ 64 :=
  Int.bmod_emod

/-- The conversion of an `int64_t` to `uint64_t`. -/
theorem toUInt64_eq_ofInt (x : Int64) : x.toUInt64 = UInt64.ofInt x.toInt := by
  apply UInt64.toNat_inj.mp
  rw [toNat_ofInt, ← Int64.toInt_toBitVec, BitVec.toInt_eq_toNat_bmod, bmod_emod_64]
  have bounded := x.toUInt64.toNat_lt
  show x.toUInt64.toNat = ((x.toUInt64.toNat : Int) % 2 ^ 64).toNat
  omega

theorem ofInt_sub (x y : Int) : UInt64.ofInt (x - y) = UInt64.ofInt x - UInt64.ofInt y := by
  have sum := UInt64.ofInt_add (x - y) y
  rw [Int.sub_add_cancel] at sum
  rw [sum, UInt64.add_sub_cancel]

/-- The conversion of a `uint64_t` to `int64_t`. -/
theorem toInt64_ofInt (x : Int) : (UInt64.ofInt x).toInt64 = Int64.ofInt x := by
  have inverse : UInt64.ofInt x = (Int64.ofInt x).toUInt64 := by
    rw [toUInt64_eq_ofInt, Int64.toInt_ofInt]
    apply UInt64.toNat_inj.mp
    rw [toNat_ofInt, toNat_ofInt]
    show (x % 2 ^ 64).toNat = (x.bmod (2 ^ 64) % 2 ^ 64).toNat
    rw [bmod_emod_64]
  rw [inverse]
  rfl

/-- The narrowing of a `uint64_t` to `uint32_t`. -/
theorem toUInt32_ofInt {x : Int} (low : 0 ≤ x) (high : x < 2 ^ 32) :
    ((UInt64.ofInt x).toUInt32.toNat : Int) = x := by
  rw [UInt64.toNat_toUInt32, toNat_ofInt]
  omega

/-- The quotient of two residues in range is that of the integers. -/
theorem ofInt_div {x y : Int} (low : 0 ≤ x) (high : x < 2 ^ 64) (lowY : 0 ≤ y) (highY : y < 2 ^ 64) :
    UInt64.ofInt x / UInt64.ofInt y = UInt64.ofInt (x / y) := by
  have quotient : ((UInt64.ofInt x / UInt64.ofInt y).toNat : Int) = x / y := by
    rw [UInt64.toNat_div, Int.natCast_ediv, toNat_ofInt_of_range low high, toNat_ofInt_of_range lowY highY]
  rw [← quotient, ofInt_toNat]

/-- The quotient of any residue is that of its representative below `2^64`. -/
theorem ofInt_emod_div (x : Int) {y : Int} (lowY : 0 ≤ y) (highY : y < 2 ^ 64) :
    UInt64.ofInt x / UInt64.ofInt y = UInt64.ofInt (x % 2 ^ 64 / y) := by
  have same : UInt64.ofInt x = UInt64.ofInt (x % 2 ^ 64) := by
    apply UInt64.toNat_inj.mp
    rw [toNat_ofInt, toNat_ofInt, Int.emod_emod_of_dvd x (dvd_refl _)]
  rw [same, ofInt_div (Int.emod_nonneg x (by omega)) (Int.emod_lt_of_pos x (by omega)) lowY highY]

/-- `1ULL << n` -/
theorem one_shiftLeft (n : Nat) (small : n < 64) : (1 : UInt64) <<< UInt64.ofNat n = UInt64.ofInt (2 ^ n) := by
  apply UInt64.toNat_inj.mp
  have bounded : (2 : Int) ^ n < 2 ^ 64 := by exact_mod_cast Nat.pow_lt_pow_right (by omega) small
  have value : (((1 : UInt64) <<< UInt64.ofNat n).toNat : Int) = 2 ^ n := by
    rw [UInt64.toNat_shiftLeft, UInt64.toNat_ofNat_of_lt' (by show n < 2 ^ 64; omega), Nat.mod_eq_of_lt small,
      Nat.shiftLeft_eq, UInt64.toNat_one, one_mul]
    push_cast
    exact Int.emod_eq_of_lt (by positivity) bounded
  have range := toNat_ofInt_of_range (x := 2 ^ n) (by positivity) bounded
  omega

/-! ### Signed quotients and remainders -/

theorem natAbs_quotient (x : Int32) {d : Int32} (divisor : d ≠ -1) :
    (x / d).toInt.natAbs = x.toInt.natAbs / d.toInt.natAbs := by
  rw [Int32.toInt_div_of_ne_right x d divisor, Int.natAbs_tdiv]
  rfl

theorem natAbs_remainder (x d : Int32) : (x % d).toInt.natAbs = x.toInt.natAbs % d.toInt.natAbs := by
  rw [Int32.toInt_mod, Int.natAbs_tmod]

/-- The remainder has the sign of the dividend. -/
theorem remainder_nonnegative {x : Int32} (d : Int32) (nonnegative : 0 ≤ x.toInt) : 0 ≤ (x % d).toInt := by
  rw [Int32.toInt_mod]
  exact Int.tmod_nonneg d.toInt nonnegative

theorem remainder_nonpositive {x : Int32} (d : Int32) (nonpositive : x.toInt ≤ 0) : (x % d).toInt ≤ 0 := by
  have opposite : 0 ≤ (-x.toInt).tmod d.toInt := Int.tmod_nonneg d.toInt (by omega)
  rw [Int.neg_tmod] at opposite
  rw [Int32.toInt_mod]
  omega

theorem quotient_remainder (x : Int32) {d : Int32} (divisor : d ≠ -1) :
    d.toInt * (x / d).toInt + (x % d).toInt = x.toInt := by
  rw [Int32.toInt_div_of_ne_right x d divisor, Int32.toInt_mod]
  exact Int.mul_tdiv_add_tmod x.toInt d.toInt

theorem toInt_quotient {x d : Int64} (nonnegative : 0 ≤ x.toInt) (divisor : d ≠ -1) :
    (x / d).toInt = x.toInt / d.toInt := by
  rw [Int64.toInt_div_of_ne_right x d divisor, Int.tdiv_eq_ediv_of_nonneg nonnegative]

theorem toInt_remainder {x : Int64} (d : Int64) (nonnegative : 0 ≤ x.toInt) : (x % d).toInt = x.toInt % d.toInt := by
  rw [Int64.toInt_mod, Int.tmod_eq_emod_of_nonneg nonnegative]

end ZephyrWorkshop.Words
