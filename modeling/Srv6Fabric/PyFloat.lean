import Srv6Fabric.Library.Rounding
import Srv6Fabric.PyError

/-!
# Floats

The values of `float` and the operations the scenario code makes on them.  A finite value
is a rational that binary64 represents; results are rounded to the nearest one, ties to
even.
-/

namespace Srv6Fabric

open Srv6Fabric.Library

/-- Rounding to the grid of binary64, whose range has an end besides. -/
def round64 (q : ℚ) : ℚ := nearest 53 (-1074) q

/-- A binary64 number other than -0.0. -/
def IsBinary64 (value : ℚ) : Prop := round64 value = value ∧ |value| < 2 ^ 1024

theorem isBinary64_round64 {q : ℚ} (inRange : |round64 q| < 2 ^ 1024) : IsBinary64 (round64 q) :=
  ⟨nearest_nearest (by decide) q, inRange⟩

theorem isBinary64_zero : IsBinary64 0 := ⟨nearest_zero, by rw [abs_zero]; positivity⟩

theorem round64_neg (q : ℚ) : round64 (-q) = -round64 q := nearest_neg q

theorem IsBinary64.neg {value : ℚ} (represented : IsBinary64 value) : IsBinary64 (-value) :=
  ⟨by rw [round64_neg, represented.1], by rw [abs_neg]; exact represented.2⟩

instance (value : ℚ) : Decidable (IsBinary64 value) :=
  inferInstanceAs (Decidable (_ ∧ _))

theorem isBinary64_one : IsBinary64 1 := by decide +kernel

inductive PyFloat where
  | finite (value : ℚ) (represented : IsBinary64 value)
  | negZero
  | inf (negative : Bool)
  | nan
  deriving DecidableEq

namespace PyFloat

/-- The float next to a rational; past the range an infinity. -/
def round (q : ℚ) : PyFloat :=
  if inRange : |round64 q| < 2 ^ 1024 then
    if q < 0 ∧ round64 q = 0 then .negZero else .finite (round64 q) (isBinary64_round64 inRange)
  else .inf (q < 0)

theorem round_eq {q value : ℚ} (represented : IsBinary64 value) (near : round64 q = value)
    (nonzero : value ≠ 0) : round q = .finite value represented := by
  subst near
  rw [round, dif_pos represented.2, if_neg fun both => nonzero both.2]

def zero : PyFloat := .finite 0 isBinary64_zero

/-- The value of a finite number. -/
def toRat : PyFloat → ℚ
  | finite value _ => value
  | _ => 0

/-- `x > 0`. -/
def isPositive : PyFloat → Bool
  | .finite value _ => 0 < value
  | .inf negative => !negative
  | _ => false

/-- `x < 0`. -/
def isNegative : PyFloat → Bool
  | .finite value _ => value < 0
  | .inf negative => negative
  | _ => false

/-- `x == 0`. -/
def isZero : PyFloat → Bool
  | .finite value _ => value = 0
  | .negZero => true
  | _ => false

/-- `x <= 0`. -/
def isNonPositive : PyFloat → Bool
  | .finite value _ => value ≤ 0
  | .negZero => true
  | .inf negative => negative
  | .nan => false

/-- `x <= 1`. -/
def atMostOne : PyFloat → Bool
  | .finite value _ => value ≤ 1
  | .negZero => true
  | .inf negative => negative
  | .nan => false

/-- `0 <= x`. -/
def isNonNegative : PyFloat → Bool
  | .finite value _ => 0 ≤ value
  | .negZero => true
  | .inf negative => !negative
  | .nan => false

/-- `x + y`. -/
def add : PyFloat → PyFloat → PyFloat
  | .nan, _ => .nan
  | _, .nan => .nan
  | .inf negative, .inf other => if negative = other then .inf negative else .nan
  | .inf negative, _ => .inf negative
  | _, .inf negative => .inf negative
  | .negZero, y => y
  | x, .negZero => x
  | .finite value _, .finite other _ => round (value + other)

/-- `x / 1000.0`. -/
def div1000 : PyFloat → PyFloat
  | .finite value _ => round (value / 1000)
  | other => other

/-- `float(n)` of an `int`. -/
def ofInt (n : Int) : Except PyError PyFloat :=
  match round n with
  | .inf _ => .error (.overflowError "int too large to convert to float")
  | value => .ok value

/-! ## Which floats are positive -/

theorem round64_nonneg {q : ℚ} (nonneg : 0 ≤ q) : 0 ≤ round64 q := nearest_nonneg nonneg

/-- Past an even number of the least steps. -/
theorem lt_round64_iff {k : Int} (even : k % 2 = 0) (small : k < 2 ^ 52) {q : ℚ}
    (positive : 0 < q) :
    (k : ℚ) * 2 ^ (-1074 : Int) < round64 q ↔ ((k : ℚ) + 1 / 2) * 2 ^ (-1074 : Int) < q :=
  lt_nearest_iff (by decide) even small positive

/-- A decimal stays positive as a float past half of the least one. -/
theorem isPositive_round {q : ℚ} (nonneg : 0 ≤ q) :
    (round q).isPositive ↔ 1 / 2 * (2 : ℚ) ^ (-1074 : Int) < q := by
  rcases nonneg.eq_or_lt with rfl | positive
  · rw [iff_false_right (by rw [not_lt]; positivity)]
    decide +kernel
  have past := lt_round64_iff (show (0 : Int) % 2 = 0 from rfl) (by norm_num) positive
  rw [Int.cast_zero, zero_mul, zero_add] at past
  rw [← past]
  unfold round
  split
  · rw [if_neg fun both => both.1.asymm positive]
    simp [isPositive]
  · next large =>
    rw [abs_of_nonneg (round64_nonneg positive.le), not_lt] at large
    refine iff_of_true ?_ (lt_of_lt_of_le (by positivity) large)
    simpa [isPositive] using positive.le

/-- A number of milliseconds stays positive as a number of seconds past five hundred and a
half of the least float. -/
theorem isPositive_div1000 {q : ℚ} (nonneg : 0 ≤ q) :
    (round q).div1000.isPositive ↔ 1001 / 2 * (2 : ℚ) ^ (-1074 : Int) < q := by
  rcases nonneg.eq_or_lt with rfl | positive
  · rw [iff_false_right (by rw [not_lt]; positivity)]
    decide +kernel
  have past := lt_round64_iff (show (500 : Int) % 2 = 0 from rfl) (by norm_num) positive
  rw [show (((500 : Int) : ℚ) + 1 / 2) = 1001 / 2 by norm_num] at past
  have rounded := round64_nonneg positive.le
  rw [← past]
  unfold round
  split
  · rw [if_neg fun both => both.1.asymm positive]
    change (round (round64 q / 1000)).isPositive ↔ _
    have thousandth (unit : ℚ) : 1 / 2 * unit * 1000 = ((500 : Int) : ℚ) * unit := by
      push_cast
      ring
    rw [isPositive_round (by positivity), lt_div_iff₀ (by norm_num), thousandth]
  · next large =>
    rw [abs_of_nonneg rounded, not_lt] at large
    refine iff_of_true ?_ (lt_of_lt_of_le ?_ large)
    · simpa [div1000, isPositive] using positive.le
    · calc ((500 : Int) : ℚ) * 2 ^ (-1074 : Int) ≤ ((500 : Int) : ℚ) * 1 :=
          mul_le_mul_of_nonneg_left (zpow_le_one_of_nonpos₀ one_le_two (by norm_num)) (by norm_num)
        _ < 2 ^ 9 := by norm_num
        _ ≤ 2 ^ 1024 := pow_le_pow_right₀ one_le_two (by norm_num)

/-! ## Integers as floats -/

theorem round_of_ofInt {n : Int} {x : PyFloat} (converted : ofInt n = .ok x) : round n = x := by
  unfold ofInt at converted
  split at converted
  · cases converted
  · exact Except.ok.inj converted

theorem ofInt_ne_inf {n : Int} {negative : Bool} : ofInt n ≠ .ok (.inf negative) := by
  intro converted
  have infinite := round_of_ofInt converted
  unfold ofInt at converted
  rw [infinite] at converted
  cases converted

/-- The finite floats end half a step before `2 ^ 1024`. -/
theorem round64_lt_iff (q : ℚ) : |round64 q| < 2 ^ 1024 ↔ |q| < 2 ^ 1024 - 2 ^ 970 := by
  have ends := @abs_nearest_lt_iff 53 (-1074) (by decide) 1024 (by decide) q
  rw [show (1024 : Int) - (53 : Nat) - 1 = 970 from rfl, zpow_ofNat, zpow_ofNat] at ends
  exact ends

/-- `float(n)` returns, or raises an `OverflowError`. -/
theorem ofInt_cases (n : Int) :
    (|n| < 2 ^ 1024 - 2 ^ 970 ∧ ofInt n = .ok (round n)) ∨
      (¬ |n| < 2 ^ 1024 - 2 ^ 970 ∧
        ofInt n = .error (.overflowError "int too large to convert to float")) := by
  have whole : |n| < 2 ^ 1024 - 2 ^ 970 ↔ |round64 n| < 2 ^ 1024 := by
    rw [round64_lt_iff, ← Int.cast_abs, ← Int.cast_lt (R := ℚ), Int.cast_sub, Int.cast_pow,
      Int.cast_pow, Int.cast_ofNat]
  rw [whole]
  unfold ofInt
  by_cases inRange : |round64 n| < 2 ^ 1024
  · refine Or.inl ⟨inRange, ?_⟩
    split
    · next infinite =>
      rw [round, dif_pos inRange] at infinite
      split at infinite <;> cases infinite
    · rfl
  · refine Or.inr ⟨inRange, ?_⟩
    rw [round, dif_neg inRange]

theorem round64_int_cases {n : Int} (positive : 0 < n) : round64 n = n ∨ 2 ≤ round64 n :=
  nearest_int_cases (by decide) (by decide) positive

/-- An integer between 0 and 1 as a float is that float. -/
theorem ofInt_unit {n : Int} {x : PyFloat} (converted : ofInt n = .ok x) (nonneg : x.isNonNegative)
    (small : x.atMostOne) : ∃ represented, x = .finite n represented := by
  have rounded := round_of_ofInt converted
  have inRange : |round64 n| < 2 ^ 1024 := by
    by_contra large
    rw [round, dif_neg large] at rounded
    exact ofInt_ne_inf (rounded ▸ converted)
  rw [round, dif_pos inRange] at rounded
  rcases lt_trichotomy n 0 with negative | rfl | positive
  · have below : round64 n < 0 := by
      have mirrored : round64 ((-n : Int) : ℚ) = -round64 n := by rw [Int.cast_neg, round64_neg]
      have unit : (1 : ℚ) ≤ ((-n : Int) : ℚ) := by
        exact_mod_cast (show 1 ≤ -n by omega)
      rcases round64_int_cases (show 0 < -n by omega) with same | large
      · linarith
      · linarith
    rw [if_neg fun both => below.ne both.2] at rounded
    rw [← rounded, isNonNegative, decide_eq_true_eq] at nonneg
    linarith
  · rw [if_neg fun both => lt_irrefl (0 : ℚ) (by simpa using both.1)] at rounded
    have zero : round64 ((0 : Int) : ℚ) = ((0 : Int) : ℚ) := by
      rw [Int.cast_zero]
      exact nearest_zero
    exact ⟨zero ▸ isBinary64_round64 inRange, rounded.symm.trans (by simp only [zero])⟩
  · have up : ¬ ((n : ℚ) < 0 ∧ round64 n = 0) := fun both => by
      have : (0 : ℚ) < n := by exact_mod_cast positive
      linarith [both.1]
    rw [if_neg up] at rounded
    rcases round64_int_cases positive with same | large
    · exact ⟨same ▸ isBinary64_round64 inRange, rounded.symm.trans (by simp only [same])⟩
    · rw [← rounded, atMostOne, decide_eq_true_eq] at small
      linarith

/-- An integer as a float lies between 0 and 1 when it is one of them. -/
theorem ofInt_unit_iff {n : Int} {x : PyFloat} (converted : ofInt n = .ok x) :
    (x.isNonNegative && x.atMostOne) = true ↔ 0 ≤ n ∧ n ≤ 1 := by
  rw [Bool.and_eq_true]
  constructor
  · rintro ⟨nonneg, small⟩
    obtain ⟨represented, rfl⟩ := ofInt_unit converted nonneg small
    rw [isNonNegative, decide_eq_true_eq] at nonneg
    rw [atMostOne, decide_eq_true_eq] at small
    exact ⟨by exact_mod_cast nonneg, by exact_mod_cast small⟩
  · rintro ⟨nonneg, small⟩
    have rounded := round_of_ofInt converted
    obtain rfl | rfl : n = 0 ∨ n = 1 := by omega
    · have near : round64 0 = 0 := nearest_zero
      rw [Int.cast_zero, round, dif_pos (by rw [near, abs_zero]; positivity),
        if_neg fun both => lt_irrefl _ both.1] at rounded
      rw [← rounded, isNonNegative, atMostOne, near]
      exact ⟨rfl, rfl⟩
    · rw [Int.cast_one, round_eq isBinary64_one isBinary64_one.1 one_ne_zero] at rounded
      rw [← rounded]
      exact ⟨rfl, rfl⟩

end PyFloat

end Srv6Fabric
