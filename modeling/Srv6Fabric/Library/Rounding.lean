import Mathlib.Algebra.Order.Field.Power
import Mathlib.Data.Int.Log
import Mathlib.Data.Rat.Floor
import Mathlib.Tactic.FieldSimp
import Mathlib.Tactic.Linarith
import Mathlib.Tactic.Positivity
import Mathlib.Tactic.Ring

/-!
# Rounding to a binary floating-point grid

The grid of a binary format has `digits` significant bits and no exponent below `least`:
around a number its points are the multiples of a power of two, the spacing there.
Rounding takes the nearest point, and of two equally near ones the even one.  The range
of exponents has no upper end here.
-/

namespace Srv6Fabric.Library

/-! ## Rounding to an integer -/

/-- The nearest integer; of two equally near ones the even one. -/
def roundHalfEven (x : ℚ) : Int :=
  if 2 * (x - ⌊x⌋) < 1 then ⌊x⌋
  else if 1 < 2 * (x - ⌊x⌋) then ⌊x⌋ + 1
  else if ⌊x⌋ % 2 = 0 then ⌊x⌋
  else ⌊x⌋ + 1

@[simp] theorem roundHalfEven_intCast (n : Int) : roundHalfEven n = n := by
  simp [roundHalfEven]

/-- A number rounds past an even integer once it is past the middle to the next one. -/
theorem lt_roundHalfEven_iff {k : Int} (even : k % 2 = 0) (x : ℚ) :
    k < roundHalfEven x ↔ (k : ℚ) + 1 / 2 < x := by
  have below : (⌊x⌋ : ℚ) ≤ x := Int.floor_le x
  have above : x < ⌊x⌋ + 1 := Int.lt_floor_add_one x
  unfold roundHalfEven
  split_ifs with down up tie
  · constructor
    · intro lt
      have : (k : ℚ) + 1 ≤ ⌊x⌋ := by exact_mod_cast lt
      linarith
    · intro lt
      have : (k : ℚ) < ⌊x⌋ := by linarith
      exact_mod_cast this
  · constructor
    · intro lt
      have : (k : ℚ) ≤ ⌊x⌋ := by exact_mod_cast Int.lt_add_one_iff.mp lt
      linarith
    · intro lt
      have : (k : ℚ) < ⌊x⌋ + 1 := by linarith
      exact_mod_cast this
  · have middle : x = ⌊x⌋ + 1 / 2 := by linarith
    constructor
    · intro lt
      have : (k : ℚ) < ⌊x⌋ := by exact_mod_cast lt
      linarith
    · intro lt
      have : (k : ℚ) < ⌊x⌋ := by linarith
      exact_mod_cast this
  · have middle : x = ⌊x⌋ + 1 / 2 := by linarith
    constructor
    · intro lt
      have : k < ⌊x⌋ := by omega
      have : (k : ℚ) < ⌊x⌋ := by exact_mod_cast this
      linarith
    · intro lt
      have : (k : ℚ) < ⌊x⌋ := by linarith
      have : k < ⌊x⌋ := by exact_mod_cast this
      omega

theorem floor_le_roundHalfEven (x : ℚ) : ⌊x⌋ ≤ roundHalfEven x := by
  unfold roundHalfEven
  split_ifs <;> omega

theorem roundHalfEven_le_floor_add_one (x : ℚ) : roundHalfEven x ≤ ⌊x⌋ + 1 := by
  unfold roundHalfEven
  split_ifs <;> omega

/-- Rounding is symmetric around zero. -/
theorem roundHalfEven_neg (x : ℚ) : roundHalfEven (-x) = -roundHalfEven x := by
  by_cases whole : x = ⌊x⌋
  · rw [whole, ← Int.cast_neg, roundHalfEven_intCast, roundHalfEven_intCast]
  have below : (⌊x⌋ : ℚ) < x := (Int.floor_le x).lt_of_ne (Ne.symm whole)
  have above : x < ⌊x⌋ + 1 := Int.lt_floor_add_one x
  have floor_neg : ⌊-x⌋ = -⌊x⌋ - 1 := by
    rw [Int.floor_eq_iff]
    push_cast
    constructor <;> linarith
  unfold roundHalfEven
  rw [floor_neg]
  push_cast
  split_ifs <;> first | omega | (exfalso; linarith)

theorem roundHalfEven_le_of_le {n : Int} {x : ℚ} (le : x ≤ n) : roundHalfEven x ≤ n := by
  have below : (⌊x⌋ : ℚ) ≤ x := Int.floor_le x
  have floor_le : ⌊x⌋ ≤ n := Int.floor_le_iff.mpr (by linarith)
  unfold roundHalfEven
  split_ifs with down up tie
  · exact floor_le
  · by_contra over_
    have : ⌊x⌋ = n := by omega
    rw [this] at up
    linarith
  · exact floor_le
  · by_contra over_
    have : ⌊x⌋ = n := by omega
    rw [this] at down
    linarith

theorem le_roundHalfEven_of_le {n : Int} {x : ℚ} (le : (n : ℚ) ≤ x) : n ≤ roundHalfEven x := by
  have floor_ge : n ≤ ⌊x⌋ := Int.le_floor.mpr le
  unfold roundHalfEven
  split_ifs <;> omega

/-- A number rounds to less than an even integer up to the middle before it. -/
theorem abs_roundHalfEven_lt_iff {k : Int} (even : k % 2 = 0) (x : ℚ) :
    |roundHalfEven x| < k ↔ |x| < k - 1 / 2 := by
  have negEven : -k % 2 = 0 := by omega
  have low := lt_roundHalfEven_iff negEven x
  have high := lt_roundHalfEven_iff negEven (-x)
  rw [roundHalfEven_neg, neg_lt_neg_iff] at high
  rw [abs_lt, abs_lt, low, high]
  push_cast
  constructor
  · rintro ⟨above, below⟩
    constructor <;> linarith
  · rintro ⟨above, below⟩
    constructor <;> linarith

theorem le_abs_roundHalfEven {n : Int} {x : ℚ} (le : (n : ℚ) ≤ |x|) : n ≤ |roundHalfEven x| := by
  rcases abs_cases x with ⟨same, -⟩ | ⟨same, -⟩
  · rw [same] at le
    exact (le_roundHalfEven_of_le le).trans (le_abs_self _)
  · rw [same] at le
    have rounded := le_roundHalfEven_of_le le
    rw [roundHalfEven_neg] at rounded
    exact rounded.trans (neg_le_abs _)

/-! ## The grid -/

variable (digits : Nat) (least : Int)

/-- The exponent of the spacing of the grid around a number. -/
def spacing (q : ℚ) : Int := max (Int.log 2 |q| + 1 - digits) least

/-- The nearest point of the grid; of two equally near ones the even one. -/
def nearest (q : ℚ) : ℚ :=
  roundHalfEven (q / 2 ^ spacing digits least q) * 2 ^ spacing digits least q

theorem least_le_spacing (q : ℚ) : least ≤ spacing digits least q := le_max_right _ _

/-- The grid around a number has at most `2 ^ digits` spacings up to it. -/
theorem abs_lt_spacings (q : ℚ) : |q| < 2 ^ digits * (2 : ℚ) ^ spacing digits least q := by
  have bound : |q| < (2 : ℚ) ^ (Int.log 2 |q| + 1) := by
    exact_mod_cast Int.lt_zpow_succ_log_self one_lt_two |q|
  refine bound.trans_le ?_
  rw [← zpow_natCast, ← zpow_add₀ two_ne_zero]
  apply zpow_le_zpow_right₀ one_le_two
  have := le_max_left (Int.log 2 |q| + 1 - digits) least
  unfold spacing
  omega

/-- A number is at most `2 ^ digits` spacings after rounding. -/
theorem abs_roundHalfEven_le (q : ℚ) :
    |roundHalfEven (q / 2 ^ spacing digits least q)| ≤ 2 ^ digits := by
  have positive : (0 : ℚ) < 2 ^ spacing digits least q := by positivity
  obtain ⟨low, high⟩ := abs_lt.mp (abs_lt_spacings digits least q)
  rw [abs_le]
  constructor
  · apply le_roundHalfEven_of_le
    rw [le_div_iff₀ positive]
    push_cast
    linarith
  · apply roundHalfEven_le_of_le
    rw [div_le_iff₀ positive]
    push_cast
    linarith

variable {digits least}

/-- A multiple of a spacing that is not finer than the grid's is a point of the grid. -/
theorem nearest_of_multiple (n : Int) {exponent : Int} {q : ℚ} (multiple : q = n * 2 ^ exponent)
    (coarse : spacing digits least q ≤ exponent) : nearest digits least q = q := by
  obtain ⟨steps, gap⟩ : ∃ steps : Nat, exponent = spacing digits least q + steps :=
    ⟨(exponent - spacing digits least q).toNat, by omega⟩
  have positive : (0 : ℚ) < 2 ^ spacing digits least q := by positivity
  have units : q / 2 ^ spacing digits least q = ((n * 2 ^ steps : Int) : ℚ) := by
    rw [div_eq_iff positive.ne']
    nth_rewrite 1 [multiple]
    rw [gap, zpow_add₀ two_ne_zero, zpow_natCast]
    push_cast
    ring
  rw [nearest, units, roundHalfEven_intCast, ← units, div_mul_cancel₀ _ positive.ne']

/-- The result of rounding is a point of the grid. -/
theorem nearest_nearest (some_ : 0 < digits) (q : ℚ) :
    nearest digits least (nearest digits least q) = nearest digits least q := by
  have small := abs_roundHalfEven_le digits least q
  have floor_ := least_le_spacing digits least q
  have point : nearest digits least q =
      roundHalfEven (q / 2 ^ spacing digits least q) * 2 ^ spacing digits least q := rfl
  generalize nearest digits least q = r at point ⊢
  generalize roundHalfEven (q / 2 ^ spacing digits least q) = n at small point
  generalize spacing digits least q = exponent at point floor_
  by_cases coarse : spacing digits least r ≤ exponent
  · exact nearest_of_multiple _ point coarse
  by_cases zero : r = 0
  · rw [zero]
    exact nearest_of_multiple 0 (by simp) le_rfl
  -- Rounding went up to the next power of two, where the spacing doubles.
  have log_eq : spacing digits least r = Int.log 2 |r| + 1 - digits := by
    unfold spacing at coarse ⊢
    omega
  have log_le := Int.zpow_log_le_self one_lt_two (abs_pos.mpr zero)
  have magnitude : |r| = |n| * (2 : ℚ) ^ exponent := by
    rw [point, abs_mul, abs_of_pos (by positivity : (0 : ℚ) < 2 ^ exponent), Int.cast_abs]
  have bound : |r| ≤ (2 : ℚ) ^ (digits + exponent) := by
    rw [magnitude, zpow_add₀ two_ne_zero, zpow_natCast]
    refine mul_le_mul_of_nonneg_right ?_ (by positivity)
    exact_mod_cast small
  have log_bound : Int.log 2 |r| ≤ digits + exponent :=
    (zpow_le_zpow_iff_right₀ (one_lt_two : (1 : ℚ) < 2)).mp (by exact_mod_cast log_le.trans bound)
  have next : spacing digits least r = exponent + 1 := by omega
  have full : (2 : ℚ) ^ digits ≤ |n| := by
    have reaches : (2 : ℚ) ^ (digits + exponent) ≤ |n| * (2 : ℚ) ^ exponent := by
      rw [← magnitude]
      have : Int.log 2 |r| = digits + exponent := by omega
      rw [← this]
      exact_mod_cast log_le
    rw [zpow_add₀ two_ne_zero, zpow_natCast] at reaches
    exact le_of_mul_le_mul_right reaches (by positivity)
  have exact_ : |n| = 2 ^ digits := le_antisymm small (by exact_mod_cast full)
  obtain ⟨half, halfEq⟩ : ∃ half, n = half * 2 := by
    obtain ⟨predecessor, rfl⟩ := Nat.exists_eq_add_of_lt some_
    rcases abs_choice n with same | negated
    · exact ⟨2 ^ predecessor, by rw [← same, exact_]; ring⟩
    · exact ⟨-2 ^ predecessor, by rw [← neg_eq_iff_eq_neg.mpr negated.symm.symm, exact_]; ring⟩
  refine nearest_of_multiple half ?_ next.le
  rw [point, halfEq, zpow_add₀ two_ne_zero]
  push_cast
  ring

/-- Past an even number of the least spacings. -/
theorem lt_nearest_iff (some_ : 0 < digits) {k : Int} (even : k % 2 = 0)
    (small : k < 2 ^ (digits - 1)) {q : ℚ} (positive : 0 < q) :
    (k : ℚ) * 2 ^ least < nearest digits least q ↔ ((k : ℚ) + 1 / 2) * 2 ^ least < q := by
  have unit : (0 : ℚ) < 2 ^ least := by positivity
  have atLeast := least_le_spacing digits least q
  rcases atLeast.eq_or_lt with finest | coarser
  · rw [nearest, ← finest, mul_lt_mul_iff_left₀ unit, Int.cast_lt, lt_roundHalfEven_iff even,
      lt_div_iff₀ unit]
  · -- Where the spacing is larger, all numbers are far above.
    have log_eq : spacing digits least q = Int.log 2 q + 1 - digits := by
      unfold spacing at coarser ⊢
      rw [abs_of_pos positive] at coarser ⊢
      omega
    have far : (2 : ℚ) ^ (digits - 1 : Int) * 2 ^ spacing digits least q ≤ q := by
      rw [← zpow_add₀ two_ne_zero,
        show (digits - 1 : Int) + spacing digits least q = Int.log 2 q by omega]
      exact_mod_cast Int.zpow_log_le_self one_lt_two positive
    have grows : (2 : ℚ) ^ least ≤ 2 ^ spacing digits least q :=
      zpow_le_zpow_right₀ one_le_two atLeast
    have power : (2 : ℚ) ^ (digits - 1 : Int) = ((2 ^ (digits - 1) : Int) : ℚ) := by
      rw [show (digits - 1 : Int) = ((digits - 1 : Nat) : Int) by omega, zpow_natCast]
      push_cast
      rfl
    have below : (k : ℚ) + 1 ≤ ((2 ^ (digits - 1) : Int) : ℚ) := by exact_mod_cast small
    rw [power] at far
    have positivePower : (0 : ℚ) < ((2 ^ (digits - 1) : Int) : ℚ) := by positivity
    have wide : (0 : ℚ) < 2 ^ spacing digits least q := by positivity
    refine iff_of_true ?_ ?_
    · have rounded : (2 ^ (digits - 1) : Int) ≤ roundHalfEven (q / 2 ^ spacing digits least q) :=
        le_roundHalfEven_of_le ((le_div_iff₀ wide).mpr far)
      have roundedQ : ((2 ^ (digits - 1) : Int) : ℚ) ≤
          roundHalfEven (q / 2 ^ spacing digits least q) := by exact_mod_cast rounded
      calc (k : ℚ) * 2 ^ least
          < ((2 ^ (digits - 1) : Int) : ℚ) * 2 ^ least :=
            mul_lt_mul_of_pos_right (by linarith) unit
        _ ≤ roundHalfEven (q / 2 ^ spacing digits least q) * 2 ^ spacing digits least q :=
            mul_le_mul roundedQ grows unit.le (positivePower.le.trans roundedQ)
    · calc ((k : ℚ) + 1 / 2) * 2 ^ least
          < ((2 ^ (digits - 1) : Int) : ℚ) * 2 ^ least :=
            mul_lt_mul_of_pos_right (by linarith) unit
        _ ≤ ((2 ^ (digits - 1) : Int) : ℚ) * 2 ^ spacing digits least q :=
            mul_le_mul_of_nonneg_left grows positivePower.le
        _ ≤ q := far

/-- Every point of the grid is a multiple of the least spacing. -/
theorem nearest_multiple (q : ℚ) : ∃ n : Int, nearest digits least q = n * 2 ^ least := by
  obtain ⟨steps, gap⟩ : ∃ steps : Nat, spacing digits least q = least + steps :=
    ⟨(spacing digits least q - least).toNat, by have := least_le_spacing digits least q; omega⟩
  refine ⟨roundHalfEven (q / 2 ^ spacing digits least q) * 2 ^ steps, ?_⟩
  rw [nearest, gap, zpow_add₀ two_ne_zero, zpow_natCast]
  push_cast
  ring

theorem nearest_nonneg {q : ℚ} (nonneg : 0 ≤ q) : 0 ≤ nearest digits least q := by
  refine mul_nonneg ?_ (by positivity)
  exact_mod_cast le_roundHalfEven_of_le (n := 0)
    (by simpa using div_nonneg nonneg (by positivity : (0 : ℚ) ≤ 2 ^ spacing digits least q))

@[simp] theorem nearest_neg (q : ℚ) : nearest digits least (-q) = -nearest digits least q := by
  have same : spacing digits least (-q) = spacing digits least q := by
    rw [spacing, abs_neg, spacing]
  rw [nearest, same, neg_div, roundHalfEven_neg, Int.cast_neg, neg_mul, nearest]

theorem nearest_zero : nearest digits least 0 = 0 :=
  nearest_of_multiple 0 (by simp) le_rfl

/-- A positive integer stays itself, or is so large that its nearest point is large too. -/
theorem nearest_int_cases (some_ : 0 < digits) (fine : least ≤ 0) {n : Int} (positive : 0 < n) :
    nearest digits least n = n ∨ 2 ≤ nearest digits least n := by
  rcases le_or_gt (spacing digits least n) 0 with exactly | coarse
  · exact Or.inl (nearest_of_multiple n (by simp) exactly)
  · right
    have positiveQ : (0 : ℚ) < n := by exact_mod_cast positive
    have shape : spacing digits least (n : ℚ) = Int.log 2 (n : ℚ) + 1 - digits := by
      rw [spacing, abs_of_pos positiveQ] at coarse ⊢
      omega
    have reached : (2 : ℚ) ^ spacing digits least n ≤ n := by
      calc (2 : ℚ) ^ spacing digits least n ≤ 2 ^ Int.log 2 (n : ℚ) :=
            zpow_le_zpow_right₀ one_le_two (by omega)
        _ ≤ n := by exact_mod_cast Int.zpow_log_le_self one_lt_two positiveQ
    have unit : (0 : ℚ) < 2 ^ spacing digits least n := by positivity
    have steps : 1 ≤ roundHalfEven ((n : ℚ) / 2 ^ spacing digits least n) := by
      apply le_roundHalfEven_of_le
      rw [Int.cast_one, one_le_div unit]
      exact reached
    calc (2 : ℚ) = 1 * 2 ^ (1 : Int) := by norm_num
      _ ≤ roundHalfEven ((n : ℚ) / 2 ^ spacing digits least n) * 2 ^ spacing digits least n := by
          gcongr
          · exact_mod_cast steps
          · exact one_le_two
          · omega

/-! ## The end of the range -/

theorem abs_nearest (q : ℚ) : |nearest digits least q| =
    |(roundHalfEven (q / 2 ^ spacing digits least q) : ℚ)| * 2 ^ spacing digits least q := by
  rw [nearest, abs_mul, abs_of_pos (by positivity : (0 : ℚ) < 2 ^ spacing digits least q)]

theorem abs_nearest_le (q : ℚ) :
    |nearest digits least q| ≤ 2 ^ digits * 2 ^ spacing digits least q := by
  have rounded : |(roundHalfEven (q / 2 ^ spacing digits least q) : ℚ)| ≤ 2 ^ digits := by
    exact_mod_cast abs_roundHalfEven_le digits least q
  rw [abs_nearest]
  exact mul_le_mul_of_nonneg_right rounded (by positivity)

/-- Where the spacing follows the number, rounding does not go below its power of two. -/
theorem zpow_log_le_abs_nearest (some_ : 0 < digits) {q : ℚ} (nonzero : q ≠ 0)
    (shape : spacing digits least q = Int.log 2 |q| + 1 - digits) :
    (2 : ℚ) ^ Int.log 2 |q| ≤ |nearest digits least q| := by
  have unit : (0 : ℚ) < 2 ^ spacing digits least q := by positivity
  have split : (2 : ℚ) ^ Int.log 2 |q| = (2 ^ (digits - 1) : Int) * 2 ^ spacing digits least q := by
    push_cast
    rw [← zpow_natCast, ← zpow_add₀ two_ne_zero, shape]
    congr 1
    omega
  have reached : (2 : ℚ) ^ Int.log 2 |q| ≤ |q| := by
    exact_mod_cast Int.zpow_log_le_self one_lt_two (abs_pos.mpr nonzero)
  have scaled : (2 ^ (digits - 1) : Int) ≤ |roundHalfEven (q / 2 ^ spacing digits least q)| := by
    apply le_abs_roundHalfEven
    rwa [abs_div, abs_of_pos unit, le_div_iff₀ unit, ← split]
  rw [split, abs_nearest]
  refine mul_le_mul_of_nonneg_right ?_ unit.le
  exact_mod_cast scaled

/-- Rounding stays below a power of two up to half a spacing before it. -/
theorem abs_nearest_lt_iff (some_ : 0 < digits) {top : Int} (fine : least ≤ top - digits) (q : ℚ) :
    |nearest digits least q| < 2 ^ top ↔ |q| < 2 ^ top - 2 ^ (top - digits - 1) := by
  have power (exponent : Int) : (2 : ℚ) ^ digits * 2 ^ exponent = 2 ^ (exponent + digits) := by
    rw [mul_comm, zpow_add₀ two_ne_zero, zpow_natCast]
  have half (exponent : Int) : (2 : ℚ) ^ exponent = 2 * 2 ^ (exponent - 1) := by
    rw [mul_comm, ← zpow_add_one₀ two_ne_zero, sub_add_cancel]
  have unit : (0 : ℚ) < 2 ^ spacing digits least q := by positivity
  rcases lt_trichotomy (spacing digits least q) (top - digits) with below | here | above
  · -- Both sides hold below half of the power.
    have reach : (2 : ℚ) ^ digits * 2 ^ spacing digits least q ≤ 2 ^ (top - 1) := by
      rw [power]
      exact zpow_le_zpow_right₀ one_le_two (by omega)
    have gap : (2 : ℚ) ^ (top - digits - 1) ≤ 2 ^ (top - 1) :=
      zpow_le_zpow_right₀ one_le_two (by omega)
    have positive : (0 : ℚ) < 2 ^ (top - 1) := by positivity
    have rounded : |nearest digits least q| ≤ _ := abs_nearest_le q
    have number := abs_lt_spacings digits least q
    rw [half top]
    constructor <;> intro <;> linarith
  · -- At this spacing the power is an even number of units.
    have even : (2 ^ digits : Int) % 2 = 0 := by
      obtain ⟨more, rfl⟩ := Nat.exists_eq_add_of_lt some_
      rw [pow_succ, Int.mul_emod_left]
    have scaled := abs_roundHalfEven_lt_iff even (q / 2 ^ spacing digits least q)
    rw [abs_div, abs_of_pos unit, div_lt_iff₀ unit] at scaled
    have whole : (2 : ℚ) ^ top = 2 ^ digits * 2 ^ spacing digits least q := by
      rw [power, here, sub_add_cancel]
    have middle : (2 : ℚ) ^ spacing digits least q = 2 * 2 ^ (top - digits - 1) := by
      rw [half, here]
    have threshold : (((2 ^ digits : Int) : ℚ) - 1 / 2) * 2 ^ spacing digits least q =
        2 ^ top - 2 ^ (top - digits - 1) := by
      rw [whole, sub_mul]
      push_cast
      linarith
    rw [threshold] at scaled
    rw [← scaled, abs_nearest, whole, mul_lt_mul_iff_left₀ unit]
    exact_mod_cast Iff.rfl
  · -- The number is past the power, and so is what it rounds to.
    rcases eq_or_ne q 0 with rfl | nonzero
    · have drop : (2 : ℚ) ^ (top - digits - 1) < 2 ^ top :=
        zpow_lt_zpow_right₀ one_lt_two (by omega)
      rw [nearest_zero, abs_zero]
      exact iff_of_true (by positivity) (sub_pos.mpr drop)
    have shape : spacing digits least q = Int.log 2 |q| + 1 - digits := by
      unfold spacing at above ⊢
      omega
    have past : (2 : ℚ) ^ top ≤ 2 ^ Int.log 2 |q| := zpow_le_zpow_right₀ one_le_two (by omega)
    have number : (2 : ℚ) ^ Int.log 2 |q| ≤ |q| := by
      exact_mod_cast Int.zpow_log_le_self one_lt_two (abs_pos.mpr nonzero)
    have rounded := zpow_log_le_abs_nearest some_ nonzero shape
    have gap : (0 : ℚ) < 2 ^ (top - digits - 1) := by positivity
    exact iff_of_false (not_lt.mpr (past.trans rounded)) (not_lt.mpr (by linarith))

end Srv6Fabric.Library
