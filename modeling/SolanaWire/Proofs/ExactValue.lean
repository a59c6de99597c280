import Mathlib.Algebra.Order.Field.Power
import Mathlib.Tactic.Linarith
import Mathlib.Tactic.LinearCombination
import Mathlib.Tactic.NormNum
import Mathlib.Tactic.Ring
import SolanaWire.Number

/-!
# Exact values

A finite number stands for a rational one.  Comparison is that of the rational numbers, and a
quotient that has a mantissa and an exponent of its own is not rounded, unless it is beyond the
range: then it is infinite, and at least the 1024th power of two.
-/
namespace SolanaWire

/-- The first power of two beyond the range. -/
def Binary64.limit : ℚ := 2 ^ (1024 : Int)

namespace Binary64

theorem two_zpow_lt {a b : Int} : (2 : ℚ) ^ a < 2 ^ b ↔ a < b :=
  zpow_lt_zpow_iff_right₀ (by norm_num)

theorem two_zpow_le {a b : Int} : (2 : ℚ) ^ a ≤ 2 ^ b ↔ a ≤ b :=
  zpow_le_zpow_iff_right₀ (by norm_num)

theorem two_zpow_pos (a : Int) : (0 : ℚ) < 2 ^ a := zpow_pos (by norm_num) a

theorem two_zpow_add (a b : Int) : (2 : ℚ) ^ (a + b) = 2 ^ a * 2 ^ b :=
  zpow_add₀ (by norm_num) a b

theorem two_zpow_mul_neg (a : Int) : (2 : ℚ) ^ a * 2 ^ (-a) = 1 := by
  rw [← two_zpow_add, Int.add_right_neg, zpow_zero]

theorem two_pow_toNat {a : Int} (h : 0 ≤ a) : (2 : ℚ) ^ a.toNat = 2 ^ a := by
  rw [← zpow_natCast, Int.toNat_of_nonneg h]

theorem cast_shiftLeft (m : Nat) {e : Int} (h : 0 ≤ e) :
    ((m <<< e.toNat : Nat) : ℚ) = m * 2 ^ e := by
  rw [Nat.shiftLeft_eq, Nat.cast_mul, Nat.cast_pow, Nat.cast_ofNat, two_pow_toNat h]

/-- A number lies between the powers of two of its logarithm and the next. -/
theorem two_zpow_log2_le {n : Nat} (h : n ≠ 0) : (2 : ℚ) ^ (n.log2 : Int) ≤ n := by
  rw [zpow_natCast]
  exact_mod_cast Nat.log2_self_le h

theorem lt_two_zpow_log2 (n : Nat) : (n : ℚ) < 2 ^ ((n.log2 : Int) + 1) := by
  have h := Nat.lt_log2_self (n := n)
  exact_mod_cast h

/-- The rational number that a finite number stands for. -/
def value? : Binary64 → Option ℚ
  | finite negative m q => some ((if negative then -m else m : Int) * 2 ^ q)
  | _ => none

end Binary64

/-- The rational number that an integer or a finite number stands for. -/
def Number.value? : Number → Option ℚ
  | int n => some n
  | float x => x.value?

/-- A number as an integral multiple of a unit that is not above its own. -/
theorem cast_mul_two_zpow (k : Int) {q e : Int} (le : e ≤ q) :
    (k : ℚ) * (2 : ℚ) ^ q = ((k * (1 <<< (q - e).toNat : Nat) : Int) : ℚ) * (2 : ℚ) ^ e := by
  rw [Int.cast_mul, Int.cast_natCast, Binary64.cast_shiftLeft 1 (by omega), Nat.cast_one, one_mul,
    mul_assoc, ← Binary64.two_zpow_add, Int.sub_add_cancel]

theorem compareDyadic_eq_lt_iff {m q n r : Int} :
    compareDyadic m q n r = .lt ↔ (m : ℚ) * 2 ^ q < n * 2 ^ r := by
  rw [cast_mul_two_zpow m (min_le_left q r), cast_mul_two_zpow n (min_le_right q r),
    mul_lt_mul_iff_left₀ (Binary64.two_zpow_pos _), Int.cast_lt, compareDyadic,
    Int.compare_eq_lt]

theorem compareDyadic_eq_eq_iff {m q n r : Int} :
    compareDyadic m q n r = .eq ↔ (m : ℚ) * 2 ^ q = n * 2 ^ r := by
  rw [cast_mul_two_zpow m (min_le_left q r), cast_mul_two_zpow n (min_le_right q r),
    mul_left_inj' (Binary64.two_zpow_pos _).ne', Int.cast_inj, compareDyadic, Int.compare_eq_eq]

namespace Number

/-- Comparison is exact. -/
theorem lt_iff {a b : Number} {u v : ℚ} (ha : a.value? = some u) (hb : b.value? = some v) :
    a.lt b ↔ u < v := by
  have plain (n : Int) : (n : ℚ) = n * 2 ^ (0 : Int) := by simp
  cases a with
  | int m =>
    cases ha
    cases b with
    | int n =>
      cases hb
      simp [lt, compare?, Int.compare_eq_lt]
    | float y =>
      cases y with
      | finite t n r =>
        cases hb
        rw [plain]
        simp [lt, compare?, compareDyadic_eq_lt_iff]
      | _ => cases hb
  | float x =>
    cases x with
    | finite s m q =>
      cases ha
      cases b with
      | int n =>
        cases hb
        rw [plain n]
        simp [lt, compare?, compareDyadic_eq_lt_iff]
      | float y =>
        cases y with
        | finite t n r =>
          cases hb
          simp [lt, compare?, Binary64.compare?, compareDyadic_eq_lt_iff]
        | _ => cases hb
    | _ => cases ha

/-- The smaller of two numbers has the smaller value. -/
theorem value?_least {a b : Number} {u v : ℚ} (ha : a.value? = some u) (hb : b.value? = some v) :
    (a.least b).value? = some (min u v) := by
  unfold least
  split
  · rename_i below
    rw [hb, min_eq_right ((lt_iff hb ha).1 below).le]
  · rename_i above
    rw [ha, min_eq_left (not_lt.1 (fun below => above ((lt_iff hb ha).2 below)))]

end Number

namespace Binary64

/-- A rational number with a sign. -/
def signed (negative : Bool) (v : ℚ) : ℚ := if negative then -v else v

theorem signed_mul (negative : Bool) (u v : ℚ) :
    signed negative u * v = signed negative (u * v) := by
  cases negative <;> simp [signed]

theorem eq_false_of_signed_nonneg {negative : Bool} {v : ℚ} (positive : 0 < v)
    (nonneg : 0 ≤ signed negative v) : negative = false := by
  cases negative with
  | false => rfl
  | true =>
    simp only [signed, if_true] at nonneg
    linarith

theorem value?_finite (negative : Bool) (m : Nat) (q : Int) :
    (finite negative m q).value? = some (signed negative (m * 2 ^ q)) := by
  cases negative <;> simp [value?, signed]

/-- What becomes of a rational number that has a mantissa and an exponent: it is kept, or it is
beyond the range. -/
def Keeps (negative : Bool) (v : ℚ) (x : Binary64) : Prop :=
  x.value? = some (signed negative v) ∨ x = infinite negative ∧ limit ≤ v

theorem keeps_assemble {negative : Bool} {v : ℚ} {m : Nat} {q : Int} (whole : v = m * 2 ^ q)
    (small : m < mantissaLimit) (huge : greatestExponent < q → limit ≤ v) :
    Keeps negative v (assemble negative m q) := by
  unfold assemble
  rw [if_pos small]
  split
  · exact .inl (whole ▸ value?_finite negative m q)
  · rename_i beyond
    exact .inr ⟨rfl, huge (not_le.1 beyond)⟩

theorem roundDiv_mul (k : Nat) {d : Nat} (positive : 0 < d) : roundDiv (k * d) d = k := by
  simp [roundDiv, Nat.mul_div_cancel k positive, positive]

/-- A number as a natural multiple of a unit that is not above its own. -/
theorem mul_two_zpow_eq (m : Nat) {q e : Int} (le : e ≤ q) :
    (m : ℚ) * 2 ^ q = (m * 2 ^ (q - e).toNat : Nat) * 2 ^ e := by
  have whole := cast_mul_two_zpow m le
  rw [Nat.one_shiftLeft] at whole
  exact_mod_cast whole

/-- At an exponent that is not above its own, the number is a natural multiple of the unit. -/
theorem rescale_eq {num den m : Nat} {q e : Int} (positive : 0 < den)
    (same : (num : ℚ) = m * 2 ^ q * den) (le : e ≤ q) :
    ∃ d, 0 < d ∧ rescale num den e = (m * 2 ^ (q - e).toNat * d, d) := by
  have whole := mul_two_zpow_eq m le
  generalize m * 2 ^ (q - e).toNat = k at whole ⊢
  unfold rescale
  split_ifs with nonnegative
  · have scaled : (num : ℚ) = (k * den <<< e.toNat : Nat) := by
      rw [Nat.cast_mul, cast_shiftLeft den nonnegative, same, whole]
      ring
    refine ⟨den <<< e.toNat, by simpa [Nat.shiftLeft_eq] using positive, ?_⟩
    rw [Nat.cast_inj.1 scaled]
  · have scaled : ((num <<< (-e).toNat : Nat) : ℚ) = (k * den : Nat) := by
      rw [Nat.cast_mul, cast_shiftLeft num (by omega), same, whole]
      linear_combination (k * den : ℚ) * two_zpow_mul_neg e
    refine ⟨den, positive, ?_⟩
    rw [Nat.cast_inj.1 scaled]

/-- A quotient lies between the powers of two that the logarithms of its terms give. -/
theorem two_zpow_sub_lt {num den : Nat} {v : ℚ} (nonzero : num ≠ 0)
    (same : (num : ℚ) = v * den) : (2 : ℚ) ^ ((num.log2 : Int) - den.log2 - 1) < v := by
  have below := two_zpow_log2_le nonzero
  have above := lt_two_zpow_log2 den
  have positive : 0 < v := by
    have : (0 : ℚ) < v * den := by
      rw [← same]
      exact_mod_cast Nat.pos_of_ne_zero nonzero
    exact pos_of_mul_pos_left this (Nat.cast_nonneg den)
  have product : (2 : ℚ) ^ (num.log2 : Int) < v * 2 ^ ((den.log2 : Int) + 1) :=
    calc (2 : ℚ) ^ (num.log2 : Int) ≤ num := below
      _ = v * den := same
      _ < v * 2 ^ ((den.log2 : Int) + 1) := mul_lt_mul_of_pos_left above positive
  have exponent : (num.log2 : Int) = (num.log2 : Int) - den.log2 - 1 + ((den.log2 : Int) + 1) := by
    omega
  rw [exponent, two_zpow_add] at product
  exact lt_of_mul_lt_mul_right product (two_zpow_pos _).le

theorem lt_two_zpow_sub {num den : Nat} {v : ℚ} (positive : 0 < den) (nonneg : 0 ≤ v)
    (same : (num : ℚ) = v * den) : v < (2 : ℚ) ^ ((num.log2 : Int) - den.log2 + 1) := by
  have below := two_zpow_log2_le positive.ne'
  have above := lt_two_zpow_log2 num
  have product : v * 2 ^ (den.log2 : Int) < 2 ^ ((num.log2 : Int) + 1) :=
    calc v * 2 ^ (den.log2 : Int) ≤ v * den := mul_le_mul_of_nonneg_left below nonneg
      _ = num := same.symm
      _ < 2 ^ ((num.log2 : Int) + 1) := above
  have exponent : (num.log2 : Int) + 1 = (num.log2 : Int) - den.log2 + 1 + (den.log2 : Int) := by
    omega
  rw [exponent, two_zpow_add] at product
  exact lt_of_mul_lt_mul_right product (two_zpow_pos _).le

theorem mantissaLimit_mul_two_zpow (q : Int) :
    (mantissaLimit : ℚ) * 2 ^ q = 2 ^ (53 + q) := by
  have size : (mantissaLimit : ℚ) = 2 ^ (53 : Int) := by norm_num [mantissaLimit]
  rw [size, two_zpow_add]

theorem lt_mantissaLimit_iff {m : Nat} {q : Int} :
    m < mantissaLimit ↔ (m : ℚ) * 2 ^ q < 2 ^ (53 + q) := by
  rw [← mantissaLimit_mul_two_zpow, mul_lt_mul_iff_left₀ (two_zpow_pos q), Nat.cast_lt]

/-- A quotient that has a mantissa and an exponent is not rounded. -/
theorem keeps_ofRatio (negative : Bool) {num den m : Nat} {q : Int} (positive : 0 < den)
    (same : (num : ℚ) = m * 2 ^ q * den) (small : m < mantissaLimit) (least : leastExponent ≤ q) :
    Keeps negative (m * 2 ^ q) (ofRatio negative num den) := by
  have nonneg : (0 : ℚ) ≤ m * 2 ^ q := by
    have := two_zpow_pos q
    positivity
  unfold ofRatio
  split_ifs with zero
  · have vanishes : (m : ℚ) * 2 ^ q = 0 := by
      have : (den : ℚ) ≠ 0 := by exact_mod_cast positive.ne'
      simpa [zero, this] using same.symm
    rw [vanishes]
    left
    simp [value?_finite]
  · have lower := two_zpow_sub_lt zero same
    have upper := lt_two_zpow_sub positive nonneg same
    have mantissa := (lt_mantissaLimit_iff (q := q)).1 small
    generalize low : max ((num.log2 : Int) - (den.log2 : Int) - 53) leastExponent = e
    have below : e ≤ q := by
      have := two_zpow_lt.1 (lower.trans mantissa)
      omega
    obtain ⟨d, dpos, rescaled⟩ := rescale_eq positive same below
    simp only [rescaled, Nat.mul_div_cancel _ dpos, roundDiv_mul _ dpos]
    have whole := mul_two_zpow_eq m below
    split_ifs with fits
    · refine keeps_assemble whole fits (fun beyond => ?_)
      have exponent : (1024 : Int) ≤ num.log2 - den.log2 - 1 := by
        simp only [greatestExponent, leastExponent] at beyond low
        omega
      exact (two_zpow_le.2 exponent).trans lower.le
    · -- The mantissa at the first exponent is too long by one bit.
      rw [lt_mantissaLimit_iff (q := e), ← whole, not_lt] at fits
      have next : e + 1 ≤ q := by
        have := two_zpow_lt.1 (fits.trans_lt mantissa)
        omega
      obtain ⟨d, dpos, rescaled⟩ := rescale_eq positive same next
      simp only [rescaled, roundDiv_mul _ dpos]
      have whole := mul_two_zpow_eq m next
      refine keeps_assemble whole ?_ (fun beyond => ?_)
      · rw [lt_mantissaLimit_iff (q := e + 1), ← whole]
        exact upper.trans_le (two_zpow_le.2 (by omega))
      · have exponent : (1024 : Int) ≤ 53 + e := by
          simp only [greatestExponent] at beyond
          omega
        exact (two_zpow_le.2 exponent).trans fits

theorem keeps_ofDyadic (negative : Bool) {m n : Nat} {q r : Int}
    (same : (n : ℚ) * 2 ^ r = m * 2 ^ q) (small : m < mantissaLimit) (least : leastExponent ≤ q) :
    Keeps negative (m * 2 ^ q) (ofDyadic negative n r) := by
  unfold ofDyadic
  split_ifs with nonnegative
  · refine keeps_ofRatio negative one_pos ?_ small least
    rw [cast_shiftLeft n nonnegative, same, Nat.cast_one, mul_one]
  · refine keeps_ofRatio negative (by simp [Nat.shiftLeft_eq]) ?_ small least
    rw [cast_shiftLeft 1 (by omega), ← same, Nat.cast_one, one_mul, mul_assoc, two_zpow_mul_neg,
      mul_one]

theorem ofInt_natCast (n : Nat) : ofInt n = ofRatio false n 1 := by
  have nonnegative : decide ((n : Int) < 0) = false := decide_eq_false (by omega)
  rw [ofInt, nonnegative, Int.natAbs_natCast]

/-- A positive value is that of a finite number without a sign. -/
theorem eq_finite_of_value? {x : Binary64} {v : ℚ} (value : x.value? = some v) (positive : 0 < v) :
    ∃ m q, x = finite false m q ∧ (m : ℚ) * 2 ^ q = v := by
  cases x with
  | finite s m q =>
    rw [value?_finite, Option.some.injEq] at value
    cases s with
    | false => exact ⟨m, q, rfl, value⟩
    | true =>
      have unit := two_zpow_pos q
      have magnitude : (0 : ℚ) ≤ m * 2 ^ q := by positivity
      simp only [signed, if_true] at value
      linarith
  | _ => cases value

/-- The powers of two in the range are floating-point numbers. -/
theorem exists_ofInt?_powerOfTwo {e : Nat} (inside : e ≤ 1023) :
    ∃ m q, ofInt? (1 <<< e : Nat) = some (finite false m q) ∧ (m : ℚ) * 2 ^ q = 2 ^ e := by
  have same : ((1 <<< e : Nat) : ℚ) = (1 : Nat) * 2 ^ (e : Int) * (1 : Nat) := by
    simp [Nat.shiftLeft_eq]
  have kept := keeps_ofRatio false one_pos same (by decide) (by simp [leastExponent])
  rw [Nat.cast_one, one_mul] at kept
  rw [ofInt?, ofInt_natCast]
  rcases kept with value | ⟨-, beyond⟩
  · obtain ⟨m, q, finite, same⟩ := eq_finite_of_value? value (two_zpow_pos e)
    rw [finite]
    exact ⟨m, q, rfl, by rw [same, zpow_natCast]; rfl⟩
  · have := two_zpow_le.1 beyond
    omega

end Binary64
end SolanaWire
