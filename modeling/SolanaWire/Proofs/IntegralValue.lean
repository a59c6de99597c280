import SolanaWire.Proofs.CanonicalForm

/-!
# Integral values

A number reads as an integer exactly if its value is that integer.  Rounding keeps an integer
exactly if the integer is a mantissa times a power of two in the range.
-/
namespace SolanaWire.Binary64

theorem mul_two_zpow_eq_natCast_iff {m k : Nat} {q : Int} (nonneg : 0 ≤ q) :
    (m : ℚ) * 2 ^ q = k ↔ m <<< q.toNat = k := by
  rw [← cast_shiftLeft m nonneg, Nat.cast_inj]

/-- Below the units, an integral value is a mantissa that the denominator divides. -/
theorem mul_two_zpow_eq_natCast_iff_of_neg {m k : Nat} {q : Int} (negative : q < 0) :
    (m : ℚ) * 2 ^ q = k ↔ m = k * 1 <<< (-q).toNat := by
  have unit := cast_shiftLeft 1 (e := -q) (by omega)
  rw [← Nat.cast_inj (R := ℚ), Nat.cast_mul, unit, Nat.cast_one, one_mul]
  constructor
  · intro same
    rw [← same, mul_assoc, two_zpow_mul_neg, mul_one]
  · intro same
    rw [same, mul_assoc, mul_comm ((2 : ℚ) ^ (-q)), two_zpow_mul_neg, mul_one]

/-- The integer with a sign and a magnitude. -/
theorem signed_natCast (negative : Bool) (k : Nat) :
    signed negative k = ((if negative then -1 else 1 : Int) * k : Int) := by
  cases negative <;> simp [signed]

/-- An integral value is that of an integer with the sign of the number. -/
theorem exists_of_signed_eq_intCast {negative : Bool} {v : ℚ} {n : Int} (nonneg : 0 ≤ v)
    (same : signed negative v = n) :
    ∃ k : Nat, v = k ∧ n = (if negative then -1 else 1 : Int) * k := by
  cases negative with
  | false =>
    have bound : (0 : ℚ) ≤ (n : ℚ) := same ▸ nonneg
    obtain ⟨k, rfl⟩ := Int.eq_ofNat_of_zero_le (Int.cast_nonneg_iff.1 bound)
    exact ⟨k, by simpa [signed] using same, by simp⟩
  | true =>
    have negated : v = ((-n : Int) : ℚ) := by
      rw [Int.cast_neg, ← same]
      simp [signed]
    obtain ⟨k, magnitude⟩ := Int.eq_ofNat_of_zero_le (Int.cast_nonneg_iff.1 (negated ▸ nonneg))
    refine ⟨k, ?_, ?_⟩
    · rw [negated, magnitude, Int.cast_natCast]
    · rw [if_pos rfl]
      omega

theorem toInt?_finite_of_eq {s : Bool} {m k : Nat} {q : Int} (whole : (m : ℚ) * 2 ^ q = k) :
    (finite s m q).toInt? = some ((if s then -1 else 1 : Int) * k) := by
  by_cases nonneg : 0 ≤ q
  · rw [toInt?, if_pos nonneg, (mul_two_zpow_eq_natCast_iff nonneg).1 whole]
  · have product := (mul_two_zpow_eq_natCast_iff_of_neg (not_le.1 nonneg)).1 whole
    have shifted : m >>> (-q).toNat = k := by
      rw [Nat.shiftRight_eq_div_pow, product, Nat.one_shiftLeft]
      exact Nat.mul_div_cancel k (Nat.two_pow_pos _)
    have divides : m % 1 <<< (-q).toNat = 0 := by
      rw [product, Nat.mul_mod_left]
    rw [toInt?, if_neg nonneg, if_pos divides, shifted]

/-- Only a number whose magnitude is a natural number reads as an integer. -/
theorem exists_of_toInt?_finite {s : Bool} {m : Nat} {q n : Int}
    (read : (finite s m q).toInt? = some n) : ∃ k : Nat, (m : ℚ) * 2 ^ q = k := by
  by_cases nonneg : 0 ≤ q
  · exact ⟨_, (mul_two_zpow_eq_natCast_iff nonneg).2 rfl⟩
  · rw [toInt?, if_neg nonneg] at read
    split at read
    · rename_i divides
      have product := Nat.div_mul_cancel (Nat.dvd_of_mod_eq_zero divides)
      exact ⟨_, (mul_two_zpow_eq_natCast_iff_of_neg (not_le.1 nonneg)).2 product.symm⟩
    · cases read

/-- A number reads as the integer that is its value. -/
theorem toInt?_eq_some_iff {x : Binary64} {n : Int} :
    x.toInt? = some n ↔ x.value? = some (n : ℚ) := by
  cases x with
  | nan => exact iff_of_false (by simp [toInt?]) (by simp [value?])
  | infinite s => exact iff_of_false (by simp [toInt?]) (by simp [value?])
  | finite s m q =>
    rw [value?_finite, Option.some.injEq]
    constructor
    · intro read
      obtain ⟨k, whole⟩ := exists_of_toInt?_finite read
      rw [toInt?_finite_of_eq whole, Option.some.injEq] at read
      rw [whole, signed_natCast, read]
    · intro same
      have unit := two_zpow_pos q
      have magnitude : (0 : ℚ) ≤ m * 2 ^ q := by positivity
      obtain ⟨k, whole, rfl⟩ := exists_of_signed_eq_intCast magnitude same
      exact toInt?_finite_of_eq whole

theorem assemble_of_lt {s : Bool} {m : Nat} {q : Int} (beyond : greatestExponent < q) :
    assemble s m q = infinite s := by
  unfold assemble
  split_ifs
  · omega
  · rfl
  · omega
  · rfl

theorem limit_le_of_two_pow_le {k e : Nat} (large : 2 ^ e ≤ k) (outside : 1024 ≤ e) :
    limit ≤ (k : ℚ) := by
  calc limit ≤ 2 ^ (e : Int) := two_zpow_le.2 (by omega)
    _ = (2 ^ e : Nat) := by rw [zpow_natCast, Nat.cast_pow, Nat.cast_ofNat]
    _ ≤ k := Nat.cast_le.2 large

/-- An integer beyond the range is rounded to infinity. -/
theorem ofRatio_of_limit_le (s : Bool) {k : Nat} (beyond : limit ≤ (k : ℚ)) :
    ofRatio s k 1 = infinite s := by
  have nonzero : k ≠ 0 := (Nat.cast_pos.1 ((two_zpow_pos 1024).trans_le beyond)).ne'
  have size := two_zpow_lt.1 (beyond.trans_lt (lt_two_zpow_log2 k))
  have low : max ((k.log2 : Int) - (Nat.log2 1 : Int) - 53) leastExponent = k.log2 - 53 := by
    have unit : Nat.log2 1 = 0 := by decide
    simp only [unit, leastExponent]
    omega
  have long : mantissaLimit ≤
      (rescale k 1 ((k.log2 : Int) - 53)).1 / (rescale k 1 ((k.log2 : Int) - 53)).2 := by
    rw [le_div_rescale_iff one_pos, mantissaLimit_mul_two_zpow, Nat.cast_one, mul_one,
      add_sub_cancel]
    exact two_zpow_log2_le nonzero
  unfold ofRatio
  rw [if_neg nonzero]
  dsimp only
  rw [low, if_neg (not_lt.2 long)]
  -- The exponent is above the greatest whatever the mantissa is rounded to.
  apply assemble_of_lt
  simp only [greatestExponent]
  omega

theorem toInt?_ofInt_of_limit_le {k : Nat} (beyond : limit ≤ (k : ℚ)) :
    (ofInt k).toInt? = none := by
  rw [ofInt_natCast, ofRatio_of_limit_le false beyond]
  rfl

/-- The naturals that have a mantissa and an exponent in the range. -/
def IsExact (k : Nat) : Prop :=
  ∃ m e : Nat, m < mantissaLimit ∧ (e : Int) ≤ greatestExponent ∧ k = m * 2 ^ e

theorem isExact_of_le {k : Nat} (small : k ≤ mantissaLimit) : IsExact k := by
  rcases small.lt_or_eq with below | rfl
  · exact ⟨k, 0, below, by decide, by simp⟩
  · exact ⟨leastMantissa, 1, by decide, by decide, rfl⟩

theorem IsExact.lt_limit {k : Nat} (exact : IsExact k) : (k : ℚ) < limit := by
  obtain ⟨m, e, small, inside, rfl⟩ := exact
  have bound := (lt_mantissaLimit_iff (q := e)).1 small
  have exponent : 53 + (e : Int) ≤ 1024 := by
    simp only [greatestExponent] at inside
    omega
  rw [Nat.cast_mul, Nat.cast_pow, Nat.cast_ofNat, ← zpow_natCast]
  exact bound.trans_le (two_zpow_le.2 exponent)

/-- An integer is read back exactly if it is not rounded. -/
theorem toInt?_ofInt_eq_some_iff {k : Nat} : (ofInt k).toInt? = some (k : Int) ↔ IsExact k := by
  rw [toInt?_eq_some_iff, Int.cast_natCast, ofInt_natCast]
  constructor
  · intro value
    rcases Nat.eq_zero_or_pos k with rfl | positive
    · exact isExact_of_le (Nat.zero_le _)
    obtain ⟨m, q, rounded, whole⟩ := eq_finite_of_value? value (Nat.cast_pos.2 positive)
    have canonical := isCanonical_ofRatio false k one_pos
    rw [rounded] at canonical
    obtain ⟨small, -, inside, -⟩ := canonical
    by_cases nonneg : 0 ≤ q
    · refine ⟨m, q.toNat, small, by omega, ?_⟩
      rw [← Nat.shiftLeft_eq, (mul_two_zpow_eq_natCast_iff nonneg).1 whole]
    · have product := (mul_two_zpow_eq_natCast_iff_of_neg (not_le.1 nonneg)).1 whole
      have unit : 0 < 1 <<< (-q).toNat := by simp [Nat.shiftLeft_eq]
      have bound : k ≤ m := product ▸ Nat.le_mul_of_pos_right k unit
      exact isExact_of_le (bound.trans small.le)
  · intro exact
    have bound := exact.lt_limit
    obtain ⟨m, e, small, inside, rfl⟩ := exact
    have whole : ((m * 2 ^ e : Nat) : ℚ) = m * 2 ^ (e : Int) := by simp
    have same : ((m * 2 ^ e : Nat) : ℚ) = m * 2 ^ (e : Int) * (1 : Nat) := by
      rw [whole, Nat.cast_one, mul_one]
    have kept := keeps_ofRatio false one_pos same small (by simp only [leastExponent]; omega)
    rcases kept with value | ⟨-, beyond⟩
    · rw [value, whole]
      rfl
    · rw [whole] at bound
      exact absurd bound (not_lt.2 beyond)

instance : DecidablePred IsExact := fun _ => decidable_of_iff _ toInt?_ofInt_eq_some_iff

example : IsExact (2 ^ 53) ∧ ¬ IsExact (2 ^ 53 + 1) ∧ IsExact (2 ^ 53 + 2) := by decide +kernel

end SolanaWire.Binary64
