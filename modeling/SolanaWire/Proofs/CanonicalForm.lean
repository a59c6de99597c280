import SolanaWire.Number.Numeral
import SolanaWire.Proofs.ExactValue

/-!
# The canonical form

What rounding gives is in canonical form: the mantissa is not too long, and it is a full one unless
the exponent is already the least.  So are the numbers that are read from texts.
-/
namespace SolanaWire.Binary64

theorem isCanonical_assemble (s : Bool) {m : Nat} {q : Int} (least : leastExponent ≤ q)
    (full : leastMantissa ≤ m ∨ q = leastExponent) : (assemble s m q).IsCanonical := by
  unfold assemble
  split_ifs with small inside inside
  · exact ⟨small, least, inside, full⟩
  · trivial
  · exact ⟨by decide, by omega, inside, .inl le_rfl⟩
  · trivial

theorem le_roundDiv {k n d : Nat} (below : k ≤ n / d) : k ≤ roundDiv n d := by
  unfold roundDiv
  dsimp only
  split_ifs <;> omega

/-- The whole part of a quotient at an exponent, compared with the quotient itself. -/
theorem le_div_rescale_iff {k num den : Nat} {q : Int} (positive : 0 < den) :
    k ≤ (rescale num den q).1 / (rescale num den q).2 ↔ (k : ℚ) * 2 ^ q * den ≤ num := by
  unfold rescale
  split_ifs with nonneg
  · have unit : 0 < den <<< q.toNat := by simpa [Nat.shiftLeft_eq] using positive
    have product : (k : ℚ) * (den * 2 ^ q) = k * 2 ^ q * den := by ring
    rw [Nat.le_div_iff_mul_le unit, ← Nat.cast_le (α := ℚ), Nat.cast_mul,
      cast_shiftLeft den nonneg, product]
  · rw [Nat.le_div_iff_mul_le positive, ← Nat.cast_le (α := ℚ), Nat.cast_mul,
      cast_shiftLeft num (by omega), ← mul_le_mul_iff_left₀ (two_zpow_pos q), mul_assoc (num : ℚ),
      mul_comm ((2 : ℚ) ^ (-q)), two_zpow_mul_neg, mul_one, mul_right_comm]

theorem leastMantissa_mul_two_zpow (q : Int) :
    (leastMantissa : ℚ) * 2 ^ q = 2 ^ (52 + q) := by
  have size : (leastMantissa : ℚ) = 2 ^ (52 : Int) := by norm_num [leastMantissa]
  rw [size, two_zpow_add]

theorem isCanonical_ofRatio (s : Bool) (num : Nat) {den : Nat} (positive : 0 < den) :
    (ofRatio s num den).IsCanonical := by
  have divisor : (0 : ℚ) < den := Nat.cast_pos.2 positive
  unfold ofRatio
  split_ifs with zero
  · exact ⟨by decide, le_rfl, by decide, .inr rfl⟩
  · have same : (num : ℚ) = num / den * den := (div_mul_cancel₀ _ divisor.ne').symm
    have lower := two_zpow_sub_lt zero same
    generalize low : max ((num.log2 : Int) - (den.log2 : Int) - 53) leastExponent = e
    dsimp only
    split_ifs with fits
    · apply isCanonical_assemble s (by omega)
      by_cases smallest : e = leastExponent
      · exact .inr smallest
      · -- The first exponent leaves a full mantissa.
        refine .inl (le_roundDiv ((le_div_rescale_iff positive).2 ?_))
        have exponent : 52 + e = (num.log2 : Int) - den.log2 - 1 := by omega
        rw [leastMantissa_mul_two_zpow, exponent, same]
        exact mul_le_mul_of_nonneg_right lower.le divisor.le
    · -- A mantissa that is one bit too long is a full one at the next exponent.
      apply isCanonical_assemble s (by omega)
      refine .inl (le_roundDiv ((le_div_rescale_iff positive).2 ?_))
      have long := (le_div_rescale_iff positive).1 (not_lt.1 fits)
      have exponent : 52 + (e + 1) = 53 + e := by omega
      rwa [leastMantissa_mul_two_zpow, exponent, ← mantissaLimit_mul_two_zpow]

end SolanaWire.Binary64

namespace SolanaWire.Numeral

theorem isCanonical_ofDecimal (negative : Bool) (n : Nat) (e : Int) :
    (ofDecimal negative n e).IsCanonical := by
  unfold ofDecimal
  dsimp only
  split_ifs
  · exact ⟨by decide, le_rfl, by decide, .inr rfl⟩
  · trivial
  · exact Binary64.isCanonical_ofRatio negative _ one_pos
  · exact Binary64.isCanonical_ofRatio negative n (Nat.pow_pos (by decide))

theorem isCanonical_of_decimal? {negative : Bool} {text : List Char} {x : Binary64}
    (read : decimal? negative text = some x) : x.IsCanonical := by
  unfold decimal? at read
  dsimp only at read
  split at read
  · cases read
    exact isCanonical_ofDecimal _ _ _
  · cases read

theorem isCanonical_of_real? {text : String} {x : Binary64} (read : real? text = some x) :
    x.IsCanonical := by
  obtain ⟨plain, -, read⟩ := Option.bind_eq_some_iff.1 read
  split at read
  split at read
  · cases read
    trivial
  · cases read
    trivial
  · cases read
    trivial
  · exact isCanonical_of_decimal? read

theorem isCanonical_of_real {text : String} {x : Binary64} (read : real text = .ok x) :
    x.IsCanonical := by
  unfold real at read
  split at read
  · rename_i given
    cases read
    exact isCanonical_of_real? given
  · cases read

end SolanaWire.Numeral
