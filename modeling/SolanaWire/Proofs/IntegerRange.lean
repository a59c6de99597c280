import SolanaWire.Proofs.IntegralValue
import SolanaWire.Value.Conversion

/-!
# Integers in floating point

An integer below the 1023rd power of two has a floating-point form.  One from the 1024th power on
has none, and no product with a floating-point factor.
-/
namespace SolanaWire

namespace Binary64

theorem ofInt?_eq_none {k e : Nat} (large : 2 ^ e ≤ k) (outside : 1024 ≤ e) :
    ofInt? k = none := by
  rw [ofInt?, ofInt_natCast, ofRatio_of_limit_le false (limit_le_of_two_pow_le large outside)]

end Binary64

namespace Number

/-- A number in floating point cannot be multiplied by an integer beyond the range. -/
theorem product_eq_error (x : Binary64) {k e : Nat} (large : 2 ^ e ≤ k) (outside : 1024 ≤ e) :
    (float x).product (.int k) = .error integerTooLarge := by
  simp [product, mul?, toBinary64?, Binary64.ofInt?_eq_none large outside]

end Number
end SolanaWire
