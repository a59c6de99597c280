import SolanaWire.Proofs.ExactValue
import SolanaWire.Proofs.Outcome
import SolanaWire.Rpc.Client

/-!
# Backing off

The delay is doubled after each attempt, and the pause is never longer than ten seconds.  Doubling
is exact: a product beyond the range is infinite, and then the pause is the longest one.
-/
namespace SolanaWire
open Outcome

/-- The numbers whose floating-point form is one that the operations give. -/
def Number.IsCanonical : Number → Prop
  | int _ => True
  | float x => x.IsCanonical

namespace Binary64

/-- A product with a power of two is not rounded. -/
theorem keeps_mul_powerOfTwo (negative : Bool) {m n : Nat} {q r : Int} {e : Nat}
    (canonical : (finite negative m q).IsCanonical) (power : (n : ℚ) * 2 ^ r = 2 ^ e) :
    Keeps negative (m * 2 ^ (q + e)) ((finite negative m q).mul (finite false n r)) := by
  obtain ⟨small, least, -, -⟩ := canonical
  have same : ((m * n : Nat) : ℚ) * 2 ^ (q + r) = m * 2 ^ (q + e) := by
    rw [two_zpow_add, two_zpow_add, zpow_natCast, ← power]
    push_cast
    ring
  have product : (finite negative m q).mul (finite false n r) =
      ofDyadic negative (m * n) (q + r) := by
    simp [mul]
  rw [product]
  exact keeps_ofDyadic negative same small (by omega)

end Binary64

namespace Number

/-- A product with a power of two is exact, or it is infinite and the exact one is beyond the
range. -/
theorem exists_product_powerOfTwo {d : Number} {v : ℚ} (canonical : d.IsCanonical)
    (value : d.value? = some v) (nonneg : 0 ≤ v) {e : Nat} (inside : e ≤ 1023) :
    ∃ p, d.product (.powerOfTwo e) = .ok p ∧ (p.value? = some (v * 2 ^ e) ∨
      p = .float (.infinite false) ∧ Binary64.limit ≤ v * 2 ^ e) := by
  cases d with
  | int k =>
    cases value
    refine ⟨.int (k * (1 <<< e : Nat)), rfl, .inl ?_⟩
    simp [value?, Nat.shiftLeft_eq]
  | float x =>
    obtain ⟨n, r, power, same⟩ := Binary64.exists_ofInt?_powerOfTwo inside
    cases x with
    | finite s m q =>
      have kept := Binary64.keeps_mul_powerOfTwo s canonical same
      refine ⟨.float ((Binary64.finite s m q).mul (.finite false n r)), ?_, ?_⟩
      · have integer : powerOfTwo e = .int (1 <<< e : Nat) := rfl
        simp only [product, mul?, toBinary64?, integer, power, Option.pure_def,
          Option.bind_eq_bind, Option.bind_some, Option.elim_some]
      · rw [value?, Binary64.value?_finite, Option.some.injEq] at value
        subst value
        have exponent : (m : ℚ) * 2 ^ (q + (e : Int)) = m * 2 ^ q * 2 ^ e := by
          rw [Binary64.two_zpow_add, zpow_natCast, mul_assoc]
        rw [exponent] at kept
        rcases kept with exact | ⟨infinite, beyond⟩
        · left
          rw [value?, exact, Binary64.signed_mul]
        · right
          have positive : (0 : ℚ) < m * 2 ^ q * 2 ^ e := (Binary64.two_zpow_pos _).trans_le beyond
          have sign : s = false := Binary64.eq_false_of_signed_nonneg
            (pos_of_mul_pos_left positive (by positivity)) nonneg
          subst sign
          exact ⟨by rw [infinite], beyond⟩
    | _ => cases value

end Number

namespace Rpc

theorem value?_longestPause : longestPause.value? = some 10 := by
  have ten : Binary64.ofRatio false 10 1 = .finite false 0x14000000000000 (-49) := by
    decide +kernel
  rw [longestPause, ten, Number.value?, Binary64.value?_finite]
  norm_num [Binary64.signed]

/-- The pause after an attempt is the delay doubled as often as there were attempts before, but at
most ten seconds. -/
theorem Client.exists_backoff {c : Client} {d : Number} {v : ℚ}
    (delay : c.settings.retryDelay.number? = some d) (canonical : d.IsCanonical)
    (value : d.value? = some v) (nonneg : 0 ≤ v) {attempt : Nat} (inside : attempt ≤ 1023) :
    ∃ p, c.backoff attempt = .ok p ∧ p.value? = some (min (v * 2 ^ attempt) 10) := by
  obtain ⟨p, product, exact⟩ := Number.exists_product_powerOfTwo canonical value nonneg inside
  refine ⟨p.least longestPause, ?_, ?_⟩
  · simp only [backoff, delay, product]
    rfl
  · rcases exact with exact | ⟨rfl, beyond⟩
    · exact Number.value?_least exact value?_longestPause
    · have long : (10 : ℚ) ≤ v * 2 ^ attempt := by
        calc (10 : ℚ) ≤ 2 ^ (4 : Int) := by norm_num
          _ ≤ Binary64.limit := Binary64.two_zpow_le.2 (by omega)
          _ ≤ v * 2 ^ attempt := beyond
      have shorter : longestPause.lt (.float (.infinite false)) := by decide +kernel
      rw [Number.least, if_pos shorter, min_eq_right long, value?_longestPause]

end Rpc
end SolanaWire
