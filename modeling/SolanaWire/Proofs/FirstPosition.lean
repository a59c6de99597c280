import Mathlib.Data.ENat.Lattice

/-!
# First positions

The first position of a sequence at which a property holds is infinite if there is none.  A loop
that goes on until the property holds, but only so many times, goes on up to that position or as
often as it may.
-/
namespace SolanaWire

/-- The first position at which a property holds; infinite if there is none. -/
noncomputable def firstPosition (P : Nat → Prop) : ℕ∞ := ⨅ (j : ℕ) (_ : P j), (j : ℕ∞)

variable {P : Nat → Prop} {n m : Nat}

theorem firstPosition_le (here : P n) : firstPosition P ≤ n := iInf₂_le n here

theorem le_firstPosition (earlier : ∀ j < n, ¬ P j) : (n : ℕ∞) ≤ firstPosition P := by
  refine le_iInf₂ (fun j here => ?_)
  have late : n ≤ j := not_lt.1 (fun early => earlier j early here)
  exact_mod_cast late

theorem firstPosition_eq (here : P n) (earlier : ∀ j < n, ¬ P j) : firstPosition P = n :=
  le_antisymm (firstPosition_le here) (le_firstPosition earlier)

/-- A loop that goes on until a property holds, but at most `m` times, ends at the first position at
which it does, or after `m` times. -/
theorem add_one_eq_min_firstPosition (few : n ≤ m) (earlier : ∀ j < n, ¬ P j)
    (ends : ¬ P n → n = m) :
    ((n + 1 : Nat) : ℕ∞) = min (firstPosition P + 1) ((m + 1 : Nat) : ℕ∞) := by
  by_cases here : P n
  · have early : firstPosition P + 1 ≤ ((m + 1 : Nat) : ℕ∞) := by
      rw [firstPosition_eq here earlier]
      exact_mod_cast Nat.add_le_add_right few 1
    rw [min_eq_left early, firstPosition_eq here earlier, Nat.cast_add_one]
  · cases ends here
    have late : ((n + 1 : Nat) : ℕ∞) ≤ firstPosition P + 1 := by
      rw [Nat.cast_add_one]
      exact add_le_add_left (le_firstPosition earlier) 1
    exact (min_eq_right late).symm

end SolanaWire
