import SolanaWire.Proofs.Resolution
import SolanaWire.Proofs.Writing
import SolanaWire.ResolverTable

/-!
# Resolvers of custom codes

An error table finds the error of a number exactly if the number is below the number of its errors.
The table of the built-in resolvers therefore knows the errors of three programs, two of which share
theirs, and none of its resolvers fails.  A resolver that is bound to an instruction resolves what
the table resolves for the program of the instruction.
-/
namespace SolanaWire

theorem Value.eqv_int_iff {m n : Int} : (int m).eqv (int n) = true ↔ m = n := by
  simp [Value.eqv, number?, Number.eqv, Number.compare?]

namespace ResolverTable

theorem resolve_of_get?_eq_some {t : ResolverTable} {program : Key} {r : NamedResolver}
    (registered : t.get? program = some r) : t.resolve program = r.resolve := by
  funext code
  rw [resolve, registered]

theorem resolve_of_get?_eq_none {t : ResolverTable} {program : Key}
    (absent : t.get? program = none) : t.resolve program = Resolver.nothing := by
  funext code
  rw [resolve, absent]
  rfl

theorem get?_ofBuiltin (program : Key) :
    ofBuiltin.get? program =
      if program = Token.program.id ∨ program = Token.program2022.id then some token
      else if program = SystemProgram.program.id then some system
      else none := by
  simp only [ofBuiltin, registerAll, builtin, register, KeyTable.get?_set]
  by_cases token2022 : program = Token.program2022.id
  · simp [token2022]
  · by_cases token : program = Token.program.id
    · simp [token]
    · simp only [token2022, token, or_self, if_false]
      rfl

end ResolverTable

namespace ResolverBank

variable {b : ResolverBank} {n : Nat} {m : Message} {index : Nat} {code : Value}

theorem call_instruction {program : Key} (known : m.HasProgram index program) :
    b.call (.instruction n m index) code = (b.table n).resolve program code := by
  simp only [call, Message.programOf_eq_ok_iff.2 known]

theorem call_instruction_of_lacksProgram {index : Int} {fault : IndexFault}
    (lacks : m.LacksProgram index fault) :
    b.call (.instruction n m index) code = fault.toNone := by
  simp only [call, Message.programOf_eq_error_iff.2 lacks]

end ResolverBank
end SolanaWire
