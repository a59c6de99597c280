import SolanaWire.Builtin.AssociatedToken
import SolanaWire.Builtin.ComputeBudget
import SolanaWire.Builtin.System
import SolanaWire.Builtin.Token
import SolanaWire.Builtin.Vote

/-!
# The built-in programs

The programs whose instructions are decoded without further registration, in the order in which
they are registered.
-/
namespace SolanaWire.Builtin

/-- The built-in programs. -/
def programs : List Program :=
  [SystemProgram.program, Token.program, Token.program2022, Vote.program, AssociatedToken.program,
    ComputeBudget.program]

theorem ids_nodup : (programs.map (·.id)).Nodup := by decide +kernel

end SolanaWire.Builtin
