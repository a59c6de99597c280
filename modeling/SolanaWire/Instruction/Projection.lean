import SolanaWire.Builtin

/-!
# Projections

Shortcuts that give the payload of an instruction if it is one particular variant.  The token
projections accept both token programs.
-/
namespace SolanaWire.Instruction

/-- The payload of an instruction of one of some programs and of one variant. -/
def project? (programs : List Program) (variant : Variant) : Instruction → Option Payload
  | structured i =>
    if i.program ∈ programs ∧ i.payload.variant = variant then some i.payload else none
  | unparsed _ => none

/-- The programs that share the token variants. -/
def tokenPrograms : List Program := [Token.program, Token.program2022]

/-- The payload of a transfer of tokens. -/
def tokenTransfer? : Instruction → Option Payload := project? tokenPrograms Token.transfer

/-- The payload of a transfer of tokens that states the mint and its decimals. -/
def tokenTransferChecked? : Instruction → Option Payload :=
  project? tokenPrograms Token.transferChecked

/-- The payload of the closing of a token account. -/
def tokenAccountClosing? : Instruction → Option Payload :=
  project? tokenPrograms Token.closeAccount

/-- The payload of a transfer of lamports. -/
def lamportTransfer? : Instruction → Option Payload :=
  project? [SystemProgram.program] SystemProgram.transfer

/-- The payload of the creation of an associated token account. -/
def associatedAccountCreation? : Instruction → Option Payload :=
  project? [AssociatedToken.program] AssociatedToken.create

/-- The five projections. -/
def projections : List (Instruction → Option Payload) :=
  [tokenTransfer?, tokenTransferChecked?, tokenAccountClosing?, lamportTransfer?,
    associatedAccountCreation?]

end SolanaWire.Instruction
