import SolanaWire.Instruction

/-!
# The Associated Token Account program

Creates the token account that belongs to a wallet and a mint.  There is one variant and no type
id: no data or the byte zero creates the account, and the byte one creates it only if it does not
exist yet.
-/
namespace SolanaWire.AssociatedToken

/-- Creates the account.  The rent sysvar is no longer required. -/
def create : Variant where
  name := "Create"
  slots := ["payer", "associated_token_account", "wallet", "mint", "system_program",
    "token_program", "rent_sysvar"]
  optionalSlots := 1
  form := .presence "idempotent"

/-- The only variant of the program. -/
def definition : Definition where
  tag := none
  entries := [(0, create)]
  nodup := by decide
  untagged := by simp

/-- The Associated Token Account program. -/
def program : Program where
  typeName := "AssociatedTokenAccountInstruction"
  id := .ofNat 0x8c97258f4e2489f1bb3d1029148e0d830b5a1399daff1084048e7bd8dbe9f859
  name := "AssociatedTokenAccount"
  definition := definition

example : program.id.text = "ATokenGPvbdGVxr1b2hvZbsiqW5xWH25efTNsLJA8knL" := by decide +kernel

end SolanaWire.AssociatedToken
