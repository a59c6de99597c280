import SolanaWire.Value

/-!
# Program errors

A program numbers its own errors from zero.  Each number has a label and a message; a value names
an error if it equals its number, whatever kind of number it is.
-/
namespace SolanaWire

/-- The errors of a program in the order of their numbers, each with its label and message. -/
structure ErrorTable where
  program : String
  typeName : String
  codeTypeName : String
  entries : List (String × String)
  deriving DecidableEq

/-- One error of a program. -/
structure ProgramError where
  table : ErrorTable
  code : Fin table.entries.length
  deriving DecidableEq

namespace ErrorTable

/-- The error whose number a value equals. -/
def find? (t : ErrorTable) (code : Value) : Option ProgramError :=
  ((List.finRange t.entries.length).find? (fun i => code.eqv (.int i.val))).map (⟨t, ·⟩)

/-- The message about a value that is no error's number. -/
def unknownMessage (t : ErrorTable) (code : Value) : String :=
  s!"{code.literal} is not a valid {t.codeTypeName}"

/-- The errors of the token programs. -/
def token : ErrorTable where
  program := "Token"
  typeName := "TokenError"
  codeTypeName := "TokenErrorCode"
  entries :=
    [("NOT_RENT_EXEMPT", "Lamport balance below rent-exempt threshold"),
      ("INSUFFICIENT_FUNDS", "Insufficient funds"),
      ("INVALID_MINT", "Invalid Mint"),
      ("MINT_MISMATCH", "Account not associated with this Mint"),
      ("OWNER_MISMATCH", "Owner does not match"),
      ("FIXED_SUPPLY", "Fixed supply"),
      ("ALREADY_IN_USE", "Already in use"),
      ("INVALID_NUMBER_OF_PROVIDED_SIGNERS", "Invalid number of provided signers"),
      ("INVALID_NUMBER_OF_REQUIRED_SIGNERS", "Invalid number of required signers"),
      ("UNINITIALIZED_STATE", "State is uninitialized"),
      ("NATIVE_NOT_SUPPORTED", "Instruction does not support native tokens"),
      ("NON_NATIVE_HAS_BALANCE", "Non-native account can only be closed if its balance is zero"),
      ("INVALID_INSTRUCTION", "Invalid instruction"),
      ("INVALID_STATE", "State is invalid for requested operation"),
      ("OVERFLOW", "Operation overflowed"),
      ("AUTHORITY_TYPE_NOT_SUPPORTED", "Account does not support specified authority type"),
      ("MINT_CANNOT_FREEZE", "This token mint cannot freeze accounts"),
      ("ACCOUNT_FROZEN", "Account is frozen"),
      ("MINT_DECIMALS_MISMATCH", "The provided decimals value different from the Mint decimals"),
      ("NON_NATIVE_NOT_SUPPORTED", "Instruction does not support non-native tokens")]

/-- The errors of the System program. -/
def system : ErrorTable where
  program := "System"
  typeName := "SystemProgramError"
  codeTypeName := "SystemErrorCode"
  entries :=
    [("ACCOUNT_ALREADY_IN_USE", "an account with the same address already exists"),
      ("RESULT_WITH_NEGATIVE_LAMPORTS",
        "account does not have enough SOL to perform the operation"),
      ("INVALID_PROGRAM_ID", "cannot assign account to this program id"),
      ("INVALID_ACCOUNT_DATA_LENGTH", "cannot allocate account data of this length"),
      ("MAX_SEED_LENGTH_EXCEEDED", "length of requested seed is too long"),
      ("ADDRESS_WITH_SEED_MISMATCH",
        "provided address does not match addressed derived from seed"),
      ("NONCE_NO_RECENT_BLOCKHASHES",
        "advancing stored nonce requires a populated RecentBlockhashes sysvar"),
      ("NONCE_BLOCKHASH_NOT_EXPIRED", "stored nonce is still in recent_blockhashes"),
      ("NONCE_UNEXPECTED_BLOCKHASH_VALUE", "specified nonce does not match stored nonce")]

example : token.entries.length = 20 ∧ system.entries.length = 9 := by decide

end ErrorTable

namespace ProgramError

/-- The label of an error. -/
def label (e : ProgramError) : String := e.table.entries[e.code].1

/-- The message of an error. -/
def message (e : ProgramError) : String := e.table.entries[e.code].2

/-- The error's type with its label. -/
def literal (e : ProgramError) : String := s!"{e.table.typeName}({e.label})"

end ProgramError
end SolanaWire
