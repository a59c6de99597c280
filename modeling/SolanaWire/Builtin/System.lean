import SolanaWire.Instruction

/-!
# The System program

Creates accounts, assigns them to programs and moves lamports between them.  Its instructions
begin with a `u32` type id.
-/
namespace SolanaWire.SystemProgram

/-- A field for a number of lamports or bytes. -/
def amount (name : String) : Field := ⟨name, .int .u64, false⟩

/-- A field for a key. -/
def key (name : String) : Field := ⟨name, .key, false⟩

/-- A field for a text. -/
def text (name : String) : Field := ⟨name, .text, false⟩

def createAccount : Variant where
  name := "CreateAccount"
  slots := ["funding_account", "new_account"]
  form := .fields [amount "lamports", amount "space", key "owner"]

def assign : Variant where
  name := "Assign"
  slots := ["assigned_account"]
  form := .fields [key "owner"]

/-- Moves lamports from a signing account to another. -/
def transfer : Variant where
  name := "Transfer"
  slots := ["funding_account", "recipient_account"]
  form := .fields [amount "lamports"]

/-- Creates an account at an address derived from a base key and a seed.  The base account is only
present where it is not the funding account. -/
def createAccountWithSeed : Variant where
  name := "CreateAccountWithSeed"
  slots := ["funding_account", "created_account", "base_account"]
  optionalSlots := 1
  form := .fields [key "base", text "seed", amount "lamports", amount "space", key "owner"]

def advanceNonceAccount : Variant where
  name := "AdvanceNonceAccount"
  slots := ["nonce_account", "recent_blockhashes_sysvar", "nonce_authority"]

def withdrawNonceAccount : Variant where
  name := "WithdrawNonceAccount"
  slots := ["nonce_account", "recipient_account", "recent_blockhashes_sysvar", "rent_sysvar",
    "nonce_authority"]
  form := .fields [amount "lamports"]

def initializeNonceAccount : Variant where
  name := "InitializeNonceAccount"
  slots := ["nonce_account", "recent_blockhashes_sysvar", "rent_sysvar"]
  form := .fields [key "authority"]

def authorizeNonceAccount : Variant where
  name := "AuthorizeNonceAccount"
  slots := ["nonce_account", "nonce_authority"]
  form := .fields [key "authority"]

def allocate : Variant where
  name := "Allocate"
  slots := ["new_account"]
  form := .fields [amount "space"]

def allocateWithSeed : Variant where
  name := "AllocateWithSeed"
  slots := ["allocated_account", "base_account"]
  form := .fields [key "base", text "seed", amount "space", key "owner"]

def assignWithSeed : Variant where
  name := "AssignWithSeed"
  slots := ["assigned_account", "base_account"]
  form := .fields [key "base", text "seed", key "owner"]

def transferWithSeed : Variant where
  name := "TransferWithSeed"
  slots := ["funding_account", "base_account", "recipient_account"]
  form := .fields [amount "lamports", text "from_seed", key "from_owner"]

def upgradeNonceAccount : Variant where
  name := "UpgradeNonceAccount"
  slots := ["nonce_account"]

/-- The thirteen variants of the program. -/
def definition : Definition where
  tag := some .u32
  entries :=
    [(0, createAccount), (1, assign), (2, transfer), (3, createAccountWithSeed),
      (4, advanceNonceAccount), (5, withdrawNonceAccount), (6, initializeNonceAccount),
      (7, authorizeNonceAccount), (8, allocate), (9, allocateWithSeed), (10, assignWithSeed),
      (11, transferWithSeed), (12, upgradeNonceAccount)]
  nodup := by decide
  untagged := by simp

/-- The System program. -/
def program : Program where
  typeName := "SystemInstruction"
  id := .ofNat 0
  name := "System"
  definition := definition

example : program.id.text = "11111111111111111111111111111111" := by decide +kernel

end SolanaWire.SystemProgram
