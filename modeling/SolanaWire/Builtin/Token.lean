import SolanaWire.Instruction

/-!
# The token programs

Mints tokens and moves them between token accounts.  Instructions begin with a type id of one byte.
The Token-2022 program keeps the same variants and encodings under an id of its own; its extension
instructions are not decoded.
-/
namespace SolanaWire.Token

/-- The authorities that an account or a mint can have. -/
def authorityType : Enumeration where
  name := "AuthorityType"
  members := [("MINT_TOKENS", 0), ("FREEZE_ACCOUNT", 1), ("ACCOUNT_OWNER", 2), ("CLOSE_ACCOUNT", 3)]

/-- A field for a number of tokens. -/
def amount : Field := ⟨"amount", .int .u64, false⟩

/-- A field for a number of decimal places. -/
def decimals : Field := ⟨"decimals", .int .u8, false⟩

/-- A field for a number of signers. -/
def signers : Field := ⟨"m", .int .u8, false⟩

/-- A field for the owner of an account. -/
def owner : Field := ⟨"owner", .key, false⟩

/-- The fields that describe a new mint. -/
def mintFields : List Field :=
  [decimals, ⟨"mint_authority", .key, false⟩, ⟨"freeze_authority", .option .key, true⟩]

def initializeMint : Variant where
  name := "InitializeMint"
  slots := ["mint", "rent_sysvar"]
  form := .fields mintFields

def initializeAccount : Variant where
  name := "InitializeAccount"
  slots := ["account", "mint", "owner", "rent_sysvar"]

/-- The signers follow the named accounts. -/
def initializeMultisig : Variant where
  name := "InitializeMultisig"
  slots := ["multisig", "rent_sysvar"]
  form := .fields [signers]

/-- Moves tokens between accounts of one mint.  Where several signers own the source, they follow
the named accounts. -/
def transfer : Variant where
  name := "Transfer"
  slots := ["source", "destination", "owner"]
  form := .fields [amount]

def approve : Variant where
  name := "Approve"
  slots := ["source", "delegate", "owner"]
  form := .fields [amount]

def revoke : Variant where
  name := "Revoke"
  slots := ["source", "owner"]

def setAuthority : Variant where
  name := "SetAuthority"
  slots := ["account", "current_authority"]
  form := .fields
    [⟨"authority_type", .enumerated .u8 authorityType, false⟩,
      ⟨"new_authority", .option .key, true⟩]

def mintTo : Variant where
  name := "MintTo"
  slots := ["mint", "destination", "authority"]
  form := .fields [amount]

def burn : Variant where
  name := "Burn"
  slots := ["account", "mint", "owner"]
  form := .fields [amount]

def closeAccount : Variant where
  name := "CloseAccount"
  slots := ["account", "destination", "owner"]

def freezeAccount : Variant where
  name := "FreezeAccount"
  slots := ["account", "mint", "authority"]

def thawAccount : Variant where
  name := "ThawAccount"
  slots := ["account", "mint", "authority"]

def transferChecked : Variant where
  name := "TransferChecked"
  slots := ["source", "mint", "destination", "owner"]
  form := .fields [amount, decimals]

def approveChecked : Variant where
  name := "ApproveChecked"
  slots := ["source", "mint", "delegate", "owner"]
  form := .fields [amount, decimals]

def mintToChecked : Variant where
  name := "MintToChecked"
  slots := ["mint", "destination", "authority"]
  form := .fields [amount, decimals]

def burnChecked : Variant where
  name := "BurnChecked"
  slots := ["account", "mint", "owner"]
  form := .fields [amount, decimals]

def initializeAccount2 : Variant where
  name := "InitializeAccount2"
  slots := ["account", "mint", "rent_sysvar"]
  form := .fields [owner]

def syncNative : Variant where
  name := "SyncNative"
  slots := ["account"]

def initializeAccount3 : Variant where
  name := "InitializeAccount3"
  slots := ["account", "mint"]
  form := .fields [owner]

def initializeMultisig2 : Variant where
  name := "InitializeMultisig2"
  slots := ["multisig"]
  form := .fields [signers]

def initializeMint2 : Variant where
  name := "InitializeMint2"
  slots := ["mint"]
  form := .fields mintFields

/-- The twenty-one variants of the programs. -/
def definition : Definition where
  tag := some .u8
  entries :=
    [(0, initializeMint), (1, initializeAccount), (2, initializeMultisig), (3, transfer),
      (4, approve), (5, revoke), (6, setAuthority), (7, mintTo), (8, burn), (9, closeAccount),
      (10, freezeAccount), (11, thawAccount), (12, transferChecked), (13, approveChecked),
      (14, mintToChecked), (15, burnChecked), (16, initializeAccount2), (17, syncNative),
      (18, initializeAccount3), (19, initializeMultisig2), (20, initializeMint2)]
  nodup := by decide
  untagged := by simp

/-- The Token program. -/
def program : Program where
  typeName := "TokenInstruction"
  id := .ofNat 0x06ddf6e1d765a193d9cbe146ceeb79ac1cb485ed5f5b37913a8cf5857eff00a9
  name := "Token"
  definition := definition

/-- The Token-2022 program. -/
def program2022 : Program where
  typeName := "Token2022Instruction"
  id := .ofNat 0x06ddf6e1ee758fde18425dbce46ccddab61afc4d83b90d27febdf928d8a18bfc
  name := "Token2022"
  definition := definition

example : program.id.text = "TokenkegQfeZyiNwAJbNbGKPFXCWuBvf9Ss623VQ5DA" := by decide +kernel
example : program2022.id.text = "TokenzQdBNbLqP5VEhdkAS6EPFLC1PHnBqCXEpPxuEb" := by decide +kernel

end SolanaWire.Token
