import SolanaWire.Instruction

/-!
# The Vote program

Keeps the accounts that validators vote with.  Its instructions begin with a `u32` type id.
-/
namespace SolanaWire.Vote

/-- The roles that a vote account can authorise. -/
def voteAuthorize : Enumeration where
  name := "VoteAuthorize"
  members := [("VOTER", 0), ("WITHDRAWER", 1)]

def initializeAccount : Variant where
  name := "InitializeAccount"
  slots := ["vote_account", "rent_sysvar", "clock_sysvar", "node"]
  form := .fields
    [⟨"node_pubkey", .key, false⟩, ⟨"authorized_voter", .key, false⟩,
      ⟨"authorized_withdrawer", .key, false⟩, ⟨"commission", .int .u8, false⟩]

def authorize : Variant where
  name := "Authorize"
  slots := ["vote_account", "clock_sysvar", "authority"]
  form := .fields
    [⟨"new_authority", .key, false⟩,
      ⟨"vote_authorize", .enumerated .u32 voteAuthorize, false⟩]

/-- Votes on a set of slots; the hash is the bank hash of the last of them. -/
def vote : Variant where
  name := "Vote"
  slots := ["vote_account", "slot_hashes_sysvar", "clock_sysvar", "vote_authority"]
  form := .fields
    [⟨"slots", .vec (.int .u64), false⟩, ⟨"hash", .hash, false⟩,
      ⟨"timestamp", .option (.int .i64), true⟩]

def withdraw : Variant where
  name := "Withdraw"
  slots := ["vote_account", "recipient", "withdraw_authority"]
  form := .fields [⟨"lamports", .int .u64, false⟩]

def updateValidatorIdentity : Variant where
  name := "UpdateValidatorIdentity"
  slots := ["vote_account", "node", "withdraw_authority"]

def updateCommission : Variant where
  name := "UpdateCommission"
  slots := ["vote_account", "withdraw_authority"]
  form := .fields [⟨"commission", .int .u8, false⟩]

/-- The six variants of the program. -/
def definition : Definition where
  tag := some .u32
  entries :=
    [(0, initializeAccount), (1, authorize), (2, vote), (3, withdraw),
      (4, updateValidatorIdentity), (5, updateCommission)]
  nodup := by decide
  untagged := by simp

/-- The Vote program. -/
def program : Program where
  typeName := "VoteInstruction"
  id := .ofNat 0x0761481d357474bb7c4d7624ebd3bdb3d8355e73d11043fc0da3538000000000
  name := "Vote"
  definition := definition

example : program.id.text = "Vote111111111111111111111111111111111111111" := by decide +kernel

end SolanaWire.Vote
