import SolanaWire.Instruction

/-!
# The Compute Budget program

Limits and prices the work of a transaction.  Instructions begin with a type id of one byte and
name no accounts.
-/
namespace SolanaWire.ComputeBudget

/-- A field for a number below `2 ^ 32`. -/
def word (name : String) : Field := ⟨name, .int .u32, false⟩

def requestUnitsDeprecated : Variant where
  name := "RequestUnitsDeprecated"
  form := .fields [word "units", word "additional_fee"]

/-- Asks for a heap of a number of bytes, a multiple of 1024. -/
def requestHeapFrame : Variant where
  name := "RequestHeapFrame"
  form := .fields [word "bytes"]

def setComputeUnitLimit : Variant where
  name := "SetComputeUnitLimit"
  form := .fields [word "units"]

/-- Sets the fee in micro-lamports for each compute unit. -/
def setComputeUnitPrice : Variant where
  name := "SetComputeUnitPrice"
  form := .fields [⟨"micro_lamports", .int .u64, false⟩]

def setLoadedAccountsDataSizeLimit : Variant where
  name := "SetLoadedAccountsDataSizeLimit"
  form := .fields [word "bytes"]

/-- The five variants of the program. -/
def definition : Definition where
  tag := some .u8
  entries :=
    [(0, requestUnitsDeprecated), (1, requestHeapFrame), (2, setComputeUnitLimit),
      (3, setComputeUnitPrice), (4, setLoadedAccountsDataSizeLimit)]
  nodup := by decide
  untagged := by simp

/-- The Compute Budget program. -/
def program : Program where
  typeName := "ComputeBudgetInstruction"
  id := .ofNat 0x0306466fe5211732ffecadba72c39be7bc8ce5bbc5f7126b2c439b3a40000000
  name := "ComputeBudget"
  definition := definition

example : program.id.text = "ComputeBudget111111111111111111111111111111" := by decide +kernel

end SolanaWire.ComputeBudget
