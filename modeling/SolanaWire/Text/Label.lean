/-!
# Labels

Names in camel case are turned into names of words joined by underscores: an underscore goes
before every capital but the first.
-/
namespace SolanaWire.Label

/-- The words of a name in camel case, joined by underscores. -/
def words (name : String) : List Char :=
  (name.toList.flatMap (fun c => if c.isUpper then ['_', c] else [c])).drop 1

/-- The label of a name: all capitals. -/
def ofCamel (name : String) : String := String.ofList ((words name).map Char.toUpper)

/-- The name in small letters. -/
def lowerWords (name : String) : String := String.ofList ((words name).map Char.toLower)

example : ofCamel "InsufficientFundsForFee" = "INSUFFICIENT_FUNDS_FOR_FEE" := by decide +kernel
example : lowerWords "InitializeAccount2" = "initialize_account2" := by decide +kernel

end SolanaWire.Label
