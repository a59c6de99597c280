import SolanaWire.Bytes.Base58
import SolanaWire.Bytes.LittleEndian

/-!
# Keys and hashes

Accounts and programs are named by keys of thirty-two bytes, and blocks by hashes of the same
size.  Both are shown in base 58.
-/
namespace SolanaWire

/-- A string of exactly thirty-two bytes. -/
structure Bytes32 where
  bytes : List UInt8
  length_eq : bytes.length = 32 := by decide
  deriving DecidableEq

/-- The name of an account or a program. -/
abbrev Key := Bytes32

/-- The name of a block. -/
abbrev Hash := Bytes32

namespace Bytes32

/-- The first thirty-two bytes of a number, most significant first. -/
def ofNat (n : Nat) : Bytes32 where
  bytes := (LittleEndian.encode 32 n).reverse
  length_eq := by simp

/-- A byte string of the right length. -/
def ofList? (bytes : List UInt8) : Option Bytes32 :=
  if h : bytes.length = 32 then some ⟨bytes, h⟩ else none

/-- The base 58 text. -/
def text (k : Bytes32) : String := Base58.encode k.bytes

/-- The key that a base 58 text names: the text must be the one that the key is shown as. -/
def ofText? (text : String) : Option Bytes32 := do
  let n ← Base58.value? text.toList
  let k := ofNat n
  if k.text = text then some k else none

@[simp] theorem ofList?_bytes (k : Bytes32) : ofList? k.bytes = some k := by
  simp [ofList?, k.length_eq]

end Bytes32
end SolanaWire
