/-!
# Base 58 text

A byte string is read as one big-endian number and written in base 58 over the alphabet without
the look-alikes `0`, `O`, `I` and `l`.  Each leading zero byte becomes one leading `1`, the
alphabet's first character, because the number itself does not show them.
-/
namespace SolanaWire.Base58

/-- The fifty-eight digits in the order of their values. -/
def alphabet : List Char :=
  "123456789ABCDEFGHJKLMNPQRSTUVWXYZabcdefghijkmnopqrstuvwxyz".toList

/-- The digit of a value below fifty-eight. -/
def digit (n : Nat) : Char := alphabet.getD n '1'

/-- The value of a digit. -/
def digitValue? (c : Char) : Option Nat := alphabet.idxOf? c

/-- Puts the digits of a number, most significant first, before `rest`.  Every step divides the
number, so the number itself bounds the steps. -/
def digitsOnto : (bound : Nat) → Nat → List Char → List Char
  | 0, _, rest => rest
  | bound + 1, n, rest =>
    if n = 0 then rest else digitsOnto bound (n / 58) (digit (n % 58) :: rest)

/-- The digits of a number, most significant first; zero has none. -/
def digits (n : Nat) : List Char := digitsOnto n n []

/-- The big-endian value of a byte string. -/
def bigEndian (bytes : List UInt8) : Nat := bytes.foldl (fun n b => 256 * n + b.toNat) 0

/-- The base 58 text of a byte string. -/
def encode (bytes : List UInt8) : String :=
  String.ofList
    (List.replicate (bytes.takeWhile (· == 0)).length '1' ++ digits (bigEndian bytes))

/-- The number that a sequence of digits stands for. -/
def value? (text : List Char) : Option Nat :=
  text.foldlM (fun n c => (digitValue? c).map (58 * n + ·)) 0

example : encode [0, 0, 1] = "112" := by decide
example : encode [255, 255] = "LUv" := by decide
example : value? "LUv".toList = some 65535 := by decide

end SolanaWire.Base58
