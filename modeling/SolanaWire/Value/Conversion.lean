import SolanaWire.Failure
import SolanaWire.Number.Numeral

/-!
# Conversions of values

A value may be used where an integer, a real number, a byte string or a multiple is wanted.  As a
number a text is read; as an integer a fraction is dropped.  As a byte string a number stands for
that many zero bytes, and a sequence for the bytes that its items number; a number beyond what a
length can be is refused before any byte is laid out.
-/
namespace SolanaWire

/-- The least number that no length can be. -/
def lengthLimit : Nat := 0x8000000000000000

/-- The failure about an integer beyond the range of floating-point numbers. -/
def integerTooLarge : Failure := .foreign .overflow "int too large to convert to float"

/-- The failure about an integer with too many digits to be written. -/
def integerTooLong : Failure := .foreign .invalidValue Numeral.tooLong

/-- The decimal digits of an integer, unless there are too many. -/
def decimalText (n : Int) : Except Failure String :=
  if Numeral.IsWritable n then .ok (toString n) else .error integerTooLong

/-- The product of two numbers; it fails if an integer factor is beyond the range of a
floating-point one. -/
def Number.product (a b : Number) : Except Failure Number :=
  (a.mul? b).elim (.error integerTooLarge) .ok

/-- What a byte string needs besides its bytes. -/
def byteStringOverhead : Nat := 33

/-- The least length for which there is no memory. -/
def memoryLimit : Nat := 0x10000000000

/-- A byte string, or the length of one that is all zeros. -/
inductive ByteString
  | given (bytes : List UInt8)
  | zeros (length : Nat)

namespace ByteString

/-- The number of bytes. -/
def length : ByteString → Nat
  | given bytes => bytes.length
  | zeros n => n

/-- The bytes. -/
def toList : ByteString → List UInt8
  | given bytes => bytes
  | zeros n => List.replicate n 0

@[simp] theorem length_toList (s : ByteString) : s.toList.length = s.length := by
  cases s <;> simp [toList, length]

end ByteString

namespace Value

/-- The text of a value, unless it is an integer with too many digits. -/
def written (v : Value) : Except Failure String :=
  match v.wireInt? with
  | some n => if Numeral.IsWritable n then .ok v.display else .error integerTooLong
  | none => .ok v.display

theorem written_of_wireInt? {v : Value} {n : Int} (number : v.wireInt? = some n) :
    v.written = if Numeral.IsWritable n then .ok v.display else .error integerTooLong := by
  rw [written, number]

/-- The integer that a value converts to. -/
def integer : Value → Except Failure Int
  | text s => (Numeral.integer s).mapError (.foreign .invalidValue)
  | float .nan => .error (.foreign .invalidValue "cannot convert float NaN to integer")
  | float x =>
    match x.truncate? with
    | some n => .ok n
    | none => .error (.foreign .overflow "cannot convert float infinity to integer")
  | v =>
    match v.wireInt? with
    | some n => .ok n
    | none => .error .wrongType

/-- The real number that a value converts to. -/
def real : Value → Except Failure Binary64
  | text s => (Numeral.real s).mapError (.foreign .invalidValue)
  | v =>
    match v.number? with
    | some a => a.toBinary64?.elim (.error integerTooLarge) .ok
    | none => .error .wrongType

/-- The length that an integer is. -/
def lengthOf (n : Int) : Except Failure Nat :=
  if n < -lengthLimit ∨ lengthLimit ≤ n then
    .error (.foreign .overflow "cannot fit 'int' into an index-sized integer")
  else if n < 0 then .error (.foreign .invalidValue "negative count")
  else if lengthLimit ≤ n + byteStringOverhead then
    .error (.foreign .overflow "byte string is too large")
  else if memoryLimit ≤ n then .error (.foreign .memory "")
  else .ok n.toNat

/-- The byte that a value numbers. -/
def byte (v : Value) : Except Failure UInt8 :=
  match v.wireInt? with
  | some n =>
    if 0 ≤ n ∧ n < 0x100 then .ok (UInt8.ofNat n.toNat)
    else .error (.foreign .invalidValue "bytes must be in range(0, 256)")
  | none => .error .wrongType

/-- The byte string that a value converts to. -/
def byteString : Value → Except Failure ByteString
  | key k => .ok (.given k.bytes)
  | hash h => .ok (.given h.bytes)
  | list xs => (xs.mapM byte).map .given
  | tuple xs => (xs.mapM byte).map .given
  | record fs => if fs.isEmpty then .ok (.given []) else .error .wrongType
  | v =>
    match v.wireInt? with
    | some n => (lengthOf n).map .zeros
    | none => .error .wrongType

/-- A number of copies of a sequence, one after the other. -/
def copies {α : Type} (n : Int) (xs : List α) : List α := (List.replicate n.toNat xs).flatten

/-- A value as many times as an integer says: the product of a number, the copies of a sequence. -/
def times (v : Value) (n : Int) : Except Failure Value :=
  match v with
  | text s => .ok (text (String.ofList (copies n s.toList)))
  | list xs => .ok (list (copies n xs))
  | tuple xs => .ok (tuple (copies n xs))
  | v =>
    match v.number? with
    | some a => (a.product (.int n)).map number
    | none => .error .wrongType

end Value
end SolanaWire
