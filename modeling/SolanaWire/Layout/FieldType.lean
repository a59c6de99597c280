import SolanaWire.Bytes.Utf8
import SolanaWire.Bytes.Hex
import SolanaWire.Layout.IntFormat
import SolanaWire.Layout.Enumeration
import SolanaWire.Value.Conversion

/-!
# Field types

The types that instruction parameters are declared with, each with its wire form: fixed-width
integers, keys and hashes of thirty-two bytes, texts, optional values, vectors and enumerations.

An optional value is a flag byte followed by the value if the flag is not zero; any other flag
counts as one.  Texts and vectors begin with their length as a `u64`.  Reading returns the bytes
that it did not use; the items of a vector are read one by one, so a length that the bytes do not
honour fails at the first item that is missing.

Writing takes any value.  Keys and hashes are the bytes that the value converts to, enumerations
the integer, and vectors the items that it has; a value that cannot be used so is a fault.
-/
namespace SolanaWire

/-- The type of a parameter. -/
inductive FieldType
  | int (format : IntFormat)
  | key
  | hash
  | text
  | option (value : FieldType)
  | vec (item : FieldType)
  | enumerated (format : IntFormat) (enumeration : Enumeration)
  deriving DecidableEq

/-- Why bytes are not the wire form of a type.  Paths lead from the outermost field inwards. -/
inductive LayoutFault
  | truncated (path : List String) (expected found : Nat)
  | unreadable (path : List String) (requested : Nat)
  | unmapped (path : List String) (enumeration : String) (number : Int)
  | notText (bytes : List UInt8)
  | unsupported (bytes : List UInt8)
  deriving DecidableEq

namespace LayoutFault

/-- The fault as seen from a field that encloses the place where it arose. -/
def under (name : String) : LayoutFault → LayoutFault
  | truncated path expected found => truncated (name :: path) expected found
  | unreadable path requested => unreadable (name :: path) requested
  | unmapped path enumeration number => unmapped (name :: path) enumeration number
  | fault => fault

/-- The class of the fault. -/
def kind : LayoutFault → ForeignClass
  | truncated .. => .stream
  | unreadable .. => .stream
  | unmapped .. => .mapping
  | notText _ => .textEncoding
  | unsupported _ => .mapping

end LayoutFault

/-- The classes of faults of byte layouts.  A decoder handles these, and no others. -/
def ForeignClass.ofLayouts : List ForeignClass := [stream, mapping, textEncoding, formatField]

/-- Every fault of a layout is of a class that a decoder handles. -/
theorem LayoutFault.kind_mem_ofLayouts (fault : LayoutFault) :
    fault.kind ∈ ForeignClass.ofLayouts := by
  cases fault <;> simp [LayoutFault.kind, ForeignClass.ofLayouts]

/-- The line that leads to the field where an activity failed. -/
def pathLine (activity : String) (path : List String) : String :=
  " -> ".intercalate (("Error in path (" ++ activity ++ ")") :: path) ++ "\n"

/-- The message about a fault. -/
def LayoutFault.message : LayoutFault → String
  | truncated path expected found => pathLine "parsing" path ++
    s!"stream read less than specified amount, expected {expected}, found {found}"
  | unreadable path requested => pathLine "parsing" path ++
    s!"stream.read() failed, requested {requested} bytes"
  | unmapped path enumeration number => pathLine "parsing" path ++
    s!"invalid {enumeration} value {number}"
  | notText bytes => "cannot use encoding 'utf8' to decode " ++ Quoted.bytes bytes
  | unsupported bytes => "unsupported instruction data 0x" ++ Hex.encode bytes

/-- Why a value has no wire form in a type, or a payload none at all. -/
inductive EncodeFault
  | integer (path : List String) (format : IntFormat) (given : Value)
  | wrongLength (path : List String) (expected found : Nat)
  | notText (path : List String)
  | unconverted (cause : Failure)
  | hidden (kind : ForeignClass)

namespace EncodeFault

/-- The use of a value in a type that takes no such values. -/
def wrongType : EncodeFault := unconverted .wrongType

/-- The fault as seen from a field that encloses the place where it arose. -/
def under (name : String) : EncodeFault → EncodeFault
  | integer path format given => integer (name :: path) format given
  | wrongLength path expected found => wrongLength (name :: path) expected found
  | notText path => notText (name :: path)
  | fault => fault

/-- The failure that the fault is. -/
def failure : EncodeFault → Failure
  | integer path format given => .foreign .formatField (pathLine "building" path ++
    "struct '<" ++ String.singleton format.letter ++ "' error during building, given value " ++
      given.literal)
  | wrongLength path expected found => .foreign .stream (pathLine "building" path ++
    s!"bytes object of wrong length, expected {expected}, found {found}")
  | notText path => .foreign .textEncoding (pathLine "building" path ++
    "string encoding failed, expected unicode string")
  | unconverted cause => cause
  | hidden kind => .undescribed kind

end EncodeFault

/-- The first `n` bytes and the rest. -/
def readExactly (n : Nat) (bytes : List UInt8) :
    Except LayoutFault (List UInt8 × List UInt8) :=
  if n ≤ bytes.length then .ok (bytes.take n, bytes.drop n)
  else .error (.truncated [] n bytes.length)

theorem readExactly_append {n : Nat} {front rest : List UInt8} (h : front.length = n) :
    readExactly n (front ++ rest) = .ok (front, rest) := by
  simp [readExactly, ← h]

/-- The first thirty-two bytes and the rest. -/
def readBytes32 (bytes : List UInt8) : Except LayoutFault (Bytes32 × List UInt8) :=
  if h : 32 ≤ bytes.length then .ok (⟨bytes.take 32, by simp [h]⟩, bytes.drop 32)
  else .error (.truncated [] 32 bytes.length)

/-- An integer of a format and the rest. -/
def IntFormat.read (f : IntFormat) (bytes : List UInt8) :
    Except LayoutFault (Int × List UInt8) := do
  let (word, rest) ← readExactly f.width bytes
  return (f.decode word, rest)

/-- A length prefix and the rest. -/
def readLength (bytes : List UInt8) : Except LayoutFault (Nat × List UInt8) := do
  let (word, rest) ← readExactly 8 bytes
  return (LittleEndian.decode word, rest)

/-- The bytes of a length prefix. -/
def lengthPrefix (n : Nat) : List UInt8 := LittleEndian.encode 8 n

/-- A length prefix, the text of that many bytes, and the rest. -/
def readText (bytes : List UInt8) : Except LayoutFault (String × List UInt8) := do
  let (n, rest) ← readLength bytes
  if lengthLimit ≤ n then throw (.unreadable [] n)
  let (front, rest) ← readExactly n rest
  match Utf8.decode? front with
  | some chars => return (String.ofList chars, rest)
  | none => throw (.notText front)

/-- As many items as `count` says, each read by `read`, and the rest. -/
def readItems (read : List UInt8 → Except LayoutFault (Value × List UInt8)) :
    (count : Nat) → List UInt8 → Except LayoutFault (List Value × List UInt8)
  | 0, bytes => .ok ([], bytes)
  | count + 1, bytes => do
    let (v, rest) ← read bytes
    let (vs, rest) ← readItems read count rest
    return (v :: vs, rest)

/-- Whether a flag byte says that a value follows. -/
def isPresent (flag : List UInt8) : Bool := flag != [0]

namespace FieldType

/-- The value at the front of some bytes, and the rest. -/
def decode : FieldType → List UInt8 → Except LayoutFault (Value × List UInt8)
  | int f, bytes => do
    let (n, rest) ← f.read bytes
    return (.int n, rest)
  | key, bytes => do
    let (k, rest) ← readBytes32 bytes
    return (.key k, rest)
  | hash, bytes => do
    let (h, rest) ← readBytes32 bytes
    return (.hash h, rest)
  | text, bytes => do
    let (s, rest) ← readText bytes
    return (.text s, rest)
  | option t, bytes => do
    let (flag, rest) ← (readExactly 1 bytes).mapError (·.under "present")
    if isPresent flag then (decode t rest).mapError (·.under "value")
    else return (.null, rest)
  | vec t, bytes => do
    let (count, rest) ← (readLength bytes).mapError (·.under "count")
    let (vs, rest) ← (readItems (decode t) count rest).mapError (·.under "items")
    return (.list vs, rest)
  | enumerated f e, bytes => do
    let (n, rest) ← f.read bytes
    match e.member? n with
    | some m => return (.member m, rest)
    | none => throw (.unmapped [] e.name n)

/-- The literal of a value that was read as the type: each vector is shown in its container. -/
def readLiteral : FieldType → Value → String
  | option _, .null => Value.null.literal
  | option t, v => readLiteral t v
  | vec t, .list vs => "ListContainer(" ++ Value.bracketed "[" (vs.map (readLiteral t)) "]" ++ ")"
  | _, v => v.literal

example : (vec (option (vec (int .u8)))).readLiteral (.list [.null, .list [.int 1, .int 2]]) =
    "ListContainer([None, ListContainer([1, 2])])" := by decide +kernel

end FieldType

/-- The bytes of a value as an integer of a format. -/
def IntFormat.write (f : IntFormat) (v : Value) : Except EncodeFault (List UInt8) :=
  match v.wireInt? with
  | some n => if f.Fits n then .ok (f.encode n) else .error (.integer [] f v)
  | none => .error (.integer [] f v)

/-- The wire forms of some items, one after the other. -/
def writeItems (write : Value → Except EncodeFault (List UInt8)) :
    List Value → Except EncodeFault (List UInt8)
  | [] => .ok []
  | v :: vs => do
    let front ← write v
    let rest ← writeItems write vs
    return front ++ rest

/-- The thirty-two bytes of a value. -/
def writeBytes32 (v : Value) : Except EncodeFault (List UInt8) := do
  let bytes ← v.byteString.mapError .unconverted
  if bytes.length = 32 then return bytes.toList else throw (.wrongLength [] 32 bytes.length)

/-- The bytes of a text after their length. -/
def writeText : Value → Except EncodeFault (List UInt8)
  | .text s =>
    let bytes := Utf8.encode s.toList
    .ok (lengthPrefix bytes.length ++ bytes)
  | _ => .error (.notText [])

namespace FieldType

/-- The wire form of a value. -/
def encode : FieldType → Value → Except EncodeFault (List UInt8)
  | int f, v => f.write v
  | key, v => writeBytes32 v
  | hash, v => writeBytes32 v
  | text, v => writeText v
  | option _, .null => .ok [0]
  | option t, v => do
    let bytes ← (encode t v).mapError (·.under "value")
    return 1 :: bytes
  | vec t, v =>
    match v.items? with
    | none => .error .wrongType
    | some vs => do
      let bytes ← (writeItems (encode t) vs).mapError (·.under "items")
      return lengthPrefix vs.length ++ bytes
  | enumerated f _, v => do
    let n ← v.integer.mapError .unconverted
    f.write (.int n)

end FieldType
end SolanaWire
