import SolanaWire.Layout.FieldType

/-!
# Instruction variants

A variant is one of the forms that the instructions of a program take: named account slots, the
last of which may be missing, and parameters with their wire form.  Nearly every variant lists its
parameters as fields, one after the other; a presence variant has a single flag, which is set by
the byte one and clear if there is no data or the byte zero.

Variants beside the built-in ones are declared.  Each declaration makes a variant of its own, which
is told from all others by its number, also from those that look the same.
-/
namespace SolanaWire

/-- A parameter of a variant.  An omissible one is null unless it is given. -/
structure Field where
  name : String
  type : FieldType
  omissible : Bool := false
  deriving DecidableEq

/-- The wire form of the parameters of a variant. -/
inductive Form
  | fields (fields : List Field)
  | presence (flag : String)
  deriving DecidableEq

/-- One form that the instructions of a program take.  A variant that is not built in has the
number of its declaration. -/
structure Variant where
  name : String
  slots : List String := []
  optionalSlots : Int := 0
  form : Form := .fields []
  declaration : Option Nat := none
  deriving DecidableEq

/-- The values of some fields at the front of some bytes, and the rest. -/
def readFields : List Field → List UInt8 → Except LayoutFault (List Value × List UInt8)
  | [], bytes => .ok ([], bytes)
  | f :: fs, bytes => do
    let (v, rest) ← (f.type.decode bytes).mapError (·.under f.name)
    let (vs, rest) ← readFields fs rest
    return (v :: vs, rest)

/-- The wire forms of some fields, one after the other. -/
def writeFields : List Field → List Value → Except EncodeFault (List UInt8)
  | f :: fs, v :: vs => do
    let front ← (f.type.encode v).mapError (·.under f.name)
    let rest ← writeFields fs vs
    return front ++ rest
  | _, _ => .ok []

namespace Form

/-- The names of the parameters. -/
def names : Form → List String
  | fields fs => fs.map (·.name)
  | presence flag => [flag]

/-- The parameters that some bytes stand for.  Fields ignore what follows them. -/
def decode : Form → List UInt8 → Except LayoutFault (List Value)
  | fields fs, bytes => do
    let (vs, _) ← readFields fs bytes
    return vs
  | presence _, [] => .ok [.bool false]
  | presence _, bytes =>
    if bytes = [0] then .ok [.bool false]
    else if bytes = [1] then .ok [.bool true]
    else .error (.unsupported bytes)

/-- The bytes of some parameters. -/
def encode : Form → List Value → Except EncodeFault (List UInt8)
  | fields fs, vs => writeFields fs vs
  | presence _, vs => .ok (if vs.any Value.isTruthy then [1] else [])

/-- The literals of parameters that were read. -/
def readLiterals : Form → List Value → List String
  | fields fs, vs => List.zipWith (fun f v => f.type.readLiteral v) fs vs
  | presence _, vs => Value.literals vs

/-- The parameters that are used where none is given. -/
def default? (form : Form) (name : String) : Option Value :=
  match form with
  | fields fs => if fs.any (fun f => f.name == name && f.omissible) then some .null else none
  | presence _ => some (.bool false)

/-- The parameters in their order, from values given by name; `none` if one is missing or a name
is unknown. -/
def arrange? (form : Form) (given : Fields) : Option (List Value) :=
  if given.all (fun g => form.names.contains g.1) then
    form.names.mapM (fun name => given.lookup name <|> form.default? name)
  else none

end Form

namespace Variant

/-- The least number of accounts. -/
def minAccounts (v : Variant) : Int := (v.slots.length : Int) - v.optionalSlots

/-- The position that a slot's name stands for: the last one that bears it. -/
def slotIndex (v : Variant) (name : String) : Nat :=
  v.slots.length - 1 - v.slots.reverse.idxOf name

/-- Whether payloads keep the containers that their vectors are read into: those of the built-in
variants do not. -/
def keepsContainers (v : Variant) : Bool := v.declaration.isSome

end Variant
end SolanaWire
