import SolanaWire.Instruction

/-!
# Decoding instruction data

Data is decoded by the definition of its program: the type id selects the variant, the variant
says how many accounts there must be, its form reads the parameters, and they make the payload.
The faults are checked in that order, so the first of them is the one reported.  A parameter or a
slot may hide what one of these steps needs.
-/
namespace SolanaWire

/-- Why data is not an instruction of a program. -/
inductive DecodeFault
  | tooShort (length width : Nat)
  | unknownTypeId (typeId : Int)
  | tooFewAccounts (variant : String) (found : Nat) (needed : Int)
  | malformed (variant : String) (fault : LayoutFault)
  | hidden (kind : ForeignClass)
  deriving DecidableEq

/-- The message about data that is shorter than a type id. -/
def tooShortMessage (length width : Nat) : String :=
  s!"instruction data too short for a type id: {length} < {width} bytes"

/-- The message about data that is not an instruction of a program. -/
def DecodeFault.message (program : Program) : DecodeFault → String
  | tooShort length width => tooShortMessage length width
  | unknownTypeId typeId => s!"unknown {program.name} instruction type id {typeId}"
  | tooFewAccounts variant found needed =>
    s!"{variant}: not enough accounts, got {found}, need {needed}"
  | malformed variant fault => s!"{variant}: malformed parameters: {fault.message}"
  | hidden kind => (Failure.undescribed kind).text

/-- The failure of a program to decode data. -/
def DecodeFault.failure (program : Program) (fault : DecodeFault) : Failure :=
  let message := fault.message program
  match fault with
  | tooShort .. => .because (.instructionDecode message (.key program.id) .null)
    (.report (.instructionDecode message .null .null))
  | unknownTypeId typeId =>
    .report (.instructionDecode message (.key program.id) .null [("type_id", .int typeId)])
  | tooFewAccounts .. => .report (.instructionDecode message (.key program.id) .null)
  | malformed _ layout => .because (.instructionDecode message (.key program.id) .null)
    (.foreign layout.kind layout.message)
  | hidden kind => .undescribed kind

/-- The failure of a definition to split data. -/
def Definition.splitFailure (d : Definition) (data : List UInt8) : Failure :=
  .report (.instructionDecode (tooShortMessage data.length d.tagWidth) .null .null)

/-- The parameters of a variant that some bytes stand for, if they make a payload. -/
def Variant.read (variant : Variant) (bytes : List UInt8) : Except DecodeFault (List Value) :=
  match variant.readFault? with
  | some kind => .error (.hidden kind)
  | none =>
    match variant.form.decode bytes with
    | .error fault => .error (.malformed variant.name fault)
    | .ok params =>
      match variant.remakeFault? with
      | some kind => .error (.hidden kind)
      | none => .ok params

/-- Decodes the accounts and data of an instruction of a program. -/
def Program.decode (program : Program) (accounts : List Account) (data : List UInt8) :
    Except DecodeFault Structured :=
  match program.definition.split? data with
  | none => .error (.tooShort data.length program.definition.tagWidth)
  | some (typeId, bytes) =>
    match program.definition.variantFor? typeId with
    | none => .error (.unknownTypeId typeId)
    | some variant =>
      match variant.countFault? with
      | some kind => .error (.hidden kind)
      | none =>
        if (accounts.length : Int) < variant.minAccounts then
          .error (.tooFewAccounts variant.name accounts.length variant.minAccounts)
        else do
          let params ← variant.read bytes
          return ⟨program, typeId, .ofRead variant params accounts⟩

end SolanaWire
