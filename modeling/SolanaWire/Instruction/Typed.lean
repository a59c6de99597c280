import SolanaWire.Instruction.Decode

/-!
# Typed decoders

A typed decoder answers whether one instruction of a message is one variant of one program, and
gives its payload if so.  Every way in which the answer can be no is a fault of its own.
-/
namespace SolanaWire

/-- A decoder for one variant: the program that instructions must belong to, the program whose
definition decodes the data, and the definition in which the variant has its type id. -/
structure TypedDecoder where
  expectedProgram : Key
  program : Program
  variant : Variant
  definition : Definition
  typeId : Int
  typeId_eq : definition.typeIdOf? variant = some typeId

/-- Why an instruction is not of the wanted variant. -/
inductive TypedFault
  | noInstruction (fault : IndexFault)
  | accounts (index : Int) (fault : IndexFault)
  | programId (index : Int) (fault : IndexFault)
  | otherProgram (index : Int) (found expected : Key)
  | malformed (index : Int) (found : Key) (program : Program) (fault : DecodeFault)
  | otherVariant (index : Int) (obtained expected : String)

/-- The failure of what needs the item at an index.  Only a report about the index is explained. -/
def IndexFault.explained (fault : IndexFault) (explain : String → Report) : Failure :=
  match fault.report with
  | .ok report => .because (explain report.message) (.report report)
  | .error failure => failure

/-- The failure that the fault is. -/
def TypedFault.failure : TypedFault → Failure
  | noInstruction fault => fault.failure
  | accounts index fault => fault.explained (.accountResolution (.int index))
  | programId index fault => fault.explained (.programIdResolution (.int index))
  | otherProgram index found expected =>
    .report (.programIdMismatch (.int index) (.key found) (.key expected))
  | malformed _ _ _ (.hidden kind) => .undescribed kind
  | malformed index found program fault =>
    .because (.instructionDecode
      (s!"instruction '{index}': failed to decode as '{program.typeName}': " ++
        fault.message program) (.key found) (.int index)) (fault.failure program)
  | otherVariant index obtained expected =>
    .report (.typeMismatch (.int index) (.text obtained) (.text expected))

namespace TypedDecoder

/-- The definition that a decoder consults: the given one, unless it has no variants. -/
def choose (program : Program) (definition : Option Definition) : Definition :=
  match definition with
  | some d => if d.size = 0 then program.definition else d
  | none => program.definition

/-- The decoder of a variant that the definition contains. -/
def make (expectedProgram : Key) (program : Program) (variant : Variant)
    (definition : Option Definition := none) : Except Failure TypedDecoder :=
  match h : (choose program definition).typeIdOf? variant with
  | some typeId => .ok ⟨expectedProgram, program, variant, _, typeId, h⟩
  | none => .error (.foreign .invalidValue
    s!"{variant.name} is not a variant of {program.typeName}")

/-- The payload of the instruction at a position, if it is of the decoder's variant. -/
def decode (d : TypedDecoder) (m : Message) (index : Int) : Except TypedFault Payload := do
  let compiled ← (m.instructionAt index).mapError .noInstruction
  let accounts ← (m.accountsOf compiled).mapError (.accounts index)
  let found ← (m.programAt compiled.programIndex).mapError (.programId index)
  if found ≠ d.expectedProgram then throw (.otherProgram index found d.expectedProgram)
  let i ← (d.program.decode accounts compiled.data).mapError (.malformed index found d.program)
  if i.typeId = d.typeId ∧ i.payload.variant = d.variant then return i.payload
  else
    let obtained := (d.definition.nameOf? i.typeId).getD i.payload.variant.name
    throw (.otherVariant index obtained d.variant.name)

/-- The program's type and the variant's name. -/
def literal (d : TypedDecoder) : String :=
  s!"TypedInstructionDecoder({d.program.typeName}.{d.variant.name})"

end TypedDecoder
end SolanaWire
