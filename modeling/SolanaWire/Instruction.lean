import SolanaWire.Definition
import SolanaWire.Message
import SolanaWire.Variant.Feature

/-!
# Instructions

An instruction is either structured, that is, of a known program and one of its variants, or it is
kept unparsed, with its data as it came.  Two structured instructions are equal if they are of one
program, have one type id, equal payloads and the same accounts; the equality of payloads alone
does not look at accounts.
-/
namespace SolanaWire

/-- A program whose instructions are described by a definition.  A program that is not built in has
the number of its declaration, which tells it from all others. -/
structure Program where
  typeName : String
  id : Key
  name : String
  definition : Definition
  declaration : Option Nat := none
  deriving DecidableEq

/-- A variant with its parameters, in the variant's order, and its accounts.  The parameters may be
in the containers that they were read into, which shows only in the literal form. -/
structure Payload where
  variant : Variant
  params : List Value
  accounts : List Account := []
  inContainers : Bool := false

namespace Payload

/-- The payload of a variant with the parameters that are given by name. -/
def make (variant : Variant) (given : Fields) (accounts : List Account) :
    Except Failure Payload :=
  match variant.form.arrange? given with
  | none => .error .wrongType
  | some params =>
    match variant.makeFault? with
    | some kind => .error (.undescribed kind)
    | none => .ok { variant, params, accounts }

/-- The parameters with their names, except for one that the accounts take the place of. -/
def namedParams (p : Payload) : Fields :=
  p.variant.paramNames.filterMap (fun name =>
    ((p.variant.form.names.zip p.params).lookup name).map (name, ·))

/-- The account of each slot, if there is one. -/
def namedAccounts (p : Payload) : List (String × Option Account) :=
  p.variant.slots.map (fun slot => (slot, p.accounts[p.variant.slotIndex slot]?))

/-- The accounts after those of the slots. -/
def remaining (p : Payload) : List Account := p.accounts.drop p.variant.slots.length

/-- Equality of variant and parameters. -/
def eqv (p q : Payload) : Bool := p.variant == q.variant && Value.eqvItems p.params q.params

/-- The payload that some parameters make once they are read. -/
def ofRead (variant : Variant) (params : List Value) (accounts : List Account) : Payload :=
  { variant, params, accounts, inContainers := variant.keepsContainers }

/-- The literals of the parameters. -/
def paramLiterals (p : Payload) : List String :=
  if p.inContainers then p.variant.form.readLiterals p.params else Value.literals p.params

/-- The literals of the parameters with their names.  That of the accounts is among them if they
take the place of a parameter. -/
def namedLiterals (p : Payload) : List (String × String) :=
  let accounts := Value.bracketed "[" (p.accounts.map Account.literal) "]"
  let literals := p.variant.form.names.zip p.paramLiterals
  p.variant.makingOrder.filterMap (fun name =>
    (literals.lookup name).map (fun shown =>
      (name, if name == Feature.accounts.name then accounts else shown)))

/-- The variant's name with its parameters. -/
def literal (p : Payload) : String :=
  p.variant.name ++ Value.bracketed "("
    (p.namedLiterals.map (fun (name, shown) => name ++ "=" ++ shown)) ")"

/-- Whether something absent has taken the place of the wire form; `none` if nothing has taken it.
It is the account of a slot or the value of a parameter. -/
def layoutGone? (p : Payload) : Option Bool :=
  let name := Feature.layout.name
  if p.variant.slotHides [.layout] then some (p.accounts[p.variant.slotIndex name]?).isNone
  else if p.variant.paramHides [.layout] then some (p.namedParams.lookup name matches some .null)
  else none

/-- The wire form of the parameters.  The one that the accounts take the place of is missing. -/
def writeParams (p : Payload) : Except EncodeFault (List UInt8) :=
  match p.variant.form with
  | .fields fs =>
    if p.variant.paramHides [.accounts] then do
      let _ ← writeFields (fs.takeWhile (·.name != Feature.accounts.name)) p.params
      throw (.unconverted (.missingKey (.text Feature.accounts.name)))
    else writeFields fs p.params
  | .presence _ => p.variant.form.encode p.params

/-- The wire form of a payload. -/
def encode (p : Payload) : Except EncodeFault (List UInt8) :=
  if p.variant.hides [.writing] then .error (.hidden .wrongType)
  else
    match p.layoutGone? with
    | some true => .ok []
    | some false => .error (.hidden .missingAttribute)
    | none =>
      if p.variant.form.names != [] && p.variant.hides [.params, .paramNames] then
        .error (.hidden .wrongType)
      else p.writeParams

theorem encode_of_keepsFeatures {p : Payload} (h : p.variant.KeepsFeatures) :
    p.encode = p.variant.form.encode p.params := by
  have gone : p.layoutGone? = none := by
    simp [layoutGone?, Variant.slotHides_eq_false h, Variant.paramHides_eq_false h]
  simp only [encode, gone, Variant.hides_eq_false h, Bool.and_false, Bool.false_eq_true, if_false,
    writeParams, Variant.paramHides_eq_false h]
  cases p.variant.form <;> rfl

end Payload

/-- A payload under the type id that its program gives it. -/
structure Structured where
  program : Program
  typeId : Int
  payload : Payload

/-- Data that no program has read. -/
structure Unparsed where
  program : Key
  accounts : List Account
  data : List UInt8
  deriving DecidableEq

/-- An instruction. -/
inductive Instruction
  | structured (i : Structured)
  | unparsed (i : Unparsed)

namespace Structured

/-- A payload as an instruction of a program, under the given type id or else under the one that
the program's definition has for it. -/
def wrap (program : Program) (payload : Payload) (typeId? : Option Int := none) :
    Except Failure Structured :=
  match typeId? <|> program.definition.typeIdOf? payload.variant with
  | some typeId => .ok ⟨program, typeId, payload⟩
  | none => .error (.foreign .wrongType
    s!"{payload.variant.name} is not a {program.name} instruction")

/-- The name that the program has for the type id. -/
def name? (i : Structured) : Option String := i.program.definition.nameOf? i.typeId

/-- The data of the instruction: the type id and the parameters. -/
def data (i : Structured) : Except EncodeFault (List UInt8) := do
  let tag ← i.program.definition.encodeTag (.int i.typeId)
  let params ← i.payload.encode
  return tag ++ params

/-- The type id, its name in a definition, and the payload.  A definition without variants counts
as none: the program's own is used. -/
def identify (i : Structured) (definition : Option Definition) : Int × Option String × Payload :=
  let d := match definition with
    | some d => if d.size = 0 then i.program.definition else d
    | none => i.program.definition
  (i.typeId, d.nameOf? i.typeId, i.payload)

/-- Equality of program, type id, payload and accounts. -/
def eqv (i j : Structured) : Bool :=
  i.program == j.program && i.typeId == j.typeId && i.payload.eqv j.payload &&
    i.payload.accounts == j.payload.accounts

/-- The program's type with the payload. -/
def literal (i : Structured) : String := i.program.typeName ++ "(" ++ i.payload.literal ++ ")"

end Structured

/-- What the hash of an instruction depends on. -/
inductive InstructionDigest
  | structured (program : Program) (typeId : Int)
  | unparsed (program : Key) (data : List UInt8)
  deriving DecidableEq

namespace Instruction

/-- The name that unparsed instructions are listed under. -/
def unparsedName : String := "Compiled"

/-- The program of an instruction. -/
def program : Instruction → Key
  | structured i => i.program.id
  | unparsed i => i.program

/-- The accounts of an instruction. -/
def accounts : Instruction → List Account
  | structured i => i.payload.accounts
  | unparsed i => i.accounts

/-- The data of an instruction. -/
def data : Instruction → Except EncodeFault (List UInt8)
  | structured i => i.data
  | unparsed i => .ok i.data

/-- Equality; a structured instruction never equals an unparsed one. -/
def eqv : Instruction → Instruction → Bool
  | structured i, structured j => i.eqv j
  | unparsed i, unparsed j => i == j
  | _, _ => false

/-- What the hash of an instruction depends on: less than equality does. -/
def digest : Instruction → InstructionDigest
  | structured i => .structured i.program i.typeId
  | unparsed i => .unparsed i.program i.data

/-- The literal form. -/
def literal : Instruction → String
  | structured i => i.literal
  | unparsed i => "OpaqueInstruction(program_id=" ++ i.program.text ++ ", data=" ++
    Quoted.text (Base58.encode i.data) ++ ")"

/-- Equal instructions have equal hashes. -/
theorem digest_eq_of_eqv {i j : Instruction} (h : i.eqv j = true) : i.digest = j.digest := by
  cases i <;> cases j <;>
    simp_all [eqv, digest, Structured.eqv]

end Instruction
end SolanaWire
