import SolanaWire.Bytes.Hex
import SolanaWire.Failure
import SolanaWire.InstructionError.Kind
import SolanaWire.Number.Numeral
import SolanaWire.ProgramError

/-!
# Instruction errors

The payload of a failed instruction is a name or an object with a custom code, which belongs to
the program.  A resolver turns a code into the program's own error.  Payloads of another shape are
not understood, which is no failure; a resolver may fail.
-/
namespace SolanaWire

/-- What a resolver finds: an error of a program, or an error of another library, by the object that
it is and by its type and text. -/
inductive ResolvedError
  | program (error : ProgramError)
  | foreign (identity : Nat) (typeName text : String)

/-- Finds the error that a code stands for. -/
abbrev Resolver := Value → Except Failure (Option ResolvedError)

/-- The resolver that finds nothing. -/
def Resolver.nothing : Resolver := fun _ => .ok none

/-- The resolver of a program's errors. -/
def ErrorTable.resolver (t : ErrorTable) : Resolver := fun code => .ok ((t.find? code).map .program)

namespace ResolvedError

/-- The text of an error. -/
def message : ResolvedError → String
  | program e => e.message
  | foreign _ _ text => text

/-- The literal form. -/
def literal : ResolvedError → String
  | program e => e.literal
  | foreign _ typeName text => s!"{typeName}({Quoted.text text})"

/-- Equality.  Nothing is known about the errors of other libraries but which of them are the same
object. -/
def eqv : ResolvedError → ResolvedError → Bool
  | program e, program f => e == f
  | foreign i _ _, foreign j _ _ => i == j
  | _, _ => false

end ResolvedError

/-- Equality of optional errors. -/
def eqvResolved : Option ResolvedError → Option ResolvedError → Bool
  | none, none => true
  | some e, some f => e.eqv f
  | _, _ => false

/-- An error of an instruction. -/
inductive InstructionError
  | known (kind : InstructionErrorKind)
  | undefined (name : String)
  | custom (code : Nat) (cause : Option ResolvedError)

/-- What the hash of an error depends on. -/
inductive ErrorDigest
  | text (s : String)
  | number (n : Nat)
  | program (typeName : String) (code : Nat)
  | indexed (index : Int) (cause : ErrorDigest)
  deriving DecidableEq

/-- The digest of a program error. -/
def ProgramError.digest (e : ProgramError) : ErrorDigest := .program e.table.typeName e.code

namespace InstructionError

/-- The text of an error: that of its cause, if it has one. -/
def message : InstructionError → String
  | known kind => kind.message
  | undefined name => name
  | custom _ (some cause) => cause.message
  | custom code none => s!"custom program error: {Hex.ofNat code}"

/-- The literal form. -/
def literal : InstructionError → String
  | known kind => s!"KnownInstructionError({kind.wireName})"
  | undefined name => s!"UndefinedInstructionError({Quoted.text name})"
  | custom code cause =>
    let shown := (cause.map ResolvedError.literal).getD "None"
    s!"CustomInstructionError(code={code}, cause={shown})"

/-- Equality, which looks at causes too. -/
def eqv : InstructionError → InstructionError → Bool
  | known k, known l => k == l
  | undefined m, undefined n => m == n
  | custom c e, custom d f => c == d && eqvResolved e f
  | _, _ => false

/-- What the hash of an error depends on: not its cause. -/
def digest : InstructionError → ErrorDigest
  | known kind => .text kind.label
  | undefined name => .text name
  | custom code _ => .number code

theorem digest_eq_of_eqv {e f : InstructionError} (h : e.eqv f = true) : e.digest = f.digest := by
  cases e <;> cases f <;> simp_all [eqv, digest]

end InstructionError

/-- The integer that a value stands for: an integer itself, or a number or a text that reads as an
integral number in floating point.  A truth value is no number. -/
def Value.toInt? : Value → Option Int
  | int n => some n
  | member m => some m.number
  | float x => x.toInt?
  | text s => (Numeral.real? s).bind Binary64.toInt?
  | _ => none

/-- The integer that a value stands for, if it is not negative. -/
def Value.toNat? (v : Value) : Option Nat :=
  match v.toInt? with
  | some (.ofNat n) => some n
  | _ => none

namespace InstructionError

/-- The error that a name stands for. -/
def ofName (name : String) : InstructionError :=
  match InstructionErrorKind.ofWireName? name with
  | some kind => known kind
  | none => undefined name

/-- The custom code of an object. -/
def customCode? (fields : Fields) : Option Nat :=
  (fields.lookup "Custom").bind Value.toNat?

/-- The error that a payload describes; `none` if the payload is not understood. -/
def parse (payload : Value) (resolver : Resolver := Resolver.nothing) :
    Except Failure (Option InstructionError) :=
  match payload with
  | .text name => .ok (some (ofName name))
  | .record fields =>
    match customCode? fields with
    | some code => do
      let cause ← resolver (.int code)
      return some (custom code cause)
    | none => .ok none
  | _ => .ok none

end InstructionError
end SolanaWire
