import SolanaWire.ResolverTable
import SolanaWire.TransactionError.Kind

/-!
# Transaction errors

The error of a transaction is a name, or an object that says which instruction failed and how.
Where the message is known, the failed instruction must be one of its instructions, and custom
codes are resolved for that instruction's program.
-/
namespace SolanaWire

/-- The failure of one instruction, whose position can be written. -/
structure IndexedError where
  index : Int
  cause : InstructionError
  isWritable : Numeral.IsWritable index

/-- Why a transaction failed. -/
inductive TransactionCause
  | known (kind : TransactionErrorKind)
  | undefined (name : String)
  | indexed (error : IndexedError)

/-- The error of a transaction, with the payload that it was read from. -/
structure TransactionError where
  cause : TransactionCause
  raw : Value

namespace IndexedError

/-- The failure of the instruction at a position, unless the position cannot be written. -/
def make (index : Int) (cause : InstructionError) : Except Failure IndexedError :=
  if short : Numeral.IsWritable index then .ok ⟨index, cause, short⟩ else .error integerTooLong

theorem make_eq_ok_iff {index : Int} {cause : InstructionError} {e : IndexedError} :
    make index cause = .ok e ↔ e.index = index ∧ e.cause = cause := by
  unfold make
  split
  · rename_i short
    constructor
    · intro made
      cases made
      exact ⟨rfl, rfl⟩
    · rintro ⟨rfl, rfl⟩
      rfl
  · rename_i long
    refine iff_of_false (by simp) ?_
    rintro ⟨rfl, -⟩
    exact long e.isWritable

theorem make_eq_error_iff {index : Int} {cause : InstructionError} {f : Failure} :
    make index cause = .error f ↔ ¬ Numeral.IsWritable index ∧ f = integerTooLong := by
  unfold make
  split <;> simp [*, eq_comm]

/-- The text of an error. -/
def message (e : IndexedError) : String :=
  s!"Error processing instruction {e.index}: {e.cause.message}"

/-- The literal form. -/
def literal (e : IndexedError) : String :=
  s!"InstructionErrorAtIndex(index={e.index}, cause={e.cause.literal})"

/-- Equality of index and cause. -/
def eqv (e f : IndexedError) : Bool := e.index == f.index && e.cause.eqv f.cause

/-- What the hash of an error depends on. -/
def digest (e : IndexedError) : ErrorDigest := .indexed e.index e.cause.digest

end IndexedError

namespace TransactionCause

/-- The text of a cause. -/
def message : TransactionCause → String
  | known kind => kind.message
  | undefined name => name
  | indexed e => e.message

/-- The literal form. -/
def literal : TransactionCause → String
  | known kind => s!"KnownTransactionError({kind.wireName})"
  | undefined name => s!"UndefinedTransactionError({Quoted.text name})"
  | indexed e => e.literal

/-- Equality. -/
def eqv : TransactionCause → TransactionCause → Bool
  | known k, known l => k == l
  | undefined m, undefined n => m == n
  | indexed e, indexed f => e.eqv f
  | _, _ => false

/-- What the hash of a cause depends on. -/
def digest : TransactionCause → ErrorDigest
  | known kind => .text kind.label
  | undefined name => .text name
  | indexed e => e.digest

/-- The cause that a name stands for. -/
def ofName (name : String) : TransactionCause :=
  match TransactionErrorKind.ofWireName? name with
  | some kind => known kind
  | none => undefined name

end TransactionCause

namespace TransactionError

/-- The text of an error: that of its cause. -/
def message (e : TransactionError) : String := e.cause.message

/-- The literal form. -/
def literal (e : TransactionError) : String := s!"TransactionError(cause={e.cause.literal})"

/-- Equality of cause and payload. -/
def eqv (e f : TransactionError) : Bool := e.cause.eqv f.cause && e.raw.eqv f.raw

/-- What the hash of an error depends on: only its cause. -/
def digest (e : TransactionError) : ErrorDigest := e.cause.digest

/-- The two items of a list or tuple that names a failed instruction: its position and its
payload. -/
def indexedPayload? (fields : Fields) : Option (Nat × Value) :=
  let items := match fields.lookup "InstructionError" with
    | some (.list items) => items
    | some (.tuple items) => items
    | _ => []
  match items with
  | [position, payload] => position.toNat?.map (·, payload)
  | _ => none

/-- The resolver for the program of an instruction, or for nothing if the message is not known. -/
def resolverAt (context : Option Message) (table : ResolverTable) (index : Nat) :
    Except IndexFault Resolver :=
  match context with
  | none => .ok Resolver.nothing
  | some message => do
    let program ← message.programOf index
    return table.resolve program

/-- The failure of an instruction that an object describes. -/
def parseIndexed (context : Option Message) (table : ResolverTable) (fields : Fields) :
    Except Failure (Option IndexedError) :=
  match indexedPayload? fields with
  | none => .ok none
  | some (index, payload) =>
    match resolverAt context table index with
    | .error fault => fault.toNone
    | .ok resolver => do
      let cause ← InstructionError.parse payload resolver
      cause.mapM (IndexedError.make index)

/-- The error that a payload describes; `none` if the payload is not understood. -/
def parse (context : Option Message) (table : ResolverTable) (raw : Value) :
    Except Failure (Option TransactionError) :=
  match raw with
  | .text name => .ok (some ⟨.ofName name, raw⟩)
  | .record fields => do
    let error ← parseIndexed context table fields
    return error.map (fun e => ⟨.indexed e, raw⟩)
  | _ => .ok none

/-- What reading a payload logs: that the failed instruction is not one of the message's.  A
position that cannot be written is not logged. -/
def parseLog (context : Option Message) (raw : Value) : List LogLine :=
  match raw with
  | .record fields =>
    match indexedPayload? fields with
    | none => []
    | some (index, _) =>
      match resolverAt context KeyTable.empty index with
      | .ok _ => []
      | .error fault =>
        match fault.message with
        | .ok message => [⟨.debug, .transactionErrors,
          s!"Instruction error does not match the transaction: {message}"⟩]
        | .error _ => []
  | _ => []

/-- The error in an entry of a signature history; an entry without one is of a transaction that
succeeded. -/
def parseEntry (context : Option Message) (table : ResolverTable) (entry : Value) :
    Except Failure (Option TransactionError) :=
  match entry with
  | .record fields =>
    match fields.lookup "err" with
    | none | some .null => .ok none
    | some raw => parse context table raw
  | _ => .error .missingAttribute

/-- What reading an entry logs. -/
def parseEntryLog (context : Option Message) (entry : Value) : List LogLine :=
  parseLog context ((entry.field? "err").getD .null)

end TransactionError

/-- Any error of the taxonomy: those of transactions and instructions, their causes at every level,
and the errors of programs. -/
inductive TaxonomyError
  | transaction (error : TransactionError)
  | known (kind : TransactionErrorKind)
  | undefined (name : String)
  | indexed (error : IndexedError)
  | instruction (error : InstructionError)
  | program (error : ProgramError)

/-- The error that a cause is. -/
def TransactionCause.error : TransactionCause → TaxonomyError
  | known kind => .known kind
  | undefined name => .undefined name
  | indexed e => .indexed e

namespace TaxonomyError

/-- Equality; errors of different classes are never equal. -/
def eqv : TaxonomyError → TaxonomyError → Bool
  | transaction e, transaction f => e.eqv f
  | known k, known l => k == l
  | undefined m, undefined n => m == n
  | indexed e, indexed f => e.eqv f
  | instruction e, instruction f => e.eqv f
  | program e, program f => e == f
  | _, _ => false

/-- What the hash of an error depends on. -/
def digest : TaxonomyError → ErrorDigest
  | transaction e => e.digest
  | known kind => .text kind.label
  | undefined name => .text name
  | indexed e => e.digest
  | instruction e => e.digest
  | program e => e.digest

end TaxonomyError
end SolanaWire
