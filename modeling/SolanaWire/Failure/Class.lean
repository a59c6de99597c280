import SolanaWire.Failure

/-!
# Classes of failures

A handler names the classes of failures that it handles.  One class covers all failures, one
covers every fault reported by this library, and a class of faults from elsewhere covers its own
special cases.
-/
namespace SolanaWire

/-- The classes of reported faults. -/
inductive ReportClass
  | general
  | validation
  | configuration
  | rpc
  | indexOutOfRange
  | accountResolution
  | programIdResolution
  | programIdMismatch
  | instructionDecode
  | typeMismatch
  deriving DecidableEq

/-- The class that the facts of a report belong to. -/
def Facts.reportClass : Facts → ReportClass
  | general _ => .general
  | validation => .validation
  | configuration => .configuration
  | rpc .. => .rpc
  | indexOutOfRange .. => .indexOutOfRange
  | accountResolution .. => .accountResolution
  | programIdResolution .. => .programIdResolution
  | programIdMismatch .. => .programIdMismatch
  | instructionDecode .. => .instructionDecode
  | typeMismatch .. => .typeMismatch

/-- Whether the parts that a report is made from have the names that its class needs or allows. -/
def namesFit (parts : Fields) (needed allowed : List String) : Bool :=
  needed.all (fun n => (parts.lookup n).isSome) &&
    parts.all (fun p => p.1 ∈ needed ∨ p.1 ∈ allowed)

/-- The names of the parts that a report of a class needs, and of those that it may have. -/
def ReportClass.partNames : ReportClass → List String × List String
  | general => (["message"], ["error_code", "details"])
  | validation | configuration => (["message"], ["details"])
  | rpc => (["message"], ["status_code", "rpc_error_code", "endpoint", "details"])
  | indexOutOfRange => (["message", "index", "length", "kind"], [])
  | accountResolution | programIdResolution => (["instruction_index", "reason"], [])
  | programIdMismatch => (["instruction_index", "program_id", "expected_program_id"], [])
  | instructionDecode => (["message"], ["program_id", "instruction_index", "details"])
  | typeMismatch => (["instruction_index", "obtained", "expected"], [])

/-- The report that is made with given details.  Those that count as false are none; other details
than a record are kept as they are, and then no fact can join them. -/
def Report.withDetails (given : Value) (make : Fields → Report) : Except Failure Report :=
  match given with
  | .record fs => .ok (make fs)
  | given =>
    let plain := make []
    if !given.isTruthy then .ok plain
    else if plain.details.isTruthy then .error .wrongType
    else .ok { plain with details := given }

/-- The error code that a value is the label of. -/
def ErrorCode.ofValue (label : Value) : Except Failure ErrorCode :=
  match ErrorCode.ofLabel? label.display, label with
  | some code, .text _ => .ok code
  | _, _ => .error (if label.isLookupKey then .missingKey label else .wrongType)

/-- The code among named parts; the unknown one if there is none. -/
def partCode (parts : Fields) : Except Failure ErrorCode :=
  match parts.lookup "error_code" with
  | some label => ErrorCode.ofValue label
  | none => .ok .unknown

/-- The report of a class that is made from parts of the right names, with the code of a general
report. -/
def Report.ofNamed (kind : ReportClass) (code : ErrorCode) (parts : Fields) :
    Except Failure Report :=
  let part := fun n => (parts.lookup n).getD .null
  let text := fun n => (part n).display
  let instruction := part "instruction_index"
  let plain := fun (facts : Facts) (details : Fields) =>
    { facts, message := text "message", details := .record details : Report }
  match kind with
  | .general => withDetails (part "details") (plain (.general code))
  | .validation => withDetails (part "details") (plain .validation)
  | .configuration => withDetails (part "details") (plain .configuration)
  | .rpc => withDetails (part "details")
    (.rpc (text "message") (part "status_code") (part "rpc_error_code") (part "endpoint") ·)
  | .indexOutOfRange =>
    .ok (.indexOutOfRange (text "message") (part "kind") (part "index") (part "length"))
  | .accountResolution => .ok (.accountResolution instruction (text "reason"))
  | .programIdResolution => .ok (.programIdResolution instruction (text "reason"))
  | .programIdMismatch =>
    .ok (.programIdMismatch instruction (part "program_id") (part "expected_program_id"))
  | .instructionDecode => withDetails (part "details")
    (.instructionDecode (text "message") (part "program_id") instruction ·)
  | .typeMismatch => .ok (.typeMismatch instruction (part "obtained") (part "expected"))

/-- The report of a class that is made from named parts. -/
def Report.ofParts (kind : ReportClass) (parts : Fields) : Except Failure Report := do
  let code ← partCode parts
  if namesFit parts kind.partNames.1 kind.partNames.2 then ofNamed kind code parts
  else throw .wrongType

/-- A class of failures. -/
inductive FailureClass
  | any
  | reported (kind : ReportClass)
  | foreign (kind : ForeignClass)
  deriving DecidableEq

/-- Whether a class covers a fault.  The general class covers every report. -/
def FailureClass.covers : FailureClass → Fault → Bool
  | any, _ => true
  | reported kind, .reported r => kind == .general || r.facts.reportClass == kind
  | foreign kind, .foreign k _ => k == kind || k.parent? == some kind
  | _, _ => false

@[simp] theorem FailureClass.covers_any (fault : Fault) : any.covers fault = true := by
  cases fault <;> rfl

end SolanaWire
