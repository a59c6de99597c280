import SolanaWire.Value

/-!
# Failures

A fault is either reported by this library, with an error code, a message, details and the facts
that belong to its class, or it comes from elsewhere: a byte layout, a resolver, the transport.
A failure is a fault together with the faults that led to it, the nearest first.
-/
namespace SolanaWire

/-- The numbered kinds of reported faults. -/
inductive ErrorCode
  | unknown
  | configuration
  | validation
  | rpc
  | indexOutOfRange
  | accountResolution
  | programIdResolution
  | programIdMismatch
  | instructionDecode
  | typeMismatch
  deriving DecidableEq

namespace ErrorCode

/-- Every code, in the order of the numbers. -/
def all : List ErrorCode :=
  [unknown, configuration, validation, rpc, indexOutOfRange, accountResolution,
    programIdResolution, programIdMismatch, instructionDecode, typeMismatch]

/-- The number of a code. -/
def number : ErrorCode → Nat
  | unknown => 1000
  | configuration => 1001
  | validation => 1002
  | rpc => 3000
  | indexOutOfRange => 6000
  | accountResolution => 6001
  | programIdResolution => 6002
  | programIdMismatch => 6003
  | instructionDecode => 6004
  | typeMismatch => 6005

/-- The label of a code. -/
def label : ErrorCode → String
  | unknown => "UNKNOWN_ERROR"
  | configuration => "CONFIGURATION_ERROR"
  | validation => "VALIDATION_ERROR"
  | rpc => "RPC_ERROR"
  | indexOutOfRange => "INDEX_OUT_OF_RANGE"
  | accountResolution => "ACCOUNT_RESOLUTION_ERROR"
  | programIdResolution => "PROGRAM_ID_RESOLUTION_ERROR"
  | programIdMismatch => "PROGRAM_ID_MISMATCH"
  | instructionDecode => "INSTRUCTION_DECODE_ERROR"
  | typeMismatch => "TYPE_MISMATCH"

/-- The code of a label. -/
def ofLabel? (label : String) : Option ErrorCode := all.find? (·.label == label)

end ErrorCode

/-- The facts that belong to each class of reported faults.  They are values, because an absent
fact is null and callers may pass any value. -/
inductive Facts
  | general (code : ErrorCode)
  | validation
  | configuration
  | rpc (statusCode rpcCode endpoint : Value)
  | indexOutOfRange (kind index length : Value)
  | accountResolution (instruction : Value)
  | programIdResolution (instruction : Value)
  | programIdMismatch (instruction program expected : Value)
  | instructionDecode (program instruction : Value)
  | typeMismatch (instruction obtained expected : Value)

/-- The code of a class; a general fault carries its own. -/
def Facts.code : Facts → ErrorCode
  | general code => code
  | validation => .validation
  | configuration => .configuration
  | rpc .. => .rpc
  | indexOutOfRange .. => .indexOutOfRange
  | accountResolution .. => .accountResolution
  | programIdResolution .. => .programIdResolution
  | programIdMismatch .. => .programIdMismatch
  | instructionDecode .. => .instructionDecode
  | typeMismatch .. => .typeMismatch

/-- A fault reported by this library.  The details are a record, unless a caller gave others. -/
structure Report where
  facts : Facts
  message : String
  details : Value := .record []

namespace Report

/-- The whole text of a report: its code, its message, and its details if there are any. -/
def text (r : Report) : String :=
  "[" ++ r.facts.code.label ++ "] " ++ r.message ++
    (if r.details.isTruthy then " - Details: " ++ r.details.display else "")

/-- The details with each fact that counts as true added under its name. -/
def addFacts (details : Fields) (facts : Fields) : Fields :=
  facts.foldl (fun ds f => if f.2.isTruthy then Fields.set ds f.1 f.2 else ds) details

/-- A report about an RPC request.  The facts that are known join the details. -/
def rpc (message : String) (statusCode rpcCode endpoint : Value) (details : Fields := []) :
    Report where
  facts := .rpc statusCode rpcCode endpoint
  message := message
  details := .record (addFacts details
    [("status_code", statusCode), ("rpc_error_code", rpcCode), ("endpoint", endpoint)])

/-- A report about an index outside its table. -/
def indexOutOfRange (message : String) (kind index length : Value) : Report where
  facts := .indexOutOfRange kind index length
  message := message
  details := .record [("kind", kind), ("index", index), ("length", length)]

/-- The beginning of every message about one instruction of a message. -/
def about (instruction : Value) : String := "instruction '" ++ instruction.display ++ "': "

/-- A report about accounts that do not resolve. -/
def accountResolution (instruction : Value) (reason : String) : Report where
  facts := .accountResolution instruction
  message := about instruction ++ "failed to resolve accounts: " ++ reason
  details := .record [("instruction_index", instruction)]

/-- A report about a program id that does not resolve. -/
def programIdResolution (instruction : Value) (reason : String) : Report where
  facts := .programIdResolution instruction
  message := about instruction ++ "failed to resolve program ID: " ++ reason
  details := .record [("instruction_index", instruction)]

/-- A report about an instruction of another program. -/
def programIdMismatch (instruction program expected : Value) : Report where
  facts := .programIdMismatch instruction program expected
  message := about instruction ++ "programID (" ++ program.display ++
    ") doesn't match expected value '" ++ expected.display ++ "'"
  details := .record [("instruction_index", instruction), ("program_id", .text program.display),
    ("expected_program_id", .text expected.display)]

/-- The details of a report about instruction data: the program by its text, if it is known, and
the position of the instruction, if that is known. -/
def decodeDetails (program instruction : Value) (details : Fields) : Fields :=
  let withProgram := match program with
    | .null => details
    | p => Fields.set details "program_id" (.text p.display)
  match instruction with
  | .null => withProgram
  | i => Fields.set withProgram "instruction_index" i

/-- A report about instruction data that a program does not understand. -/
def instructionDecode (message : String) (program instruction : Value) (details : Fields := []) :
    Report where
  facts := .instructionDecode program instruction
  message := message
  details := .record (decodeDetails program instruction details)

/-- A report about an instruction of another variant. -/
def typeMismatch (instruction obtained expected : Value) : Report where
  facts := .typeMismatch instruction obtained expected
  message := about instruction ++ "obtained type '" ++ obtained.display ++
    "' doesn't match expected type '" ++ expected.display ++ "'"
  details := .record [("instruction_index", instruction)]

end Report

/-- The classes of faults that come from elsewhere.  A run that is left before its end has a class
of its own, which no other fault has. -/
inductive ForeignClass
  | invalidValue
  | lookup
  | missingKey
  | missingIndex
  | wrongType
  | missingAttribute
  | arithmetic
  | overflow
  | division
  | runtime
  | recursion
  | unimplemented
  | memory
  | system
  | connection
  | timeout
  | stream
  | mapping
  | textEncoding
  | formatField
  | jsonSyntax
  | invalidUrl
  | grammar
  | unfinished
  | transport (name : String)
  | other (name : String)
  deriving DecidableEq

/-- The class that a class belongs to, if it is a special case of another. -/
def ForeignClass.parent? : ForeignClass → Option ForeignClass
  | missingKey => some lookup
  | missingIndex => some lookup
  | overflow => some arithmetic
  | division => some arithmetic
  | recursion => some runtime
  | unimplemented => some runtime
  | connection => some system
  | timeout => some system
  | jsonSyntax => some invalidValue
  | _ => none

/-- The text of a fault of which nothing is known but its class. -/
def ForeignClass.usualText : ForeignClass → String
  | recursion => "maximum recursion depth exceeded"
  | _ => "*"

/-- What went wrong at one level. -/
inductive Fault
  | reported (report : Report)
  | foreign (kind : ForeignClass) (message : String)

namespace Fault

/-- The message of a fault, without the code and details of a report. -/
def message : Fault → String
  | reported r => r.message
  | foreign _ m => m

/-- The whole text of a fault. -/
def text : Fault → String
  | reported r => r.text
  | foreign _ m => m

end Fault

/-- A fault and the faults that led to it, the nearest first. -/
structure Failure where
  fault : Fault
  causes : List Fault := []

namespace Failure

/-- A failure that a report describes. -/
def report (r : Report) : Failure := ⟨.reported r, []⟩

/-- A failure that comes from elsewhere. -/
def foreign (kind : ForeignClass) (message : String) : Failure := ⟨.foreign kind message, []⟩

/-- A failure to find an entry.  Its message is the literal of what was looked up. -/
def missingKey (key : Value) : Failure := foreign .missingKey key.literal

/-- A failure of some kind that has no further description. -/
def undescribed (kind : ForeignClass) : Failure := foreign kind kind.usualText

/-- A use of a value of the wrong kind, which has no further description. -/
def wrongType : Failure := undescribed .wrongType

/-- A use of an attribute that a value lacks, which has no further description. -/
def missingAttribute : Failure := undescribed .missingAttribute

/-- The end of a run that was left before it ended by itself. -/
def unfinished : Failure := foreign .unfinished ""

/-- A report that another failure led to. -/
def because (r : Report) (cause : Failure) : Failure := ⟨.reported r, cause.fault :: cause.causes⟩

/-- The failure that led to this one. -/
def cause? (f : Failure) : Option Failure :=
  match f.causes with
  | [] => none
  | fault :: causes => some ⟨fault, causes⟩

/-- The whole text of a failure: that of its outermost fault. -/
def text (f : Failure) : String := f.fault.text

/-- The facts that a failure reports; one that comes from elsewhere reports none. -/
def facts? (f : Failure) : Option Facts :=
  match f.fault with
  | .reported r => some r.facts
  | .foreign .. => none

@[simp] theorem cause?_report (r : Report) : (report r).cause? = none := rfl

@[simp] theorem cause?_because (r : Report) (cause : Failure) :
    (because r cause).cause? = some cause := rfl

@[simp] theorem facts?_report (r : Report) : (report r).facts? = some r.facts := rfl

@[simp] theorem facts?_because (r : Report) (cause : Failure) :
    (because r cause).facts? = some r.facts := rfl

@[simp] theorem facts?_foreign (kind : ForeignClass) (message : String) :
    (foreign kind message).facts? = none := rfl

end Failure
end SolanaWire
