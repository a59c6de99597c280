import SolanaWire.Log.Format
import SolanaWire.Log.Request
import SolanaWire.Settings

/-!
# Log output

Log lines of at least a threshold are written in a format to the console and, if the settings name
one, to a file.  Configuring the output replaces what was configured before; the files stay.  The
lines of some loggers are kept for a listener instead, whatever their level.
-/
namespace SolanaWire

/-- The numbers of the names that a threshold may have. -/
def Level.thresholds : List (String × Nat) :=
  [("NOTSET", 0), ("WARN", warning.number), ("FATAL", critical.number)] ++
    all.map (fun l => (l.name, l.number))

/-- Where log lines are written. -/
inductive LogTarget
  | console
  | file (path : String)
  deriving DecidableEq

/-- The output of log lines: the loggers with a listener, the fields that all lines share, and the
contents of the files so far, the latest file first. -/
structure LogOutput where
  threshold : Nat := Level.warning.number
  format : String := ""
  dateFormat : String := ""
  targets : List LogTarget := []
  files : List (String × String) := []
  listened : List String := []
  shared : Fields := []

/-- What logging gives: what was written to the console, what a listener got, and the output
afterwards. -/
structure Logged where
  console : String := ""
  heard : List LogLine := []
  output : LogOutput

namespace LogOutput

/-- The format of lines for which no other format is given. -/
def plainFormat : String := "%(message)s"

/-- The loggers of the transport, whose lines are written from `warning` on. -/
def quietLoggers : List String := ["httpx", "httpcore"]

/-- Whether a logger is one of some loggers or below one of them. -/
def isBelow (logger : String) (roots : List String) : Bool :=
  roots.any (fun r => logger == r || logger.startsWith (r ++ "."))

/-- The least level number of a logger's lines that are written. -/
def thresholdOf (o : LogOutput) (logger : String) : Nat :=
  if isBelow logger quietLoggers then Level.warning.number else o.threshold

/-- A text, or a default for the empty text. -/
def orDefault (text default : String) : String := if text = "" then default else text

/-- The text that is given, or a default where what is given counts as false; other values fail. -/
def textOr (given : Value) (default : String) (failure : Failure) : Except Failure String :=
  if !given.isTruthy then .ok default
  else match given with
    | .text s => .ok s
    | _ => .error failure

/-- The output that settings ask for, where a level and a format may be given instead of theirs.
A format needs a slot. -/
def configure (o : LogOutput) (settings : LoggingSettings) (level format : Value) :
    Except Failure LogOutput := do
  let name := Uppercase.ofText (← textOr level settings.level .missingAttribute)
  let format := orDefault (← textOr format settings.format .wrongType) plainFormat
  if LogFormat.hasSlot format then
    let paths := (settings.file.filter (· != "")).toList
    return { o with
      threshold := (Level.thresholds.lookup name).getD Level.info.number
      format
      dateFormat := settings.dateFormat
      targets := .console :: paths.map .file
      files := paths.map (fun p => (p, (o.files.lookup p).getD "")) ++
        o.files.filter (fun f => f.1 ∉ paths) }
  else throw (.foreign .invalidValue s!"Invalid format '{format}' for '%' style")

/-- The name of a logger; the one above all others has a name of its own. -/
def loggerName (logger : String) : String := if logger = "" then "root" else logger

/-- How the failure at hand is shown when there is none. -/
def noFailure : String := "NoneType: None"

/-- The fields of a line, which besides the line say how the failure at hand is known and shown. -/
def lineFields (o : LogOutput) (logger : String) (level : Level) (text : String)
    (known shown : Value) : Fields :=
  [("name", .text (loggerName logger)), ("levelname", .text level.name),
    ("levelno", .int level.number), ("message", .text text), ("msg", .text text),
    ("args", .tuple []), ("exc_info", known), ("exc_text", shown), ("stack_info", .null)] ++
    o.shared

/-- A line on which the failure at hand is shown. -/
def withFailure (line : String) : String :=
  (if line.endsWith "\n" then line else line ++ "\n") ++ noFailure

/-- What is written to a target for a line of a logger.  The failure at hand counts as shown on all
targets after the first. -/
def written (o : LogOutput) (logger : String) (level : Level) (showsFailure isFirst : Bool)
    (text : String) : String :=
  let known : Value := if showsFailure then .tuple [.null, .null, .null] else .null
  let shown : Value := if showsFailure && !isFirst then .text noFailure else .null
  match LogFormat.fill? o.format (o.lineFields logger level text known shown) with
  | some line => (if showsFailure then withFailure line else line) ++ "\n"
  | none => ""

/-- The output after a line was written, and what the line added to the console. -/
def write (o : LogOutput) (logger : String) (level : Level) (showsFailure : Bool) (text : String) :
    Logged :=
  if isBelow logger o.listened then { heard := [⟨level, .named logger, text⟩], output := o }
  else if level.number < o.thresholdOf logger then { output := o }
  else
    let line := fun isFirst => o.written logger level showsFailure isFirst text
    { console := if .console ∈ o.targets then line true else ""
      output := { o with files := o.files.map (fun f =>
        if .file f.1 ∈ o.targets then (f.1, f.2 ++ line false) else f) } }

/-- Asks a logger for what a word says, with a message and its context. -/
def log (o : LogOutput) (logger word message : Value) (context : Fields) :
    Except Failure Logged := do
  let logger ← textOr logger "" .wrongType
  let context ← LogRequest.contextOf context
  let .text word := word | throw .missingAttribute
  let text := withContext message.display context
  match LogRequest.ofWord word with
  | .line level showsFailure => return o.write logger level showsFailure text
  | .nothing => return { output := o }
  | .refused failure => throw failure

end LogOutput
end SolanaWire
