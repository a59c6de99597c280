import SolanaWire.Failure
import SolanaWire.Log

/-!
# Requests to loggers

A line is logged by naming a capability of a logger in any case: most often a level, whose lines it
writes.  A word that names no capability writes a line of `info`.  The other capabilities are used
with the message alone, which some let pass, some cannot use, and some are no capabilities to use
at all.
-/
namespace SolanaWire

/-- What a word asks of a logger: to write a line, which may show the failure at hand; nothing that
can be seen; or something that fails. -/
inductive LogRequest
  | line (level : Level) (showsFailure : Bool)
  | nothing
  | refused (failure : Failure)

namespace LogRequest

/-- The words for lines of a level. -/
def lineWords : List (String × Level) :=
  [("debug", .debug), ("info", .info), ("warning", .warning), ("warn", .warning),
    ("error", .error), ("critical", .critical), ("fatal", .critical)]

/-- The word for a line of `error` that shows the failure at hand. -/
def failureWord : String := "exception"

/-- The words for capabilities that let every message pass. -/
def passingWords : List String :=
  ["filter", "__class__", "__init__", "__eq__", "__ne__", "__lt__", "__le__", "__gt__", "__ge__",
    "__subclasshook__"]

/-- The words for capabilities that look for what a message does not have. -/
def searchingWords : List String := ["handle", "__getattribute__", "__delattr__"]

/-- The words for what cannot be used with a message alone. -/
def unusableWords : List String :=
  ["log", "name", "level", "parent", "propagate", "handlers", "disabled", "filters", "manager",
    "root", "_cache", "_log", "__str__", "__repr__", "__hash__", "__dir__", "__sizeof__",
    "__format__", "__reduce__", "__reduce_ex__", "__setattr__", "__new__", "__init_subclass__",
    "__dict__", "__doc__", "__module__", "__weakref__", "__getstate__"]

/-- What a word asks for. -/
def ofWord (word : String) : LogRequest :=
  let word := word.toLower
  match lineWords.lookup word with
  | some level => line level false
  | none =>
    if word = failureWord then line .error true
    else if word ∈ passingWords then nothing
    else if word ∈ searchingWords then refused .missingAttribute
    else if word ∈ unusableWords then refused .wrongType
    else line .info false

/-- The names that context cannot have, because a request has them for its own parts. -/
def partNames : List String := ["logger", "level", "message"]

/-- Context where the last value of a name counts; it fails for a name that is taken. -/
def contextOf (given : Fields) : Except Failure Fields :=
  if given.any (·.1 ∈ partNames) then .error .wrongType
  else .ok (given.foldl (fun fields f => Fields.set fields f.1 f.2) [])

end LogRequest
end SolanaWire
