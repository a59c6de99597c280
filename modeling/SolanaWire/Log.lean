import SolanaWire.Value

/-!
# Log lines

What the library reports while it works: a level, the part of the library that reports, and a
text.  Context is appended to a text in round brackets, each value in its literal form.
-/
namespace SolanaWire

/-- How urgent a log line is. -/
inductive Level
  | debug
  | info
  | warning
  | error
  | critical
  deriving DecidableEq

namespace Level

/-- The levels in order of urgency. -/
def all : List Level := [debug, info, warning, error, critical]

/-- The number of a level. -/
def number : Level → Nat
  | debug => 10
  | info => 20
  | warning => 30
  | error => 40
  | critical => 50

/-- The name of a level. -/
def name : Level → String
  | debug => "DEBUG"
  | info => "INFO"
  | warning => "WARNING"
  | error => "ERROR"
  | critical => "CRITICAL"

end Level

/-- The part of the library that a log line comes from. -/
inductive LogSource
  | messageDecoder
  | decoderRegistry
  | resolverTable
  | transactionErrors
  | settings
  | rpcClient
  | errorHandling
  | named (name : String)
  deriving DecidableEq

/-- One log line. -/
structure LogLine where
  level : Level
  source : LogSource
  text : String
  deriving DecidableEq

/-- A text followed by its context, if there is any. -/
def withContext (text : String) (context : Fields) : String :=
  if context.isEmpty then text
  else text ++ Value.bracketed " (" (context.map (fun f => f.1 ++ "=" ++ f.2.literal)) ")"

end SolanaWire
