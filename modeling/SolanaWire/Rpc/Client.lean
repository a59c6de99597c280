import SolanaWire.Retry
import SolanaWire.Rpc.Exchange
import SolanaWire.Settings

/-!
# The RPC client

A client sends requests to the endpoint of its settings.  It posts a request again, under the same
number, while the failure may pass and attempts are left, and it backs off before each new attempt:
twice as long every time, and at most ten seconds.

A client opens a connection when it needs one and has none.  Closing drops the connection, so each
connection is closed at most once.
-/
namespace SolanaWire.Rpc

/-- A connection: one that the client opened, with its timeout, or one that was supplied. -/
inductive Connection
  | opened (timeout : Value)
  | supplied

/-- A client for a node. -/
structure Client where
  settings : ConnectionSettings
  transport : Transport

/-- What a client keeps between requests: how many there were, the connection in use, and the
connections that it closed, the earliest first. -/
structure ClientState where
  requests : Nat := 0
  connection : Option Connection := none
  closed : List Connection := []

/-- Drops the connection in use. -/
def ClientState.close (s : ClientState) : ClientState :=
  { s with connection := none, closed := s.closed ++ s.connection.toList }

/-- What a client does.  Its acts are posts. -/
abbrev Task (α : Type) := Procedure Post ClientState α

/-- The longest pause before a new attempt, in seconds. -/
def longestPause : Number := .float (.ofRatio false 10 1)

/-- The headers of every post. -/
def headers : Fields := [("Content-Type", .text "application/json")]

/-- The payload of a request with its number. -/
def payload (number : Nat) (method : String) (params : Value) : Value :=
  .record [("jsonrpc", .text "2.0"), ("id", .int number), ("method", .text method),
    ("params", if params.isTruthy then params else .list [])]

namespace Client

/-- The pause after an attempt that failed; attempts are counted from zero. -/
def backoff (c : Client) (attempt : Int) : Except Failure Number :=
  match c.settings.retryDelay.number? with
  | some delay => (delay.product (.powerOfTwo attempt)).map (.least · longestPause)
  | none => .error .wrongType

/-- The number of attempts at a request: one more than its retries, which must be an integer. -/
def attempts (c : Client) : Except Failure Nat :=
  match c.settings.maxRetries.wireInt? with
  | some n => .ok (n + 1).toNat
  | none => .error .wrongType

/-- Makes sure that there is a connection. -/
def connect (c : Client) : Task Unit :=
  Procedure.update (fun s =>
    { s with connection := s.connection <|> some (.opened c.settings.requestTimeout) })

/-- The number of the next request. -/
def nextNumber : Task Nat := do
  Procedure.update (fun s => { s with requests := s.requests + 1 })
  return (← Procedure.state).requests

/-- Posts once. -/
def send (c : Client) (post : Post) : Task Reply := do
  let past := (← get).journal.acts
  Procedure.record (.did post)
  return c.transport past post

/-- Pauses before the attempt that follows a failure. -/
def wait (c : Client) (attempt : Nat) (opening closing : String) : Task Unit := do
  let seconds ← c.backoff attempt
  Procedure.log .warning .rpcClient s!"{opening}, retrying in {seconds.text}s: {closing}"
  Procedure.pause (.number seconds)

/-- Announces an attempt that is not the first one. -/
def announce (c : Client) (method : String) (attempt : Nat) : Task Unit := do
  if 0 < attempt then
    let retries ← c.settings.maxRetries.written
    Procedure.log .info .rpcClient s!"Retry attempt {attempt}/{retries} for {method}"

/-- The failure of a request for which no attempt is left. -/
def exhausted (c : Client) (method : String) : Failure :=
  .report (.rpc s!"{method} failed after {c.settings.maxRetries.display} retries" .null .null
    c.settings.url)

/-- Posts until the reply is an answer or a failure that stands, or no attempt is left after this
one.  `left` attempts are left and `attempt` came before; with none left there is the failure
`last`. -/
def deliver (c : Client) (method : String) (post : Post) (last : Failure) :
    (left attempt : Nat) → Task Value
  | 0, _ => throw last
  | left + 1, attempt => do
    c.announce method attempt
    match judge method c.settings.url (← c.send post) with
    | .answer result => return result
    | .standing failure => throw failure
    | .passing opening closing failure =>
      if left = 0 then throw failure
      else
        c.wait attempt opening closing
        c.deliver method post last left (attempt + 1)

/-- Sends a request and gives its result.  Parameters that count as false are left out. -/
def request (c : Client) (method : String) (params : Value) : Task Value := do
  c.connect
  let post := ⟨c.settings.url, headers, payload (← nextNumber) method params⟩
  c.deliver method post (c.exhausted method) (← c.attempts) 0

/-- Closes the connection in use. -/
def close : Task Unit := Procedure.update ClientState.close

/-- Runs one of the client's public procedures: failures are logged and passed on. -/
def logged {α : Type} (name : String) (task : Task α) : Task α :=
  RetryPolicy.run { source := .rpcClient } .cooperative 0 name task

end Client
end SolanaWire.Rpc
