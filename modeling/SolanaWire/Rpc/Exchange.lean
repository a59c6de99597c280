import SolanaWire.Failure.Class
import SolanaWire.Value.Json

/-!
# Posts and replies

A request is posted to the endpoint of a node.  What comes back is a reply, and a reply is either
the answer to the request, or a failure that may pass, or a failure that stands.
-/
namespace SolanaWire.Rpc

/-- A request as it is sent. -/
structure Post where
  url : Value
  headers : Fields
  payload : Value

/-- What comes back for a post: nothing, because the transport failed, or a response with a status
and a body.  A body that cannot be read comes with the failure of its reader. -/
inductive Reply
  | lost (kind : ForeignClass) (message : String)
  | response (status : Int) (body : Except Failure Value)

/-- A transport gives the reply to a post, knowing the posts before it. -/
abbrev Transport := List Post → Post → Reply

/-- A transport whose replies are laid down, one for each post.  When there is none left it fails
to connect. -/
def Transport.scripted (replies : List Reply) : Transport := fun past _ =>
  replies.getD past.length (.lost (.transport "ConnectError") "no more responses")

/-- The response statuses of failures that may pass. -/
def passingStatuses : List Int := [408, 429, 500, 502, 503, 504]

/-- The error code of a node that limits the rate of requests. -/
def rateLimitCode : Int := -32005

/-- What a reply means.  A failure that may pass comes with the beginning and the end of the notice
about the pause that follows it. -/
inductive Verdict
  | answer (result : Value)
  | passing (opening closing : String) (failure : Failure)
  | standing (failure : Failure)

/-- Whether a body holds a name: a record has a field of it, a list an item, a text a part. -/
def mentions (name : String) : Value → Except Failure Bool
  | .record fs => .ok (fs.lookup name).isSome
  | .list xs | .tuple xs => .ok (xs.any (·.eqv (.text name)))
  | .text s => .ok ((s.splitOn name).length != 1)
  | _ => .error .wrongType

/-- The value of a name in a body, which only records have. -/
def entry (name : String) : Value → Except Failure Value
  | .record fs =>
    match fs.lookup name with
    | some v => .ok v
    | none => .error (.missingKey (.text name))
  | _ => .error .wrongType

/-- The text of the data of an error: nothing if there is none. -/
def dataText (error : Fields) : Except Failure String :=
  match error.lookup "data" with
  | none => .ok ""
  | some v =>
    match Json.text? v with
    | some text => .ok (" - " ++ text)
    | none => .error .wrongType

/-- The report about an error that a node returned. -/
def nodeError (endpoint : Value) (error : Fields) : Except Failure Report := do
  let message := (error.lookup "message").getD (.text "Unknown error")
  return .rpc (s!"Solana RPC error: {message.display}" ++ (← dataText error)) .null
    ((error.lookup "code").getD .null) endpoint

/-- What a body means. -/
def judgeBody (method : String) (endpoint : Value) (body : Value) : Except Failure Verdict := do
  if ← mentions "error" body then
    match ← entry "error" body with
    | .record error =>
      let failure := Failure.report (← nodeError endpoint error)
      if ((error.lookup "code").getD .null).eqv (.int rateLimitCode) then
        return .passing "Rate limited" method failure
      else
        return .standing failure
    | _ => throw .missingAttribute
  else
    return .answer (← entry "result" body)

/-- What a reply means for a request of a method at an endpoint.  Of the failures to read a body,
only one about the syntax of JSON counts as a failure of the request. -/
def judge (method : String) (endpoint : Value) : Reply → Verdict
  | .lost kind message =>
    let cause := Failure.foreign kind message
    match kind with
    | .transport _ => .passing "Request failed" message (.because
        (.rpc s!"{method} request failed: {message}" .null .null endpoint) cause)
    | _ => .standing cause
  | .response status body =>
    let refused := Failure.report
      (.rpc s!"{method} failed with HTTP status {status}" (.int status) .null endpoint)
    if status ∈ passingStatuses then .passing s!"HTTP status {status}" method refused
    else if 400 ≤ status then .standing refused
    else
      match body with
      | .error failure =>
        if (FailureClass.foreign .jsonSyntax).covers failure.fault then
          .standing (.because
            (.rpc s!"{method} returned invalid JSON" .null .null endpoint) failure)
        else .standing failure
      | .ok body =>
        match judgeBody method endpoint body with
        | .ok verdict => verdict
        | .error failure => .standing failure

end SolanaWire.Rpc
