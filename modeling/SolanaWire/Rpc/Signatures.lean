import SolanaWire.Rpc.Client

/-!
# Signatures and blockhashes

What a client asks a node for: the signatures of the transactions that involve an address, newest
first, and whether a blockhash can still be used.

A node returns a limited number of signatures at once.  The whole history is fetched page by page:
each page starts before the last signature of the page before, and a page that is not full is the
last one.
-/
namespace SolanaWire.Rpc

/-- Which signatures are asked for: those before one signature, down to another one.  What is null
is not asked for. -/
structure SignatureQuery where
  address : Value
  before : Value := .null
  stop : Value := .null
  limit : Value := .null
  commitment : Value := .null
  minContextSlot : Value := .null

/-- A value that counts as true, or else a standard one. -/
def chosen (given standard : Value) : Value := if given.isTruthy then given else standard

/-- A field that is there if its value counts as true. -/
def boundField (name : String) (bound : Value) : Fields :=
  if bound.isTruthy then [(name, bound)] else []

/-- A field that is there if its value is not null. -/
def givenField (name : String) : Value → Fields
  | .null => []
  | v => [(name, v)]

/-- The options of a query. -/
def SignatureQuery.options (q : SignatureQuery) (defaultCommitment : Value) : Fields :=
  ("commitment", chosen q.commitment defaultCommitment) ::
    (givenField "limit" q.limit ++ boundField "before" q.before ++ boundField "until" q.stop ++
      givenField "minContextSlot" q.minContextSlot)

/-- The entries of a page. -/
def pageEntries (page : Value) : Except Failure (List Value) :=
  page.items?.elim (.error .wrongType) .ok

/-- The signature of the last entry of a page. -/
def lastSignature : Value → Except Failure Value
  | .list xs | .tuple xs =>
    match xs.getLast? with
    | some e => entry "signature" e
    | none => .error (.foreign .missingIndex "list index out of range")
  | .record _ => .error (.missingKey (.int (-1)))
  | _ => .error .wrongType

namespace Client

/-- Asks for the signatures of a query. -/
def askSignatures (c : Client) (q : SignatureQuery) : Task Value :=
  c.request "getSignaturesForAddress"
    (.list [.text q.address.display, .record (q.options c.settings.commitment)])

/-- The signatures of a query, newest first. -/
def signatures (c : Client) (q : SignatureQuery) : Task Value :=
  logged "get_signatures_for_address" (c.askSignatures q)

/-- The page size and the commitment of a history; a report if a node does not support them. -/
def historyTerms (c : Client) (limit commitment : Value) : Except Failure (Value × Value) := do
  let limit := match limit with
    | .null => c.settings.signaturesPerRequest
    | limit => limit
  unless ← isPageSize limit do
    throw (.report
      { facts := .validation
        message := s!"per request limit must be between 1 and {signatureLimit}"
        details := .record [("per_request_limit", limit)] })
  let commitment := chosen commitment (.text "finalized")
  if !commitment.isAmong commitmentLevels || commitment.isAmong ["processed"] then
    let shown := commitment.display
    throw (.report
      { facts := .validation
        message := s!"unsupported commitment for getSignaturesForAddress: {shown}"
        details := .record [("commitment", commitment)] })
  return (limit, commitment)

/-- The entries of the pages of a history from a query on, after the entries so far.  There is no
result if the history does not end within a number of pages. -/
def pages (c : Client) :
    (bound : Nat) → SignatureQuery → List Value → Task (Option (List Value))
  | 0, _, _ => return none
  | bound + 1, q, past => do
    let page ← c.signatures q
    let entries ← pageEntries page
    if ← compared ((Value.int entries.length).lt? q.limit) then return some (past ++ entries)
    else c.pages bound { q with before := ← lastSignature page } (past ++ entries)

/-- The whole history of a query; its limit is the page size. -/
def fetchHistory (c : Client) (bound : Nat) (q : SignatureQuery) : Task (Option (List Value)) := do
  let (limit, commitment) ← c.historyTerms q.limit q.commitment
  let found ← c.pages bound { q with limit, commitment } []
  if let some entries := found then
    Procedure.log .debug .rpcClient (withContext "Fetched signatures"
      [("address", .text q.address.display), ("count", .int entries.length)])
  return found

/-- The signatures of the whole history of a query, newest first. -/
def history (c : Client) (bound : Nat) (q : SignatureQuery) : Task (Option (List Value)) :=
  logged "get_all_signatures_for_address" (c.fetchHistory bound q)

/-- Asks whether a blockhash can still be used. -/
def askBlockhash (c : Client) (blockhash commitment minContextSlot : Value) : Task Bool := do
  let options := ("commitment", chosen commitment c.settings.commitment) ::
    givenField "minContextSlot" minContextSlot
  let result ← c.request "isBlockhashValid" (.list [.text blockhash.display, .record options])
  return (← entry "value" result).isTruthy

/-- Whether a blockhash can still be used. -/
def isBlockhashValid (c : Client) (blockhash commitment minContextSlot : Value) : Task Bool :=
  logged "is_blockhash_valid" (c.askBlockhash blockhash commitment minContextSlot)

end Client
end SolanaWire.Rpc
