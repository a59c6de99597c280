import SolanaWire.Failure.Class
import SolanaWire.Rpc.Signatures

/-!
# Calls by name

The public procedures of a client can be called by their names, with named arguments.  A call with
an argument that the procedure does not know, or without one that it needs, fails as the procedure
itself does: the failure is logged and passed on.
-/
namespace SolanaWire.Rpc.Client

/-- The arguments that each public procedure needs, and those that it may have. -/
def signatureOf? : String → Option (List String × List String)
  | "get_signatures_for_address" =>
    some (["address"], ["before", "until", "limit", "commitment", "min_context_slot"])
  | "get_all_signatures_for_address" =>
    some (["address"], ["before", "until", "per_request_limit", "commitment"])
  | "is_blockhash_valid" => some (["blockhash"], ["commitment", "min_context_slot"])
  | _ => none

/-- The public procedure of a name with fitting arguments; a history ends within a number of
pages. -/
def perform (c : Client) (bound : Nat) (name : String) (arguments : Fields) : Task Value := do
  let argument := fun name => (arguments.lookup name).getD .null
  let query : SignatureQuery :=
    { address := argument "address"
      before := argument "before"
      stop := argument "until"
      limit := argument "limit"
      commitment := argument "commitment"
      minContextSlot := argument "min_context_slot" }
  match name with
  | "get_signatures_for_address" => c.signatures query
  | "get_all_signatures_for_address" =>
    let found ← c.history bound { query with limit := argument "per_request_limit" }
    return .list (found.getD [])
  | _ =>
    return .bool (← c.isBlockhashValid (argument "blockhash") query.commitment
      query.minContextSlot)

/-- Calls the public procedure of a name. -/
def call (c : Client) (bound : Nat) (name : String) (arguments : Fields) : Task Value :=
  match signatureOf? name with
  | some (needed, allowed) =>
    if namesFit arguments needed allowed then c.perform bound name arguments
    else logged name (throw .wrongType)
  | none => throw .missingAttribute

end SolanaWire.Rpc.Client
