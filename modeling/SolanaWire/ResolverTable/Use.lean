import SolanaWire.ResolverTable

/-!
# Resolver tables in use

Code that uses resolver tables registers resolvers with them and resolves codes.  It also asks for
late resolvers, which it keeps, and calls them at any time afterwards.  In between, the shared table
may be asked for or forgotten.  A resolver that uses the tables itself does so after it has been
looked up, so what it does comes later among the events.
-/
namespace SolanaWire

/-- What can happen to resolver tables.  A late resolver that is kept is numbered by how many were
kept before it. -/
inductive ResolverEvent
  | register (table : Nat) (program : Key) (resolver : NamedResolver)
  | resolve (table : Nat) (program : Key) (code : Value)
  | keep (resolver : LateResolver)
  | call (kept : Nat) (code : Value)
  | share
  | reset

/-- Resolver tables, and the late resolvers that are kept. -/
structure ResolverUse where
  bank : ResolverBank := {}
  kept : List LateResolver := []

namespace ResolverUse

/-- What an event makes of the tables and of what is kept. -/
def step (u : ResolverUse) : ResolverEvent → ResolverUse
  | .register n program resolver =>
    { u with bank := u.bank.update n ((u.bank.table n).register program resolver) }
  | .keep resolver => { u with kept := u.kept ++ [resolver] }
  | .share => { u with bank := u.bank.sharedTable.1 }
  | .reset => { u with bank := u.bank.reset }
  | .resolve .. | .call .. => u

/-- What some events, the earliest first, make of the tables and of what is kept. -/
def run (u : ResolverUse) (events : List ResolverEvent) : ResolverUse := events.foldl step u

/-- What is found where an event is the use of a resolver that there is. -/
def found? (u : ResolverUse) : ResolverEvent → Option (Except Failure (Option ResolvedError))
  | .resolve n program code => some ((u.bank.table n).resolve program code)
  | .call k code => u.kept[k]?.map (u.bank.call · code)
  | _ => none

/-- What an event logs. -/
def heard (u : ResolverUse) : ResolverEvent → List LogLine
  | .register n program resolver => (u.bank.table n).registerLog program resolver
  | _ => []

@[simp] theorem run_nil (u : ResolverUse) : u.run [] = u := rfl

@[simp] theorem run_cons (u : ResolverUse) (event : ResolverEvent) (events : List ResolverEvent) :
    u.run (event :: events) = (u.step event).run events := rfl

end ResolverUse
end SolanaWire
