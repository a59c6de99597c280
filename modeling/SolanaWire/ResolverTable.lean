import SolanaWire.Builtin
import SolanaWire.InstructionError
import SolanaWire.KeyTable
import SolanaWire.Log

/-!
# Resolver tables

A table says for each program how its custom codes are resolved.  The last registration of a
program counts, and replacing a different resolver is worth a warning.  Tables are kept in a bank,
so that a resolver bound to a program of a table sees what is registered later, also after the
bank's shared table has been replaced by a fresh one.
-/
namespace SolanaWire

/-- A resolver with the name that tells it from others.  The name stands for the identity of the
resolver as an object and says nothing about what it resolves: two of different names are different
resolvers even if they find the same errors, and tables compare the names alone. -/
structure NamedResolver where
  name : String
  resolve : Resolver

/-- The resolvers of some programs. -/
abbrev ResolverTable := KeyTable NamedResolver

namespace ResolverTable

/-- The resolver of the codes of the token programs. -/
def token : NamedResolver := ⟨"token_error_resolver", ErrorTable.token.resolver⟩

/-- The resolver of the codes of the System program. -/
def system : NamedResolver := ⟨"system_error_resolver", ErrorTable.system.resolver⟩

/-- The programs with built-in resolvers.  The token programs share their codes. -/
def builtin : List (Key × NamedResolver) :=
  [(SystemProgram.program.id, system), (Token.program.id, token), (Token.program2022.id, token)]

/-- Registers the resolver of a program. -/
def register (t : ResolverTable) (program : Key) (resolver : NamedResolver) : ResolverTable :=
  KeyTable.set t program resolver

/-- Whether a registration replaces a different resolver. -/
def replaces (t : ResolverTable) (program : Key) (resolver : NamedResolver) : Bool :=
  match t.get? program with
  | some previous => previous.name != resolver.name
  | none => false

/-- The warning that the resolver of a program has been replaced. -/
def overwriteWarning (program : Key) : LogLine :=
  ⟨.warning, .resolverTable,
    s!"Custom error resolver for program {program.text} already registered. Overwriting."⟩

/-- What a registration logs. -/
def registerLog (t : ResolverTable) (program : Key) (resolver : NamedResolver) : List LogLine :=
  if t.replaces program resolver then [overwriteWarning program] else []

/-- Registers some resolvers one after the other. -/
def registerAll (t : ResolverTable) :
    List (Key × NamedResolver) → ResolverTable × List LogLine
  | [] => (t, [])
  | (program, resolver) :: rest =>
    let (u, log) := registerAll (t.register program resolver) rest
    (u, t.registerLog program resolver ++ log)

/-- The table of the built-in resolvers. -/
def ofBuiltin : ResolverTable := (registerAll KeyTable.empty builtin).1

/-- Resolves a code of a program; a program without a resolver has no errors of its own. -/
def resolve (t : ResolverTable) (program : Key) (code : Value) :
    Except Failure (Option ResolvedError) :=
  match t.get? program with
  | some resolver => resolver.resolve code
  | none => .ok none

end ResolverTable

/-- A resolver that looks its table up when it is called: for one program, or for the program of
one instruction of a message. -/
inductive LateResolver
  | program (table : Nat) (program : Key)
  | instruction (table : Nat) (message : Message) (index : Int)

/-- Tables by the order in which they came into being, and the one that is shared, if any. -/
structure ResolverBank where
  tables : List ResolverTable := []
  shared : Option Nat := none

namespace ResolverBank

/-- The table of a number. -/
def table (b : ResolverBank) (n : Nat) : ResolverTable := b.tables.getD n KeyTable.empty

/-- The bank with a table changed. -/
def update (b : ResolverBank) (n : Nat) (t : ResolverTable) : ResolverBank :=
  { b with tables := b.tables.set n t }

/-- Adds a table. -/
def add (b : ResolverBank) (t : ResolverTable) : ResolverBank × Nat :=
  ({ b with tables := b.tables ++ [t] }, b.tables.length)

/-- The number of the shared table, which comes into being when it is first asked for. -/
def sharedTable (b : ResolverBank) : ResolverBank × Nat :=
  match b.shared with
  | some n => (b, n)
  | none =>
    let (c, n) := b.add KeyTable.empty
    ({ c with shared := some n }, n)

/-- Forgets which table is shared. -/
def reset (b : ResolverBank) : ResolverBank := { b with shared := none }

/-- Calls a late resolver with a code. -/
def call (b : ResolverBank) (r : LateResolver) (code : Value) :
    Except Failure (Option ResolvedError) :=
  match r with
  | .program n program => (b.table n).resolve program code
  | .instruction n message index =>
    match message.programOf index with
    | .ok program => (b.table n).resolve program code
    | .error fault => fault.toNone

end ResolverBank
end SolanaWire
