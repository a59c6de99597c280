import SolanaWire.Proofs.Resolvers
import SolanaWire.Proofs.Resolution
import SolanaWire.TransactionError

/-!
# Error payloads

A name is always understood.  An object is understood if it gives the position of an instruction and
a payload for its failure, and if the position is one of the message's, where the message is known.
What is understood keeps the payload that it was read from.  An object whose position would have to
be written and has too many digits for that is not read: the writing fails.
-/
namespace SolanaWire
open Outcome

theorem Value.toNat?_eq_some_iff {v : Value} {n : Nat} :
    v.toNat? = some n ↔ v.toInt? = some (n : Int) := by
  unfold toNat?
  split
  · rename_i m same
    rw [same, Option.some.injEq, Option.some.injEq, Int.ofNat_eq_natCast, Int.ofNat_inj]
  · rename_i other
    constructor
    · intro h
      cases h
    · intro same
      exact absurd same (other n)

namespace InstructionError

/-- What describes the failure of an instruction: a name, or an object with a custom code. -/
inductive IsPayload : Value → Prop
  | name (s : String) : IsPayload (.text s)
  | custom {fields : Fields} {v : Value} {code : Nat} (found : fields.lookup "Custom" = some v)
      (number : v.toInt? = some (code : Int)) : IsPayload (.record fields)

theorem customCode?_eq_some_iff {fields : Fields} {code : Nat} :
    customCode? fields = some code ↔
      ∃ v, fields.lookup "Custom" = some v ∧ v.toInt? = some (code : Int) := by
  simp [customCode?, Option.bind_eq_some_iff, Value.toNat?_eq_some_iff]

end InstructionError

namespace TransactionError

/-- The position of the failed instruction and the payload for its failure, as an object gives
them. -/
def Blames (fields : Fields) (position payload : Value) : Prop :=
  fields.lookup "InstructionError" = some (.list [position, payload]) ∨
    fields.lookup "InstructionError" = some (.tuple [position, payload])

theorem indexedPayload?_eq_some_iff {fields : Fields} {index : Nat} {payload : Value} :
    indexedPayload? fields = some (index, payload) ↔
      ∃ position, Blames fields position payload ∧ position.toInt? = some (index : Int) := by
  constructor
  · intro given
    simp only [indexedPayload?] at given
    split at given
    · rename_i items position cause same
      simp only [Option.map_eq_some_iff, Prod.mk.injEq] at given
      obtain ⟨n, number, rfl, rfl⟩ := given
      refine ⟨position, ?_, Value.toNat?_eq_some_iff.1 number⟩
      split at same
      · rename_i found
        exact .inl (same ▸ found)
      · rename_i found
        exact .inr (same ▸ found)
      · cases same
    · cases given
  · rintro ⟨position, blamed, number⟩
    have natural := Value.toNat?_eq_some_iff.2 number
    rcases blamed with blamed | blamed <;> simp [indexedPayload?, blamed, natural]

/-- A position is one of an instruction with a program, where the message is known. -/
def Locates (context : Option Message) (index : Nat) : Prop :=
  ∀ m, context = some m → ∃ program, m.HasProgram index program

/-- The resolver for the failed instruction: the one that is registered for its program, or the one
that finds nothing if there is none or the message is not known. -/
inductive ResolvesBy (table : ResolverTable) : Option Message → Nat → Resolver → Prop
  | unknown (index : Nat) : ResolvesBy table none index Resolver.nothing
  | registered {m : Message} {index : Nat} {program : Key} {r : NamedResolver}
      (known : m.HasProgram index program) (found : table.get? program = some r) :
      ResolvesBy table (some m) index r.resolve
  | unregistered {m : Message} {index : Nat} {program : Key} (known : m.HasProgram index program)
      (absent : table.get? program = none) : ResolvesBy table (some m) index Resolver.nothing

section

variable {context : Option Message} {table : ResolverTable} {index : Nat} {resolver : Resolver}

theorem ResolvesBy.of_hasProgram (table : ResolverTable) {m : Message} {program : Key}
    (known : m.HasProgram index program) :
    ResolvesBy table (some m) index (table.resolve program) := by
  cases found : table.get? program with
  | some r =>
    rw [ResolverTable.resolve_of_get?_eq_some found]
    exact .registered known found
  | none =>
    rw [ResolverTable.resolve_of_get?_eq_none found]
    exact .unregistered known found

/-- The resolver of a failed instruction is what the table resolves for the program. -/
theorem resolvesBy_some_iff {m : Message} :
    ResolvesBy table (some m) index resolver ↔
      ∃ program, m.HasProgram index program ∧ resolver = table.resolve program := by
  constructor
  · intro resolves
    cases resolves with
    | registered known found => exact ⟨_, known, (ResolverTable.resolve_of_get?_eq_some found).symm⟩
    | unregistered known absent =>
      exact ⟨_, known, (ResolverTable.resolve_of_get?_eq_none absent).symm⟩
  · rintro ⟨program, known, rfl⟩
    exact .of_hasProgram table known

theorem resolverAt_eq_ok_iff :
    resolverAt context table index = .ok resolver ↔ ResolvesBy table context index resolver := by
  cases context with
  | none =>
    constructor
    · intro same
      cases same
      exact .unknown index
    · intro resolves
      cases resolves
      rfl
  | some m =>
    simp only [resolverAt, resolvesBy_some_iff, bind_eq_ok_iff, Message.programOf_eq_ok_iff]
    constructor
    · rintro ⟨program, known, same⟩
      cases same
      exact ⟨program, known, rfl⟩
    · rintro ⟨program, known, rfl⟩
      exact ⟨program, known, rfl⟩

end

/-- What describes the failure of a transaction: a name, or an object with the position of an
instruction of the message, in digits that can be written, and what describes its failure. -/
inductive IsPayload (context : Option Message) : Value → Prop
  | name (s : String) : IsPayload context (.text s)
  | indexed {fields : Fields} {position payload : Value} {index : Nat}
      (blamed : Blames fields position payload) (number : position.toInt? = some (index : Int))
      (inside : Locates context index) (cause : InstructionError.IsPayload payload)
      (short : Numeral.IsWritable index) : IsPayload context (.record fields)

/-- The cause that a payload describes. -/
inductive Describes (context : Option Message) (table : ResolverTable) :
    Value → TransactionCause → Prop
  | known (kind : TransactionErrorKind) :
      Describes context table (.text kind.wireName) (.known kind)
  | undefined {name : String} (unknown : ∀ kind : TransactionErrorKind, kind.wireName ≠ name) :
      Describes context table (.text name) (.undefined name)
  | indexed {fields : Fields} {position payload : Value} {index : Nat} {resolver : Resolver}
      {cause : InstructionError} (blamed : Blames fields position payload)
      (number : position.toInt? = some (index : Int))
      (resolves : ResolvesBy table context index resolver)
      (read : InstructionError.parse payload resolver = .ok (some cause))
      (short : Numeral.IsWritable index) :
      Describes context table (.record fields) (.indexed ⟨index, cause, short⟩)

section

variable {context : Option Message} {table : ResolverTable}

theorem describes_text_iff {name : String} {cause : TransactionCause} :
    Describes context table (.text name) cause ↔ cause = .ofName name := by
  unfold TransactionCause.ofName
  constructor
  · intro described
    cases described with
    | known kind => rw [TransactionErrorKind.ofWireName?_wireName]
    | undefined unknown =>
      split
      · rename_i kind found
        exact absurd (TransactionErrorKind.wireName_of_ofWireName? found) (unknown kind)
      · rfl
  · rintro rfl
    split
    · rename_i kind found
      cases TransactionErrorKind.wireName_of_ofWireName? found
      exact .known kind
    · rename_i absent
      refine .undefined (fun kind same => ?_)
      rw [← same, TransactionErrorKind.ofWireName?_wireName] at absent
      cases absent

theorem mapM_make_eq_some_iff {index : Int} {cause : Option InstructionError} {e : IndexedError} :
    cause.mapM (IndexedError.make index) = .ok (some e) ↔
      e.index = index ∧ cause = some e.cause := by
  cases cause with
  | none => exact iff_of_false (fun made => by cases made) (by simp)
  | some cause =>
    have made : Option.mapM (IndexedError.make index) (some cause) =
        (IndexedError.make index cause).map some := rfl
    rw [made, Option.some.injEq, eq_comm (a := cause), ← IndexedError.make_eq_ok_iff]
    cases IndexedError.make index cause <;> simp [Except.map]

/-- What reading an object comes to, once the failed instruction and its payload are known. -/
theorem parseIndexed_of_indexedPayload? {fields : Fields} {index : Nat} {payload : Value}
    (given : indexedPayload? fields = some (index, payload)) :
    parseIndexed context table fields =
      match resolverAt context table index with
      | .error fault => fault.toNone
      | .ok resolver => InstructionError.parse payload resolver >>=
        (·.mapM (IndexedError.make index)) := by
  unfold parseIndexed
  cases resolved : resolverAt context table index <;> simp [given, resolved]

theorem parseIndexed_eq_some_iff {fields : Fields} {e : IndexedError} :
    parseIndexed context table fields = .ok (some e) ↔
      Describes context table (.record fields) (.indexed e) := by
  constructor
  · intro parsed
    cases given : indexedPayload? fields with
    | none =>
      rw [parseIndexed, given] at parsed
      cases parsed
    | some pair =>
      obtain ⟨index, payload⟩ := pair
      obtain ⟨position, blamed, number⟩ := indexedPayload?_eq_some_iff.1 given
      rw [parseIndexed_of_indexedPayload? given] at parsed
      split at parsed
      · cases (IndexFault.toNone_eq_ok_iff.1 parsed).2
      · rename_i resolver resolves
        obtain ⟨cause, read, made⟩ := bind_eq_ok_iff.1 parsed
        obtain ⟨i, cause', short⟩ := e
        obtain ⟨same, rfl⟩ := mapM_make_eq_some_iff.1 made
        cases same
        exact .indexed blamed number (resolverAt_eq_ok_iff.1 resolves) read short
  · intro described
    cases described with
    | indexed blamed number resolves read short =>
      rw [parseIndexed_of_indexedPayload? (indexedPayload?_eq_some_iff.2 ⟨_, blamed, number⟩)]
      simp only [resolverAt_eq_ok_iff.2 resolves, read, ok_bind]
      exact mapM_make_eq_some_iff.2 ⟨rfl, rfl⟩

theorem parse_eq_some_iff {raw : Value} {e : TransactionError} :
    parse context table raw = .ok (some e) ↔ e.raw = raw ∧ Describes context table raw e.cause := by
  cases raw with
  | text name =>
    rw [describes_text_iff]
    constructor
    · intro parsed
      cases parsed
      exact ⟨rfl, rfl⟩
    · rintro ⟨raw, cause⟩
      cases e
      cases raw
      cases cause
      rfl
  | record fields =>
    simp only [parse, bind_eq_ok_iff]
    constructor
    · rintro ⟨error, parsed, same⟩
      cases error with
      | none => cases same
      | some error =>
        cases same
        exact ⟨rfl, parseIndexed_eq_some_iff.1 parsed⟩
    · rintro ⟨raw, described⟩
      cases e
      cases raw
      cases described with
      | indexed blamed number resolves read short =>
        exact ⟨_, parseIndexed_eq_some_iff.2 (.indexed blamed number resolves read short), rfl⟩
  | _ => exact iff_of_false (fun parsed => by cases parsed) (fun both => by cases both.2)

end

end TransactionError
end SolanaWire
