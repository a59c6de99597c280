import SolanaWire.Builtin.Token
import SolanaWire.Proofs.Lookups
import SolanaWire.Proofs.TypedDecoding

/-!
# Given definitions

An instruction is named, and a typed decoder is made, by a definition that the caller may give.  The
given definition takes the place of the program's own one, unless it has no variants: then it counts
as not given, and the program's own definition is used although another one was asked for.
-/
namespace SolanaWire
open Outcome

namespace Definition

variable {d : Definition} {v : Variant}

theorem entries_of_size_eq_zero (empty : d.size = 0) : d.entries = [] :=
  List.length_eq_zero_iff.1 empty

theorem nameOf?_of_size_eq_zero (empty : d.size = 0) (typeId : Int) : d.nameOf? typeId = none := by
  rw [nameOf?, variantFor?, entries_of_size_eq_zero empty]
  rfl

theorem contains_eq_false_iff : d.contains v = false ↔ d.typeIdOf? v = none := by
  rw [contains, Option.isSome_eq_false_iff, Option.isNone_iff_eq_none]

end Definition

namespace TypedDecoder

variable {P : Program} {d : Definition} {definition : Option Definition} {expected : Key}
  {v : Variant}

theorem choose_of_size_ne_zero (P : Program) (variants : d.size ≠ 0) : choose P (some d) = d :=
  if_neg variants

theorem choose_of_size_eq_zero (P : Program) (empty : d.size = 0) :
    choose P (some d) = P.definition :=
  if_pos empty

theorem choose_own (P : Program) : choose P (some P.definition) = P.definition := by
  by_cases empty : P.definition.size = 0
  · exact choose_of_size_eq_zero P empty
  · exact choose_of_size_ne_zero P empty

theorem make_of_typeIdOf?_eq_none (missing : (choose P definition).typeIdOf? v = none) :
    make expected P v definition = .error (.foreign .invalidValue
      s!"{v.name} is not a variant of {P.typeName}") := by
  unfold make
  split
  · rename_i found
    rw [missing] at found
    cases found
  · rfl

/-- A decoder is made from nothing but the chosen definition. -/
theorem make_congr {definition' : Option Definition}
    (same : choose P definition = choose P definition') :
    make expected P v definition = make expected P v definition' := by
  unfold make
  rw [same]

/-- An instruction of the expected program that is decoded is compared with the decoder's type id
and variant, and if they differ it is named by the decoder's definition. -/
theorem decode_of_resolve {D : TypedDecoder} {m : Message} {index : Int} {c : CompiledInstruction}
    {accounts : List Account} {i : Structured} (found : m.instructionAt index = .ok c)
    (resolved : m.resolve index = .ok (accounts, D.expectedProgram))
    (decoded : D.program.decode accounts c.data = .ok i) :
    D.decode m index = if i.typeId = D.typeId ∧ i.payload.variant = D.variant then .ok i.payload
      else .error (.otherVariant index
        ((D.definition.nameOf? i.typeId).getD i.payload.variant.name) D.variant.name) := by
  obtain ⟨c', here, accountsFound, known⟩ := Message.resolve_eq_ok_iff.1 resolved
  rw [found, Except.ok.injEq] at here
  subst here
  rw [decode_of_programAt found accountsFound known, if_neg (not_not_intro rfl), decoded,
    mapError_ok, ok_bind]

/-- A variant that the given definition does not contain makes no decoder. -/
theorem make_given_eq_error (variants : d.size ≠ 0) (unknown : d.contains v = false) :
    make expected P v (some d) = .error (.foreign .invalidValue
      s!"{v.name} is not a variant of {P.typeName}") := by
  apply make_of_typeIdOf?_eq_none
  rw [choose_of_size_ne_zero P variants]
  exact Definition.contains_eq_false_iff.1 unknown

/-- One that it contains makes a decoder that goes by the given definition alone. -/
theorem exists_make_given (variants : d.size ≠ 0) {typeId : Int}
    (found : d.typeIdOf? v = some typeId) :
    ∃ D, make expected P v (some d) = .ok D ∧ D.typeId = typeId ∧
      ∀ m index c accounts i, m.instructionAt index = .ok c →
        m.resolve index = .ok (accounts, expected) → P.decode accounts c.data = .ok i →
        D.decode m index = if i.typeId = typeId ∧ i.payload.variant = v then .ok i.payload
          else .error (.otherVariant index
            ((d.nameOf? i.typeId).getD i.payload.variant.name) v.name) := by
  have chosen := choose_of_size_ne_zero P variants
  rw [← chosen] at found
  obtain ⟨D, made, rfl, rfl, rfl, definition, rfl⟩ := exists_make_of_typeIdOf? expected found
  rw [chosen] at definition
  refine ⟨D, made, rfl, ?_⟩
  intro m index c accounts i here resolved decoded
  rw [decode_of_resolve here resolved decoded, definition]

end TypedDecoder

namespace Structured

/-- An instruction is named by the definition that a typed decoder would choose. -/
theorem identify_eq (i : Structured) (definition : Option Definition) :
    i.identify definition = (i.typeId,
      (TypedDecoder.choose i.program definition).nameOf? i.typeId, i.payload) := rfl

theorem identify_given_iff {i : Structured} {d : Definition} :
    i.identify (some d) = (i.typeId, d.nameOf? i.typeId, i.payload) ↔
      d.size ≠ 0 ∨ i.name? = none := by
  simp only [identify_eq, Prod.mk.injEq, true_and, and_true]
  by_cases empty : d.size = 0
  · rw [TypedDecoder.choose_of_size_eq_zero _ empty, Definition.nameOf?_of_size_eq_zero empty]
    simp [empty, name?]
  · rw [TypedDecoder.choose_of_size_ne_zero _ empty]
    simp [empty]

end Structured

/-- What a given definition is used for.  If it has variants, instructions are named by it, a typed
decoder is made exactly of the variants that it contains, and the decoder compares the instructions
with the type id that it has for the variant.  The program's own definition has no part in this.
It is used if no definition is given, and in place of one without variants. -/
theorem Definition.given_exactly (d : Definition) :
    (∀ i : Structured, i.identify (some d) = (i.typeId, d.nameOf? i.typeId, i.payload) ↔
      d.size ≠ 0 ∨ i.name? = none) ∧
    (d.size ≠ 0 → ∀ expected P v,
      (d.contains v = false → TypedDecoder.make expected P v (some d) = .error (.foreign
        .invalidValue s!"{v.name} is not a variant of {P.typeName}")) ∧
      (∀ typeId, d.typeIdOf? v = some typeId → ∃ D,
        TypedDecoder.make expected P v (some d) = .ok D ∧ D.typeId = typeId ∧
        ∀ m index c accounts i, m.instructionAt index = .ok c →
          m.resolve index = .ok (accounts, expected) → P.decode accounts c.data = .ok i →
          D.decode m index = if i.typeId = typeId ∧ i.payload.variant = v then .ok i.payload
            else .error (.otherVariant index
              ((d.nameOf? i.typeId).getD i.payload.variant.name) v.name))) ∧
    (d.size = 0 → (∀ i : Structured, i.identify (some d) = i.identify none) ∧
      ∀ expected P v,
        TypedDecoder.make expected P v (some d) = TypedDecoder.make expected P v none) ∧
    (∀ i : Structured, i.identify none = i.identify (some i.program.definition)) ∧
    (∀ expected P v,
      TypedDecoder.make expected P v none = TypedDecoder.make expected P v (some P.definition)) := by
  refine ⟨fun i => Structured.identify_given_iff, ?_, ?_, ?_, ?_⟩
  · intro variants expected P v
    exact ⟨TypedDecoder.make_given_eq_error variants,
      fun typeId found => TypedDecoder.exists_make_given variants found⟩
  · intro empty
    refine ⟨fun i => ?_, fun expected P v => ?_⟩
    · rw [Structured.identify_eq, TypedDecoder.choose_of_size_eq_zero _ empty]
      rfl
    · exact TypedDecoder.make_congr (TypedDecoder.choose_of_size_eq_zero P empty)
  · intro i
    rw [Structured.identify_eq i (some _), TypedDecoder.choose_own]
    rfl
  · intro expected P v
    exact TypedDecoder.make_congr (TypedDecoder.choose_own P).symm

/-- A table that has the type id four for a variant whose own program has nine for it. -/
def Definition.renumbered : Definition where
  tag := some .u8
  entries := [(4, Token.closeAccount)]
  nodup := by decide
  untagged := by simp

/-- An instruction is named by the table, which has no name for its type id, and a decoder of the
variant waits for the type id four. -/
theorem Definition.given_exactly_of_renumbered :
    let i : Structured := ⟨Token.program, 9, { variant := Token.closeAccount, params := [] }⟩
    renumbered.size ≠ 0 ∧ i.name? = some "CloseAccount" ∧
      i.identify (some renumbered) = (9, none, i.payload) ∧
      (∃ D, TypedDecoder.make Token.program.id Token.program Token.closeAccount (some renumbered) =
        .ok D ∧ D.typeId = 4) ∧
      TypedDecoder.make Token.program.id Token.program Token.burn (some renumbered) =
        .error (.foreign .invalidValue "Burn is not a variant of TokenInstruction") := by
  intro i
  have variants : renumbered.size ≠ 0 := by decide
  obtain ⟨names, makes, -⟩ := given_exactly renumbered
  obtain ⟨D, made, expects, -⟩ :=
    (makes variants Token.program.id Token.program Token.closeAccount).2 4 (by decide)
  exact ⟨variants, rfl, (names i).2 (.inl variants), ⟨D, made, expects⟩,
    (makes variants Token.program.id Token.program Token.burn).1 (by decide)⟩

/-- A table without variants. -/
def Definition.vacant : Definition where
  tag := some .u8
  entries := []
  nodup := by decide
  untagged := by simp

/-- The table can be made, and it has no name and no type id for anything, but it is not used where
it is given: an instruction is named by its program's own definition, and a decoder is made of a
variant that the table does not contain. -/
theorem Definition.vacant_not_used :
    let i : Structured := ⟨Token.program, 9, { variant := Token.closeAccount, params := [] }⟩
    ofList (some .u8) [] = .ok vacant ∧ vacant.nameOf? 9 = none ∧
      i.identify (some vacant) = (9, some "CloseAccount", i.payload) ∧
      vacant.contains Token.closeAccount = false ∧
      ∃ D, TypedDecoder.make Token.program.id Token.program Token.closeAccount (some vacant) =
        .ok D ∧ D.typeId = 9 := by
  intro i
  refine ⟨by decide, rfl, rfl, rfl, ?_⟩
  have own : (TypedDecoder.choose Token.program (some vacant)).typeIdOf? Token.closeAccount =
      some 9 := by decide
  obtain ⟨D, made, -, -, -, -, expects⟩ :=
    TypedDecoder.exists_make_of_typeIdOf? Token.program.id own
  exact ⟨D, made, expects⟩

end SolanaWire
