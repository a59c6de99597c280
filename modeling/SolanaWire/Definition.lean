import SolanaWire.Repetition
import SolanaWire.Variant

/-!
# Definitions

A definition is the closed table of a program's variants.  Each variant has a type id, which
instruction data begins with in the format of the tag; a definition without a tag has exactly one
variant.  No type id appears twice, but one variant may have several type ids, of which the last
one entered is taken to encode it.
-/
namespace SolanaWire

/-- The variants of a program by type id, and the format of the type id. -/
structure Definition where
  tag : Option IntFormat
  entries : List (Int × Variant)
  nodup : (entries.map (·.1)).Nodup
  untagged : tag = none → entries.length = 1
  deriving DecidableEq

/-- Why some entries are not a definition. -/
inductive DefinitionFault
  | untagged
  | duplicate (typeId : Int)
  deriving DecidableEq

/-- The message about entries that are not a definition. -/
def DefinitionFault.message : DefinitionFault → String
  | untagged => "untagged definitions hold exactly one variant"
  | duplicate typeId => s!"duplicate type id {typeId}"

namespace Definition

/-- The type id of instructions without a tag. -/
def untaggedTypeId : Int := 0

/-- The definition with some entries. -/
def ofList (tag : Option IntFormat) (entries : List (Int × Variant)) :
    Except DefinitionFault Definition :=
  if untagged : tag = none ∧ entries.length ≠ 1 then .error .untagged
  else
    match h : firstRepeated? (entries.map (·.1)) with
    | some typeId => .error (.duplicate typeId)
    | none => .ok
      { tag, entries
        nodup := nodup_of_firstRepeated? h
        untagged := fun none => by
          apply Decidable.byContradiction
          intro wrong
          exact untagged ⟨none, wrong⟩ }

/-- The number of variants. -/
def size (d : Definition) : Nat := d.entries.length

/-- The variant with a type id. -/
def variantFor? (d : Definition) (typeId : Int) : Option Variant := d.entries.lookup typeId

/-- The type id that encodes a variant: the last one entered. -/
def typeIdOf? (d : Definition) (v : Variant) : Option Int :=
  (d.entries.reverse.find? (·.2 = v)).map (·.1)

/-- Whether a variant has a type id. -/
def contains (d : Definition) (v : Variant) : Bool := (d.typeIdOf? v).isSome

/-- The name of the variant with a type id. -/
def nameOf? (d : Definition) (typeId : Int) : Option String :=
  (d.variantFor? typeId).map (·.name)

/-- The bytes of a type id. -/
def encodeTag (d : Definition) (typeId : Value) : Except EncodeFault (List UInt8) :=
  match d.tag with
  | none => .ok []
  | some f => f.write typeId

/-- The type id that data begins with, and the rest; `none` if the data is too short for one. -/
def split? (d : Definition) (data : List UInt8) : Option (Int × List UInt8) :=
  match d.tag with
  | none => some (untaggedTypeId, data)
  | some f =>
    if f.width ≤ data.length then some (f.decode (data.take f.width), data.drop f.width)
    else none

/-- The number of bytes of a type id. -/
def tagWidth (d : Definition) : Nat :=
  match d.tag with
  | none => 0
  | some f => f.width

theorem mem_entries_of_typeIdOf? {d : Definition} {v : Variant} {typeId : Int}
    (h : d.typeIdOf? v = some typeId) : (typeId, v) ∈ d.entries := by
  obtain ⟨e, found, rfl⟩ := Option.map_eq_some_iff.1 h
  have same : e.2 = v := by simpa using List.find?_some found
  have := List.mem_of_find?_eq_some found
  rw [List.mem_reverse] at this
  rwa [← same]

end Definition
end SolanaWire
