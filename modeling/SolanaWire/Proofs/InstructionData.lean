import SolanaWire.Instruction.Decode
import SolanaWire.Proofs.Parameters

/-!
# Instruction data

Instruction data is a type id and the parameters of the variant that has it.  The type id is split
off as it was put there, and if no name hides a feature of the payloads, decoding is no more than
the checks of the type id, the accounts and the parameters, in this order.
-/
namespace SolanaWire
open Outcome

theorem mem_of_lookup {α β : Type} [BEq α] [LawfulBEq α] {es : List (α × β)} {k : α} {v : β}
    (found : es.lookup k = some v) : (k, v) ∈ es := by
  obtain ⟨front, back, rfl, -⟩ := List.lookup_eq_some_iff.1 found
  simp

theorem lookup_eq_some_iff_mem {α β : Type} [BEq α] [LawfulBEq α] {es : List (α × β)}
    (nodup : (es.map (·.1)).Nodup) {k : α} {v : β} : es.lookup k = some v ↔ (k, v) ∈ es := by
  induction es with
  | nil => simp
  | cons e es ih =>
    obtain ⟨l, w⟩ := e
    rw [List.map_cons, List.nodup_cons] at nodup
    by_cases h : k = l
    · subst h
      have absent : (k, v) ∉ es := fun mem => nodup.1 (List.mem_map.2 ⟨_, mem, rfl⟩)
      simp [absent, eq_comm]
    · have other : (k == l) = false := beq_false_of_ne h
      simp [List.lookup_cons, other, ih nodup.2, h]

theorem write_int_eq_ok_iff {f : IntFormat} {n : Int} {bytes : List UInt8} :
    f.write (.int n) = .ok bytes ↔ f.Fits n ∧ bytes = f.encode n := by
  by_cases fits : f.Fits n
  · simp [FieldType.write_of_fits fits, fits, eq_comm]
  · simp [IntFormat.write, Value.wireInt?, fits]

namespace Definition

theorem variantFor?_eq_some_iff {d : Definition} {typeId : Int} {v : Variant} :
    d.variantFor? typeId = some v ↔ (typeId, v) ∈ d.entries :=
  lookup_eq_some_iff_mem d.nodup

theorem nameOf?_of_mem {d : Definition} {typeId : Int} {v : Variant}
    (entry : (typeId, v) ∈ d.entries) : d.nameOf? typeId = some v.name := by
  rw [nameOf?, variantFor?_eq_some_iff.2 entry, Option.map_some]

/-- Some bytes are those of a type id.  Without a tag the type id is always the same one. -/
structure IsTag (d : Definition) (typeId : Int) (tag : List UInt8) : Prop where
  untagged : d.tag = none → typeId = untaggedTypeId
  written : d.encodeTag (.int typeId) = .ok tag

theorem isTag_of_tag {d : Definition} {f : IntFormat} (tagged : d.tag = some f) {typeId : Int}
    {tag : List UInt8} : d.IsTag typeId tag ↔ f.Fits typeId ∧ tag = f.encode typeId := by
  constructor
  · intro h
    have written := h.written
    rw [encodeTag, tagged] at written
    exact write_int_eq_ok_iff.1 written
  · intro h
    refine ⟨fun none => ?_, ?_⟩
    · rw [tagged] at none
      cases none
    · rw [encodeTag, tagged]
      exact write_int_eq_ok_iff.2 h

theorem isTag_of_untagged {d : Definition} (none : d.tag = none) {typeId : Int}
    {tag : List UInt8} : d.IsTag typeId tag ↔ typeId = untaggedTypeId ∧ tag = [] := by
  constructor
  · intro h
    have written := h.written
    rw [encodeTag, none] at written
    cases written
    exact ⟨h.untagged none, rfl⟩
  · rintro ⟨rfl, rfl⟩
    refine ⟨fun _ => rfl, ?_⟩
    rw [encodeTag, none]

/-- The type id that is split off is the one that the data begins with. -/
theorem split?_eq_some_iff {d : Definition} {data bytes : List UInt8} {typeId : Int} :
    d.split? data = some (typeId, bytes) ↔ ∃ tag, d.IsTag typeId tag ∧ data = tag ++ bytes := by
  unfold split?
  cases tagged : d.tag with
  | none => simp [isTag_of_untagged tagged, and_assoc, eq_comm]
  | some f =>
    simp only [isTag_of_tag tagged]
    constructor
    · intro h
      split at h
      · rename_i enough
        have width := List.length_take_of_le enough
        cases h
        refine ⟨_, ⟨IntFormat.fits_decode width, rfl⟩, ?_⟩
        rw [IntFormat.encode_decode width, List.take_append_drop]
      · cases h
    · rintro ⟨tag, ⟨fits, rfl⟩, rfl⟩
      have width := IntFormat.length_encode f typeId
      rw [if_pos (by simp), List.take_left' width, List.drop_left' width,
        IntFormat.decode_encode fits]

/-- Data begins with one type id only. -/
theorem IsTag.unique {d : Definition} {typeId typeId' : Int} {tag tag' bytes bytes' : List UInt8}
    (begins : d.IsTag typeId tag) (begins' : d.IsTag typeId' tag')
    (same : tag ++ bytes = tag' ++ bytes') : typeId = typeId' ∧ bytes = bytes' := by
  have split : d.split? (tag ++ bytes) = some (typeId, bytes) :=
    split?_eq_some_iff.2 ⟨tag, begins, rfl⟩
  rw [split?_eq_some_iff.2 ⟨tag', begins', same⟩] at split
  simpa [eq_comm] using split

theorem split?_eq_none_iff {d : Definition} {data : List UInt8} :
    d.split? data = none ↔ data.length < d.tagWidth := by
  unfold split? tagWidth
  cases d.tag <;> simp

end Definition

/-- The parameters of an ordinary variant are those of its form. -/
theorem Variant.IsOrdinary.read {v : Variant} (h : v.IsOrdinary) (bytes : List UInt8) :
    v.read bytes = (v.form.decode bytes).mapError (.malformed v.name) := by
  rw [Variant.read, readFault?_eq_none h.keepsFeatures,
    remakeFault?_eq_none h.keepsFeatures h.makeable]
  cases v.form.decode bytes <;> rfl

/-- The data of an instruction is its type id and its parameters. -/
theorem Structured.data_of_isTag {P : Program} {typeId : Int} {p : Payload} {tag bytes : List UInt8}
    (begins : P.definition.IsTag typeId tag) (keeps : p.variant.KeepsFeatures)
    (written : p.variant.form.encode p.params = .ok bytes) :
    Structured.data ⟨P, typeId, p⟩ = .ok (tag ++ bytes) := by
  rw [Structured.data, begins.written, ok_bind, Payload.encode_of_keepsFeatures keeps, written,
    ok_bind]
  rfl

namespace Program

/-- Once the type id is known, decoding checks the accounts and then the parameters. -/
theorem decode_of_isTag {P : Program} {typeId : Int} {tag : List UInt8} {v : Variant}
    (begins : P.definition.IsTag typeId tag) (entry : (typeId, v) ∈ P.definition.entries)
    (ordinary : v.IsOrdinary) (accounts : List Account) (bytes : List UInt8) :
    P.decode accounts (tag ++ bytes) =
      if (accounts.length : Int) < v.minAccounts then
        .error (.tooFewAccounts v.name accounts.length v.minAccounts)
      else (v.form.decode bytes).mapError (.malformed v.name) >>=
        fun params => .ok ⟨P, typeId, .ofRead v params accounts⟩ := by
  have split : P.definition.split? (tag ++ bytes) = some (typeId, bytes) :=
    Definition.split?_eq_some_iff.2 ⟨tag, begins, rfl⟩
  simp only [decode, split, Definition.variantFor?_eq_some_iff.2 entry,
    Variant.countFault?_eq_none ordinary.keepsFeatures, ordinary.read]
  rfl

/-- A type id, the bytes of parameters of its variant and enough accounts make an instruction. -/
theorem decode_of_accepts {P : Program} {typeId : Int} {tag : List UInt8} {v : Variant}
    (begins : P.definition.IsTag typeId tag) (entry : (typeId, v) ∈ P.definition.entries)
    (ordinary : v.IsOrdinary) {accounts : List Account}
    (enough : v.minAccounts ≤ accounts.length) {bytes : List UInt8} {params : List Value}
    (accepted : v.form.Accepts bytes params) :
    P.decode accounts (tag ++ bytes) = .ok ⟨P, typeId, .ofRead v params accounts⟩ := by
  rw [decode_of_isTag begins entry ordinary, if_neg (by omega), Form.decode_eq_ok_iff.2 accepted,
    mapError_ok, ok_bind]

end Program
end SolanaWire
