import SolanaWire.Builtin.AssociatedToken
import SolanaWire.Proofs.Acceptance
import SolanaWire.Proofs.Lookups

/-!
# Type ids in front of data

With a tag, writing a type id and splitting it off again are inverse to each other, on the type ids
that the format of the tag holds.  Without a tag nothing is written, and what is split off is always
the same type id.  The only entry of a definition without a tag may have been entered under another
one: then its instructions are written, but no data is ever decoded.
-/
namespace SolanaWire
open Outcome

namespace Definition

variable {d : Definition} {typeId : Int} {tag : List UInt8}

theorem isTag_iff : d.IsTag typeId tag ↔
    d.encodeTag (.int typeId) = .ok tag ∧ (d.tag = none → typeId = untaggedTypeId) :=
  ⟨fun begins => ⟨begins.written, begins.untagged⟩, fun ⟨written, own⟩ => ⟨own, written⟩⟩

theorem isTag_of_tagged (tagged : d.tag ≠ none) (written : d.encodeTag (.int typeId) = .ok tag) :
    d.IsTag typeId tag :=
  isTag_iff.2 ⟨written, fun untagged => absurd untagged tagged⟩

/-- A type id is split off again exactly if it is not lost without a tag. -/
theorem split?_append_iff (written : d.encodeTag (.int typeId) = .ok tag) (rest : List UInt8) :
    d.split? (tag ++ rest) = some (typeId, rest) ↔ (d.tag = none → typeId = untaggedTypeId) := by
  rw [split?_eq_some_iff]
  constructor
  · rintro ⟨tag', begins, -⟩
    exact begins.untagged
  · intro own
    exact ⟨tag, isTag_iff.2 ⟨written, own⟩, rfl⟩

/-- Data that is long enough is what is split off it, written again. -/
theorem exists_split? {data : List UInt8} (enough : d.tagWidth ≤ data.length) :
    ∃ typeId rest tag, d.split? data = some (typeId, rest) ∧
      d.encodeTag (.int typeId) = .ok tag ∧ tag ++ rest = data := by
  cases split : d.split? data with
  | none =>
    have short := split?_eq_none_iff.1 split
    omega
  | some s =>
    obtain ⟨typeId, rest⟩ := s
    obtain ⟨tag, begins, whole⟩ := split?_eq_some_iff.1 split
    exact ⟨typeId, rest, tag, rfl, begins.written, whole.symm⟩

/-- The only entry of a definition without a tag. -/
theorem exists_entry_of_untagged (untagged : d.tag = none) : ∃ e, d.entries = [e] :=
  List.length_eq_one_iff.1 (d.untagged untagged)

/-- Without a tag only one type id is ever looked up. -/
theorem variantFor?_untaggedTypeId_eq_none (untagged : d.tag = none) {e : Int × Variant}
    (entry : e ∈ d.entries) (other : e.1 ≠ untaggedTypeId) :
    d.variantFor? untaggedTypeId = none := by
  obtain ⟨single, only⟩ := exists_entry_of_untagged untagged
  rw [only, List.mem_singleton] at entry
  rw [Option.eq_none_iff_forall_ne_some]
  intro v found
  have known := variantFor?_eq_some_iff.1 found
  rw [only, List.mem_singleton, ← entry] at known
  exact other (congrArg Prod.fst known).symm

end Definition

namespace Program

variable {P : Program} {i j : Structured} {out rest : List UInt8} {accounts : List Account}

/-- The data of an instruction, whatever follows it, is decoded to no instruction of another type id
or of another variant. -/
theorem same_variant_of_decode_data (own : i.program = P)
    (entry : (i.typeId, i.payload.variant) ∈ P.definition.entries) (written : i.data = .ok out)
    (decoded : P.decode accounts (out ++ rest) = .ok j) :
    j.typeId = i.typeId ∧ j.payload.variant = i.payload.variant := by
  obtain ⟨tag, params, front, -, rfl⟩ := Structured.data_eq_ok_iff.1 written
  obtain ⟨tag', bytes, begins', whole, -, entry', -⟩ := exists_of_decode decoded
  rw [own] at front
  cases tagged : P.definition.tag with
  | none =>
    -- There is one entry only, so there is nothing to confuse.
    obtain ⟨e, only⟩ := Definition.exists_entry_of_untagged tagged
    rw [only, List.mem_singleton] at entry entry'
    exact Prod.mk.inj (entry'.trans entry.symm)
  | some f =>
    have begins := Definition.isTag_of_tagged (by simp [tagged]) front
    rw [List.append_assoc] at whole
    obtain ⟨same, variant, -⟩ := entry_unique begins entry begins' entry' whole
    exact ⟨same.symm, variant.symm⟩

/-- If the only variant without a tag has another type id than the one that is split off, no data is
decoded. -/
theorem decode_of_untagged (untagged : P.definition.tag = none) {e : Int × Variant}
    (entry : e ∈ P.definition.entries) (other : e.1 ≠ Definition.untaggedTypeId)
    (accounts : List Account) (data : List UInt8) :
    P.decode accounts data = .error (.unknownTypeId Definition.untaggedTypeId) := by
  have split : P.definition.split? data = some (Definition.untaggedTypeId, data) := by
    rw [Definition.split?, untagged]
  simp only [decode, split, Definition.variantFor?_untaggedTypeId_eq_none untagged entry other]

end Program

/-- The type ids of every definition that can be made.  A type id that is written in front of some
bytes is split off again, unless there is no tag and it is not the one that is split off then.  With
a tag long enough data is what is split off it, written again.  The data of an instruction is never
decoded to another variant; it is never decoded at all if a type id is lost without a tag. -/
theorem Definition.split_encodeTag {tag : Option IntFormat} {entries : List (Int × Variant)}
    {d : Definition} (made : ofList tag entries = .ok d) :
    (∀ typeId v, (typeId, v) ∈ entries → d.variantFor? typeId = some v ∧
      ∀ bytes rest, d.encodeTag (.int typeId) = .ok bytes →
        (d.split? (bytes ++ rest) = some (typeId, rest) ↔
          (tag = none → typeId = untaggedTypeId))) ∧
    (∀ data, d.tagWidth ≤ data.length → ∃ typeId rest bytes,
      d.split? data = some (typeId, rest) ∧ d.encodeTag (.int typeId) = .ok bytes ∧
        bytes ++ rest = data) ∧
    (∀ P : Program, P.definition = d → ∀ i : Structured, i.program = P →
      (i.typeId, i.payload.variant) ∈ entries → ∀ out, i.data = .ok out →
      ∀ accounts rest j, P.decode accounts (out ++ rest) = .ok j →
        j.typeId = i.typeId ∧ j.payload.variant = i.payload.variant) ∧
    (∀ P : Program, P.definition = d → tag = none → ∀ e ∈ entries, e.1 ≠ untaggedTypeId →
      ∀ accounts data, P.decode accounts data = .error (.unknownTypeId untaggedTypeId)) := by
  obtain ⟨rfl, rfl⟩ := entries_of_ofList made
  refine ⟨fun typeId v entry => ⟨variantFor?_eq_some_iff.2 entry, ?_⟩,
    fun data enough => exists_split? enough, ?_, ?_⟩
  · intro bytes rest written
    exact split?_append_iff written rest
  · rintro P rfl i own entry out written accounts rest j decoded
    exact Program.same_variant_of_decode_data own entry written decoded
  · rintro P rfl untagged e entry other accounts data
    exact Program.decode_of_untagged untagged entry other accounts data

/-- A type id below zero, of eight bytes. -/
theorem Definition.split_encodeTag_of_negative :
    ∃ d, ofList (some .i64) [(-2, Token.closeAccount), (3, Token.burn)] = .ok d ∧
      d.encodeTag (.int (-2)) = .ok (254 :: List.replicate 7 255) ∧
      d.split? ((254 :: List.replicate 7 255) ++ [9]) = some (-2, [9]) := by
  obtain ⟨d, made⟩ : ∃ d, ofList (some .i64) [(-2, Token.closeAccount), (3, Token.burn)] = .ok d :=
    eq_ok_of_toBool (by decide +kernel)
  have written : d.encodeTag (.int (-2)) = .ok (254 :: List.replicate 7 255) := by
    rw [encodeTag, (entries_of_ofList made).2]
    exact write_int_eq_ok_iff.2 ⟨by decide, by decide⟩
  have splits := ((split_encodeTag made).1 (-2) Token.closeAccount (by simp)).2 _ [9] written
  exact ⟨d, made, written, splits.2 (by simp)⟩

/-- A table without a tag whose only variant has been entered under the type id five. -/
def Definition.stray : Definition where
  tag := none
  entries := [(5, AssociatedToken.create)]
  nodup := by decide
  untagged := by simp

/-- The table can be made, and its type id is written in front of a byte, but another one is split
off again, which no variant has: an instruction that is written cannot be decoded. -/
theorem Definition.stray_not_split :
    ofList none [(5, AssociatedToken.create)] = .ok stray ∧
      stray.encodeTag (.int 5) = .ok [] ∧ stray.split? ([] ++ [1]) = some (0, [1]) ∧
      stray.variantFor? 0 = none ∧
      let P : Program := { AssociatedToken.program with definition := stray }
      let accounts : List Account := List.replicate 6 ⟨.ofNat 9, true, false⟩
      ∃ i, Structured.wrap P (.ofRead AssociatedToken.create [.bool true] accounts) = .ok i ∧
        i.typeId = 5 ∧ i.data = .ok [1] ∧ P.decode accounts [1] = .error (.unknownTypeId 0) := by
  refine ⟨by decide +kernel, rfl, rfl, by decide, ?_⟩
  intro P accounts
  have found : stray.typeIdOf? AssociatedToken.create = some 5 := by decide
  refine ⟨⟨P, 5, .ofRead AssociatedToken.create [.bool true] accounts⟩, ?_, rfl, rfl, ?_⟩
  · simp [Structured.wrap, Payload.ofRead, P, found]
  · exact Program.decode_of_untagged rfl (e := (5, AssociatedToken.create)) (by simp [P, stray])
      (by decide) accounts [1]

end SolanaWire
