import SolanaWire.Variant
import SolanaWire.Proofs.Writing

/-!
# Parameters

The parameters of a variant are its fields one after the other, or one flag that is set by its
presence.  Both kinds of form are read back as they were written, and what is read is again a list
of values of the right types.
-/
namespace SolanaWire
open Outcome FieldType

theorem spellsAll_of_readFields {fs : List Field} {bytes rest : List UInt8} {vs : List Value}
    (h : readFields fs bytes = .ok (vs, rest)) :
    ∃ cells, SpellsAll (fs.map (·.type)) vs cells ∧ bytes = bytesOf cells ++ rest := by
  induction fs generalizing bytes vs with
  | nil =>
    cases h
    exact ⟨[], .nil, rfl⟩
  | cons f fs ih =>
    rw [readFields, bind_eq_ok_iff] at h
    obtain ⟨⟨v, tail⟩, hv, h⟩ := h
    rw [mapError_eq_ok_iff] at hv
    rw [bind_eq_ok_iff] at h
    obtain ⟨⟨others, last⟩, hothers, h⟩ := h
    cases h
    obtain ⟨front, first, rfl⟩ := spells_of_decode hv
    obtain ⟨cells, fields, rfl⟩ := ih hothers
    exact ⟨front ++ cells, .cons first fields, by simp⟩

theorem readFields_of_spellsAll {fs : List Field} {vs : List Value} {cells : List Cell}
    (h : SpellsAll (fs.map (·.type)) vs cells) (rest : List UInt8) :
    readFields fs (bytesOf cells ++ rest) = .ok (vs, rest) := by
  induction fs generalizing vs cells with
  | nil =>
    cases h
    rfl
  | cons f fs ih =>
    cases h with
    | cons first fields =>
      rw [bytesOf_append, List.append_assoc, readFields, decode_of_spells first, mapError_ok,
        ok_bind]
      simp only [ih fields, ok_bind]
      rfl

theorem writeFields_of_admitsAll {fs : List Field} {vs : List Value}
    (h : admitsAll (fs.map (·.type)) vs) :
    ∃ cells, SpellsAll (fs.map (·.type)) vs cells ∧ writeFields fs vs = .ok (bytesOf cells) := by
  induction fs generalizing vs with
  | nil =>
    cases vs with
    | nil => exact ⟨[], .nil, rfl⟩
    | cons v vs => cases h
  | cons f fs ih =>
    cases vs with
    | nil => cases h
    | cons v vs =>
      rw [List.map_cons, admitsAll, Bool.and_eq_true] at h
      obtain ⟨front, first, hfront⟩ := encode_of_admits h.1
      obtain ⟨cells, fields, hfields⟩ := ih h.2
      refine ⟨front ++ cells, .cons first fields, ?_⟩
      rw [writeFields, hfront, mapError_ok, ok_bind, hfields, ok_bind, bytesOf_append]
      rfl

theorem writeFields_of_spellsAll {fs : List Field} {vs : List Value} {cells : List Cell}
    (h : SpellsAll (fs.map (·.type)) vs cells)
    (unambiguous : ∀ f ∈ fs, f.type.isUnambiguous) :
    writeFields fs vs = .ok (canonicalOf cells) := by
  induction fs generalizing vs cells with
  | nil =>
    cases h
    rfl
  | cons f fs ih =>
    cases h with
    | cons first fields =>
      rw [writeFields, encode_of_spells first (unambiguous f (by simp)), mapError_ok, ok_bind,
        ih fields (fun g hg => unambiguous g (by simp [hg])), ok_bind, canonicalOf_append]
      rfl

namespace Form

/-- Whether some values are parameters of the form. -/
def admits : Form → List Value → Bool
  | fields fs, vs => admitsAll (fs.map (·.type)) vs
  | presence _, [.bool _] => true
  | presence _, _ => false

/-- The wire forms of parameters that are fields. -/
inductive Spells : Form → List Value → List Cell → Prop
  | fields {fs : List Field} {vs : List Value} {cells : List Cell}
      (all : SpellsAll (fs.map (·.type)) vs cells) : Spells (fields fs) vs cells

/-- Some bytes stand for parameters: fields are spelled at their front, and a flag is spelled by
them as a whole. -/
inductive Accepts : Form → List UInt8 → List Value → Prop
  | fields {form : Form} {vs : List Value} {cells : List Cell} (spelled : form.Spells vs cells)
      (rest : List UInt8) : Accepts form (bytesOf cells ++ rest) vs
  | absent (flag : String) : Accepts (presence flag) [] [.bool false]
  | clear (flag : String) : Accepts (presence flag) [0] [.bool false]
  | set (flag : String) : Accepts (presence flag) [1] [.bool true]

/-- Parameters are read exactly from the bytes that stand for them. -/
theorem decode_eq_ok_iff {form : Form} {bytes : List UInt8} {vs : List Value} :
    form.decode bytes = .ok vs ↔ form.Accepts bytes vs := by
  constructor
  · intro h
    cases form with
    | fields fs =>
      rw [decode, bind_eq_ok_iff] at h
      obtain ⟨⟨params, rest⟩, hparams, h⟩ := h
      cases h
      obtain ⟨cells, all, rfl⟩ := spellsAll_of_readFields hparams
      exact .fields (.fields all) rest
    | presence flag =>
      cases bytes with
      | nil =>
        cases h
        exact .absent flag
      | cons b bytes =>
        rw [decode] at h
        · split at h
          · rename_i zero
            cases h
            exact zero ▸ .clear flag
          split at h
          · rename_i one
            cases h
            exact one ▸ .set flag
          · cases h
        · exact List.cons_ne_nil b bytes
  · intro h
    cases h with
    | fields spelled rest =>
      obtain ⟨all⟩ := spelled
      rw [decode, readFields_of_spellsAll all, ok_bind]
      rfl
    | _ => rfl

/-- Parameters are written, and read back from what was written. -/
theorem encode_of_admits {form : Form} {vs : List Value} (h : form.admits vs) :
    ∃ bytes, form.encode vs = .ok bytes ∧ form.Accepts bytes vs := by
  cases form with
  | fields fs =>
    obtain ⟨cells, all, written⟩ := writeFields_of_admitsAll h
    refine ⟨bytesOf cells, written, ?_⟩
    simpa using Accepts.fields (.fields all) []
  | presence flag =>
    match vs, h with
    | [.bool false], _ => exact ⟨[], rfl, .absent flag⟩
    | [.bool true], _ => exact ⟨[1], rfl, .set flag⟩

theorem Accepts.admits {form : Form} {bytes : List UInt8} {vs : List Value}
    (h : form.Accepts bytes vs) : form.admits vs := by
  cases h with
  | fields spelled rest =>
    obtain ⟨all⟩ := spelled
    exact admitsAll_of_spellsAll all
  | _ => rfl

/-- Whether the wire forms of parameters differ in nothing but the bytes that set their flags. -/
def isUnambiguous : Form → Bool
  | fields fs => fs.all (·.type.isUnambiguous)
  | presence _ => false

theorem accepts_iff_of_isUnambiguous {form : Form} (h : form.isUnambiguous) {bytes : List UInt8}
    {vs : List Value} :
    form.Accepts bytes vs ↔ ∃ cells rest, form.Spells vs cells ∧ bytes = bytesOf cells ++ rest := by
  constructor
  · intro accepted
    cases accepted with
    | fields spelled rest => exact ⟨_, rest, spelled, rfl⟩
    | _ => cases h
  · rintro ⟨cells, rest, spelled, rfl⟩
    exact .fields spelled rest

/-- Parameters are written as any of their wire forms with each set flag made one. -/
theorem Spells.encode {form : Form} {vs : List Value} {cells : List Cell}
    (h : form.Spells vs cells) (unambiguous : form.isUnambiguous) :
    form.encode vs = .ok (canonicalOf cells) := by
  obtain ⟨all⟩ := h
  refine writeFields_of_spellsAll all (fun f mem => ?_)
  exact List.all_eq_true.1 unambiguous f mem

theorem Spells.of_sameUpToFlags {form : Form} {vs : List Value} {cells others : List Cell}
    (h : form.Spells vs cells) (same : sameUpToFlags others cells) : form.Spells vs others := by
  obtain ⟨all⟩ := h
  exact .fields (all.of_sameUpToFlags (fun _ _ => FieldType.Spells.of_sameUpToFlags) same)

/-- Parameters equal themselves. -/
theorem eqvItems_self {form : Form} {vs : List Value} (h : form.admits vs) :
    Value.eqvItems vs vs := by
  cases form with
  | fields fs => exact eqvItems_self_of_admitsAll h
  | presence flag =>
    match vs, h with
    | [.bool b], _ => cases b <;> rfl

end Form
end SolanaWire
