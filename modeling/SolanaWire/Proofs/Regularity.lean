import SolanaWire.Builtin
import SolanaWire.Proofs.InstructionData

/-!
# Regular programs

A program is regular if each of its type ids can be written in the format of its tag and nothing
hides what its payloads need.  All built-in programs are.
-/
namespace SolanaWire

/-- The type ids of a program can be written, and its variants hide nothing that payloads need. -/
structure Program.IsRegular (P : Program) : Prop where
  typeIds_fit : ∀ f, P.definition.tag = some f → ∀ e ∈ P.definition.entries, f.Fits e.1
  untagged_typeId : P.definition.tag = none →
    ∀ e ∈ P.definition.entries, e.1 = Definition.untaggedTypeId
  ordinary : ∀ e ∈ P.definition.entries, e.2.IsOrdinary

/-- Each type id of a regular program has its bytes. -/
theorem Program.IsRegular.isTag {P : Program} (h : P.IsRegular) {typeId : Int} {v : Variant}
    (entry : (typeId, v) ∈ P.definition.entries) : ∃ tag, P.definition.IsTag typeId tag := by
  cases tagged : P.definition.tag with
  | none =>
    have same := h.untagged_typeId tagged _ entry
    exact ⟨[], (Definition.isTag_of_untagged tagged).2 ⟨same, rfl⟩⟩
  | some f =>
    have fits := h.typeIds_fit f tagged _ entry
    exact ⟨f.encode typeId, (Definition.isTag_of_tag tagged).2 ⟨fits, rfl⟩⟩

namespace Builtin

theorem hidesNothing {P : Program} (h : P ∈ programs) :
    ∀ e ∈ P.definition.entries, e.2.HidesNothing := by
  have plain : ∀ P ∈ programs, ∀ e ∈ P.definition.entries, e.2.HidesNothing := by
    decide +kernel
  exact plain P h

theorem isRegular {P : Program} (h : P ∈ programs) : P.IsRegular where
  typeIds_fit := by
    have fits : ∀ P ∈ programs, ∀ e ∈ P.definition.entries,
        P.definition.tag.all (·.Fits e.1) := by decide +kernel
    intro f tagged e mem
    simpa [tagged] using fits P h e mem
  untagged_typeId := by
    have zero : ∀ P ∈ programs, P.definition.tag = none →
        ∀ e ∈ P.definition.entries, e.1 = Definition.untaggedTypeId := by decide +kernel
    exact zero P h
  ordinary := fun e mem => (hidesNothing h e mem).isOrdinary

/-- Every variant of a built-in program has one type id. -/
theorem typeId_unique {P : Program} (h : P ∈ programs) {typeId typeId' : Int} {v : Variant}
    (entry : (typeId, v) ∈ P.definition.entries) (entry' : (typeId', v) ∈ P.definition.entries) :
    typeId = typeId' := by
  have unique : ∀ P ∈ programs, ∀ e ∈ P.definition.entries, ∀ e' ∈ P.definition.entries,
      e.2 = e'.2 → e.1 = e'.1 := by decide +kernel
  exact unique P h _ entry _ entry' rfl

/-- All parameters of a built-in program are fields, but for the flag of one variant. -/
theorem isUnambiguous {P : Program} (h : P ∈ programs) (tagged : P ≠ AssociatedToken.program) :
    ∀ e ∈ P.definition.entries, e.2.form.isUnambiguous := by
  have clear : ∀ P ∈ programs, P ≠ AssociatedToken.program →
      ∀ e ∈ P.definition.entries, e.2.form.isUnambiguous := by decide +kernel
  exact clear P h tagged

end Builtin
end SolanaWire
