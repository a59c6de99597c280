import SolanaWire.Proofs.Regularity

/-!
# Encoding and decoding instructions

An instruction that is made from a payload is encoded, and decoding the result gives the payload
back under its type id, with the accounts that the decoder is given.
-/
namespace SolanaWire
open Outcome

namespace Program

/-- An instruction whose parameters are values of the right types is encoded, and decoding the
data with enough accounts gives its type id and its payload back, with those accounts. -/
theorem decode_data {P : Program} (program : P ∈ Builtin.programs ∨ P.IsRegular) {p : Payload}
    (known : P.definition.contains p.variant) (typed : p.variant.form.admits p.params)
    {accounts : List Account} (enough : p.variant.minAccounts ≤ accounts.length) :
    ∃ i data j, Structured.wrap P p = .ok i ∧ i.data = .ok data ∧
      P.decode accounts data = .ok j ∧ j.program = P ∧ j.typeId = i.typeId ∧
      j.payload.variant = p.variant ∧ j.payload.params = p.params ∧ j.payload.eqv p ∧
      j.payload.accounts = accounts := by
  have regular : P.IsRegular := program.elim Builtin.isRegular (fun regular => regular)
  obtain ⟨typeId, found⟩ := Option.isSome_iff_exists.1 known
  have entry := Definition.mem_entries_of_typeIdOf? found
  have ordinary := regular.ordinary _ entry
  obtain ⟨tag, begins⟩ := regular.isTag entry
  obtain ⟨bytes, hbytes, accepted⟩ := Form.encode_of_admits typed
  have wrapped : Structured.wrap P p = .ok ⟨P, typeId, p⟩ := by
    simp [Structured.wrap, found]
  have written := Structured.data_of_isTag begins ordinary.keepsFeatures hbytes
  have decoded := decode_of_accepts begins entry ordinary enough accepted
  refine ⟨_, _, _, wrapped, written, decoded, rfl, rfl, rfl, rfl, ?_, rfl⟩
  simp [Payload.eqv, Payload.ofRead, Form.eqvItems_self typed]

/-- A vote on two slots with a time before the epoch. -/
theorem decode_data_of_vote :
    let p : Payload :=
      { variant := Vote.vote
        params := [.list [.int 7, .int 0xFFFFFFFFFFFFFFFF], .hash (.ofNat 5), .int (-1)] }
    let accounts : List Account := List.replicate 4 ⟨.ofNat 9, true, false⟩
    Vote.program ∈ Builtin.programs ∧ Vote.program.definition.contains p.variant ∧
      p.variant.form.admits p.params ∧ p.variant.minAccounts ≤ accounts.length ∧
      ∃ i data j, Structured.wrap Vote.program p = .ok i ∧ i.data = .ok data ∧
        Vote.program.decode accounts data = .ok j ∧ j.program = Vote.program ∧
        j.typeId = i.typeId ∧ j.payload.variant = p.variant ∧ j.payload.params = p.params ∧
        j.payload.eqv p ∧ j.payload.accounts = accounts := by
  have program : Vote.program ∈ Builtin.programs := by decide +kernel
  have known : Vote.program.definition.contains Vote.vote := by decide +kernel
  have typed : Vote.vote.form.admits
      [.list [.int 7, .int 0xFFFFFFFFFFFFFFFF], .hash (.ofNat 5), .int (-1)] := by decide +kernel
  exact ⟨program, known, typed, by decide, decode_data (.inl program) known typed (by decide)⟩

end Program
end SolanaWire
