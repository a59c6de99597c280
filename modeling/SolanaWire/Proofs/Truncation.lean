import SolanaWire.Proofs.NormalForm

/-!
# Cut and continued data

What follows the parameters of an instruction does not change it.  Data that is cut off within them
is therefore refused: as an instruction it would be the same one, and an instruction is never
written with more bytes than it is read from.
-/
namespace SolanaWire
open Outcome

namespace Program

variable {P : Program} {accounts : List Account} {data : List UInt8} {i : Structured}

/-- The meaning of data does not depend on what follows it. -/
theorem Means.append {typeId : Int} {v : Variant} {params : List Value}
    (h : P.Means data typeId v params) (extra : List UInt8) :
    P.Means (data ++ extra) typeId v params := by
  obtain ⟨tag, cells, rest, spells, whole⟩ := h
  exact ⟨tag, cells, rest ++ extra, spells, by simp [whole]⟩

/-- An instruction is decoded from all data that continues its own. -/
theorem IsRegular.decode_append (h : P.IsRegular)
    (unambiguous : ∀ e ∈ P.definition.entries, e.2.form.isUnambiguous)
    (decoded : P.decode accounts data = .ok i) (extra : List UInt8) :
    P.decode accounts (data ++ extra) = .ok i := by
  rw [h.decode_eq_ok_iff_means unambiguous] at decoded ⊢
  obtain ⟨typeId, v, params, means, enough, same⟩ := decoded
  exact ⟨typeId, v, params, means.append extra, enough, same⟩

/-- As many bytes as an instruction is written with are enough to decode it. -/
theorem IsRegular.decode_take_length (h : P.IsRegular)
    (unambiguous : ∀ e ∈ P.definition.entries, e.2.form.isUnambiguous)
    (decoded : P.decode accounts data = .ok i) {out : List UInt8} (written : i.data = .ok out) :
    out.length ≤ data.length ∧ P.decode accounts (data.take out.length) = .ok i := by
  obtain ⟨tag, cells, rest, spells, rfl, shown⟩ := h.data_of_decode unambiguous decoded
  rw [written, Except.ok.injEq] at shown
  have length : out.length = (tag ++ bytesOf cells).length := by simp [shown]
  obtain ⟨typeId, v, params, means, enough, rfl⟩ :=
    (h.decode_eq_ok_iff_means unambiguous).1 decoded
  refine ⟨by simp [length], ?_⟩
  rw [length, List.take_left, h.decode_eq_ok_iff_means unambiguous]
  exact ⟨_, _, _, ⟨tag, cells, [], spells, by simp⟩, enough, rfl⟩

/-- Fewer bytes than an instruction is written with are not decoded. -/
theorem IsRegular.refuses_take (h : P.IsRegular)
    (unambiguous : ∀ e ∈ P.definition.entries, e.2.form.isUnambiguous)
    (decoded : P.decode accounts data = .ok i) {out : List UInt8} (written : i.data = .ok out)
    {k : Nat} (short : k < out.length) :
    ∃ fault, P.decode accounts (data.take k) = .error fault ∧
      P.Refuses accounts (data.take k) fault := by
  rcases h.decode_cases accounts (data.take k) with refused | ⟨j, other, -⟩
  · exact refused
  · -- The part and the whole would be data of one instruction.
    have whole := h.decode_append unambiguous other (data.drop k)
    rw [List.take_append_drop, decoded, Except.ok.injEq] at whole
    subst whole
    have longer := (h.decode_take_length unambiguous other written).1
    have part := List.length_take_le k data
    omega

/-- What cut data lacks is a part of its type id or of its parameters: it is not taken for another
instruction. -/
theorem IsRegular.fault_of_refuses_take (h : P.IsRegular)
    (decoded : P.decode accounts data = .ok i) {k : Nat} {fault : DecodeFault}
    (refused : P.Refuses accounts (data.take k) fault) :
    fault = .tooShort (data.take k).length P.definition.tagWidth ∨
      ∃ reason, fault = .malformed i.payload.variant.name reason := by
  obtain ⟨begins, whole, entry, enough, -⟩ := h.decode_eq_ok_iff.1 decoded
  have continued {front bytes : List UInt8} (part : data.take k = front ++ bytes) :
      data = front ++ (bytes ++ data.drop k) := by
    rw [← List.append_assoc, ← part, List.take_append_drop]
  cases refused with
  | tooShort => exact .inl rfl
  | unknownTypeId begins' part unknown =>
    obtain ⟨rfl, -⟩ := begins.unique begins' (whole.symm.trans (continued part))
    exact absurd entry (unknown _)
  | tooFewAccounts begins' part entry' few =>
    obtain ⟨-, rfl, -⟩ :=
      entry_unique begins entry begins' entry' (whole.symm.trans (continued part))
    omega
  | malformed begins' part entry' =>
    obtain ⟨-, rfl, -⟩ :=
      entry_unique begins entry begins' entry' (whole.symm.trans (continued part))
    exact .inr ⟨_, rfl⟩

end Program

/-- The instructions of a program with type ids are self-delimiting.  An instruction is decoded from
as many bytes as it is written with, whatever follows them, and from no fewer: data that is cut off
before is refused with a report, as lacking a part of its type id or of its parameters. -/
theorem Builtin.self_delimiting {P : Program} (builtin : P ∈ programs)
    (tagged : P.definition.tag ≠ none) {accounts : List Account} {data : List UInt8}
    {i : Structured} (decoded : P.decode accounts data = .ok i) :
    ∃ out, i.data = .ok out ∧ out.length ≤ data.length ∧ i.eqv i ∧
      (∀ k < out.length, ∃ fault, P.decode accounts (data.take k) = .error fault ∧
        (fault = .tooShort k P.definition.tagWidth ∨
          ∃ reason, fault = .malformed i.payload.variant.name reason) ∧
        ∃ details, (fault.failure P).fault =
          .reported ⟨.instructionDecode (.key P.id) .null, fault.message P, details⟩) ∧
      ∀ extra, P.decode accounts (data.take out.length ++ extra) = .ok i := by
  have regular := Builtin.isRegular builtin
  have unambiguous := Builtin.isUnambiguous builtin (fun same => tagged (by rw [same]; rfl))
  obtain ⟨out, written, -, same⟩ := regular.decode_data_of_decode decoded
  obtain ⟨length, part⟩ := regular.decode_take_length unambiguous decoded written
  refine ⟨out, written, length, same, fun k short => ?_, ?_⟩
  · obtain ⟨fault, failed, refused⟩ := regular.refuses_take unambiguous decoded written short
    have lacking := regular.fault_of_refuses_take decoded refused
    rw [List.length_take_of_le (by omega)] at lacking
    exact ⟨fault, failed, lacking, refused.failure⟩
  · exact regular.decode_append unambiguous part

/-- A vote for one slot, with a time whose flag is set by seven, and two bytes too many.  Cut within
the time it is refused, and it may go on with other bytes. -/
theorem Builtin.self_delimiting_of_vote :
    let data : List UInt8 := [2, 0, 0, 0, 1, 0, 0, 0, 0, 0, 0, 0] ++ List.replicate 8 5 ++
      List.replicate 32 9 ++ [7] ++ List.replicate 8 255 ++ [1, 2]
    let accounts : List Account := List.replicate 4 ⟨.ofNat 9, true, false⟩
    Vote.program ∈ Builtin.programs ∧ Vote.program.definition.tag ≠ none ∧
      ∃ i, Vote.program.decode accounts data = .ok i ∧
        (∃ fault, Vote.program.decode accounts (data.take 60) = .error fault) ∧
        Vote.program.decode accounts (data.take 61 ++ [3]) = .ok i := by
  intro data accounts
  have builtin : Vote.program ∈ Builtin.programs := by decide +kernel
  have tagged : Vote.program.definition.tag ≠ none := by decide
  obtain ⟨i, decoded⟩ : ∃ i, Vote.program.decode accounts data = .ok i :=
    eq_ok_of_toBool (by decide +kernel)
  obtain ⟨out, written, -, -, cut, continued⟩ := Builtin.self_delimiting builtin tagged decoded
  have length : out.length = 61 := by
    have computed : ((Vote.program.decode accounts data).toOption.bind (·.data.toOption)).map
        List.length = some 61 := by decide +kernel
    simpa [decoded, written, Except.toOption] using computed
  obtain ⟨fault, failed, -⟩ := cut 60 (by omega)
  rw [length] at continued
  exact ⟨builtin, tagged, i, decoded, ⟨fault, failed⟩, continued [3]⟩

end SolanaWire
