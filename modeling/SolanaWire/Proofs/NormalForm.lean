import SolanaWire.Proofs.Acceptance

/-!
# Normal forms

Data that has been decoded need not be written again as it was: what follows the parameters is
dropped, every set flag becomes one, and the flag of the only variant without a type id is left
away where it is clear.  What is written is a normal form of the data, since it is decoded to the
same instruction.
-/
namespace SolanaWire
open Outcome

@[simp] theorem length_canonicalOf (cells : List Cell) :
    (canonicalOf cells).length = (bytesOf cells).length := by
  simp [canonicalOf, bytesOf]

theorem Cell.canonical_eq_byte_iff {c : Cell} :
    c.canonical = c.byte ↔ (c.isFlag → c.byte = 0 ∨ c.byte = 1) := by
  unfold canonical
  by_cases set : c.isFlag ∧ c.byte ≠ 0
  · rw [if_pos set]
    simp [set.1, set.2, eq_comm]
  · rw [if_neg set]
    simp only [true_iff]
    intro flag
    left
    exact Decidable.not_not.1 (fun other => set ⟨flag, other⟩)

theorem canonicalOf_eq_bytesOf_iff {cells : List Cell} :
    canonicalOf cells = bytesOf cells ↔
      ∀ c ∈ cells, c.isFlag → c.byte = 0 ∨ c.byte = 1 := by
  simp only [canonicalOf, bytesOf, List.map_inj_left, Cell.canonical_eq_byte_iff]

/-- A wire form stays as it is if nothing follows it and every set flag is one. -/
theorem append_canonicalOf_eq_iff {tag rest : List UInt8} {cells : List Cell} :
    tag ++ canonicalOf cells = tag ++ bytesOf cells ++ rest ↔
      rest = [] ∧ ∀ c ∈ cells, c.isFlag → c.byte = 0 ∨ c.byte = 1 := by
  rw [List.append_assoc, List.append_cancel_left_eq, ← canonicalOf_eq_bytesOf_iff]
  constructor
  · intro same
    have lengths := congrArg List.length same
    rw [length_canonicalOf, List.length_append] at lengths
    have nothing : rest = [] := List.eq_nil_of_length_eq_zero (by omega)
    rw [nothing, List.append_nil] at same
    exact ⟨nothing, same⟩
  · rintro ⟨rfl, same⟩
    rw [same, List.append_nil]

namespace Program

/-- The data of a decoded instruction is decoded to the same instruction. -/
theorem IsRegular.decode_data_of_decode {P : Program} (h : P.IsRegular) {accounts : List Account}
    {data : List UInt8} {i : Structured} (decoded : P.decode accounts data = .ok i) :
    ∃ out, i.data = .ok out ∧ P.decode accounts out = .ok i ∧ i.eqv i := by
  obtain ⟨begins, rfl, entry, enough, accepted⟩ := h.decode_eq_ok_iff.1 decoded
  have ordinary := h.ordinary _ entry
  have typed := accepted.admits
  obtain ⟨out, written, again⟩ := Form.encode_of_admits typed
  refine ⟨_, ?_, decode_of_accepts begins entry ordinary enough again, ?_⟩
  · exact Structured.data_of_isTag begins ordinary.keepsFeatures written
  · simp [Structured.eqv, Payload.eqv, Payload.ofRead, Form.eqvItems_self typed]

/-- If all parameters are fields, what is written is the data up to the end of the parameters, with
each set flag made one. -/
theorem IsRegular.data_of_decode {P : Program} (h : P.IsRegular)
    (unambiguous : ∀ e ∈ P.definition.entries, e.2.form.isUnambiguous) {accounts : List Account}
    {data : List UInt8} {i : Structured} (decoded : P.decode accounts data = .ok i) :
    ∃ tag cells rest, P.Spells i.typeId i.payload.variant i.payload.params tag cells ∧
      data = tag ++ bytesOf cells ++ rest ∧ i.data = .ok (tag ++ canonicalOf cells) := by
  obtain ⟨typeId, v, params, ⟨tag, cells, rest, spells, whole⟩, enough, rfl⟩ :=
    (h.decode_eq_ok_iff_means unambiguous).1 decoded
  have ordinary := h.ordinary _ spells.entry
  have written := (spells.encode (unambiguous _ spells.entry)).2
  exact ⟨tag, cells, rest, spells, whole,
    Structured.data_of_isTag spells.begins ordinary.keepsFeatures written⟩

end Program

/-- The flag of the only variant is written if it is set. -/
theorem AssociatedToken.data_of_decode {accounts : List Account} {data : List UInt8}
    {i : Structured} (decoded : program.decode accounts data = .ok i) :
    i.data = .ok (if data = [0] then [] else data) := by
  obtain ⟨spelled, enough, rfl⟩ := decode_eq_ok_iff.1 decoded
  simp only [List.mem_cons, List.not_mem_nil, or_false] at spelled
  rcases spelled with rfl | rfl | rfl <;> rfl

/-- What a built-in program has decoded is written in a normal form, which is decoded to the same
instruction and is no longer than the data was.  It differs from the data in what followed the
parameters and in the bytes of set flags alone. -/
theorem Builtin.data_normal {P : Program} (builtin : P ∈ Builtin.programs)
    {accounts : List Account} {data : List UInt8} {i : Structured}
    (decoded : P.decode accounts data = .ok i) :
    ∃ out, i.data = .ok out ∧ P.decode accounts out = .ok i ∧ i.eqv i ∧
      out.length ≤ data.length ∧
      (P ≠ AssociatedToken.program → ∃ tag cells rest,
        P.Spells i.typeId i.payload.variant i.payload.params tag cells ∧
        data = tag ++ bytesOf cells ++ rest ∧ out = tag ++ canonicalOf cells ∧
        (out = data ↔ rest = [] ∧ ∀ c ∈ cells, c.isFlag → c.byte = 0 ∨ c.byte = 1)) ∧
      (P = AssociatedToken.program → (out = data ↔ data ≠ [0])) := by
  have regular := Builtin.isRegular builtin
  obtain ⟨out, written, again, same⟩ := regular.decode_data_of_decode decoded
  refine ⟨out, written, again, same, ?_⟩
  by_cases tagged : P = AssociatedToken.program
  · subst tagged
    have shown := AssociatedToken.data_of_decode decoded
    rw [written, Except.ok.injEq] at shown
    subst shown
    refine ⟨?_, fun other => absurd rfl other, fun _ => ?_⟩
    · split <;> simp
    · by_cases zero : data = [0] <;> simp [zero]
  · obtain ⟨tag, cells, rest, spells, rfl, shown⟩ :=
      regular.data_of_decode (Builtin.isUnambiguous builtin tagged) decoded
    rw [written, Except.ok.injEq] at shown
    subst shown
    refine ⟨?_, fun _ => ?_, fun untagged => absurd untagged tagged⟩
    · simp only [List.length_append, length_canonicalOf]
      omega
    · exact ⟨tag, cells, rest, spells, rfl, rfl, append_canonicalOf_eq_iff⟩

/-- A change of an authority, with a flag that is set by five and one byte too many. -/
theorem Builtin.data_normal_of_authority :
    let data : List UInt8 := [6, 1, 5] ++ List.replicate 32 7 ++ [9]
    let accounts : List Account := List.replicate 2 ⟨.ofNat 9, true, false⟩
    Token.program ∈ Builtin.programs ∧ ∃ i out, Token.program.decode accounts data = .ok i ∧
      i.data = .ok out ∧ Token.program.decode accounts out = .ok i ∧ i.eqv i ∧
      out.length ≤ data.length := by
  intro data accounts
  have builtin : Token.program ∈ Builtin.programs := by decide +kernel
  obtain ⟨i, decoded⟩ : ∃ i, Token.program.decode accounts data = .ok i :=
    eq_ok_of_toBool (by decide +kernel)
  obtain ⟨out, written, again, same, shorter, -⟩ := Builtin.data_normal builtin decoded
  exact ⟨builtin, i, out, decoded, written, again, same, shorter⟩

end SolanaWire
