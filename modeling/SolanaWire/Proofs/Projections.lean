import Mathlib.Data.List.Nodup
import SolanaWire.Instruction.Projection
import SolanaWire.Proofs.NormalForm
import SolanaWire.Proofs.TypedDecoding

/-!
# Projections and typed decoders

A projection looks at the program and the variant of an instruction that has been decoded.  A typed
decoder starts from the message again, and looks at the program's id, at the type id and at the
variant.  They agree: a projection gives what one of the typed decoders of its programs gives.  No
two projections ask for the same variant, so an instruction passes at most one of them.
-/
namespace SolanaWire
open Outcome

/-- The typed decoder of a variant of a program gives a payload for the instruction at a position.
-/
def Program.Yields (P : Program) (v : Variant) (m : Message) (index : Int) (p : Payload) : Prop :=
  ∃ d, TypedDecoder.make P.id P v = .ok d ∧ d.decode m index = .ok p

/-- There is a typed decoder for every variant of a program. -/
theorem TypedDecoder.exists_make {P : Program} {v : Variant} (known : P.definition.contains v) :
    ∃ d, make P.id P v = .ok d := by
  obtain ⟨typeId, own⟩ := Option.isSome_iff_exists.1 known
  have found : (choose P none).typeIdOf? v = some typeId := own
  obtain ⟨d, made, -⟩ := exists_make_of_typeIdOf? P.id found
  exact ⟨d, made⟩

variable {m : Message} {index : Int}

theorem Program.yields_iff {P : Program} {v : Variant} (builtin : P ∈ Builtin.programs)
    (known : P.definition.contains v) {p : Payload} :
    P.Yields v m index p ↔ ∃ i, m.decodeBuiltin index = .ok (.structured i) ∧ i.program = P ∧
      i.payload.variant = v ∧ p = i.payload := by
  constructor
  · rintro ⟨d, made, decoded⟩
    exact (TypedDecoder.decode_eq_ok_iff builtin made).1 decoded
  · intro payload
    obtain ⟨d, made⟩ := TypedDecoder.exists_make known
    exact ⟨d, made, (TypedDecoder.decode_eq_ok_iff builtin made).2 payload⟩

namespace Instruction

theorem project?_eq_some_iff {programs : List Program} {v : Variant} {i : Instruction}
    {p : Payload} :
    project? programs v i = some p ↔ ∃ s, i = .structured s ∧ s.program ∈ programs ∧
      s.payload.variant = v ∧ p = s.payload := by
  cases i with
  | structured s =>
    by_cases h : s.program ∈ programs ∧ s.payload.variant = v
    · simp [project?, h, eq_comm]
    · simp only [project?, if_neg h, structured.injEq]
      constructor
      · intro absurd
        cases absurd
      · rintro ⟨_, rfl, member, variant, -⟩
        exact (h ⟨member, variant⟩).elim
  | unparsed u => simp [project?]

/-- A projection gives what one of the typed decoders of its programs gives. -/
theorem project?_eq_some_iff_yields {programs : List Program} {v : Variant}
    (builtin : ∀ P ∈ programs, P ∈ Builtin.programs ∧ P.definition.contains v) {i : Instruction}
    (decoded : m.decodeBuiltin index = .ok i) {p : Payload} :
    project? programs v i = some p ↔ ∃ P ∈ programs, P.Yields v m index p := by
  rw [project?_eq_some_iff]
  constructor
  · rintro ⟨s, rfl, member, variant, rfl⟩
    obtain ⟨known, contained⟩ := builtin _ member
    exact ⟨s.program, member, (Program.yields_iff known contained).2 ⟨s, decoded, rfl, variant, rfl⟩⟩
  · rintro ⟨P, member, yields⟩
    obtain ⟨known, contained⟩ := builtin P member
    obtain ⟨s, again, rfl, variant, rfl⟩ := (Program.yields_iff known contained).1 yields
    rw [decoded, Except.ok.injEq] at again
    exact ⟨s, again, member, variant, rfl⟩

/-- What the projections ask for: some programs, and a variant of theirs. -/
def wanted : List (List Program × Variant) :=
  [(tokenPrograms, Token.transfer), (tokenPrograms, Token.transferChecked),
    (tokenPrograms, Token.closeAccount), ([SystemProgram.program], SystemProgram.transfer),
    ([AssociatedToken.program], AssociatedToken.create)]

theorem projections_eq : projections = wanted.map (fun w => project? w.1 w.2) := rfl

/-- Also the two transfers are different variants. -/
theorem nodup_wanted : (wanted.map (·.2)).Nodup := by decide

theorem builtin_of_mem_wanted {w : List Program × Variant} (member : w ∈ wanted) :
    ∀ P ∈ w.1, P ∈ Builtin.programs ∧ P.definition.contains w.2 := by
  have each : ∀ w ∈ wanted, ∀ P ∈ w.1, P ∈ Builtin.programs ∧ P.definition.contains w.2 := by
    decide +kernel
  exact each w member

theorem eq_none_of_unparsed {f : Instruction → Option Payload} (member : f ∈ projections)
    (u : Unparsed) : f (unparsed u) = none := by
  rw [projections_eq, List.mem_map] at member
  obtain ⟨w, -, rfl⟩ := member
  rfl

/-- An instruction passes at most one projection. -/
theorem countP_projections_le_one (i : Instruction) :
    projections.countP (fun f => (f i).isSome) ≤ 1 := by
  cases i with
  | unparsed u =>
    have none : projections.countP (fun f => (f (unparsed u)).isSome) = 0 :=
      List.countP_eq_zero.2 (fun f member => by simp [eq_none_of_unparsed member u])
    omega
  | structured s =>
    -- Those that it passes ask for its variant, and there is one at most that does.
    rw [projections_eq, List.countP_map]
    calc wanted.countP _
      _ ≤ wanted.countP (fun w => w.2 == s.payload.variant) := by
        apply List.countP_mono_left
        intro w _ passed
        obtain ⟨p, given⟩ := Option.isSome_iff_exists.1 passed
        obtain ⟨_, same, -, variant, -⟩ := project?_eq_some_iff.1 given
        cases same
        simp [variant]
      _ = (wanted.map (·.2)).count s.payload.variant := by
        rw [List.count, List.countP_map]
        rfl
      _ ≤ 1 := List.nodup_iff_count_le_one.1 nodup_wanted _

end Instruction

/-- A payload that has been decoded equals itself. -/
theorem Message.eqv_self_of_decodeBuiltin {i : Structured}
    (decoded : m.decodeBuiltin index = .ok (.structured i)) : i.payload.eqv i.payload := by
  obtain ⟨c, accounts, program, -, -, outcome⟩ := exists_of_decodeBuiltin decoded
  rcases outcome with ⟨-, same⟩ | ⟨P, builtin, -, s, read, same⟩
  · cases same
  · cases same
    obtain ⟨out, -, -, equal⟩ := (Builtin.isRegular builtin).decode_data_of_decode read
    simp only [Structured.eqv, Bool.and_eq_true] at equal
    exact equal.1.2

/-- The projections of an instruction that the built-in programs have decoded give what the typed
decoders give for it: those of tokens what the decoder of either token program gives.  At most one
of them gives a payload, and none does for an instruction that is kept unparsed. -/
theorem Message.projections_agree {i : Instruction} (decoded : m.decodeBuiltin index = .ok i) :
    (∀ p, i.tokenTransfer? = some p ↔ Token.program.Yields Token.transfer m index p ∨
      Token.program2022.Yields Token.transfer m index p) ∧
    (∀ p, i.tokenTransferChecked? = some p ↔
      Token.program.Yields Token.transferChecked m index p ∨
        Token.program2022.Yields Token.transferChecked m index p) ∧
    (∀ p, i.tokenAccountClosing? = some p ↔ Token.program.Yields Token.closeAccount m index p ∨
      Token.program2022.Yields Token.closeAccount m index p) ∧
    (∀ p, i.lamportTransfer? = some p ↔
      SystemProgram.program.Yields SystemProgram.transfer m index p) ∧
    (∀ p, i.associatedAccountCreation? = some p ↔
      AssociatedToken.program.Yields AssociatedToken.create m index p) ∧
    (∀ f ∈ Instruction.projections, ∀ p, f i = some p → p.eqv p) ∧
    Instruction.projections.countP (fun f => (f i).isSome) ≤ 1 ∧
    ((∃ u, i = .unparsed u) → ∀ f ∈ Instruction.projections, f i = none) := by
  have agrees {programs : List Program} {v : Variant}
      (member : (programs, v) ∈ Instruction.wanted) (p : Payload) :
      Instruction.project? programs v i = some p ↔ ∃ P ∈ programs, P.Yields v m index p :=
    Instruction.project?_eq_some_iff_yields (Instruction.builtin_of_mem_wanted member) decoded
  have tokens {v : Variant} (member : (Instruction.tokenPrograms, v) ∈ Instruction.wanted)
      (p : Payload) : Instruction.project? Instruction.tokenPrograms v i = some p ↔
        Token.program.Yields v m index p ∨ Token.program2022.Yields v m index p := by
    rw [agrees member]
    simp [Instruction.tokenPrograms]
  have only {P : Program} {v : Variant} (member : ([P], v) ∈ Instruction.wanted) (p : Payload) :
      Instruction.project? [P] v i = some p ↔ P.Yields v m index p := by
    rw [agrees member]
    simp
  refine ⟨tokens (by simp [Instruction.wanted]), tokens (by simp [Instruction.wanted]),
    tokens (by simp [Instruction.wanted]), only (by simp [Instruction.wanted]),
    only (by simp [Instruction.wanted]), ?_, i.countP_projections_le_one, ?_⟩
  · intro f member p given
    rw [Instruction.projections_eq, List.mem_map] at member
    obtain ⟨w, -, rfl⟩ := member
    obtain ⟨s, rfl, -, -, rfl⟩ := Instruction.project?_eq_some_iff.1 given
    exact eqv_self_of_decodeBuiltin decoded
  · rintro ⟨u, rfl⟩ f member
    exact Instruction.eq_none_of_unparsed member u

/-- A transfer of tokens of the newer program, with a signer after the owner. -/
theorem Message.projections_agree_of_token2022 :
    let m : Message := ⟨[.ofNat 1, .ofNat 2, .ofNat 3, .ofNat 4, Token.program2022.id], ⟨1, 0, 1⟩,
      [⟨4, [1, 2, 0, 3], [3, 9, 0, 0, 0, 0, 0, 0, 0, 1]⟩]⟩
    ∃ i p, m.decodeBuiltin 0 = .ok i ∧ i.tokenTransfer? = some p ∧
      (Token.program.Yields Token.transfer m 0 p ∨ Token.program2022.Yields Token.transfer m 0 p) ∧
      ∀ q, ¬ SystemProgram.program.Yields SystemProgram.transfer m 0 q := by
  intro m
  obtain ⟨i, decoded⟩ : ∃ i, m.decodeBuiltin 0 = .ok i := eq_ok_of_toBool (by decide +kernel)
  have computed : (m.decodeBuiltin 0).toOption.any
      (fun i => i.tokenTransfer?.isSome && i.lamportTransfer?.isNone) := by decide +kernel
  simp only [decoded, Except.toOption, Option.any_some, Bool.and_eq_true] at computed
  obtain ⟨p, given⟩ := Option.isSome_iff_exists.1 computed.1
  obtain ⟨tokens, -, -, lamports, -⟩ := projections_agree decoded
  refine ⟨i, p, decoded, given, (tokens p).1 given, fun q yields => ?_⟩
  simp [(lamports q).2 yields] at computed

end SolanaWire
