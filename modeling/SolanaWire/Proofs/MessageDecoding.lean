import SolanaWire.Instruction.OfMessage
import SolanaWire.Proofs.Acceptance
import SolanaWire.Proofs.Registration
import SolanaWire.Proofs.Resolution

/-!
# Decoding the instructions of a message

An instruction that does not resolve is not decoded.  One that does is decoded by the program that
it names, if this is built in, and whatever comes of it is about that program.
-/
namespace SolanaWire
open Outcome

/-- The program of the instruction that was to be decoded, where it is known. -/
def MessageFault.program? : MessageFault → Option Key
  | unresolved _ => none
  | rejected program .. => some program

namespace Message

/-- The program that the outcome of decoding is about. -/
def programOfOutcome? : Except MessageFault Instruction → Option Key
  | .ok i => some i.program
  | .error fault => fault.program?

variable {m : Message} {index : Int}

theorem decode_of_resolve_eq_error {r : DecoderRegistry} {fault : IndexFault}
    (failed : m.resolve index = .error fault) :
    m.decode r index = .error (.unresolved fault) := by
  unfold decode
  cases found : m.instructionAt index with
  | error other =>
    simp only [resolve, found, error_bind, Except.error.injEq] at failed
    subst failed
    rfl
  | ok c =>
    rw [failed]
    rfl

theorem decode_of_resolve {r : DecoderRegistry} {c : CompiledInstruction}
    {accounts : List Account} {program : Key} (found : m.instructionAt index = .ok c)
    (resolved : m.resolve index = .ok (accounts, program)) :
    m.decode r index = match r.get? program with
      | none => .ok (.unparsed ⟨program, accounts, c.data⟩)
      | some entry =>
        (entry.decoder accounts c.data).mapError (.rejected program entry.name index) := by
  rw [decode, found, resolved]
  rfl

/-- An instruction of a built-in program is decoded by the program. -/
theorem decodeBuiltin_of_mem {P : Program} (builtin : P ∈ Builtin.programs)
    {c : CompiledInstruction} {accounts : List Account} (found : m.instructionAt index = .ok c)
    (resolved : m.resolve index = .ok (accounts, P.id)) :
    m.decodeBuiltin index = ((P.decode accounts c.data).mapError
      (fun fault => .rejected P.id P.name index (fault.failure P))).map .structured := by
  have known := DecoderRegistry.get?_builtin_eq_some_iff.2 ⟨P, builtin, rfl, rfl⟩
  rw [decodeBuiltin, decode_of_resolve found resolved, known]
  simp only [Program.decoder]
  cases P.decode accounts c.data <;> rfl

/-- What the built-in programs decode resolves.  It is an instruction of the program that it names,
or it is kept unparsed if this is not built in. -/
theorem exists_of_decodeBuiltin {i : Instruction} (decoded : m.decodeBuiltin index = .ok i) :
    ∃ c accounts program, m.instructionAt index = .ok c ∧
      m.resolve index = .ok (accounts, program) ∧
      ((DecoderRegistry.builtin.get? program = none ∧ i = .unparsed ⟨program, accounts, c.data⟩) ∨
        ∃ P ∈ Builtin.programs, P.id = program ∧
          ∃ s, P.decode accounts c.data = .ok s ∧ i = .structured s) := by
  cases resolved : m.resolve index with
  | error fault =>
    rw [decodeBuiltin, decode_of_resolve_eq_error resolved] at decoded
    cases decoded
  | ok pair =>
    obtain ⟨accounts, program⟩ := pair
    obtain ⟨c, found, -, -⟩ := resolve_eq_ok_iff.1 resolved
    refine ⟨c, accounts, program, found, rfl, ?_⟩
    cases known : DecoderRegistry.builtin.get? program with
    | none =>
      rw [decodeBuiltin, decode_of_resolve found resolved, known] at decoded
      exact .inl ⟨rfl, (Except.ok.inj decoded).symm⟩
    | some entry =>
      obtain ⟨P, builtin, rfl, -⟩ := DecoderRegistry.get?_builtin_eq_some_iff.1 known
      rw [decodeBuiltin_of_mem builtin found resolved] at decoded
      cases read : P.decode accounts c.data with
      | error fault =>
        rw [read] at decoded
        cases decoded
      | ok s =>
        rw [read] at decoded
        exact .inr ⟨P, builtin, rfl, s, read, (Except.ok.inj decoded).symm⟩

theorem programOfOutcome?_of_resolve {accounts : List Account} {program : Key}
    (resolved : m.resolve index = .ok (accounts, program)) :
    programOfOutcome? (m.decodeBuiltin index) = some program := by
  obtain ⟨c, found, -, -⟩ := resolve_eq_ok_iff.1 resolved
  cases known : DecoderRegistry.builtin.get? program with
  | none =>
    rw [decodeBuiltin, decode_of_resolve found resolved, known]
    rfl
  | some entry =>
    obtain ⟨P, builtin, rfl, -⟩ := DecoderRegistry.get?_builtin_eq_some_iff.1 known
    rw [decodeBuiltin_of_mem builtin found resolved]
    cases decoded : P.decode accounts c.data with
    | error fault => rfl
    | ok i =>
      obtain ⟨rfl, -⟩ := (Builtin.isRegular builtin).entry_of_decode decoded
      rfl

end Message

end SolanaWire
