import SolanaWire.Instruction.Typed
import SolanaWire.Proofs.MessageDecoding

/-!
# Typed decoding

A typed decoder repeats what decoding does, and asks on the way whether the instruction is of its
program and of its variant.  Its answer is therefore known once the outcome of decoding is: a fault
of resolution is told apart by its kind, another program is refused whatever its decoder says, and
only then the data and the variant are looked at.  The failures are compared as they are seen from
outside, by what they report and by what led to them.
-/
namespace SolanaWire
open Outcome

namespace IndexFault

variable {fault : IndexFault}

theorem explained_of_isWritable (short : Numeral.IsWritable fault.index)
    (explain : String → Report) :
    ∃ message, fault.explained explain = .because (explain message) fault.failure := by
  obtain ⟨message, reported⟩ := exists_report short
  exact ⟨_, by rw [explained, failure, reported]⟩

theorem explained_of_not_isWritable (long : ¬ Numeral.IsWritable fault.index)
    (explain : String → Report) : fault.explained explain = integerTooLong := by
  rw [explained, report_of_not_isWritable long]

end IndexFault

/-- A refusal is reported with the program and the position, and with the same cause, by decoding
and by a typed decoder. -/
theorem Program.Refuses.reported {P : Program} {accounts : List Account} {data : List UInt8}
    {fault : DecodeFault} (h : P.Refuses accounts data fault) (name : String) (index : Int) :
    ∃ report report' : Report,
      (MessageFault.rejected P.id name index (fault.failure P)).failure =
        .because report (fault.failure P) ∧
      (TypedFault.malformed index P.id P fault).failure = .because report' (fault.failure P) ∧
      report.facts = .instructionDecode (.key P.id) (.int index) ∧
      report'.facts = .instructionDecode (.key P.id) (.int index) := by
  cases h <;> exact ⟨_, _, rfl, rfl, rfl, rfl⟩

/-- The failure reports an index outside its table, which was meant for something. -/
def Failure.MissesIndex (f : Failure) (kind : IndexKind) : Prop :=
  ∃ (index : Int) (length : Nat),
    f.facts? = some (.indexOutOfRange (.text kind.text) (.int index) (.int length))

theorem IndexKind.text_injective : Function.Injective IndexKind.text := by
  intro kind kind'
  cases kind <;> cases kind' <;> decide

theorem Failure.MissesIndex.kind_eq {f : Failure} {kind kind' : IndexKind}
    (h : f.MissesIndex kind) {position length : Value}
    (facts' : f.facts? = some (.indexOutOfRange (.text kind'.text) position length)) :
    kind = kind' := by
  obtain ⟨_, _, facts⟩ := h
  rw [facts, Option.some.injEq, Facts.indexOutOfRange.injEq, Value.text.injEq] at facts'
  exact IndexKind.text_injective facts'.1

theorem IndexFault.missesIndex {fault : IndexFault} (short : Numeral.IsWritable fault.index) :
    fault.failure.MissesIndex fault.kind := by
  obtain ⟨r, failure, facts⟩ := failure_eq_report short
  exact ⟨_, _, by rw [failure, Failure.facts?_report, facts]⟩

namespace TypedDecoder

theorem make_eq_ok {expected : Key} {P : Program} {v : Variant} {d : TypedDecoder}
    (made : make expected P v = .ok d) :
    d.expectedProgram = expected ∧ d.program = P ∧ d.variant = v ∧ d.definition = P.definition := by
  unfold make at made
  split at made
  · cases made
    exact ⟨rfl, rfl, rfl, rfl⟩
  · cases made

/-- There is a decoder for every variant that the chosen definition contains. -/
theorem exists_make_of_typeIdOf? {P : Program} {definition : Option Definition} {v : Variant}
    {typeId : Int} (expected : Key) (found : (choose P definition).typeIdOf? v = some typeId) :
    ∃ d, make expected P v definition = .ok d ∧ d.expectedProgram = expected ∧ d.program = P ∧
      d.variant = v ∧ d.definition = choose P definition ∧ d.typeId = typeId := by
  unfold make
  split
  · rename_i other same
    rw [found, Option.some.injEq] at same
    exact ⟨_, rfl, rfl, rfl, rfl, rfl, same.symm⟩
  · rename_i missing
    rw [found] at missing
    cases missing

/-- What a typed decoder reports about an instruction where an index outside its table was meant for
something.  That there is no instruction is not explained. -/
def explanation? (instruction : Int) : IndexKind → Option Facts
  | .instruction => none
  | .account => some (.accountResolution (.int instruction))
  | .programId => some (.programIdResolution (.int instruction))

/-- How the answer of the decoder of a variant follows from the outcome of decoding and from the
program that this is about. -/
inductive Agrees (P : Program) (v : Variant) (index : Int) :
    Option Key → Except Failure Instruction → Except Failure Payload → Prop
  | overlong : Agrees P v index none (.error integerTooLong) (.error integerTooLong)
  | noInstruction {f : Failure} {length : Nat} (facts :
        f.facts? = some (.indexOutOfRange (.text "instruction") (.int index) (.int length))) :
      Agrees P v index none (.error f) (.error f)
  | explained {kind : IndexKind} {cause : Failure} {r : Report} (missing : cause.MissesIndex kind)
      (given : explanation? index kind = some r.facts) :
      Agrees P v index none (.error cause) (.error (.because r cause))
  | otherInstruction {i : Instruction} {r : Report} (other : i.program ≠ P.id)
      (facts : r.facts = .programIdMismatch (.int index) (.key i.program) (.key P.id)) :
      Agrees P v index (some i.program) (.ok i) (.error (.report r))
  | otherData {found : Key} {position : Value} {cause : Failure} {r r' : Report}
      (other : found ≠ P.id) (facts : r.facts = .instructionDecode (.key found) position)
      (facts' : r'.facts = .programIdMismatch (.int index) (.key found) (.key P.id)) :
      Agrees P v index (some found) (.error (.because r cause)) (.error (.report r'))
  | malformed {cause : Failure} {r r' : Report}
      (facts : r.facts = .instructionDecode (.key P.id) (.int index))
      (facts' : r'.facts = .instructionDecode (.key P.id) (.int index)) :
      Agrees P v index (some P.id) (.error (.because r cause)) (.error (.because r' cause))
  | otherVariant {i : Structured} {r : Report} (program : i.program = P)
      (other : i.payload.variant ≠ v)
      (facts : r.facts = .typeMismatch (.int index) (.text i.payload.variant.name) (.text v.name)) :
      Agrees P v index (some P.id) (.ok (.structured i)) (.error (.report r))
  | payload {i : Structured} (program : i.program = P) (variant : i.payload.variant = v) :
      Agrees P v index (some P.id) (.ok (.structured i)) (.ok i.payload)

section

variable {P : Program} {v : Variant} {index : Int} {fault : IndexFault}

theorem agrees_noInstruction {m : Message} (missing : m.instructionAt index = .error fault) :
    Agrees P v index none (.error (MessageFault.unresolved fault).failure)
      (.error (TypedFault.noInstruction fault).failure) := by
  obtain ⟨-, rfl⟩ := itemAt_eq_error_iff.1 missing
  rw [MessageFault.failure, TypedFault.failure]
  by_cases short : Numeral.IsWritable index
  · obtain ⟨r, failure, facts⟩ :
        ∃ r, (IndexFault.mk .instruction index m.instructions.length).failure = .report r ∧ _ :=
      IndexFault.failure_eq_report short
    rw [failure]
    exact .noInstruction (congrArg some facts)
  · rw [IndexFault.failure_of_not_isWritable short]
    exact .overlong

theorem agrees_explained {explain : String → Report}
    (given : ∀ message, explanation? index fault.kind = some (explain message).facts) :
    Agrees P v index none (.error fault.failure) (.error (fault.explained explain)) := by
  by_cases short : Numeral.IsWritable fault.index
  · obtain ⟨message, explained⟩ := IndexFault.explained_of_isWritable short explain
    rw [explained]
    exact .explained (IndexFault.missesIndex short) (given message)
  · rw [IndexFault.failure_of_not_isWritable short, IndexFault.explained_of_not_isWritable short]
    exact .overlong

/-- Another program is refused, whether its data is understood or not. -/
theorem agrees_otherProgram {outcome : Except MessageFault Instruction} {found : Key}
    (about : Message.programOfOutcome? outcome = some found) (other : found ≠ P.id) :
    Agrees P v index (some found) (outcome.mapError MessageFault.failure)
      (.error (TypedFault.otherProgram index found P.id).failure) := by
  cases outcome with
  | ok i =>
    cases about
    exact .otherInstruction other rfl
  | error fault =>
    cases fault with
    | unresolved fault => cases about
    | rejected program name position cause =>
      cases about
      exact .otherData other rfl rfl

theorem agrees_malformed {accounts : List Account} {data : List UInt8} {fault : DecodeFault}
    (refused : P.Refuses accounts data fault) (index : Int) :
    Agrees P v index (some P.id)
      (.error (MessageFault.rejected P.id P.name index (fault.failure P)).failure)
      (.error (TypedFault.malformed index P.id P fault).failure) := by
  obtain ⟨r, r', failure, failure', facts, facts'⟩ := refused.reported P.name index
  rw [failure, failure']
  exact .malformed facts facts'

end

theorem decode_of_programAt {d : TypedDecoder} {m : Message} {index : Int}
    {c : CompiledInstruction} {accounts : List Account} {program : Key}
    (found : m.instructionAt index = .ok c) (resolved : m.accountsOf c = .ok accounts)
    (known : m.programAt c.programIndex = .ok program) :
    d.decode m index =
      if program ≠ d.expectedProgram then .error (.otherProgram index program d.expectedProgram)
      else (d.program.decode accounts c.data).mapError (.malformed index program d.program) >>=
        fun i => if i.typeId = d.typeId ∧ i.payload.variant = d.variant then .ok i.payload
          else .error (.otherVariant index
            ((d.definition.nameOf? i.typeId).getD i.payload.variant.name) d.variant.name) := by
  rw [decode, found, mapError_ok, ok_bind, resolved, mapError_ok, ok_bind, known, mapError_ok,
    ok_bind]
  by_cases other : program ≠ d.expectedProgram
  · rw [if_pos other, if_pos other]
    rfl
  · rw [if_neg other, if_neg other]
    rfl

/-- Instructions of the decoder's program are told apart by their variants. -/
theorem decode_of_programAt_id {P : Program} (builtin : P ∈ Builtin.programs) {v : Variant}
    {d : TypedDecoder} (made : make P.id P v = .ok d) {m : Message} {index : Int}
    {c : CompiledInstruction} {accounts : List Account} (found : m.instructionAt index = .ok c)
    (resolved : m.accountsOf c = .ok accounts) (known : m.programAt c.programIndex = .ok P.id) :
    d.decode m index = (P.decode accounts c.data).mapError (.malformed index P.id P) >>=
      fun i => if i.payload.variant = v then .ok i.payload
        else .error (.otherVariant index i.payload.variant.name v.name) := by
  obtain ⟨expected, program, variant, definition⟩ := make_eq_ok made
  have own := Definition.mem_entries_of_typeIdOf? d.typeId_eq
  rw [variant, definition] at own
  rw [decode_of_programAt found resolved known, expected, program, variant, definition,
    if_neg (not_not_intro rfl)]
  cases decoded : P.decode accounts c.data with
  | error fault => rfl
  | ok i =>
    obtain ⟨-, entry⟩ := (Builtin.isRegular builtin).entry_of_decode decoded
    simp only [mapError_ok, ok_bind, Definition.nameOf?_of_mem entry, Option.getD_some]
    by_cases same : i.payload.variant = v
    · have typeIds := Builtin.typeId_unique builtin (same ▸ entry) own
      rw [if_pos ⟨typeIds, same⟩, if_pos same]
    · rw [if_neg (fun both => same both.2), if_neg same]

/-- A typed decoder answers what follows from the outcome of decoding. -/
theorem agrees_decode {P : Program} (builtin : P ∈ Builtin.programs) {v : Variant}
    {d : TypedDecoder} (made : make P.id P v = .ok d) (m : Message) (index : Int) :
    Agrees P v index (Message.programOfOutcome? (m.decodeBuiltin index))
      ((m.decodeBuiltin index).mapError MessageFault.failure)
      ((d.decode m index).mapError TypedFault.failure) := by
  cases found : m.instructionAt index with
  | error fault =>
    have failed : m.resolve index = .error fault := by
      rw [Message.resolve, found, error_bind]
    have answer : d.decode m index = .error (.noInstruction fault) := by
      rw [decode, found, mapError_error, error_bind]
    rw [Message.decodeBuiltin, Message.decode_of_resolve_eq_error failed, answer]
    exact agrees_noInstruction found
  | ok c =>
    cases resolved : m.accountsOf c with
    | error fault =>
      have failed : m.resolve index = .error fault := by
        rw [Message.resolve, found, ok_bind, resolved, error_bind]
      have answer : d.decode m index = .error (.accounts index fault) := by
        rw [decode, found, mapError_ok, ok_bind, resolved, mapError_error, error_bind]
      rw [Message.decodeBuiltin, Message.decode_of_resolve_eq_error failed, answer]
      exact agrees_explained (fun _ => by rw [Message.kind_of_accountsOf resolved]; rfl)
    | ok accounts =>
      cases known : m.programAt c.programIndex with
      | error fault =>
        have failed : m.resolve index = .error fault := by
          rw [Message.resolve, found, ok_bind, resolved, ok_bind, known, error_bind]
        have answer : d.decode m index = .error (.programId index fault) := by
          rw [decode, found, mapError_ok, ok_bind, resolved, mapError_ok, ok_bind, known,
            mapError_error, error_bind]
        rw [Message.decodeBuiltin, Message.decode_of_resolve_eq_error failed, answer]
        exact agrees_explained (fun _ => by rw [Message.kind_of_programAt known]; rfl)
      | ok program =>
        have whole := Message.resolve_eq_ok_iff.2 ⟨c, found, resolved, known⟩
        have about := Message.programOfOutcome?_of_resolve whole
        rw [about]
        by_cases other : program = P.id
        · subst other
          rw [Message.decodeBuiltin_of_mem builtin found whole,
            decode_of_programAt_id builtin made found resolved known]
          cases decoded : P.decode accounts c.data with
          | error fault =>
            exact agrees_malformed ((Builtin.isRegular builtin).decode_eq_error_iff.1 decoded) index
          | ok i =>
            have own := ((Builtin.isRegular builtin).entry_of_decode decoded).1
            rw [mapError_ok, mapError_ok, ok_bind]
            by_cases same : i.payload.variant = v
            · rw [if_pos same]
              exact .payload own same
            · rw [if_neg same]
              exact .otherVariant own same rfl
        · have expected := (make_eq_ok made).1
          rw [decode_of_programAt found resolved known, expected, if_pos other]
          exact agrees_otherProgram about other

namespace Agrees

variable {P : Program} {v : Variant} {index : Int} {about : Option Key}
  {outcome : Except Failure Instruction} {answer : Except Failure Payload}

theorem payload_iff (h : Agrees P v index about outcome answer) {p : Payload} :
    answer = .ok p ↔ ∃ i, outcome = .ok (.structured i) ∧ i.program = P ∧ i.payload.variant = v ∧
      p = i.payload := by
  constructor
  · rintro rfl
    cases h with
    | payload program variant => exact ⟨_, rfl, program, variant, rfl⟩
  · rintro ⟨i, rfl, rfl, variant, rfl⟩
    cases h with
    | otherInstruction other => exact absurd rfl other
    | otherVariant program other => exact absurd variant other
    | payload => rfl

end Agrees

/-- What a typed decoder gives is what decoding gives, if this is of its variant. -/
theorem decode_eq_ok_iff {P : Program} (builtin : P ∈ Builtin.programs) {v : Variant}
    {d : TypedDecoder} (made : make P.id P v = .ok d) {m : Message} {index : Int} {p : Payload} :
    d.decode m index = .ok p ↔ ∃ i, m.decodeBuiltin index = .ok (.structured i) ∧
      i.program = P ∧ i.payload.variant = v ∧ p = i.payload := by
  simpa only [mapError_eq_ok_iff] using (agrees_decode builtin made m index).payload_iff

end TypedDecoder

end SolanaWire
