import SolanaWire.Message
import SolanaWire.Proofs.Outcome

/-!
# Resolution

An instruction is looked up first, its accounts after it, and its program last.  The kind of a
fault tells which of these steps has failed.  The program of an instruction can be looked up without
its accounts.  A fault is reported with its facts, unless its index cannot be written.
-/
namespace SolanaWire
open Outcome

/-- An index is one of a table of some length. -/
def Inside (index : Int) (length : Nat) : Prop := 0 ≤ index ∧ index < length

instance (index : Int) (length : Nat) : Decidable (Inside index length) :=
  inferInstanceAs (Decidable (_ ∧ _))

section Tables

variable {α : Type} {kind : IndexKind} {items : List α} {index : Int} {fault : IndexFault}

theorem exists_itemAt_iff :
    (∃ item, itemAt kind items index = .ok item) ↔ Inside index items.length := by
  simp only [itemAt_eq_ok_iff, Inside]
  constructor
  · rintro ⟨item, nonnegative, found⟩
    have bounded := (List.getElem?_eq_some_iff.1 found).1
    omega
  · rintro ⟨nonnegative, bounded⟩
    have below : index.toNat < items.length := by omega
    exact ⟨items[index.toNat], nonnegative, List.getElem?_eq_getElem below⟩

theorem itemAt_eq_error_iff_not_inside :
    itemAt kind items index = .error fault ↔
      ¬ Inside index items.length ∧ fault = ⟨kind, index, items.length⟩ := by
  rw [itemAt_eq_error_iff, Inside]
  have outside : ¬ (0 ≤ index ∧ index < items.length) ↔
      index < 0 ∨ (items.length : Int) ≤ index := by omega
  rw [outside]

end Tables

namespace IndexFault

variable {fault : IndexFault}

/-- The failure of an index that can be written is a report of what the index was meant for, of the
index and of the length of the table. -/
theorem failure_eq_report (short : Numeral.IsWritable fault.index) :
    ∃ r : Report, fault.failure = .report r ∧ r.facts =
      .indexOutOfRange (.text fault.kind.text) (.int fault.index) (.int fault.length) := by
  obtain ⟨message, reported⟩ := exists_report short
  exact ⟨_, by rw [failure, reported], rfl⟩

theorem failure_of_not_isWritable (long : ¬ Numeral.IsWritable fault.index) :
    fault.failure = integerTooLong := by
  rw [failure, report_of_not_isWritable long]

end IndexFault

namespace Message

variable {m : Message} {index : Int} {fault : IndexFault} {c : CompiledInstruction}

/-- An instruction is the one at a position of a message. -/
def HasInstruction (m : Message) (index : Int) (c : CompiledInstruction) : Prop :=
  0 ≤ index ∧ m.instructions[index.toNat]? = some c

theorem instructionAt_eq_ok_iff : m.instructionAt index = .ok c ↔ m.HasInstruction index c :=
  itemAt_eq_ok_iff

theorem kind_of_programAt (h : m.programAt index = .error fault) : fault.kind = .programId := by
  obtain ⟨_, rfl⟩ := itemAt_eq_error_iff.1 h
  rfl

theorem kind_of_accountAt (h : m.accountAt index = .error fault) : fault.kind = .account := by
  rw [accountAt, bind_eq_error_iff] at h
  rcases h with missing | ⟨_, _, h⟩
  · obtain ⟨_, rfl⟩ := itemAt_eq_error_iff.1 missing
    rfl
  · cases h

theorem kind_of_accountsOf (h : m.accountsOf c = .error fault) :
    fault.kind = .account := by
  obtain ⟨_, _, failed⟩ := exists_of_mapM_eq_error h
  exact kind_of_accountAt failed

theorem resolve_eq_ok_iff {accounts : List Account} {program : Key} :
    m.resolve index = .ok (accounts, program) ↔ ∃ c, m.instructionAt index = .ok c ∧
      m.accountsOf c = .ok accounts ∧ m.programAt c.programIndex = .ok program := by
  simp only [resolve, bind_eq_ok_iff]
  constructor
  · rintro ⟨c, found, _, resolved, _, known, same⟩
    cases same
    exact ⟨c, found, resolved, known⟩
  · rintro ⟨c, found, resolved, known⟩
    exact ⟨c, found, accounts, resolved, program, known, rfl⟩

/-- A position addresses an instruction, and the program of that instruction is in the key table.
Nothing is said about its accounts. -/
def HasProgram (m : Message) (index : Nat) (program : Key) : Prop :=
  ∃ c, m.instructions[index]? = some c ∧ 0 ≤ c.programIndex ∧
    m.keys[c.programIndex.toNat]? = some program

theorem programOf_eq_ok_iff {index : Nat} {program : Key} :
    m.programOf index = .ok program ↔ m.HasProgram index program := by
  simp [programOf, bind_eq_ok_iff, instructionAt, programAt, itemAt_eq_ok_iff, HasProgram]

theorem HasProgram.unique {index : Nat} {program program' : Key} (h : m.HasProgram index program)
    (h' : m.HasProgram index program') : program = program' := by
  have known := programOf_eq_ok_iff.2 h
  rw [programOf_eq_ok_iff.2 h', Except.ok.injEq] at known
  exact known.symm

/-- The fault of the index that keeps the program of an instruction from being found: the position
of the instruction, or the index of its program. -/
inductive LacksProgram (m : Message) (index : Int) : IndexFault → Prop
  | instruction (outside : ¬ Inside index m.instructions.length) :
      LacksProgram m index ⟨.instruction, index, m.instructions.length⟩
  | programId {c : CompiledInstruction} (found : m.HasInstruction index c)
      (outside : ¬ Inside c.programIndex m.keys.length) :
      LacksProgram m index ⟨.programId, c.programIndex, m.keys.length⟩

theorem programOf_eq_error_iff : m.programOf index = .error fault ↔ m.LacksProgram index fault := by
  simp only [programOf, bind_eq_error_iff, instructionAt_eq_ok_iff]
  constructor
  · rintro (missing | ⟨c, found, unknown⟩)
    · obtain ⟨outside, rfl⟩ := itemAt_eq_error_iff_not_inside.1 missing
      exact .instruction outside
    · obtain ⟨outside, rfl⟩ := itemAt_eq_error_iff_not_inside.1 unknown
      exact .programId found outside
  · rintro (outside | ⟨found, outside⟩)
    · exact .inl (itemAt_eq_error_iff_not_inside.2 ⟨outside, rfl⟩)
    · exact .inr ⟨_, found, itemAt_eq_error_iff_not_inside.2 ⟨outside, rfl⟩⟩

theorem LacksProgram.unique {fault' : IndexFault} (h : m.LacksProgram index fault)
    (h' : m.LacksProgram index fault') : fault = fault' :=
  Except.error.inj ((programOf_eq_error_iff.2 h).symm.trans (programOf_eq_error_iff.2 h'))

end Message
end SolanaWire
