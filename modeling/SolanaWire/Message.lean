import SolanaWire.Value.Conversion

/-!
# Messages

A message holds one table of keys; its instructions name accounts and programs by their positions
in that table.  The header says how many of the first keys sign, and how many keys at the end of
the signers and at the end of the others are read-only, so the role of an account depends on its
position only.

Positions are integers: one that is negative or past the end of the table does not resolve.  That is
reported, unless the position has too many digits to be named in a report.
-/
namespace SolanaWire

/-- The counts that determine the roles of the keys. -/
structure Header where
  signatures : Int
  readonlySigned : Int
  readonlyUnsigned : Int
  deriving DecidableEq

/-- An instruction that names its program and accounts by position. -/
structure CompiledInstruction where
  programIndex : Int
  accountIndexes : List Int
  data : List UInt8
  deriving DecidableEq

/-- The part of a transaction that is signed. -/
structure Message where
  keys : List Key
  header : Header
  instructions : List CompiledInstruction
  deriving DecidableEq

/-- A key with its role in a message. -/
structure Account where
  key : Key
  isSigner : Bool
  isWritable : Bool
  deriving DecidableEq

/-- The literal of an account, which takes several lines. -/
def Account.literal (a : Account) : String :=
  "AccountMeta(\n    AccountMeta \x7b\n        pubkey: " ++ a.key.text ++
    ",\n        is_signer: " ++ toString a.isSigner ++
    ",\n        is_writable: " ++ toString a.isWritable ++ ",\n    \x7d,\n)"

/-- What an index was meant to address. -/
inductive IndexKind
  | instruction
  | account
  | programId
  deriving DecidableEq

/-- The words for what an index was meant to address. -/
def IndexKind.text : IndexKind → String
  | instruction => "instruction"
  | account => "account"
  | programId => "program id"

/-- An index outside the table of the given length. -/
structure IndexFault where
  kind : IndexKind
  index : Int
  length : Nat
  deriving DecidableEq

namespace IndexFault

/-- The message about an index outside its table, which names the index. -/
def message (f : IndexFault) : Except Failure String := do
  let index ← decimalText f.index
  return match f.kind with
    | .instruction => s!"transaction doesn't have an instruction at index '{index}'"
    | kind => s!"{kind.text} index {index} out of range (length {f.length})"

/-- The report about an index outside its table. -/
def report (f : IndexFault) : Except Failure Report := do
  return .indexOutOfRange (← f.message) (.text f.kind.text) (.int f.index) (.int f.length)

/-- The failure that the fault is: its report, or that the index cannot be written. -/
def failure (f : IndexFault) : Failure :=
  match f.report with
  | .ok report => .report report
  | .error failure => failure

/-- What is found where an index outside its table is no failure: nothing, unless it cannot even be
reported. -/
def toNone {α : Type} (f : IndexFault) : Except Failure (Option α) := f.report.map (fun _ => none)

variable {f : IndexFault}

theorem exists_report (short : Numeral.IsWritable f.index) :
    ∃ message, f.report =
      .ok (.indexOutOfRange message (.text f.kind.text) (.int f.index) (.int f.length)) := by
  rw [report, message, decimalText, if_pos short]
  exact ⟨_, rfl⟩

theorem report_of_not_isWritable (long : ¬ Numeral.IsWritable f.index) :
    f.report = .error integerTooLong := by
  rw [report, message, decimalText, if_neg long]
  rfl

theorem toNone_eq {α : Type} (f : IndexFault) : f.toNone (α := α) =
    if Numeral.IsWritable f.index then .ok none else .error integerTooLong := by
  unfold toNone
  split
  · rename_i short
    obtain ⟨message, reported⟩ := exists_report short
    rw [reported]
    rfl
  · rename_i long
    rw [report_of_not_isWritable long]
    rfl

theorem toNone_eq_ok_iff {α : Type} {found : Option α} :
    f.toNone = .ok found ↔ Numeral.IsWritable f.index ∧ found = none := by
  rw [toNone_eq]
  split <;> simp [*, eq_comm]

end IndexFault

/-- The item at an index, or the fault that describes the index. -/
def itemAt {α : Type} (kind : IndexKind) (items : List α) (index : Int) : Except IndexFault α :=
  match index with
  | .ofNat n =>
    match items[n]? with
    | some item => .ok item
    | none => .error ⟨kind, index, items.length⟩
  | .negSucc _ => .error ⟨kind, index, items.length⟩

theorem itemAt_eq_ok_iff {α : Type} {kind : IndexKind} {items : List α} {index : Int} {item : α} :
    itemAt kind items index = .ok item ↔ 0 ≤ index ∧ items[index.toNat]? = some item := by
  unfold itemAt
  split
  · rename_i n
    simp only [Int.ofNat_eq_natCast, Int.toNat_natCast]
    split <;> simp_all
  · rename_i n
    have : ¬ (0 ≤ Int.negSucc n) := by omega
    simp [this]

theorem itemAt_eq_error_iff {α : Type} {kind : IndexKind} {items : List α} {index : Int}
    {fault : IndexFault} :
    itemAt kind items index = .error fault ↔
      (index < 0 ∨ (items.length : Int) ≤ index) ∧ fault = ⟨kind, index, items.length⟩ := by
  unfold itemAt
  split
  · rename_i n
    have nonnegative : ¬ ((n : Int) < 0) := by omega
    split
    · rename_i item found
      have inside := (List.getElem?_eq_some_iff.1 found).1
      have bounded : ¬ (items.length ≤ n) := by omega
      simp [nonnegative, bounded]
    · rename_i found
      have outside := List.getElem?_eq_none_iff.1 found
      simp [nonnegative, outside, eq_comm]
  · rename_i n
    simp [Int.negSucc_lt_zero, eq_comm]

namespace Message

/-- Whether the key at a position signs. -/
def isSigner (m : Message) (index : Int) : Bool := index < m.header.signatures

/-- Whether the key at a position may be written. -/
def isWritable (m : Message) (index : Int) : Bool :=
  if index < m.header.signatures then index < m.header.signatures - m.header.readonlySigned
  else
    index - m.header.signatures <
      (m.keys.length : Int) - m.header.signatures - m.header.readonlyUnsigned

/-- The instruction at a position. -/
def instructionAt (m : Message) (index : Int) : Except IndexFault CompiledInstruction :=
  itemAt .instruction m.instructions index

/-- The account at a position of the key table. -/
def accountAt (m : Message) (index : Int) : Except IndexFault Account := do
  let key ← itemAt .account m.keys index
  return ⟨key, m.isSigner index, m.isWritable index⟩

/-- The program at a position of the key table. -/
def programAt (m : Message) (index : Int) : Except IndexFault Key :=
  itemAt .programId m.keys index

/-- The accounts of an instruction, in its order; the first that does not resolve is the fault. -/
def accountsOf (m : Message) (instruction : CompiledInstruction) :
    Except IndexFault (List Account) :=
  instruction.accountIndexes.mapM m.accountAt

/-- The accounts and the program of the instruction at a position. -/
def resolve (m : Message) (index : Int) : Except IndexFault (List Account × Key) := do
  let instruction ← m.instructionAt index
  let accounts ← m.accountsOf instruction
  let program ← m.programAt instruction.programIndex
  return (accounts, program)

/-- The program of the instruction at a position, whatever its accounts. -/
def programOf (m : Message) (index : Int) : Except IndexFault Key := do
  let instruction ← m.instructionAt index
  m.programAt instruction.programIndex

end Message
end SolanaWire
