import SolanaWire.Proofs.Lookups
import SolanaWire.Proofs.WholeMessage

/-!
# Account lists

The accounts of an instruction resolve if all of its indexes are in their tables, and else the fault
is about the first that is not.  A negative index is in no table.  What is decoded from the accounts
gives each of its slots the account at the slot's own position, so the slots that are not empty and
the remaining accounts make up the whole list again.
-/
namespace SolanaWire
open Outcome

namespace Message

variable {m : Message} {index : Int} {fault : IndexFault} {c : CompiledInstruction}

/-- The fault of the first index that is in no table: the position of the instruction itself, then
the indexes of its accounts in their order, then that of its program. -/
inductive FirstOutside (m : Message) (index : Int) : IndexFault → Prop
  | instruction (outside : ¬ Inside index m.instructions.length) :
      FirstOutside m index ⟨.instruction, index, m.instructions.length⟩
  | account {c : CompiledInstruction} {n : Nat} {a : Int} (found : m.HasInstruction index c)
      (here : c.accountIndexes[n]? = some a) (outside : ¬ Inside a m.keys.length)
      (earlier : ∀ k < n, ∀ b, c.accountIndexes[k]? = some b → Inside b m.keys.length) :
      FirstOutside m index ⟨.account, a, m.keys.length⟩
  | programId {c : CompiledInstruction} (found : m.HasInstruction index c)
      (accounts : ∀ a ∈ c.accountIndexes, Inside a m.keys.length)
      (outside : ¬ Inside c.programIndex m.keys.length) :
      FirstOutside m index ⟨.programId, c.programIndex, m.keys.length⟩

theorem exists_accountAt_iff : (∃ a, m.accountAt index = .ok a) ↔ Inside index m.keys.length := by
  have key : (∃ k, itemAt .account m.keys index = .ok k) ↔ Inside index m.keys.length :=
    exists_itemAt_iff
  rw [← key]
  simp [accountAt, bind_eq_ok_iff, pure, Except.pure]

theorem accountAt_eq_error_iff :
    m.accountAt index = .error fault ↔
      ¬ Inside index m.keys.length ∧ fault = ⟨.account, index, m.keys.length⟩ := by
  rw [← itemAt_eq_error_iff_not_inside]
  simp [accountAt, bind_eq_error_iff, pure, Except.pure]

theorem accountsOf_eq_error_iff :
    m.accountsOf c = .error fault ↔ ∃ (n : Nat) (a : Int), c.accountIndexes[n]? = some a ∧
      (¬ Inside a m.keys.length ∧ fault = ⟨.account, a, m.keys.length⟩) ∧
      ∀ k < n, ∀ b, c.accountIndexes[k]? = some b → Inside b m.keys.length := by
  simp only [accountsOf, mapM_eq_error_iff, accountAt_eq_error_iff, exists_accountAt_iff]

theorem exists_accountsOf_iff :
    (∃ accounts, m.accountsOf c = .ok accounts) ↔
      ∀ a ∈ c.accountIndexes, Inside a m.keys.length := by
  constructor
  · rintro ⟨accounts, resolved⟩ a member
    obtain ⟨length, each⟩ := List.forall₂_iff_get.1 (mapM_eq_ok_iff.1 resolved)
    obtain ⟨n, bounded, rfl⟩ := List.getElem_of_mem member
    exact exists_accountAt_iff.1 ⟨_, each n bounded (length ▸ bounded)⟩
  · intro inside
    cases resolved : m.accountsOf c with
    | ok accounts => exact ⟨accounts, rfl⟩
    | error fault =>
      obtain ⟨n, a, here, ⟨outside, -⟩, -⟩ := accountsOf_eq_error_iff.1 resolved
      exact absurd (inside a (List.mem_of_getElem? here)) outside

/-- Resolution fails with the first index that is in no table. -/
theorem resolve_eq_error_iff : m.resolve index = .error fault ↔ m.FirstOutside index fault := by
  simp only [resolve, bind_eq_error_iff, instructionAt_eq_ok_iff]
  constructor
  · rintro (missing | ⟨c, found, account | ⟨accounts, resolved, program | ⟨key, -, done⟩⟩⟩)
    · obtain ⟨outside, rfl⟩ := itemAt_eq_error_iff_not_inside.1 missing
      exact .instruction outside
    · obtain ⟨n, a, here, ⟨outside, rfl⟩, earlier⟩ := accountsOf_eq_error_iff.1 account
      exact .account found here outside earlier
    · obtain ⟨outside, rfl⟩ := itemAt_eq_error_iff_not_inside.1 program
      exact .programId found (exists_accountsOf_iff.1 ⟨accounts, resolved⟩) outside
    · cases done
  · intro first
    cases first with
    | instruction outside => exact .inl (itemAt_eq_error_iff_not_inside.2 ⟨outside, rfl⟩)
    | account found here outside earlier =>
      have failed := accountsOf_eq_error_iff.2 ⟨_, _, here, ⟨outside, rfl⟩, earlier⟩
      exact .inr ⟨_, found, .inl failed⟩
    | programId found accounts outside =>
      obtain ⟨resolved, passed⟩ := exists_accountsOf_iff.2 accounts
      have failed : m.programAt _ = .error _ := itemAt_eq_error_iff_not_inside.2 ⟨outside, rfl⟩
      exact .inr ⟨_, found, .inr ⟨resolved, passed, .inl failed⟩⟩

theorem FirstOutside.exists_report (first : m.FirstOutside index fault)
    (short : Numeral.IsWritable fault.index) : ∃ r : Report,
      (m.resolve index).mapError IndexFault.failure = .error (.report r) ∧ r.facts =
        .indexOutOfRange (.text fault.kind.text) (.int fault.index) (.int fault.length) := by
  obtain ⟨r, reported, facts⟩ := IndexFault.failure_eq_report short
  exact ⟨r, by rw [resolve_eq_error_iff.2 first, mapError_error, reported], facts⟩

theorem FirstOutside.failure_of_long (first : m.FirstOutside index fault)
    (long : ¬ Numeral.IsWritable fault.index) :
    (m.resolve index).mapError IndexFault.failure = .error integerTooLong := by
  rw [resolve_eq_error_iff.2 first, mapError_error, IndexFault.failure_of_not_isWritable long]

/-- An instruction resolves if it is there and all of its indexes are in the key table. -/
theorem exists_resolve_iff :
    (∃ accounts program, m.resolve index = .ok (accounts, program)) ↔
      ∃ c, m.HasInstruction index c ∧ (∀ a ∈ c.accountIndexes, Inside a m.keys.length) ∧
        Inside c.programIndex m.keys.length := by
  simp only [resolve_eq_ok_iff, instructionAt_eq_ok_iff, ← exists_accountsOf_iff]
  constructor
  · rintro ⟨accounts, program, c, found, resolved, known⟩
    exact ⟨c, found, ⟨accounts, resolved⟩, exists_itemAt_iff.1 ⟨program, known⟩⟩
  · rintro ⟨c, found, ⟨accounts, resolved⟩, inside⟩
    obtain ⟨program, known⟩ := exists_itemAt_iff.2 inside
    exact ⟨accounts, program, c, found, resolved, known⟩

end Message

theorem filterMap_range_getElem? {α : Type} (as : List α) (n : Nat) :
    (List.range n).filterMap (as[·]?) = as.take n := by
  induction n with
  | zero => rfl
  | succ n ih =>
    rw [List.range_succ, List.filterMap_append, ih, List.take_add_one]
    cases here : as[n]? <;> simp [here]

namespace Variant

/-- The slots of a variant are told apart by their names, and nothing hides what lists them. -/
structure ListsSlots (v : Variant) : Prop where
  plain : v.HidesNothing
  distinct : v.slots.Nodup

/-- A slot's name stands for the last position that bears it, which is the slot's own one if no name
is borne twice. -/
theorem slotIndex_of_nodup {v : Variant} (distinct : v.slots.Nodup) {n : Nat} {slot : String}
    (here : v.slots[n]? = some slot) : v.slotIndex slot = n := by
  obtain ⟨bounded, rfl⟩ := List.getElem?_eq_some_iff.1 here
  -- The name is looked up from the end of the slots, where the position is the mirrored one.
  have mirrored : v.slots.length - 1 - n < v.slots.reverse.length := by
    rw [List.length_reverse]
    omega
  have same : v.slots.reverse[v.slots.length - 1 - n] = v.slots[n] := by
    rw [List.getElem_reverse]
    congr 1
    omega
  rw [slotIndex, ← same, (List.nodup_reverse.2 distinct).idxOf_getElem]
  omega

end Variant

theorem Builtin.listsSlots {P : Program} (builtin : P ∈ programs) :
    ∀ e ∈ P.definition.entries, e.2.ListsSlots := by
  have distinct : ∀ P ∈ programs, ∀ e ∈ P.definition.entries, e.2.slots.Nodup := by
    decide +kernel
  intro e entry
  exact ⟨hidesNothing builtin e entry, distinct P builtin e entry⟩

namespace Payload

variable {p : Payload}

/-- The accounts of the slots that have one. -/
def present (p : Payload) : List Account := p.namedAccounts.filterMap (·.2)

theorem getElem?_namedAccounts (distinct : p.variant.slots.Nodup) (n : Nat) :
    p.namedAccounts[n]? = p.variant.slots[n]?.map (·, p.accounts[n]?) := by
  rw [namedAccounts, List.getElem?_map]
  cases here : p.variant.slots[n]? with
  | none => rfl
  | some slot => simp only [Option.map_some, Variant.slotIndex_of_nodup distinct here]

theorem present_eq_take (distinct : p.variant.slots.Nodup) :
    p.present = p.accounts.take p.variant.slots.length := by
  have each : p.namedAccounts.map (·.2) =
      (List.range p.variant.slots.length).map (p.accounts[·]?) := by
    apply List.ext_getElem?
    intro n
    rw [List.getElem?_map, getElem?_namedAccounts distinct, List.getElem?_map]
    by_cases bounded : n < p.variant.slots.length
    · simp [List.getElem?_eq_getElem bounded, List.getElem?_range bounded]
    · have past : (List.range p.variant.slots.length)[n]? = none :=
        List.getElem?_eq_none (by simpa using bounded)
      simp [List.getElem?_eq_none (Nat.le_of_not_lt bounded), past]
  calc p.present
    _ = (p.namedAccounts.map (·.2)).filterMap id := by
      rw [present, List.filterMap_map]
      rfl
    _ = (List.range p.variant.slots.length).filterMap (p.accounts[·]?) := by
      rw [each, List.filterMap_map]
      rfl
    _ = p.accounts.take p.variant.slots.length := filterMap_range_getElem? _ _

theorem present_append_remaining (distinct : p.variant.slots.Nodup) :
    p.present ++ p.remaining = p.accounts := by
  rw [present_eq_take distinct, remaining, List.take_append_drop]

end Payload

/-- Resolution of every instruction of every message.  It succeeds exactly if the instruction is
there and all of its indexes are in the key table.  It then gives the account at each index, in the
role of that position and as often as it is named, and the key of the program.  Else it fails with
the first index that is in no table: this is reported with what it was meant for and the length of
the table, unless it has too many digits to be written.  What is decoded from the accounts, by a
built-in program or by one whose variants bear no slot's name twice, has each of them in one place:
those of the slots that are not empty and the remaining ones make up the list, and no slot is empty
that the variant needs. -/
theorem Message.resolve_exactly (m : Message) (index : Int) :
    ((∃ accounts program, m.resolve index = .ok (accounts, program)) ↔
      ∃ c, m.HasInstruction index c ∧ (∀ a ∈ c.accountIndexes, Inside a m.keys.length) ∧
        Inside c.programIndex m.keys.length) ∧
    (∀ accounts program, m.resolve index = .ok (accounts, program) ↔
      ∃ c, m.HasInstruction index c ∧ List.Forall₂ m.Addresses c.accountIndexes accounts ∧
        0 ≤ c.programIndex ∧ m.keys[c.programIndex.toNat]? = some program) ∧
    (∀ fault, m.resolve index = .error fault ↔ m.FirstOutside index fault) ∧
    (∀ fault, m.FirstOutside index fault →
      (Numeral.IsWritable fault.index → ∃ r : Report,
        (m.resolve index).mapError IndexFault.failure = .error (.report r) ∧ r.facts =
          .indexOutOfRange (.text fault.kind.text) (.int fault.index) (.int fault.length)) ∧
      (¬ Numeral.IsWritable fault.index →
        (m.resolve index).mapError IndexFault.failure = .error integerTooLong)) ∧
    (∀ accounts program, m.resolve index = .ok (accounts, program) → ∀ P : Program,
      P ∈ Builtin.programs ∨ (∀ e ∈ P.definition.entries, e.2.ListsSlots) →
      ∀ data i, P.decode accounts data = .ok i →
        i.payload.variant.listFault? = none ∧
        i.payload.present ++ i.payload.remaining = accounts ∧
        ∀ (n : Nat) slot a?, i.payload.namedAccounts[n]? = some (slot, a?) →
          a? = accounts[n]? ∧ ((n : Int) < i.payload.variant.minAccounts → a?.isSome)) := by
  refine ⟨exists_resolve_iff, ?_, fun fault => resolve_eq_error_iff, ?_, ?_⟩
  · intro accounts program
    simp only [resolve_eq_ok_iff, instructionAt_eq_ok_iff, accountsOf_eq_ok_iff, programAt,
      itemAt_eq_ok_iff]
  · intro fault first
    exact ⟨first.exists_report, first.failure_of_long⟩
  · intro accounts program resolved P program' data i decoded
    have lists : ∀ e ∈ P.definition.entries, e.2.ListsSlots :=
      program'.elim Builtin.listsSlots (fun lists => lists)
    obtain ⟨-, -, -, -, -, entry, -⟩ := Program.exists_of_decode decoded
    obtain ⟨rfl, enough⟩ := Program.accounts_of_decode decoded
    obtain ⟨plain, distinct⟩ := lists _ entry
    refine ⟨Variant.listFault?_eq_none plain, Payload.present_append_remaining distinct, ?_⟩
    intro n slot a? named
    rw [Payload.getElem?_namedAccounts distinct, Option.map_eq_some_iff] at named
    obtain ⟨slot', -, same⟩ := named
    cases same
    refine ⟨rfl, fun needed => ?_⟩
    have bounded : n < i.payload.accounts.length := by omega
    rw [List.getElem?_eq_getElem bounded]
    rfl

/-- A negative index is the first that is in no table, after one that is named twice. -/
theorem Message.resolve_exactly_of_negative :
    let m : Message := ⟨[.ofNat 1, .ofNat 2], ⟨1, 0, 1⟩, [⟨7, [1, 1, -1, 9], []⟩]⟩
    m.FirstOutside 0 ⟨.account, -1, 2⟩ ∧ ∃ r : Report,
      (m.resolve 0).mapError IndexFault.failure = .error (.report r) ∧
        r.facts = .indexOutOfRange (.text "account") (.int (-1)) (.int 2) := by
  intro m
  have first : m.FirstOutside 0 ⟨.account, -1, 2⟩ := by
    refine .account (n := 2) ⟨by decide, rfl⟩ rfl (by decide) ?_
    intro k before b here
    obtain rfl | rfl : k = 0 ∨ k = 1 := by omega
    all_goals
      cases here
      decide
  obtain ⟨-, -, -, reported, -⟩ := resolve_exactly m 0
  exact ⟨first, (reported _ first).1 (by decide +kernel)⟩

/-- A position with one digit too many is not that of an instruction, but this is not reported. -/
theorem Message.resolve_of_long_index :
    let m : Message := ⟨[.ofNat 1], ⟨1, 0, 0⟩, [⟨0, [], []⟩]⟩
    let index : Int := (Nat.pow 10 Numeral.digitLimit : Nat)
    ¬ Inside index m.instructions.length ∧
      (m.resolve index).mapError IndexFault.failure = .error integerTooLong := by
  intro m index
  have outside : ¬ Inside index m.instructions.length := by decide +kernel
  have long : ¬ Numeral.IsWritable index := by decide +kernel
  have first : m.FirstOutside index ⟨.instruction, index, 1⟩ := .instruction outside
  exact ⟨outside, first.failure_of_long long⟩

end SolanaWire
