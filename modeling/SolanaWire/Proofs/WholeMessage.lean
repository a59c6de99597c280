import Mathlib.Data.List.Forall2
import SolanaWire.Proofs.MessageDecoding

/-!
# Decoding a whole message

All instructions of a message are decoded if each of them is, and then each comes out as it does
alone.  Otherwise the failure is that of the first that fails, whatever follows it.  What comes out
is about the program and the accounts that the instruction names, and it is kept unparsed exactly
if nobody decodes the instructions of that program.
-/
namespace SolanaWire
open Outcome

namespace Outcome

variable {ε α β : Type} {f : α → Except ε β}

/-- Steps that are taken for some items succeed if each of them does. -/
theorem mapM_eq_ok_iff {as : List α} {bs : List β} :
    as.mapM f = .ok bs ↔ List.Forall₂ (fun a b => f a = .ok b) as bs := by
  induction as generalizing bs with
  | nil => cases bs <;> simp [pure, Except.pure]
  | cons a as ih =>
    rw [List.mapM_cons, bind_eq_ok_iff, List.forall₂_cons_left_iff]
    constructor
    · rintro ⟨b, first, whole⟩
      obtain ⟨rest, others, same⟩ := bind_eq_ok_iff.1 whole
      cases same
      exact ⟨b, rest, first, ih.1 others, rfl⟩
    · rintro ⟨b, rest, first, others, rfl⟩
      exact ⟨b, first, bind_eq_ok_iff.2 ⟨rest, ih.2 others, rfl⟩⟩

/-- Steps that are taken for some items fail with the first that fails. -/
theorem mapM_eq_error_iff {as : List α} {e : ε} :
    as.mapM f = .error e ↔ ∃ (n : Nat) (a : α), as[n]? = some a ∧ f a = .error e ∧
      ∀ k < n, ∀ b, as[k]? = some b → ∃ c, f b = .ok c := by
  induction as with
  | nil =>
    constructor
    · intro h
      cases h
    · rintro ⟨n, a, found, -⟩
      cases found
  | cons a as ih =>
    rw [List.mapM_cons, bind_eq_error_iff]
    constructor
    · rintro (failed | ⟨b, passed, rest⟩)
      · exact ⟨0, a, rfl, failed, fun k before => absurd before (Nat.not_lt_zero k)⟩
      · rcases bind_eq_error_iff.1 rest with others | ⟨bs, -, same⟩
        · obtain ⟨n, c, found, failed, passing⟩ := ih.1 others
          refine ⟨n + 1, c, found, failed, ?_⟩
          intro k before d known
          cases k with
          | zero =>
            cases known
            exact ⟨b, passed⟩
          | succ k => exact passing k (by omega) d known
        · cases same
    · rintro ⟨n, c, found, failed, passing⟩
      cases n with
      | zero =>
        cases found
        exact .inl failed
      | succ n =>
        obtain ⟨b, passed⟩ := passing 0 (by omega) a rfl
        have others := ih.2 ⟨n, c, found, failed, fun k before => passing (k + 1) (by omega)⟩
        exact .inr ⟨b, passed, bind_eq_error_iff.2 (.inl others)⟩

end Outcome

namespace Message

variable {m : Message} {r : DecoderRegistry}

/-- An account is the one at a position of the key table, in the role of that position. -/
def Addresses (m : Message) (index : Int) (a : Account) : Prop :=
  0 ≤ index ∧ m.keys[index.toNat]? = some a.key ∧ a.isSigner = m.isSigner index ∧
    a.isWritable = m.isWritable index

theorem accountAt_eq_ok_iff {index : Int} {a : Account} :
    m.accountAt index = .ok a ↔ m.Addresses index a := by
  rw [accountAt, bind_eq_ok_iff]
  constructor
  · rintro ⟨key, found, same⟩
    cases same
    obtain ⟨inside, known⟩ := itemAt_eq_ok_iff.1 found
    exact ⟨inside, known, rfl, rfl⟩
  · rintro ⟨inside, known, signs, written⟩
    refine ⟨a.key, itemAt_eq_ok_iff.2 ⟨inside, known⟩, ?_⟩
    rw [← signs, ← written]
    rfl

theorem accountsOf_eq_ok_iff {c : CompiledInstruction} {accounts : List Account} :
    m.accountsOf c = .ok accounts ↔ List.Forall₂ m.Addresses c.accountIndexes accounts := by
  simp only [accountsOf, mapM_eq_ok_iff, accountAt_eq_ok_iff]

theorem decodeEach_eq_mapM (indexes : List Int) :
    m.decodeEach r indexes = indexes.mapM (m.decode r) := by
  induction indexes with
  | nil => rfl
  | cons index rest ih =>
    rw [List.mapM_cons, ← ih]
    rfl

theorem length_positions : m.positions.length = m.instructions.length := by simp [positions]

theorem getElem?_positions_eq_some_iff {n : Nat} {index : Int} :
    m.positions[n]? = some index ↔ n < m.instructions.length ∧ index = n := by
  rw [List.getElem?_eq_some_iff]
  simp [positions, eq_comm]

/-- All instructions are decoded exactly if each of them is, with the same results. -/
theorem decodeAll_eq_ok_iff {is : List Instruction} :
    m.decodeAll r = .ok is ↔ is.length = m.instructions.length ∧
      ∀ (n : Nat) i, is[n]? = some i → m.decode r n = .ok i := by
  rw [decodeAll, decodeEach_eq_mapM, mapM_eq_ok_iff, List.forall₂_iff_get]
  simp only [length_positions]
  constructor
  · rintro ⟨length, each⟩
    refine ⟨length.symm, ?_⟩
    intro n i found
    obtain ⟨inside, rfl⟩ := List.getElem?_eq_some_iff.1 found
    simpa [positions] using each n (length ▸ inside) inside
  · rintro ⟨length, each⟩
    refine ⟨length.symm, ?_⟩
    intro n inside inside'
    simpa [positions] using each n is[n] (List.getElem?_eq_getElem inside')

/-- The failure of all instructions is that of the first that fails. -/
theorem decodeAll_eq_error_iff {fault : MessageFault} :
    m.decodeAll r = .error fault ↔ ∃ n < m.instructions.length, m.decode r n = .error fault ∧
      ∀ k < n, ∃ i, m.decode r k = .ok i := by
  rw [decodeAll, decodeEach_eq_mapM, mapM_eq_error_iff]
  simp only [getElem?_positions_eq_some_iff]
  constructor
  · rintro ⟨n, _, ⟨inside, rfl⟩, failed, passing⟩
    exact ⟨n, inside, failed, fun k before => passing k before k ⟨by omega, rfl⟩⟩
  · rintro ⟨n, inside, failed, passing⟩
    refine ⟨n, n, ⟨inside, rfl⟩, failed, ?_⟩
    rintro k before _ ⟨-, rfl⟩
    exact passing k before

/-- All instructions are decoded or one of them is the first that fails. -/
theorem exists_decodeAll_iff :
    (∃ is, m.decodeAll r = .ok is) ↔ ∀ n < m.instructions.length, ∃ i, m.decode r n = .ok i := by
  constructor
  · rintro ⟨is, decoded⟩ n inside
    obtain ⟨length, each⟩ := decodeAll_eq_ok_iff.1 decoded
    have inside' : n < is.length := length ▸ inside
    exact ⟨is[n], each n _ (List.getElem?_eq_getElem inside')⟩
  · intro each
    cases decoded : m.decodeAll r with
    | ok is => exact ⟨is, rfl⟩
    | error fault =>
      obtain ⟨n, inside, failed, -⟩ := decodeAll_eq_error_iff.1 decoded
      obtain ⟨i, passed⟩ := each n inside
      rw [failed] at passed
      cases passed

/-- An instruction is decoded as it stands, whatever other instructions there are. -/
theorem decode_of_getElem?_eq {is : List CompiledInstruction} {n : Nat}
    (inside : n < m.instructions.length) (same : is[n]? = m.instructions[n]?) :
    { m with instructions := is }.decode r n = m.decode r n := by
  have found := List.getElem?_eq_getElem inside
  have here : m.instructionAt n = .ok m.instructions[n] :=
    itemAt_eq_ok_iff.2 ⟨by omega, by simp⟩
  have there : instructionAt { m with instructions := is } n = .ok m.instructions[n] :=
    itemAt_eq_ok_iff.2 ⟨by omega, by simpa using same.trans found⟩
  simp only [decode, resolve, here, there]
  rfl

/-- An instruction that is decoded resolves, and its program's entry decides what comes out. -/
theorem exists_of_decode {c : CompiledInstruction} {n : Nat} {i : Instruction}
    (found : m.instructions[n]? = some c) (decoded : m.decode r n = .ok i) :
    ∃ program accounts, m.resolve n = .ok (accounts, program) ∧
      0 ≤ c.programIndex ∧ m.keys[c.programIndex.toNat]? = some program ∧
      List.Forall₂ m.Addresses c.accountIndexes accounts ∧
      (r.get? program = none → i = .unparsed ⟨program, accounts, c.data⟩) := by
  have here : m.instructionAt n = .ok c := itemAt_eq_ok_iff.2 ⟨by omega, by simpa using found⟩
  cases resolved : m.resolve n with
  | error fault =>
    rw [decode_of_resolve_eq_error resolved] at decoded
    cases decoded
  | ok pair =>
    obtain ⟨accounts, program⟩ := pair
    obtain ⟨c', here', addressed, known⟩ := resolve_eq_ok_iff.1 resolved
    obtain rfl : c = c' := Except.ok.inj (here.symm.trans here')
    obtain ⟨inside, key⟩ := itemAt_eq_ok_iff.1 known
    refine ⟨program, accounts, rfl, inside, key, accountsOf_eq_ok_iff.1 addressed, ?_⟩
    intro unknown
    rw [decode_of_resolve here resolved, unknown] at decoded
    exact (Except.ok.inj decoded).symm

/-- What the built-in programs decode is about the program and the accounts that the instruction
resolves to, and only other programs are kept unparsed. -/
theorem decodeBuiltin_of_resolve {n : Nat} {i : Instruction} {accounts : List Account}
    {program : Key} (resolved : m.resolve n = .ok (accounts, program))
    (decoded : m.decodeBuiltin n = .ok i) :
    i.program = program ∧ i.accounts = accounts ∧
      ((∃ u, i = .unparsed u) → DecoderRegistry.builtin.get? program = none) := by
  obtain ⟨c, accounts', program', -, resolved', outcome⟩ := exists_of_decodeBuiltin decoded
  rw [resolved, Except.ok.injEq, Prod.mk.injEq] at resolved'
  obtain ⟨rfl, rfl⟩ := resolved'
  rcases outcome with ⟨unknown, rfl⟩ | ⟨P, builtin, rfl, s, read, rfl⟩
  · exact ⟨rfl, rfl, fun _ => unknown⟩
  · obtain ⟨begins, whole, entry, enough, accepted⟩ :=
      (Builtin.isRegular builtin).decode_eq_ok_iff.1 read
    refine ⟨rfl, rfl, ?_⟩
    rintro ⟨u, same⟩
    cases same

/-- Decoding a message is decoding its instructions one by one.  It succeeds exactly if each of
them is decoded, and has what each of them is decoded to; otherwise its failure is that of the
first that fails, whatever stands behind that one.  Each instruction keeps the program and the
accounts that it names, and one whose program is not registered is kept as it is. -/
theorem decodeAll_exactly (m : Message) (r : DecoderRegistry) :
    (∀ is, m.decodeAll r = .ok is ↔ is.length = m.instructions.length ∧
      ∀ (n : Nat) i, is[n]? = some i → m.decode r n = .ok i) ∧
    ((∃ is, m.decodeAll r = .ok is) ↔
      ∀ n < m.instructions.length, ∃ i, m.decode r n = .ok i) ∧
    (∀ fault, m.decodeAll r = .error fault ↔ ∃ n < m.instructions.length,
      m.decode r n = .error fault ∧ ∀ k < n, ∃ i, m.decode r k = .ok i) ∧
    (∀ n < m.instructions.length, ∀ fault, m.decode r n = .error fault →
      (∀ k < n, ∃ i, m.decode r k = .ok i) → ∀ later,
        { m with instructions := m.instructions.take (n + 1) ++ later }.decodeAll r =
          .error fault) ∧
    (∀ is, m.decodeAll r = .ok is → ∀ (n : Nat) c i, m.instructions[n]? = some c →
      is[n]? = some i → ∃ program accounts,
        0 ≤ c.programIndex ∧ m.keys[c.programIndex.toNat]? = some program ∧
        List.Forall₂ m.Addresses c.accountIndexes accounts ∧
        (r.get? program = none → i = .unparsed ⟨program, accounts, c.data⟩) ∧
        (r = .builtin → i.program = program ∧ i.accounts = accounts ∧
          ((∃ u, i = .unparsed u) → r.get? program = none))) := by
  refine ⟨fun is => decodeAll_eq_ok_iff, exists_decodeAll_iff, fun fault => decodeAll_eq_error_iff,
    ?_, ?_⟩
  · intro n inside fault failed passing later
    have same : ∀ k ≤ n, (m.instructions.take (n + 1) ++ later)[k]? = m.instructions[k]? := by
      intro k upto
      rw [List.getElem?_append_left (by simp; omega), List.getElem?_take_of_lt (by omega)]
    refine decodeAll_eq_error_iff.2 ⟨n, by simp; omega, ?_, ?_⟩
    · rw [decode_of_getElem?_eq inside (same n (Nat.le_refl n)), failed]
    · intro k before
      rw [decode_of_getElem?_eq (by omega) (same k (by omega))]
      exact passing k before
  · intro is decoded n c i found taken
    have alone := (decodeAll_eq_ok_iff.1 decoded).2 n i taken
    obtain ⟨program, accounts, resolved, inside, key, addressed, unparsed⟩ :=
      exists_of_decode found alone
    refine ⟨program, accounts, inside, key, addressed, unparsed, ?_⟩
    rintro rfl
    exact decodeBuiltin_of_resolve resolved alone

/-- After an instruction that is decoded, one with an account that is not in the key table hides
whatever follows. -/
theorem decodeAll_exactly_of_budget :
    let m : Message := ⟨[ComputeBudget.program.id], ⟨1, 0, 0⟩,
      [⟨0, [0], [2, 1, 0, 0, 0]⟩, ⟨0, [9], []⟩, ⟨7, [], []⟩]⟩
    (∃ i, m.decode .builtin 0 = .ok i) ∧
      m.decode .builtin 1 = .error (.unresolved ⟨.account, 9, 1⟩) ∧
      ∀ later, { m with instructions := m.instructions.take 2 ++ later }.decodeAll .builtin =
        .error (.unresolved ⟨.account, 9, 1⟩) := by
  intro m
  have first : ∃ i, m.decode .builtin 0 = .ok i := eq_ok_of_toBool (by decide +kernel)
  have second : m.decode .builtin 1 = .error (.unresolved ⟨.account, 9, 1⟩) := rfl
  have passing : ∀ k < 1, ∃ i, m.decode .builtin (k : Nat) = .ok i := by
    intro k before
    obtain rfl : k = 0 := by omega
    exact first
  have hides := (decodeAll_exactly m .builtin).2.2.2.1
  exact ⟨first, second, hides 1 (by decide) _ second passing⟩

end Message
end SolanaWire
