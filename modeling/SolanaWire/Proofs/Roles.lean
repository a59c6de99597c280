import SolanaWire.Proofs.AccountLists

/-!
# Roles of keys

The header cuts the key table into four segments: signers that may be written, read-only signers,
other keys that may be written, and other keys that are read-only.  If its counts fit the table,
then they are the lengths of the segments.  Whatever they are, no key that may be written follows a
read-only one among the signers, nor among the others.  An account has the role of its position,
whichever instruction names it.
-/
namespace SolanaWire

/-- What holds between two bounds holds of the positions between them, in their order. -/
theorem filter_range_eq_range' {n a b : Nat} (ordered : a ≤ b) (within : b ≤ n) {P : Nat → Bool}
    (between : ∀ p < n, P p ↔ a ≤ p ∧ p < b) :
    (List.range n).filter P = List.range' a (b - a) := by
  have split : List.range n = List.range' 0 a ++ List.range' a (b - a) ++ List.range' b (n - b) := by
    have lower := List.range'_append_1 (s := 0) (m := a) (n := b - a)
    have upper := List.range'_append_1 (s := 0) (m := b) (n := n - b)
    rw [Nat.zero_add, Nat.add_sub_cancel' ordered] at lower
    rw [Nat.zero_add, Nat.add_sub_cancel' within] at upper
    rw [lower, upper, List.range_eq_range']
  have outside {x k : Nat} (far : ∀ p, x ≤ p → p < x + k → p < n ∧ ¬ (a ≤ p ∧ p < b)) :
      (List.range' x k).filter P = [] := by
    rw [List.filter_eq_nil_iff]
    intro p member
    obtain ⟨lower, upper⟩ := List.mem_range'_1.1 member
    rw [between p (far p lower upper).1]
    exact (far p lower upper).2
  have inside : (List.range' a (b - a)).filter P = List.range' a (b - a) := by
    rw [List.filter_eq_self]
    intro p member
    obtain ⟨lower, upper⟩ := List.mem_range'_1.1 member
    exact (between p (by omega)).2 (by omega)
  rw [split, List.filter_append, List.filter_append, outside (fun p _ _ => by omega), inside,
    outside (fun p _ _ => by omega), List.nil_append, List.append_nil]

namespace Message

/-- The positions of the key table. -/
def keyPositions (m : Message) : List Nat := List.range m.keys.length

/-- The positions of the keys that sign. -/
def signers (m : Message) : List Nat := m.keyPositions.filter (fun p => m.isSigner p)

/-- The positions of the keys that do not sign. -/
def others (m : Message) : List Nat := m.keyPositions.filter (fun p => !m.isSigner p)

/-- Those of some positions whose keys are read-only. -/
def readOnly (m : Message) (positions : List Nat) : List Nat :=
  positions.filter (fun p => !m.isWritable p)

/-- An instruction of a message resolves, and it names a position of the key table, for which it has
an account. -/
def Refers (m : Message) (index position : Int) (a : Account) : Prop :=
  ∃ c accounts program, m.HasInstruction index c ∧ m.resolve index = .ok (accounts, program) ∧
    ∃ n : Nat, c.accountIndexes[n]? = some position ∧ accounts[n]? = some a

variable {m : Message} {r s u p : Nat}

theorem isSigner_iff (header : m.header = ⟨r, s, u⟩) : m.isSigner p ↔ p < r := by
  simp [isSigner, header]

/-- A signer may be written unless it is one of the last. -/
theorem isWritable_signer_iff (header : m.header = ⟨r, s, u⟩) (signs : p < r) :
    m.isWritable p ↔ p + s < r := by
  have signs' : (p : Int) < r := by omega
  simp only [isWritable, header, if_pos signs', decide_eq_true_iff]
  omega

/-- Another key may be written unless it is one of the last of the table. -/
theorem isWritable_other_iff (header : m.header = ⟨r, s, u⟩) (other : r ≤ p) :
    m.isWritable p ↔ p + u < m.keys.length := by
  have other' : ¬ (p : Int) < r := by omega
  simp only [isWritable, header, if_neg other', decide_eq_true_iff]
  omega

theorem signers_eq (header : m.header = ⟨r, s, u⟩) (within : r ≤ m.keys.length) :
    m.signers = List.range' 0 r :=
  filter_range_eq_range' (Nat.zero_le r) within (fun p _ => by simp [isSigner_iff header])

theorem readOnly_signers_eq (header : m.header = ⟨r, s, u⟩) (fits : s ≤ r)
    (within : r ≤ m.keys.length) : m.readOnly m.signers = List.range' (r - s) s := by
  rw [readOnly, signers, List.filter_filter]
  have segment := filter_range_eq_range' (a := r - s) (P := fun p => !m.isWritable p && m.isSigner p)
    (Nat.sub_le r s) within ?_
  · rw [keyPositions, segment, Nat.sub_sub_self fits]
  · intro p inside
    rw [Bool.and_eq_true, isSigner_iff header, Bool.not_eq_true', ← Bool.not_eq_true]
    constructor
    · rintro ⟨kept, signs⟩
      rw [isWritable_signer_iff header signs] at kept
      omega
    · rintro ⟨late, signs⟩
      rw [isWritable_signer_iff header signs]
      omega

theorem readOnly_others_eq (header : m.header = ⟨r, s, u⟩) (within : r ≤ m.keys.length)
    (fits : u ≤ m.keys.length - r) :
    m.readOnly m.others = List.range' (m.keys.length - u) u := by
  rw [readOnly, others, List.filter_filter]
  have segment := filter_range_eq_range' (a := m.keys.length - u)
    (P := fun p => !m.isWritable p && !m.isSigner p) (Nat.sub_le m.keys.length u) (Nat.le_refl _) ?_
  · rw [keyPositions, segment, Nat.sub_sub_self (by omega)]
  · intro p inside
    rw [Bool.and_eq_true, Bool.not_eq_true', ← Bool.not_eq_true, Bool.not_eq_true',
      ← Bool.not_eq_true, isSigner_iff header]
    constructor
    · rintro ⟨kept, other⟩
      rw [isWritable_other_iff header (Nat.not_lt.1 other)] at kept
      omega
    · rintro ⟨late, -⟩
      have other : r ≤ p := by omega
      rw [isWritable_other_iff header other]
      omega

/-- What an instruction names by a position is the account at that position, in its role. -/
theorem Refers.addresses {index position : Int} {a : Account} (refers : m.Refers index position a) :
    m.Addresses position a := by
  obtain ⟨c, accounts, program, found, resolved, n, named, given⟩ := refers
  obtain ⟨c', found', listed, -⟩ := resolve_eq_ok_iff.1 resolved
  rw [instructionAt_eq_ok_iff] at found'
  have same : c = c' := Option.some.inj (found.2.symm.trans found'.2)
  subst same
  obtain ⟨-, each⟩ := List.forall₂_iff_get.1 (accountsOf_eq_ok_iff.1 listed)
  obtain ⟨inside, rfl⟩ := List.getElem?_eq_some_iff.1 named
  obtain ⟨inside', rfl⟩ := List.getElem?_eq_some_iff.1 given
  exact each n inside inside'

theorem Addresses.unique {position : Int} {a b : Account} (first : m.Addresses position a)
    (second : m.Addresses position b) : a = b :=
  Except.ok.inj ((accountAt_eq_ok_iff.2 first).symm.trans (accountAt_eq_ok_iff.2 second))

/-- Every account that a resolved instruction names has an account. -/
theorem exists_refers {index : Int} {c : CompiledInstruction} (found : m.HasInstruction index c)
    {accounts : List Account} {program : Key} (resolved : m.resolve index = .ok (accounts, program))
    {position : Int} (named : position ∈ c.accountIndexes) : ∃ a, m.Refers index position a := by
  obtain ⟨c', found', listed, -⟩ := resolve_eq_ok_iff.1 resolved
  rw [instructionAt_eq_ok_iff] at found'
  have same : c = c' := Option.some.inj (found.2.symm.trans found'.2)
  subst same
  have length := (accountsOf_eq_ok_iff.1 listed).length_eq
  obtain ⟨n, inside, rfl⟩ := List.getElem_of_mem named
  exact ⟨accounts[n], c, accounts, program, found, resolved, n, List.getElem?_eq_getElem inside,
    List.getElem?_eq_getElem (length ▸ inside)⟩

/-- The roles of the keys of every message whose header has counts that are not negative.  If the
counts fit the table, then as many keys sign as the header says, and they are the first ones; as
many of them are read-only as it says, and they are the last of the signers; as many of the others
are read-only as it says, and they are the last keys of the table; and all else may be written.
Whatever the counts are, no key that may be written follows a read-only one on its side.  All
references to a position, from whichever instructions, have one account, in the role of that
position. -/
theorem roles_exactly (header : m.header = ⟨r, s, u⟩) :
    (s ≤ r → r ≤ m.keys.length → u ≤ m.keys.length - r →
      m.signers = m.keyPositions.take r ∧ m.signers.length = r ∧
      m.readOnly m.signers = m.signers.drop (r - s) ∧ (m.readOnly m.signers).length = s ∧
      m.readOnly m.others = m.keyPositions.drop (m.keys.length - u) ∧
      (m.readOnly m.others).length = u ∧
      ∀ p ∈ m.keyPositions, p ∉ m.signers.drop (r - s) →
        p ∉ m.keyPositions.drop (m.keys.length - u) → m.isWritable p) ∧
    (∀ p q : Nat, p ≤ q → q < m.keys.length → m.isSigner p = m.isSigner q →
      m.isWritable q → m.isWritable p) ∧
    (∀ index c accounts program, m.HasInstruction index c →
      m.resolve index = .ok (accounts, program) →
      ∀ position ∈ c.accountIndexes, ∃ a, m.Refers index position a) ∧
    (∀ index position a, m.Refers index position a → m.Addresses position a) ∧
    ∀ index index' position a b, m.Refers index position a → m.Refers index' position b →
      a = b := by
  refine ⟨?_, ?_, fun _ _ _ _ found resolved _ named => exists_refers found resolved named,
    fun _ _ _ refers => refers.addresses,
    fun _ _ _ _ _ first second => first.addresses.unique second.addresses⟩
  · intro signed within unsigned
    have signers := signers_eq header within
    have readOnlySigners := readOnly_signers_eq header signed within
    have readOnlyOthers := readOnly_others_eq header within unsigned
    have lastSigners : m.signers.drop (r - s) = List.range' (r - s) s := by
      rw [signers, List.drop_range', Nat.zero_add, Nat.mul_one, Nat.sub_sub_self signed]
    have lastKeys : m.keyPositions.drop (m.keys.length - u) =
        List.range' (m.keys.length - u) u := by
      rw [keyPositions, List.range_eq_range', List.drop_range', Nat.zero_add, Nat.mul_one,
        Nat.sub_sub_self (by omega)]
    refine ⟨?_, ?_, ?_, ?_, ?_, ?_, ?_⟩
    · rw [signers, keyPositions, List.take_range, Nat.min_eq_left within, List.range_eq_range']
    · rw [signers, List.length_range']
    · rw [readOnlySigners, lastSigners]
    · rw [readOnlySigners, List.length_range']
    · rw [readOnlyOthers, lastKeys]
    · rw [readOnlyOthers, List.length_range']
    · intro p inside notSigned notUnsigned
      rw [lastSigners, List.mem_range'_1] at notSigned
      rw [lastKeys, List.mem_range'_1] at notUnsigned
      rw [keyPositions, List.mem_range] at inside
      rcases Nat.lt_or_ge p r with signs | other
      · rw [isWritable_signer_iff header signs]
        omega
      · rw [isWritable_other_iff header other]
        omega
  · intro p q ordered inside side writable
    rcases Nat.lt_or_ge q r with signs | other
    · rw [isWritable_signer_iff header signs] at writable
      rw [isWritable_signer_iff header (by omega)]
      omega
    · have other' : r ≤ p := by
        rw [Bool.eq_iff_iff, isSigner_iff header, isSigner_iff header] at side
        omega
      rw [isWritable_other_iff header other] at writable
      rw [isWritable_other_iff header other']
      omega

/-- Two instructions share a read-only signer of a table with a key of each role. -/
theorem roles_exactly_of_shared :
    let m : Message := ⟨[.ofNat 1, .ofNat 2, .ofNat 3, .ofNat 4], ⟨2, 1, 1⟩,
      [⟨3, [2, 1], []⟩, ⟨3, [1, 0, 1], []⟩]⟩
    m.header = ⟨(2 : Nat), (1 : Nat), (1 : Nat)⟩ ∧ m.signers = [0, 1] ∧
      m.readOnly m.signers = [1] ∧ m.readOnly m.others = [3] ∧ m.isWritable 2 ∧
      ∃ a, m.Refers 0 1 a ∧ m.Refers 1 1 a ∧ a.isSigner ∧ ¬ a.isWritable := by
  intro m
  have header : m.header = ⟨(2 : Nat), (1 : Nat), (1 : Nat)⟩ := rfl
  obtain ⟨segments, -, references, addressed, shared⟩ := roles_exactly header
  obtain ⟨signers, -, readOnlySigners, -, readOnlyOthers, -, rest⟩ :=
    segments (by decide) (by decide) (by decide)
  rw [signers] at readOnlySigners rest
  obtain ⟨a, first⟩ := references 0 ⟨3, [2, 1], []⟩ _ _ ⟨by decide, rfl⟩ rfl 1 (by decide)
  obtain ⟨b, second⟩ := references 1 ⟨3, [1, 0, 1], []⟩ _ _ ⟨by decide, rfl⟩ rfl 1 (by decide)
  have same : a = b := shared 0 1 1 a b first second
  subst same
  obtain ⟨-, -, signs, writable⟩ := addressed 0 1 a first
  refine ⟨header, signers, readOnlySigners, readOnlyOthers,
    rest 2 (by decide) (by decide) (by decide), a, first, second, ?_, ?_⟩
  · rw [signs]
    rfl
  · rw [writable]
    decide

end Message
end SolanaWire
