import SolanaWire.Builtin.Vote
import SolanaWire.Instruction.Decode
import SolanaWire.Proofs.Reading

/-!
# Reading within the input

A length that stands in front of a vector says how many items are to be read, not how much work is
done.  Every value uses at least one byte of its own, so the bytes that are there pay for whatever
is read, and a length that they do not honour is refused where they end.

The work is counted by a second reader, which gives the same outcome and counts the values that it
begins to read, with those inside other values and the one at which it fails.
-/
namespace SolanaWire
open Outcome

/-- What a reading gives, with the number of values that it has begun to read. -/
structure Tally (α : Type) where
  outcome : Except LayoutFault α
  begun : Nat

namespace Tally

variable {α β : Type}

/-- One reading after the other.  What was begun before a fault counts. -/
def andThen (x : Tally α) (f : α → Tally β) : Tally β :=
  match x.outcome with
  | .ok a => ⟨(f a).outcome, x.begun + (f a).begun⟩
  | .error fault => ⟨.error fault, x.begun⟩

instance : Monad Tally where
  pure a := ⟨.ok a, 0⟩
  bind := andThen

/-- A step that begins a value. -/
def first (x : Except LayoutFault α) : Tally α := ⟨x, 1⟩

/-- A reading as seen from a field that encloses it. -/
def under (name : String) (x : Tally α) : Tally α :=
  { x with outcome := x.outcome.mapError (·.under name) }

@[simp] theorem outcome_pure (a : α) : (pure a : Tally α).outcome = .ok a := rfl

@[simp] theorem outcome_first (x : Except LayoutFault α) : (first x).outcome = x := rfl

@[simp] theorem outcome_under (name : String) (x : Tally α) :
    (x.under name).outcome = x.outcome.mapError (·.under name) := rfl

@[simp] theorem outcome_bind (x : Tally α) (f : α → Tally β) :
    (x >>= f).outcome = x.outcome >>= fun a => (f a).outcome := by
  show (x.andThen f).outcome = _
  unfold andThen
  cases x.outcome <;> rfl

theorem begun_bind_of_ok {x : Tally α} {a : α} (ok : x.outcome = .ok a) (f : α → Tally β) :
    (x >>= f).begun = x.begun + (f a).begun := by
  show (x.andThen f).begun = _
  rw [andThen, ok]

theorem begun_bind_of_error {x : Tally α} {fault : LayoutFault} (failed : x.outcome = .error fault)
    (f : α → Tally β) : (x >>= f).begun = x.begun := by
  show (x.andThen f).begun = _
  rw [andThen, failed]

theorem begun_le_bind (x : Tally α) (f : α → Tally β) : x.begun ≤ (x >>= f).begun := by
  cases outcome : x.outcome with
  | ok a =>
    rw [begun_bind_of_ok outcome]
    exact Nat.le_add_right _ _
  | error fault => exact Nat.le_of_eq (begun_bind_of_error outcome f).symm

/-- A reading that has begun at most as many values as it has used bytes, and one more where it
fails. -/
structure IsPaid (bytes : List UInt8) (x : Tally (α × List UInt8)) : Prop where
  used : ∀ a rest, x.outcome = .ok (a, rest) → x.begun + rest.length ≤ bytes.length
  bounded : x.begun ≤ bytes.length + 1

namespace IsPaid

variable {bytes : List UInt8}

theorem pure (a : α) : IsPaid bytes (Pure.pure (a, bytes)) where
  used := by
    rintro _ _ ⟨⟩
    exact Nat.le_of_eq (Nat.zero_add _)
  bounded := Nat.zero_le _

/-- A value that uses a byte is paid for. -/
theorem first {x : Except LayoutFault (α × List UInt8)}
    (uses : ∀ a rest, x = .ok (a, rest) → rest.length < bytes.length) :
    IsPaid bytes (Tally.first x) where
  used a rest ok := by
    have shorter := uses a rest ok
    show 1 + rest.length ≤ bytes.length
    omega
  bounded := Nat.le_add_left 1 bytes.length

theorem under {x : Tally (α × List UInt8)} (paid : IsPaid bytes x) (name : String) :
    IsPaid bytes (x.under name) where
  used a rest ok := paid.used a rest (mapError_eq_ok_iff.1 ok)
  bounded := paid.bounded

/-- Readings one after the other are paid for if each of them is. -/
theorem bind {x : Tally (α × List UInt8)} {f : α × List UInt8 → Tally (β × List UInt8)}
    (paid : IsPaid bytes x) (rests : ∀ a rest, IsPaid rest (f (a, rest))) :
    IsPaid bytes (x >>= f) := by
  cases outcome : x.outcome with
  | error fault =>
    constructor
    · intro b rest ok
      rw [outcome_bind, outcome] at ok
      cases ok
    · rw [begun_bind_of_error outcome]
      exact paid.bounded
  | ok pair =>
    obtain ⟨a, tail⟩ := pair
    have before := paid.used a tail outcome
    constructor
    · intro b rest ok
      rw [outcome_bind, outcome] at ok
      have after := (rests a tail).used b rest ok
      rw [begun_bind_of_ok outcome]
      omega
    · have after := (rests a tail).bounded
      rw [begun_bind_of_ok outcome]
      omega

end IsPaid
end Tally

/-- Reads as many items as `count` says, each by `read`, and counts. -/
def tallyItems (read : List UInt8 → Tally (Value × List UInt8)) :
    (count : Nat) → List UInt8 → Tally (List Value × List UInt8)
  | 0, bytes => pure ([], bytes)
  | count + 1, bytes => do
    let (v, rest) ← read bytes
    let (vs, rest) ← tallyItems read count rest
    return (v :: vs, rest)

/-- Reads the value at the front of some bytes, and counts. -/
def FieldType.tally : FieldType → List UInt8 → Tally (Value × List UInt8)
  | option t, bytes => do
    let (flag, rest) ← (Tally.first (readExactly 1 bytes)).under "present"
    if isPresent flag then (tally t rest).under "value" else return (.null, rest)
  | vec t, bytes => do
    let (count, rest) ← (Tally.first (readLength bytes)).under "count"
    let (vs, rest) ← (tallyItems (tally t) count rest).under "items"
    return (.list vs, rest)
  | t, bytes => Tally.first (t.decode bytes)

theorem outcome_tallyItems {read : List UInt8 → Tally (Value × List UInt8)} (count : Nat)
    (bytes : List UInt8) :
    (tallyItems read count bytes).outcome =
      readItems (fun bs => (read bs).outcome) count bytes := by
  induction count generalizing bytes with
  | zero => rfl
  | succ count ih =>
    simp only [tallyItems, readItems, Tally.outcome_bind, ih]
    rfl

theorem isPaid_tallyItems {read : List UInt8 → Tally (Value × List UInt8)}
    (paid : ∀ bytes, (read bytes).IsPaid bytes) (count : Nat) (bytes : List UInt8) :
    (tallyItems read count bytes).IsPaid bytes := by
  induction count generalizing bytes with
  | zero => exact .pure []
  | succ count ih =>
    exact (paid bytes).bind fun v rest => (ih rest).bind fun vs rest => .pure (v :: vs)

theorem length_of_readExactly {n : Nat} {bytes front rest : List UInt8}
    (read : readExactly n bytes = .ok (front, rest)) : rest.length + n = bytes.length := by
  obtain ⟨width, rfl⟩ := readExactly_eq_ok_iff.1 read
  rw [List.length_append, width, Nat.add_comm]

theorem length_of_readLength {n : Nat} {bytes rest : List UInt8}
    (read : readLength bytes = .ok (n, rest)) : rest.length + 8 = bytes.length := by
  obtain ⟨-, rfl⟩ := readLength_eq_ok_iff.1 read
  rw [List.length_append, lengthPrefix, LittleEndian.length_encode, Nat.add_comm]

theorem length_of_readBytes32 {k : Bytes32} {bytes rest : List UInt8}
    (read : readBytes32 bytes = .ok (k, rest)) : rest.length + 32 = bytes.length := by
  rw [readBytes32_eq_ok_iff.1 read, List.length_append, k.length_eq, Nat.add_comm]

theorem length_lt_of_readText {s : String} {bytes rest : List UInt8}
    (read : readText bytes = .ok (s, rest)) : rest.length < bytes.length := by
  obtain ⟨-, rfl⟩ := readText_eq_ok_iff.1 read
  simp only [List.length_append, lengthPrefix, LittleEndian.length_encode]
  omega

theorem IntFormat.length_lt_of_read {f : IntFormat} {n : Int} {bytes rest : List UInt8}
    (read : f.read bytes = .ok (n, rest)) : rest.length < bytes.length := by
  obtain ⟨-, rfl⟩ := read_eq_ok_iff.1 read
  have wide : 0 < f.width := by cases f <;> decide
  rw [List.length_append, length_encode]
  omega

namespace FieldType

/-- The reader that counts reads the same. -/
theorem outcome_tally (t : FieldType) (bytes : List UInt8) :
    (t.tally bytes).outcome = t.decode bytes := by
  induction t generalizing bytes with
  | option t ih =>
    simp only [tally, decode, Tally.outcome_bind, Tally.outcome_under, Tally.outcome_first]
    congr 1
    funext pair
    split
    · rw [Tally.outcome_under, ih]
    · rfl
  | vec t ih =>
    have items : (fun bs => (t.tally bs).outcome) = t.decode := funext ih
    simp only [tally, decode, Tally.outcome_bind, Tally.outcome_under, Tally.outcome_first,
      outcome_tallyItems, items]
    rfl
  | _ => rfl

/-- Every value begins with a byte of its own, so what is read is paid for.  The induction is on the
type: a flag pays for an optional value, and a length for a vector, besides what is inside. -/
theorem isPaid_tally (t : FieldType) (bytes : List UInt8) : (t.tally bytes).IsPaid bytes := by
  induction t generalizing bytes with
  | int f =>
    refine .first fun v rest read => ?_
    obtain ⟨⟨n, tail⟩, word, ⟨⟩⟩ := bind_eq_ok_iff.1 read
    exact f.length_lt_of_read word
  | key | hash =>
    refine .first fun v rest read => ?_
    obtain ⟨⟨k, tail⟩, word, ⟨⟩⟩ := bind_eq_ok_iff.1 read
    have length := length_of_readBytes32 word
    omega
  | text =>
    refine .first fun v rest read => ?_
    obtain ⟨⟨s, tail⟩, word, ⟨⟩⟩ := bind_eq_ok_iff.1 read
    exact length_lt_of_readText word
  | option t ih =>
    have flag : (Tally.first (readExactly 1 bytes)).IsPaid bytes := .first fun front rest read => by
      have length := length_of_readExactly read
      omega
    refine (flag.under "present").bind fun front rest => ?_
    dsimp only
    split
    · exact (ih rest).under "value"
    · exact .pure Value.null
  | vec t ih =>
    have count : (Tally.first (readLength bytes)).IsPaid bytes := .first fun n rest read => by
      have length := length_of_readLength read
      omega
    refine (count.under "count").bind fun n rest => ?_
    exact ((isPaid_tallyItems ih n rest).under "items").bind fun vs rest => .pure (Value.list vs)
  | enumerated f e =>
    refine .first fun v rest read => ?_
    obtain ⟨⟨n, tail⟩, word, member⟩ := bind_eq_ok_iff.1 read
    dsimp only at member
    split at member
    · cases member
      exact f.length_lt_of_read word
    · cases member

theorem begun_tally_pos (t : FieldType) (bytes : List UInt8) : 0 < (t.tally bytes).begun := by
  cases t with
  | option t => exact Tally.begun_le_bind ((Tally.first (readExactly 1 bytes)).under "present") _
  | vec t => exact Tally.begun_le_bind ((Tally.first (readLength bytes)).under "count") _
  | _ => exact Nat.one_pos

/-- A value that is read uses bytes, at least as many as values have been begun. -/
theorem begun_le_of_decode {t : FieldType} {bytes rest : List UInt8} {v : Value}
    (read : t.decode bytes = .ok (v, rest)) :
    (t.tally bytes).begun + rest.length ≤ bytes.length :=
  (t.isPaid_tally bytes).used v rest ((t.outcome_tally bytes).trans read)

theorem length_lt_of_decode {t : FieldType} {bytes rest : List UInt8} {v : Value}
    (read : t.decode bytes = .ok (v, rest)) : rest.length < bytes.length := by
  have paid := begun_le_of_decode read
  have begun := t.begun_tally_pos bytes
  omega

end FieldType

section Items

variable {read : List UInt8 → Except LayoutFault (Value × List UInt8)}
  (uses : ∀ bytes rest v, read bytes = .ok (v, rest) → rest.length < bytes.length)

include uses

/-- Items that use bytes are at most as many as the bytes that they use. -/
theorem length_le_of_readItems {count : Nat} {bytes rest : List UInt8} {vs : List Value}
    (items : readItems read count bytes = .ok (vs, rest)) :
    vs.length = count ∧ vs.length + rest.length ≤ bytes.length := by
  induction count generalizing bytes vs with
  | zero =>
    cases items
    exact ⟨rfl, Nat.le_of_eq (Nat.zero_add _)⟩
  | succ count ih =>
    rw [readItems, bind_eq_ok_iff] at items
    obtain ⟨⟨v, tail⟩, first, items⟩ := items
    rw [bind_eq_ok_iff] at items
    obtain ⟨⟨others, last⟩, items, ⟨⟩⟩ := items
    obtain ⟨rfl, paid⟩ := ih items
    have shorter := uses _ _ _ first
    refine ⟨rfl, ?_⟩
    rw [List.length_cons]
    omega

/-- More items than there are bytes cannot be read.  Some are read, not more than there are bytes,
and the next one fails. -/
theorem exists_of_lt_count {count : Nat} {bytes : List UInt8} (short : bytes.length < count) :
    ∃ vs rest fault, vs.length ≤ bytes.length ∧ readItems read vs.length bytes = .ok (vs, rest) ∧
      read rest = .error fault ∧ readItems read count bytes = .error fault := by
  induction count generalizing bytes with
  | zero => exact absurd short (Nat.not_lt_zero _)
  | succ count ih =>
    cases first : read bytes with
    | error fault =>
      refine ⟨[], bytes, fault, Nat.zero_le _, rfl, first, ?_⟩
      rw [readItems, first]
      rfl
    | ok pair =>
      obtain ⟨v, tail⟩ := pair
      have shorter := uses _ _ _ first
      obtain ⟨vs, rest, fault, few, items, next, failed⟩ := ih (by omega : tail.length < count)
      refine ⟨v :: vs, rest, fault, ?_, ?_, next, ?_⟩
      · rw [List.length_cons]
        omega
      · rw [List.length_cons, readItems, first, ok_bind]
        simp only [items]
        rfl
      · rw [readItems, first, ok_bind]
        simp only [failed]
        rfl

end Items

/-- A field that cannot be read makes the fields after it unread, whatever comes before it. -/
theorem readFields_of_error {before after : List Field} {f : Field} {data bytes : List UInt8}
    {vs : List Value} {fault : LayoutFault} (reached : readFields before data = .ok (vs, bytes))
    (failed : f.type.decode bytes = .error fault) :
    readFields (before ++ f :: after) data = .error (fault.under f.name) := by
  induction before generalizing data vs with
  | nil =>
    cases reached
    rw [List.nil_append, readFields, failed]
    rfl
  | cons g before ih =>
    rw [readFields, bind_eq_ok_iff] at reached
    obtain ⟨⟨v, tail⟩, first, reached⟩ := reached
    rw [bind_eq_ok_iff] at reached
    obtain ⟨⟨others, last⟩, reached, ⟨⟩⟩ := reached
    rw [List.cons_append, readFields, first, ok_bind]
    simp only [ih reached, error_bind]

/-- The parameters of a variant are malformed if one of their fields is. -/
theorem Variant.read_of_error {v : Variant} {before after : List Field} {f : Field}
    {data bytes : List UInt8} {vs : List Value} {fault : LayoutFault}
    (form : v.form = .fields (before ++ f :: after)) (shown : v.readFault? = none)
    (reached : readFields before data = .ok (vs, bytes))
    (failed : f.type.decode bytes = .error fault) :
    v.read data = .error (.malformed v.name (fault.under f.name)) := by
  simp only [Variant.read, shown, form, Form.decode, readFields_of_error reached failed, error_bind]

namespace FieldType

variable {t : FieldType} {bytes rest : List UInt8} {v : Value}

/-- The items of a vector are read from what follows its length. -/
theorem exists_of_decode_vec (read : (vec t).decode bytes = .ok (v, rest)) :
    ∃ count following vs, readLength bytes = .ok (count, following) ∧
      readItems t.decode count following = .ok (vs, rest) ∧ v = .list vs := by
  rw [decode, bind_eq_ok_iff] at read
  obtain ⟨⟨count, following⟩, length, read⟩ := read
  rw [bind_eq_ok_iff] at read
  obtain ⟨⟨vs, last⟩, items, ⟨⟩⟩ := read
  exact ⟨count, following, vs, mapError_eq_ok_iff.1 length, mapError_eq_ok_iff.1 items, rfl⟩

theorem decode_vec_of_error {count : Nat} {following : List UInt8} {fault : LayoutFault}
    (length : readLength bytes = .ok (count, following))
    (failed : readItems t.decode count following = .error fault) :
    (vec t).decode bytes = .error (fault.under "items") := by
  rw [decode, length]
  simp only [mapError_ok, ok_bind, failed, mapError_error, error_bind]

/-- Reading begins at most one value more than there are bytes, whatever lengths they declare, and a
value that is read uses at least one byte for each value that was begun.  A vector has as many items
as its length says, and these are at most as many as the bytes that they use.  A length that is
greater than the number of bytes that follow it is refused: items are read, at most as many as there
are bytes, and the next one cannot be read.  Its fault is that of the vector, and parameters that
the vector is one of are malformed. -/
theorem reading_bounded (t : FieldType) (bytes : List UInt8) :
    ((t.tally bytes).outcome = t.decode bytes ∧ (t.tally bytes).begun ≤ bytes.length + 1) ∧
    (∀ v rest, t.decode bytes = .ok (v, rest) → rest.length < bytes.length ∧
      (t.tally bytes).begun + rest.length ≤ bytes.length) ∧
    (∀ v rest, (vec t).decode bytes = .ok (v, rest) → ∃ count following vs,
      readLength bytes = .ok (count, following) ∧ v = .list vs ∧ vs.length = count ∧
        vs.length + rest.length ≤ following.length) ∧
    ∀ count following, readLength bytes = .ok (count, following) → following.length < count →
      ∃ vs rest fault, vs.length ≤ following.length ∧
        readItems t.decode vs.length following = .ok (vs, rest) ∧ t.decode rest = .error fault ∧
        (vec t).decode bytes = .error (fault.under "items") ∧
        ∀ (v : Variant) (before after : List Field) (f : Field) (data : List UInt8)
          (us : List Value), v.form = .fields (before ++ f :: after) → v.readFault? = none →
          f.type = vec t → readFields before data = .ok (us, bytes) →
          v.read data = .error (.malformed v.name ((fault.under "items").under f.name)) := by
  have uses (bytes rest : List UInt8) (v : Value) (read : t.decode bytes = .ok (v, rest)) :
      rest.length < bytes.length := length_lt_of_decode read
  refine ⟨⟨t.outcome_tally bytes, (t.isPaid_tally bytes).bounded⟩, ?_, ?_, ?_⟩
  · intro v rest read
    exact ⟨length_lt_of_decode read, begun_le_of_decode read⟩
  · intro v rest read
    obtain ⟨count, following, vs, length, items, rfl⟩ := exists_of_decode_vec read
    obtain ⟨counted, few⟩ := length_le_of_readItems uses items
    exact ⟨count, following, vs, length, rfl, counted, few⟩
  · intro count following length short
    obtain ⟨vs, rest, fault, few, items, next, failed⟩ := exists_of_lt_count uses short
    have refused := decode_vec_of_error length failed
    refine ⟨vs, rest, fault, few, items, next, refused, ?_⟩
    rintro v before after f data us form shown type reached
    rw [← type] at refused
    exact v.read_of_error form shown reached refused

/-- A vote on as many slots as can be declared, of which one is there and a part of the next. -/
theorem reading_bounded_of_vote :
    let bytes : List UInt8 := List.replicate 8 255 ++ [1, 0, 0, 0, 0, 0, 0, 0, 2]
    readLength bytes = .ok (18446744073709551615, [1, 0, 0, 0, 0, 0, 0, 0, 2]) ∧
      ∃ vs rest fault, vs.length ≤ 9 ∧
        readItems (int .u64).decode vs.length [1, 0, 0, 0, 0, 0, 0, 0, 2] = .ok (vs, rest) ∧
        (int .u64).decode rest = .error fault ∧
        Vote.vote.read bytes =
          .error (.malformed "Vote" ((fault.under "items").under "slots")) := by
  intro bytes
  have length : readLength bytes = .ok (18446744073709551615, [1, 0, 0, 0, 0, 0, 0, 0, 2]) :=
    eq_ok_of_toOption (by decide +kernel)
  obtain ⟨vs, rest, fault, few, items, next, -, malformed⟩ :=
    (reading_bounded (int .u64) bytes).2.2.2 _ _ length (by decide)
  exact ⟨length, vs, rest, fault, few, items, next,
    malformed Vote.vote [] _ ⟨"slots", vec (int .u64), false⟩ bytes [] rfl (by decide) rfl rfl⟩

end FieldType
end SolanaWire
