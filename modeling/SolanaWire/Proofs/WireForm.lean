import SolanaWire.Proofs.Reading

/-!
# Wire forms

The grammar of the values of a field type.  Every value has one wire form, except that the flag of
an optional value may be any byte other than zero.  The flags are therefore marked in a wire form,
and two readings of its bytes are kept: as they stand, and as they are written.

Reading a value accepts the wire forms of the grammar and nothing else, whatever follows them.
-/
namespace SolanaWire
open Outcome

/-- A byte of a wire form.  The flags of optional values are marked. -/
structure Cell where
  byte : UInt8
  isFlag : Bool := false
  deriving DecidableEq

/-- The byte that is written in place of one that was read: every set flag becomes one. -/
def Cell.canonical (c : Cell) : UInt8 := if c.isFlag ∧ c.byte ≠ 0 then 1 else c.byte

/-- Bytes that are no flags. -/
def plain (bytes : List UInt8) : List Cell := bytes.map (fun b => { byte := b })

/-- The bytes of a wire form as they stand. -/
def bytesOf (cells : List Cell) : List UInt8 := cells.map Cell.byte

/-- The bytes of a wire form with every flag as it is written. -/
def canonicalOf (cells : List Cell) : List UInt8 := cells.map Cell.canonical

@[simp] theorem bytesOf_nil : bytesOf [] = [] := rfl

@[simp] theorem bytesOf_cons (c : Cell) (cells : List Cell) :
    bytesOf (c :: cells) = c.byte :: bytesOf cells := rfl

@[simp] theorem bytesOf_append (cells others : List Cell) :
    bytesOf (cells ++ others) = bytesOf cells ++ bytesOf others := List.map_append

@[simp] theorem bytesOf_plain (bytes : List UInt8) : bytesOf (plain bytes) = bytes := by
  simp [bytesOf, plain, Function.comp_def]

@[simp] theorem canonicalOf_nil : canonicalOf [] = [] := rfl

@[simp] theorem canonicalOf_cons (c : Cell) (cells : List Cell) :
    canonicalOf (c :: cells) = c.canonical :: canonicalOf cells := rfl

@[simp] theorem canonicalOf_append (cells others : List Cell) :
    canonicalOf (cells ++ others) = canonicalOf cells ++ canonicalOf others := List.map_append

@[simp] theorem canonicalOf_plain (bytes : List UInt8) : canonicalOf (plain bytes) = bytes := by
  simp [canonicalOf, plain, Cell.canonical, Function.comp_def]

/-- A byte of a wire form as it is written. -/
def Cell.normal (c : Cell) : Cell := ⟨c.canonical, c.isFlag⟩

/-- Whether two wire forms differ in nothing but the bytes that set their flags. -/
def sameUpToFlags (cells others : List Cell) : Prop :=
  cells.map Cell.normal = others.map Cell.normal

theorem eq_of_normal_eq {c : Cell} {b : UInt8} (h : c.normal = Cell.normal ⟨b, false⟩) :
    c = ⟨b, false⟩ := by
  obtain ⟨byte, isFlag⟩ := c
  have clear : isFlag = false := congrArg Cell.isFlag h
  subst clear
  have same : byte = b := by simpa [Cell.normal, Cell.canonical] using h
  rw [same]

theorem flag_of_normal_eq {c : Cell} {b : UInt8}
    (h : c.normal = Cell.normal ⟨b, true⟩) : c = ⟨c.byte, true⟩ ∧ (c.byte = 0 ↔ b = 0) := by
  obtain ⟨byte, isFlag⟩ := c
  have set : isFlag = true := congrArg Cell.isFlag h
  subst set
  have same : Cell.canonical ⟨byte, true⟩ = Cell.canonical ⟨b, true⟩ := congrArg Cell.byte h
  refine ⟨rfl, ?_⟩
  by_cases zero : byte = 0 <;> by_cases zero' : b = 0 <;>
    simp_all [Cell.canonical]

theorem eq_plain_of_sameUpToFlags {cells : List Cell} {bytes : List UInt8}
    (h : sameUpToFlags cells (plain bytes)) : cells = plain bytes := by
  unfold sameUpToFlags plain at *
  induction bytes generalizing cells with
  | nil => simpa using h
  | cons b bytes ih =>
    obtain ⟨c, others, rfl, first, rest⟩ := List.map_eq_cons_iff.1 h
    rw [eq_of_normal_eq first, ih rest]
    rfl

mutual

/-- The wire forms of a value of a type. -/
inductive FieldType.Spells : FieldType → Value → List Cell → Prop
  | int {f : IntFormat} {n : Int} (fits : f.Fits n) : Spells (.int f) (.int n) (plain (f.encode n))
  | key (k : Key) : Spells .key (.key k) (plain k.bytes)
  | hash (h : Hash) : Spells .hash (.hash h) (plain h.bytes)
  | text {s : String} (short : (Utf8.encode s.toList).length < lengthLimit) :
      Spells .text (.text s)
        (plain (lengthPrefix (Utf8.encode s.toList).length ++ Utf8.encode s.toList))
  | absent (t : FieldType) : Spells (.option t) .null [⟨0, true⟩]
  | present {t : FieldType} {v : Value} {cells : List Cell} {flag : UInt8} (set : flag ≠ 0)
      (value : Spells t v cells) : Spells (.option t) v (⟨flag, true⟩ :: cells)
  | vec {t : FieldType} {vs : List Value} {cells : List Cell}
      (short : vs.length < LittleEndian.capacity 8)
      (items : SpellsAll (List.replicate vs.length t) vs cells) :
      Spells (.vec t) (.list vs) (plain (lengthPrefix vs.length) ++ cells)
  | enumerated {f : IntFormat} {e : Enumeration} {m : Member} (fits : f.Fits m.number)
      (member : e.member? m.number = some m) :
      Spells (.enumerated f e) (.member m) (plain (f.encode m.number))

/-- The wire forms of some values of some types, one after the other. -/
inductive FieldType.SpellsAll : List FieldType → List Value → List Cell → Prop
  | nil : SpellsAll [] [] []
  | cons {t : FieldType} {ts : List FieldType} {v : Value} {vs : List Value}
      {front rest : List Cell} (first : Spells t v front) (others : SpellsAll ts vs rest) :
      SpellsAll (t :: ts) (v :: vs) (front ++ rest)

end

namespace FieldType

theorem SpellsAll.length_eq {ts : List FieldType} {vs : List Value} {cells : List Cell}
    (h : SpellsAll ts vs cells) : ts.length = vs.length := by
  induction vs generalizing ts cells with
  | nil => cases h; rfl
  | cons v vs ih =>
    cases h with
    | cons first others => simp [ih others]

theorem isPresent_iff {flag : UInt8} : isPresent [flag] = true ↔ flag ≠ 0 := by
  simp [isPresent]

theorem spellsAll_of_readItems {t : FieldType}
    (ht : ∀ {bytes rest : List UInt8} {v : Value}, t.decode bytes = .ok (v, rest) →
      ∃ cells, t.Spells v cells ∧ bytes = bytesOf cells ++ rest)
    {count : Nat} {bytes rest : List UInt8} {vs : List Value}
    (h : readItems t.decode count bytes = .ok (vs, rest)) :
    ∃ cells, SpellsAll (List.replicate count t) vs cells ∧ bytes = bytesOf cells ++ rest := by
  induction count generalizing bytes vs with
  | zero =>
    cases h
    exact ⟨[], .nil, rfl⟩
  | succ count ih =>
    rw [readItems, bind_eq_ok_iff] at h
    obtain ⟨⟨v, tail⟩, hv, h⟩ := h
    rw [bind_eq_ok_iff] at h
    obtain ⟨⟨others, last⟩, hothers, h⟩ := h
    cases h
    obtain ⟨front, first, rfl⟩ := ht hv
    obtain ⟨cells, items, rfl⟩ := ih hothers
    exact ⟨front ++ cells, .cons first items, by simp⟩

theorem readItems_of_spellsAll {t : FieldType}
    (ht : ∀ {v : Value} {cells : List Cell}, t.Spells v cells → ∀ rest,
      t.decode (bytesOf cells ++ rest) = .ok (v, rest))
    {vs : List Value} {cells : List Cell}
    (h : SpellsAll (List.replicate vs.length t) vs cells) (rest : List UInt8) :
    readItems t.decode vs.length (bytesOf cells ++ rest) = .ok (vs, rest) := by
  induction vs generalizing cells with
  | nil =>
    cases h
    rfl
  | cons v vs ih =>
    rw [List.length_cons, List.replicate_succ] at h
    cases h with
    | cons first items =>
      rw [bytesOf_append, List.append_assoc, List.length_cons, readItems, ht first, ok_bind]
      simp only [ih items, ok_bind]
      rfl

/-- What is read as a value is one of its wire forms and the rest. -/
theorem spells_of_decode {t : FieldType} {bytes rest : List UInt8} {v : Value}
    (h : t.decode bytes = .ok (v, rest)) :
    ∃ cells, t.Spells v cells ∧ bytes = bytesOf cells ++ rest := by
  induction t generalizing bytes v rest with
  | int f =>
    rw [decode, bind_eq_ok_iff] at h
    obtain ⟨⟨n, tail⟩, hn, h⟩ := h
    cases h
    obtain ⟨fits, rfl⟩ := read_eq_ok_iff.1 hn
    exact ⟨_, .int fits, by simp⟩
  | key =>
    rw [decode, bind_eq_ok_iff] at h
    obtain ⟨⟨k, tail⟩, hk, h⟩ := h
    cases h
    exact ⟨_, .key k, by simpa using readBytes32_eq_ok_iff.1 hk⟩
  | hash =>
    rw [decode, bind_eq_ok_iff] at h
    obtain ⟨⟨k, tail⟩, hk, h⟩ := h
    cases h
    exact ⟨_, .hash k, by simpa using readBytes32_eq_ok_iff.1 hk⟩
  | text =>
    rw [decode, bind_eq_ok_iff] at h
    obtain ⟨⟨s, tail⟩, hs, h⟩ := h
    cases h
    obtain ⟨short, rfl⟩ := readText_eq_ok_iff.1 hs
    exact ⟨_, .text short, by simp⟩
  | option t ih =>
    rw [decode, bind_eq_ok_iff] at h
    obtain ⟨⟨flag, tail⟩, hflag, h⟩ := h
    rw [mapError_eq_ok_iff] at hflag
    obtain ⟨width, rfl⟩ := readExactly_eq_ok_iff.1 hflag
    obtain ⟨b, rfl⟩ := List.length_eq_one_iff.1 width
    dsimp only at h
    split at h
    · rename_i set
      rw [mapError_eq_ok_iff] at h
      obtain ⟨cells, value, rfl⟩ := ih h
      exact ⟨⟨b, true⟩ :: cells, .present (isPresent_iff.1 set) value, rfl⟩
    · rename_i clear
      cases h
      have zero : b = 0 := by simpa [isPresent] using clear
      exact ⟨[⟨b, true⟩], zero ▸ .absent t, rfl⟩
  | vec t ih =>
    rw [decode, bind_eq_ok_iff] at h
    obtain ⟨⟨count, tail⟩, hcount, h⟩ := h
    rw [mapError_eq_ok_iff] at hcount
    obtain ⟨short, rfl⟩ := readLength_eq_ok_iff.1 hcount
    rw [bind_eq_ok_iff] at h
    obtain ⟨⟨vs, last⟩, hitems, h⟩ := h
    rw [mapError_eq_ok_iff] at hitems
    cases h
    obtain ⟨cells, items, rfl⟩ := spellsAll_of_readItems ih hitems
    obtain rfl : count = vs.length := by simpa using items.length_eq
    exact ⟨plain (lengthPrefix vs.length) ++ cells, .vec short items, by simp⟩
  | enumerated f e =>
    rw [decode, bind_eq_ok_iff] at h
    obtain ⟨⟨n, tail⟩, hn, h⟩ := h
    obtain ⟨fits, rfl⟩ := read_eq_ok_iff.1 hn
    dsimp only at h
    split at h
    · rename_i m member
      cases h
      obtain rfl := Enumeration.number_of_member? member
      exact ⟨_, .enumerated fits member, by simp⟩
    · cases h

/-- Every wire form of a value is read as the value, whatever follows. -/
theorem decode_of_spells {t : FieldType} {v : Value} {cells : List Cell} (h : t.Spells v cells)
    (rest : List UInt8) : t.decode (bytesOf cells ++ rest) = .ok (v, rest) := by
  induction t generalizing v cells rest with
  | int f =>
    cases h with
    | int fits =>
      rw [decode, bytesOf_plain, read_eq_ok_iff.2 ⟨fits, rfl⟩]
      rfl
  | key =>
    cases h with
    | key k =>
      rw [decode, bytesOf_plain, readBytes32_eq_ok_iff.2 rfl]
      rfl
  | hash =>
    cases h with
    | hash k =>
      rw [decode, bytesOf_plain, readBytes32_eq_ok_iff.2 rfl]
      rfl
  | text =>
    cases h with
    | text short =>
      rw [decode, bytesOf_plain, List.append_assoc, readText_eq_ok_iff.2 ⟨short, rfl⟩]
      rfl
  | option t ih =>
    cases h with
    | absent => rfl
    | @present _ _ cells flag set value =>
      have first : readExactly 1 ([flag] ++ (bytesOf cells ++ rest)) =
          .ok ([flag], bytesOf cells ++ rest) := readExactly_append rfl
      rw [List.singleton_append] at first
      rw [bytesOf_cons, List.cons_append, decode, first]
      simp only [mapError_ok, ok_bind, isPresent_iff.2 set, if_true, ih value]
  | vec t ih =>
    cases h with
    | @vec _ vs cells short items =>
      rw [bytesOf_append, bytesOf_plain, List.append_assoc, decode,
        readLength_eq_ok_iff.2 ⟨short, rfl⟩]
      simp only [mapError_ok, ok_bind, readItems_of_spellsAll ih items]
      rfl
  | enumerated f e =>
    cases h with
    | enumerated fits member =>
      rw [decode, bytesOf_plain, read_eq_ok_iff.2 ⟨fits, rfl⟩]
      simp only [ok_bind, member]
      rfl

theorem SpellsAll.of_sameUpToFlags {ts : List FieldType}
    (ht : ∀ t ∈ ts, ∀ {v : Value} {cells others : List Cell}, t.Spells v cells →
      sameUpToFlags others cells → t.Spells v others)
    {vs : List Value} {cells others : List Cell} (h : SpellsAll ts vs cells)
    (same : sameUpToFlags others cells) : SpellsAll ts vs others := by
  induction ts generalizing vs cells others with
  | nil =>
    cases h
    obtain rfl : others = [] := List.map_eq_nil_iff.1 same
    exact .nil
  | cons t ts ih =>
    cases h with
    | cons first items =>
      rw [sameUpToFlags, List.map_append] at same
      obtain ⟨front, rest, rfl, same, same'⟩ := List.map_eq_append_iff.1 same
      have front := ht t (by simp) first same
      exact .cons front (ih (fun u mem => ht u (by simp [mem])) items same')

/-- A flag is set by any byte other than zero. -/
theorem Spells.of_sameUpToFlags {t : FieldType} {v : Value} {cells others : List Cell}
    (h : t.Spells v cells) (same : sameUpToFlags others cells) : t.Spells v others := by
  induction t generalizing v cells others with
  | option t ih =>
    cases h with
    | absent =>
      obtain ⟨c, rest, rfl, flag, empty⟩ := List.map_eq_cons_iff.1 same
      obtain rfl : rest = [] := List.map_eq_nil_iff.1 empty
      obtain ⟨isFlag, clear⟩ := flag_of_normal_eq flag
      rw [isFlag, clear.2 rfl]
      exact .absent t
    | present set value =>
      obtain ⟨c, rest, rfl, flag, same⟩ := List.map_eq_cons_iff.1 same
      obtain ⟨isFlag, clear⟩ := flag_of_normal_eq flag
      rw [isFlag]
      exact .present (fun zero => set (clear.1 zero)) (ih value same)
  | vec t ih =>
    cases h with
    | vec short items =>
      rw [sameUpToFlags, List.map_append] at same
      obtain ⟨front, rest, rfl, same, same'⟩ := List.map_eq_append_iff.1 same
      rw [eq_plain_of_sameUpToFlags same]
      refine .vec short (items.of_sameUpToFlags (fun u mem => ?_) same')
      obtain rfl := List.eq_of_mem_replicate mem
      exact ih
  | _ =>
    -- A value of any other type has no flags.
    obtain ⟨bytes, rfl⟩ : ∃ bytes, cells = plain bytes := by
      cases h
      exact ⟨_, rfl⟩
    exact eq_plain_of_sameUpToFlags same ▸ h

end FieldType
end SolanaWire
