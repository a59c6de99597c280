import SolanaWire.Proofs.CustomCodes
import SolanaWire.Proofs.DigitTexts

/-!
# Spellings of numbers

The position and the code of a failed instruction are natural numbers, each given as an integer or
as the text of its digits.  An integer is read as it is.  A text is read in floating point, which
rounds, so the two spellings of a number mean the same exactly if the number is one that rounding
keeps.
-/
namespace SolanaWire
open Outcome

namespace Value

/-- The values that spell a natural number: the integer and the text of its digits. -/
inductive Spells (n : Nat) : Value → Prop
  | integer : Spells n (.int n)
  | digits : Spells n (.text (toString n))

theorem toNat?_int (k : Nat) : (int k).toNat? = some k := rfl

theorem toInt?_toString (k : Nat) :
    (text (toString k)).toInt? = (Binary64.ofInt k).toInt? := by
  rw [toInt?, Numeral.real?_toString, Option.bind_some]

/-- The text of a number reads as that number exactly if it is not rounded. -/
theorem toNat?_toString_eq_some_iff {k : Nat} :
    (text (toString k)).toNat? = some k ↔ Binary64.IsExact k := by
  rw [toNat?_eq_some_iff, toInt?_toString, Binary64.toInt?_ofInt_eq_some_iff]

theorem Spells.toNat? {n : Nat} {v : Value} (exact : Binary64.IsExact n) (spells : Spells n v) :
    v.toNat? = some n := by
  cases spells with
  | integer => rfl
  | digits => exact toNat?_toString_eq_some_iff.2 exact

/-- A number whose digits read as an integer is not beyond the range, so it can be written. -/
theorem isWritable_of_toNat?_toString {k i : Nat} (read : (text (toString k)).toNat? = some i) :
    Numeral.IsWritable k := by
  rw [toNat?_eq_some_iff, toInt?_toString] at read
  by_contra long
  have large : Numeral.writingLimit ≤ k := not_lt.1 long
  have range : 2 ^ 1024 ≤ Numeral.writingLimit := by decide +kernel
  have beyond := Binary64.limit_le_of_two_pow_le (range.trans large) le_rfl
  rw [Binary64.toInt?_ofInt_of_limit_le beyond] at read
  cases read

end Value

namespace TransactionError

/-- The payload of a custom code with the position and the code in any spelling. -/
def spelledPayload (position code : Value) : Value :=
  .record [("InstructionError", .list [position, .record [("Custom", code)]])]

theorem spelledPayload_int (n c : Nat) : spelledPayload (.int n) (.int c) = customPayload n c := rfl

/-- The cause that is read from a payload. -/
def parseCause (context : Option Message) (table : ResolverTable) (raw : Value) :
    Except Failure (Option TransactionCause) :=
  (parse context table raw).map (·.map TransactionError.cause)

section

variable {context : Option Message} {table : ResolverTable} {position code : Value}

theorem parseCause_record (fields : Fields) :
    parseCause context table (.record fields) =
      (parseIndexed context table fields).map (·.map .indexed) := by
  rw [parseCause, parse]
  cases parseIndexed context table fields with
  | error e => rfl
  | ok error => cases error <;> rfl

theorem indexedPayload?_spelled (payload : Value) :
    indexedPayload? [("InstructionError", .list [position, payload])] =
      position.toNat?.map (·, payload) := rfl

theorem parse_custom (resolver : Resolver) :
    InstructionError.parse (.record [("Custom", code)]) resolver =
      match code.toNat? with
      | some c => (resolver (.int c)).map (fun cause => some (.custom c cause))
      | none => .ok none := by
  have given : InstructionError.customCode? [("Custom", code)] = code.toNat? := rfl
  rw [InstructionError.parse, given]
  cases code.toNat? with
  | none => rfl
  | some c =>
    dsimp only
    cases resolver (.int c) <;> rfl

/-- What is read of a payload depends on its position and its code only through the numbers that
they read as. -/
theorem parseCause_congr {position' code' : Value} (positions : position.toNat? = position'.toNat?)
    (codes : code.toNat? = code'.toNat?) :
    parseCause context table (spelledPayload position code) =
      parseCause context table (spelledPayload position' code') := by
  simp only [spelledPayload, parseCause_record, parseIndexed, indexedPayload?_spelled, positions]
  cases position'.toNat? with
  | none => rfl
  | some n =>
    simp only [Option.map_some]
    cases resolverAt context table n with
    | error fault => rfl
    | ok resolver => simp only [parse_custom, codes]

/-- Where the message is not known, the numbers that are read are the cause, unless the position
cannot be written. -/
theorem parseCause_none :
    parseCause none table (spelledPayload position code) =
      match position.toNat?, code.toNat? with
      | some n, some c => (IndexedError.make n (.custom c none)).map (fun e => some (.indexed e))
      | _, _ => .ok none := by
  simp only [spelledPayload, parseCause_record, parseIndexed, indexedPayload?_spelled]
  cases position.toNat? with
  | none => rfl
  | some n =>
    simp only [Option.map_some, parse_custom, resolverAt]
    cases code.toNat? with
    | none => rfl
    | some c =>
      change (Option.mapM (IndexedError.make n) (some (.custom c none))).map _ = _
      cases made : IndexedError.make n (.custom c none) <;> simp [made, Except.map]

/-- Position and code in the spellings that rounding keeps mean what the integers mean. -/
theorem parseCause_of_spells {n c : Nat} (exactPosition : Binary64.IsExact n)
    (exactCode : Binary64.IsExact c) (spellsPosition : position.Spells n)
    (spellsCode : code.Spells c) :
    parseCause context table (spelledPayload position code) =
      parseCause context table (customPayload n c) :=
  parseCause_congr (spellsPosition.toNat? exactPosition) (spellsCode.toNat? exactCode)

theorem parseCause_none_eq_some_iff {n c : Nat} (short : Numeral.IsWritable n) :
    parseCause none table (spelledPayload position code) =
        .ok (some (.indexed ⟨n, .custom c none, short⟩)) ↔
      position.toNat? = some n ∧ code.toNat? = some c := by
  rw [parseCause_none]
  cases position.toNat? with
  | none => simp
  | some i =>
    cases code.toNat? with
    | none => simp
    | some d =>
      dsimp only
      cases made : IndexedError.make i (.custom d none) with
      | error f =>
        refine iff_of_false (by simp [Except.map]) ?_
        rintro ⟨⟨⟩, ⟨⟩⟩
        exact (IndexedError.make_eq_error_iff.1 made).1 short
      | ok e =>
        obtain ⟨index, cause⟩ := IndexedError.make_eq_ok_iff.1 made
        cases e
        cases index
        cases cause
        simp [Except.map]

theorem exists_of_parseCause_none_eq_error {f : Failure}
    (failed : parseCause none table (spelledPayload position code) = .error f) :
    ∃ n c, position.toNat? = some n ∧ code.toNat? = some c ∧ ¬ Numeral.IsWritable n := by
  rw [parseCause_none] at failed
  split at failed
  · rename_i n c number reads
    cases made : IndexedError.make n (.custom c none) with
    | error f => exact ⟨n, c, number, reads, (IndexedError.make_eq_error_iff.1 made).1⟩
    | ok e =>
      rw [made] at failed
      cases failed
  · cases failed

theorem parseCause_customPayload_of_long {n c : Nat} (long : ¬ Numeral.IsWritable n) :
    parseCause none table (customPayload n c) = .error integerTooLong := by
  have made : IndexedError.make n (.custom c none) = .error integerTooLong :=
    IndexedError.make_eq_error_iff.2 ⟨long, rfl⟩
  rw [← spelledPayload_int, parseCause_none]
  simp only [Value.toNat?_int, made]
  rfl

/-- Where the message is not known, only digits that read as the numbers have their cause. -/
theorem toNat?_of_parseCause {n c : Nat}
    (same : parseCause none table (spelledPayload (.text (toString n)) (.text (toString c))) =
      parseCause none table (customPayload n c)) :
    (Value.text (toString n)).toNat? = some n ∧ (Value.text (toString c)).toNat? = some c := by
  by_cases short : Numeral.IsWritable n
  · have written : parseCause none table (spelledPayload (.int n) (.int c)) = _ :=
      (parseCause_none_eq_some_iff short).2 ⟨Value.toNat?_int n, Value.toNat?_int c⟩
    exact (parseCause_none_eq_some_iff short).1 (same.trans written)
  · -- The integer cannot be written, but its digits are not read as one that cannot.
    rw [parseCause_customPayload_of_long short] at same
    obtain ⟨_, _, read, -⟩ := exists_of_parseCause_none_eq_error same
    exact absurd (Value.isWritable_of_toNat?_toString read) short

end

/-- The cause of a failed instruction is the same in every spelling of its position and its code,
for every message and table, exactly if rounding keeps both numbers.  For an integer is read as
itself, and the text of its digits as the number that it is rounded to in floating point: the two
agree exactly if rounding keeps the integer, as it keeps all up to the 53rd power of two. -/
theorem parseCause_spellings (n c : Nat) :
    ((∀ (context : Option Message) (table : ResolverTable) (position code : Value),
        position.Spells n → code.Spells c →
        parseCause context table (spelledPayload position code) =
          parseCause context table (customPayload n c)) ↔
      Binary64.IsExact n ∧ Binary64.IsExact c) ∧
    ∀ k : Nat, (Value.int k).toInt? = some (k : Int) ∧
      (Value.text (toString k)).toInt? = (Binary64.ofInt k).toInt? ∧
      ((Value.text (toString k)).toInt? = some (k : Int) ↔ Binary64.IsExact k) ∧
      (k ≤ 2 ^ 53 → Binary64.IsExact k) := by
  refine ⟨⟨?_, ?_⟩, ?_⟩
  · intro same
    have read := toNat?_of_parseCause (same none ResolverTable.ofBuiltin _ _ .digits .digits)
    exact ⟨Value.toNat?_toString_eq_some_iff.1 read.1, Value.toNat?_toString_eq_some_iff.1 read.2⟩
  · rintro ⟨exactPosition, exactCode⟩ context table position code spellsPosition spellsCode
    exact parseCause_of_spells exactPosition exactCode spellsPosition spellsCode
  · intro k
    refine ⟨rfl, Value.toInt?_toString k, ?_, Binary64.isExact_of_le⟩
    rw [Value.toInt?_toString, Binary64.toInt?_ofInt_eq_some_iff]

/-- The code after the 53rd power of two is read as that power if it is given by its digits. -/
theorem parseCause_rounded :
    let code : Nat := 2 ^ 53 + 1
    (Value.text (toString code)).Spells code ∧
      ∃ short : Numeral.IsWritable ((0 : Nat) : Int),
        parseCause none ResolverTable.ofBuiltin
            (spelledPayload (.int (0 : Nat)) (.text (toString code))) =
          .ok (some (.indexed ⟨_, .custom (2 ^ 53) none, short⟩)) ∧
        parseCause none ResolverTable.ofBuiltin (customPayload 0 code) =
          .ok (some (.indexed ⟨_, .custom code none, short⟩)) := by
  intro code
  have rounded : (Value.text (toString code)).toNat? = some (2 ^ 53) := by decide +kernel
  have short : Numeral.IsWritable ((0 : Nat) : Int) := by decide +kernel
  exact ⟨.digits, short, (parseCause_none_eq_some_iff short).2 ⟨rfl, rounded⟩,
    (parseCause_none_eq_some_iff short).2 ⟨rfl, rfl⟩⟩

end TransactionError
end SolanaWire
