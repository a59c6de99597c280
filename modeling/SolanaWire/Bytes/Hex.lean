/-!
# Hexadecimal text

Bytes are written as two lower-case hexadecimal digits each.  Reading accepts both cases and
refuses an odd number of digits and every other character.
-/
namespace SolanaWire.Hex

/-- The lower-case digit of a value below sixteen. -/
def digit (n : Nat) : Char :=
  if n < 10 then Char.ofNat (48 + n) else Char.ofNat (87 + n)

/-- The value of a digit of either case. -/
def digitValue? (c : Char) : Option Nat :=
  if '0' ≤ c ∧ c ≤ '9' then some (c.toNat - 48)
  else if 'a' ≤ c ∧ c ≤ 'f' then some (c.toNat - 87)
  else if 'A' ≤ c ∧ c ≤ 'F' then some (c.toNat - 55)
  else none

theorem digitValue?_digit {n : Nat} (h : n < 16) : digitValue? (digit n) = some n := by
  revert n
  decide

/-- The two digits of one byte, high half first. -/
def ofByte (b : UInt8) : List Char := [digit (b.toNat / 16), digit (b.toNat % 16)]

/-- The digits of a byte string. -/
def encode (bytes : List UInt8) : String := String.ofList (bytes.flatMap ofByte)

/-- Reads pairs of digits. -/
def decodeChars? : List Char → Option (List UInt8)
  | [] => some []
  | [_] => none
  | high :: low :: rest => do
    let h ← digitValue? high
    let l ← digitValue? low
    return UInt8.ofNat (16 * h + l) :: (← decodeChars? rest)

/-- The bytes that a text of hexadecimal digits stands for. -/
def decode? (text : String) : Option (List UInt8) := decodeChars? text.toList

theorem decodeChars?_ofByte_append (b : UInt8) (rest : List Char) :
    decodeChars? (ofByte b ++ rest) = (decodeChars? rest).map (b :: ·) := by
  have hb := b.toNat_lt
  have high : digitValue? (digit (b.toNat / 16)) = some (b.toNat / 16) :=
    digitValue?_digit (by omega)
  have low : digitValue? (digit (b.toNat % 16)) = some (b.toNat % 16) :=
    digitValue?_digit (by omega)
  have whole : UInt8.ofNat (16 * (b.toNat / 16) + b.toNat % 16) = b := by
    rw [Nat.div_add_mod]
    exact UInt8.ofNat_toNat
  simp only [ofByte, List.cons_append, List.nil_append, decodeChars?, high, low, whole,
    Option.bind_eq_bind, Option.bind_some]
  cases decodeChars? rest <;> rfl

/-- Reading undoes writing. -/
theorem decode?_encode (bytes : List UInt8) : decode? (encode bytes) = some bytes := by
  simp only [decode?, encode, String.toList_ofList]
  induction bytes with
  | nil => rfl
  | cons b bs ih => rw [List.flatMap_cons, decodeChars?_ofByte_append, ih]; rfl

/-- A number with the prefix that marks its digits as hexadecimal. -/
def ofNat (n : Nat) : String := "0x" ++ String.ofList (Nat.toDigits 16 n)

end SolanaWire.Hex
