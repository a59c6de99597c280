/-!
# UTF-8

The strict encoding of characters as bytes.  Reading refuses stray continuation bytes, overlong
forms, surrogates and values above `10FFFF`, so every byte string is the encoding of at most one
text.
-/
namespace SolanaWire.Utf8

/-- The continuation byte that carries the six bits of a value below sixty-four. -/
def continuation (n : Nat) : UInt8 := UInt8.ofNat (0x80 + n)

/-- The bytes of one character. -/
def encodeChar (c : Char) : List UInt8 :=
  let n := c.toNat
  if n < 0x80 then [UInt8.ofNat n]
  else if n < 0x800 then [UInt8.ofNat (0xC0 + n / 0x40), continuation (n % 0x40)]
  else if n < 0x10000 then
    [UInt8.ofNat (0xE0 + n / 0x1000), continuation (n / 0x40 % 0x40), continuation (n % 0x40)]
  else
    [UInt8.ofNat (0xF0 + n / 0x40000), continuation (n / 0x1000 % 0x40),
      continuation (n / 0x40 % 0x40), continuation (n % 0x40)]

/-- The bytes of a text. -/
def encode (text : List Char) : List UInt8 := text.flatMap encodeChar

/-- The six bits that a continuation byte carries. -/
def payload? (b : UInt8) : Option Nat :=
  if 0x80 ≤ b.toNat ∧ b.toNat < 0xC0 then some (b.toNat - 0x80) else none

/-- The character of a value that needs at least `least` as its size class. -/
def scalar? (least n : Nat) : Option Char :=
  if least ≤ n ∧ n.isValidChar then some (Char.ofNat n) else none

/-- Reads a text; `none` where the bytes are not the encoding of one. -/
def decode? : List UInt8 → Option (List Char)
  | [] => some []
  | b₀ :: rest =>
    let n := b₀.toNat
    if n < 0x80 then do
      return Char.ofNat n :: (← decode? rest)
    else if n < 0xC0 then none
    else if n < 0xE0 then
      match rest with
      | b₁ :: rest => do
        let c ← scalar? 0x80 (0x40 * (n - 0xC0) + (← payload? b₁))
        return c :: (← decode? rest)
      | _ => none
    else if n < 0xF0 then
      match rest with
      | b₁ :: b₂ :: rest => do
        let c ← scalar? 0x800 (0x1000 * (n - 0xE0) + 0x40 * (← payload? b₁) + (← payload? b₂))
        return c :: (← decode? rest)
      | _ => none
    else
      match rest with
      | b₁ :: b₂ :: b₃ :: rest => do
        let c ← scalar? 0x10000 (0x40000 * (n - 0xF0) + 0x1000 * (← payload? b₁)
          + 0x40 * (← payload? b₂) + (← payload? b₃))
        return c :: (← decode? rest)
      | _ => none

end SolanaWire.Utf8
