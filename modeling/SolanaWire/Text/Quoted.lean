import SolanaWire.Text.Printable

/-!
# Quoted literals

Texts and byte strings inside messages stand in single quotes, or in double quotes where that
saves escaping: the text holds a single quote and no double one.  The backslash, the quote in use
and the characters that are not printable are escaped.
-/
namespace SolanaWire.Quoted

/-- The quote that encloses a text. -/
def quoteOf (text : List Char) : Char :=
  if '\'' ∈ text ∧ '"' ∉ text then '"' else '\''

/-- The `width` lowest hexadecimal digits of a number, lower case. -/
def hexDigits (width n : Nat) : List Char :=
  let digits := Nat.toDigits 16 n
  List.replicate (width - digits.length) '0' ++ digits

/-- The escape by number: two, four or eight digits, as many as the code point needs. -/
def numberEscape (n : Nat) : List Char :=
  if n < 0x100 then '\\' :: 'x' :: hexDigits 2 n
  else if n < 0x10000 then '\\' :: 'u' :: hexDigits 4 n
  else '\\' :: 'U' :: hexDigits 8 n

/-- One character between quotes. -/
def escape (quote c : Char) : List Char :=
  if c = '\\' ∨ c = quote then ['\\', c]
  else if c = '\n' then ['\\', 'n']
  else if c = '\r' then ['\\', 'r']
  else if c = '\t' then ['\\', 't']
  else if isPrintable c then [c]
  else numberEscape c.toNat

/-- A text between quotes. -/
def encodeChars (text : List Char) : List Char :=
  let quote := quoteOf text
  quote :: text.flatMap (escape quote) ++ [quote]

/-- The literal of a text. -/
def text (s : String) : String := String.ofList (encodeChars s.toList)

/-- One byte between quotes: every byte outside the printable seven-bit range by number. -/
def escapeByte (quote : Char) (b : UInt8) : List Char :=
  if b.toNat < 0x7F then escape quote (Char.ofNat b.toNat) else numberEscape b.toNat

/-- The literal of a byte string, marked by a leading `b`. -/
def bytes (bs : List UInt8) : String :=
  let quote := quoteOf (bs.map (fun b => Char.ofNat b.toNat))
  String.ofList ('b' :: quote :: bs.flatMap (escapeByte quote) ++ [quote])

example : text "it's" = "\"it's\"" := by decide
example : text "say \"hi\" it's" = "'say \"hi\" it\\'s'" := by decide
example : text "a\nb\x07" = "'a\\nb\\x07'" := by decide +kernel
example : bytes [0x61, 0xFF, 0x27] = "b\"a\\xff'\"" := by decide +kernel

end SolanaWire.Quoted
