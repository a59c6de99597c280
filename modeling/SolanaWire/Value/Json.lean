import SolanaWire.Value

/-!
# JSON text of values

Values are written in JSON with `, ` between items and `: ` after names.  Everything outside the
seven-bit range is escaped by its UTF-16 units, so the text is plain ASCII.  Keys and hashes have
no JSON text.
-/
namespace SolanaWire.Json

/-- The escape of one UTF-16 unit. -/
def unitEscape (n : Nat) : List Char := '\\' :: 'u' :: Quoted.hexDigits 4 n

/-- One character of a quoted text. -/
def escape (c : Char) : List Char :=
  let n := c.toNat
  if c = '"' ∨ c = '\\' then ['\\', c]
  else if c = '\n' then ['\\', 'n']
  else if c = '\r' then ['\\', 'r']
  else if c = '\t' then ['\\', 't']
  else if n = 0x0C then ['\\', 'f']
  else if n = 0x08 then ['\\', 'b']
  else if 0x20 ≤ n ∧ n < 0x7F then [c]
  else if n < 0x10000 then unitEscape n
  else
    unitEscape (0xD800 + (n - 0x10000) / 0x400) ++ unitEscape (0xDC00 + (n - 0x10000) % 0x400)

/-- A quoted text. -/
def quoted (s : String) : String := String.ofList ('"' :: s.toList.flatMap escape ++ ['"'])

/-- A floating-point number; the three that JSON has no digits for are written as words. -/
def float : Binary64 → String
  | .nan => "NaN"
  | .infinite negative => if negative then "-Infinity" else "Infinity"
  | x => x.text

mutual

/-- The JSON text of a value; `none` for one that holds a key or a hash. -/
def text? : Value → Option String
  | .null => some "null"
  | .bool b => some (if b then "true" else "false")
  | .int n => some (toString n)
  | .float x => some (float x)
  | .text s => some (quoted s)
  | .list xs | .tuple xs => do return Value.bracketed "[" (← texts? xs) "]"
  | .record fs => do return Value.bracketed "\x7b" (← fieldTexts? fs) "\x7d"
  | .member m => some (toString m.number)
  | .key _ | .hash _ => none

/-- The texts of a sequence. -/
def texts? : List Value → Option (List String)
  | [] => some []
  | v :: vs => do return (← text? v) :: (← texts? vs)

/-- The texts of a record's fields. -/
def fieldTexts? : Fields → Option (List String)
  | [] => some []
  | (name, v) :: rest => do return (quoted name ++ ": " ++ (← text? v)) :: (← fieldTexts? rest)

end

example : quoted "é\n😀" = "\"\\u00e9\\n\\ud83d\\ude00\"" := by decide +kernel

end SolanaWire.Json
