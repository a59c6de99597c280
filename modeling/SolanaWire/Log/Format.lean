import SolanaWire.Log.Slot
import SolanaWire.Text.Digit
import SolanaWire.Text.WordCharacter

/-!
# Line formats

A line format is a text in which slots stand for the fields of a log line.  A slot begins with a
percent sign and a field name in round brackets; flags, a width, a precision and a letter follow.
Two percent signs stand for one.

A format must hold a slot in a wide sense, with digits of any script, letters of either case and a
star for a number; whether all its slots can be filled only shows when a line is written.
-/
namespace SolanaWire.LogFormat

/-- The flags of a slot. -/
def isFlag (c : Char) : Bool := c ∈ ['#', '0', '+', ' ', '-']

/-- The number of some digits; zero if there are none. -/
def numberOf (digits : List Char) : Nat :=
  digits.foldl (fun n c => 10 * n + (c.toNat - '0'.toNat)) 0

/-- Reads a precision, if there is one. -/
def readPrecision : List Char → Option Nat × List Char
  | '.' :: cs => (some (numberOf (cs.takeWhile Char.isDigit)), cs.dropWhile Char.isDigit)
  | cs => (none, cs)

/-- Drops a letter for the size of a number, which has no meaning. -/
def dropSize : List Char → List Char
  | 'h' :: cs => cs
  | 'l' :: cs => cs
  | 'L' :: cs => cs
  | cs => cs

/-- Reads the field name and the slot after a percent sign. -/
def slot? : List Char → Option ((List Char × Slot) × List Char)
  | '(' :: cs =>
    let field := cs.takeWhile (· != ')')
    let afterField := (cs.dropWhile (· != ')')).drop 1
    let flags := afterField.takeWhile isFlag
    let afterFlags := afterField.drop flags.length
    let width := afterFlags.takeWhile Char.isDigit
    let (precision, rest) := readPrecision (afterFlags.drop width.length)
    match dropSize rest with
    | letter :: rest => some ((field, ⟨flags, numberOf width, precision, letter⟩), rest)
    | [] => none
  | _ => none

/-- The letters that a slot may end in, with the letters that are the same but for their case. -/
def letters : List Char := "diouxefgcrsa%DIOUXEFGCRSAİıſ".toList

/-- Drops a star or the digits of a number; `none` if there is neither. -/
def dropCount? : List Char → Option (List Char)
  | '*' :: cs => some cs
  | cs =>
    let rest := cs.dropWhile (fun c => (decimalDigit? c).isSome)
    if rest.length < cs.length then some rest else none

/-- Drops a point and a number, if both are there. -/
def dropPrecision : List Char → List Char
  | '.' :: cs => (dropCount? cs).getD ('.' :: cs)
  | cs => cs

/-- Whether a slot in the wide sense comes after a percent sign. -/
def beginsWithSlot : List Char → Bool
  | '(' :: cs =>
    let field := cs.takeWhile isWordCharacter
    match cs.drop field.length with
    | ')' :: rest =>
      let afterFlags := rest.dropWhile isFlag
      match dropPrecision ((dropCount? afterFlags).getD afterFlags) with
      | letter :: _ => !field.isEmpty && letters.contains letter
      | [] => false
    | _ => false
  | _ => false

/-- Whether a text holds a slot in the wide sense. -/
def holdsSlot : List Char → Bool
  | [] => false
  | c :: cs => (c == '%' && beginsWithSlot cs) || holdsSlot cs

/-- Whether a format holds a slot. -/
def hasSlot (format : String) : Bool := holdsSlot format.toList

/-- Fills the slots of the parts that follow percent signs. -/
def fillParts (fields : Fields) : List (List Char) → Option (List Char)
  | [] => some []
  | [] :: plain :: rest => do return '%' :: plain ++ (← fillParts fields rest)
  | part :: rest => do
    let ((field, slot), plain) ← slot? part
    let filled ← slot.fill? (← fields.lookup (String.ofList field))
    return filled ++ plain ++ (← fillParts fields rest)

/-- A line of a format; `none` if the format has a slot that cannot be filled. -/
def fill? (format : String) (fields : Fields) : Option String :=
  match format.toList.splitOn '%' with
  | [] => some ""
  | plain :: rest => (fillParts fields rest).map (fun cs => String.ofList (plain ++ cs))

example : fill? "%(a)-4s|%(b)03d|100%%" [("a", .text "x"), ("b", .int 7)] =
    some "x   |007|100%" := by decide +kernel
example : hasSlot "%(a)٣s" = true ∧ hasSlot "%(a).s" = false := by decide +kernel

end SolanaWire.LogFormat
