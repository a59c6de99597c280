import SolanaWire.Number.Notation
import SolanaWire.Value

/-!
# Slots

A slot of a line format shows one value.  Its letter says how: as the value is shown on its own
(`s`), as its literal (`r`, or `a` with plain characters only), as an integer in decimal, octal or
hexadecimal digits (`d`, `i`, `u`, `o`, `x`, `X`), as a real number (`e`, `f`, `g` and their
capitals), or as a single character (`c`).  Flags, width and precision say how it is laid out.
-/
namespace SolanaWire

/-- How a value is shown. -/
structure Slot where
  flags : List Char := []
  width : Nat := 0
  precision : Option Nat := none
  letter : Char

/-- What a slot shows before it is padded.  Only numbers can be padded with zeros. -/
structure Shown where
  sign : List Char := []
  marker : List Char := []
  body : List Char
  isNumber : Bool := false

namespace Slot

/-- The largest precision that a slot can have. -/
def precisionLimit : Nat := 0x7FFFFFFF

/-- The most characters that a slot is filled with. -/
def sizeLimit : Nat := 0x1000000

/-- Fills what is shown up to the width. -/
def pad (s : Slot) (v : Shown) : List Char :=
  let gap := s.width - (v.sign.length + v.marker.length + v.body.length)
  if '-' ∈ s.flags then v.sign ++ v.marker ++ v.body ++ List.replicate gap ' '
  else if v.isNumber ∧ '0' ∈ s.flags then
    v.sign ++ v.marker ++ List.replicate gap '0' ++ v.body
  else List.replicate gap ' ' ++ v.sign ++ v.marker ++ v.body

/-- A text, cut to the precision. -/
def cut (s : Slot) (text : String) : Shown where
  body := match s.precision with
    | some n => text.toList.take n
    | none => text.toList

/-- The literal of a value with every character outside the seven-bit range by number. -/
def plainLiteral (v : Value) : String :=
  String.ofList (v.literal.toList.flatMap (fun c =>
    if c.toNat < 0x80 then [c] else Quoted.numberEscape c.toNat))

/-- The sign of a number. -/
def signOf (s : Slot) (isNegative : Bool) : List Char :=
  if isNegative then ['-']
  else if '+' ∈ s.flags then ['+']
  else if ' ' ∈ s.flags then [' ']
  else []

/-- An integer in the digits of a base, with at least as many digits as the precision says. -/
def digits (s : Slot) (base : Nat) (marker : List Char) (n : Int) : Shown :=
  let shown := Nat.toDigits base n.natAbs
  { sign := s.signOf (n < 0)
    marker := if '#' ∈ s.flags then marker else []
    body := List.replicate (s.precision.getD 0 - shown.length) '0' ++ shown
    isNumber := true }

/-- An integer as a real number. -/
def real (s : Slot) (write : Bool → Nat → Nat → List Char) (n : Int) : Shown where
  sign := s.signOf (n < 0)
  body := write (decide ('#' ∈ s.flags)) (s.precision.getD 6) n.natAbs
  isNumber := true

/-- The value as a single character. -/
def character? : Value → Option Shown
  | .text s => if s.length = 1 then some { body := s.toList } else none
  | .int n =>
    if 0 ≤ n ∧ n.toNat.isValidChar then some { body := [Char.ofNat n.toNat] } else none
  | _ => none

/-- An integer as the letter says. -/
def number? (s : Slot) (n : Int) : Option Shown :=
  match s.letter with
  | 'd' | 'i' | 'u' => some (s.digits 10 [] n)
  | 'o' => some (s.digits 8 ['0', 'o'] n)
  | 'x' => some (s.digits 16 ['0', 'x'] n)
  | 'X' =>
    let v := s.digits 16 ['0', 'X'] n
    some { v with body := v.body.map Char.toUpper }
  | 'f' | 'F' => some (s.real Notation.fixed n)
  | 'e' | 'E' => some (s.real (Notation.scientific · s.letter) n)
  | 'g' => some (s.real (Notation.general · 'e') n)
  | 'G' => some (s.real (Notation.general · 'E') n)
  | _ => none

/-- What the slot shows of a value; `none` if the letter does not suit the value. -/
def show? (s : Slot) (v : Value) : Option Shown :=
  match s.letter, v with
  | 's', v => some (s.cut v.display)
  | 'r', v => some (s.cut v.literal)
  | 'a', v => some (s.cut (plainLiteral v))
  | 'c', v => character? v
  | _, .int n => if sizeLimit < s.precision.getD 0 then none else s.number? n
  | _, _ => none

/-- The slot filled with a value. -/
def fill? (s : Slot) (v : Value) : Option (List Char) :=
  if precisionLimit < s.precision.getD 0 ∨ sizeLimit < s.width then none
  else (s.show? v).map s.pad

example : Slot.fill? { flags := ['0'], width := 8, precision := some 3, letter := 'x' } (.int 20) =
    some "00000014".toList := by decide +kernel
example : Slot.fill? { width := 5, precision := some 1, letter := 'f' } (.int 20) =
    some " 20.0".toList := by decide +kernel

end Slot
end SolanaWire
