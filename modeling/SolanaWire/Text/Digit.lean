/-!
# Decimal digits and blanks of every script

Numbers may be written in the decimal digits of any script and padded with blanks.  The decimal
digits of a script are ten consecutive code points, so a table of their zeros determines them.
-/
namespace SolanaWire

/-- The code points of the digit zero of every script. -/
def zeroDigits : List Nat := [
    48, 1632, 1776, 1984, 2406, 2534, 2662, 2790, 2918, 3046, 3174, 3302, 3430, 3558, 3664, 3792,
    3872, 4160, 4240, 6112, 6160, 6470, 6608, 6784, 6800, 6992, 7088, 7232, 7248, 42528, 43216,
    43264, 43472, 43504, 43600, 44016, 65296, 66720, 68912, 69734, 69872, 69942, 70096, 70384,
    70736, 70864, 71248, 71360, 71472, 71904, 72016, 72784, 73040, 73120, 92768, 92864, 93008,
    120782, 120792, 120802, 120812, 120822, 123200, 123632, 125264, 130032]

/-- The blanks outside the seven-bit range. -/
def wideBlanks : List Nat := [
    133, 160, 5760, 8192, 8193, 8194, 8195, 8196, 8197, 8198, 8199, 8200, 8201, 8202, 8232, 8233,
    8239, 8287, 12288]

/-- Whether a character is a blank that may pad a number. -/
def isBlank (c : Char) : Bool :=
  let n := c.toNat
  (9 ≤ n && n ≤ 13) || n == 32 || wideBlanks.contains n

/-- The value of a decimal digit of any script. -/
def decimalDigit? (c : Char) : Option Nat :=
  (zeroDigits.find? (fun first => first ≤ c.toNat && c.toNat ≤ first + 9)).map (c.toNat - ·)

example : zeroDigits.length = 66 ∧ wideBlanks.length = 19 := by decide
example : decimalDigit? '7' = some 7 ∧ decimalDigit? '３' = some 3 ∧ decimalDigit? 'x' = none := by
  decide

end SolanaWire
