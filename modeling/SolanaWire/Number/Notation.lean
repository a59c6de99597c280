import SolanaWire.Number.Binary64

/-!
# Decimal notations of naturals

A natural can be written with a fixed number of decimal places, in scientific notation with one
digit before the point, or in whichever of the two suits a number of significant digits.  Digits
that do not fit are rounded to nearest, a tie to the even digit.
-/
namespace SolanaWire.Notation

/-- The digits after a point, which is left out before no digits unless it is wanted. -/
def fraction (wantsPoint : Bool) (digits : List Char) : List Char :=
  if digits.isEmpty && !wantsPoint then [] else '.' :: digits

/-- The number with a fixed number of decimal places. -/
def fixed (wantsPoint : Bool) (places n : Nat) : List Char :=
  Nat.toDigits 10 n ++ fraction wantsPoint (List.replicate places '0')

/-- The first `count` significant digits, and the exponent of the first of them. -/
def significant (count n : Nat) : List Char × Nat :=
  let digits := Nat.toDigits 10 n
  if digits.length ≤ count then
    (digits ++ List.replicate (count - digits.length) '0', digits.length - 1)
  else
    let rounded := Nat.toDigits 10
      (Binary64.roundDiv n (Binary64.powerOfTen (digits.length - count)))
    (rounded.take count, digits.length - 1 + (rounded.length - count))

/-- Some digits in scientific notation, with two digits of the exponent at least. -/
def scientificDigits (wantsPoint : Bool) (mark : Char) (digits : List Char) (exponent : Nat) :
    List Char :=
  let power := Nat.toDigits 10 exponent
  digits.take 1 ++ fraction wantsPoint (digits.drop 1) ++
    mark :: '+' :: (List.replicate (2 - power.length) '0' ++ power)

/-- The number in scientific notation. -/
def scientific (wantsPoint : Bool) (mark : Char) (places n : Nat) : List Char :=
  let (digits, exponent) := significant (places + 1) n
  scientificDigits wantsPoint mark digits exponent

/-- Some digits without the zeros at their end. -/
def trimZeros (digits : List Char) : List Char := (digits.reverse.dropWhile (· == '0')).reverse

/-- The number with a number of significant digits, at least one: positional if they reach the
point, else in scientific notation.  Zeros at the end are left out unless the point is wanted. -/
def general (wantsPoint : Bool) (mark : Char) (count n : Nat) : List Char :=
  let count := max count 1
  let (digits, exponent) := significant count n
  let shown := fun (tail : List Char) => if wantsPoint then tail else trimZeros tail
  if exponent < count then
    digits.take (exponent + 1) ++ fraction wantsPoint (shown (digits.drop (exponent + 1)))
  else
    scientificDigits wantsPoint mark (digits.take 1 ++ shown (digits.drop 1)) exponent

example : String.ofList (fixed false 2 20) = "20.00" := by decide +kernel
example : String.ofList (scientific false 'e' 0 25) = "2e+01" := by decide +kernel
example : String.ofList (general false 'e' 6 1234567) = "1.23457e+06" := by decide +kernel
example : String.ofList (general true 'e' 6 20) = "20.0000" := by decide +kernel

end SolanaWire.Notation
