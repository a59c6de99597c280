import SolanaWire.Number.Binary64

/-!
# Shortest decimal digits

A floating-point number is written with the fewest decimal digits that read back as the same
number; of two such decimals of one length the nearer is taken, and of two equally near ones the
even one.  The decimals that read back form an interval around the number, reaching half way to
its neighbours; the ends belong to it exactly when the mantissa is even.
-/
namespace SolanaWire.Binary64

/-- Three naturals over one denominator: a value and the ends of the interval of the decimals that
read back as it. -/
structure Interval where
  low : Nat
  value : Nat
  high : Nat
  den : Nat
  closed : Bool

/-- The interval of `m * 2 ^ q`.  Below a power of two the neighbour is twice as near. -/
def interval (m : Nat) (q : Int) : Interval :=
  let below := if m = leastMantissa ∧ leastExponent < q then 1 else 2
  let places := (q - 2).toNat
  { low := (4 * m - below) <<< places
    value := (4 * m) <<< places
    high := (4 * m + 2) <<< places
    den := 1 <<< (2 - q).toNat
    closed := m % 2 == 0 }

/-- Whether `n / d` lies in the interval. -/
def Interval.contains (i : Interval) (n d : Nat) : Bool :=
  if i.closed then i.low * d ≤ n * i.den && n * i.den ≤ i.high * d
  else i.low * d < n * i.den && n * i.den < i.high * d

/-- The least `e` with `value / den < 10 ^ e`. -/
def Interval.magnitude (i : Interval) : Int :=
  if i.den ≤ i.value then (Nat.toDigits 10 (i.value / i.den)).length
  else
    let places := (Nat.toDigits 10 (i.den / i.value)).length
    if i.value * powerOfTen (places - 1) < i.den then 1 - places else 2 - places

/-- The decimal of the grid `10 ^ e` that reads back and is nearest to the value, as its multiple
of `10 ^ e`.  Only the two neighbours of the value on the grid can be nearest. -/
def Interval.onGrid? (i : Interval) (e : Int) : Option Nat :=
  let up := powerOfTen e.toNat
  let down := powerOfTen (-e).toNat
  let num := i.value * down
  let den := i.den * up
  let floor := num / den
  let ceiling := floor + 1
  let floorIn := i.contains (floor * up) down
  let ceilingIn := i.contains (ceiling * up) down
  if floorIn && ceilingIn then
    some (Binary64.roundDiv num den)
  else if floorIn then some floor
  else if ceilingIn then some ceiling
  else none

/-- The first grid, from coarse to fine, with a decimal that reads back. -/
def Interval.search (i : Interval) (magnitude : Int) : (attempts places : Nat) → Nat × Int
  | 0, places => (Binary64.roundDiv (i.value * powerOfTen (places - magnitude).toNat)
      (i.den * powerOfTen (magnitude - places).toNat), magnitude - places)
  | attempts + 1, places =>
    match i.onGrid? (magnitude - places) with
    | some n => (n, magnitude - places)
    | none => i.search magnitude attempts (places + 1)

/-- The significant digits of `m * 2 ^ q`, without trailing zeros, and the position of the decimal
point counted from the first of them. -/
def shortest (m : Nat) (q : Int) : List Char × Int :=
  let i := interval m q
  let (n, e) := i.search i.magnitude 16 1
  let digits := Nat.toDigits 10 n
  ((digits.reverse.dropWhile (· == '0')).reverse, e + digits.length)

/-- How a number is laid out: the exponents written positionally and the least number of digits
of an exponent. -/
structure Layout where
  leastPositional : Int
  greatestPositional : Int
  exponentDigits : Nat

/-- Positional from `0.0001` to below `10 ^ 16`, and exponents of two digits at least. -/
def standardLayout : Layout := ⟨-4, 15, 2⟩

/-- The digits with their decimal point: positional notation always shows a fraction. -/
def Layout.place (layout : Layout) (digits : List Char) (point : Int) : List Char :=
  let exponent := point - 1
  if layout.leastPositional ≤ exponent ∧ exponent ≤ layout.greatestPositional then
    if point ≤ 0 then '0' :: '.' :: List.replicate (-point).toNat '0' ++ digits
    else
      let whole := digits.take point.toNat
      let fraction := digits.drop point.toNat
      whole ++ List.replicate (point.toNat - whole.length) '0' ++
        '.' :: (if fraction.isEmpty then ['0'] else fraction)
  else
    let mantissa := match digits with
      | [] => ['0']
      | [d] => [d]
      | d :: ds => d :: '.' :: ds
    let magnitude := Nat.toDigits 10 exponent.natAbs
    mantissa ++ 'e' :: (if exponent < 0 then '-' else '+') ::
      List.replicate (layout.exponentDigits - magnitude.length) '0' ++ magnitude

/-- The text of a number. -/
def text : Binary64 → String
  | nan => "nan"
  | infinite negative => if negative then "-inf" else "inf"
  | finite negative m q =>
    let body := if m = 0 then ['0', '.', '0']
      else let (digits, point) := shortest m q; standardLayout.place digits point
    String.ofList (if negative then '-' :: body else body)

example : text (ofRatio false 3 10) = "0.3" := by decide +kernel
example : text (mul (ofRatio false 1 10) (ofInt 3)) = "0.30000000000000004" := by decide +kernel
example : text (ofRatio true 5 (10 ^ 324)) = "-5e-324" := by decide +kernel
example : text (ofInt (10 ^ 16)) = "1e+16" ∧ text (ofInt (10 ^ 15)) = "1000000000000000.0" := by
  decide +kernel

end SolanaWire.Binary64
