/-!
# Floating-point numbers of 64 bits

A finite number is `± mantissa * 2 ^ exponent` with a mantissa of 53 bits.  Everything is
computed on that exact value: rounding takes a quotient of naturals to the nearest number, a tie
to the even mantissa, and multiplication rounds the exact product once.
-/
namespace SolanaWire

/-- A binary floating-point number of 64 bits. -/
inductive Binary64
  | nan
  | infinite (negative : Bool)
  | finite (negative : Bool) (mantissa : Nat) (exponent : Int)
  deriving DecidableEq

namespace Binary64

/-- The exponent of the smallest numbers. -/
def leastExponent : Int := -1074

/-- The exponent of the largest numbers. -/
def greatestExponent : Int := 971

/-- The least mantissa of 53 bits. -/
def leastMantissa : Nat := 0x10000000000000

/-- The first number beyond the mantissas. -/
def mantissaLimit : Nat := 0x20000000000000

/-- The representations that the operations produce: the mantissa has 53 bits, and fewer only if
the exponent is already the least one. -/
def IsCanonical : Binary64 → Prop
  | finite _ m q => m < mantissaLimit ∧ leastExponent ≤ q ∧ q ≤ greatestExponent ∧
    (leastMantissa ≤ m ∨ q = leastExponent)
  | _ => True

instance : DecidablePred IsCanonical := fun x => by
  cases x <;> simp only [IsCanonical] <;> infer_instance

/-- A power of ten. -/
def powerOfTen (e : Nat) : Nat := Nat.pow 10 e

/-- The quotient of two naturals, rounded to the nearest natural, a tie to the even one. -/
def roundDiv (num den : Nat) : Nat :=
  let whole := num / den
  let rest := num % den
  if 2 * rest < den then whole
  else if den < 2 * rest then whole + 1
  else whole + whole % 2

/-- Two naturals whose quotient is `num / den` divided by `2 ^ q`. -/
def rescale (num den : Nat) (q : Int) : Nat × Nat :=
  if 0 ≤ q then (num, den <<< q.toNat) else (num <<< (-q).toNat, den)

/-- A rounded mantissa and its exponent as a number: a mantissa that was rounded up to the limit
moves up one exponent, and an exponent above the greatest gives an infinity. -/
def assemble (negative : Bool) (m : Nat) (q : Int) : Binary64 :=
  if m < mantissaLimit then
    if q ≤ greatestExponent then finite negative m q else infinite negative
  else if q + 1 ≤ greatestExponent then finite negative leastMantissa (q + 1) else infinite negative

/-- The number nearest to a quotient of naturals. -/
def ofRatio (negative : Bool) (num den : Nat) : Binary64 :=
  if num = 0 then finite negative 0 leastExponent
  else
    let low : Int := max ((num.log2 : Int) - (den.log2 : Int) - 53) leastExponent
    let (n, d) := rescale num den low
    if n / d < mantissaLimit then assemble negative (roundDiv n d) low
    else
      let (n, d) := rescale num den (low + 1)
      assemble negative (roundDiv n d) (low + 1)

/-- The number nearest to `± m * 2 ^ q`. -/
def ofDyadic (negative : Bool) (m : Nat) (q : Int) : Binary64 :=
  if 0 ≤ q then ofRatio negative (m <<< q.toNat) 1 else ofRatio negative m (1 <<< (-q).toNat)

/-- The number nearest to an integer. -/
def ofInt (n : Int) : Binary64 := ofRatio (decide (n < 0)) n.natAbs 1

/-- The product, rounded once. -/
def mul : Binary64 → Binary64 → Binary64
  | finite s m q, finite t n r => ofDyadic (s ^^ t) (m * n) (q + r)
  | finite s m _, infinite t => if m = 0 then nan else infinite (s ^^ t)
  | infinite s, finite t n _ => if n = 0 then nan else infinite (s ^^ t)
  | infinite s, infinite t => infinite (s ^^ t)
  | _, _ => nan

/-- The value, where it is an integer. -/
def toInt? : Binary64 → Option Int
  | finite negative m q =>
    let sign : Int := if negative then -1 else 1
    if 0 ≤ q then some (sign * (m <<< q.toNat : Nat))
    else if m % (1 <<< (-q).toNat) = 0 then some (sign * (m >>> (-q).toNat : Nat))
    else none
  | _ => none

/-- The value without its fraction; `none` if there is no value. -/
def truncate? : Binary64 → Option Int
  | finite negative m q =>
    let whole : Nat := if 0 ≤ q then m <<< q.toNat else m >>> (-q).toNat
    some (if negative then -whole else whole)
  | _ => none

example : ofRatio false 1 10 = finite false 0x1999999999999a (-56) := by decide +kernel
example : ofInt 9007199254740993 = ofInt 9007199254740992 := by decide +kernel
example : mul (ofRatio false 1 10) (ofInt 3) = ofRatio false 30000000000000004 (10 ^ 17) := by
  decide +kernel
example : truncate? (ofRatio true 27 10) = some (-2) := by decide +kernel

end Binary64
end SolanaWire
