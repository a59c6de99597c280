import SolanaWire.Number.Binary64
import SolanaWire.Number.Shortest

/-!
# Numbers

A number is an integer of any size or a floating-point number.  Comparison is exact: it never
rounds an integer.  Multiplication with a floating-point factor first rounds an integer factor,
which fails if the integer is beyond the floating-point range.
-/
namespace SolanaWire

/-- An integer or a floating-point number. -/
inductive Number
  | int (n : Int)
  | float (x : Binary64)
  deriving DecidableEq

/-- The exact order of `m * 2 ^ q` and `n * 2 ^ r`. -/
def compareDyadic (m : Int) (q : Int) (n : Int) (r : Int) : Ordering :=
  let least := min q r
  compare (m * (1 <<< (q - least).toNat : Nat)) (n * (1 <<< (r - least).toNat : Nat))

namespace Binary64

/-- The order of two numbers; a number that is not a number has none. -/
def compare? : Binary64 → Binary64 → Option Ordering
  | nan, _ => none
  | _, nan => none
  | infinite s, infinite t => some (compare t.toNat s.toNat)
  | infinite s, finite .. => some (if s then .lt else .gt)
  | finite .., infinite t => some (if t then .gt else .lt)
  | finite s m q, finite t n r =>
    some (compareDyadic (if s then -m else m) q (if t then -n else n) r)

/-- An integer as a floating-point number, unless it is beyond the range. -/
def ofInt? (n : Int) : Option Binary64 :=
  match ofInt n with
  | infinite _ => none
  | x => some x

/-- Whether the number equals zero. -/
def isZero : Binary64 → Bool
  | finite _ m _ => m == 0
  | _ => false

end Binary64

namespace Number

/-- An integer in decimal digits, a floating-point number in its shortest form. -/
def text : Number → String
  | int n => toString n
  | float x => x.text

/-- The exact order of two numbers. -/
def compare? : Number → Number → Option Ordering
  | int m, int n => some (compare m n)
  | float x, float y => x.compare? y
  | int m, float (.finite t n r) => some (compareDyadic m 0 (if t then -n else n) r)
  | int _, float (.infinite t) => some (if t then .gt else .lt)
  | float (.finite s m q), int n => some (compareDyadic (if s then -m else m) q n 0)
  | float (.infinite s), int _ => some (if s then .lt else .gt)
  | _, _ => none

/-- Whether the first number is below the second. -/
def lt (a b : Number) : Bool := a.compare? b == some .lt

/-- Whether the first number is at most the second. -/
def le (a b : Number) : Bool := a.lt b || a.compare? b == some .eq

/-- Whether two numbers have one value. -/
def eqv (a b : Number) : Bool := a.compare? b == some .eq

/-- Whether the number equals zero. -/
def isZero : Number → Bool
  | int n => n == 0
  | float x => x.isZero

/-- The number in floating point; `none` for an integer beyond the range. -/
def toBinary64? : Number → Option Binary64
  | int n => Binary64.ofInt? n
  | float x => some x

/-- The product; `none` if an integer factor is beyond the range of a floating-point one. -/
def mul? : Number → Number → Option Number
  | int m, int n => some (int (m * n))
  | a, b => do return float ((← a.toBinary64?).mul (← b.toBinary64?))

/-- A power of two: exact for an exponent that is not negative, in floating point below. -/
def powerOfTwo : Int → Number
  | .ofNat e => int (1 <<< e : Nat)
  | .negSucc e => float (.ofDyadic false 1 (.negSucc e))

/-- The smaller number; the first unless the second is below it. -/
def least (a b : Number) : Number := if b.lt a then b else a

example : (int 9007199254740993).eqv (float (.ofInt 9007199254740992)) = false := by decide +kernel
example : (int 1).eqv (float (.ofRatio false 1 1)) = true := by decide +kernel
example : (int 3).mul? (float (.ofRatio false 1 2)) = some (float (.ofRatio false 3 2)) := by
  decide +kernel
example : mul? (int (10 ^ 309)) (float (.ofRatio false 1 2)) = none := by decide +kernel

end Number
end SolanaWire
