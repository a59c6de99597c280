import SolanaWire.Number.Binary64
import SolanaWire.Text.Digit
import SolanaWire.Text.Quoted

/-!
# Numbers as text

Texts that stand for a number: blanks around it, a sign, decimal digits of any script, and single
underscores between digits.  An integer text is a sign and digits; a real text adds a fraction and
an exponent, or is one of the words for infinity and for no number, in any case.  A text that stands
for no number comes with the reason.  An integer with too many digits is neither read nor written.
-/
namespace SolanaWire.Numeral

/-- A character with the decimal digits of every script replaced by the seven-bit ones. -/
def plainDigit (c : Char) : Char :=
  match decimalDigit? c with
  | some d => Char.ofNat (48 + d)
  | none => c

/-- The text without the blanks around it, its digits replaced by seven-bit ones. -/
def trim (text : String) : List Char :=
  let inner := (text.toList.dropWhile isBlank).reverse.dropWhile isBlank
  inner.reverse.map plainDigit

/-- The text without its underscores; `none` if one of them does not stand between two digits. -/
def joinDigits? : (previous : Char) → List Char → Option (List Char)
  | previous, [] => if previous = '_' then none else some []
  | previous, '_' :: rest => if previous.isDigit then joinDigits? '_' rest else none
  | previous, c :: rest =>
    if previous = '_' ∧ ¬ c.isDigit then none else (joinDigits? c rest).map (c :: ·)

/-- Splits off a sign; the flag says whether it is negative. -/
def splitSign : List Char → Bool × List Char
  | '-' :: rest => (true, rest)
  | '+' :: rest => (false, rest)
  | rest => (false, rest)

/-- The value of a sequence of decimal digits. -/
def digitsValue (digits : List Char) : Nat :=
  digits.foldl (fun n c => 10 * n + (c.toNat - 48)) 0

/-- A nonempty sequence of digits, as its value. -/
def natural? (digits : List Char) : Option Nat :=
  if !digits.isEmpty && digits.all Char.isDigit then some (digitsValue digits) else none

/-- The integer that a text stands for. -/
def int? (text : String) : Option Int := do
  let plain ← joinDigits? ' ' (trim text)
  let (negative, digits) := splitSign plain
  let n ← natural? digits
  return if negative then -n else n

/-- The number of digits that an integer text begins with, after its sign; zero if an underscore
among them does not stand between two digits. -/
def leadingDigits (text : String) : Nat :=
  let front := (splitSign (trim text)).2.takeWhile (fun c => c.isDigit || c == '_')
  ((joinDigits? ' ' front).getD []).length

/-- The exponent part of a real: nothing, or the mark, a sign and digits. -/
def exponent? : List Char → Option Int
  | [] => some 0
  | c :: rest =>
    if c = 'e' ∨ c = 'E' then
      let (negative, digits) := splitSign rest
      (natural? digits).map (fun n => if negative then -n else n)
    else none

/-- The number nearest to `n * 10 ^ e`.  Decimals far outside the range need no power of ten: they
are infinite above it and zero below. -/
def ofDecimal (negative : Bool) (n : Nat) (e : Int) : Binary64 :=
  let magnitude : Int := e + (Nat.toDigits 10 n).length
  if n = 0 ∨ magnitude < -400 then .finite negative 0 Binary64.leastExponent
  else if 400 < magnitude then .infinite negative
  else if 0 ≤ e then Binary64.ofRatio negative (n * Binary64.powerOfTen e.toNat) 1
  else Binary64.ofRatio negative n (Binary64.powerOfTen (-e).toNat)

/-- An unsigned real in digits: whole part, fraction, exponent, with at least one digit before the
exponent. -/
def decimal? (negative : Bool) (text : List Char) : Option Binary64 :=
  let whole := text.takeWhile Char.isDigit
  let rest := text.dropWhile Char.isDigit
  let (fraction, rest) := match rest with
    | '.' :: rest => (rest.takeWhile Char.isDigit, rest.dropWhile Char.isDigit)
    | rest => ([], rest)
  match natural? (whole ++ fraction), exponent? rest with
  | some n, some e => some (ofDecimal negative n (e - fraction.length))
  | _, _ => none

/-- The real that a text stands for. -/
def real? (text : String) : Option Binary64 := do
  let plain ← joinDigits? ' ' (trim text)
  let (negative, body) := splitSign plain
  match String.ofList (body.map Char.toLower) with
  | "inf" | "infinity" => return .infinite negative
  | "nan" => return .nan
  | _ => decimal? negative body

/-- The longest literal that a message about an integer shows. -/
def excerptLimit : Nat := 200

/-- The most digits that an integer may be written with. -/
def digitLimit : Nat := 4300

/-- The least number with too many digits to be written. -/
@[irreducible] def writingLimit : Nat := Nat.pow 10 digitLimit

/-- An integer has no more digits than it may be written with. -/
def IsWritable (n : Int) : Prop := n.natAbs < writingLimit

instance (n : Int) : Decidable (IsWritable n) := inferInstanceAs (Decidable (_ < _))

theorem isWritable_of_lt {n k : Nat} (small : n < Nat.pow 10 k) (inside : k ≤ digitLimit) :
    IsWritable n := by
  unfold IsWritable writingLimit
  generalize digitLimit = d at inside ⊢
  exact Nat.lt_of_lt_of_le small (Nat.pow_le_pow_right (by decide) inside)

/-- Why an integer with too many digits is not written. -/
def tooLong : String :=
  s!"Exceeds the limit ({digitLimit} digits) for integer string conversion; " ++
    "use sys.set_int_max_str_digits() to increase the limit"

/-- An integer, or the reason why a text is none. -/
def integer (text : String) : Except String Int :=
  let digits := leadingDigits text
  if digitLimit < digits then
    .error (s!"Exceeds the limit ({digitLimit} digits) for integer string conversion: " ++
      s!"value has {digits} digits; use sys.set_int_max_str_digits() to increase the limit")
  else
    match int? text with
    | some n => .ok n
    | none =>
      let excerpt := String.ofList ((Quoted.text text).toList.take excerptLimit)
      .error s!"invalid literal for int() with base 10: {excerpt}"

/-- A real number, or the reason why a text is none. -/
def real (text : String) : Except String Binary64 :=
  match real? text with
  | some x => .ok x
  | none => .error s!"could not convert string to float: {Quoted.text text}"

example : int? " -1_000\n" = some (-1000) ∧ int? "1__0" = none ∧ int? "_1" = none := by
  decide +kernel
example : int? "１２" = some 12 ∧ int? "" = none ∧ int? "+-1" = none := by decide +kernel
example : real? "1e3" = some (Binary64.ofInt 1000) ∧ real? ".5" = real? "5.e-1" := by decide +kernel
example : real? "." = none ∧ real? "1e" = none ∧ real? "-INF" = some (.infinite true) := by
  decide +kernel

end SolanaWire.Numeral
