import SolanaWire.Key
import SolanaWire.Number
import SolanaWire.Text.Quoted

/-!
# Values

The values that instruction parameters, error payloads, error details and RPC bodies are made of,
with their equality, their literal form inside messages and their JSON text.

Equality looks at numbers only by value, so `1`, `1.0`, `true` and the member number one are equal;
a list never equals a tuple; the order of a record's fields does not matter.
-/
namespace SolanaWire

/-- A named member of an enumeration. -/
structure Member where
  enumeration : String
  name : String
  number : Int
  deriving DecidableEq

/-- A value of any kind. -/
inductive Value
  | null
  | bool (b : Bool)
  | int (n : Int)
  | float (x : Binary64)
  | text (s : String)
  | list (items : List Value)
  | tuple (items : List Value)
  | record (fields : List (String × Value))
  | key (k : Key)
  | hash (h : Hash)
  | member (m : Member)

/-- Named values in the order in which they were given. -/
abbrev Fields := List (String × Value)

namespace Value

/-- A number as a value. -/
def number : Number → Value
  | .int n => int n
  | .float x => float x

/-- The number that a value counts as in a comparison. -/
def number? : Value → Option Number
  | bool b => some (.int b.toNat)
  | int n => some (.int n)
  | float x => some (.float x)
  | member m => some (.int m.number)
  | _ => none

mutual

/-- Equality of values. -/
def eqv : Value → Value → Bool
  | null, null => true
  | text s, text t => s == t
  | key k, key l => k == l
  | hash k, hash l => k == l
  | list xs, list ys => eqvItems xs ys
  | tuple xs, tuple ys => eqvItems xs ys
  | record fs, record gs => fs.length == gs.length && eqvFields fs gs
  | v, w =>
    match v.number?, w.number? with
    | some a, some b => a.eqv b
    | _, _ => false

/-- Equality of sequences, item by item. -/
def eqvItems : List Value → List Value → Bool
  | [], [] => true
  | v :: vs, w :: ws => eqv v w && eqvItems vs ws
  | _, _ => false

/-- Whether every field of the first record has an equal one of its name in the second. -/
def eqvFields : Fields → Fields → Bool
  | [], _ => true
  | (name, v) :: rest, gs =>
    (match gs.lookup name with
      | some w => eqv v w
      | none => false) && eqvFields rest gs

end

/-- Whether a value counts as true: everything but null, zero and what is empty. -/
def isTruthy : Value → Bool
  | null => false
  | text s => !s.isEmpty
  | list xs => !xs.isEmpty
  | tuple xs => !xs.isEmpty
  | record fs => !fs.isEmpty
  | v =>
    match v.number? with
    | some a => !a.isZero
    | none => true

/-- A sequence of texts between brackets. -/
def bracketed (opening : String) (items : List String) (closing : String) : String :=
  opening ++ ", ".intercalate items ++ closing

mutual

/-- The literal form of a value, as it stands inside a message. -/
def literal : Value → String
  | null => "None"
  | bool b => if b then "True" else "False"
  | int n => toString n
  | float x => x.text
  | text s => Quoted.text s
  | list xs => bracketed "[" (literals xs) "]"
  | tuple xs =>
    match literals xs with
    | [x] => "(" ++ x ++ ",)"
    | xs => bracketed "(" xs ")"
  | record fs => bracketed "\x7b" (fieldLiterals fs) "\x7d"
  | key k => "Pubkey(\n    " ++ k.text ++ ",\n)"
  | hash h => "Hash(\n    " ++ h.text ++ ",\n)"
  | member m => "<" ++ m.enumeration ++ "." ++ m.name ++ ": " ++ toString m.number ++ ">"

/-- The literal forms of a sequence. -/
def literals : List Value → List String
  | [] => []
  | v :: vs => literal v :: literals vs

/-- The literal forms of a record's fields, each name before its value. -/
def fieldLiterals : Fields → List String
  | [] => []
  | (name, v) :: rest => (Quoted.text name ++ ": " ++ literal v) :: fieldLiterals rest

end

/-- How a value is shown on its own: texts without quotes, keys in base 58, members by number. -/
def display : Value → String
  | text s => s
  | key k => k.text
  | hash h => h.text
  | member m => toString m.number
  | v => v.literal

/-- The field of a name. -/
def field? (name : String) : Value → Option Value
  | record fs => fs.lookup name
  | _ => none

/-- The items of a value that has items: a text has its characters, and a record its names. -/
def items? : Value → Option (List Value)
  | list xs => some xs
  | tuple xs => some xs
  | text s => some (s.toList.map (fun c => text (String.singleton c)))
  | record fs => some (fs.map (fun f => text f.1))
  | _ => none

/-- The integer that a value is, without any conversion. -/
def wireInt? : Value → Option Int
  | bool b => some b.toNat
  | int n => some n
  | member m => some m.number
  | _ => none

/-- Whether a number is below another; only numbers have an order. -/
def lt? (v w : Value) : Option Bool := do return (← v.number?).lt (← w.number?)

/-- Whether a number is at most another; only numbers have an order. -/
def le? (v w : Value) : Option Bool := do return (← v.number?).le (← w.number?)

mutual

/-- Whether a value can be looked up by: nothing that holds a list or a record can. -/
def isLookupKey : Value → Bool
  | list _ => false
  | record _ => false
  | tuple xs => areLookupKeys xs
  | _ => true

/-- Whether every value of a sequence can be looked up by. -/
def areLookupKeys : List Value → Bool
  | [] => true
  | v :: vs => isLookupKey v && areLookupKeys vs

end

end Value

/-- A record with the value of one name replaced where it stands, or added at the end. -/
def Fields.set (fields : Fields) (name : String) (v : Value) : Fields :=
  if fields.any (·.1 == name) then fields.map (fun f => if f.1 == name then (name, v) else f)
  else fields ++ [(name, v)]

end SolanaWire
