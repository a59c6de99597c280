import SolanaWire.Layout.FieldType

/-!
# Notation of field types

A field type can be written as a text: the name of an integer format, `pubkey`, `hash` or `string`,
`option:` or `vec:` before another type, or `enum:` with a format and the members of the
enumeration, as in `enum:u8:A=0,B=7`.
-/
namespace SolanaWire

/-- The integer format of a name. -/
def IntFormat.ofName? : String → Option IntFormat
  | "u8" => some .u8
  | "u16" => some .u16
  | "u32" => some .u32
  | "u64" => some .u64
  | "i64" => some .i64
  | _ => none

/-- The parts of a text between separators. -/
def partsOf (separator : Char) (text : String) : List String :=
  (text.toList.splitOn separator).map String.ofList

/-- Whether a label stands between so many underscores, and no more, at each end. -/
def isBetween (underscores : Nat) (label : String) : Bool :=
  let marks := List.replicate underscores '_'
  let inner := (label.toList.drop underscores).take (label.length - 2 * underscores)
  inner != [] && label.toList == marks ++ inner ++ marks && inner.head? != some '_' &&
    inner.getLast? != some '_'

/-- The labels that no member can have. -/
def unusableLabels : List String := ["mro", ""]

/-- Gives a number to a label, in its old place if it had one. -/
def relabel (labels : List (String × Int)) (label : String) (number : Int) :
    List (String × Int) :=
  if labels.any (·.1 == label) then
    labels.map (fun l => if l.1 == label then (label, number) else l)
  else labels ++ [(label, number)]

/-- The enumeration of some labels with their numbers.  Labels between single underscores are
reserved, and those between double underscores name no members. -/
def Enumeration.ofLabels (name : String) (labels : List (String × Int)) :
    Except Failure Enumeration :=
  if labels.any (isBetween 1 ·.1) then
    .error (.foreign .invalidValue "_names_ are reserved for future Enum use")
  else
    let members := (labels.foldl (fun done l => relabel done l.1 l.2) []).filter
      (!isBetween 2 ·.1)
    match (members.map (·.1)).filter unusableLabels.contains with
    | [] => .ok ⟨name, members⟩
    | unusable => .error (.foreign .invalidValue
        ("Invalid enum member name: " ++ ",".intercalate unusable))

/-- The enumeration whose members are written with their numbers. -/
def Enumeration.ofNotation (name members : String) : Except Failure Enumeration :=
  let member? := fun (text : String) =>
    match partsOf '=' text with
    | [label, number] => (Numeral.int? number).map (label, ·)
    | _ => none
  match (partsOf ',' members).mapM member? with
  | some labels => Enumeration.ofLabels name labels
  | none => .error .wrongType

namespace FieldType

/-- The integer type that a name stands for. -/
def intFormat (name : String) : Except Failure IntFormat :=
  match IntFormat.ofName? name with
  | some format => .ok format
  | none => .error .wrongType

/-- The field type that some parts of a notation stand for. -/
def ofParts (enumerationName : String) : List String → Except Failure FieldType
  | ["pubkey"] => .ok key
  | ["hash"] => .ok hash
  | ["string"] => .ok text
  | ["enum", format, members] => do
    return enumerated (← intFormat format) (← Enumeration.ofNotation enumerationName members)
  | "option" :: rest => option <$> ofParts enumerationName rest
  | "vec" :: rest => vec <$> ofParts enumerationName rest
  | [format] => int <$> intFormat format
  | _ => .error .wrongType

/-- The field type that a text stands for; its enumerations bear the given name. -/
def ofNotation (enumerationName text : String) : Except Failure FieldType :=
  ofParts enumerationName (partsOf ':' text)

example : (ofNotation "Kind" "vec:option:u16").toOption = some (vec (option (int .u16))) := by
  decide +kernel
example : (ofNotation "Kind" "enum:u8:A=0,B=7").toOption =
    some (enumerated .u8 ⟨"Kind", [("A", 0), ("B", 7)]⟩) := by decide +kernel

end FieldType
end SolanaWire
