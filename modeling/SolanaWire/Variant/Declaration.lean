import SolanaWire.Repetition
import SolanaWire.Text.ParameterName
import SolanaWire.Variant.Feature

/-!
# Declared variants

Variants beside the built-in ones are declared under a number.  The names of the parameters must be
valid and differ.  No slot may have the name of a parameter, nor one of some fixed names.  A
parameter whose name stands for something in every payload takes that for the value that it has if
none is given, and after it come only parameters of this kind.  The names must still differ in their
composed forms, and be composed.  At last no slot may hide how payloads are made.  The checks are
made in this order, so the first fault is the one reported.
-/
namespace SolanaWire.Variant

/-- The report about a slot that hides a parameter. -/
def shadowFailure (v : Variant) (slot : String) : Failure :=
  .foreign .wrongType s!"{v.name}: account '{slot}' shadows a parameter"

/-- What is wrong with the slots: the first that hides a parameter, or has a name that no slot can
have. -/
def slotFailure? (v : Variant) : Option Failure :=
  v.slots.findSome? (fun slot =>
    if v.form.names.contains slot then some (v.shadowFailure slot)
    else (Feature.fixed.lookup slot).map .undescribed)

/-- The words that stand for something in every payload if they are written between double
underscores. -/
def ownWords : List String :=
  ["base", "bases", "basicsize", "call", "class", "dataclass_params", "delattr", "dict",
    "dictoffset", "dir", "doc", "eq", "flags", "format", "ge", "getattribute", "gt", "hash", "init",
    "init_subclass", "instancecheck", "itemsize", "le", "lt", "match_args", "module", "mro", "name",
    "ne", "new", "or", "prepare", "qualname", "reduce", "reduce_ex", "repr", "ror", "setattr",
    "sizeof", "str", "subclasscheck", "subclasses", "subclasshook", "text_signature", "weakref",
    "weakrefoffset"]

/-- The names that stand for something in every payload, except for that of its accounts. -/
def presetNames : List String :=
  (Feature.all.filter (· != .accounts)).map Feature.name ++
    "mro" :: ownWords.map (fun word => "__" ++ word ++ "__")

/-- The names that stand for tables that all payloads would share and could change. -/
def sharedNames : List String := ["__annotations__", "__dataclass_fields__"]

/-- The failure to give a parameter something shared for its value. -/
def sharedFailure (name : String) : Failure :=
  .foreign .invalidValue
    s!"mutable default <class 'dict'> for field {name} is not allowed: use default_factory"

/-- Whether some parameter without a value of its own comes after one that has such a value. -/
def isMisordered (v : Variant) : Bool :=
  let params := v.makingOrder.filter v.form.names.contains
  !(params.dropWhile (!presetNames.contains ·)).all presetNames.contains

/-- The failure of a name to be unlike an earlier one. -/
def repetitionFailure (name : String) (line : Nat) : Failure :=
  .foreign .grammar s!"duplicate argument '{name}' in function definition (<string>, line {line})"

/-- The name of the payload itself while it is made, unless a parameter has that name. -/
def selfName : String := "self"

/-- The name of a constant that never changes. -/
def constantName : String := "__debug__"

/-- What is wrong with the composed forms of the names that payloads are made from. -/
def composedFault? (v : Variant) : Option Failure :=
  let names := v.makingOrder.map ComposedForm.ofText
  match firstRepeated? names with
  | some name => some (repetitionFailure ("_type_" ++ name) 1)
  | none =>
    if !v.form.names.contains selfName && names.contains selfName then
      some (repetitionFailure selfName 2)
    else if names.contains constantName then
      some (.foreign .grammar s!"cannot assign to {constantName} (<string>, line 2)")
    else if v.form.names.all ParameterName.isComposed then none
    else some .wrongType

/-- Fails for a name that no type can have. -/
def checkTypeName (name : String) : Except Failure Unit :=
  if name.toList.contains '\x00' then
    .error (.foreign .invalidValue "type name must not contain null characters")
  else .ok ()

/-- Whether a slot hides how payloads are made, which is looked up for the description of the
variant unless a slot hides that too. -/
def isObscure (v : Variant) : Bool :=
  ["__init__", "__new__", "__signature__"].any v.slots.contains && !v.slots.contains "__doc__"

/-- Declares a variant under a number. -/
def declare (v : Variant) (number : Nat) : Except Failure Variant := do
  if !(v.form.names.all ParameterName.isValid && (firstRepeated? v.form.names).isNone) then
    throw .wrongType
  checkTypeName v.name
  if let some failure := v.slotFailure? then throw failure
  if let some name := v.form.names.find? sharedNames.contains then throw (sharedFailure name)
  if v.isMisordered then throw .wrongType
  if let some failure := v.composedFault? then throw failure
  if v.isObscure then throw .wrongType
  return { v with declaration := some number }

end SolanaWire.Variant
