import SolanaWire.Variant

/-!
# Features of payloads

Every payload has features beside its parameters and the accounts of its slots: its wire form, the
least number of accounts, the list of its parameters and so on.  Features are reached by name, as
parameters and slots are, so a parameter or a slot of the same name hides one, and then what needs
the feature fails.  A slot hides it in the variant and in every payload, a parameter in the
payloads only.  A variant that hides nothing has none of the faults of this module.
-/
namespace SolanaWire

/-- What every payload has beside its parameters and the accounts of its slots. -/
inductive Feature
  | slots
  | optionalSlots
  | layout
  | accounts
  | minAccounts
  | paramNames
  | reading
  | writing
  | params
  | remaining
  deriving DecidableEq

namespace Feature

/-- The features, in the order in which payloads have them. -/
def all : List Feature :=
  [slots, optionalSlots, layout, accounts, minAccounts, paramNames, reading, writing, params,
    remaining]

/-- The name that a feature is reached by. -/
def name : Feature → String
  | slots => "ACCOUNTS"
  | optionalSlots => "OPTIONAL_ACCOUNTS"
  | layout => "LAYOUT"
  | accounts => "accounts"
  | minAccounts => "min_accounts"
  | paramNames => "param_names"
  | reading => "parse_params"
  | writing => "encode_params"
  | params => "params"
  | remaining => "remaining_accounts"

theorem mem_all (f : Feature) : f ∈ all := by cases f <;> decide

/-- The names that no parameter of a payload can be set under, with the kind of the fault. -/
def unsettable : List (String × ForeignClass) :=
  [(name remaining, .missingAttribute), ("__weakref__", .missingAttribute),
    ("__class__", .wrongType), ("__dict__", .wrongType), ("_dflt_accounts", .wrongType)]

/-- The names of what starts to make payloads, with the kind of the fault if a slot hides it. -/
def starters : List (String × ForeignClass) :=
  [("__new__", .wrongType), ("__init__", .missingAttribute), ("__setattr__", .missingAttribute)]

/-- The names of what ends the making of payloads, with the kind of the fault if a slot hides it. -/
def finishers : List (String × ForeignClass) := [("__post_init__", .wrongType)]

/-- The names of what reaches anything by its name, with the kind of the fault if a slot hides
it. -/
def reachers : List (String × ForeignClass) := [("__getattribute__", .recursion)]

/-- The names of what shows payloads, with the kind of the fault if a slot hides it. -/
def writers : List (String × ForeignClass) := [("__repr__", .wrongType)]

/-- The names that slots lose to what every variant is given, with the kind of the fault of their
use. -/
def regained : List (String × ForeignClass) :=
  ["__abstractmethods__", "__dataclass_fields__", "__dataclass_params__"].map
    (·, .missingAttribute)

/-- The names that no slot can have, with the kind of the fault. -/
def fixed : List (String × ForeignClass) :=
  ["__bases__", "__class__", "__name__", "__qualname__"].map (·, .wrongType) ++
    ["__annotations__", "__base__", "__basicsize__", "__dict__", "__dictoffset__", "__flags__",
      "__itemsize__", "__mro__", "__text_signature__", "__weakrefoffset__"].map
      (·, .missingAttribute)

/-- The names that have a meaning of their own, so that not all works for the variants that use
them. -/
def taken : List String :=
  all.map name ++ (unsettable ++ starters ++ finishers ++ reachers ++ writers ++ regained).map (·.1)

end Feature

namespace Variant

/-- Whether a slot hides one of some features. -/
def slotHides (v : Variant) (features : List Feature) : Bool :=
  features.any (fun f => v.slots.contains f.name)

/-- Whether a parameter hides one of some features. -/
def paramHides (v : Variant) (features : List Feature) : Bool :=
  features.any (fun f => v.form.names.contains f.name)

/-- Whether payloads lack one of some features. -/
def hides (v : Variant) (features : List Feature) : Bool :=
  v.slotHides features || v.paramHides features

/-- The kind of the fault that goes with the first of some names that is that of a slot. -/
def slotFault? (v : Variant) (faults : List (String × ForeignClass)) : Option ForeignClass :=
  (faults.find? (v.slots.contains ·.1)).map (·.2)

/-- The names that payloads are made from, in their order: the accounts and any parameters that hide
one of the first features, in the order of the features, and then the other parameters. -/
def makingOrder (v : Variant) : List String :=
  let front := (Feature.all.take 4).map Feature.name
  front.filter (fun n => n == Feature.accounts.name || v.form.names.contains n) ++
    v.form.names.filter (!front.contains ·)

/-- The names of the parameters of payloads, except for one that hides the accounts. -/
def paramNames (v : Variant) : List String :=
  v.makingOrder.filter (· != Feature.accounts.name)

/-- Why the accounts that a variant needs cannot be counted. -/
def countFault? (v : Variant) : Option ForeignClass :=
  if v.slotHides [.slots, .optionalSlots, .minAccounts] then some .wrongType else none

/-- Why a variant cannot be described by its slots, its count of accounts and its parameters. -/
def summaryFault? (v : Variant) : Option ForeignClass :=
  if v.slotHides [.slots] then some .wrongType
  else v.slotFault? Feature.regained <|> v.countFault? <|>
    if v.slotHides [.paramNames] then some .wrongType else none

/-- Why no parameters of a variant can be read. -/
def readFault? (v : Variant) : Option ForeignClass :=
  if v.slotHides [.reading] then some .wrongType
  else if v.slotHides [.layout] then some .missingAttribute
  else none

/-- Why no payload of a variant can be made: a slot hides what makes it, or a parameter cannot be
set. -/
def makeFault? (v : Variant) : Option ForeignClass :=
  v.slotFault? Feature.starters <|> v.form.names.findSome? (Feature.unsettable.lookup ·) <|>
    v.slotFault? Feature.finishers

/-- Why no payload of a variant can be made from parameters that were read.  They do not include
one that hides the accounts. -/
def remakeFault? (v : Variant) : Option ForeignClass :=
  if v.paramHides [.accounts] || (v.slotHides [.paramNames] && v.form.names != []) then
    some .wrongType
  else v.makeFault?

/-- Why the parameters, the named accounts and the remaining ones of a payload cannot be listed. -/
def listFault? (v : Variant) : Option ForeignClass :=
  v.slotFault? Feature.reachers <|>
    if v.hides [.params, .paramNames] || v.slotHides [.slots] then some .wrongType
    else if v.slotHides [.accounts] then some .missingAttribute
    else v.slotFault? Feature.regained <|>
      if v.slotHides [.remaining] || v.paramHides [.slots] then some .wrongType else none

/-- Why payloads have no literal. -/
def literalFault? (v : Variant) : Option ForeignClass := v.slotFault? Feature.writers

/-- No slot and no parameter of a variant has a name with a meaning of its own. -/
def HidesNothing (v : Variant) : Prop := ∀ n ∈ v.slots ++ v.form.names, n ∉ Feature.taken

instance (v : Variant) : Decidable v.HidesNothing := inferInstanceAs (Decidable (∀ _ ∈ _, _))

theorem name_mem_taken (f : Feature) : f.name ∈ Feature.taken :=
  List.mem_append_left _ (List.mem_map_of_mem (Feature.mem_all f))

/-- No slot and no parameter of a variant has the name of a feature. -/
def KeepsFeatures (v : Variant) : Prop := ∀ f ∈ Feature.all, f.name ∉ v.slots ++ v.form.names

instance (v : Variant) : Decidable v.KeepsFeatures := inferInstanceAs (Decidable (∀ _ ∈ _, _))

theorem HidesNothing.keepsFeatures {v : Variant} (h : v.HidesNothing) : v.KeepsFeatures :=
  fun f _ hidden => h f.name hidden (name_mem_taken f)

theorem slotHides_eq_false {v : Variant} (h : v.KeepsFeatures) (features : List Feature) :
    v.slotHides features = false := by
  rw [slotHides, List.any_eq_false]
  intro f _ hidden
  exact h f (Feature.mem_all f) (List.mem_append_left _ (by simpa using hidden))

theorem paramHides_eq_false {v : Variant} (h : v.KeepsFeatures) (features : List Feature) :
    v.paramHides features = false := by
  rw [paramHides, List.any_eq_false]
  intro f _ hidden
  exact h f (Feature.mem_all f) (List.mem_append_right _ (by simpa using hidden))

theorem hides_eq_false {v : Variant} (h : v.KeepsFeatures) (features : List Feature) :
    v.hides features = false := by
  rw [hides, slotHides_eq_false h, paramHides_eq_false h, Bool.or_false]

theorem slotFault?_eq_none {v : Variant} (h : v.HidesNothing)
    {faults : List (String × ForeignClass)} (taken : ∀ e ∈ faults, e.1 ∈ Feature.taken) :
    v.slotFault? faults = none := by
  rw [slotFault?, Option.map_eq_none_iff, List.find?_eq_none]
  intro e mem hidden
  exact h e.1 (by simp_all) (taken e mem)

theorem countFault?_eq_none {v : Variant} (h : v.KeepsFeatures) : v.countFault? = none := by
  simp [countFault?, slotHides_eq_false h]

theorem readFault?_eq_none {v : Variant} (h : v.KeepsFeatures) : v.readFault? = none := by
  simp [readFault?, slotHides_eq_false h]

theorem makeFault?_eq_none {v : Variant} (h : v.HidesNothing) : v.makeFault? = none := by
  have params : v.form.names.findSome? (Feature.unsettable.lookup ·) = none := by
    rw [List.findSome?_eq_none_iff]
    intro n mem
    rw [List.lookup_eq_none_iff]
    intro e found
    have taken : ∀ e ∈ Feature.unsettable, e.1 ∈ Feature.taken := by decide
    rw [bne_iff_ne]
    rintro rfl
    exact h e.1 (by simp [mem]) (taken e found)
  rw [makeFault?, slotFault?_eq_none h (by decide), params, slotFault?_eq_none h (by decide)]
  rfl

theorem remakeFault?_eq_none {v : Variant} (h : v.KeepsFeatures) (makeable : v.makeFault? = none) :
    v.remakeFault? = none := by
  simp [remakeFault?, paramHides_eq_false h, slotHides_eq_false h, makeable]

theorem listFault?_eq_none {v : Variant} (h : v.HidesNothing) : v.listFault? = none := by
  have keeps := h.keepsFeatures
  rw [listFault?, slotFault?_eq_none h (by decide), slotFault?_eq_none h (by decide)]
  simp [hides_eq_false keeps, paramHides_eq_false keeps, slotHides_eq_false keeps]

/-- Payloads of the variant can be made, and they have all features. -/
structure IsOrdinary (v : Variant) : Prop where
  keepsFeatures : v.KeepsFeatures
  makeable : v.makeFault? = none

theorem HidesNothing.isOrdinary {v : Variant} (h : v.HidesNothing) : v.IsOrdinary where
  keepsFeatures := h.keepsFeatures
  makeable := makeFault?_eq_none h

end Variant

/-- Fails with what is wrong, if anything is. -/
def failFor (fault? : Option ForeignClass) : Except Failure Unit :=
  match fault? with
  | some kind => .error (.undescribed kind)
  | none => .ok ()

end SolanaWire
