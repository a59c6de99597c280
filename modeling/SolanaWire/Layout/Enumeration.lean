import SolanaWire.Value

/-!
# Enumerations

A closed set of named numbers.  Where several names share a number, the first of them names it.
-/
namespace SolanaWire

/-- A closed set of named numbers. -/
structure Enumeration where
  name : String
  members : List (String × Int)
  deriving DecidableEq

/-- The member with a number. -/
def Enumeration.member? (e : Enumeration) (number : Int) : Option Member :=
  (e.members.find? (·.2 == number)).map (fun m => ⟨e.name, m.1, number⟩)

/-- The member whose number a value equals. -/
def Enumeration.memberOf? (e : Enumeration) (v : Value) : Option Member :=
  (e.members.find? (fun m => v.eqv (.int m.2))).map (fun m => ⟨e.name, m.1, m.2⟩)

theorem Enumeration.number_of_member? {e : Enumeration} {number : Int} {m : Member}
    (h : e.member? number = some m) : m.number = number := by
  obtain ⟨_, _, rfl⟩ := Option.map_eq_some_iff.1 h
  rfl

end SolanaWire
