import SolanaWire.ResolverTable.Shared

/-!
# Serial order

Exchanges that come one after the other leave a table in which the last registration of each
program counts.  If each of them is answered by the table that those before it have left, then a
registration finds out the resolver that the registration before it has written for the same
program, and what it logs is what the registration logs at that table.
-/
namespace SolanaWire.ResolverTable

namespace Exchange

/-- Whether a table gives the answers of an exchange. -/
def AnsweredBy (t : ResolverTable) : Exchange → Prop
  | registered program _ previous => previous = t.get? program
  | found program resolver => resolver = t.get? program
  | listed programs => programs = KeyTable.keys t
  | tested program present => present = t.contains program

/-- The resolver that an exchange registers for a program, if it does. -/
def registration? (program : Key) : Exchange → Option NamedResolver
  | registered program' resolver _ => if program = program' then some resolver else none
  | _ => none

end Exchange

theorem Routine.answeredBy_of_exchange? {r : Routine} {t : ResolverTable} {x : Exchange}
    (asked : r.exchange? t = some x) : x.AnsweredBy t := by
  cases r with
  | finish result => cases asked
  | _ =>
    cases asked
    exact rfl

/-- What some exchanges, one after the other, make of a table. -/
def after (t : ResolverTable) (xs : List Exchange) : ResolverTable := xs.foldl Exchange.effect t

theorem after_append (t : ResolverTable) (xs ys : List Exchange) :
    t.after (xs ++ ys) = (t.after xs).after ys :=
  List.foldl_append

/-- Some exchanges, one after the other, are each answered by the table that those before it have
left. -/
def InOrder (t : ResolverTable) : List Exchange → Prop
  | [] => True
  | x :: xs => x.AnsweredBy t ∧ InOrder (x.effect t) xs

theorem inOrder_append {t : ResolverTable} {xs ys : List Exchange} :
    t.InOrder (xs ++ ys) ↔ t.InOrder xs ∧ (t.after xs).InOrder ys := by
  induction xs generalizing t with
  | nil =>
    rw [InOrder, true_and]
    rfl
  | cons x xs ih =>
    rw [List.cons_append, InOrder, InOrder, ih, and_assoc]
    rfl

/-- An exchange that the table answers can be put at the end of the order. -/
theorem InOrder.concat {t : ResolverTable} {xs : List Exchange} {x : Exchange}
    (ordered : t.InOrder xs) (answered : x.AnsweredBy (t.after xs)) : t.InOrder (xs ++ [x]) :=
  inOrder_append.2 ⟨ordered, answered, trivial⟩

end SolanaWire.ResolverTable
