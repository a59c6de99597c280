import SolanaWire.Value.Conversion

/-!
# Sleepers

A pause is slept through by blocking everything else, or by giving others a turn.  A blocking sleep
takes no length below zero, and none that its clock cannot count in nanoseconds.  A cooperative
sleep takes every number of seconds, but an integer above zero only if it has a floating-point form;
one that is not above zero is over at once.
-/
namespace SolanaWire

/-- Sleeps for a number of seconds, unless it refuses to. -/
abbrev Sleeper := Value → Except Failure Unit

namespace Sleeper

/-- A sleep during which others have their turns. -/
def cooperative : Sleeper := fun seconds =>
  match seconds.number? with
  | none => .error .wrongType
  | some (.int n) =>
    if 0 < n then (Binary64.ofInt? n).elim (.error integerTooLarge) (fun _ => .ok ()) else .ok ()
  | some (.float _) => .ok ()

end Sleeper
end SolanaWire
