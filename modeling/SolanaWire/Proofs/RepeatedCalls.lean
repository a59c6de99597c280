import SolanaWire.Proofs.FirstPosition
import SolanaWire.Proofs.Pauses
import SolanaWire.Proofs.Procedures
import SolanaWire.Retry.Asynchronous

/-!
# Repeated calls

A call that is repeated under a policy does the same whether it runs to its end at once or in turns,
as long as its pauses are slept through in the same way.  It is repeated up to the first value or
failure that the policy does not list, but at most as often as the policy allows.  Each repetition
is announced and follows a pause, a multiple of the delay, and the last call gives the result.
Where a repetition cannot be announced or its pause is refused, the run ends with that failure
instead.
-/
namespace SolanaWire
open Outcome

/-- A failure that is reported as that of an RPC request. -/
def Failure.IsRpc (f : Failure) : Prop :=
  ∃ report, f.fault = .reported report ∧ report.facts.reportClass = .rpc

namespace RetryPolicy

section Turns

variable {ε σ α : Type} (p : RetryPolicy) (sleep : Sleeper) (bound : Nat) (name : String)
  (call : Procedure ε σ α)

end Turns

variable {α : Type} {p : RetryPolicy} {sleep : Sleeper} {d : Number} {name : String}
  {r left failures : Nat} {outcomes : Nat → Except Failure α} {w : World Unit Unit}

/-- The failures after which a call is repeated: those of a listed class, or those of RPC requests
if no class is listed. -/
inductive IsListed (p : RetryPolicy) : Failure → Prop
  | named {classes : List FailureClass} {kind : FailureClass} {f : Failure}
      (given : p.retryOn = some classes) (member : kind ∈ classes) (covers : kind.covers f.fault) :
      IsListed p f
  | standard {f : Failure} (absent : p.retryOn = none) (rpc : f.IsRpc) : IsListed p f

/-- An outcome after which a call is not repeated: a value, or a failure that is not listed. -/
def Settles (p : RetryPolicy) (outcome : Except Failure α) : Prop :=
  ∀ f, outcome = .error f → ¬ p.IsListed f

/-- Calls whose outcomes are laid down, one for each call. -/
def scripted (outcomes : Nat → Except Failure α) : Procedure Unit Unit α := fun w =>
  (outcomes w.journal.acts.length, w.record (.did ()))

/-- The levels of the lines that end a run with an outcome. -/
def closing : Except Failure α → List Level
  | .ok _ => []
  | .error _ => [.error]

/-- How a run ends that repeated its first call `n` times, and the levels of its last lines: with
the outcome of the last call, or with the failure of the pause that was announced after it. -/
inductive Ends (p : RetryPolicy) (sleep : Sleeper) (left failures : Nat)
    (outcomes : Nat → Except Failure α) (n : Nat) : Except Failure α → List Level → Prop
  | last (spent : ¬ p.Settles (outcomes n) → n = left) :
      Ends p sleep left failures outcomes n (outcomes n) (closing (outcomes n))
  | refused {g : Failure} (more : n < left) (listed : ¬ p.Settles (outcomes n))
      (refuses : p.sleepAfter sleep (failures + n + 1) = .error g) :
      Ends p sleep left failures outcomes n (.error g) [.warning]

theorem Ends.cons {n : Nat} {result : Except Failure α} {levels : List Level}
    (ends : Ends p sleep left (failures + 1) (fun j => outcomes (j + 1)) n result levels) :
    Ends p sleep (left + 1) failures outcomes (n + 1) result levels := by
  cases ends with
  | last spent => exact .last (fun listed => congrArg (· + 1) (spent listed))
  | refused more listed refuses =>
    rw [Nat.add_right_comm failures 1 n, Nat.add_assoc failures n 1] at refuses
    exact .refused (Nat.succ_lt_succ more) listed refuses

/-- What a run does from one call on, with `left` repetitions left after `failures` failed calls,
given the outcomes of its calls. -/
structure Repeats (p : RetryPolicy) (sleep : Sleeper) (d : Number) (left failures : Nat)
    (outcomes : Nat → Except Failure α) (pauses : List Number) (result : Except Failure α)
    (ending : List Level) (events : Journal Unit) : Prop where
  deeds : events.deeds = .did () :: pauses.flatMap (fun s => [.paused (.number s), .did ()])
  levels : events.log.map (·.level) = List.replicate pauses.length .warning ++ ending
  few : pauses.length ≤ left
  listed : ∀ j < pauses.length, ¬ p.Settles (outcomes j)
  lengths : ∀ j (inside : j < pauses.length),
    d.product (.int (failures + j + 1 : Nat)) = .ok pauses[j] ∧
      sleep (.number pauses[j]) = .ok ()
  ends : Ends p sleep left failures outcomes pauses.length result ending

namespace Repeats

variable {result : Except Failure α} {ending : List Level}

/-- A run that ends after its first call. -/
theorem single {events : Journal Unit} (deeds : events.deeds = [.did ()])
    (levels : events.log.map (·.level) = ending)
    (ends : Ends p sleep left failures outcomes 0 result ending) :
    Repeats p sleep d left failures outcomes [] result ending events where
  deeds := deeds
  levels := levels
  few := Nat.zero_le left
  listed j inside := absurd inside (Nat.not_lt_zero j)
  lengths j inside := absurd inside (Nat.not_lt_zero j)
  ends := ends

/-- A run that goes on after its first call. -/
theorem cons {s : Number} {line : LogLine} {pauses : List Number} {events : Journal Unit}
    (listed : ¬ p.Settles (outcomes 0)) (warning : line.level = .warning)
    (length : d.product (.int (failures + 1 : Nat)) = .ok s) (slept : sleep (.number s) = .ok ())
    (tail : Repeats p sleep d left (failures + 1) (fun j => outcomes (j + 1)) pauses result ending
      events) :
    Repeats p sleep d (left + 1) failures outcomes (s :: pauses) result ending
      ([.did (), .logged line, .paused (.number s)] ++ events) where
  deeds := by
    rw [Journal.deeds_append, tail.deeds]
    rfl
  levels := by
    rw [Journal.log_append, List.map_append, tail.levels, List.length_cons, List.replicate_succ,
      List.cons_append, ← warning]
    rfl
  few := Nat.add_le_add_right tail.few 1
  listed j inside := by
    cases j with
    | zero => exact listed
    | succ j => exact tail.listed j (by simpa using inside)
  lengths j inside := by
    cases j with
    | zero => exact ⟨length, slept⟩
    | succ j =>
      have shifted : failures + (j + 1) + 1 = failures + 1 + j + 1 := by omega
      rw [shifted]
      exact tail.lengths j (by simpa using inside)
  ends := tail.ends.cons

end Repeats

end RetryPolicy
end SolanaWire
