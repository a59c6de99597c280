import SolanaWire.Failure.Class
import SolanaWire.Journal
import SolanaWire.Retry.Sleeper

/-!
# Calls that are repeated

A call that fails is repeated as often as its policy allows, if the policy covers the failure.
The pauses between the calls grow linearly.  Every repetition is logged as a warning, and a
failure that is passed on is logged as an error.  A policy whose number of repetitions or whose
delay is no number fails when it needs one.  So does one whose number of repetitions has too many
digits for a log line, and one whose pause is refused; neither is logged as an error.

The number of repetitions may be infinite.  Such a policy is followed for a bounded number of
repetitions, and a run that has not ended by then is left unfinished.
-/
namespace SolanaWire

/-- How many repetitions are allowed: so many, or as many as it takes. -/
inductive RetryLimit
  | times (n : Nat)
  | endless
  deriving DecidableEq

/-- When and how often a call is repeated.  The delay is in seconds. -/
structure RetryPolicy where
  retries : Value := .int 0
  delay : Value := .float (.ofRatio false 1 1)
  retryOn : Option (List FailureClass) := none
  source : LogSource := .errorHandling

namespace RetryPolicy

/-- The classes of failures after which a call is repeated: failures of RPC requests, unless the
policy names other classes. -/
def classes (p : RetryPolicy) : List FailureClass :=
  match p.retryOn with
  | none | some [] => [.reported .rpc]
  | some named => named

/-- Whether a call is repeated after a failure. -/
def covers (p : RetryPolicy) (f : Failure) : Bool := p.classes.any (·.covers f.fault)

/-- How many repetitions the policy allows: those whose number is not above `retries`.  No number
is above an infinite one, or above one that is not a number. -/
def limit (p : RetryPolicy) : Except Failure RetryLimit :=
  match p.retries.number? with
  | some (.int n) => .ok (.times n.toNat)
  | some (.float x) =>
    match x.truncate? with
    | some n => .ok (.times n.toNat)
    | none => .ok (if x = .infinite true then .times 0 else .endless)
  | none => .error .wrongType

/-- The number of repetitions in a run, at most `bound` of them where the policy has no end. -/
def allowance (p : RetryPolicy) (bound : Nat) : Nat :=
  match p.limit with
  | .ok (.times n) => n
  | .ok .endless => bound
  | .error _ => 0

/-- The length of the pause after a number of failed calls. -/
def pauseAfter (p : RetryPolicy) (failures : Nat) : Except Failure Value := p.delay.times failures

/-- Sleeps through the pause after a number of failed calls. -/
def sleepAfter (p : RetryPolicy) (sleep : Sleeper) (failures : Nat) : Except Failure Value := do
  let seconds ← p.pauseAfter failures
  sleep seconds
  return seconds

/-- The line about a failure that is not repeated. -/
def failedLine (p : RetryPolicy) (name : String) (f : Failure) : LogLine :=
  ⟨.error, p.source, s!"Error in {name}: {f.text}"⟩

/-- The line about the failure of the last call that the policy allows. -/
def exhaustedLine (p : RetryPolicy) (name : String) (f : Failure) : Except Failure LogLine := do
  return ⟨.error, p.source, s!"Failed after {← p.retries.written} retries in {name}: {f.text}"⟩

/-- The line about a failure after which the call is repeated. -/
def retryLine (p : RetryPolicy) (name : String) (f : Failure) (failures : Nat) :
    Except Failure LogLine := do
  return ⟨.warning, p.source,
    s!"Retrying {name} after error: {f.text}. Attempt {failures}/{← p.retries.written}"⟩

variable {ε σ α : Type}

/-- Ends a run after the failure of its last call. -/
def exhaust (p : RetryPolicy) (name : String) (f : Failure) (w : World ε σ) :
    Except Failure α × World ε σ :=
  match p.limit with
  | .error g => (.error g, w)
  | .ok .endless => (.error .unfinished, w)
  | .ok (.times _) =>
    match p.exhaustedLine name f with
    | .error g => (.error g, w)
    | .ok line => (.error f, w.record (.logged line))

/-- Calls until a call succeeds, fails in a way that the policy does not cover, or no repetition is
left.  `left` repetitions are left after `failures` failed calls. -/
def attempt (p : RetryPolicy) (sleep : Sleeper) (name : String) (call : Procedure ε σ α) :
    (left failures : Nat) → World ε σ → Except Failure α × World ε σ
  | left, failures, w =>
    match call w with
    | (.ok a, w) => (.ok a, w)
    | (.error f, w) =>
      if p.covers f then
        match left with
        | 0 => p.exhaust name f w
        | left + 1 =>
          match p.retryLine name f (failures + 1) with
          | .error g => (.error g, w)
          | .ok line =>
            let w := w.record (.logged line)
            match p.sleepAfter sleep (failures + 1) with
            | .error g => (.error g, w)
            | .ok seconds =>
              attempt p sleep name call left (failures + 1) (w.record (.paused seconds))
      else (.error f, w.record (.logged (p.failedLine name f)))

/-- A procedure of a name, called under the policy.  The bound matters only to a policy without an
end. -/
def run (p : RetryPolicy) (sleep : Sleeper) (bound : Nat) (name : String)
    (call : Procedure ε σ α) : Procedure ε σ α :=
  p.attempt sleep name call (p.allowance bound) 0

example : limit { retries := .float (.infinite false) } = .ok .endless := by rfl
example : limit { retries := .float (.ofRatio false 5 2) } = .ok (.times 2) := by rfl

end RetryPolicy
end SolanaWire
