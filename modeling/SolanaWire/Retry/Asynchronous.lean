import SolanaWire.Retry

/-!
# Asynchronous calls that are repeated

An asynchronous call runs in turns.  In each turn it either waits for the call to end or sleeps
through a pause, and then it stands at another stage.
-/
namespace SolanaWire

/-- Where an asynchronous call stands between two turns.  It counts the failed calls. -/
inductive RetryStage (α : Type)
  | calling (failures : Nat)
  | pausing (seconds : Value) (failures : Nat)
  | finished (result : Except Failure α)

namespace RetryPolicy

variable {ε σ α : Type}

/-- One turn: the next call, or a pause. -/
def turn (p : RetryPolicy) (sleep : Sleeper) (bound : Nat) (name : String)
    (call : Procedure ε σ α) : RetryStage α → World ε σ → RetryStage α × World ε σ
  | .calling failures, w =>
    match call w with
    | (.ok a, w) => (.finished (.ok a), w)
    | (.error f, w) =>
      if p.covers f then
        if p.allowance bound < failures + 1 then
          let (r, w) := p.exhaust name f w
          (.finished r, w)
        else
          match p.retryLine name f (failures + 1) with
          | .error g => (.finished (.error g), w)
          | .ok line =>
            let w := w.record (.logged line)
            match p.pauseAfter (failures + 1) with
            | .error g => (.finished (.error g), w)
            | .ok seconds => (.pausing seconds (failures + 1), w)
      else (.finished (.error f), w.record (.logged (p.failedLine name f)))
  | .pausing seconds failures, w =>
    match sleep seconds with
    | .error g => (.finished (.error g), w)
    | .ok _ => (.calling failures, w.record (.paused seconds))
  | .finished r, w => (.finished r, w)

/-- A bound on the turns that are left. -/
def turnsLeft (p : RetryPolicy) (bound : Nat) : RetryStage α → Nat
  | .calling failures => 2 * (p.allowance bound - failures) + 1
  | .pausing _ failures => 2 * (p.allowance bound - failures) + 2
  | .finished _ => 0

theorem turnsLeft_turn_calling (p : RetryPolicy) (sleep : Sleeper) (bound : Nat) (name : String)
    (call : Procedure ε σ α) (failures : Nat) (w : World ε σ) :
    p.turnsLeft bound (p.turn sleep bound name call (.calling failures) w).1 <
      p.turnsLeft bound (.calling failures : RetryStage α) := by
  simp only [turn]
  split
  · simp [turnsLeft]
  · split
    · split
      · simp [turnsLeft]
      · split
        · simp [turnsLeft]
        · split
          · simp [turnsLeft]
          · simp only [turnsLeft]
            omega
    · simp [turnsLeft]

/-- Takes turns until the call is finished. -/
def drive (p : RetryPolicy) (sleep : Sleeper) (bound : Nat) (name : String)
    (call : Procedure ε σ α) : RetryStage α → World ε σ → Except Failure α × World ε σ
  | .finished r, w => (r, w)
  | .calling failures, w =>
    let next := p.turn sleep bound name call (.calling failures) w
    drive p sleep bound name call next.1 next.2
  | .pausing seconds failures, w =>
    match sleep seconds with
    | .error g => (.error g, w)
    | .ok _ => drive p sleep bound name call (.calling failures) (w.record (.paused seconds))
termination_by stage => p.turnsLeft bound stage
decreasing_by
  · exact turnsLeft_turn_calling p sleep bound name call failures w
  · simp [turnsLeft]

/-- A procedure of a name, called asynchronously under the policy.  The bound matters only to a
policy without an end. -/
def runAsync (p : RetryPolicy) (sleep : Sleeper) (bound : Nat) (name : String)
    (call : Procedure ε σ α) : Procedure ε σ α :=
  p.drive sleep bound name call (.calling 0)

end RetryPolicy
end SolanaWire
