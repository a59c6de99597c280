import SolanaWire.Failure
import SolanaWire.Log

/-!
# Journals

A procedure may log lines, pause, and act in ways of its own, such as posting a request.  What it
did is kept in a journal, the earliest first.  What it did stays in the journal if it fails.
-/
namespace SolanaWire

/-- One thing that a procedure did. -/
inductive Event (ε : Type)
  | logged (line : LogLine)
  | paused (seconds : Value)
  | did (act : ε)

/-- What was done, the earliest first. -/
abbrev Journal (ε : Type) := List (Event ε)

namespace Journal

variable {ε : Type}

/-- The lines that were logged. -/
def log (j : Journal ε) : List LogLine :=
  j.filterMap (fun
    | .logged line => some line
    | _ => none)

/-- The lengths of the pauses. -/
def pauses (j : Journal ε) : List Value :=
  j.filterMap (fun
    | .paused seconds => some seconds
    | _ => none)

/-- The acts of the procedure's own kind. -/
def acts (j : Journal ε) : List ε :=
  j.filterMap (fun
    | .did act => some act
    | _ => none)

@[simp] theorem log_append (j k : Journal ε) : log (j ++ k) = log j ++ log k := by simp [log]

@[simp] theorem pauses_append (j k : Journal ε) : pauses (j ++ k) = pauses j ++ pauses k := by
  simp [pauses]

@[simp] theorem acts_append (j k : Journal ε) : acts (j ++ k) = acts j ++ acts k := by
  simp [acts]

end Journal

/-- What a procedure works on: what was done so far, and a state of its own. -/
structure World (ε σ : Type) where
  journal : Journal ε := []
  state : σ

/-- A procedure that may fail. -/
abbrev Procedure (ε σ α : Type) := ExceptT Failure (StateM (World ε σ)) α

namespace World

variable {ε σ : Type}

/-- The world with one more event. -/
def record (w : World ε σ) (e : Event ε) : World ε σ := { w with journal := w.journal ++ [e] }

@[simp] theorem journal_record (w : World ε σ) (e : Event ε) :
    (w.record e).journal = w.journal ++ [e] := rfl

@[simp] theorem state_record (w : World ε σ) (e : Event ε) : (w.record e).state = w.state := rfl

end World

namespace Procedure

variable {ε σ : Type}

/-- Writes an event down. -/
def record (e : Event ε) : Procedure ε σ Unit := modify (·.record e)

/-- Logs a line. -/
def log (level : Level) (source : LogSource) (text : String) : Procedure ε σ Unit :=
  record (.logged ⟨level, source, text⟩)

/-- Pauses for a number of seconds. -/
def pause (seconds : Value) : Procedure ε σ Unit := record (.paused seconds)

/-- The state of the procedure's own. -/
def state : Procedure ε σ σ := do return (← get).state

/-- Changes the state of the procedure's own. -/
def update (f : σ → σ) : Procedure ε σ Unit := modify (fun w => { w with state := f w.state })

end Procedure
end SolanaWire
