import SolanaWire.Lock.Turn
import SolanaWire.ResolverTable

/-!
# A shared resolver table

A resolver table that several workers use at once, each in a thread of its own.  A worker makes one
request after the other.  For each of them it takes the table's lock, for writing if it registers a
resolver and for reading otherwise; it looks at the table; a registration then writes to the table;
and the worker gives the lock back.  Only after that a resolver that was looked up is called, and a
registration that has replaced a different resolver is reported.  A resolver is code that may make
requests of its own.

Each of these actions is one step.  `Shared.step?` is the effect of a step, and `Shared.run` takes
the steps of all workers in any order.
-/
namespace SolanaWire.ResolverTable

/-- What becomes of a custom code: an error of the program, if there is one, or a failure. -/
abbrev Resolution := Except Failure (Option ResolvedError)

/-- What a piece of code does with a table.  It ends with a result, or it makes a request and goes
on with the answer. -/
inductive Routine
  | finish (result : Resolution)
  | register (program : Key) (resolver : NamedResolver) (next : Routine)
  | resolve (program : Key) (code : Value) (next : Resolution → Routine)
  | programs (next : List Key → Routine)
  | contains (program : Key) (next : Bool → Routine)

/-- What a request finds out under the lock.  A registration finds out which resolver the program
had before. -/
inductive Exchange
  | registered (program : Key) (resolver : NamedResolver) (previous : Option NamedResolver)
  | found (program : Key) (resolver : Option NamedResolver)
  | listed (programs : List Key)
  | tested (program : Key) (present : Bool)

namespace Exchange

/-- What an exchange makes of the table. -/
def effect (t : ResolverTable) : Exchange → ResolverTable
  | registered program resolver _ => t.register program resolver
  | _ => t

/-- What is logged after an exchange. -/
def log : Exchange → List LogLine
  | registered program resolver (some previous) =>
    if previous.name != resolver.name then [overwriteWarning program] else []
  | _ => []

end Exchange

namespace Routine

/-- What a routine wants the lock for, if it makes a request next. -/
def access? : Routine → Option Access
  | finish _ => none
  | register .. => some .write
  | resolve .. | programs _ | contains .. => some .read

/-- What the next request of a routine finds out from a table. -/
def exchange? (t : ResolverTable) : Routine → Option Exchange
  | finish _ => none
  | register program resolver _ => some (.registered program resolver (t.get? program))
  | resolve program _ _ => some (.found program (t.get? program))
  | programs _ => some (.listed (KeyTable.keys t))
  | contains program _ => some (.tested program (t.contains program))

end Routine

/-- A routine under way, and the routines that wait for its result, innermost first. -/
structure Execution where
  routine : Routine
  callers : List (Resolution → Routine)

namespace Execution

/-- Goes on with a routine.  One that has ended gives its result to the routine that waits. -/
def resume : Routine → List (Resolution → Routine) → Execution
  | .finish result, caller :: callers => resume (caller result) callers
  | routine, callers => ⟨routine, callers⟩

/-- The execution of a routine that nobody waits for. -/
def start (r : Routine) : Execution := resume r []

/-- Goes on after an exchange.  `body` is what the resolvers do with a code. -/
def answer (body : NamedResolver → Value → Routine) (e : Execution) (x : Exchange) : Execution :=
  match e.routine, x with
  | .register _ _ next, .registered .. => resume next e.callers
  | .resolve _ _ next, .found _ none => resume (next (.ok none)) e.callers
  | .resolve _ code next, .found _ (some resolver) =>
    resume (body resolver code) (next :: e.callers)
  | .programs next, .listed programs => resume (next programs) e.callers
  | .contains _ next, .tested _ present => resume (next present) e.callers
  | _, _ => e

end Execution

/-- How far a worker is with a request.  In between two requests it is outside.  After it has come
for the lock it looks at the table, a registration writes to the table, and then it leaves. -/
inductive Stage
  | outside
  | asking
  | seen (x : Exchange)
  | settled (x : Exchange)
  | through (x : Exchange)

namespace Stage

/-- How far a worker is once it has looked at the table: only a registration goes on to write. -/
def afterLook : Exchange → Stage
  | x@(.registered ..) => seen x
  | x => settled x

end Stage

/-- A worker: what it does, the exchanges it has behind it, and how far it is with the next. -/
structure Worker where
  execution : Execution
  exchanges : List Exchange := []
  stage : Stage := .outside

/-- A table with its lock and the workers that use it, each with the thread at its own position,
and what they have logged. -/
structure Shared where
  site : LockSite
  table : ResolverTable
  workers : List Worker
  log : List (Nat × LogLine) := []

/-- What happens next: a worker takes a step, or one that waits for the lock wakes up although it
has not been notified. -/
inductive Move
  | go (i : Nat)
  | wake (i : Nat)

namespace Shared

/-- A thread that has no business with the lock. -/
def idleThread : Thread := ⟨"worker", .read, .work false, .finished⟩

/-- Workers that are about to begin with some routines. -/
def start (table : ResolverTable) (routines : List Routine) : Shared where
  site := { threads := routines.map (fun _ => idleThread) }
  table := table
  workers := routines.map (fun r => { execution := .start r })

/-- Puts a worker into another state. -/
def setWorker (s : Shared) (i : Nat) (w : Worker) : Shared :=
  { s with workers := s.workers.set i w }

/-- A worker comes for the lock. -/
def come (s : Shared) (i : Nat) (w : Worker) (t : Thread) (access : Access) : Shared :=
  { s.setWorker i { w with stage := .asking } with
    site := s.site.comeAgain i t access (.work false) }

/-- A worker that holds the lock has looked at the table. -/
def look (s : Shared) (i : Nat) (w : Worker) (x : Exchange) : Shared :=
  s.setWorker i { w with stage := .afterLook x }

/-- A worker writes to the table. -/
def write (s : Shared) (i : Nat) (w : Worker) (x : Exchange) : Shared :=
  { s.setWorker i { w with stage := .settled x } with table := x.effect s.table }

/-- A worker gives the lock back, which leads to another site. -/
def leave (s : Shared) (i : Nat) (w : Worker) (x : Exchange) (site : LockSite) : Shared :=
  { s.setWorker i { w with stage := .through x } with site }

/-- A worker logs what there is to log, and goes on with its routine or with a resolver. -/
def proceed (body : NamedResolver → Value → Routine) (s : Shared) (i : Nat) (w : Worker)
    (x : Exchange) : Shared :=
  { s.setWorker i ⟨w.execution.answer body x, w.exchanges ++ [x], .outside⟩ with
    log := s.log ++ x.log.map (i, ·) }

/-- The next step of a worker, unless its routine has ended or it waits for the lock. -/
def advance? (body : NamedResolver → Value → Routine) (s : Shared) (i : Nat) (w : Worker)
    (t : Thread) : Option Shared :=
  match w.stage with
  | .outside => w.execution.routine.access?.map (s.come i w t)
  | .asking =>
    if t.phase = .holding then (w.execution.routine.exchange? s.table).map (s.look i w)
    else (s.site.step? (.look i)).map (fun site => { s with site })
  | .seen x => some (s.write i w x)
  | .settled x => (s.site.step? (.leave i)).map (s.leave i w x)
  | .through x => some (s.proceed body i w x)

/-- The effect of a move that can be taken. -/
def step? (body : NamedResolver → Value → Routine) (s : Shared) : Move → Option Shared
  | .go i => s.workers[i]?.bind fun w => s.site.threads[i]?.bind (s.advance? body i w)
  | .wake i => (s.site.threads[i]?.filter (·.phase == .waiting)).map
      (fun t => { s with site := s.site.setPhase i t .notified })

/-- Takes moves one after the other, and passes over those that cannot be taken. -/
def run (body : NamedResolver → Value → Routine) (s : Shared) (schedule : List Move) : Shared :=
  schedule.foldl (fun s move => (s.step? body move).getD s) s

end Shared
end SolanaWire.ResolverTable
