/-!
# A lock for many readers or one writer

Any number of readers hold the lock at once, or one writer.  A writer that waits keeps new readers
out, so that it does not starve.  A thread that may not take the lock waits until it is notified,
and then looks again: a release notifies every waiting thread when it may have let one in.

A thread's look at the lock, and its release, are single steps.  `LockSite.step?` is the effect of
one step.
-/
namespace SolanaWire

/-- What a thread wants the lock for. -/
inductive Access
  | read
  | write
  deriving DecidableEq

/-- The state of the lock: how many readers hold it, whether a writer does, and how many writers
wait.  A release that no acquisition preceded makes the number of readers negative. -/
structure ReadWriteLock where
  readers : Int := 0
  writer : Bool := false
  writersWaiting : Nat := 0
  deriving DecidableEq

namespace ReadWriteLock

/-- Counts a writer that has come, before it looks at the lock. -/
def announce (l : ReadWriteLock) : Access → ReadWriteLock
  | .read => l
  | .write => { l with writersWaiting := l.writersWaiting + 1 }

/-- No longer counts a writer that has come. -/
def withdraw (l : ReadWriteLock) : Access → ReadWriteLock
  | .read => l
  | .write => { l with writersWaiting := l.writersWaiting - 1 }

/-- Whether a thread that has come may not take the lock. -/
def refuses (l : ReadWriteLock) : Access → Bool
  | .read => l.writer || l.writersWaiting != 0
  | .write => l.writer || l.readers != 0

/-- Gives the lock to a thread that has come. -/
def grant (l : ReadWriteLock) : Access → ReadWriteLock
  | .read => { l with readers := l.readers + 1 }
  | .write => { l.withdraw .write with writer := true }

/-- Takes the lock back from a thread, whether it had it or not. -/
def release (l : ReadWriteLock) : Access → ReadWriteLock
  | .read => { l with readers := l.readers - 1 }
  | .write => { l with writer := false }

/-- Whether the release that led to this state notifies the waiting threads. -/
def notifiesAfter (l : ReadWriteLock) : Access → Bool
  | .read => l.readers == 0
  | .write => true

end ReadWriteLock

/-- What a thread does with the lock: it keeps it for others to release, or it holds it for a
section of work, which may fail. -/
inductive Conduct
  | keep
  | work (fails : Bool)
  deriving DecidableEq

/-- Where a thread stands.  It is finished once it keeps the lock or has ended its section. -/
inductive Phase
  | arriving
  | waiting
  | notified
  | holding
  | finished
  | abandoned
  deriving DecidableEq

namespace Phase

/-- Whether the thread is going to look at the lock. -/
def isLooking : Phase → Bool
  | arriving | notified => true
  | _ => false

/-- Whether the thread has neither finished nor given up. -/
def isActive : Phase → Bool
  | finished | abandoned => false
  | _ => true

/-- A waiting thread is going to look again. -/
def notify : Phase → Phase
  | waiting => notified
  | p => p

end Phase

/-- Where a thread stands as soon as it has the lock. -/
def Conduct.admitted : Conduct → Phase
  | keep => .finished
  | work _ => .holding

/-- A thread that uses the lock. -/
structure Thread where
  name : String
  access : Access
  conduct : Conduct
  phase : Phase := .arriving
  deriving DecidableEq

/-- A lock and the threads that use it. -/
structure LockSite where
  lock : ReadWriteLock := {}
  threads : List Thread := []
  deriving DecidableEq

/-- One step: a thread looks at the lock, ends its section, or gives up waiting; or the lock is
released from outside. -/
inductive LockStep
  | look (i : Nat)
  | leave (i : Nat)
  | abandon (i : Nat)
  | release (access : Access)
  deriving DecidableEq

namespace LockSite

/-- A thread comes for the lock. -/
def arrive (s : LockSite) (name : String) (access : Access) (conduct : Conduct) : LockSite :=
  { s with threads := s.threads ++ [⟨name, access, conduct, .arriving⟩] }

/-- Puts a thread into another phase. -/
def setPhase (s : LockSite) (i : Nat) (t : Thread) (p : Phase) : LockSite :=
  { s with threads := s.threads.set i { t with phase := p } }

/-- Releases the lock, and notifies the waiting threads if that may let one in. -/
def release (s : LockSite) (access : Access) : LockSite :=
  let lock := s.lock.release access
  { lock
    threads :=
      if lock.notifiesAfter access then
        s.threads.map (fun t => { t with phase := t.phase.notify })
      else s.threads }

/-- The lock as a thread finds it.  One that has just come is counted first. -/
def foundBy (s : LockSite) (t : Thread) : ReadWriteLock :=
  if t.phase = .arriving then s.lock.announce t.access else s.lock

/-- A thread looks at the lock.  It takes it, or it waits. -/
def look (s : LockSite) (i : Nat) (t : Thread) : LockSite :=
  if (s.foundBy t).refuses t.access then { s.setPhase i t .waiting with lock := s.foundBy t }
  else { s.setPhase i t t.conduct.admitted with lock := (s.foundBy t).grant t.access }

/-- A thread gives up waiting. -/
def abandon (s : LockSite) (i : Nat) (t : Thread) : LockSite :=
  { s.setPhase i t .abandoned with lock := s.lock.withdraw t.access }

/-- The effect of a step that can be taken. -/
def step? (s : LockSite) : LockStep → Option LockSite
  | .look i => (s.threads[i]?.filter (·.phase.isLooking)).map (s.look i)
  | .leave i => (s.threads[i]?.filter (·.phase == .holding)).map
      (fun t => (s.setPhase i t .finished).release t.access)
  | .abandon i =>
    (s.threads[i]?.filter (fun t => t.phase == .waiting || t.phase == .notified)).map (s.abandon i)
  | .release access => some (s.release access)

end LockSite
end SolanaWire
