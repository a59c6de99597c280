import SolanaWire.Lock

/-!
# Turns at a lock

Threads that use a lock for sections of work only, each of them for one section at a time.  Any
number of threads come, and one that is through with the lock may come again.  A turn is what one
of them does next; the order of the turns is left open.  A waiting thread may also wake without
having been notified, and where waits may fail it may give up.

A site that turns lead to is reachable.
-/
namespace SolanaWire

namespace Thread

/-- Whether a thread is in a section for which it reads. -/
def isReading (t : Thread) : Bool := t.phase = .holding ∧ t.access = .read

/-- Whether a thread is in a section for which it writes. -/
def isWriting (t : Thread) : Bool := t.phase = .holding ∧ t.access = .write

/-- Whether a thread is inside the acquisition of the lock for writing, and has not got it. -/
def waitsToWrite (t : Thread) : Bool :=
  (t.phase = .waiting ∨ t.phase = .notified) ∧ t.access = .write

end Thread

namespace LockSite

/-- The number of threads with a property. -/
def census (s : LockSite) (p : Thread → Bool) : Nat := s.threads.countP p

/-- The thread at a position is in a section for which it reads. -/
def Reads (s : LockSite) (i : Nat) : Prop :=
  ∃ t, s.threads[i]? = some t ∧ t.isReading = true

/-- A thread comes for the lock once more. -/
def comeAgain (s : LockSite) (i : Nat) (t : Thread) (access : Access) (conduct : Conduct) :
    LockSite :=
  { s with threads := s.threads.set i ⟨t.name, access, conduct, .arriving⟩ }

/-- What one thread does next.  The flag says whether waits may fail. -/
inductive Turn (mayFail : Bool) (s : LockSite) : LockSite → Prop
  | arrive (name : String) (access : Access) (fails : Bool) :
      Turn mayFail s (s.arrive name access (.work fails))
  | comeAgain {i : Nat} {t : Thread} (found : s.threads[i]? = some t)
      (through : t.phase.isActive = false) (access : Access) (fails : Bool) :
      Turn mayFail s (s.comeAgain i t access (.work fails))
  | look {i : Nat} {s' : LockSite} (taken : s.step? (.look i) = some s') : Turn mayFail s s'
  | leave {i : Nat} {s' : LockSite} (taken : s.step? (.leave i) = some s') : Turn mayFail s s'
  | wake {i : Nat} {t : Thread} (found : s.threads[i]? = some t) (waits : t.phase = .waiting) :
      Turn mayFail s (s.setPhase i t .notified)
  | abandon {i : Nat} {s' : LockSite} (may : mayFail = true)
      (taken : s.step? (.abandon i) = some s') : Turn mayFail s s'

/-- The sites that turns lead to, from a lock that nobody has come for. -/
inductive Reachable (mayFail : Bool) : LockSite → Prop
  | start : Reachable mayFail {}
  | turn {s s' : LockSite} (before : Reachable mayFail s) (turn : Turn mayFail s s') :
      Reachable mayFail s'

end LockSite
end SolanaWire
