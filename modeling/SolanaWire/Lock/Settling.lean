import SolanaWire.Lock

/-!
# Threads that settle

A thread goes on by itself while it is going to look at the lock, or holds it for a section of
work.  `LockSite.settle` lets threads go on until none can.  It ends because each step of a thread
makes the threads lighter, although a release may send every waiting thread to look again.
-/
namespace SolanaWire

namespace Thread

/-- Whether a thread can go on by itself. -/
def canGoOn (t : Thread) : Bool := t.phase.isLooking || t.phase == .holding

/-- The weight of a thread among `n` threads: how much it may still do.  A step of its own makes
it lighter, by more than what it adds to all others. -/
def weight (n : Nat) (t : Thread) : Nat :=
  (if t.phase.isActive then 2 * n + 1 else 0) +
    (if t.phase.isLooking then 2 else if t.phase = .holding then 1 else 0)

theorem weight_notify_le (n : Nat) (t : Thread) :
    weight n { t with phase := t.phase.notify } ≤ weight n t + 2 := by
  unfold weight
  cases h : t.phase <;> simp [Phase.notify, Phase.isActive, Phase.isLooking]

/-- The weight of some threads. -/
def totalWeight (n : Nat) : List Thread → Nat
  | [] => 0
  | t :: ts => weight n t + totalWeight n ts

theorem totalWeight_set (n : Nat) (ts : List Thread) (i : Nat) (t : Thread)
    (h : i < ts.length) :
    totalWeight n (ts.set i t) + weight n ts[i] = totalWeight n ts + weight n t := by
  induction ts generalizing i with
  | nil => simp at h
  | cons u ts ih =>
    cases i with
    | zero =>
      simp only [List.set_cons_zero, totalWeight, List.getElem_cons_zero]
      omega
    | succ i =>
      have := ih i (by simpa using h)
      simp only [List.set_cons_succ, totalWeight, List.getElem_cons_succ]
      omega

theorem totalWeight_map_notify_le (n : Nat) (ts : List Thread) :
    totalWeight n (ts.map (fun t => { t with phase := t.phase.notify })) ≤
      totalWeight n ts + 2 * ts.length := by
  induction ts with
  | nil => simp [totalWeight]
  | cons t ts ih =>
    have := weight_notify_le n t
    simp only [List.map_cons, totalWeight, List.length_cons]
    omega

end Thread

namespace LockSite

/-- A thread that can go on by itself takes its step. -/
def advance (s : LockSite) (i : Nat) (t : Thread) : LockSite :=
  if t.phase.isLooking then s.look i t else (s.setPhase i t .finished).release t.access

/-- How much the threads may still do. -/
def rank (s : LockSite) : Nat := Thread.totalWeight s.threads.length s.threads

theorem rank_release_le (s : LockSite) (access : Access) :
    (s.release access).rank ≤ s.rank + 2 * s.threads.length := by
  simp only [rank, release]
  split
  · simpa using Thread.totalWeight_map_notify_le s.threads.length s.threads
  · omega

theorem rank_setPhase_add (s : LockSite) (i : Nat) (h : i < s.threads.length) (p : Phase) :
    (s.setPhase i s.threads[i] p).rank + Thread.weight s.threads.length s.threads[i] =
      s.rank + Thread.weight s.threads.length { s.threads[i] with phase := p } := by
  simpa [rank, setPhase] using
    Thread.totalWeight_set s.threads.length s.threads i { s.threads[i] with phase := p } h

theorem rank_advance_lt (s : LockSite) (i : Nat) (h : i < s.threads.length)
    (hgo : s.threads[i].canGoOn = true) : (s.advance i s.threads[i]).rank < s.rank := by
  have hset := rank_setPhase_add s i h
  by_cases hl : s.threads[i].phase.isLooking = true
  · have hw : Thread.weight s.threads.length s.threads[i] = 2 * s.threads.length + 3 := by
      cases hp : s.threads[i].phase <;> simp_all [Thread.weight, Phase.isActive, Phase.isLooking]
    have hrank : ∀ p : Phase, p.isLooking = false →
        (s.setPhase i s.threads[i] p).rank < s.rank := by
      intro p hp
      have := hset p
      have hle : Thread.weight s.threads.length { s.threads[i] with phase := p } ≤
          2 * s.threads.length + 2 := by
        cases p <;> simp_all [Thread.weight, Phase.isActive, Phase.isLooking]
      omega
    simp only [advance, hl, if_true, look]
    split
    · exact hrank .waiting rfl
    · refine hrank _ ?_
      cases s.threads[i].conduct <;> rfl
  · have hp : s.threads[i].phase = .holding := by
      simpa [Thread.canGoOn, hl] using hgo
    have hw : Thread.weight s.threads.length s.threads[i] = 2 * s.threads.length + 2 := by
      simp [Thread.weight, hp, Phase.isActive, Phase.isLooking]
    have hf : Thread.weight s.threads.length { s.threads[i] with phase := .finished } = 0 := by
      simp [Thread.weight, Phase.isActive, Phase.isLooking]
    have := hset .finished
    have := rank_release_le (s.setPhase i s.threads[i] .finished) s.threads[i].access
    simp only [advance, hl]
    simp only [setPhase, List.length_set] at *
    simp only [Bool.false_eq_true, if_false]
    omega

/-- Threads take their own steps until none can go on by itself. -/
def settle (s : LockSite) : LockSite :=
  match h : s.threads.findIdx? Thread.canGoOn with
  | none => s
  | some i =>
    have found := List.findIdx?_eq_some_iff_getElem.mp h
    have hi : i < s.threads.length := found.choose
    settle (s.advance i s.threads[i])
termination_by s.rank
decreasing_by
  exact rank_advance_lt s i hi found.choose_spec.1

end LockSite
end SolanaWire
