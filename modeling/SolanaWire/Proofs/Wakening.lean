import SolanaWire.Lock.Settling
import SolanaWire.Proofs.Exclusion

/-!
# Wakening

A thread waits unnotified only while the lock refuses it.  What may let a thread in is a release,
and a release that does so notifies all: that of a writer, and that of the last reader.  A writer
that takes the lock is no longer counted as waiting, but it keeps everybody out itself.  So if
threads are left that are not through, not all of them wait, as long as no wait fails.
-/
namespace SolanaWire.LockSite

variable {s s' : LockSite} {i : Nat} {t : Thread}

/-- No thread waits for a lock that would let it in, unless it has been notified. -/
def StrandsNobody (s : LockSite) : Prop :=
  ∀ t ∈ s.threads, t.phase = .waiting → s.lock.refuses t.access = true

theorem refuses_foundBy {access : Access} (refused : s.lock.refuses access = true) :
    (s.foundBy t).refuses access = true := by
  unfold foundBy
  split
  · cases access <;> cases t.access <;> simp_all [ReadWriteLock.refuses]
  · exact refused

namespace StrandsNobody

/-- A thread may come to stand elsewhere if it does not wait there in vain, and the lock still
refuses the others. -/
theorem replace (stranded : s.StrandsNobody) {u : Thread} {lock : ReadWriteLock}
    (blocked : u.phase = .waiting → lock.refuses u.access = true)
    (kept : ∀ v ∈ s.threads, v.phase = .waiting → s.lock.refuses v.access = true →
      lock.refuses v.access = true) :
    StrandsNobody ⟨lock, s.threads.set i u⟩ := by
  intro v mem waits
  rcases List.mem_or_eq_of_mem_set mem with mem | rfl
  · exact kept v mem waits (stranded v mem waits)
  · exact blocked waits

theorem arrive (stranded : s.StrandsNobody) (name : String) (access : Access) (conduct : Conduct) :
    (s.arrive name access conduct).StrandsNobody := by
  intro v mem waits
  rcases List.mem_append.1 mem with mem | mem
  · exact stranded v mem waits
  · rw [List.mem_singleton.1 mem] at waits
    cases waits

theorem look (stranded : s.StrandsNobody) (sound : s.IsSound) (found : s.threads[i]? = some t) :
    (s.look i t).StrandsNobody := by
  unfold LockSite.look
  split
  · rename_i refused
    exact stranded.replace (fun _ => refused) (fun _ _ _ => refuses_foundBy)
  · rename_i admitted
    have holds : t.conduct.admitted = .holding := Conduct.admitted_eq (sound.works found)
    refine stranded.replace (by simp [holds]) ?_
    intro v mem waits refused
    cases access : t.access with
    | read =>
      have counted := sound.readers
      have free : s.lock.writer = false ∧ s.lock.writersWaiting = 0 := by
        simpa [ReadWriteLock.refuses, foundBy, access] using admitted
      cases wish : v.access with
      | read => simp [ReadWriteLock.refuses, wish, free] at refused
      | write =>
        simp [ReadWriteLock.refuses, ReadWriteLock.grant]
        omega
    | write => cases wish : v.access <;> simp [ReadWriteLock.refuses, ReadWriteLock.grant]

/-- A release that notifies nobody lets nobody in. -/
theorem leave (stranded : s.StrandsNobody) :
    ((s.setPhase i t .finished).release t.access).StrandsNobody := by
  simp only [release]
  split
  · intro v mem waits
    obtain ⟨u, -, rfl⟩ := List.mem_map.1 mem
    cases phase : u.phase <;> simp [Phase.notify, phase] at waits
  · rename_i silent
    refine stranded.replace (by simp) ?_
    intro v mem waits refused
    cases access : t.access with
    | read => cases wish : v.access <;>
        simp_all [setPhase, ReadWriteLock.refuses, ReadWriteLock.release,
          ReadWriteLock.notifiesAfter]
    | write => simp [ReadWriteLock.notifiesAfter, access] at silent

theorem turn (stranded : s.StrandsNobody) (sound : s.IsSound) (turn : Turn false s s') :
    s'.StrandsNobody := by
  cases turn with
  | arrive name access fails => exact stranded.arrive name access _
  | comeAgain found through access fails =>
    exact stranded.replace (by simp) (fun _ _ _ refused => refused)
  | look taken =>
    obtain ⟨t, found, looks, rfl⟩ := step?_look_eq_some_iff.1 taken
    exact stranded.look sound found
  | leave taken =>
    obtain ⟨t, found, holds, rfl⟩ := step?_leave_eq_some_iff.1 taken
    exact stranded.leave
  | wake found waits => exact stranded.replace (by simp) (fun _ _ _ refused => refused)
  | abandon may taken => cases may

theorem of_reachable (h : Reachable false s) : s.StrandsNobody := by
  induction h with
  | start => simp [StrandsNobody]
  | turn before turn stranded => exact stranded.turn (.of_reachable before) turn

/-- Threads that are not through do not all wait. -/
theorem exists_canGoOn (stranded : s.StrandsNobody) (sound : s.IsSound)
    (active : ∃ t ∈ s.threads, t.phase.isActive = true) :
    ∃ (i : Nat) (t : Thread), s.threads[i]? = some t ∧ t.canGoOn = true := by
  by_cases able : ∃ (i : Nat) (t : Thread), s.threads[i]? = some t ∧ t.canGoOn = true
  · exact able
  -- Otherwise everybody waits, so nobody has the lock, which then refuses no writer and, as no
  -- writer can be waiting, no reader.
  have waits : ∀ t ∈ s.threads, t.phase.isActive = true → t.phase = .waiting := by
    intro t mem active
    obtain ⟨i, found⟩ := List.mem_iff_getElem?.1 mem
    have idle : ¬ t.canGoOn = true := fun goes => able ⟨i, t, found, goes⟩
    cases phase : t.phase <;> simp_all [Thread.canGoOn, Phase.isLooking, Phase.isActive]
  have nobodyHolds : ∀ t ∈ s.threads, t.phase ≠ .holding := by
    intro t mem holds
    have := waits t mem (by rw [holds]; rfl)
    simp [holds] at this
  have unread : s.lock.readers = 0 := by
    rw [sound.readers, census, List.countP_eq_zero.2]
    · rfl
    · intro t mem
      simp [Thread.isReading, nobodyHolds t mem]
  have unwritten : s.lock.writer = false := by
    have nobody : s.census Thread.isWriting = 0 := by
      refine List.countP_eq_zero.2 ?_
      intro t mem
      simp [Thread.isWriting, nobodyHolds t mem]
    have counted := sound.writer
    rw [nobody] at counted
    cases writer : s.lock.writer with
    | false => rfl
    | true => simp [writer] at counted
  have noWriterWaits : ∀ t ∈ s.threads, t.phase = .waiting → t.access ≠ .write := by
    intro t mem waiting access
    have refused := stranded t mem waiting
    simp [ReadWriteLock.refuses, access, unread, unwritten] at refused
  have unawaited : s.lock.writersWaiting = 0 := by
    rw [sound.writersWaiting]
    refine List.countP_eq_zero.2 ?_
    intro t mem counted
    obtain ⟨phase, access⟩ : (t.phase = .waiting ∨ t.phase = .notified) ∧ t.access = .write := by
      simpa [Thread.waitsToWrite] using counted
    have active : t.phase.isActive = true := by
      rcases phase with phase | phase <;> rw [phase] <;> rfl
    exact noWriterWaits t mem (waits t mem active) access
  obtain ⟨t, mem, active⟩ := active
  have waiting := waits t mem active
  have refused := stranded t mem waiting
  cases access : t.access with
  | read => simp [ReadWriteLock.refuses, access, unwritten, unawaited] at refused
  | write => exact absurd access (noWriterWaits t mem waiting)

end StrandsNobody

/-- Where no wait fails, a thread that waits unnotified is kept out by the lock: a reader by a
writer or by one that waits, a writer by a writer or by readers.  As long as some thread is not
through, some thread can look at the lock or leave its section. -/
theorem progress (h : Reachable false s) :
    (∀ t ∈ s.threads, t.phase = .waiting →
      (t.access = .read → s.lock.writer = true ∨ 0 < s.lock.writersWaiting) ∧
      (t.access = .write → s.lock.writer = true ∨ 0 < s.lock.readers)) ∧
    ((∃ t ∈ s.threads, t.phase.isActive = true) →
      ∃ i s', s.step? (.look i) = some s' ∨ s.step? (.leave i) = some s') := by
  have sound := IsSound.of_reachable h
  have stranded := StrandsNobody.of_reachable h
  constructor
  · intro t mem waits
    have refused := stranded t mem waits
    constructor
    · intro access
      rw [access, ReadWriteLock.refuses_read_iff] at refused
      exact refused.imp_right Nat.pos_of_ne_zero
    · intro access
      have counted := sound.readers
      rw [access, ReadWriteLock.refuses_write_iff] at refused
      exact refused.imp_right (fun read => by omega)
  · intro active
    obtain ⟨i, t, found, able⟩ := stranded.exists_canGoOn sound active
    rw [Thread.canGoOn, Bool.or_eq_true] at able
    rcases able with looks | holds
    · exact ⟨i, _, .inl (step?_look_eq_some_iff.2 ⟨t, found, looks, rfl⟩)⟩
    · exact ⟨i, _, .inr (step?_leave_eq_some_iff.2 ⟨t, found, by simpa using holds, rfl⟩)⟩

/-- A writer has the lock, and a writer and a reader wait for it: the one that has it can leave. -/
theorem progress_of_waiters :
    let s : LockSite := ⟨{ writer := true, writersWaiting := 1 },
      [⟨"first", .write, .work false, .holding⟩, ⟨"second", .write, .work false, .waiting⟩,
        ⟨"reader", .read, .work false, .waiting⟩]⟩
    Reachable false s ∧ ∃ i s', s.step? (.look i) = some s' ∨ s.step? (.leave i) = some s' := by
  intro s
  have first : Reachable false
      ⟨{ writer := true }, [⟨"first", .write, .work false, .holding⟩]⟩ :=
    (Reachable.start.turn (.arrive "first" .write false)).turn
      (.look (show step? _ (.look 0) = some _ from rfl))
  have second := (first.turn (.arrive "second" .write false)).turn
    (.look (show step? _ (.look 1) = some _ from rfl))
  have all : Reachable false s := (second.turn (.arrive "reader" .read false)).turn
    (.look (show step? _ (.look 2) = some _ from rfl))
  exact ⟨all, (progress all).2 ⟨_, List.mem_cons_self, rfl⟩⟩

end SolanaWire.LockSite
