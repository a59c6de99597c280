import SolanaWire.Lock.Turn

/-!
# Exclusion

The counts that a lock keeps are those of its threads: how many read, whether one writes, and how
many wait to write.  A thread takes the lock only when the counts allow it, so the threads that
hold it are readers only, or one writer.  Each turn changes the counts by what it changes about its
own thread; notifying changes none of them.
-/
namespace SolanaWire

theorem countP_set_add {α : Type} {as : List α} {i : Nat} {a : α} (found : as[i]? = some a)
    (p : α → Bool) (b : α) :
    (as.set i b).countP p + (p a).toNat = as.countP p + (p b).toNat := by
  induction as generalizing i with
  | nil => cases found
  | cons c as ih =>
    cases i with
    | zero =>
      cases found
      simp only [List.set_cons_zero, List.countP_cons]
      cases p a <;> cases p b <;> simp
    | succ i =>
      have := ih found
      simp only [List.set_cons_succ, List.countP_cons]
      omega

theorem Conduct.admitted_eq {c : Conduct} (works : c ≠ .keep) : c.admitted = .holding := by
  cases c with
  | keep => exact absurd rfl works
  | work fails => rfl

namespace ReadWriteLock

variable (l : ReadWriteLock) (access : Access)

@[simp] theorem announce_readers : (l.announce access).readers = l.readers := by
  cases access <;> rfl

@[simp] theorem announce_writer : (l.announce access).writer = l.writer := by
  cases access <;> rfl

@[simp] theorem announce_read : l.announce .read = l := rfl

@[simp] theorem announce_write_writersWaiting :
    (l.announce .write).writersWaiting = l.writersWaiting + 1 := rfl

@[simp] theorem withdraw_readers : (l.withdraw access).readers = l.readers := by
  cases access <;> rfl

@[simp] theorem withdraw_writer : (l.withdraw access).writer = l.writer := by
  cases access <;> rfl

@[simp] theorem withdraw_read : l.withdraw .read = l := rfl

@[simp] theorem withdraw_write_writersWaiting :
    (l.withdraw .write).writersWaiting = l.writersWaiting - 1 := rfl

theorem refuses_read_iff :
    l.refuses .read = true ↔ l.writer = true ∨ l.writersWaiting ≠ 0 := by
  simp [refuses]

theorem refuses_write_iff : l.refuses .write = true ↔ l.writer = true ∨ l.readers ≠ 0 := by
  simp [refuses]

end ReadWriteLock

namespace LockSite

variable {s s' : LockSite} {i : Nat} {t : Thread}

theorem step?_look_eq_some_iff : s.step? (.look i) = some s' ↔
    ∃ t, s.threads[i]? = some t ∧ t.phase.isLooking = true ∧ s.look i t = s' := by
  simp [step?, Option.map_eq_some_iff, Option.filter_eq_some_iff, and_assoc]

theorem step?_leave_eq_some_iff : s.step? (.leave i) = some s' ↔
    ∃ t, s.threads[i]? = some t ∧ t.phase = .holding ∧
      (s.setPhase i t .finished).release t.access = s' := by
  simp [step?, Option.map_eq_some_iff, Option.filter_eq_some_iff, and_assoc]

theorem step?_abandon_eq_some_iff : s.step? (.abandon i) = some s' ↔
    ∃ t, s.threads[i]? = some t ∧ (t.phase = .waiting ∨ t.phase = .notified) ∧
      s.abandon i t = s' := by
  simp [step?, Option.map_eq_some_iff, Option.filter_eq_some_iff, and_assoc]

@[simp] theorem foundBy_readers : (s.foundBy t).readers = s.lock.readers := by
  unfold foundBy
  split <;> simp

@[simp] theorem foundBy_writer : (s.foundBy t).writer = s.lock.writer := by
  unfold foundBy
  split <;> simp

theorem census_pos (found : s.threads[i]? = some t) {p : Thread → Bool} (held : p t = true) :
    0 < s.census p :=
  List.countP_pos_iff.2 ⟨t, List.mem_of_getElem? found, held⟩

/-- The lock counts its threads, it has no readers while it has a writer, and all threads work. -/
structure IsSound (s : LockSite) : Prop where
  readers : s.lock.readers = s.census Thread.isReading
  writer : s.lock.writer.toNat = s.census Thread.isWriting
  writersWaiting : s.lock.writersWaiting = s.census Thread.waitsToWrite
  excluded : s.lock.writer = true → s.lock.readers = 0
  working : ∀ t ∈ s.threads, t.conduct ≠ .keep

namespace IsSound

theorem start : IsSound {} where
  readers := rfl
  writer := rfl
  writersWaiting := rfl
  excluded := by simp
  working := by simp

theorem arrive (sound : s.IsSound) (name : String) (access : Access) (fails : Bool) :
    (s.arrive name access (.work fails)).IsSound where
  readers := by simp [census, LockSite.arrive, Thread.isReading, sound.readers]
  writer := by simp [census, LockSite.arrive, Thread.isWriting, sound.writer]
  writersWaiting := by simp [census, LockSite.arrive, Thread.waitsToWrite, sound.writersWaiting]
  excluded := sound.excluded
  working := by
    intro t mem
    rcases List.mem_append.1 mem with mem | mem
    · exact sound.working t mem
    · rw [List.mem_singleton.1 mem]
      simp

/-- A site stays sound if the lock's counts change by what changes about one thread. -/
theorem replace (sound : s.IsSound) (found : s.threads[i]? = some t) (u : Thread)
    (works : u.conduct ≠ .keep) {lock : ReadWriteLock}
    (readers : lock.readers + t.isReading.toNat = s.lock.readers + u.isReading.toNat)
    (writer : lock.writer.toNat + t.isWriting.toNat = s.lock.writer.toNat + u.isWriting.toNat)
    (writersWaiting : lock.writersWaiting + t.waitsToWrite.toNat =
      s.lock.writersWaiting + u.waitsToWrite.toNat)
    (excluded : lock.writer = true → lock.readers = 0) :
    IsSound ⟨lock, s.threads.set i u⟩ where
  readers := by
    have counted := countP_set_add found Thread.isReading u
    have before := sound.readers
    simp only [census] at before ⊢
    omega
  writer := by
    have counted := countP_set_add found Thread.isWriting u
    have before := sound.writer
    simp only [census] at before ⊢
    omega
  writersWaiting := by
    have counted := countP_set_add found Thread.waitsToWrite u
    have before := sound.writersWaiting
    simp only [census] at before ⊢
    omega
  excluded := excluded
  working := by
    intro v mem
    rcases List.mem_or_eq_of_mem_set mem with mem | rfl
    · exact sound.working v mem
    · exact works

/-- Notifying the waiting threads changes no count. -/
theorem notify {lock : ReadWriteLock} {threads : List Thread} (sound : IsSound ⟨lock, threads⟩) :
    IsSound ⟨lock, threads.map (fun t => { t with phase := t.phase.notify })⟩ := by
  have same (p : Thread → Bool) (kept : ∀ t : Thread, p { t with phase := t.phase.notify } = p t) :
      census ⟨lock, threads.map (fun t => { t with phase := t.phase.notify })⟩ p =
        census ⟨lock, threads⟩ p := by
    simp only [census, List.countP_map, Function.comp_def, kept]
  constructor
  · rw [same _ (fun t => by cases h : t.phase <;> simp [Thread.isReading, Phase.notify, h])]
    exact sound.readers
  · rw [same _ (fun t => by cases h : t.phase <;> simp [Thread.isWriting, Phase.notify, h])]
    exact sound.writer
  · rw [same _ (fun t => by cases h : t.phase <;> simp [Thread.waitsToWrite, Phase.notify, h])]
    exact sound.writersWaiting
  · exact sound.excluded
  · intro t mem
    obtain ⟨u, before, rfl⟩ := List.mem_map.1 mem
    exact sound.working u before

theorem works (sound : s.IsSound) (found : s.threads[i]? = some t) : t.conduct ≠ .keep :=
  sound.working t (List.mem_of_getElem? found)

/-- A site stays sound if the lock's counts change by what a thread's change of phase changes. -/
theorem rephase (sound : s.IsSound) (found : s.threads[i]? = some t) (phase : Phase)
    {lock : ReadWriteLock}
    (readers : lock.readers + t.isReading.toNat =
      s.lock.readers + { t with phase := phase }.isReading.toNat)
    (writer : lock.writer.toNat + t.isWriting.toNat =
      s.lock.writer.toNat + { t with phase := phase }.isWriting.toNat)
    (writersWaiting : lock.writersWaiting + t.waitsToWrite.toNat =
      s.lock.writersWaiting + { t with phase := phase }.waitsToWrite.toNat)
    (excluded : lock.writer = true → lock.readers = 0) :
    IsSound { s.setPhase i t phase with lock := lock } := by
  have works : t.conduct ≠ .keep := sound.works found
  exact sound.replace found { t with phase := phase } works readers writer writersWaiting excluded

theorem comeAgain (sound : s.IsSound) (found : s.threads[i]? = some t)
    (through : t.phase.isActive = false) (access : Access) (fails : Bool) :
    (s.comeAgain i t access (.work fails)).IsSound := by
  have inactive : t.phase = .finished ∨ t.phase = .abandoned := by
    cases phase : t.phase <;> simp_all [Phase.isActive]
  refine sound.replace found _ (by simp) ?_ ?_ ?_ sound.excluded
  · rcases inactive with phase | phase <;> simp [Thread.isReading, phase]
  · rcases inactive with phase | phase <;> simp [Thread.isWriting, phase]
  · rcases inactive with phase | phase <;> simp [Thread.waitsToWrite, phase]

theorem wake (sound : s.IsSound) (found : s.threads[i]? = some t) (waits : t.phase = .waiting) :
    (s.setPhase i t .notified).IsSound := by
  refine sound.rephase found .notified ?_ ?_ ?_ sound.excluded
  · simp [Thread.isReading, waits]
  · simp [Thread.isWriting, waits]
  · simp [Thread.waitsToWrite, waits]

/-- A thread that is going to look is counted as waiting when it finds the lock. -/
theorem wait (sound : s.IsSound) (found : s.threads[i]? = some t)
    (looks : t.phase.isLooking = true) :
    IsSound { s.setPhase i t .waiting with lock := s.foundBy t } := by
  have looking : t.phase = .arriving ∨ t.phase = .notified := by
    cases phase : t.phase <;> simp_all [Phase.isLooking]
  refine sound.rephase found .waiting ?_ ?_ ?_ ?_
  · rcases looking with phase | phase <;> simp [Thread.isReading, phase]
  · rcases looking with phase | phase <;> simp [Thread.isWriting, phase]
  · rcases looking with phase | phase <;> cases access : t.access <;>
      simp [Thread.waitsToWrite, foundBy, phase, access]
  · simpa using sound.excluded

/-- A waiting thread takes a lock that does not refuse it. -/
theorem grant (sound : s.IsSound) (found : s.threads[i]? = some t) (waits : t.phase = .waiting)
    (free : s.lock.refuses t.access = false) :
    IsSound { s.setPhase i t .holding with lock := s.lock.grant t.access } := by
  cases access : t.access with
  | read =>
    have unwritten : s.lock.writer = false := by
      simp_all [ReadWriteLock.refuses]
    refine sound.rephase found .holding ?_ ?_ ?_ ?_
    · simp [Thread.isReading, ReadWriteLock.grant, waits, access]
    · simp [Thread.isWriting, ReadWriteLock.grant, waits, access]
    · simp [Thread.waitsToWrite, ReadWriteLock.grant, waits, access]
    · simp [ReadWriteLock.grant, unwritten]
  | write =>
    have ⟨unwritten, unread⟩ : s.lock.writer = false ∧ s.lock.readers = 0 := by
      simp_all [ReadWriteLock.refuses]
    have counted : 0 < s.census Thread.waitsToWrite :=
      census_pos found (by simp [Thread.waitsToWrite, waits, access])
    have announced := sound.writersWaiting
    refine sound.rephase found .holding ?_ ?_ ?_ ?_
    · simp [Thread.isReading, ReadWriteLock.grant, ReadWriteLock.withdraw, waits, access]
    · simp [Thread.isWriting, ReadWriteLock.grant, waits, access, unwritten]
    · simp [Thread.waitsToWrite, ReadWriteLock.grant, ReadWriteLock.withdraw, waits, access]
      omega
    · simp [ReadWriteLock.grant, ReadWriteLock.withdraw, unread]

/-- A thread looks at the lock as one that waits, and then takes it unless it is refused. -/
theorem look (sound : s.IsSound) (found : s.threads[i]? = some t)
    (looks : t.phase.isLooking = true) : (s.look i t).IsSound := by
  have waiting := sound.wait found looks
  cases refused : (s.foundBy t).refuses t.access with
  | true => simpa [LockSite.look, refused] using waiting
  | false =>
    obtain ⟨inside, -⟩ := List.getElem?_eq_some_iff.1 found
    have there : (s.setPhase i t .waiting).threads[i]? = some { t with phase := .waiting } := by
      simp [setPhase, inside]
    have granted := waiting.grant there rfl refused
    have holds : t.conduct.admitted = .holding := Conduct.admitted_eq (sound.works found)
    simpa [LockSite.look, refused, holds, setPhase] using granted

/-- A thread that holds the lock gives it back. -/
theorem leave (sound : s.IsSound) (found : s.threads[i]? = some t) (holds : t.phase = .holding) :
    ((s.setPhase i t .finished).release t.access).IsSound := by
  have released : IsSound { s.setPhase i t .finished with lock := s.lock.release t.access } := by
    cases access : t.access with
    | read =>
      have counted : 0 < s.census Thread.isReading :=
        census_pos found (by simp [Thread.isReading, holds, access])
      have reading := sound.readers
      have unwritten : s.lock.writer ≠ true := by
        intro written
        have := sound.excluded written
        omega
      refine sound.rephase found .finished ?_ ?_ ?_ ?_
      · simp [Thread.isReading, ReadWriteLock.release, holds, access]
      · simp [Thread.isWriting, ReadWriteLock.release, access]
      · simp [Thread.waitsToWrite, ReadWriteLock.release, access]
      · simp [ReadWriteLock.release, unwritten]
    | write =>
      have counted : 0 < s.census Thread.isWriting :=
        census_pos found (by simp [Thread.isWriting, holds, access])
      have written : s.lock.writer = true := by
        have := sound.writer
        cases writer : s.lock.writer <;> simp_all
      refine sound.rephase found .finished ?_ ?_ ?_ ?_
      · simp [Thread.isReading, ReadWriteLock.release, access]
      · simp [Thread.isWriting, ReadWriteLock.release, holds, access, written]
      · simp [Thread.waitsToWrite, ReadWriteLock.release, holds]
      · simp [ReadWriteLock.release]
  simp only [LockSite.release]
  split
  · exact released.notify
  · exact released

/-- A waiting thread gives up, and is no longer counted. -/
theorem abandon (sound : s.IsSound) (found : s.threads[i]? = some t)
    (waits : t.phase = .waiting ∨ t.phase = .notified) : (s.abandon i t).IsSound := by
  refine sound.rephase found .abandoned ?_ ?_ ?_ ?_
  · rcases waits with phase | phase <;> simp [Thread.isReading, phase]
  · rcases waits with phase | phase <;> simp [Thread.isWriting, phase]
  · cases access : t.access with
    | read => simp [Thread.waitsToWrite, access]
    | write =>
      have announced := sound.writersWaiting
      have counted : 0 < s.census Thread.waitsToWrite :=
        census_pos found (by simp [Thread.waitsToWrite, waits, access])
      simp [Thread.waitsToWrite, waits, access]
      omega
  · simpa using sound.excluded

theorem turn {mayFail : Bool} (sound : s.IsSound) (turn : Turn mayFail s s') : s'.IsSound := by
  cases turn with
  | arrive name access fails => exact sound.arrive name access fails
  | comeAgain found through access fails => exact sound.comeAgain found through access fails
  | look taken =>
    obtain ⟨t, found, looks, rfl⟩ := step?_look_eq_some_iff.1 taken
    exact sound.look found looks
  | leave taken =>
    obtain ⟨t, found, holds, rfl⟩ := step?_leave_eq_some_iff.1 taken
    exact sound.leave found holds
  | wake found waits => exact sound.wake found waits
  | abandon may taken =>
    obtain ⟨t, found, waits, rfl⟩ := step?_abandon_eq_some_iff.1 taken
    exact sound.abandon found waits

theorem of_reachable {mayFail : Bool} (h : Reachable mayFail s) : s.IsSound := by
  induction h with
  | start => exact start
  | turn _ turn sound => exact sound.turn turn

end IsSound

theorem reads_of_reads_set {lock : ReadWriteLock} {u : Thread} {k : Nat}
    (reading : Reads ⟨lock, s.threads.set i u⟩ k) : u.isReading = true ∨ s.Reads k := by
  obtain ⟨v, there, reads⟩ := reading
  rw [List.getElem?_set] at there
  split at there
  · split at there
    · cases there
      exact .inl reads
    · cases there
  · exact .inr ⟨v, there, reads⟩

theorem reads_of_reads_release {access : Access} {k : Nat} (reading : (s.release access).Reads k) :
    s.Reads k := by
  obtain ⟨v, there, reads⟩ := reading
  simp only [release] at there
  split at there
  · rw [List.getElem?_map, Option.map_eq_some_iff] at there
    obtain ⟨u, found, rfl⟩ := there
    refine ⟨u, found, ?_⟩
    cases phase : u.phase <;> simp_all [Thread.isReading, Phase.notify]
  · exact ⟨v, there, reads⟩

/-- A thread that begins to read has looked at the lock while no writer was counted. -/
theorem unawaited_of_turn {mayFail : Bool} {k : Nat} (turn : Turn mayFail s s')
    (after : s'.Reads k) (before : ¬ s.Reads k) : s.lock.writersWaiting = 0 := by
  have kept {lock : ReadWriteLock} {j : Nat} {u : Thread}
      (reading : Reads ⟨lock, s.threads.set j u⟩ k) : u.isReading = true :=
    (reads_of_reads_set reading).resolve_right before
  cases turn with
  | arrive name access fails =>
    obtain ⟨v, there, reads⟩ := after
    rw [arrive, List.getElem?_append] at there
    split at there
    · exact absurd ⟨v, there, reads⟩ before
    · rw [List.getElem?_singleton] at there
      split at there
      · cases there
        cases reads
      · cases there
  | comeAgain found through access fails =>
    have := kept after
    simp [Thread.isReading] at this
  | look taken =>
    obtain ⟨t, found, looks, rfl⟩ := step?_look_eq_some_iff.1 taken
    unfold look at after
    split at after
    · have := kept after
      simp [Thread.isReading] at this
    · rename_i admitted
      have reads : t.access = .read := by
        have := kept after
        simp_all [Thread.isReading]
      simp_all [ReadWriteLock.refuses, foundBy]
  | leave taken =>
    obtain ⟨t, found, holds, rfl⟩ := step?_leave_eq_some_iff.1 taken
    have := kept (reads_of_reads_release after)
    simp [Thread.isReading] at this
  | wake found waits =>
    have := kept after
    simp [Thread.isReading] at this
  | abandon may taken =>
    obtain ⟨t, found, waits, rfl⟩ := step?_abandon_eq_some_iff.1 taken
    have := kept after
    simp [Thread.isReading] at this

/-- Wherever turns lead to, even if waits fail, one thread writes at most and nobody reads beside
it.  The lock counts its readers, its writer and the writers that wait, and while a writer waits
nobody begins to read. -/
theorem exclusion (h : Reachable true s) :
    s.census Thread.isWriting ≤ 1 ∧
    (0 < s.census Thread.isWriting → s.census Thread.isReading = 0) ∧
    (s.lock.readers = s.census Thread.isReading ∧ 0 ≤ s.lock.readers) ∧
    (s.lock.writer = true ↔ ∃ t ∈ s.threads, t.isWriting = true) ∧
    s.lock.writersWaiting = s.census Thread.waitsToWrite ∧
    (∀ s' i, Turn true s s' → s'.Reads i → ¬ s.Reads i →
      s.census Thread.waitsToWrite = 0) := by
  have sound := IsSound.of_reachable h
  have reading := sound.readers
  have writing := sound.writer
  have excluded := sound.excluded
  have someone : 0 < s.census Thread.isWriting ↔ ∃ t ∈ s.threads, t.isWriting = true :=
    List.countP_pos_iff
  refine ⟨?_, ?_, ⟨reading, by omega⟩, ?_, sound.writersWaiting, ?_⟩
  · rw [← writing]
    exact Bool.toNat_le _
  · intro written
    rw [← writing] at written
    cases writer : s.lock.writer with
    | false => simp [writer] at written
    | true =>
      have unread := excluded writer
      omega
  · rw [← someone, ← writing]
    cases s.lock.writer <;> simp
  · intro s' i turn after before
    rw [← sound.writersWaiting]
    exact unawaited_of_turn turn after before

/-- A reader has the lock and a writer waits for it: whatever happens next, no other thread begins
to read. -/
theorem exclusion_of_waitingWriter :
    let s : LockSite := ⟨{ readers := 1, writersWaiting := 1 },
      [⟨"reader", .read, .work false, .holding⟩, ⟨"writer", .write, .work true, .waiting⟩]⟩
    Reachable true s ∧ ∀ s' i, Turn true s s' → s'.Reads i → s.Reads i := by
  intro s
  have reads : Reachable true ⟨{ readers := 1 }, [⟨"reader", .read, .work false, .holding⟩]⟩ :=
    (Reachable.start.turn (.arrive "reader" .read false)).turn
      (.look (show step? _ (.look 0) = some _ from rfl))
  have waits : Reachable true s :=
    (reads.turn (.arrive "writer" .write true)).turn
      (.look (show step? _ (.look 1) = some _ from rfl))
  refine ⟨waits, ?_⟩
  intro s' i turn after
  by_cases before : s.Reads i
  · exact before
  · have nobody := (exclusion waits).2.2.2.2.2 s' i turn after before
    exact absurd nobody (by decide)

end LockSite
end SolanaWire
