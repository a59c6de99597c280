import SolanaWire.Proofs.Wakening
import SolanaWire.ResolverTable.Shared

/-!
# Use of a shared table

The thread of a worker uses the lock of the table exactly while the worker is in the middle of a
request.  The threads therefore take turns at the lock one request at a time, so a worker that has
looked at the table in order to write to it is the only one: the table does not change until it
writes.  Outside of its requests a worker has no business with the lock, and a worker that cannot go
on waits for another one.
-/
namespace SolanaWire

theorem set_eq_self {α : Type} {as : List α} {i : Nat} {a : α} (found : as[i]? = some a) :
    as.set i a = as := by
  obtain ⟨inside, rfl⟩ := List.getElem?_eq_some_iff.1 found
  exact List.set_getElem_self inside

/-- How a thread stands to the lock: what it wants or has wanted it for, whether it is not through
with it, and whether it has it. -/
structure Standing where
  access : Access
  active : Bool
  holding : Bool

/-- The standing of a thread. -/
def Thread.standing (t : Thread) : Standing := ⟨t.access, t.phase.isActive, t.phase = .holding⟩

@[simp] theorem Thread.standing_notify (t : Thread) :
    standing { t with phase := t.phase.notify } = t.standing := by
  cases phase : t.phase <;> simp [standing, Phase.notify, Phase.isActive, phase]

namespace Thread

variable {t : Thread}

end Thread

namespace LockSite

variable {s : LockSite} {i j : Nat} {t u : Thread}

/-- The standings of all threads. -/
def standings (s : LockSite) : List Standing := s.threads.map Thread.standing

theorem standings_getElem? (found : s.threads[i]? = some t) :
    s.standings[i]? = some t.standing := by
  rw [standings, List.getElem?_map, found]
  rfl

theorem standings_comeAgain (access : Access) (conduct : Conduct) :
    (s.comeAgain i t access conduct).standings = s.standings.set i ⟨access, true, false⟩ :=
  List.map_set

theorem standings_setPhase (phase : Phase) :
    (s.setPhase i t phase).standings =
      s.standings.set i ⟨t.access, phase.isActive, phase = .holding⟩ :=
  List.map_set

theorem standings_release (access : Access) : (s.release access).standings = s.standings := by
  simp only [standings, release]
  split
  · simp
  · rfl

/-- A thread that looks at the lock has it afterwards, or goes on wanting it. -/
theorem standings_look (works : t.conduct ≠ .keep) :
    ∃ holding, (s.look i t).standings = s.standings.set i ⟨t.access, true, holding⟩ := by
  unfold look
  split
  · exact ⟨false, standings_setPhase .waiting⟩
  · rw [Conduct.admitted_eq works]
    exact ⟨true, standings_setPhase .holding⟩

/-- Two threads that write are the same. -/
theorem IsSound.eq_of_isWriting (sound : s.IsSound) (found : s.threads[i]? = some t)
    (other : s.threads[j]? = some u) (writes : t.isWriting = true) (writes' : u.isWriting = true) :
    i = j := by
  by_cases same : i = j
  · exact same
  have left := countP_set_add found Thread.isWriting { t with phase := .finished }
  have there : (s.threads.set i { t with phase := .finished })[j]? = some u := by
    rw [List.getElem?_set_ne same, other]
  have counted : 0 < (s.threads.set i { t with phase := .finished }).countP Thread.isWriting :=
    List.countP_pos_iff.2 ⟨u, List.mem_of_getElem? there, writes'⟩
  have one : s.threads.countP Thread.isWriting ≤ 1 := by
    have writing := sound.writer
    rw [census] at writing
    rw [← writing]
    exact Bool.toNat_le _
  have idle : Thread.isWriting { t with phase := .finished } = false := by simp [Thread.isWriting]
  rw [writes, idle, Bool.toNat_true, Bool.toNat_false] at left
  omega

end LockSite

namespace ResolverTable

/-- Whether an exchange answers the next request of a routine. -/
def Routine.Asks (r : Routine) (x : Exchange) : Prop := ∃ t, r.exchange? t = some x

/-- How the thread of a worker stands to the lock.  A worker that has looked at the table in order
to write to it has the lock for writing, and would see the same again. -/
def Worker.Fits (table : ResolverTable) (w : Worker) (q : Standing) : Prop :=
  match w.stage with
  | .outside => q.active = false
  | .asking => q.active = true ∧ w.execution.routine.access? = some q.access
  | .seen x => q = ⟨.write, true, true⟩ ∧ w.execution.routine.exchange? table = some x
  | .settled x => q.active = true ∧ q.holding = true ∧ w.execution.routine.Asks x
  | .through x => q.active = false ∧ w.execution.routine.Asks x

/-- What the table is matters only to a worker that has looked at it in order to write. -/
theorem Worker.Fits.of_stage_ne {table table' : ResolverTable} {w : Worker} {q : Standing}
    (fits : w.Fits table q) (unseen : ∀ x, w.stage ≠ .seen x) : w.Fits table' q := by
  unfold Fits at fits ⊢
  split at fits
  · exact fits
  · exact fits
  · rename_i x stage
    exact absurd stage (unseen x)
  · exact fits
  · exact fits

/-- A worker that has the lock has looked at the table. -/
theorem Worker.fits_afterLook {table : ResolverTable} {w : Worker} {t : Thread} {x : Exchange}
    (wants : w.execution.routine.access? = some t.access) (holds : t.phase = .holding)
    (sees : w.execution.routine.exchange? table = some x) :
    Fits table { w with stage := .afterLook x } t.standing := by
  have standing : t.standing = ⟨t.access, true, true⟩ := by
    simp [Thread.standing, holds, Phase.isActive]
  have asked := sees
  rw [standing]
  cases routine : w.execution.routine with
  | finish result =>
    rw [routine] at sees
    cases sees
  | register program resolver next =>
    rw [routine, Routine.access?, Option.some.injEq] at wants
    rw [routine] at sees
    cases sees
    exact ⟨by rw [wants], asked⟩
  | _ =>
    rw [routine] at sees
    cases sees
    exact ⟨rfl, rfl, table, asked⟩

namespace Shared

variable {body : NamedResolver → Value → Routine} {s s' : Shared} {i j : Nat} {w : Worker}
  {t : Thread} {x : Exchange}

/-- What a step of a worker is. -/
inductive Step (body : NamedResolver → Value → Routine) (s : Shared) (i : Nat) (w : Worker)
    (t : Thread) : Shared → Prop
  | come {access : Access} (stage : w.stage = .outside)
      (wants : w.execution.routine.access? = some access) : Step body s i w t (s.come i w t access)
  | knock (stage : w.stage = .asking) (looks : t.phase.isLooking = true) :
      Step body s i w t { s with site := s.site.look i t }
  | look {x : Exchange} (stage : w.stage = .asking) (holds : t.phase = .holding)
      (sees : w.execution.routine.exchange? s.table = some x) : Step body s i w t (s.look i w x)
  | write {x : Exchange} (stage : w.stage = .seen x) : Step body s i w t (s.write i w x)
  | leave {x : Exchange} (stage : w.stage = .settled x) (holds : t.phase = .holding) :
      Step body s i w t (s.leave i w x ((s.site.setPhase i t .finished).release t.access))
  | proceed {x : Exchange} (stage : w.stage = .through x) :
      Step body s i w t (s.proceed body i w x)

/-- A worker takes one of these steps, and it can take any of them. -/
theorem advance?_eq_some_iff (there : s.site.threads[i]? = some t) :
    s.advance? body i w t = some s' ↔ Step body s i w t s' := by
  constructor
  · intro taken
    unfold advance? at taken
    split at taken
    · rename_i stage
      obtain ⟨access, wants, rfl⟩ := Option.map_eq_some_iff.1 taken
      exact .come stage wants
    · rename_i stage
      split at taken
      · rename_i holds
        obtain ⟨x, sees, rfl⟩ := Option.map_eq_some_iff.1 taken
        exact .look stage holds sees
      · obtain ⟨site, looked, rfl⟩ := Option.map_eq_some_iff.1 taken
        obtain ⟨t', there', looks, rfl⟩ := LockSite.step?_look_eq_some_iff.1 looked
        rw [there] at there'
        cases there'
        exact .knock stage looks
    · rename_i stage
      cases taken
      exact .write stage
    · rename_i stage
      obtain ⟨site, left, rfl⟩ := Option.map_eq_some_iff.1 taken
      obtain ⟨t', there', holds, rfl⟩ := LockSite.step?_leave_eq_some_iff.1 left
      rw [there] at there'
      cases there'
      exact .leave stage holds
    · rename_i stage
      cases taken
      exact .proceed stage
  · intro step
    cases step with
    | come stage wants => simp [advance?, stage, wants]
    | knock stage looks =>
      have looked : s.site.step? (.look i) = some (s.site.look i t) :=
        LockSite.step?_look_eq_some_iff.2 ⟨t, there, looks, rfl⟩
      have waits : t.phase ≠ .holding := by
        intro holds
        rw [holds] at looks
        cases looks
      simp [advance?, stage, waits, looked]
    | look stage holds sees => simp [advance?, stage, holds, sees]
    | write stage => simp [advance?, stage]
    | leave stage holds =>
      have left := LockSite.step?_leave_eq_some_iff.2 ⟨t, there, holds, rfl⟩
      simp [advance?, stage, left]
    | proceed stage => simp [advance?, stage]

theorem step?_go_eq_some_iff : s.step? body (.go i) = some s' ↔
    ∃ w t, s.workers[i]? = some w ∧ s.site.threads[i]? = some t ∧ Step body s i w t s' := by
  simp only [step?, Option.bind_eq_some_iff]
  constructor
  · rintro ⟨w, found, t, there, taken⟩
    exact ⟨w, t, found, there, (advance?_eq_some_iff there).1 taken⟩
  · rintro ⟨w, t, found, there, step⟩
    exact ⟨w, found, t, there, (advance?_eq_some_iff there).2 step⟩

theorem step?_wake_eq_some_iff : s.step? body (.wake i) = some s' ↔
    ∃ t, s.site.threads[i]? = some t ∧ t.phase = .waiting ∧
      { s with site := s.site.setPhase i t .notified } = s' := by
  simp [step?, Option.map_eq_some_iff, Option.filter_eq_some_iff, and_assoc]

/-- The threads take turns at the lock, and each stands to it as its worker has to. -/
structure IsCoherent (s : Shared) : Prop where
  reachable : LockSite.Reachable false s.site
  aligned : s.site.standings.length = s.workers.length
  fits : ∀ (i : Nat) (w : Worker) (q : Standing), s.workers[i]? = some w →
    s.site.standings[i]? = some q → w.Fits s.table q

namespace IsCoherent

theorem sound (coherent : s.IsCoherent) : s.site.IsSound := .of_reachable coherent.reachable

theorem fits_thread (coherent : s.IsCoherent) (found : s.workers[i]? = some w)
    (there : s.site.threads[i]? = some t) : w.Fits s.table t.standing :=
  coherent.fits i w _ found (LockSite.standings_getElem? there)

theorem length_threads (coherent : s.IsCoherent) :
    s.site.threads.length = s.workers.length := by
  rw [← coherent.aligned, LockSite.standings, List.length_map]

theorem exists_thread (coherent : s.IsCoherent) (found : s.workers[i]? = some w) :
    ∃ t, s.site.threads[i]? = some t := by
  obtain ⟨inside, -⟩ := List.getElem?_eq_some_iff.1 found
  rw [← coherent.length_threads] at inside
  exact ⟨_, List.getElem?_eq_getElem inside⟩

/-- A worker and its thread may come to stand elsewhere where they fit, and the table may become
another one if nobody else has looked at it in order to write. -/
theorem replace (coherent : s.IsCoherent) {w' : Worker} {q' : Standing}
    (reachable : LockSite.Reachable false s'.site)
    (workers : s'.workers = s.workers.set i w')
    (standings : s'.site.standings = s.site.standings.set i q')
    (fits : w'.Fits s'.table q')
    (others : s'.table = s.table ∨ ∀ (j : Nat) (v : Worker), j ≠ i → s.workers[j]? = some v →
      ∀ x, v.stage ≠ .seen x) : s'.IsCoherent where
  reachable := reachable
  aligned := by rw [workers, standings, List.length_set, List.length_set, coherent.aligned]
  fits := by
    intro j v q found stands
    rw [workers] at found
    rw [standings] at stands
    by_cases same : i = j
    · subst same
      rw [List.getElem?_set_self'] at found stands
      obtain ⟨_, -, rfl⟩ := Option.map_eq_some_iff.1 found
      obtain ⟨_, -, rfl⟩ := Option.map_eq_some_iff.1 stands
      exact fits
    · rw [List.getElem?_set_ne same] at found stands
      have stood := coherent.fits j v q found stands
      rcases others with table | unseen
      · rw [table]
        exact stood
      · exact stood.of_stage_ne (unseen j v (Ne.symm same) found)

/-- Nobody else has looked at the table in order to write to it. -/
theorem stage_ne_seen (coherent : s.IsCoherent) (found : s.workers[i]? = some w)
    (stage : w.stage = .seen x) {v : Worker} (other : s.workers[j]? = some v) (ne : j ≠ i)
    (y : Exchange) : v.stage ≠ .seen y := by
  intro stage'
  obtain ⟨t, there⟩ := coherent.exists_thread found
  obtain ⟨u, there'⟩ := coherent.exists_thread other
  have fits := coherent.fits_thread found there
  have fits' := coherent.fits_thread other there'
  simp only [Worker.Fits, stage, stage', Thread.standing, Standing.mk.injEq,
    decide_eq_true_eq] at fits fits'
  refine ne (coherent.sound.eq_of_isWriting there' there ?_ ?_)
  · simp [Thread.isWriting, fits']
  · simp [Thread.isWriting, fits]

/-- A worker's stage may change where it fits, if neither its thread nor the table changes. -/
theorem restage (coherent : s.IsCoherent) (there : s.site.threads[i]? = some t) {w' : Worker}
    (workers : s'.workers = s.workers.set i w') (site : s'.site = s.site)
    (table : s'.table = s.table) (fits : w'.Fits s.table t.standing) : s'.IsCoherent := by
  have stands : s.site.standings = s.site.standings.set i t.standing := by
    rw [set_eq_self (LockSite.standings_getElem? there)]
  exact coherent.replace (site ▸ coherent.reachable) workers (site ▸ stands) (table ▸ fits)
    (.inl table)

theorem step (coherent : s.IsCoherent) (found : s.workers[i]? = some w)
    (there : s.site.threads[i]? = some t) (step : Step body s i w t s') : s'.IsCoherent := by
  have fits := coherent.fits_thread found there
  cases step with
  | @come access stage wants =>
    simp only [Worker.Fits, stage] at fits
    have turn := coherent.reachable.turn (.comeAgain there fits access false)
    exact coherent.replace turn rfl (LockSite.standings_comeAgain access _) ⟨rfl, wants⟩ (.inl rfl)
  | knock stage looks =>
    simp only [Worker.Fits, stage] at fits
    have looked := LockSite.step?_look_eq_some_iff.2 ⟨t, there, looks, rfl⟩
    obtain ⟨holding, stands⟩ := LockSite.standings_look (coherent.sound.works there)
    have turn := coherent.reachable.turn (.look looked)
    refine coherent.replace turn (set_eq_self found).symm stands ?_ (.inl rfl)
    simp only [Worker.Fits, stage]
    exact ⟨trivial, fits.2⟩
  | look stage holds sees =>
    simp only [Worker.Fits, stage] at fits
    exact coherent.restage there rfl rfl rfl (Worker.fits_afterLook fits.2 holds sees)
  | @write x stage =>
    simp only [Worker.Fits, stage] at fits
    obtain ⟨standing, asked⟩ := fits
    have stands : s.site.standings = s.site.standings.set i ⟨.write, true, true⟩ := by
      rw [← standing, set_eq_self (LockSite.standings_getElem? there)]
    exact coherent.replace coherent.reachable rfl stands ⟨rfl, rfl, s.table, asked⟩
      (.inr (fun j v ne other => coherent.stage_ne_seen found stage other ne))
  | leave stage holds =>
    simp only [Worker.Fits, stage] at fits
    have left := LockSite.step?_leave_eq_some_iff.2 ⟨t, there, holds, rfl⟩
    have stands : ((s.site.setPhase i t .finished).release t.access).standings =
        s.site.standings.set i ⟨t.access, false, false⟩ :=
      (LockSite.standings_release _).trans (LockSite.standings_setPhase .finished)
    have turn := coherent.reachable.turn (.leave left)
    exact coherent.replace turn rfl stands ⟨rfl, fits.2.2⟩ (.inl rfl)
  | proceed stage =>
    simp only [Worker.Fits, stage] at fits
    exact coherent.restage there rfl rfl rfl fits.1

/-- A thread that wakes up without having been notified stands to the lock as before. -/
theorem wake (coherent : s.IsCoherent) (there : s.site.threads[i]? = some t)
    (waits : t.phase = .waiting) :
    IsCoherent { s with site := s.site.setPhase i t .notified } := by
  have same : (⟨t.access, Phase.notified.isActive, false⟩ : Standing) = t.standing := by
    simp [Thread.standing, waits, Phase.isActive]
  have stands : (s.site.setPhase i t .notified).standings = s.site.standings := by
    rw [← set_eq_self (LockSite.standings_getElem? there), ← same]
    exact LockSite.standings_setPhase .notified
  refine ⟨coherent.reachable.turn (.wake there waits), ?_, ?_⟩
  · rw [stands]
    exact coherent.aligned
  · rw [stands]
    exact coherent.fits

theorem step? (coherent : s.IsCoherent) {move : Move} (taken : s.step? body move = some s') :
    s'.IsCoherent := by
  cases move with
  | go i =>
    obtain ⟨w, t, found, there, step⟩ := step?_go_eq_some_iff.1 taken
    exact coherent.step found there step
  | wake i =>
    obtain ⟨t, there, waits, rfl⟩ := step?_wake_eq_some_iff.1 taken
    exact coherent.wake there waits

end IsCoherent

/-- The lock is free and nobody has business with it: each thread may have come to read before, and
have left. -/
theorem reachable_idle (n : Nat) :
    LockSite.Reachable false { threads := List.replicate n idleThread } := by
  induction n with
  | zero => exact .start
  | succ n ih =>
    let joined (phase : Phase) : List Thread :=
      List.replicate n idleThread ++ [{ idleThread with phase }]
    have last (phase : Phase) : (joined phase)[n]? = some { idleThread with phase } := by
      simp [joined]
    have reads : LockSite.step? ⟨{}, joined .arriving⟩ (.look n) =
        some ⟨{ readers := 1 }, joined .holding⟩ := by
      refine LockSite.step?_look_eq_some_iff.2 ⟨_, last .arriving, rfl, ?_⟩
      simp [joined, LockSite.look, LockSite.foundBy, LockSite.setPhase, idleThread,
        ReadWriteLock.refuses, ReadWriteLock.grant, Conduct.admitted]
    have leaves : LockSite.step? ⟨{ readers := 1 }, joined .holding⟩ (.leave n) =
        some ⟨{}, List.replicate (n + 1) idleThread⟩ := by
      refine LockSite.step?_leave_eq_some_iff.2 ⟨_, last .holding, rfl, ?_⟩
      simp [joined, LockSite.release, LockSite.setPhase, idleThread, ReadWriteLock.release,
        ReadWriteLock.notifiesAfter, Phase.notify, List.replicate_succ']
    exact ((ih.turn (.arrive "worker" .read false)).turn (.look reads)).turn (.leave leaves)

theorem IsCoherent.start (table : ResolverTable) (routines : List Routine) :
    (start table routines).IsCoherent where
  reachable := by
    rw [Shared.start, List.map_const']
    exact reachable_idle _
  aligned := by simp [Shared.start, LockSite.standings]
  fits := by
    intro i w q found stands
    simp only [Shared.start, List.getElem?_map, Option.map_eq_some_iff] at found
    obtain ⟨r, -, rfl⟩ := found
    simp only [Shared.start, LockSite.standings, List.getElem?_map,
      Option.map_eq_some_iff] at stands
    obtain ⟨t, ⟨r', -, rfl⟩, rfl⟩ := stands
    rfl

namespace IsCoherent

end IsCoherent
end Shared
end ResolverTable
end SolanaWire
