import Mathlib.Data.List.Induction
import SolanaWire.Proofs.AcceptedSettings
import SolanaWire.Settings.Use

/-!
# The settings in use

Asking for settings gives those of the first request that succeeded since they were last forgotten,
read from the environment as it was then.  A request that fails changes nothing, so the next one
reads the environment afresh.  Settings that do not pass the checks are neither kept nor given.
-/
namespace SolanaWire

namespace SettingsUse

/-- The place in a history of the request that counts: the first one that succeeded since the
settings were last forgotten, with what it gave. -/
structure Counts (u : SettingsUse) (history first : List SettingsEvent) (k : Nat × Settings) :
    Prop where
  since : ∃ rest, history = first ++ .get :: rest ∧ .reset ∉ rest
  succeeds : (u.run first).request.result = .ok k
  earliest : ∀ a b, first = a ++ .get :: b → .reset ∉ b →
    ∀ l, (u.run a).request.result ≠ .ok l

variable {u : SettingsUse} {k : Nat × Settings}

theorem result_of_kept (kept : u.store.current = some k) : u.request.result = .ok k := by
  rw [request, SettingsStore.get_of_kept kept]

/-- What a request gives is kept. -/
theorem kept_of_result (result : u.request.result = .ok k) :
    (u.step .get).store.current = some k := by
  show u.request.store.current = some k
  rw [request] at result ⊢
  cases current : u.store.current with
  | some l =>
    rw [SettingsStore.get_of_kept current] at result ⊢
    cases result
    exact current
  | none =>
    rcases SettingsStore.get_of_empty current u.environment with
      ⟨t, -, result', kept⟩ | ⟨f, -, result', -⟩
    · cases result.symm.trans result'
      exact kept
    · cases result.symm.trans result'

/-- A request that fails finds nothing kept and changes nothing. -/
theorem step_get_of_error {f : Failure} (failed : u.request.result = .error f) :
    u.store.current = none ∧ u.step .get = u := by
  cases current : u.store.current with
  | some l => cases failed.symm.trans (result_of_kept current)
  | none =>
    refine ⟨rfl, ?_⟩
    rcases SettingsStore.get_of_empty current u.environment with
      ⟨t, -, result, -⟩ | ⟨f, -, -, same⟩
    · cases failed.symm.trans result
    · show { u with store := (u.store.get u.environment).store } = u
      rw [same]

/-- Settings stay in use until they are forgotten. -/
theorem kept_run {rest : List SettingsEvent} (lasting : .reset ∉ rest)
    (kept : u.store.current = some k) : (u.run rest).store.current = some k := by
  induction rest generalizing u with
  | nil => exact kept
  | cons event rest ih =>
    rw [List.mem_cons, not_or] at lasting
    refine ih lasting.2 ?_
    cases event with
    | change e => exact kept
    | get => exact kept_of_result (result_of_kept kept)
    | reset => exact absurd rfl lasting.1

/-- What happens later does not matter, unless the settings are forgotten. -/
theorem Counts.append {history first more : List SettingsEvent} (counts : u.Counts history first k)
    (lasting : .reset ∉ more) : u.Counts (history ++ more) first k := by
  obtain ⟨rest, rfl, kept⟩ := counts.since
  refine ⟨⟨rest ++ more, by simp, ?_⟩, counts.succeeds, counts.earliest⟩
  simp [kept, lasting]

/-- The first request that succeeds where nothing is in use counts. -/
theorem Counts.of_empty {history : List SettingsEvent}
    (empty : (u.run history).store.current = none)
    (succeeds : (u.run history).request.result = .ok k) :
    u.Counts (history ++ [.get]) history k := by
  refine ⟨⟨[], rfl, by simp⟩, succeeds, ?_⟩
  rintro a b rfl lasting l earlier
  have kept := kept_run lasting (kept_of_result earlier)
  rw [run_append, run_cons, kept] at empty
  cases empty

/-- What is in use after a history is what the request that counts gave.  The induction is on the
history from its end: only a request puts settings in use, and only where there are none. -/
theorem kept_iff {e : Environment} {history : List SettingsEvent} :
    (run ⟨e, {}⟩ history).store.current = some k ↔ ∃ first, Counts ⟨e, {}⟩ history first k := by
  constructor
  · intro kept
    induction history using List.reverseRecOn with
    | nil => cases kept
    | append_singleton history event ih =>
      rw [run_append, run_cons, run_nil] at kept
      cases event with
      | change =>
        obtain ⟨first, counts⟩ := ih kept
        exact ⟨first, counts.append (by simp)⟩
      | reset => cases kept
      | get =>
        cases result : (run ⟨e, {}⟩ history).request.result with
        | error f =>
          obtain ⟨empty, same⟩ := step_get_of_error result
          rw [same, empty] at kept
          cases kept
        | ok l =>
          cases (kept_of_result result).symm.trans kept
          cases current : (run ⟨e, {}⟩ history).store.current with
          | none => exact ⟨history, .of_empty current result⟩
          | some l =>
            cases (result_of_kept current).symm.trans result
            obtain ⟨first, counts⟩ := ih current
            exact ⟨first, counts.append (by simp)⟩
  · rintro ⟨first, ⟨rest, rfl, lasting⟩, succeeds, -⟩
    rw [run_append, run_cons]
    exact kept_run lasting (kept_of_result succeeds)

/-- The request that counts finds nothing in use, so it reads the environment. -/
theorem Counts.isLoadedFrom {e : Environment} {history first : List SettingsEvent}
    (counts : Counts ⟨e, {}⟩ history first k) :
    k.2.IsLoadedFrom (run ⟨e, {}⟩ first).environment := by
  have empty : (run ⟨e, {}⟩ first).store.current = none := by
    cases current : (run ⟨e, {}⟩ first).store.current with
    | none => rfl
    | some l =>
      obtain ⟨before, ⟨rest, eq, lasting⟩, succeeds, -⟩ := kept_iff.1 current
      exact absurd succeeds (counts.earliest before rest eq lasting l)
  exact (SettingsStore.exists_result_iff empty _ k.2).1 ⟨k.1, counts.succeeds⟩

/-- In every history, a request gives exactly the settings of the first request that succeeded since
they were last forgotten, which were loaded from the environment of that time and passed the checks.
A request that fails changes nothing, and the next one gives what is loaded from the environment as
it is by then.  Nothing is kept but what such a request gave. -/
theorem kept_exactly (e : Environment) (past : List SettingsEvent) :
    let u : SettingsUse := ⟨e, {}⟩
    (∀ k, (u.run past).request.result = .ok k ↔ ∃ first,
      u.Counts (past ++ [.get]) first k ∧ k.2.IsLoadedFrom (u.run first).environment) ∧
    (∀ f, (u.run past).request.result = .error f → u.run (past ++ [.get]) = u.run past ∧
      ∀ now t, (∃ n, (u.run (past ++ [.get, .change now])).request.result = .ok (n, t)) ↔
        t.IsLoadedFrom now) ∧
    ∀ k, (u.run past).store.current = some k → ∃ first,
      u.Counts past first k ∧ k.2.IsLoadedFrom (u.run first).environment := by
  intro u
  have after : u.run (past ++ [.get]) = (u.run past).step .get := by
    rw [run_append, run_cons, run_nil]
  have kept {history : List SettingsEvent} {k : Nat × Settings}
      (current : (u.run history).store.current = some k) : ∃ first,
        u.Counts history first k ∧ k.2.IsLoadedFrom (u.run first).environment := by
    obtain ⟨first, counts⟩ := kept_iff.1 current
    exact ⟨first, counts, counts.isLoadedFrom⟩
  refine ⟨fun k => ⟨?_, ?_⟩, ?_, fun k => kept⟩
  · intro result
    refine kept ?_
    rw [after]
    exact kept_of_result result
  · rintro ⟨first, counts, -⟩
    have current := kept_iff.2 ⟨first, counts⟩
    cases result : (u.run past).request.result with
    | error f =>
      obtain ⟨empty, same⟩ := step_get_of_error result
      rw [after, same, empty] at current
      cases current
    | ok l =>
      rw [after, kept_of_result result] at current
      cases current
      rfl
  · intro f failed
    obtain ⟨empty, same⟩ := step_get_of_error failed
    refine ⟨after.trans same, fun now t => ?_⟩
    have changed : u.run (past ++ [.get, .change now]) = (u.run past).step (.change now) := by
      rw [run_append, run_cons, same, run_cons, run_nil]
    have fresh : ((u.run past).step (.change now)).store.current = none := empty
    rw [changed]
    exact SettingsStore.exists_result_iff fresh now t

/-- Settings that are not sound are refused.  Once they are sound they stay in use, whatever the
environment is made afterwards. -/
theorem kept_exactly_of_changes :
    let unsound : Environment := [("SOLANA_COMMITMENT", "whenever")]
    let u : SettingsUse := ⟨unsound, {}⟩
    let past : List SettingsEvent := [.get, .change [], .get, .change unsound]
    u.run [.get] = u ∧
      ∃ k first, (u.run past).request.result = .ok k ∧ u.Counts (past ++ [.get]) first k := by
  intro unsound u past
  obtain ⟨-, unchanged, -⟩ := kept_exactly unsound []
  constructor
  · cases result : u.request.result with
    | error f => exact (unchanged f result).1
    | ok k =>
      have refused : u.request.result.toBool = false := by decide +kernel
      rw [result] at refused
      cases refused
  · have accepted : (u.run past).request.result.toBool := by decide +kernel
    obtain ⟨k, result⟩ := Outcome.eq_ok_of_toBool accepted
    obtain ⟨first, counts, -⟩ := ((kept_exactly unsound past).1 k).1 result
    exact ⟨k, first, result, counts⟩

end SettingsUse
end SolanaWire
