import SolanaWire.Settings

/-!
# Settings in use

A process asks for its settings from time to time.  In between, its environment may change, and the
settings in use may be forgotten.
-/
namespace SolanaWire

/-- What can happen to the settings of a process: its environment changes, it asks for them, or they
are forgotten. -/
inductive SettingsEvent
  | change (e : Environment)
  | get
  | reset

/-- The environment of a process and the settings that it has in use. -/
structure SettingsUse where
  environment : Environment
  store : SettingsStore := {}

namespace SettingsUse

/-- What asking for the settings gives. -/
def request (u : SettingsUse) : SettingsStore.Outcome := u.store.get u.environment

/-- What an event makes of the environment and the settings in use. -/
def step (u : SettingsUse) : SettingsEvent → SettingsUse
  | .change e => { u with environment := e }
  | .get => { u with store := u.request.store }
  | .reset => { u with store := u.store.reset }

/-- What some events, the earliest first, make of the environment and the settings in use. -/
def run (u : SettingsUse) (events : List SettingsEvent) : SettingsUse := events.foldl step u

@[simp] theorem run_nil (u : SettingsUse) : u.run [] = u := rfl

@[simp] theorem run_cons (u : SettingsUse) (event : SettingsEvent) (events : List SettingsEvent) :
    u.run (event :: events) = (u.step event).run events := rfl

@[simp] theorem run_append (u : SettingsUse) (events more : List SettingsEvent) :
    u.run (events ++ more) = (u.run events).run more := List.foldl_append

end SettingsUse
end SolanaWire
