import SolanaWire.Failure
import SolanaWire.Log
import SolanaWire.Number.Numeral
import SolanaWire.Text.Uppercase

/-!
# Settings

The settings of the RPC connection and of logging are read from environment variables, checked,
and then kept until they are reset.  An environment whose settings do not pass the checks is
reported and not kept, so the next request reads the environment afresh.
-/
namespace SolanaWire

/-- Environment variables by name. -/
abbrev Environment := List (String × String)

namespace Environment

/-- The value of a variable, or a default for one that is not set. -/
def get (e : Environment) (name default : String) : String := (e.lookup name).getD default

/-- The environment with a variable set, or no longer set. -/
def put (e : Environment) (name : String) (value : Option String) : Environment :=
  let others := e.filter (·.1 != name)
  match value with
  | some v => (name, v) :: others
  | none => others

/-- Why a variable of some name cannot be set to a text. -/
def settingFault? (name text : String) : Option Failure :=
  if name.toList.contains '\x00' || text.toList.contains '\x00' then
    some (.foreign .invalidValue "embedded null byte")
  else if name.toList.contains '=' then
    some (.foreign .invalidValue "illegal environment variable name")
  else if name = "" then some (.foreign .system "[Errno 22] Invalid argument")
  else none

/-- The environment with variables set to texts, or no longer set where a value is null, up to the
first that cannot be set. -/
def putAll (e : Environment) : Fields → Environment × Except Failure Unit
  | [] => (e, .ok ())
  | (name, .null) :: rest => (e.put name none).putAll rest
  | (name, .text s) :: rest =>
    match settingFault? name s with
    | some failure => (e, .error failure)
    | none => (e.put name (some s)).putAll rest
  | _ :: _ => (e, .error .wrongType)

end Environment

/-- The commitment levels, from the weakest to the strongest. -/
def commitmentLevels : List String := ["processed", "confirmed", "finalized"]

/-- The largest number of signatures that a node returns at once. -/
def signatureLimit : Int := 1000

/-- The settings of the RPC connection.  Times are in seconds.  Settings that are not read from an
environment may be any values; the checks say which of them are sound. -/
structure ConnectionSettings where
  url : Value
  requestTimeout : Value := .float (.ofRatio false 30 1)
  maxRetries : Value := .int 3
  retryDelay : Value := .float (.ofRatio false 1 1)
  commitment : Value := .text "finalized"
  signaturesPerRequest : Value := .int signatureLimit

/-- The settings of logging. -/
structure LoggingSettings where
  level : String := "INFO"
  format : String := "%(asctime)s - %(name)s - %(levelname)s - %(message)s"
  dateFormat : String := "%Y-%m-%d %H:%M:%S"
  file : Option String := none

/-- All settings. -/
structure Settings where
  connection : ConnectionSettings
  logging : LoggingSettings

/-- A report about a setting. -/
def settingReport (message setting : String) (details : Fields) : Report where
  facts := .configuration
  message := message
  details := .record (("setting", .text setting) :: details)

/-- A list of texts as a value. -/
def textList (items : List String) : Value := .list (items.map .text)

/-- Whether a value is one of some texts. -/
def Value.isAmong (v : Value) (texts : List String) : Bool := texts.any (v.eqv <| .text ·)

/-- The outcome of a comparison, which fails for values without an order. -/
def compared : Option Bool → Except Failure Bool
  | some holds => .ok holds
  | none => .error .wrongType

/-- Whether a value is a number of signatures that a node returns at once. -/
def isPageSize (v : Value) : Except Failure Bool := do
  return (← compared ((Value.int 0).lt? v)) && (← compared (v.le? (.int signatureLimit)))

/-- Settings by name where given values replace the standard ones; it fails for other names. -/
def overlay (standard given : Fields) : Except Failure Fields :=
  if given.all (fun g => standard.any (·.1 == g.1)) then
    .ok (standard.map (fun s => (s.1, (given.lookup s.1).getD s.2)))
  else .error .wrongType

namespace ConnectionSettings

/-- The first check that the settings do not pass.  A check fails where a value has no order. -/
def invalid? (s : ConnectionSettings) : Except Failure (Option Report) := do
  if !s.url.isTruthy then
    return some (settingReport "Solana RPC URL is required" "RPC_URL" [])
  if ← compared (s.requestTimeout.le? (.int 0)) then
    return some (settingReport "Request timeout must be positive" "REQUEST_TIMEOUT"
      [("value", s.requestTimeout)])
  if ← compared (s.maxRetries.lt? (.int 0)) then
    return some (settingReport "Max retries must be non-negative" "MAX_RETRIES"
      [("value", s.maxRetries)])
  if !s.commitment.isAmong commitmentLevels then
    return some (settingReport s!"Invalid commitment level: {s.commitment.display}" "COMMITMENT"
      [("value", s.commitment), ("valid_values", textList commitmentLevels)])
  if !(← isPageSize s.signaturesPerRequest) then
    let shown := s.signaturesPerRequest.display
    return some (settingReport s!"Signatures per request must be between 1 and 1000: {shown}"
      "SIGNATURES_PER_REQUEST" [("value", s.signaturesPerRequest)])
  return none

/-- The settings with their names. -/
def fields (s : ConnectionSettings) : Fields :=
  [("RPC_URL", s.url), ("REQUEST_TIMEOUT", s.requestTimeout), ("MAX_RETRIES", s.maxRetries),
    ("RETRY_DELAY", s.retryDelay), ("COMMITMENT", s.commitment),
    ("SIGNATURES_PER_REQUEST", s.signaturesPerRequest)]

/-- The settings that named values give.  Only the URL has no default. -/
def ofFields (given : Fields) : Except Failure ConnectionSettings := do
  let url ← (given.lookup "RPC_URL").elim (.error .wrongType) .ok
  let all ← overlay (fields { url }) given
  let setting := fun name => (all.lookup name).getD .null
  return {
    url
    requestTimeout := setting "REQUEST_TIMEOUT"
    maxRetries := setting "MAX_RETRIES"
    retryDelay := setting "RETRY_DELAY"
    commitment := setting "COMMITMENT"
    signaturesPerRequest := setting "SIGNATURES_PER_REQUEST" }

/-- The settings that named values give, with their names, if they pass the checks. -/
def examine (given : Fields) : Except Failure Fields := do
  let s ← ofFields given
  match ← s.invalid? with
  | some report => throw (.report report)
  | none => return s.fields

end ConnectionSettings

namespace LoggingSettings

/-- The names that a log level may have. -/
def levelNames : List String := Level.all.map (·.name)

/-- The report about a level that has none of the names. -/
def levelReport? (level : Value) : Option Report :=
  if level.isAmong levelNames then none
  else some (settingReport s!"Invalid log level: {level.display}" "LOG_LEVEL"
    [("value", level), ("valid_values", textList levelNames)])

/-- The first check that the settings do not pass. -/
def invalid? (s : LoggingSettings) : Option Report := levelReport? (.text s.level)

/-- The settings with their names. -/
def fields (s : LoggingSettings) : Fields :=
  [("LOG_LEVEL", .text s.level), ("LOG_FORMAT", .text s.format),
    ("LOG_DATE_FORMAT", .text s.dateFormat),
    ("LOG_FILE", (s.file.map Value.text).getD .null)]

/-- The settings that named values give, with their names, if they pass the checks. -/
def examine (given : Fields) : Except Failure Fields := do
  let all ← overlay (fields {}) given
  match levelReport? ((all.lookup "LOG_LEVEL").getD .null) with
  | some report => throw (.report report)
  | none => return all

end LoggingSettings

namespace Settings

/-- The first check that the settings do not pass. -/
def invalid? (s : Settings) : Except Failure (Option Report) := do
  return (← s.connection.invalid?) <|> s.logging.invalid?

/-- The failure about a variable that holds no number. -/
def numericFailure (reason : String) : Failure :=
  .because
    { facts := .configuration
      message := s!"Invalid numeric setting: {reason}"
      details := .record [("original_error", .text reason)] }
    (.foreign .invalidValue reason)

/-- The connection settings of an environment. -/
def readConnection (e : Environment) : Except String ConnectionSettings := do
  let requestTimeout ← Numeral.real (e.get "SOLANA_REQUEST_TIMEOUT" "30.0")
  let maxRetries ← Numeral.integer (e.get "SOLANA_MAX_RETRIES" "3")
  let retryDelay ← Numeral.real (e.get "SOLANA_RETRY_DELAY" "1.0")
  let signaturesPerRequest ← Numeral.integer (e.get "SOLANA_SIGNATURES_PER_REQUEST" "1000")
  return {
    url := .text (e.get "SOLANA_RPC_URL" "https://api.mainnet-beta.solana.com")
    requestTimeout := .float requestTimeout
    maxRetries := .int maxRetries
    retryDelay := .float retryDelay
    commitment := .text (e.get "SOLANA_COMMITMENT" "finalized")
    signaturesPerRequest := .int signaturesPerRequest }

/-- The logging settings of an environment.  The name of the level may be in small letters. -/
def readLogging (e : Environment) : LoggingSettings :=
  let standard : LoggingSettings := {}
  { level := Uppercase.ofText (e.get "LOG_LEVEL" standard.level)
    format := e.get "LOG_FORMAT" standard.format
    dateFormat := e.get "LOG_DATE_FORMAT" standard.dateFormat
    file := e.lookup "LOG_FILE" }

/-- The settings of an environment, not yet checked. -/
def read (e : Environment) : Except Failure Settings := do
  let connection ← (readConnection e).mapError numericFailure
  return ⟨connection, readLogging e⟩

end Settings

/-- The settings in use, with the number of the reading that they come from, and the number of
readings so far. -/
structure SettingsStore where
  current : Option (Nat × Settings) := none
  readings : Nat := 0

namespace SettingsStore

/-- What a request for settings gives: the settings with the number of their reading, or a
failure; the store afterwards; and what it logs. -/
structure Outcome where
  result : Except Failure (Nat × Settings)
  store : SettingsStore
  log : List LogLine := []

/-- The log line about settings that do not pass the checks. -/
def invalidLine (r : Report) : LogLine := ⟨.error, .settings, s!"Configuration error: {r.text}"⟩

/-- The settings in use; if there are none, those of the environment, once they are checked. -/
def get (s : SettingsStore) (e : Environment) : Outcome :=
  match s.current with
  | some kept => ⟨.ok kept, s, []⟩
  | none =>
    match Settings.read e with
    | .error f => ⟨.error f, s, []⟩
    | .ok settings =>
      match settings.invalid? with
      | .error f => ⟨.error f, s, []⟩
      | .ok (some r) => ⟨.error (.report r), s, [invalidLine r]⟩
      | .ok none => ⟨.ok (s.readings, settings), ⟨some (s.readings, settings), s.readings + 1⟩, []⟩

/-- Forgets the settings in use. -/
def reset (s : SettingsStore) : SettingsStore := { s with current := none }

end SettingsStore
end SolanaWire
