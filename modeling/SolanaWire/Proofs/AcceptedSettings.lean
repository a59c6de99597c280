import SolanaWire.Proofs.CanonicalForm
import SolanaWire.Proofs.Paging

/-!
# Accepted settings

The settings of an environment come into use exactly if every variable that stands for a number is
spelled as one and every setting passes its check.  The checks keep every bound, with one exception:
a timeout that is not a number passes.  A refusal is a report on the configuration.  It gives the
reason why a variable is no number, or it names the first setting that does not pass.
-/
namespace SolanaWire
open Outcome

/-- A failure that is reported as that of a configuration. -/
def Failure.IsConfiguration (f : Failure) : Prop :=
  ∃ report, f.fault = .reported report ∧ report.facts.reportClass = .configuration

/-- A positive number: a finite one above zero, or infinity. -/
def Binary64.IsPositive (x : Binary64) : Prop :=
  x = .infinite false ∨ ∃ v, x.value? = some v ∧ 0 < v

/-! ## Comparisons -/

theorem compareDyadic_zero_eq_gt_iff {m q : Int} : compareDyadic m q 0 0 = .gt ↔ 0 < m := by
  have scale : (0 : Int) < (1 <<< (q - min q 0).toNat : Nat) := by
    rw [Nat.shiftLeft_eq, Nat.one_mul]
    exact_mod_cast Nat.two_pow_pos _
  rw [compareDyadic, Int.compare_eq_gt, Int.zero_mul]
  exact mul_pos_iff_of_pos_right scale

/-- What is not at most zero is positive or not a number. -/
theorem Number.le_zero_eq_false_iff {x : Binary64} :
    (float x).le (int 0) = false ↔ x.IsPositive ∨ x = .nan := by
  cases x with
  | nan => exact iff_of_true rfl (.inr rfl)
  | infinite negative =>
    cases negative with
    | false => exact iff_of_true rfl (.inl (.inl rfl))
    | true => exact iff_of_false (by decide) (by simp [Binary64.IsPositive, Binary64.value?])
  | finite negative m q =>
    have above : (float (.finite negative m q)).le (int 0) = false ↔
        compareDyadic (if negative then -m else m) q 0 0 = .gt := by
      simp only [le, lt, compare?]
      cases compareDyadic (if negative then -m else m) q 0 0 <;> simp
    rw [above, compareDyadic_zero_eq_gt_iff]
    simp only [Binary64.IsPositive, Binary64.value?, reduceCtorEq, false_or, Option.some.injEq,
      exists_eq_left', or_false]
    rw [mul_pos_iff_of_pos_right (Binary64.two_zpow_pos q), Int.cast_pos]

theorem compared_le_zero (x : Binary64) :
    compared ((Value.float x).le? (.int 0)) = .ok ((Number.float x).le (.int 0)) := rfl

namespace Value

theorem isAmong_text_iff {s : String} {texts : List String} :
    (text s).isAmong texts = true ↔ s ∈ texts := by
  simp [isAmong, eqv]

theorem isTruthy_text_iff {s : String} : (text s).isTruthy = true ↔ s ≠ "" := by
  simp [isTruthy]

end Value

namespace Numeral

theorem real_standardTimeout : real "30.0" = .ok (.ofRatio false 30 1) :=
  eq_ok_of_toOption (by decide +kernel)

theorem real_standardDelay : real "1.0" = .ok (.ofRatio false 1 1) :=
  eq_ok_of_toOption (by decide +kernel)

theorem integer_standardPage : integer "1000" = .ok signatureLimit :=
  eq_ok_of_toOption (by decide +kernel)

end Numeral

/-! ## Checks -/

/-- The settings that are checked. -/
inductive CheckedSetting
  | url
  | requestTimeout
  | maxRetries
  | commitment
  | signaturesPerRequest
  | logLevel

namespace CheckedSetting

/-- Every setting that is checked, in the order of the checks. -/
def all : List CheckedSetting :=
  [url, requestTimeout, maxRetries, commitment, signaturesPerRequest, logLevel]

/-- The name of a setting. -/
def name : CheckedSetting → String
  | url => "RPC_URL"
  | requestTimeout => "REQUEST_TIMEOUT"
  | maxRetries => "MAX_RETRIES"
  | commitment => "COMMITMENT"
  | signaturesPerRequest => "SIGNATURES_PER_REQUEST"
  | logLevel => "LOG_LEVEL"

theorem mem_all (x : CheckedSetting) : x ∈ all := by cases x <;> simp [all]

end CheckedSetting

namespace Settings

/-- The bound of a setting. -/
def KeepsBound (t : Settings) : CheckedSetting → Prop
  | .url => ∃ s, t.connection.url = .text s ∧ s ≠ ""
  | .requestTimeout => ∃ x, t.connection.requestTimeout = .float x ∧ x.IsPositive
  | .maxRetries => ∃ n, t.connection.maxRetries = .int n ∧ 0 ≤ n
  | .commitment =>
    ∃ s ∈ ["processed", "confirmed", "finalized"], t.connection.commitment = .text s
  | .signaturesPerRequest =>
    ∃ n, t.connection.signaturesPerRequest = .int n ∧ 1 ≤ n ∧ n ≤ 1000
  | .logLevel => t.logging.level ∈ ["DEBUG", "INFO", "WARNING", "ERROR", "CRITICAL"]

/-- A setting that passes its check: it keeps its bound, or it is a timeout that is not a number. -/
def Passes (t : Settings) (x : CheckedSetting) : Prop :=
  t.KeepsBound x ∨ x = .requestTimeout ∧ t.connection.requestTimeout = .float .nan

section

variable {t : Settings}

theorem passes_iff {x : CheckedSetting} (other : x ≠ .requestTimeout) :
    t.Passes x ↔ t.KeepsBound x := by
  simp [Passes, other]

theorem passes_url_iff {s : String} (given : t.connection.url = .text s) :
    t.Passes .url ↔ s ≠ "" := by
  simp [passes_iff, KeepsBound, given]

theorem passes_requestTimeout_iff {x : Binary64} (given : t.connection.requestTimeout = .float x) :
    t.Passes .requestTimeout ↔ (Number.float x).le (.int 0) = false := by
  simp [Passes, KeepsBound, given, Number.le_zero_eq_false_iff]

theorem passes_maxRetries_iff {n : Int} (given : t.connection.maxRetries = .int n) :
    t.Passes .maxRetries ↔ 0 ≤ n := by
  simp [passes_iff, KeepsBound, given]

theorem passes_commitment_iff {s : String} (given : t.connection.commitment = .text s) :
    t.Passes .commitment ↔ s ∈ commitmentLevels := by
  simp [passes_iff, KeepsBound, given, commitmentLevels]

theorem passes_signaturesPerRequest_iff {n : Int}
    (given : t.connection.signaturesPerRequest = .int n) :
    t.Passes .signaturesPerRequest ↔ 1 ≤ n ∧ n ≤ 1000 := by
  simp [passes_iff, KeepsBound, given]

theorem passes_logLevel_iff :
    t.Passes .logLevel ↔ t.logging.level ∈ LoggingSettings.levelNames := by
  simp [passes_iff, KeepsBound, LoggingSettings.levelNames, Level.all, Level.name]

end

/-- What checks of some settings, one after the other, find: nothing if all of them pass, else a
report that names the first one that does not. -/
inductive Finds (t : Settings) : List CheckedSetting → Option Report → Prop
  | nothing : Finds t [] none
  | first {x : CheckedSetting} {xs : List CheckedSetting} {message : String} {details : Fields}
      (broken : ¬ t.Passes x) : Finds t (x :: xs) (some (settingReport message x.name details))
  | later {x : CheckedSetting} {xs : List CheckedSetting} {found : Option Report}
      (passes : t.Passes x) (rest : Finds t xs found) : Finds t (x :: xs) found

namespace Finds

variable {t : Settings} {xs ys : List CheckedSetting} {found more : Option Report}

theorem eq_none_iff (finds : t.Finds xs found) : found = none ↔ ∀ x ∈ xs, t.Passes x := by
  induction finds with
  | nothing => simp
  | first broken => simp [broken]
  | later passes _ ih => simp [passes, ih]

/-- A report that is found concerns the configuration. -/
theorem isConfiguration (finds : t.Finds xs found) {r : Report} (present : found = some r) :
    (Failure.report r).IsConfiguration := by
  induction finds with
  | nothing => cases present
  | first broken =>
    cases present
    exact ⟨_, rfl, rfl⟩
  | later _ _ ih => exact ih present

theorem append (finds : t.Finds xs found) (rest : t.Finds ys more) :
    t.Finds (xs ++ ys) (found <|> more) := by
  induction finds with
  | nothing => exact rest
  | first broken => exact .first broken
  | later passes _ ih => exact .later passes ih

end Finds

/-- A check, followed by the checks of what is left. -/
theorem exists_finds_cons {t : Settings} {x : CheckedSetting} {xs : List CheckedSetting}
    {fails : Bool} {message : String} {details : Fields} {rest : Except Failure (Option Report)}
    (check : fails = true ↔ ¬ t.Passes x)
    (others : ∃ found, rest = .ok found ∧ t.Finds xs found) :
    ∃ found, (if fails then pure (some (settingReport message x.name details)) else rest) =
      .ok found ∧ t.Finds (x :: xs) found := by
  cases fails with
  | true => exact ⟨_, rfl, .first (check.1 rfl)⟩
  | false =>
    obtain ⟨found, eq, finds⟩ := others
    have passes : t.Passes x := by
      by_contra broken
      cases check.2 broken
    exact ⟨found, eq, .later passes finds⟩

end Settings

/-! ## Environments -/

/-- The settings that the variables of an environment stand for. -/
structure Environment.Gives (e : Environment) (t : Settings) : Prop where
  url : t.connection.url =
    .text (e.get "SOLANA_RPC_URL" "https://api.mainnet-beta.solana.com")
  requestTimeout : ∃ x, Numeral.real (e.get "SOLANA_REQUEST_TIMEOUT" "30.0") = .ok x ∧
    t.connection.requestTimeout = .float x
  maxRetries : ∃ n, Numeral.integer (e.get "SOLANA_MAX_RETRIES" "3") = .ok n ∧
    t.connection.maxRetries = .int n
  retryDelay : ∃ x, Numeral.real (e.get "SOLANA_RETRY_DELAY" "1.0") = .ok x ∧
    t.connection.retryDelay = .float x
  commitment : t.connection.commitment = .text (e.get "SOLANA_COMMITMENT" "finalized")
  signaturesPerRequest : ∃ n,
    Numeral.integer (e.get "SOLANA_SIGNATURES_PER_REQUEST" "1000") = .ok n ∧
      t.connection.signaturesPerRequest = .int n
  logging : t.logging = Settings.readLogging e

/-- The settings that the variables of an environment stand for, if every one passes. -/
def Settings.IsLoadedFrom (t : Settings) (e : Environment) : Prop := e.Gives t ∧ ∀ x, t.Passes x

namespace Environment

/-- The reasons why variables that should stand for numbers do not. -/
inductive Misspells (e : Environment) : String → Prop
  | real {name standard reason : String}
      (known : (name, standard) ∈
        [("SOLANA_REQUEST_TIMEOUT", "30.0"), ("SOLANA_RETRY_DELAY", "1.0")])
      (failed : Numeral.real (e.get name standard) = .error reason) : Misspells e reason
  | integer {name standard reason : String}
      (known : (name, standard) ∈
        [("SOLANA_MAX_RETRIES", "3"), ("SOLANA_SIGNATURES_PER_REQUEST", "1000")])
      (failed : Numeral.integer (e.get name standard) = .error reason) : Misspells e reason

/-- The failures with which the settings of an environment are refused. -/
inductive Refuses (e : Environment) : Failure → Prop
  | misspelt {reason : String} (misspells : e.Misspells reason) :
      Refuses e (Settings.numericFailure reason)
  | outside {t : Settings} {r : Report} (gives : e.Gives t)
      (finds : t.Finds CheckedSetting.all (some r)) : Refuses e (.report r)

variable {e : Environment} {t : Settings}

/-- The checks of the settings that an environment gives. -/
theorem Gives.exists_finds (gives : e.Gives t) :
    ∃ found, t.invalid? = .ok found ∧ t.Finds CheckedSetting.all found := by
  obtain ⟨url, ⟨x, -, requestTimeout⟩, ⟨m, -, maxRetries⟩, -, commitment, ⟨n, -, pages⟩, -⟩ := gives
  have connection : ∃ found, t.connection.invalid? = .ok found ∧
      t.Finds [.url, .requestTimeout, .maxRetries, .commitment, .signaturesPerRequest] found := by
    simp only [ConnectionSettings.invalid?, url, requestTimeout, maxRetries, commitment, pages,
      compared_le_zero, compared_lt_int, isPageSize_eq, ok_bind]
    refine Settings.exists_finds_cons (x := .url) ?_ <|
      Settings.exists_finds_cons (x := .requestTimeout) ?_ <|
      Settings.exists_finds_cons (x := .maxRetries) ?_ <|
      Settings.exists_finds_cons (x := .commitment) ?_ <|
      Settings.exists_finds_cons (x := .signaturesPerRequest) ?_ ⟨none, rfl, .nothing⟩
    · rw [Settings.passes_url_iff url, ← Value.isTruthy_text_iff, Bool.not_eq_true',
        Bool.not_eq_true]
    · rw [Settings.passes_requestTimeout_iff requestTimeout, Bool.not_eq_false]
    · rw [Settings.passes_maxRetries_iff maxRetries, decide_eq_true_iff, Int.not_le]
    · rw [Settings.passes_commitment_iff commitment, ← Value.isAmong_text_iff, Bool.not_eq_true',
        Bool.not_eq_true]
    · rw [Settings.passes_signaturesPerRequest_iff pages, Bool.not_eq_true',
        decide_eq_false_iff_not]
  have logging : ∃ found, t.logging.invalid? = found ∧ t.Finds [.logLevel] found := by
    rw [LoggingSettings.invalid?, LoggingSettings.levelReport?]
    split
    · rename_i named
      exact ⟨_, rfl, .later (Settings.passes_logLevel_iff.2 (Value.isAmong_text_iff.1 named))
        .nothing⟩
    · rename_i unnamed
      refine ⟨_, rfl, .first (x := .logLevel) (fun passes => unnamed ?_)⟩
      exact Value.isAmong_text_iff.2 (Settings.passes_logLevel_iff.1 passes)
  obtain ⟨found, checked, finds⟩ := connection
  obtain ⟨more, rest, findsMore⟩ := logging
  refine ⟨found <|> more, ?_, finds.append findsMore⟩
  rw [Settings.invalid?, checked, rest]
  rfl

theorem read_iff_gives : Settings.read e = .ok t ↔ e.Gives t := by
  simp only [Settings.read, Settings.readConnection, bind_eq_ok_iff, mapError_eq_ok_iff]
  constructor
  · rintro ⟨_, ⟨timeout, timeoutRead, retries, retriesRead, delay, delayRead, pages, pagesRead, eq⟩,
      whole⟩
    cases eq
    cases whole
    exact ⟨rfl, ⟨timeout, timeoutRead, rfl⟩, ⟨retries, retriesRead, rfl⟩, ⟨delay, delayRead, rfl⟩,
      rfl, ⟨pages, pagesRead, rfl⟩, rfl⟩
  · obtain ⟨⟨url, requestTimeout, maxRetries, retryDelay, commitment, signaturesPerRequest⟩,
      logging⟩ := t
    rintro ⟨rfl, ⟨timeout, timeoutRead, rfl⟩, ⟨retries, retriesRead, rfl⟩, ⟨delay, delayRead, rfl⟩,
      rfl, ⟨pages, pagesRead, rfl⟩, rfl⟩
    exact ⟨_, ⟨timeout, timeoutRead, retries, retriesRead, delay, delayRead, pages, pagesRead, rfl⟩,
      rfl⟩

/-- The delay that an environment gives is in the form that back-off takes it in. -/
theorem Gives.exists_isCanonical (gives : e.Gives t) :
    ∃ d, t.connection.retryDelay.number? = some d ∧ d.IsCanonical := by
  obtain ⟨x, read, delay⟩ := gives.retryDelay
  exact ⟨.float x, by rw [delay]; rfl, Numeral.isCanonical_of_real read⟩

/-- What is loaded from an environment is what is read and passes the checks that are made. -/
theorem isLoadedFrom_iff : t.IsLoadedFrom e ↔ Settings.read e = .ok t ∧ t.invalid? = .ok none := by
  rw [Settings.IsLoadedFrom, read_iff_gives]
  refine and_congr_right (fun gives => ?_)
  obtain ⟨found, checked, finds⟩ := gives.exists_finds
  rw [checked, Except.ok.injEq, finds.eq_none_iff]
  exact ⟨fun passes x _ => passes x, fun passes x => passes x x.mem_all⟩

/-- The failures with which nothing is loaded from an environment: a variable cannot be read, a
check cannot be made, or a check is not passed. -/
inductive LoadsNothing (e : Environment) : Failure → Prop
  | unread {f : Failure} (failed : Settings.read e = .error f) : LoadsNothing e f
  | unchecked {t : Settings} {f : Failure} (read : Settings.read e = .ok t)
      (failed : t.invalid? = .error f) : LoadsNothing e f
  | unsound {t : Settings} {r : Report} (read : Settings.read e = .ok t)
      (found : t.invalid? = .ok (some r)) : LoadsNothing e (.report r)

theorem LoadsNothing.not_isLoadedFrom {f : Failure} (nothing : e.LoadsNothing f) (t : Settings) :
    ¬ t.IsLoadedFrom e := by
  intro loaded
  obtain ⟨read, checked⟩ := isLoadedFrom_iff.1 loaded
  cases nothing with
  | unread failed => cases failed.symm.trans read
  | unchecked read' failed =>
    cases read'.symm.trans read
    cases failed.symm.trans checked
  | unsound read' found =>
    cases read'.symm.trans read
    cases found.symm.trans checked

/-- An environment that gives no settings has a variable that does not stand for a number. -/
theorem exists_misspells {f : Failure} (failed : Settings.read e = .error f) :
    ∃ reason, e.Misspells reason ∧ f = Settings.numericFailure reason := by
  rw [Settings.read, bind_eq_error_iff] at failed
  rcases failed with failed | ⟨_, -, other⟩
  · cases unread : Settings.readConnection e with
    | ok connection =>
      rw [unread] at failed
      cases failed
    | error reason =>
      rw [unread] at failed
      cases failed
      refine ⟨reason, ?_, rfl⟩
      simp only [Settings.readConnection, bind_eq_error_iff] at unread
      rcases unread with timeout | ⟨_, -, retries | ⟨_, -, delay | ⟨_, -, pages | ⟨_, -, other⟩⟩⟩⟩
      · exact .real (by simp) timeout
      · exact .integer (by simp) retries
      · exact .real (by simp) delay
      · exact .integer (by simp) pages
      · cases other
  · cases other

theorem Misspells.not_gives {reason : String} (misspells : e.Misspells reason) : ¬ e.Gives t := by
  intro gives
  cases misspells with
  | real known failed =>
    simp only [List.mem_cons, Prod.mk.injEq, List.not_mem_nil, or_false] at known
    rcases known with ⟨rfl, rfl⟩ | ⟨rfl, rfl⟩
    · obtain ⟨x, read, -⟩ := gives.requestTimeout
      cases failed.symm.trans read
    · obtain ⟨x, read, -⟩ := gives.retryDelay
      cases failed.symm.trans read
  | integer known failed =>
    simp only [List.mem_cons, Prod.mk.injEq, List.not_mem_nil, or_false] at known
    rcases known with ⟨rfl, rfl⟩ | ⟨rfl, rfl⟩
    · obtain ⟨n, read, -⟩ := gives.maxRetries
      cases failed.symm.trans read
    · obtain ⟨n, read, -⟩ := gives.signaturesPerRequest
      cases failed.symm.trans read

theorem Refuses.isConfiguration {f : Failure} (refuses : e.Refuses f) : f.IsConfiguration := by
  cases refuses with
  | misspelt => exact ⟨_, rfl, rfl⟩
  | outside _ finds => exact finds.isConfiguration rfl

/-- An environment from which nothing is loaded is refused. -/
theorem LoadsNothing.refuses {f : Failure} (nothing : e.LoadsNothing f) : e.Refuses f := by
  cases nothing with
  | unread failed =>
    obtain ⟨reason, misspells, rfl⟩ := exists_misspells failed
    exact .misspelt misspells
  | unchecked read failed =>
    obtain ⟨found, checked, -⟩ := (read_iff_gives.1 read).exists_finds
    cases failed.symm.trans checked
  | unsound read found =>
    obtain ⟨found', checked, finds⟩ := (read_iff_gives.1 read).exists_finds
    cases found.symm.trans checked
    exact .outside (read_iff_gives.1 read) finds

/-- Where an environment is refused, a variable holds no number or a setting does not pass. -/
theorem Refuses.cases_broken {f : Failure} (refuses : e.Refuses f) :
    (∃ reason, e.Misspells reason) ∨ ∃ t x, e.Gives t ∧ ¬ t.Passes x := by
  cases refuses with
  | misspelt misspells => exact .inl ⟨_, misspells⟩
  | @outside t _ gives finds =>
    refine .inr ⟨t, ?_⟩
    by_contra sound
    push Not at sound
    cases finds.eq_none_iff.2 (fun x _ => sound x gives)

end Environment

namespace SettingsStore

open Environment

variable {s : SettingsStore} {k : Nat × Settings}

theorem get_of_kept (kept : s.current = some k) (e : Environment) : s.get e = ⟨.ok k, s, []⟩ := by
  rw [get, kept]

/-- A request without settings in use reads the environment, and keeps what it gives. -/
theorem get_of_empty (empty : s.current = none) (e : Environment) :
    (∃ t : Settings, t.IsLoadedFrom e ∧ (s.get e).result = .ok (s.readings, t) ∧
      (s.get e).store.current = some (s.readings, t)) ∨
    ∃ f, e.LoadsNothing f ∧ (s.get e).result = .error f ∧ (s.get e).store = s := by
  rw [get, empty]
  cases read : Settings.read e with
  | error f => exact .inr ⟨f, .unread read, rfl, rfl⟩
  | ok t =>
    cases checked : t.invalid? with
    | error f => exact .inr ⟨f, .unchecked read checked, by simp [checked], by simp [checked]⟩
    | ok found =>
      cases found with
      | none =>
        exact .inl ⟨t, isLoadedFrom_iff.2 ⟨read, checked⟩, by simp [checked], by simp [checked]⟩
      | some r =>
        exact .inr ⟨.report r, .unsound read checked, by simp [checked], by simp [checked]⟩

/-- Where nothing is in use, a request gives what is loaded from the environment. -/
theorem exists_result_iff (empty : s.current = none) (e : Environment) (t : Settings) :
    (∃ n, (s.get e).result = .ok (n, t)) ↔ t.IsLoadedFrom e := by
  rcases get_of_empty empty e with ⟨t', loaded, result, -⟩ | ⟨f, nothing, result, -⟩
  · constructor
    · rintro ⟨n, result'⟩
      cases result.symm.trans result'
      exact loaded
    · intro loaded'
      cases (isLoadedFrom_iff.1 loaded).1.symm.trans (isLoadedFrom_iff.1 loaded').1
      exact ⟨_, result⟩
  · refine iff_of_false ?_ (nothing.not_isLoadedFrom t)
    rintro ⟨n, result'⟩
    cases result.symm.trans result'

/-- With no settings in use, a request gives exactly the settings that the environment stands for
and that pass every check.  Otherwise it fails: if a variable that should hold a number does not, or
if a setting does not pass.  It then fails with a report on the configuration that gives the reason
or names the first setting that does not pass.  A setting passes if it keeps its bound, and only a
timeout that is not a number passes without that. -/
theorem get_reset_exactly (s : SettingsStore) (e : Environment) :
    (∀ t, (∃ n, (s.reset.get e).result = .ok (n, t)) ↔ e.Gives t ∧ ∀ x, t.Passes x) ∧
    ((∃ f, (s.reset.get e).result = .error f) ↔
      (∃ reason, e.Misspells reason) ∨ ∃ t x, e.Gives t ∧ ¬ t.Passes x) ∧
    ∀ f, (s.reset.get e).result = .error f → f.IsConfiguration ∧ e.Refuses f := by
  have accepted (t : Settings) :
      (∃ n, (s.reset.get e).result = .ok (n, t)) ↔ e.Gives t ∧ ∀ x, t.Passes x :=
    exists_result_iff rfl e t
  have refused (f : Failure) (failed : (s.reset.get e).result = .error f) : e.Refuses f := by
    rcases get_of_empty (rfl : s.reset.current = none) e with
      ⟨t, -, result, -⟩ | ⟨f', nothing, result, -⟩
    · cases failed.symm.trans result
    · cases failed.symm.trans result
      exact nothing.refuses
  refine ⟨accepted, ⟨?_, ?_⟩,
    fun f failed => ⟨(refused f failed).isConfiguration, refused f failed⟩⟩
  · rintro ⟨f, failed⟩
    exact (refused f failed).cases_broken
  · intro broken
    cases result : (s.reset.get e).result with
    | error f => exact ⟨f, rfl⟩
    | ok k =>
      obtain ⟨gives, passes⟩ := (accepted k.2).1 ⟨k.1, result⟩
      rcases broken with ⟨reason, misspells⟩ | ⟨t, x, gives', broken⟩
      · exact absurd gives misspells.not_gives
      · cases (read_iff_gives.2 gives).symm.trans (read_iff_gives.2 gives')
        exact absurd (passes x) broken

/-- Variables with a blank, an exponent, an underscore, and a level in small letters. -/
def looseSpellings : Environment :=
  [("SOLANA_REQUEST_TIMEOUT", " 1e1"), ("SOLANA_MAX_RETRIES", "+1_0"), ("LOG_LEVEL", "debug")]

/-- Loosely spelled settings are accepted, as those that they stand for.  A page without signatures
is refused. -/
theorem get_reset_exactly_of_looseSpellings :
    let t : Settings :=
      { connection :=
          { url := .text "https://api.mainnet-beta.solana.com"
            requestTimeout := .float (.ofInt 10)
            maxRetries := .int 10 }
        logging := { level := "DEBUG" } }
    let s : SettingsStore := {}
    (∃ n, (s.reset.get looseSpellings).result = .ok (n, t)) ∧
      ∃ f, (s.reset.get [("SOLANA_SIGNATURES_PER_REQUEST", "0")]).result = .error f ∧
        f.IsConfiguration := by
  intro t s
  have gives : looseSpellings.Gives t :=
    ⟨rfl, ⟨.ofInt 10, rfl, rfl⟩, ⟨10, rfl, rfl⟩, ⟨_, Numeral.real_standardDelay, rfl⟩, rfl,
      ⟨_, Numeral.integer_standardPage, rfl⟩, rfl⟩
  have passes (x : CheckedSetting) : t.Passes x := by
    cases x with
    | url => exact (Settings.passes_url_iff rfl).2 (by decide)
    | requestTimeout => exact (Settings.passes_requestTimeout_iff rfl).2 rfl
    | maxRetries => exact (Settings.passes_maxRetries_iff rfl).2 (by decide)
    | commitment => exact (Settings.passes_commitment_iff rfl).2 (by decide)
    | signaturesPerRequest => exact (Settings.passes_signaturesPerRequest_iff rfl).2 (by decide)
    | logLevel => exact Settings.passes_logLevel_iff.2 (by decide)
  let u : Settings :=
    { connection :=
        { url := .text "https://api.mainnet-beta.solana.com", signaturesPerRequest := .int 0 }
      logging := {} }
  have gives' : Gives [("SOLANA_SIGNATURES_PER_REQUEST", "0")] u :=
    ⟨rfl, ⟨_, Numeral.real_standardTimeout, rfl⟩, ⟨3, rfl, rfl⟩,
      ⟨_, Numeral.real_standardDelay, rfl⟩, rfl, ⟨0, rfl, rfl⟩, rfl⟩
  have broken : ¬ u.Passes .signaturesPerRequest := by
    rw [Settings.passes_signaturesPerRequest_iff rfl]
    decide
  obtain ⟨-, refused, reported⟩ := s.get_reset_exactly [("SOLANA_SIGNATURES_PER_REQUEST", "0")]
  obtain ⟨f, failed⟩ := refused.2 (.inr ⟨u, _, gives', broken⟩)
  exact ⟨((s.get_reset_exactly looseSpellings).1 t).2 ⟨gives, passes⟩, f, failed,
    (reported f failed).1⟩

/-- A timeout that is not a number is accepted, though it is not positive. -/
theorem get_of_nan :
    ∃ t, (({} : SettingsStore).get [("SOLANA_REQUEST_TIMEOUT", "nan")]).result = .ok (0, t) ∧
      t.connection.requestTimeout = .float .nan ∧ ¬ t.KeepsBound .requestTimeout := by
  let t : Settings :=
    { connection :=
        { url := .text "https://api.mainnet-beta.solana.com", requestTimeout := .float .nan }
      logging := {} }
  have read : Settings.read [("SOLANA_REQUEST_TIMEOUT", "nan")] = .ok t := read_iff_gives.2
    ⟨rfl, ⟨.nan, rfl, rfl⟩, ⟨3, rfl, rfl⟩, ⟨_, Numeral.real_standardDelay, rfl⟩, rfl,
      ⟨_, Numeral.integer_standardPage, rfl⟩, rfl⟩
  have checked : t.invalid? = .ok none := rfl
  refine ⟨t, by simp only [get, read, checked], rfl, ?_⟩
  rintro ⟨x, given, positive⟩
  cases given
  rcases positive with infinite | ⟨v, value, -⟩
  · cases infinite
  · cases value

end SettingsStore
end SolanaWire
