import SolanaWire.Proofs.IntegerRange
import SolanaWire.Proofs.Paging
import SolanaWire.Proofs.RequestFailures

/-!
# The range of pauses

The checks of settings admit any number of retries that is not negative.  After each of the first
1024 attempts there is a pause, of at most ten seconds and not shorter than the one before.  After
a later attempt there is none if the delay is in floating point: it cannot be multiplied by a power
of two beyond the range, however long the product would be.  A number of retries that has too many
digits to be written does not even admit the second attempt, which is announced with it.
-/
namespace SolanaWire
open Outcome

/-- Settings that pass the checks do not have a negative number of retries. -/
theorem ConnectionSettings.retries_nonneg {s : ConnectionSettings} {n : Int}
    (sound : s.invalid? = .ok none) (retries : s.maxRetries.wireInt? = some n) : 0 ≤ n := by
  have order : compared (s.maxRetries.lt? (.int 0)) = .ok (decide (n < 0)) := by
    rw [← compared_lt_int]
    cases given : s.maxRetries <;> rw [given] at retries <;> cases retries <;> rfl
  by_contra negative
  rw [not_le] at negative
  -- With this order no check that comes later is reached.
  unfold invalid? at sound
  simp only [order, decide_eq_true negative] at sound
  cases present : s.url.isTruthy with
  | false =>
    rw [present] at sound
    cases sound
  | true =>
    rw [present] at sound
    obtain ⟨expired, -, sound⟩ := bind_eq_ok_iff.1 sound
    cases expired <;> cases sound

namespace Rpc

variable {reply : Reply}

theorem Reply.IsExpected.isJson (expected : reply.IsExpected) : reply.IsJson := by
  cases expected with
  | json status json => exact json
  | _ => trivial

/-- An expected reply after which a request can be retried ends one without retries, and then with a
report about the request. -/
theorem exists_isRpc_of_isRetriable (method : String) (endpoint : Value)
    (expected : reply.IsExpected) (retriable : reply.IsRetriable) :
    ∃ f, (judge method endpoint reply).outcome = .error f ∧ f.IsRpc := by
  have passing : (judge method endpoint reply).IsPassing :=
    (judge_isPassing_iff expected.isJson).2 retriable
  rcases outcome_cases method endpoint expected with ⟨v, answers⟩ | ⟨f, misleads⟩ | reported
  · rw [judge_of_answers answers] at passing
    cases passing
  · rw [judge_of_misleads misleads] at passing
    cases passing
  · exact reported

namespace Client

variable {c : Client} {x : Binary64} {v : ℚ} {attempt : Nat}

/-- After an attempt that follows 1024 others there is no pause. -/
theorem backoff_eq_error (delay : c.settings.retryDelay.number? = some (.float x))
    (late : 1024 ≤ attempt) : c.backoff attempt = .error integerTooLarge := by
  have power : Number.powerOfTwo attempt = .int (2 ^ attempt : Nat) := by
    rw [← Nat.one_shiftLeft]
    rfl
  rw [backoff, delay, power]
  simp only [Number.product_eq_error x le_rfl late]
  rfl

theorem pause_mono (nonneg : 0 ≤ v) {a b : Nat} (order : a ≤ b) :
    min (v * 2 ^ a) 10 ≤ min (v * 2 ^ b) 10 := by
  have doubled : (2 : ℚ) ^ a ≤ 2 ^ b := pow_le_pow_right₀ one_le_two order
  exact min_le_min (mul_le_mul_of_nonneg_left doubled nonneg) le_rfl

/-- A request that can always be retried, with a delay in floating point, ends after its retries
with a report about it, or after 1024 of them for want of a pause. -/
theorem request_of_retriable {m : Nat} (retries : c.settings.maxRetries.wireInt? = some (m : Int))
    (short : Numeral.IsWritable m) (delay : c.settings.retryDelay.number? = some (.float x))
    (canonical : x.IsCanonical) (value : x.value? = some v) (nonneg : 0 ≤ v) (method : String)
    (params : Value) (w : World Post ClientState)
    (expected : ∀ j, (c.replies w.journal.acts
      (c.postOf (w.state.requests + 1) method params) j).IsExpected)
    (retriable : ∀ j, (c.replies w.journal.acts
      (c.postOf (w.state.requests + 1) method params) j).IsRetriable) :
    ∃ f, (c.request method params w).1 = .error f ∧
      (c.request method params w).2.journal.acts = w.journal.acts ++
        List.replicate (min m 1024 + 1) (c.postOf (w.state.requests + 1) method params) ∧
      (m ≤ 1024 → f.IsRpc) ∧ (1024 < m → f = integerTooLarge) := by
  obtain ⟨pauses, events, posts, delivers⟩ :=
    exists_delivers_of_retries retries short method params w
  have few := delivers.few
  -- Every pause that was made has a length, so there are none beyond those that have one.
  have paused : pauses.length ≤ 1024 := by
    by_contra many
    have length := delivers.lengths 1024 (by omega)
    rw [Nat.zero_add] at length
    cases (backoff_eq_error delay le_rfl).symm.trans length
  rcases delivers.ends with ⟨same, last⟩ | ⟨more, f, failed, same⟩
  · have all : pauses.length = m :=
      last ((judge_isPassing_iff (expected _).isJson).2 (retriable _))
    obtain ⟨f, failed, rpc⟩ := exists_isRpc_of_isRetriable method c.settings.url
      (expected pauses.length) (retriable pauses.length)
    refine ⟨f, ?_, ?_, fun _ => rpc, fun many => by omega⟩
    · rw [same]
      exact failed
    · rw [posts, all, min_eq_left (by omega)]
  · have late : 1024 ≤ pauses.length := by
      by_contra early
      obtain ⟨p, length, -⟩ := exists_backoff delay canonical value nonneg
        (by omega : pauses.length ≤ 1023)
      rw [Nat.zero_add] at failed
      cases length.symm.trans failed
    rw [Nat.zero_add, backoff_eq_error delay late] at failed
    cases failed
    refine ⟨integerTooLarge, same, ?_, fun _ => by omega, fun _ => rfl⟩
    · rw [posts, min_eq_right (by omega), le_antisymm paused late]

/-- A request that can always be retried, but whose number of retries cannot be written, ends when
its second attempt is to be announced. -/
theorem request_of_retriable_of_long {m : Nat}
    (retries : c.settings.maxRetries.wireInt? = some (m : Int)) (long : ¬ Numeral.IsWritable m)
    (delay : c.settings.retryDelay.number? = some (.float x))
    (canonical : x.IsCanonical) (value : x.value? = some v) (nonneg : 0 ≤ v) (method : String)
    (params : Value) (w : World Post ClientState)
    (expected : ∀ j, (c.replies w.journal.acts
      (c.postOf (w.state.requests + 1) method params) j).IsExpected)
    (retriable : ∀ j, (c.replies w.journal.acts
      (c.postOf (w.state.requests + 1) method params) j).IsRetriable) :
    (c.request method params w).1 = .error integerTooLong ∧
      (c.request method params w).2.journal.acts =
        w.journal.acts ++ [c.postOf (w.state.requests + 1) method params] := by
  have unwritten : c.settings.maxRetries.written = .error integerTooLong := by
    rw [Value.written_of_wireInt? retries, if_neg long]
  have many : 0 < m := by
    by_contra none
    exact long (isWritable_of_le (by omega))
  obtain ⟨s, length, -⟩ := exists_backoff delay canonical value nonneg (Nat.zero_le 1023)
  obtain ⟨result, events, run, one, unannounced⟩ := exists_deliver_of_unwritten unwritten method
    (c.postOf (w.state.requests + 1) method params) (c.exhausted method) m (c.begun w)
  have sent : c.request method params w = (result, (c.begun w).extend events) := by
    rw [request_apply, attempts_eq retries]
    exact run
  rw [sent]
  refine ⟨unannounced ((judge_isPassing_iff (expected 0).isJson).2 (retriable 0)) many s length, ?_⟩
  rw [← one]
  exact Journal.acts_append _ _

/-- The pauses of a client whose settings pass the checks, with a delay in floating point that is
not negative.  After each of the first 1024 attempts there is one, between zero and ten seconds and
not shorter than any before; after a later attempt, which the checks do not exclude, there is none.
A request that can always be retried ends after its retries with a report about it or, if there are
more than 1024 of them, after these for want of a pause.  If there are more of them than can be
written, then it ends after its first attempt. -/
theorem backoff_exactly {n : Int} (sound : c.settings.invalid? = .ok none)
    (retries : c.settings.maxRetries.wireInt? = some n)
    (delay : c.settings.retryDelay.number? = some (.float x)) (canonical : x.IsCanonical)
    (value : x.value? = some v) (nonneg : 0 ≤ v) :
    0 ≤ n ∧
    (∀ attempt : Nat, attempt ≤ 1023 → ∃ p s, c.backoff attempt = .ok p ∧ p.value? = some s ∧
      s = min (v * 2 ^ attempt) 10 ∧ 0 ≤ s ∧ s ≤ 10) ∧
    (∀ (a b : Nat) (p q : Number), a ≤ b → c.backoff a = .ok p → c.backoff b = .ok q →
      ∃ s t, p.value? = some s ∧ q.value? = some t ∧ s ≤ t) ∧
    (∀ attempt : Nat, 1024 ≤ attempt → c.backoff attempt = .error integerTooLarge) ∧
    ∀ (method : String) (params : Value) (w : World Post ClientState),
      let post := c.postOf (w.state.requests + 1) method params
      (∀ j, (c.replies w.journal.acts post j).IsExpected) →
      (∀ j, (c.replies w.journal.acts post j).IsRetriable) →
      ∃ f, (c.request method params w).1 = .error f ∧
        (Numeral.IsWritable n → (c.request method params w).2.journal.acts =
            w.journal.acts ++ List.replicate (min n.toNat 1024 + 1) post ∧
          (n ≤ 1024 → f.IsRpc) ∧ (1024 < n → f = integerTooLarge)) ∧
        (¬ Numeral.IsWritable n → (c.request method params w).2.journal.acts =
          w.journal.acts ++ [post] ∧ f = integerTooLong) := by
  have paused {attempt : Nat} (early : attempt ≤ 1023) :=
    exists_backoff delay canonical value nonneg early
  have early {attempt : Nat} {p : Number} (length : c.backoff attempt = .ok p) :
      attempt ≤ 1023 := by
    by_contra late
    cases (backoff_eq_error delay (by omega)).symm.trans length
  obtain ⟨m, rfl⟩ := Int.eq_ofNat_of_zero_le (ConnectionSettings.retries_nonneg sound retries)
  refine ⟨Int.natCast_nonneg m, fun attempt inside => ?_, fun a b p q order first second => ?_,
    fun attempt late => backoff_eq_error delay late, fun method params w => ?_⟩
  · obtain ⟨p, length, exact⟩ := paused inside
    exact ⟨p, _, length, exact, rfl, le_min (by positivity) (by norm_num), min_le_right _ _⟩
  · obtain ⟨p', length, exact⟩ := paused (early first)
    obtain ⟨q', length', exact'⟩ := paused (early second)
    cases length.symm.trans first
    cases length'.symm.trans second
    exact ⟨_, _, exact, exact', pause_mono nonneg order⟩
  · intro post expected retriable
    by_cases short : Numeral.IsWritable m
    · obtain ⟨f, failed, posts, reported, overflow⟩ := request_of_retriable retries short delay
        canonical value nonneg method params w expected retriable
      exact ⟨f, failed, fun _ => ⟨posts, fun few => reported (by omega),
        fun many => overflow (by omega)⟩, fun long => absurd short long⟩
    · obtain ⟨failed, posts⟩ := request_of_retriable_of_long retries short delay canonical value
        nonneg method params w expected retriable
      exact ⟨_, failed, fun short' => absurd short' short, fun _ => ⟨posts, rfl⟩⟩

/-- A client that may retry 2000 times and whose node cannot be reached: the pause after the fourth
attempt lasts eight seconds, and a request ends after 1025 attempts for want of a pause. -/
theorem backoff_exactly_of_unreachable :
    let c : Client :=
      { settings := { url := .text "http://localhost", maxRetries := .int 2000 }
        transport := .scripted [] }
    (∃ p, c.backoff (3 : Nat) = .ok p ∧ p.value? = some 8) ∧
      (c.request "getSlot" .null { state := {} }).1 = .error integerTooLarge ∧
      (c.request "getSlot" .null { state := {} }).2.journal.acts.length = 1025 := by
  intro c
  have one : Binary64.ofRatio false 1 1 = .finite false 0x10000000000000 (-52) := by decide +kernel
  have value : (Binary64.ofRatio false 1 1).value? = some 1 := by
    rw [one, Binary64.value?_finite]
    norm_num [Binary64.signed]
  have lost (past : List Post) (post : Post) (j : Nat) :
      c.replies past post j = .lost (.transport "ConnectError") "no more responses" := rfl
  obtain ⟨-, paused, -, -, ends⟩ := backoff_exactly (c := c) (n := 2000) rfl rfl rfl
    (by rw [one]; decide) value zero_le_one
  obtain ⟨p, s, length, exact, same, -⟩ := paused 3 (by decide)
  obtain ⟨f, failed, short, -⟩ := ends "getSlot" .null { state := {} }
    (fun j => by rw [lost]; exact .lost _ _) (fun j => by rw [lost]; exact .lost _ _)
  obtain ⟨posts, -, overflow⟩ := short (Numeral.isWritable_of_lt (k := 4) (by decide) (by decide))
  refine ⟨⟨p, length, ?_⟩, ?_, ?_⟩
  · rw [exact, same]
    norm_num
  · rw [failed, overflow (by decide)]
  · rw [posts, List.length_append, List.length_replicate]
    rfl

/-- The checks admit 2000 retries, so that there is an attempt before the last one after which
there is no pause. -/
theorem backoff_of_late_attempt :
    let c : Client :=
      { settings := { url := .text "http://localhost:8899", maxRetries := .int 2000 }
        transport := .scripted [] }
    c.settings.invalid? = .ok none ∧ c.settings.maxRetries = .int 2000 ∧ (1024 : Int) < 2000 ∧
      c.backoff (1024 : Nat) = .error integerTooLarge :=
  ⟨rfl, rfl, by decide, backoff_eq_error rfl le_rfl⟩

end Client
end Rpc
end SolanaWire
