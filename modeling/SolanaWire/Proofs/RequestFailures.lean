import SolanaWire.Proofs.RepeatedCalls
import SolanaWire.Proofs.Request

/-!
# Failures of requests

The body of a response fits if it is an object with an error object, or one with a result and
without an error.  A request that ends with a body that fits, or that is no JSON, or without any,
gives the result or fails with a report about the request.  A body that does not fit is read like
one that does, and then the failure of reading it is that of the request.  So is any failure of the
JSON reader that is not about syntax: that the bytes are no text, say, or a number has too many
digits.
-/
namespace SolanaWire.Rpc

/-- The bodies that do not fit, each with the failure of reading it: what is no object, an object
with an error that is none, and one with neither an error nor a result. -/
inductive Misfit : Value → Failure → Prop
  | shapeless {body : Value} (plain : ∀ fs, body ≠ .record fs) : Misfit body .wrongType
  | error {body : Fields} {e : Value} (found : body.lookup "error" = some e)
      (plain : ∀ error, e ≠ .record error) : Misfit (.record body) .missingAttribute
  | vacant {body : Fields} (accepted : body.lookup "error" = none)
      (missing : body.lookup "result" = none) :
      Misfit (.record body) (.missingKey (.text "result"))

namespace Reply

/-- What may come back for a post: a failure of the transport, or a response with any status, whose
body is the value of a JSON text or cannot be read for any reason. -/
inductive IsExpected : Reply → Prop
  | lost (name message : String) : IsExpected (.lost (.transport name) message)
  | unreadable (status : Int) (kind : ForeignClass) (message : String) :
      IsExpected (.response status (.error (.foreign kind message)))
  | json (status : Int) {body : Value} (json : (Json.text? body).isSome) :
      IsExpected (.response status (.ok body))

/-- A response that is accepted and has a result. -/
inductive Answers : Reply → Value → Prop
  | intro {status : Int} {body : Fields} {v : Value} (accepted : status < 400)
      (plain : body.lookup "error" = none) (found : body.lookup "result" = some v) :
      Answers (.response status (.ok (.record body))) v

/-- A response that is accepted, and has a body that does not fit, or one that cannot be read for
another reason than its syntax. -/
inductive Misleads : Reply → Failure → Prop
  | misfit {status : Int} {body : Value} {f : Failure} (accepted : status < 400)
      (misfit : Misfit body f) : Misleads (.response status (.ok body)) f
  | unreadable {status : Int} {kind : ForeignClass} {message : String} (accepted : status < 400)
      (other : kind ≠ .jsonSyntax) :
      Misleads (.response status (.error (.foreign kind message))) (.foreign kind message)

end Reply

variable {method : String} {endpoint : Value} {reply : Reply} {v : Value} {f : Failure}

theorem Misfit.not_isRpc {body : Value} (misfit : Misfit body f) : ¬ f.IsRpc := by
  rintro ⟨report, reported, -⟩
  cases misfit <;> cases reported

theorem Reply.Misleads.not_isRpc (misleads : reply.Misleads f) : ¬ f.IsRpc := by
  cases misleads with
  | misfit _ misfit => exact misfit.not_isRpc
  | unreadable =>
    rintro ⟨report, reported, -⟩
    cases reported

/-- The class of failures about the syntax of JSON has no special cases. -/
theorem covers_jsonSyntax_iff {kind : ForeignClass} {message : String} :
    (FailureClass.foreign .jsonSyntax).covers (Failure.foreign kind message).fault ↔
      kind = .jsonSyntax := by
  cases kind <;> simp [FailureClass.covers, Failure.foreign, ForeignClass.parent?]

/-- Nothing is found by name in what is no object. -/
theorem entry_eq_error {body : Value} (plain : ∀ fs, body ≠ .record fs) (name : String) :
    entry name body = .error .wrongType := by
  cases body with
  | record fs => exact absurd rfl (plain fs)
  | _ => rfl

theorem mentions_eq_error {name : String} {body : Value} (failed : mentions name body = .error f) :
    f = .wrongType := by
  cases body <;> cases failed <;> rfl

theorem judgeBody_of_misfit {body : Value} (misfit : Misfit body f) :
    judgeBody method endpoint body = .error f := by
  cases misfit with
  | shapeless plain =>
    unfold judgeBody
    cases mentioned : mentions "error" body with
    | error f => rw [mentions_eq_error mentioned, Outcome.error_bind]
    | ok found => cases found <;> simp [entry_eq_error plain]
  | @error _ e found plain =>
    simp only [judgeBody, mentions, entry, found, Outcome.ok_bind, Option.isSome_some, if_true]
    cases e with
    | record error => exact absurd rfl (plain error)
    | _ => rfl
  | vacant accepted missing =>
    simp only [judgeBody, mentions, entry, accepted, missing, Outcome.ok_bind]
    rfl

theorem judgeBody_of_result {body : Fields} (plain : body.lookup "error" = none)
    (found : body.lookup "result" = some v) :
    judgeBody method endpoint (.record body) = .ok (.answer v) := by
  simp only [judgeBody, mentions, entry, plain, found, Outcome.ok_bind]
  rfl

/-- The status of an accepted response is none of those of failures that may pass. -/
theorem not_mem_passingStatuses {status : Int} (accepted : status < 400) :
    status ∉ passingStatuses := by
  have high : ∀ s ∈ passingStatuses, (400 : Int) ≤ s := by decide
  intro member
  have := high status member
  omega

theorem judge_of_judgeBody {status : Int} {body : Value} (accepted : status < 400)
    {verdict : Verdict} (judged : judgeBody method endpoint body = .ok verdict) :
    judge method endpoint (.response status (.ok body)) = verdict := by
  have low : ¬ 400 ≤ status := by omega
  simp only [judge, not_mem_passingStatuses accepted, low, if_false, judged]

theorem judge_of_answers (answers : reply.Answers v) : judge method endpoint reply = .answer v := by
  obtain ⟨accepted, plain, found⟩ := answers
  exact judge_of_judgeBody accepted (judgeBody_of_result plain found)

theorem judge_of_misleads (misleads : reply.Misleads f) :
    judge method endpoint reply = .standing f := by
  cases misleads with
  | misfit accepted misfit =>
    have low : ¬ _ ≤ _ := not_le.2 accepted
    simp only [judge, not_mem_passingStatuses accepted, low, if_false, judgeBody_of_misfit misfit]
  | unreadable accepted other =>
    have low : ¬ _ ≤ _ := not_le.2 accepted
    simp only [judge, not_mem_passingStatuses accepted, low, if_false, covers_jsonSyntax_iff, other]

/-- A report about an error that a node returned is one about a request. -/
theorem reportClass_nodeError {error : Fields} {r : Report}
    (made : nodeError endpoint error = .ok r) : r.facts.reportClass = .rpc := by
  obtain ⟨text, -, same⟩ := Outcome.bind_eq_ok_iff.1 made
  cases same
  rfl

/-- A body is one of an answer, or of an error, or it does not fit. -/
theorem body_cases (body : Value) :
    (∃ fs v, body = .record fs ∧ fs.lookup "error" = none ∧ fs.lookup "result" = some v) ∨
    (∃ fs error, body = .record fs ∧ fs.lookup "error" = some (.record error)) ∨
    ∃ f, Misfit body f := by
  cases body with
  | record fs =>
    cases failed : fs.lookup "error" with
    | none =>
      cases found : fs.lookup "result" with
      | none => exact .inr (.inr ⟨_, .vacant failed found⟩)
      | some v => exact .inl ⟨fs, v, rfl, failed, found⟩
    | some e =>
      cases e with
      | record error => exact .inr (.inl ⟨fs, error, rfl, failed⟩)
      | _ => exact .inr (.inr ⟨_, .error failed (by simp)⟩)
  | _ => exact .inr (.inr ⟨_, .shapeless (by simp)⟩)

/-- What may come back is an answer, or it misleads, or it ends a request with a report about it. -/
theorem outcome_cases (method : String) (endpoint : Value) (expected : reply.IsExpected) :
    (∃ v, reply.Answers v) ∨ (∃ f, reply.Misleads f) ∨
      ∃ f, (judge method endpoint reply).outcome = .error f ∧ f.IsRpc := by
  cases expected with
  | lost name message => exact .inr (.inr ⟨_, rfl, _, rfl, rfl⟩)
  | unreadable status kind message =>
    by_cases misled : status < 400 ∧ kind ≠ .jsonSyntax
    · exact .inr (.inl ⟨_, .unreadable misled.1 misled.2⟩)
    right; right
    unfold judge
    simp only [covers_jsonSyntax_iff]
    split_ifs with passing refused syntactic
    · exact ⟨_, rfl, _, rfl, rfl⟩
    · exact ⟨_, rfl, _, rfl, rfl⟩
    · exact ⟨_, rfl, _, rfl, rfl⟩
    · exact absurd ⟨not_le.1 refused, syntactic⟩ misled
  | @json status body json =>
    by_cases refused : 400 ≤ status
    · right; right
      unfold judge
      simp only [refused, if_true]
      split_ifs <;> exact ⟨_, rfl, _, rfl, rfl⟩
    have accepted : status < 400 := by omega
    rcases body_cases body with ⟨fs, v, rfl, plain, found⟩ | ⟨fs, error, rfl, failed⟩ | ⟨f, misfit⟩
    · exact .inl ⟨v, .intro accepted plain found⟩
    · obtain ⟨r, made⟩ := exists_nodeError endpoint json failed
      right; right
      rw [judge_of_judgeBody accepted (judgeBody_of_error failed made)]
      split_ifs <;> exact ⟨_, rfl, _, rfl, reportClass_nodeError made⟩
    · exact .inr (.inl ⟨f, .misfit accepted misfit⟩)

/-- What an expected reply gives: its result exactly if it is an answer, and a failure that is no
report about the request exactly if it misleads. -/
theorem outcome_exactly (method : String) (endpoint : Value) (expected : reply.IsExpected) :
    (∀ u, (judge method endpoint reply).outcome = .ok u ↔ reply.Answers u) ∧
    (∀ f, (judge method endpoint reply).outcome = .error f → f.IsRpc ∨ reply.Misleads f) ∧
    ∀ f, reply.Misleads f → (judge method endpoint reply).outcome = .error f ∧ ¬ f.IsRpc := by
  have answered {u : Value} (answers : reply.Answers u) :
      (judge method endpoint reply).outcome = .ok u := by
    rw [judge_of_answers answers]
    rfl
  have misled {f : Failure} (misleads : reply.Misleads f) :
      (judge method endpoint reply).outcome = .error f := by
    rw [judge_of_misleads misleads]
    rfl
  refine ⟨fun u => ⟨fun given => ?_, answered⟩, fun f given => ?_,
    fun f misleads => ⟨misled misleads, misleads.not_isRpc⟩⟩
  · rcases outcome_cases method endpoint expected with
      ⟨v, answers⟩ | ⟨f, misleads⟩ | ⟨f, failed, -⟩
    · cases (answered answers).symm.trans given
      exact answers
    · cases (misled misleads).symm.trans given
    · cases failed.symm.trans given
  · rcases outcome_cases method endpoint expected with
      ⟨v, answers⟩ | ⟨g, misleads⟩ | ⟨g, failed, rpc⟩
    · cases (answered answers).symm.trans given
    · cases (misled misleads).symm.trans given
      exact .inr misleads
    · cases failed.symm.trans given
      exact .inl rpc

namespace Client

variable {c : Client} {m : Nat}

/-- A request all of whose pauses have a length ends with what its last reply means. -/
theorem exists_last_of_backoff (retries : c.settings.maxRetries.wireInt? = some (m : Int))
    (short : Numeral.IsWritable m) (paused : ∀ j < m, ∃ s, c.backoff (j : Nat) = .ok s)
    (method : String) (params : Value) (w : World Post ClientState) :
    let post := c.postOf (w.state.requests + 1) method params
    ∃ n : Nat,
      (c.request method params w).2.journal.acts =
        w.journal.acts ++ List.replicate (n + 1) post ∧
      (c.request method params w).1 =
        (c.verdict method (c.replies w.journal.acts post n)).outcome := by
  intro post
  obtain ⟨pauses, events, posts, delivers⟩ :=
    exists_delivers_of_retries retries short method params w
  refine ⟨pauses.length, posts, ?_⟩
  rcases delivers.ends with ⟨same, -⟩ | ⟨more, f, failed, -⟩
  · exact same
  · obtain ⟨s, length⟩ := paused pauses.length more
    rw [Nat.zero_add] at failed
    cases length.symm.trans failed

/-- The end of a request, whatever its replies are.  It gives a result exactly if the last reply is
accepted and has that result.  It fails with a report about the request or, exactly if the last
reply is accepted and has a body that does not fit or cannot be read for another reason than its
syntax, with the failure of reading that body, which is no such report.  There are at most 1024
retries, and the delay is a number that is not negative. -/
theorem request_ends_exactly {d : Number} {v : ℚ}
    (retries : c.settings.maxRetries.wireInt? = some (m : Int)) (bounded : m ≤ 1024)
    (delay : c.settings.retryDelay.number? = some d) (canonical : d.IsCanonical)
    (value : d.value? = some v) (nonneg : 0 ≤ v)
    (expected : ∀ past post, (c.transport past post).IsExpected) (method : String)
    (params : Value) (w : World Post ClientState) :
    let post := c.postOf (w.state.requests + 1) method params
    let result := (c.request method params w).1
    ∃ n : Nat,
      (c.request method params w).2.journal.acts =
        w.journal.acts ++ List.replicate (n + 1) post ∧
      (∀ u, result = .ok u ↔ (c.replies w.journal.acts post n).Answers u) ∧
      (∀ f, result = .error f → f.IsRpc ∨ (c.replies w.journal.acts post n).Misleads f) ∧
      ∀ f, (c.replies w.journal.acts post n).Misleads f → result = .error f ∧ ¬ f.IsRpc := by
  intro post result
  have paused (j : Nat) (early : j < m) : ∃ s, c.backoff (j : Nat) = .ok s :=
    (exists_backoff delay canonical value nonneg (by omega : j ≤ 1023)).imp
      fun s length => length.1
  obtain ⟨n, posts, outcome⟩ :=
    exists_last_of_backoff retries (isWritable_of_le bounded) paused method params w
  refine ⟨n, posts, ?_⟩
  rw [show result = _ from outcome]
  exact outcome_exactly method c.settings.url (expected _ post)

/-- A request that is answered, after a busy node, by a body whose error is no object: the failure
of reading it is that of the request. -/
theorem request_ends_exactly_of_nullError :
    let c : Client :=
      { settings := { url := .text "http://localhost" }
        transport := .scripted
          [.response 503 (.error (.foreign .jsonSyntax "busy")),
            .response 200 (.ok (.record [("error", .null), ("result", .int 7)]))] }
    (c.request "getSlot" .null { state := {} }).1 = .error .missingAttribute ∧
      ¬ Failure.missingAttribute.IsRpc := by
  intro c
  have one : Binary64.ofRatio false 1 1 = .finite false 0x10000000000000 (-52) := by decide +kernel
  have value : (Number.float (.ofRatio false 1 1)).value? = some 1 := by
    rw [one, Number.value?, Binary64.value?_finite]
    norm_num [Binary64.signed]
  have expected (past : List Post) (post : Post) : (c.transport past post).IsExpected := by
    rcases past with _ | ⟨_, _ | ⟨_, past⟩⟩
    · exact .unreadable 503 .jsonSyntax "busy"
    · exact .json 200 rfl
    · exact .lost "ConnectError" "no more responses"
  obtain ⟨n, acts, -, -, misled⟩ :=
    request_ends_exactly (c := c) (m := 3) rfl (by decide) rfl
      (by rw [one, Number.IsCanonical]; decide) value zero_le_one expected "getSlot" .null
      { state := {} }
  have two : (c.request "getSlot" .null { state := {} }).2.journal.acts.length = 2 := by
    decide +kernel
  rw [acts] at two
  obtain rfl : n = 1 := by simpa [Journal.acts] using two
  exact misled _ (.misfit (by decide) (.error (e := .null) rfl (by simp)))

/-- A body with neither an error nor a result, as an accepted response may have: the request fails,
and not with a report about it. -/
theorem request_of_vacant_body :
    let c : Client :=
      { settings := { url := .text "http://localhost:8899", maxRetries := .int 2 }
        transport := .scripted
          [.response 200 (.ok (.record [("jsonrpc", .text "2.0"), ("id", .int 1)]))] }
    (c.request "getSlot" .null { state := {} }).1 = .error (.missingKey (.text "result")) ∧
      ¬ (Failure.missingKey (.text "result")).IsRpc :=
  have misfit : Misfit (.record [("jsonrpc", .text "2.0"), ("id", .int 1)]) _ := .vacant rfl rfl
  ⟨rfl, misfit.not_isRpc⟩

end Client
end SolanaWire.Rpc
