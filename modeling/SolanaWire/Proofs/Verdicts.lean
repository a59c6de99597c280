import SolanaWire.Proofs.Outcome
import SolanaWire.Rpc.Exchange

/-!
# Verdicts

A reply is that of a failure that may pass if and only if it can be retried: the transport failed,
or the status is one of six, or a node reports that it limits the rate of requests.
-/
namespace SolanaWire

/-- Each field of a record that has a JSON text has one. -/
theorem Json.isSome_text?_of_lookup {fs : Fields} {name : String} {v : Value}
    (json : (text? (.record fs)).isSome) (found : fs.lookup name = some v) :
    (text? v).isSome := by
  obtain ⟨text, written⟩ := Option.isSome_iff_exists.1 json
  simp only [text?, Option.pure_def, Option.bind_eq_bind] at written
  obtain ⟨texts, fields, -⟩ := Option.bind_eq_some_iff.1 written
  clear json written
  induction fs generalizing texts with
  | nil => cases found
  | cons f fs ih =>
    obtain ⟨other, u⟩ := f
    simp only [fieldTexts?, Option.pure_def, Option.bind_eq_bind] at fields
    obtain ⟨t, head, fields⟩ := Option.bind_eq_some_iff.1 fields
    obtain ⟨ts, tail, -⟩ := Option.bind_eq_some_iff.1 fields
    rw [List.lookup_cons] at found
    split at found
    · cases found
      simp [head]
    · exact ih found ts tail

namespace Rpc
open Outcome

variable {method : String} {endpoint : Value}

namespace Verdict

/-- The result of a request that ends with a verdict. -/
def outcome : Verdict → Except Failure Value
  | answer result => .ok result
  | passing _ _ failure => .error failure
  | standing failure => .error failure

/-- Whether a verdict is that of a failure that may pass. -/
def IsPassing : Verdict → Prop
  | passing .. => True
  | _ => False

theorem IsPassing.exists_eq {v : Verdict} (passing : v.IsPassing) :
    ∃ opening closing f, v = .passing opening closing f := by
  cases v with
  | passing opening closing f => exact ⟨opening, closing, f, rfl⟩
  | _ => cases passing

end Verdict

/-- A reply whose body, if it could be read, is the value of a JSON text. -/
def Reply.IsJson : Reply → Prop
  | .response _ (.ok body) => (Json.text? body).isSome
  | _ => True

/-- The bodies with the error of a node that limits the rate of requests. -/
inductive IsRateLimit : Value → Prop
  | intro {body error : Fields} {code : Value}
      (failed : body.lookup "error" = some (.record error))
      (known : error.lookup "code" = some code) (limited : code.eqv (.int (-32005))) :
      IsRateLimit (.record body)

/-- The replies after which a request can be retried. -/
inductive Reply.IsRetriable : Reply → Prop
  | lost (name message : String) : IsRetriable (.lost (.transport name) message)
  | status {status : Int} (body : Except Failure Value)
      (passing : status ∈ [408, 429, 500, 502, 503, 504]) : IsRetriable (.response status body)
  | limited {status : Int} {body : Value} (accepted : status < 400) (limited : IsRateLimit body) :
      IsRetriable (.response status (.ok body))

theorem isRateLimit_iff {body error : Fields}
    (failed : body.lookup "error" = some (.record error)) :
    IsRateLimit (.record body) ↔
      ((error.lookup "code").getD .null).eqv (.int rateLimitCode) := by
  constructor
  · rintro ⟨failed', known, limited⟩
    cases failed.symm.trans failed'
    rw [known]
    exact limited
  · intro limited
    cases known : error.lookup "code" with
    | none =>
      rw [known] at limited
      cases limited
    | some code =>
      rw [known] at limited
      exact ⟨failed, known, limited⟩

/-- The error in a body that is the value of a JSON text has a report. -/
theorem exists_nodeError (endpoint : Value) {body error : Fields}
    (json : (Json.text? (.record body)).isSome)
    (failed : body.lookup "error" = some (.record error)) :
    ∃ r, nodeError endpoint error = .ok r := by
  have inner := Json.isSome_text?_of_lookup json failed
  unfold nodeError dataText
  cases data : error.lookup "data" with
  | none => exact ⟨_, rfl⟩
  | some v =>
    obtain ⟨text, written⟩ := Option.isSome_iff_exists.1 (Json.isSome_text?_of_lookup inner data)
    simp only [written]
    exact ⟨_, rfl⟩

theorem entry_eq_ok_iff {name : String} {body v : Value} :
    entry name body = .ok v ↔ ∃ fs, body = .record fs ∧ fs.lookup name = some v := by
  cases body with
  | record fs =>
    simp only [entry, Value.record.injEq, exists_eq_left']
    split <;> simp [*]
  | _ => simp [entry]

/-- What a body with an error object means. -/
theorem judgeBody_of_error {body error : Fields}
    (failed : body.lookup "error" = some (.record error)) {r : Report}
    (made : nodeError endpoint error = .ok r) :
    judgeBody method endpoint (.record body) =
      .ok (if ((error.lookup "code").getD .null).eqv (.int rateLimitCode) then
        .passing "Rate limited" method (.report r) else .standing (.report r)) := by
  simp only [judgeBody, mentions, entry, failed, made, ok_bind, Option.isSome_some, if_true]
  split <;> rfl

/-- A body without an error object is not that of a failure that may pass. -/
theorem not_isPassing_of_judgeBody {body : Value} {v : Verdict}
    (plain : ∀ fs error, body = .record fs → fs.lookup "error" ≠ some (.record error))
    (judged : judgeBody method endpoint body = .ok v) : ¬ v.IsPassing := by
  unfold judgeBody at judged
  obtain ⟨found, -, judged⟩ := bind_eq_ok_iff.1 judged
  cases found with
  | false =>
    obtain ⟨result, -, judged⟩ := bind_eq_ok_iff.1 judged
    cases judged
    exact id
  | true =>
    obtain ⟨e, present, judged⟩ := bind_eq_ok_iff.1 judged
    obtain ⟨fs, rfl, found⟩ := entry_eq_ok_iff.1 present
    cases e with
    | record error => exact absurd found (plain fs error rfl)
    | _ => cases judged

theorem judgeBody_isPassing_iff (method : String) (endpoint : Value) {body : Value}
    (json : (Json.text? body).isSome) :
    (∃ v, judgeBody method endpoint body = .ok v ∧ v.IsPassing) ↔ IsRateLimit body := by
  by_cases failed : ∃ fs error, body = .record fs ∧ fs.lookup "error" = some (.record error)
  · obtain ⟨fs, error, rfl, failed⟩ := failed
    obtain ⟨r, made⟩ := exists_nodeError endpoint json failed
    rw [judgeBody_of_error failed made, isRateLimit_iff failed]
    split
    · simp [Verdict.IsPassing, *]
    · simp [Verdict.IsPassing, *]
  · refine iff_of_false ?_ ?_
    · rintro ⟨v, judged, passing⟩
      exact not_isPassing_of_judgeBody (fun fs error same found => failed ⟨fs, error, same, found⟩)
        judged passing
    · rintro ⟨found, -, -⟩
      exact failed ⟨_, _, rfl, found⟩

/-- With another status than those of failures that may pass, only a rate limit can be retried. -/
theorem isRetriable_response_iff {status : Int} {body : Except Failure Value}
    (other : status ∉ passingStatuses) :
    (Reply.response status body).IsRetriable ↔
      status < 400 ∧ ∃ b, body = .ok b ∧ IsRateLimit b := by
  constructor
  · intro retriable
    cases retriable with
    | status _ passing => exact absurd passing other
    | limited accepted limited => exact ⟨accepted, _, rfl, limited⟩
  · rintro ⟨accepted, b, rfl, limited⟩
    exact .limited accepted limited

/-- The verdict on a reply is that of a failure that may pass if and only if it can be retried. -/
theorem judge_isPassing_iff {reply : Reply} (json : reply.IsJson) :
    (judge method endpoint reply).IsPassing ↔ reply.IsRetriable := by
  cases reply with
  | lost kind message =>
    cases kind with
    | transport name => exact iff_of_true trivial (.lost name message)
    | _ => exact iff_of_false id (fun retriable => by cases retriable)
  | response status body =>
    by_cases passing : status ∈ passingStatuses
    · exact iff_of_true (by simp [judge, passing, Verdict.IsPassing]) (.status body passing)
    rw [isRetriable_response_iff passing]
    by_cases refused : 400 ≤ status
    · refine iff_of_false ?_ (fun h => ?_)
      · simp [judge, passing, refused, Verdict.IsPassing]
      · omega
    cases body with
    | error failure =>
      refine iff_of_false ?_ (fun ⟨_, b, read, _⟩ => by cases read)
      simp only [judge, passing, refused, if_false]
      split <;> exact id
    | ok b =>
      have accepted : status < 400 := by omega
      simp only [Except.ok.injEq, exists_eq_left', accepted, true_and]
      rw [← judgeBody_isPassing_iff method endpoint json]
      simp only [judge, passing, refused, if_false]
      cases judgeBody method endpoint b with
      | ok v => simp
      | error f => simp [Verdict.IsPassing]

end Rpc
end SolanaWire
