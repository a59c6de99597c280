import SolanaWire.Proofs.Backoff
import SolanaWire.Proofs.Delivery
import SolanaWire.Proofs.FirstPosition

/-!
# Requests

A request is posted until a reply comes after which it cannot be retried, but at most once more than
its retries.  The posts of a request are all the same, and their number is that of the request among
all requests of the client.
-/
namespace SolanaWire.Rpc

/-- The position of the first reply after which a request cannot be retried; infinite if there is
none. -/
noncomputable def firstSettling (replies : Nat → Reply) : ℕ∞ :=
  firstPosition (fun j => ¬ (replies j).IsRetriable)

theorem firstSettling_le {replies : Nat → Reply} {n : Nat} (settles : ¬ (replies n).IsRetriable) :
    firstSettling replies ≤ n := firstPosition_le settles

theorem le_firstSettling {replies : Nat → Reply} {n : Nat}
    (retriable : ∀ j < n, (replies j).IsRetriable) : (n : ℕ∞) ≤ firstSettling replies :=
  le_firstPosition (fun j early settles => settles (retriable j early))

/-- A run that goes on while it can be retried, but at most `m` times, ends at the first reply after
which it cannot, or after `m` retries. -/
theorem add_one_eq_min {replies : Nat → Reply} {n m : Nat} (few : n ≤ m)
    (retriable : ∀ j < n, (replies j).IsRetriable) (ends : (replies n).IsRetriable → n = m) :
    ((n + 1 : Nat) : ℕ∞) = min (firstSettling replies + 1) ((m + 1 : Nat) : ℕ∞) :=
  add_one_eq_min_firstPosition few (fun j early settles => settles (retriable j early))
    (fun retries => ends (not_not.1 retries))

namespace Client

variable {c : Client} {method : String} {params : Value} {w : World Post ClientState}

/-- The post of a request with its number. -/
def postOf (c : Client) (number : Nat) (method : String) (params : Value) : Post :=
  ⟨c.settings.url, headers, payload number method params⟩

/-- The world in which a request has its number and a connection. -/
def begun (c : Client) (w : World Post ClientState) : World Post ClientState :=
  { w with
    state :=
      { w.state with
        connection := w.state.connection <|> some (.opened c.settings.requestTimeout)
        requests := w.state.requests + 1 } }

theorem request_apply : c.request method params w =
    match c.attempts with
    | .ok n => c.deliver method (c.postOf (w.state.requests + 1) method params)
      (c.exhausted method) n 0 (c.begun w)
    | .error f => (.error f, c.begun w) := by
  have connected (w : World Post ClientState) : c.connect w = (.ok (), { w with
      state := { w.state with
        connection := w.state.connection <|> some (.opened c.settings.requestTimeout) } }) := rfl
  have numbered (w : World Post ClientState) : nextNumber w = (.ok (w.state.requests + 1), { w with
      state := { w.state with requests := w.state.requests + 1 } }) := rfl
  simp only [request, Procedure.bind_apply, Procedure.lift_apply, connected, numbered]
  cases c.attempts with
  | ok n => rfl
  | error f => rfl

theorem attempts_eq {m : Nat} (retries : c.settings.maxRetries.wireInt? = some (m : Int)) :
    c.attempts = .ok (m + 1) := by
  unfold attempts
  rw [retries]
  rfl

/-- A request whose first reply is an answer. -/
theorem request_of_answer {left : Nat} {v : Value} (attempts : c.attempts = .ok (left + 1))
    (answer : c.verdict method (c.replies w.journal.acts
      (c.postOf (w.state.requests + 1) method params) 0) = .answer v) :
    (c.request method params w).1 = .ok v := by
  have same : (c.begun w).journal = w.journal := rfl
  simp only [request_apply, attempts]
  rw [deliver_of_ends c.announces_zero, same, answer]
  · rfl
  · rw [same, answer]
    exact False.elim

/-- Whatever becomes of a request, it counts once, and it repeats one post; if it has a result, then
it was posted. -/
theorem exists_request (c : Client) (method : String) (params : Value)
    (w : World Post ClientState) :
    ∃ (result : Except Failure Value) (events : Journal Post) (n : Nat),
      c.request method params w = (result, (c.begun w).extend events) ∧
      events.acts = List.replicate n (c.postOf (w.state.requests + 1) method params) ∧
      ∀ v, result = .ok v → 0 < n := by
  rw [request_apply]
  cases c.attempts with
  | error f => exact ⟨_, [], 0, by rw [World.extend_nil], rfl, fun v none => by cases none⟩
  | ok attempts =>
    cases attempts with
    | zero =>
      exact ⟨.error (c.exhausted method), [], 0, by rw [World.extend_nil]; rfl, rfl,
        fun v none => by cases none⟩
    | succ left =>
      rcases c.announces_or_unwritten with announces | unwritten
      · obtain ⟨result, pauses, events, run, delivers⟩ := exists_delivers announces method
          (c.postOf (w.state.requests + 1) method params) (c.exhausted method) left 0 (c.begun w)
        exact ⟨result, events, pauses.length + 1, run, delivers.acts_eq, fun _ _ => Nat.succ_pos _⟩
      · obtain ⟨result, events, run, one, -⟩ := exists_deliver_of_unwritten unwritten method
          (c.postOf (w.state.requests + 1) method params) (c.exhausted method) left (c.begun w)
        exact ⟨result, events, 1, run, one, fun _ _ => one_pos⟩

theorem isWritable_of_le {m : Nat} (bounded : m ≤ 1024) : Numeral.IsWritable m :=
  Numeral.isWritable_of_lt (k := 4) (Nat.lt_of_le_of_lt bounded (by decide)) (by decide)

/-- Attempts are announced if the number of retries can be written. -/
theorem announces_of_short {m : Nat} (retries : c.settings.maxRetries.wireInt? = some (m : Int))
    (short : Numeral.IsWritable m) (attempt : Nat) : c.Announces attempt := fun _ => by
  rw [Value.written_of_wireInt? retries, if_pos short]

/-- A request with some number of retries is a delivery of its post. -/
theorem exists_delivers_of_retries {m : Nat}
    (retries : c.settings.maxRetries.wireInt? = some (m : Int)) (short : Numeral.IsWritable m)
    (method : String) (params : Value) (w : World Post ClientState) :
    let post := c.postOf (w.state.requests + 1) method params
    ∃ pauses events,
      (c.request method params w).2.journal.acts =
        w.journal.acts ++ List.replicate (pauses.length + 1) post ∧
      Delivers c method post m 0 (c.replies w.journal.acts post) (c.request method params w).1
        pauses events := by
  intro post
  obtain ⟨result, pauses, events, run, delivers⟩ :=
    exists_delivers (announces_of_short retries short) method post (c.exhausted method) m 0
      (c.begun w)
  have sent : c.request method params w = (result, (c.begun w).extend events) := by
    rw [request_apply, attempts_eq retries]
    exact run
  refine ⟨pauses, events, ?_, ?_⟩
  · rw [sent, ← delivers.acts_eq]
    exact Journal.acts_append _ _
  · rw [sent]
    exact delivers

/-- The world after a sequence of requests. -/
def after (c : Client) (earlier : List (String × Value)) (start : World Post ClientState) :
    World Post ClientState :=
  earlier.foldl (fun w r => (c.request r.1 r.2 w).2) start

/-- The requests of a client are counted. -/
theorem requests_after (c : Client) (earlier : List (String × Value))
    (start : World Post ClientState) :
    (c.after earlier start).state.requests = start.state.requests + earlier.length := by
  induction earlier generalizing start with
  | nil => rfl
  | cons r earlier ih =>
    obtain ⟨result, events, n, run, -⟩ := c.exists_request r.1 r.2 start
    have one : (c.request r.1 r.2 start).2.state.requests = start.state.requests + 1 := by
      rw [run]
      rfl
    rw [after, List.foldl_cons, ← after, ih, one, List.length_cons]
    omega

/-- A request after any sequence of earlier ones posts once, and then once more after each pause,
until a reply comes after which it cannot be retried, or its retries are used up.  All its posts are
the same, with the number of the request.  The pauses double up to ten seconds, and the last reply
alone gives the result: there is always an attempt left for it, so the failure of having none does
not matter.  Bodies are values of JSON texts, and a delay in floating point is in the form that the
operations give. -/
theorem request_exactly {c : Client} {m : Nat} {d : Number} {v : ℚ}
    (retries : c.settings.maxRetries.wireInt? = some (m : Int)) (bounded : m ≤ 1024)
    (delay : c.settings.retryDelay.number? = some d) (canonical : d.IsCanonical)
    (value : d.value? = some v) (nonneg : 0 ≤ v)
    (json : ∀ past post, (c.transport past post).IsJson)
    (start : World Post ClientState) (fresh : start.state.requests = 0)
    (earlier : List (String × Value)) (method : String) (params : Value) :
    let w := c.after earlier start
    let post := c.postOf (earlier.length + 1) method params
    let replies := c.replies w.journal.acts post
    ∃ (pauses : List Number) (events : Journal Post),
      c.request method params w =
        ((judge method c.settings.url (replies pauses.length)).outcome,
          (c.begun w).extend events) ∧
      events.deeds = .did post :: pauses.flatMap (fun s => [.paused (.number s), .did post]) ∧
      events.acts = List.replicate (pauses.length + 1) post ∧
      post.payload.field? "id" = some (.int (earlier.length + 1 : Nat)) ∧
      (c.begun w).state.requests = earlier.length + 1 ∧
      ((pauses.length + 1 : Nat) : ℕ∞) = min (firstSettling replies + 1) ((m + 1 : Nat) : ℕ∞) ∧
      (∀ j (inside : j < pauses.length), pauses[j].value? = some (min (v * 2 ^ j) 10)) ∧
      ∀ last, c.deliver method post last (m + 1) 0 (c.begun w) = c.request method params w := by
  intro w post replies
  have number : w.state.requests = earlier.length := by
    rw [requests_after, fresh, Nat.zero_add]
  have sent : c.request method params w =
      c.deliver method post (c.exhausted method) (m + 1) 0 (c.begun w) := by
    rw [request_apply, attempts_eq retries, number]
  have announces := announces_of_short retries (isWritable_of_le bounded)
  obtain ⟨result, pauses, events, run, delivers⟩ :=
    exists_delivers announces method post (c.exhausted method) m 0 (c.begun w)
  have retriable (j : Nat) :
      (c.verdict method (replies j)).IsPassing ↔ (replies j).IsRetriable :=
    judge_isPassing_iff (json _ _)
  have paused (j : Nat) (early : j ≤ 1023) :
      ∃ p, c.backoff (0 + j : Nat) = .ok p ∧ p.value? = some (min (v * 2 ^ j) 10) := by
    rw [Nat.zero_add]
    exact exists_backoff delay canonical value nonneg early
  have ends : result = (c.verdict method (replies pauses.length)).outcome ∧
      ((c.verdict method (replies pauses.length)).IsPassing → pauses.length = m) := by
    rcases delivers.ends with ends | ⟨more, f, failed, -⟩
    · exact ends
    · obtain ⟨p, length, -⟩ := paused pauses.length (by omega)
      cases length.symm.trans failed
  refine ⟨pauses, events, ?_, delivers.deeds, delivers.acts_eq, rfl, ?_, ?_, ?_, ?_⟩
  · rw [sent, run, ends.1]
    rfl
  · rw [← number]
    rfl
  · exact add_one_eq_min delivers.few (fun j inside => (retriable j).1 (delivers.passing j inside))
      (fun last => ends.2 ((retriable _).2 last))
  · intro j inside
    have few := delivers.few
    obtain ⟨p, length, exact⟩ := paused j (by omega)
    cases length.symm.trans (delivers.lengths j inside)
    exact exact
  · intro last
    rw [sent]
    exact deliver_eq_of_last announces last _

/-- A request that is answered after a busy node and a lost connection, following another one. -/
theorem request_exactly_of_script :
    let c : Client :=
      { settings := { url := .text "http://localhost" }
        transport := .scripted
          [.response 200 (.ok (.record [("result", .text "ok")])),
            .response 503 (.error (.foreign .jsonSyntax "busy")),
            .lost (.transport "ReadTimeout") "",
            .response 200 (.ok (.record [("result", .int 7)]))] }
    let w := c.after [("getHealth", .null)] { state := {} }
    let post := c.postOf 2 "getSlot" .null
    ∃ (pauses : List Number) (events : Journal Post),
      c.request "getSlot" .null w = (.ok (.int 7), (c.begun w).extend events) ∧
      events.acts = [post, post, post] ∧ pauses.map Number.value? = [some 1, some 2] ∧
      events.deeds = .did post :: pauses.flatMap (fun s => [.paused (.number s), .did post]) := by
  intro c w post
  have one : Binary64.ofRatio false 1 1 = .finite false 0x10000000000000 (-52) := by decide +kernel
  have value : (Number.float (.ofRatio false 1 1)).value? = some 1 := by
    rw [one, Number.value?, Binary64.value?_finite]
    norm_num [Binary64.signed]
  have json (past : List Post) (post : Post) : (c.transport past post).IsJson := by
    rcases past with _ | ⟨_, _ | ⟨_, _ | ⟨_, _ | ⟨_, past⟩⟩⟩⟩
    · rfl
    · trivial
    · trivial
    · rfl
    · trivial
  have earlier : (c.after [("getHealth", .null)] { state := {} }).journal.acts =
      [c.postOf 1 "getHealth" .null] := rfl
  obtain ⟨pauses, events, ran, deeds, acts, -, -, count, lengths, -⟩ :=
    request_exactly (c := c) (m := 3) rfl (by decide) rfl
      (by rw [one, Number.IsCanonical]; decide) value zero_le_one
      json { state := {} } rfl [("getHealth", .null)] "getSlot" .null
  rw [earlier] at ran count
  have settles : ¬ (c.replies [c.postOf 1 "getHealth" .null] post 2).IsRetriable := by
    intro retriable
    rcases retriable with _ | ⟨_, member⟩ | ⟨_, ⟨failed, -, -⟩⟩
    · exact absurd member (by decide)
    · cases failed
  have third : firstSettling (c.replies [c.postOf 1 "getHealth" .null] post) = (2 : Nat) := by
    refine le_antisymm (firstSettling_le settles) (le_firstSettling (fun j early => ?_))
    rcases j with _ | _ | j
    · exact .status (.error (.foreign .jsonSyntax "busy")) (by decide)
    · exact .lost "ReadTimeout" ""
    · omega
  have posts : ((pauses.length + 1 : Nat) : ℕ∞) = (3 : Nat) := by
    refine count.trans ?_
    change min (firstSettling (c.replies [c.postOf 1 "getHealth" .null] post) + 1) _ = _
    rw [third]
    rfl
  have two : pauses.length = 2 := Nat.succ_injective (Nat.cast_injective posts)
  obtain ⟨p, q, rfl⟩ := List.length_eq_two.1 two
  have first := lengths 0 (by simp)
  have second := lengths 1 (by simp)
  norm_num at first second
  exact ⟨[p, q], events, ran, acts, by rw [List.map, List.map, first, second]; rfl, deeds⟩

end Client
end SolanaWire.Rpc
