import SolanaWire.Proofs.Procedures
import SolanaWire.Proofs.Verdicts
import SolanaWire.Rpc.Client

/-!
# Deliveries

A delivery posts one request until a reply ends it.  What it does is one post, and then a pause and
a post again for each reply that may pass, as long as an attempt is left.  The result is what the
last reply means.
-/
namespace SolanaWire.Rpc

namespace Client

variable {c : Client} {method : String} {post : Post} {last : Failure} {left attempt : Nat}
  {w : World Post ClientState}

/-- The replies to a post that is sent again and again, by their positions. -/
def replies (c : Client) (past : List Post) (post : Post) (position : Nat) : Reply :=
  c.transport (past ++ List.replicate position post) post

/-- The verdict on a reply to a request of a method. -/
def verdict (c : Client) (method : String) (reply : Reply) : Verdict :=
  judge method c.settings.url reply

theorem replies_zero (past : List Post) : c.replies past post 0 = c.transport past post := by
  simp [replies]

theorem replies_append (past : List Post) (position : Nat) :
    c.replies (past ++ [post]) post position = c.replies past post (position + 1) := by
  simp [replies, List.replicate_succ]

/-- The announcement of an attempt: the first one has none. -/
def announcement (c : Client) (method : String) (attempt : Nat) : Journal Post :=
  if 0 < attempt then
    [.logged ⟨.info, .rpcClient,
      s!"Retry attempt {attempt}/{c.settings.maxRetries.display} for {method}"⟩]
  else []

/-- Whether an attempt can be announced: the number of retries can be written, unless it is the
first attempt. -/
def Announces (c : Client) (attempt : Nat) : Prop :=
  0 < attempt → c.settings.maxRetries.written = .ok c.settings.maxRetries.display

theorem announces_zero (c : Client) : c.Announces 0 := fun later => absurd later (Nat.lt_irrefl 0)

theorem announce_apply (announces : c.Announces attempt) :
    c.announce method attempt w = (.ok (), w.extend (c.announcement method attempt)) := by
  unfold announce announcement
  by_cases later : 0 < attempt
  · simp only [later, if_true, announces later]
    rfl
  · simp only [later, if_false, World.extend_nil]
    rfl

/-- An attempt that cannot be announced is not made. -/
theorem deliver_of_unwritten {g : Failure} (unwritten : c.settings.maxRetries.written = .error g)
    (later : 0 < attempt) : c.deliver method post last (left + 1) attempt w = (.error g, w) := by
  have unannounced : c.announce method attempt w = (.error g, w) := by
    unfold announce
    simp only [later, if_true, unwritten]
    rfl
  rw [deliver]
  simp only [Procedure.bind_apply, unannounced]

/-- The attempts of a client can be announced, unless the number of its retries is too long. -/
theorem announces_or_unwritten (c : Client) :
    (∀ attempt, c.Announces attempt) ∨ c.settings.maxRetries.written = .error integerTooLong := by
  unfold Announces Value.written
  cases c.settings.maxRetries.wireInt? with
  | none => exact .inl (fun _ _ => rfl)
  | some n =>
    by_cases short : Numeral.IsWritable n
    · exact .inl (fun _ _ => if_pos short)
    · exact .inr (if_neg short)

/-- What an attempt does. -/
def attemptEvents (c : Client) (method : String) (post : Post) (attempt : Nat) : Journal Post :=
  c.announcement method attempt ++ [.did post]

/-- What a pause does: it is announced. -/
def waitEvents (seconds : Number) (opening closing : String) : Journal Post :=
  [.logged ⟨.warning, .rpcClient, s!"{opening}, retrying in {seconds.text}s: {closing}"⟩,
    .paused (.number seconds)]

theorem acts_announcement : (c.announcement method attempt).acts = [] := by
  unfold announcement
  split <;> rfl

theorem deeds_attemptEvents : (c.attemptEvents method post attempt).deeds = [.did post] := by
  unfold attemptEvents announcement
  split <;> rfl

theorem acts_attemptEvents : (c.attemptEvents method post attempt).acts = [post] := by
  rw [← Journal.acts_deeds, deeds_attemptEvents]
  rfl

theorem acts_waitEvents (seconds : Number) (opening closing : String) :
    (waitEvents seconds opening closing).acts = [] := rfl

theorem deeds_waitEvents (seconds : Number) (opening closing : String) :
    (waitEvents seconds opening closing).deeds = [.paused (.number seconds)] := rfl

/-- One attempt of a delivery. -/
theorem deliver_succ (announces : c.Announces attempt) :
    c.deliver method post last (left + 1) attempt w =
    match c.verdict method (c.replies w.journal.acts post 0) with
    | .answer v => (.ok v, w.extend (c.attemptEvents method post attempt))
    | .standing f => (.error f, w.extend (c.attemptEvents method post attempt))
    | .passing opening closing f =>
      if left = 0 then (.error f, w.extend (c.attemptEvents method post attempt))
      else
        match c.backoff attempt with
        | .ok s => c.deliver method post last left (attempt + 1)
          (w.extend (c.attemptEvents method post attempt ++ waitEvents s opening closing))
        | .error g => (.error g, w.extend (c.attemptEvents method post attempt)) := by
  have sent (w : World Post ClientState) :
      c.send post w = (.ok (c.transport w.journal.acts post), w.extend [.did post]) := rfl
  rw [deliver, replies_zero]
  simp only [Procedure.bind_apply, announce_apply announces, sent, verdict, World.journal_extend,
    Journal.acts_append, acts_announcement, List.append_nil, World.extend_extend, attemptEvents]
  cases judge method c.settings.url (c.transport w.journal.acts post) with
  | answer => rfl
  | standing => rfl
  | passing opening closing f =>
    by_cases none : left = 0
    · simp [none]
    · simp only [none, if_false, wait, Procedure.bind_apply, Procedure.lift_apply]
      cases c.backoff attempt with
      | ok s => simp [waitEvents, World.record_eq_extend]
      | error g => rfl

/-- An attempt whose reply ends the delivery. -/
theorem deliver_of_ends (announces : c.Announces attempt)
    (ends : (c.verdict method (c.replies w.journal.acts post 0)).IsPassing → left = 0) :
    c.deliver method post last (left + 1) attempt w =
      ((c.verdict method (c.replies w.journal.acts post 0)).outcome,
        w.extend (c.attemptEvents method post attempt)) := by
  rw [deliver_succ announces]
  cases judged : c.verdict method (c.replies w.journal.acts post 0) with
  | answer => rfl
  | standing => rfl
  | passing => simp [Verdict.outcome, ends (by simp [judged, Verdict.IsPassing])]

/-- What a delivery does after its start, with `left` attempts left after the first one, given the
replies to its posts: its result, the pauses between its posts, and the events. -/
structure Delivers (c : Client) (method : String) (post : Post) (left attempt : Nat)
    (replies : Nat → Reply) (result : Except Failure Value) (pauses : List Number)
    (events : Journal Post) : Prop where
  deeds : events.deeds = .did post :: pauses.flatMap (fun s => [.paused (.number s), .did post])
  few : pauses.length ≤ left
  passing : ∀ j < pauses.length, (c.verdict method (replies j)).IsPassing
  lengths : ∀ j (inside : j < pauses.length), c.backoff (attempt + j : Nat) = .ok pauses[j]
  /-- The last reply gives the result, unless the pause after it has no length. -/
  ends : result = (c.verdict method (replies pauses.length)).outcome ∧
      ((c.verdict method (replies pauses.length)).IsPassing → pauses.length = left) ∨
    pauses.length < left ∧
      ∃ f, c.backoff (attempt + pauses.length : Nat) = .error f ∧ result = .error f

namespace Delivers

variable {replies : Nat → Reply} {result : Except Failure Value} {pauses : List Number}
  {events : Journal Post}

/-- A delivery that ends with its first reply. -/
theorem single
    (ends : result = (c.verdict method (replies 0)).outcome ∧
        ((c.verdict method (replies 0)).IsPassing → left = 0) ∨
      0 < left ∧ ∃ f, c.backoff attempt = .error f ∧ result = .error f) :
    Delivers c method post left attempt replies result [] (c.attemptEvents method post attempt)
    where
  deeds := deeds_attemptEvents
  few := Nat.zero_le left
  passing j inside := absurd inside (Nat.not_lt_zero j)
  lengths j inside := absurd inside (Nat.not_lt_zero j)
  ends := by simpa [eq_comm] using ends

/-- A delivery that goes on after its first reply. -/
theorem cons {s : Number} {opening closing : String}
    (passing : (c.verdict method (replies 0)).IsPassing) (length : c.backoff attempt = .ok s)
    (tail : Delivers c method post left (attempt + 1) (fun j => replies (j + 1)) result pauses
      events) :
    Delivers c method post (left + 1) attempt replies result (s :: pauses)
      (c.attemptEvents method post attempt ++ waitEvents s opening closing ++ events) where
  deeds := by simp [deeds_attemptEvents, deeds_waitEvents, tail.deeds]
  few := by simpa using tail.few
  passing j inside := by
    cases j with
    | zero => exact passing
    | succ j => exact tail.passing j (by simpa using inside)
  lengths j inside := by
    cases j with
    | zero => exact length
    | succ j =>
      have shifted : attempt + (j + 1) = attempt + 1 + j := by omega
      rw [shifted]
      exact tail.lengths j (by simpa using inside)
  ends := by
    have shifted : attempt + (s :: pauses).length = attempt + 1 + pauses.length := by
      rw [List.length_cons]
      omega
    rw [shifted]
    simpa using tail.ends

end Delivers

/-- Every delivery whose attempts can be announced ends with a reply, or for want of the length of a
pause. -/
theorem exists_delivers (announces : ∀ attempt, c.Announces attempt) (method : String) (post : Post)
    (last : Failure) (left attempt : Nat) (w : World Post ClientState) :
    ∃ result pauses events,
      c.deliver method post last (left + 1) attempt w = (result, w.extend events) ∧
      Delivers c method post left attempt (c.replies w.journal.acts post) result pauses events := by
  induction left generalizing attempt w with
  | zero =>
    exact ⟨_, _, _, deliver_of_ends (announces _) (fun _ => rfl),
      .single (.inl ⟨rfl, fun _ => rfl⟩)⟩
  | succ left ih =>
    by_cases passing : (c.verdict method (c.replies w.journal.acts post 0)).IsPassing
    · obtain ⟨opening, closing, f, judged⟩ := passing.exists_eq
      rw [deliver_succ (announces _), judged]
      simp only [Nat.add_one_ne_zero, if_false]
      cases length : c.backoff attempt with
      | error g => exact ⟨_, _, _, rfl, .single (.inr ⟨Nat.succ_pos left, g, length, rfl⟩)⟩
      | ok s =>
        obtain ⟨result, pauses, events, run, delivers⟩ := ih (attempt + 1)
          (w.extend (c.attemptEvents method post attempt ++ waitEvents s opening closing))
        have later : c.replies (w.journal.acts ++ [post]) post =
            fun j => c.replies w.journal.acts post (j + 1) := funext (replies_append _)
        simp only [World.journal_extend, Journal.acts_append, acts_attemptEvents, acts_waitEvents,
          List.append_nil, later] at delivers
        rw [World.extend_extend] at run
        exact ⟨result, s :: pauses, _, run, delivers.cons passing length⟩
    · exact ⟨_, _, _, deliver_of_ends (announces _) (absurd · passing),
        .single (.inl ⟨rfl, (absurd · passing)⟩)⟩

/-- A delivery whose attempts cannot be announced, but for the first, posts once.  If a pause
follows the reply, then there is no announcement after it. -/
theorem exists_deliver_of_unwritten {g : Failure}
    (unwritten : c.settings.maxRetries.written = .error g) (method : String) (post : Post)
    (last : Failure) (left : Nat) (w : World Post ClientState) :
    ∃ result events, c.deliver method post last (left + 1) 0 w = (result, w.extend events) ∧
      events.acts = [post] ∧ ((c.verdict method (c.replies w.journal.acts post 0)).IsPassing →
        0 < left → ∀ s, c.backoff (0 : Nat) = .ok s → result = .error g) := by
  by_cases ends : (c.verdict method (c.replies w.journal.acts post 0)).IsPassing → left = 0
  · refine ⟨_, _, deliver_of_ends c.announces_zero ends, acts_attemptEvents, ?_⟩
    intro passing more
    exact absurd (ends passing) (Nat.ne_of_gt more)
  obtain ⟨passing, more⟩ := Classical.not_imp.1 ends
  obtain ⟨opening, closing, f, judged⟩ := passing.exists_eq
  rw [deliver_succ c.announces_zero, judged]
  simp only [more, if_false]
  cases length : c.backoff (0 : Nat) with
  | error h => exact ⟨_, _, rfl, acts_attemptEvents, fun _ _ s found => by cases found⟩
  | ok s =>
    obtain ⟨left, rfl⟩ := Nat.exists_eq_succ_of_ne_zero more
    refine ⟨.error g, _, deliver_of_unwritten unwritten (Nat.succ_pos 0), ?_, fun _ _ _ _ => rfl⟩
    rw [Journal.acts_append, acts_attemptEvents, acts_waitEvents, List.append_nil]

/-- While there is an attempt, the failure of having none does not matter. -/
theorem deliver_eq_of_last (announces : ∀ attempt, c.Announces attempt) (last last' : Failure) :
    c.deliver method post last (left + 1) attempt w =
      c.deliver method post last' (left + 1) attempt w := by
  induction left generalizing attempt w with
  | zero =>
    rw [deliver_of_ends (announces _) (fun _ => rfl), deliver_of_ends (announces _) (fun _ => rfl)]
  | succ left ih =>
    rw [deliver_succ (announces _), deliver_succ (announces _)]
    cases c.verdict method (c.replies w.journal.acts post 0) with
    | answer => rfl
    | standing => rfl
    | passing => simp only [Nat.add_one_ne_zero, if_false, ih]

/-- A delivery repeats one post. -/
theorem Delivers.acts_eq {replies : Nat → Reply} {result : Except Failure Value}
    {pauses : List Number} {events : Journal Post}
    (delivers : Delivers c method post left attempt replies result pauses events) :
    events.acts = List.replicate (pauses.length + 1) post := by
  rw [← Journal.acts_deeds, delivers.deeds, List.replicate_succ,
    ← Journal.acts_flatMap_paused post (Value.number ·)]
  rfl

end Client
end SolanaWire.Rpc
