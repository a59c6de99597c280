import SolanaWire.Proofs.History
import SolanaWire.Proofs.Request

/-!
# Paging

A history is fetched by requests that differ only in the signature before which they start.  When
a node answers them, what is left after a full page is what the next request asks for, so the pages
make up the range that was asked for, and one more request than there are full pages finds its end.
-/
namespace SolanaWire

theorem compared_lt_int (m n : Int) :
    compared ((Value.int m).lt? (.int n)) = .ok (decide (m < n)) := by
  have order : (Number.int m).lt (.int n) = decide (m < n) := by
    rw [Bool.eq_iff_iff, decide_eq_true_eq]
    simp [Number.lt, Number.compare?, Int.compare_eq_lt]
  exact congrArg Except.ok order

theorem compared_le_int (m n : Int) :
    compared ((Value.int m).le? (.int n)) = .ok (decide (m ≤ n)) := by
  have order : (Number.int m).le (.int n) = decide (m ≤ n) := by
    rw [Bool.eq_iff_iff, decide_eq_true_eq]
    simp [Number.le, Number.lt, Number.compare?, Int.compare_eq_lt, Int.le_iff_lt_or_eq]
  exact congrArg Except.ok order

/-- The sizes of pages. -/
theorem isPageSize_eq (n : Int) : isPageSize (.int n) = .ok (decide (1 ≤ n ∧ n ≤ 1000)) := by
  have order : (decide (0 < n) && decide (n ≤ 1000)) = decide (1 ≤ n ∧ n ≤ 1000) := by
    rw [Bool.decide_and]
    congr
  simp only [isPageSize, compared_lt_int, compared_le_int, Outcome.ok_bind, signatureLimit]
  rw [← order]
  rfl

theorem isPageSize_int {size : Nat} (positive : 1 ≤ size) (bounded : size ≤ 1000) :
    isPageSize (.int size) = .ok true := by
  rw [isPageSize_eq, decide_eq_true (by omega)]

namespace Rpc

/-- A text that may be absent. -/
def optionalText : Option String → Value
  | none => .null
  | some s => .text s

/-- The options of a request for a page of a history. -/
def pageOptions (commitment : String) (limit : Nat) (stop before : Option String) : Fields :=
  [("commitment", .text commitment), ("limit", .int limit)] ++
    boundField "before" (optionalText before) ++ boundField "until" (optionalText stop)

/-- The signature before which a page starts: that of the last entry of the page before. -/
def cursor (limit : Nat) (before : Option String) (found : List Value) :
    (page : Nat) → Option String
  | 0 => before
  | page + 1 => found[page * limit + (limit - 1)]?.bind signature?

namespace Client

/-- The parameters of a request for the signatures of an address. -/
def signatureParams (address : Value) (options : Fields) : Value :=
  .list [.text address.display, .record options]

/-- From a world on, whatever is requested before, requests for the signatures of an address are
answered by a node with a history. -/
def Serves (c : Client) (address : Value) (entries : List Value) (w : World Post ClientState) :
    Prop :=
  ∀ (earlier : List (String × Value)) (options : Fields) (limit : Nat),
    (∃ level ∈ listedCommitments, options.lookup "commitment" = some (.text level)) →
    options.lookup "limit" = some (.int limit) → 1 ≤ limit → limit ≤ 1000 →
    (c.request "getSignaturesForAddress" (signatureParams address options) (c.after earlier w)).1 =
      .ok (.list (answered entries options limit))

variable {c : Client} {address : Value} {entries : List Value} {w : World Post ClientState}

theorem Serves.after_request (serves : c.Serves address entries w) (method : String)
    (params : Value) : c.Serves address entries (c.request method params w).2 :=
  fun earlier => serves ((method, params) :: earlier)

theorem logged_eq_ok {α : Type} {name : String} {task : Task α} {a : α}
    {w' : World Post ClientState} (done : task w = (.ok a, w')) :
    logged name task w = (.ok a, w') := by
  simp only [logged, RetryPolicy.run]
  unfold RetryPolicy.attempt
  rw [done]

variable {commitment : String} {limit : Nat} {before stop : Option String}

/-- A text that is empty is not sent. -/
theorem boundField_optional (name : String) (text : Option String) :
    boundField name (optionalText text) =
      ((text.filter (· ≠ "")).map (fun s => (name, Value.text s))).toList := by
  cases text with
  | none => rfl
  | some s =>
    by_cases empty : s = ""
    · subst empty
      rfl
    · simp [boundField, optionalText, Value.isTruthy, Option.filter, empty]

theorem optionText?_pageOptions :
    optionText? (pageOptions commitment limit stop before) "before" = before.filter (· ≠ "") ∧
      optionText? (pageOptions commitment limit stop before) "until" = stop.filter (· ≠ "") := by
  rw [pageOptions, boundField_optional, boundField_optional]
  cases before.filter (· ≠ "") <;> cases stop.filter (· ≠ "") <;>
    simp [optionText?, List.lookup_cons]

/-- The range that the options of a page ask for. -/
theorem answered_pageOptions (history : IsHistory entries) (nonempty : before ≠ some "") :
    answered entries (pageOptions commitment limit stop before) limit =
      (entriesBetween entries before stop).take limit := by
  have given : before.filter (· ≠ "") = before := by
    cases before with
    | none => rfl
    | some s => exact if_pos (by simpa using nonempty)
  rw [answered, optionText?_pageOptions.1, optionText?_pageOptions.2, given, entriesBetween,
    entriesBetween,
    entriesUntil_filter (fun e member => history.signed e (isSuffix_entriesAfter.subset member))]

/-- The query for a page. -/
def pageQuery (address : Value) (commitment : String) (limit : Nat) (stop before : Option String) :
    SignatureQuery :=
  { address, before := optionalText before, stop := optionalText stop, limit := .int limit
    commitment := .text commitment }

theorem options_pageQuery (listed : commitment ∈ listedCommitments) (standard : Value) :
    (pageQuery address commitment limit stop before).options standard =
      pageOptions commitment limit stop before := by
  have truthy : (Value.text commitment).isTruthy = true := by
    simp only [listedCommitments, List.mem_cons, List.not_mem_nil, or_false] at listed
    rcases listed with rfl | rfl <;> rfl
  simp [SignatureQuery.options, pageQuery, pageOptions, chosen, truthy, givenField]

/-- A page that a node answers. -/
theorem exists_signatures (serves : c.Serves address entries w) (history : IsHistory entries)
    (stop : Option String) (listed : commitment ∈ listedCommitments) (positive : 1 ≤ limit)
    (bounded : limit ≤ 1000) (nonempty : before ≠ some "") :
    ∃ (n : Nat) (w' : World Post ClientState),
      c.signatures (pageQuery address commitment limit stop before) w =
        (.ok (.list ((entriesBetween entries before stop).take limit)), w') ∧
      0 < n ∧
      w'.journal.acts = w.journal.acts ++ List.replicate n
        (c.postOf (w.state.requests + 1) "getSignaturesForAddress"
          (signatureParams address (pageOptions commitment limit stop before))) ∧
      w'.state.requests = w.state.requests + 1 ∧ c.Serves address entries w' := by
  obtain ⟨result, events, n, run, acts, sent⟩ := c.exists_request "getSignaturesForAddress"
    (signatureParams address (pageOptions commitment limit stop before)) w
  have answer := serves [] (pageOptions commitment limit stop before) limit
    ⟨commitment, listed, rfl⟩ rfl positive bounded
  rw [after, List.foldl_nil, run, answered_pageOptions history nonempty] at answer
  cases answer
  have asked : c.askSignatures (pageQuery address commitment limit stop before) w =
      (.ok (.list ((entriesBetween entries before stop).take limit)),
        (c.begun w).extend events) := by
    rw [askSignatures, options_pageQuery listed]
    exact run
  refine ⟨n, _, logged_eq_ok asked, sent _ rfl, ?_, rfl, ?_⟩
  · rw [World.journal_extend, Journal.acts_append, acts]
    rfl
  · have kept := serves.after_request "getSignaturesForAddress"
      (signatureParams address (pageOptions commitment limit stop before))
    rw [run] at kept
    exact kept

/-- The posts of requests for pages, each posted a number of times. -/
def pagePosts (c : Client) (address : Value) (options : Nat → Fields) (repeats : Nat → Nat)
    (first count : Nat) : List Post :=
  (List.range count).flatMap (fun i => List.replicate (repeats i)
    (c.postOf (first + i) "getSignaturesForAddress" (signatureParams address (options i))))

theorem pagePosts_succ (options : Nat → Fields) (repeats : Nat → Nat) (first count : Nat) :
    c.pagePosts address options repeats first (count + 1) =
      List.replicate (repeats 0)
        (c.postOf first "getSignaturesForAddress" (signatureParams address (options 0))) ++
      c.pagePosts address (fun i => options (i + 1)) (fun i => repeats (i + 1)) (first + 1)
        count := by
  simp only [pagePosts, List.range_succ_eq_map, List.flatMap_cons, List.flatMap_map]
  simp [Nat.add_assoc, Nat.add_comm 1]

theorem cursor_succ (found : List Value) {e : Value} {s : String}
    (last : found[limit - 1]? = some e) (signed : signature? e = some s) (page : Nat) :
    cursor limit before found (page + 1) = cursor limit (some s) (found.drop limit) page := by
  cases page with
  | zero => simp [cursor, last, signed]
  | succ page =>
    have shifted : (page + 1) * limit + (limit - 1) = limit + (page * limit + (limit - 1)) := by
      rw [Nat.add_mul]
      omega
    simp only [cursor, List.getElem?_drop, shifted]

/-- A page that is not full is the last one. -/
theorem pages_of_short {bound : Nat} {past page : List Value} {w' : World Post ClientState}
    (answer : c.signatures (pageQuery address commitment limit stop before) w =
      (.ok (.list page), w')) (short : page.length < limit) :
    c.pages (bound + 1) (pageQuery address commitment limit stop before) past w =
      (.ok (some (past ++ page)), w') := by
  have order : compared ((Value.int page.length).lt?
      (pageQuery address commitment limit stop before).limit) = .ok true := by
    rw [pageQuery, compared_lt_int, decide_eq_true (by exact_mod_cast short)]
  simp [pages, answer, pageEntries, Value.items?, order]

/-- After a full page the next one starts before the signature of its last entry. -/
theorem pages_of_full {bound : Nat} {past page : List Value} {w' : World Post ClientState}
    (answer : c.signatures (pageQuery address commitment limit stop before) w =
      (.ok (.list page), w')) (full : limit ≤ page.length) {e : Value} {s : String}
    (last : page.getLast? = some e) (signed : signature? e = some s) :
    c.pages (bound + 1) (pageQuery address commitment limit stop before) past w =
      c.pages bound (pageQuery address commitment limit stop (some s)) (past ++ page) w' := by
  have order : compared ((Value.int page.length).lt?
      (pageQuery address commitment limit stop before).limit) = .ok false := by
    rw [pageQuery, compared_lt_int, decide_eq_false (by exact_mod_cast not_lt.2 full)]
  have found : lastSignature (.list page) = .ok (.text s) := by
    rw [lastSignature, last]
    exact entry_signature signed
  simp only [pages, Procedure.bind_apply, Procedure.lift_apply, answer, pageEntries, Value.items?,
    Option.elim_some, order, found]
  rfl

/-- The pages of a query make up its range.  The induction is on the number of full pages. -/
theorem exists_pages (history : IsHistory entries) (listed : commitment ∈ listedCommitments)
    (positive : 1 ≤ limit) (bounded : limit ≤ 1000) {full : Nat} (past : List Value)
    (serves : c.Serves address entries w) (nonempty : before ≠ some "")
    (count : (entriesBetween entries before stop).length / limit = full) :
    ∃ (repeats : Nat → Nat) (w' : World Post ClientState),
      (∀ bound, full < bound →
        c.pages bound (pageQuery address commitment limit stop before) past w =
          (.ok (some (past ++ entriesBetween entries before stop)), w')) ∧
      (∀ i, 0 < repeats i) ∧ w'.state.requests = w.state.requests + full + 1 ∧
      w'.journal.acts = w.journal.acts ++ c.pagePosts address
        (fun i => pageOptions commitment limit stop
          (cursor limit before (entriesBetween entries before stop) i)) repeats
        (w.state.requests + 1) (full + 1) := by
  induction full generalizing w before past with
  | zero =>
    obtain ⟨n, w', page, posted, acts, requests, -⟩ :=
      exists_signatures serves history stop listed positive bounded nonempty
    have short : (entriesBetween entries before stop).length < limit := by
      rcases Nat.div_eq_zero_iff.1 count with none | short
      · omega
      · exact short
    rw [List.take_of_length_le short.le] at page
    refine ⟨fun _ => n, w', ?_, fun _ => posted, by omega, ?_⟩
    · intro bound enough
      obtain ⟨bound, rfl⟩ := Nat.exists_eq_add_one.2 enough
      exact pages_of_short page short
    · rw [acts, pagePosts_succ]
      simp [pagePosts, cursor]
  | succ full ih =>
    obtain ⟨n, w', page, posted, acts, requests, serves'⟩ :=
      exists_signatures serves history stop listed positive bounded nonempty
    have long : limit ≤ (entriesBetween entries before stop).length := by
      by_contra short
      rw [Nat.div_eq_of_lt (not_le.1 short)] at count
      omega
    -- The page ends with an entry, and what comes after that is left.
    obtain ⟨e, s, last, signed, given, rest⟩ := exists_last_eq_drop history positive long
    generalize entriesBetween entries before stop = found at *
    have fewer : (entriesBetween entries (some s) stop).length / limit = full := by
      rw [rest, List.length_drop]
      have one := Nat.div_eq_sub_div positive long
      omega
    have taken : (found.take limit).getLast? = some e := by
      rw [List.getLast?_take, if_neg (by omega), last]
      rfl
    obtain ⟨repeats, w'', run, often, counted, acts'⟩ := ih
      (past ++ found.take limit) serves' (by simpa using given) fewer
    rw [rest] at run acts'
    refine ⟨fun i => i.casesOn n repeats, w'', ?_, ?_, by omega, ?_⟩
    · intro bound enough
      obtain ⟨bound, rfl⟩ := Nat.exists_eq_add_one.2 (Nat.zero_lt_of_lt enough)
      rw [pages_of_full page (by simp [long]) taken signed, run bound (by omega),
        List.append_assoc, List.take_append_drop]
    · intro i
      cases i with
      | zero => exact posted
      | succ i => exact often i
    · rw [acts', acts, requests, List.append_assoc]
      refine congrArg (w.journal.acts ++ ·) (Eq.trans ?_ (pagePosts_succ _ _ _ _).symm)
      simp only [cursor_succ found last signed]
      rfl

/-- The page size and the commitment of a history that are given or standard ones. -/
theorem historyTerms_eq {size level : Value} (c : Client)
    (chosenSize : size = .int limit ∨
      size = .null ∧ c.settings.signaturesPerRequest = .int limit)
    (chosenLevel : chosen level (.text "finalized") = .text commitment)
    (listed : commitment ∈ listedCommitments) (positive : 1 ≤ limit) (bounded : limit ≤ 1000) :
    c.historyTerms size level = .ok (.int limit, .text commitment) := by
  have accepted : (!(Value.text commitment).isAmong commitmentLevels ||
      (Value.text commitment).isAmong ["processed"]) = false := by
    simp only [listedCommitments, List.mem_cons, List.not_mem_nil, or_false] at listed
    rcases listed with rfl | rfl <;> decide
  rcases chosenSize with rfl | ⟨rfl, standard⟩
  · simp only [historyTerms, isPageSize_int positive bounded, chosenLevel, accepted]
    rfl
  · simp only [historyTerms, standard, isPageSize_int positive bounded, chosenLevel, accepted]
    rfl

/-- The history of an address, fetched from a node, is the range of the node's entries that was
asked for, in their order, with each entry once.  It is fetched by one request for each full page
and one more, each posted at least once.  The requests differ only in their number and in the
signature before which they start: first the one that was asked for, then that of the last entry
found so far. From a number of pages on the bound on pages does not matter. -/
theorem history_exactly {c : Client} {address : Value} {entries : List Value}
    {w : World Post ClientState} (history : IsHistory entries) (serves : c.Serves address entries w)
    (before stop : Option String)
    (known : ∀ s, before = some s → some s ∈ entries.map signature?)
    {size level : Value} {limit : Nat} {commitment : String}
    (chosenSize : size = .int limit ∨
      size = .null ∧ c.settings.signaturesPerRequest = .int limit)
    (positive : 1 ≤ limit) (bounded : limit ≤ 1000)
    (chosenLevel : chosen level (.text "finalized") = .text commitment)
    (listed : commitment ∈ listedCommitments) :
    let query : SignatureQuery :=
      { address, before := optionalText before, stop := optionalText stop, limit := size
        commitment := level }
    let found := entriesBetween entries before stop
    let count := found.length / limit + 1
    ∃ (repeats : Nat → Nat) (w' : World Post ClientState),
      (∀ bound, count ≤ bound → c.history bound query w = (.ok (some found), w')) ∧
      found <:+: entries ∧ (found.map signature?).Nodup ∧
      w'.state.requests = w.state.requests + count ∧ (∀ i, 0 < repeats i) ∧
      w'.journal.acts = w.journal.acts ++ c.pagePosts address
        (fun i => pageOptions commitment limit stop (cursor limit before found i)) repeats
        (w.state.requests + 1) count := by
  intro query found count
  have nonempty : before ≠ some "" := by
    intro empty
    obtain ⟨e, member, none⟩ := List.mem_map.1 (known "" empty)
    obtain ⟨s, signed, given⟩ := history.signed e member
    exact given (Option.some.inj (signed.symm.trans none))
  obtain ⟨repeats, w', run, often, counted, acts⟩ := exists_pages
    history listed positive bounded [] serves nonempty (rfl : found.length / limit = _)
  have terms := c.historyTerms_eq chosenSize chosenLevel listed positive bounded
  refine ⟨repeats, w'.extend [.logged ⟨.debug, .rpcClient, withContext "Fetched signatures"
    [("address", .text address.display), ("count", .int found.length)]⟩], ?_,
    isInfix_entriesBetween, history.distinct_between, counted, often, ?_⟩
  · intro bound enough
    have fetched := run bound (by omega)
    rw [List.nil_append, pageQuery] at fetched
    refine logged_eq_ok ?_
    simp only [fetchHistory, Procedure.bind_apply, Procedure.lift_apply, terms, query, fetched]
    rfl
  · rw [World.journal_extend, Journal.acts_append, acts]
    exact List.append_nil _

/-- A node with a history that is always reached. -/
def nodeOf (entries : List Value) : Transport := fun _ post =>
  match post.payload.field? "params" with
  | some (.list [_, .record options]) =>
    match options.lookup "limit" with
    | some (.int limit) =>
      .response 200 (.ok (.record [("result", .list (answered entries options limit.toNat))]))
    | _ => .response 400 (.error (.foreign .jsonSyntax ""))
  | _ => .response 400 (.error (.foreign .jsonSyntax ""))

theorem serves_nodeOf {settings : ConnectionSettings} {m : Nat}
    (retries : settings.maxRetries.wireInt? = some (m : Int)) (address : Value)
    (entries : List Value) (w : World Post ClientState) :
    Serves { settings, transport := nodeOf entries } address entries w := by
  intro earlier options limit _ given _ _
  refine request_of_answer (attempts_eq retries) ?_
  generalize ({ settings, transport := nodeOf entries } : Client).after earlier w = w'
  have sent : (postOf { settings, transport := nodeOf entries } (w'.state.requests + 1)
      "getSignaturesForAddress" (signatureParams address options)).payload.field? "params" =
        some (.list [.text address.display, .record options]) := rfl
  rw [replies_zero]
  simp only [nodeOf, sent, given]
  rfl

/-- The entries before the newest one of five are fetched by three requests for two: the third one
finds that there are no more. -/
theorem history_exactly_of_nodeOf :
    let e := fun (s : String) => Value.record [("signature", .text s)]
    let c : Client :=
      { settings := { url := .text "http://localhost" }
        transport := nodeOf [e "e", e "d", e "c", e "b", e "a"] }
    ∃ (repeats : Nat → Nat) (w : World Post ClientState),
      (∀ bound, 3 ≤ bound → c.history bound
        { address := .text "address", before := .text "e", limit := .int 2 } { state := {} } =
          (.ok (some [e "d", e "c", e "b", e "a"]), w)) ∧
      w.state.requests = 3 ∧ (∀ i, 0 < repeats i) ∧
      w.journal.acts = c.pagePosts (.text "address") (fun i => pageOptions "finalized" 2 none
        (cursor 2 (some "e") [e "d", e "c", e "b", e "a"] i)) repeats 1 3 := by
  intro e c
  have history : IsHistory [e "e", e "d", e "c", e "b", e "a"] := {
    signed := by simp [e, signature?, Value.field?]
    distinct := by decide }
  have served : c.Serves (.text "address") [e "e", e "d", e "c", e "b", e "a"] { state := {} } :=
    serves_nodeOf (m := 3) rfl _ _ _
  have known (s : String) (given : some "e" = some s) :
      some s ∈ [e "e", e "d", e "c", e "b", e "a"].map signature? := by
    cases given
    decide
  have standard : chosen .null (.text "finalized") = .text "finalized" := rfl
  obtain ⟨repeats, w, run, -, -, counted, often, acts⟩ :=
    history_exactly history served (some "e") none known (.inl rfl) (show 1 ≤ 2 by decide)
      (by decide) standard (by decide)
  have found : entriesBetween [e "e", e "d", e "c", e "b", e "a"] (some "e") none =
      [e "d", e "c", e "b", e "a"] := rfl
  have three : [e "d", e "c", e "b", e "a"].length / 2 + 1 = 3 := by decide
  rw [found, three] at run counted acts
  exact ⟨repeats, w, run, counted, often, acts⟩

end Client
end Rpc
end SolanaWire
