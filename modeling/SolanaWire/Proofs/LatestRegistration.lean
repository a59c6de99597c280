import Mathlib.Data.List.Basic
import SolanaWire.Proofs.Resolvers
import SolanaWire.ResolverTable.Use

/-!
# Latest registrations

Registrations leave a table with, for each program, the resolver of the last one for it, and with
the programs in the order of the first ones.  A late resolver is bound to a table and not to what
the table held when the resolver was made, so it uses the resolver that is registered last when it
is called, as the table itself does.
-/
namespace SolanaWire

namespace ResolverTable

variable {t : ResolverTable}

/-- The resolver of the last of some registrations for a program. -/
def latest? (registrations : List (Key × NamedResolver)) (program : Key) : Option NamedResolver :=
  registrations.reverse.lookup program

theorem get?_registerAll (t : ResolverTable) (registrations : List (Key × NamedResolver))
    (program : Key) :
    (t.registerAll registrations).1.get? program =
      (latest? registrations program).or (t.get? program) := by
  induction registrations generalizing t with
  | nil => rfl
  | cons e rest ih =>
    obtain ⟨q, r⟩ := e
    have set : (t.register q r).get? program = if program = q then some r else t.get? program :=
      KeyTable.get?_set t q program r
    have next : (t.registerAll ((q, r) :: rest)).1 = ((t.register q r).registerAll rest).1 := rfl
    rw [next, ih, set, latest?, latest?, List.reverse_cons, List.lookup_append, Option.or_assoc]
    by_cases same : program = q
    · simp [same]
    · simp [same, List.lookup_cons, beq_false_of_ne same]

theorem eraseDups_eq_self {ps : List Key} (distinct : ps.Nodup) : ps.eraseDups = ps := by
  induction ps with
  | nil => rfl
  | cons p ps ih =>
    rw [List.nodup_cons] at distinct
    have others : ps.filter (fun q => !q == p) = ps := by
      rw [List.filter_eq_self]
      rintro q mem
      have other : q ≠ p := fun same => distinct.1 (same ▸ mem)
      simp [other]
    rw [List.eraseDups_cons, others, ih distinct.2]

/-- A program that is listed already adds nothing to a list without repetitions. -/
theorem eraseDups_append_cons_of_mem {ps qs : List Key} {p : Key} (known : p ∈ ps) :
    (ps ++ p :: qs).eraseDups = (ps ++ qs).eraseDups := by
  rw [List.eraseDups_append, List.eraseDups_append]
  simp [List.removeAll, known]

theorem keys_registerAll (t : ResolverTable) (registrations : List (Key × NamedResolver)) :
    KeyTable.keys (t.registerAll registrations).1 =
      (KeyTable.keys t ++ registrations.map (·.1)).eraseDups := by
  induction registrations generalizing t with
  | nil =>
    rw [List.map_nil, List.append_nil]
    exact (eraseDups_eq_self t.nodup).symm
  | cons e rest ih =>
    obtain ⟨q, r⟩ := e
    have set : KeyTable.keys (t.register q r) = if q ∈ KeyTable.keys t then KeyTable.keys t else
        KeyTable.keys t ++ [q] := KeyTable.keys_set t q r
    have next : (t.registerAll ((q, r) :: rest)).1 = ((t.register q r).registerAll rest).1 := rfl
    rw [next, ih, set, List.map_cons]
    split
    · rename_i known
      rw [eraseDups_append_cons_of_mem known]
    · rw [List.append_assoc, List.singleton_append]

/-- What a resolver finds, if there is one. -/
def foundBy (resolver : Option NamedResolver) (code : Value) :
    Except Failure (Option ResolvedError) :=
  match resolver with
  | some r => r.resolve code
  | none => .ok none

theorem resolve_eq_foundBy (t : ResolverTable) (program : Key) (code : Value) :
    t.resolve program code = foundBy (t.get? program) code := by
  unfold resolve foundBy
  cases t.get? program <;> rfl

end ResolverTable

/-- A position that addresses an instruction is not negative. -/
theorem Message.exists_of_programOf {m : Message} {index : Int} {program : Key}
    (found : m.programOf index = .ok program) :
    ∃ k : Nat, index = k ∧ m.HasProgram k program := by
  obtain ⟨c, addressed, -⟩ := Outcome.bind_eq_ok_iff.1 found
  obtain ⟨k, rfl⟩ := Int.eq_ofNat_of_zero_le (itemAt_eq_ok_iff.1 addressed).1
  exact ⟨k, rfl, Message.programOf_eq_ok_iff.1 found⟩

/-- Whether a late resolver is for a program of a table: it was made for it, or for an instruction
of the program. -/
inductive LateResolver.IsFor : LateResolver → Nat → Key → Prop
  | program (n : Nat) (p : Key) : IsFor (.program n p) n p
  | instruction {m : Message} {index : Nat} {p : Key} (n : Nat) (known : m.HasProgram index p) :
      IsFor (.instruction n m index) n p

/-- The fault of the index that leaves a late resolver without a program: it was made for an
instruction that its message does not have, or whose program is not in the key table. -/
inductive LateResolver.Lacks : LateResolver → IndexFault → Prop
  | instruction {m : Message} {index : Int} {fault : IndexFault} (n : Nat)
      (lacks : m.LacksProgram index fault) : Lacks (.instruction n m index) fault

theorem LateResolver.exists_lacks {r : LateResolver} (loose : ∀ n p, ¬ r.IsFor n p) :
    ∃ fault, r.Lacks fault := by
  cases r with
  | program n p => exact absurd (.program n p) (loose n p)
  | instruction n m index =>
    cases found : m.programOf index with
    | ok p =>
      obtain ⟨k, rfl, known⟩ := Message.exists_of_programOf found
      exact absurd (.instruction n known) (loose n p)
    | error fault => exact ⟨fault, .instruction n (Message.programOf_eq_error_iff.1 found)⟩

namespace ResolverBank

variable {b : ResolverBank} {n : Nat}

theorem table_update_self (known : n < b.tables.length) (t : ResolverTable) :
    (b.update n t).table n = t := by
  simp [table, update, known]

theorem table_update_of_ne {m : Nat} (other : m ≠ n) (t : ResolverTable) :
    (b.update m t).table n = b.table n := by
  simp [table, update, List.getElem?_set_ne other]

/-- A shared table that comes into being is empty, and the others stay as they are. -/
theorem table_sharedTable (known : n < b.tables.length) :
    b.sharedTable.1.table n = b.table n := by
  unfold sharedTable
  cases b.shared with
  | some k => rfl
  | none => simp [table, add, List.getElem?_append_left known]

theorem call_of_isFor {r : LateResolver} {p : Key} (own : r.IsFor n p) (code : Value) :
    b.call r code = (b.table n).resolve p code := by
  cases own with
  | program => rfl
  | instruction n known => exact call_instruction known

/-- A late resolver without a program finds nothing, unless its fault cannot be reported. -/
theorem call_of_lacks {r : LateResolver} {fault : IndexFault} (lacks : r.Lacks fault)
    (code : Value) : b.call r code =
      if Numeral.IsWritable fault.index then .ok none else .error integerTooLong := by
  cases lacks with
  | instruction n lacks => rw [call_instruction_of_lacksProgram lacks, IndexFault.toNone_eq]

end ResolverBank

namespace ResolverEvent

/-- What an event registers with a table. -/
def registration? (n : Nat) : ResolverEvent → Option (Key × NamedResolver)
  | register m program resolver => if m = n then some (program, resolver) else none
  | _ => none

/-- What some events register with a table, the earliest first. -/
def registrations (n : Nat) (events : List ResolverEvent) : List (Key × NamedResolver) :=
  events.filterMap (registration? n)

theorem registrations_cons (n : Nat) (event : ResolverEvent) (events : List ResolverEvent) :
    registrations n (event :: events) =
      (event.registration? n).toList ++ registrations n events := by
  unfold registrations
  rw [List.filterMap_cons]
  cases event.registration? n <;> rfl

end ResolverEvent

namespace ResolverUse

open ResolverTable ResolverEvent

variable {u : ResolverUse} {n : Nat}

/-- No event takes a table away. -/
theorem length_step (known : n < u.bank.tables.length) (event : ResolverEvent) :
    n < (u.step event).bank.tables.length := by
  cases event with
  | register m program resolver => simpa [step, ResolverBank.update] using known
  | share =>
    simp only [step, ResolverBank.sharedTable]
    cases u.bank.shared with
    | some k => exact known
    | none =>
      simp only [ResolverBank.add, List.length_append]
      omega
  | _ => exact known

/-- An event does to a table what it registers with it, and nothing else. -/
theorem table_step (known : n < u.bank.tables.length) (event : ResolverEvent) :
    (u.step event).bank.table n =
      ((u.bank.table n).registerAll (event.registration? n).toList).1 := by
  cases event with
  | register m program resolver =>
    by_cases same : m = n
    · subst same
      rw [registration?, if_pos rfl]
      exact ResolverBank.table_update_self known _
    · rw [registration?, if_neg same]
      exact ResolverBank.table_update_of_ne same _
  | share => exact ResolverBank.table_sharedTable known
  | _ => rfl

/-- Some events do to a table what they register with it. -/
theorem table_run (known : n < u.bank.tables.length) (events : List ResolverEvent) :
    (u.run events).bank.table n =
      ((u.bank.table n).registerAll (registrations n events)).1 := by
  induction events generalizing u with
  | nil => rfl
  | cons event events ih =>
    rw [run_cons, ih (length_step known event), table_step known, registrations_cons]
    cases event.registration? n <;> rfl

/-- What is kept stays, with its number. -/
theorem kept_run (u : ResolverUse) (events : List ResolverEvent) :
    ∃ more, (u.run events).kept = u.kept ++ more := by
  induction events generalizing u with
  | nil => exact ⟨[], (List.append_nil _).symm⟩
  | cons event events ih =>
    obtain ⟨more, kept⟩ := ih (u.step event)
    rw [run_cons, kept]
    cases event with
    | keep resolver => exact ⟨resolver :: more, by simp [step]⟩
    | _ => exact ⟨more, rfl⟩

theorem getElem?_kept_run (before after : List ResolverEvent) (resolver : LateResolver) :
    (u.run (before ++ .keep resolver :: after)).kept[(u.run before).kept.length]? =
      some resolver := by
  have split : u.run (before ++ .keep resolver :: after) =
      ((u.run before).step (.keep resolver)).run after := List.foldl_append
  obtain ⟨more, kept⟩ := kept_run ((u.run before).step (.keep resolver)) after
  rw [split, kept]
  simp [step]

theorem get?_run (known : n < u.bank.tables.length) (fresh : u.bank.table n = KeyTable.empty)
    (events : List ResolverEvent) (p : Key) :
    ((u.run events).bank.table n).get? p = latest? (registrations n events) p := by
  rw [table_run known, get?_registerAll, fresh]
  exact Option.or_none

/-- Events that register nothing for a program leave its last registration as it is. -/
theorem latest?_concat {past : List ResolverEvent} {event : ResolverEvent} {p : Key}
    (other : ∀ r, event ≠ .register n p r) :
    latest? (registrations n (past ++ [event])) p = latest? (registrations n past) p := by
  have split :
      registrations n (past ++ [event]) = registrations n past ++ registrations n [event] :=
    List.filterMap_append
  rw [split, registrations_cons]
  cases event with
  | register m q r =>
    by_cases same : m = n
    · subst same
      have another : p ≠ q := by
        rintro rfl
        exact other r rfl
      simp [registration?, registrations, latest?, List.lookup_cons, beq_false_of_ne another]
    · simp [registration?, registrations, same]
  | _ => simp [registration?, registrations]

/-- Events on any tables, from the moment on at which one of them is empty.  Whenever a code is
resolved by that table, by a late resolver for a program that was kept at any time, or by one for an
instruction, the resolver that is used is the one that was registered last for the program by then,
or none if there is none.  A late resolver for an instruction without a program finds nothing,
unless the index that is missing its table has too many digits to be reported.  No event but a
registration for the program itself changes what is used.  The table lists each program once, in the
order of the first registrations.  A registration that replaces a different resolver is logged as a
warning that names the program, and nothing else is logged. -/
theorem latest_exactly (known : n < u.bank.tables.length)
    (fresh : u.bank.table n = KeyTable.empty) (past : List ResolverEvent) :
    let v := u.run past
    let t := v.bank.table n
    let latest := latest? (registrations n past)
    (∀ p code, t.get? p = latest p ∧
      v.found? (.resolve n p code) = some (foundBy (latest p) code)) ∧
    (∀ before resolver after, past = before ++ .keep resolver :: after → ∀ code,
      (∀ p, resolver.IsFor n p →
        v.found? (.call (u.run before).kept.length code) = some (foundBy (latest p) code)) ∧
      ((∀ m p, ¬ resolver.IsFor m p) → ∃ fault, resolver.Lacks fault ∧
        v.found? (.call (u.run before).kept.length code) =
          some (if Numeral.IsWritable fault.index then .ok none else .error integerTooLong))) ∧
    (∀ p event, (∀ r, event ≠ .register n p r) →
      ((v.step event).bank.table n).get? p = latest p) ∧
    (KeyTable.keys t = ((registrations n past).map (·.1)).eraseDups ∧ (KeyTable.keys t).Nodup) ∧
    (∀ p r,
      ((∃ previous, latest p = some previous ∧ previous.name ≠ r.name) →
        v.heard (.register n p r) = [⟨.warning, .resolverTable,
          s!"Custom error resolver for program {p.text} already registered. Overwriting."⟩]) ∧
      ((∀ previous, latest p = some previous → previous.name = r.name) →
        v.heard (.register n p r) = [])) ∧
    ∀ event, (∀ m p r, event ≠ .register m p r) → v.heard event = [] := by
  intro v t latest
  have get? (p : Key) : t.get? p = latest p := get?_run known fresh past p
  refine ⟨fun p code => ⟨get? p, ?_⟩, ?_, ?_, ⟨?_, t.nodup⟩, ?_, ?_⟩
  · rw [found?, resolve_eq_foundBy, ← get?]
  · rintro before resolver after rfl code
    have kept := getElem?_kept_run (u := u) before after resolver
    constructor
    · intro p own
      rw [found?, kept, Option.map_some, ResolverBank.call_of_isFor own, resolve_eq_foundBy, ← get?]
    · intro loose
      obtain ⟨fault, lacks⟩ := LateResolver.exists_lacks loose
      exact ⟨fault, lacks, by rw [found?, kept, Option.map_some, ResolverBank.call_of_lacks lacks]⟩
  · intro p event other
    have next : v.step event = u.run (past ++ [event]) := by
      simp only [v, run, List.foldl_append, List.foldl_cons, List.foldl_nil]
    rw [next, get?_run known fresh, latest?_concat other]
  · show KeyTable.keys ((u.run past).bank.table n) = _
    rw [table_run known, keys_registerAll, fresh]
    rfl
  · intro p r
    have log : v.heard (.register n p r) =
        if t.replaces p r then [overwriteWarning p] else [] := rfl
    rw [log, replaces, get?]
    constructor
    · rintro ⟨previous, found, different⟩
      simp [found, different, overwriteWarning]
    · intro same
      cases found : latest p with
      | none => rfl
      | some previous => simp [same previous found]
  · intro event silent
    cases event with
    | register m p r => exact absurd rfl (silent m p r)
    | _ => rfl

/-- Resolvers that are kept before anything is registered.  The program of the second is that of the
instruction, and its resolver is replaced after another program has come in. -/
theorem latest_exactly_of_replacement :
    let p := Token.program.id
    let first : NamedResolver := ⟨"first", fun _ => .ok none⟩
    let m : Message := ⟨[p], ⟨1, 0, 0⟩, [⟨0, [], []⟩]⟩
    let u : ResolverUse := { bank := { tables := [KeyTable.empty] } }
    let past : List ResolverEvent := [.keep (.program 0 p), .keep (.instruction 0 m 0),
      .register 0 p first, .register 0 SystemProgram.program.id system, .register 0 p token]
    let v := u.run past
    v.found? (.call 0 (.int 17)) = some (token.resolve (.int 17)) ∧
      v.found? (.call 1 (.int 17)) = some (token.resolve (.int 17)) ∧
      KeyTable.keys (v.bank.table 0) = [p, SystemProgram.program.id] ∧
      v.heard (.register 0 p first) = [⟨.warning, .resolverTable,
        s!"Custom error resolver for program {p.text} already registered. Overwriting."⟩] := by
  intro p first m u past v
  have own : m.HasProgram 0 p := ⟨_, rfl, by decide, rfl⟩
  have last : latest? (registrations 0 past) p = some token := List.lookup_cons_self
  obtain ⟨-, kept, -, ⟨keys, -⟩, warned, -⟩ := latest_exactly (u := u) (n := 0) (by decide) rfl past
  have called := (kept [] (.program 0 p) _ rfl (.int 17)).1 p (.program 0 p)
  have called' := (kept [.keep (.program 0 p)] (.instruction 0 m 0) _ rfl (.int 17)).1 p
    (.instruction 0 own)
  rw [last] at called called'
  exact ⟨called, called', keys.trans (by decide +kernel),
    (warned p first).1 ⟨token, last, by decide⟩⟩

end ResolverUse
end SolanaWire
