import Mathlib.Data.List.Induction
import SolanaWire.DecoderRegistry.Tables
import SolanaWire.Proofs.Procedures

/-!
# First registrations

The first registration of a program stands: the tables of a registry hold, for each program, what
the first call for it said, in the order of these calls.  A later call fails, names what the program
was first registered under, and changes nothing.  The two tables therefore know the same programs,
and they hold what one table of entries holds.
-/
namespace SolanaWire

/-- The first of some calls for a program. -/
def firstCall (calls : List RegisterCall) (program : Key) : Option RegisterCall :=
  calls.find? (·.program = program)

theorem firstCall_eq_none_iff {calls : List RegisterCall} {p : Key} :
    firstCall calls p = none ↔ p ∉ calls.map (·.program) := by
  simp [firstCall]

theorem firstCall_append (calls : List RegisterCall) (c : RegisterCall) (p : Key) :
    firstCall (calls ++ [c]) p =
      (firstCall calls p).or (if c.program = p then some c else none) := by
  rw [firstCall, List.find?_append]
  by_cases same : c.program = p <;> simp [firstCall, same]

theorem eraseDups_append_singleton (ps : List Key) (p : Key) :
    (ps ++ [p]).eraseDups = ps.eraseDups ++ if p ∈ ps then [] else [p] := by
  rw [List.eraseDups_append]
  by_cases known : p ∈ ps <;> simp [List.removeAll, known, List.eraseDups_cons]

theorem programs_append (calls : List RegisterCall) (c : RegisterCall) :
    ((calls ++ [c]).map (·.program)).eraseDups = (calls.map (·.program)).eraseDups ++
      if firstCall calls c.program = none then [c.program] else [] := by
  rw [List.map_append, List.map_singleton, eraseDups_append_singleton]
  by_cases known : c.program ∈ calls.map (·.program)
  · rw [if_pos known, if_neg (fun absent => firstCall_eq_none_iff.1 absent known)]
  · rw [if_neg known, if_pos (firstCall_eq_none_iff.2 known)]

/-- A table that holds, for each program, what the first call for it says. -/
structure KeyTable.HoldsFirst {α : Type} (said : RegisterCall → α) (t : KeyTable α)
    (calls : List RegisterCall) : Prop where
  get?_eq : ∀ p, t.get? p = (firstCall calls p).map said
  keys_eq : t.keys = (calls.map (·.program)).eraseDups

namespace KeyTable.HoldsFirst

variable {α : Type} {said : RegisterCall → α} {t : KeyTable α} {calls : List RegisterCall}
  {c first : RegisterCall}

theorem empty : HoldsFirst said {} [] := ⟨fun _ => rfl, rfl⟩

/-- A later call for a program changes nothing. -/
theorem later (holds : t.HoldsFirst said calls) (present : firstCall calls c.program = some first) :
    t.HoldsFirst said (calls ++ [c]) := by
  constructor
  · intro p
    rw [holds.get?_eq, firstCall_append]
    by_cases same : c.program = p
    · rw [← same, present]
      rfl
    · rw [if_neg same, Option.or_none]
  · rw [holds.keys_eq, programs_append, present]
    simp

/-- The first call for a program is written. -/
theorem set (holds : t.HoldsFirst said calls) (absent : firstCall calls c.program = none) :
    (t.set c.program (said c)).HoldsFirst said (calls ++ [c]) := by
  have missing : c.program ∉ t.keys := by
    rw [holds.keys_eq, List.mem_eraseDups]
    exact firstCall_eq_none_iff.1 absent
  constructor
  · intro p
    rw [get?_set, firstCall_append, holds.get?_eq]
    by_cases same : p = c.program
    · rw [if_pos same, same, absent, if_pos rfl]
      rfl
    · rw [if_neg same, if_neg (Ne.symm same), Option.or_none]
  · rw [keys_set, if_neg missing, holds.keys_eq, programs_append, if_pos absent]

end KeyTable.HoldsFirst

/-- The tables hold the decoders and the names that the first calls gave. -/
structure DecoderTables.HoldsFirst (t : DecoderTables) (calls : List RegisterCall) : Prop where
  decoders : t.decoders.HoldsFirst (·.decoder) calls
  names : t.names.HoldsFirst (·.shownName) calls

/-- The two tables know the same programs. -/
theorem DecoderTables.HoldsFirst.keys_eq {t : DecoderTables} {calls : List RegisterCall}
    (holds : t.HoldsFirst calls) : t.names.keys = t.programs :=
  holds.names.keys_eq.trans holds.decoders.keys_eq.symm

theorem DecoderTables.knownName_apply {program : Key} {name : String} {w : World Unit DecoderTables}
    (known : w.state.nameOf? program = some name) : knownName program w = (.ok name, w) := by
  simp [knownName, known]

/-- A name that was written is known. -/
theorem DecoderTables.knownName_setName (j : Journal Unit) (t : DecoderTables) (program : Key)
    (name : String) :
    knownName program ⟨j, t.setName program name⟩ = (.ok name, ⟨j, t.setName program name⟩) :=
  knownName_apply ((KeyTable.get?_set _ _ _ _).trans (if_pos rfl))

namespace RegisterCall

variable {calls : List RegisterCall} {c first : RegisterCall} {w : World Unit DecoderTables}

/-- A later call for a program fails and changes nothing. -/
theorem perform_of_present (holds : w.state.HoldsFirst calls)
    (present : firstCall calls c.program = some first) :
    c.perform w = (.error (DecoderConflict.failure ⟨c.program, first.shownName⟩), w) := by
  have known : w.state.contains c.program = true := by
    rw [DecoderTables.contains, KeyTable.contains, holds.decoders.get?_eq, present]
    rfl
  have named : w.state.nameOf? c.program = some first.shownName := by
    rw [DecoderTables.nameOf?, holds.names.get?_eq, present]
    rfl
  simp [perform, DecoderTables.register, known, DecoderTables.knownName_apply named]

/-- The first call for a program writes its decoder and its name. -/
theorem perform_of_absent (holds : w.state.HoldsFirst calls)
    (absent : firstCall calls c.program = none) :
    c.perform w = (.ok (),
      { journal := w.journal ++ [.logged (DecoderRegistry.registered c.program c.name)]
        state := (w.state.setDecoder c.program c.decoder).setName c.program c.shownName }) := by
  have unknown : w.state.contains c.program = false := by
    rw [DecoderTables.contains, KeyTable.contains, holds.decoders.get?_eq, absent]
    rfl
  simp only [perform, DecoderTables.register, Procedure.bind_apply, Procedure.state_apply, unknown,
    Bool.false_eq_true, if_false, Procedure.update_apply, DecoderTables.knownName_setName]
  rfl

/-- What a call tells the registry. -/
def entry (c : RegisterCall) : DecoderEntry := ⟨c.shownName, c.decoder⟩

/-- Whatever the calls are, the tables hold what the first ones for each program said.  The
induction is on the calls from their end, so that what one call does is done to tables that hold it.
-/
theorem holdsFirst_performAll (calls : List RegisterCall) :
    (performAll calls { state := {} }).state.HoldsFirst calls := by
  induction calls using List.reverseRecOn with
  | nil => exact ⟨.empty, .empty⟩
  | append_singleton calls c ih =>
    rw [performAll, List.foldl_append, List.foldl_cons, List.foldl_nil, ← performAll]
    cases found : firstCall calls c.program with
    | some first =>
      rw [perform_of_present ih found]
      exact ⟨ih.decoders.later found, ih.names.later found⟩
    | none =>
      rw [perform_of_absent ih found]
      exact ⟨ih.decoders.set found, ih.names.set found⟩

end RegisterCall

namespace DecoderRegistry

open RegisterCall

variable {r : DecoderRegistry} {calls : List RegisterCall} {c first : RegisterCall}

theorem register_of_present (holds : KeyTable.HoldsFirst entry r calls)
    (present : firstCall calls c.program = some first) :
    r.register c.program c.decoder c.name = .error ⟨c.program, first.shownName⟩ := by
  rw [register, holds.get?_eq, present]
  rfl

theorem register_of_absent (holds : KeyTable.HoldsFirst entry r calls)
    (absent : firstCall calls c.program = none) :
    r.register c.program c.decoder c.name = .ok (KeyTable.set r c.program c.entry) := by
  rw [register, holds.get?_eq, absent]
  rfl

/-- The registry holds the same in one table of entries. -/
theorem holdsFirst_registerEach (calls : List RegisterCall) :
    KeyTable.HoldsFirst entry (registerEach KeyTable.empty calls) calls := by
  induction calls using List.reverseRecOn with
  | nil => exact .empty
  | append_singleton calls c ih =>
    rw [registerEach, List.foldl_append, List.foldl_cons, List.foldl_nil, ← registerEach]
    cases found : firstCall calls c.program with
    | some first =>
      rw [register_of_present ih found]
      exact ih.later found
    | none =>
      rw [register_of_absent ih found]
      exact ih.set found

end DecoderRegistry

namespace RegisterCall

theorem shownName_of_given (c : RegisterCall) {name : String} (given : c.name = some name)
    (nonempty : name ≠ "") : c.shownName = name := by
  rw [shownName, given]
  simp [DecoderRegistry.nameFor, nonempty]

theorem shownName_of_missing (c : RegisterCall) (missing : c.name = none ∨ c.name = some "") :
    c.shownName = c.program.text := by
  rcases missing with none | empty
  · rw [shownName, none, DecoderRegistry.nameFor]
  · rw [shownName, empty]
    rfl

/-- After any calls, the tables have for each program the decoder and the name of the first call for
it, and list the programs in the order of these calls, each once.  The name of a call is the given
one, or the text of the program if none is given or it is empty.  Presence, number, decoders and
names agree on which programs are known.  A further call for a known program fails with a report
about the configuration, which names the program and what it was first registered under, and leaves
everything as it is; a call for another program succeeds.  The registry of entries shows the same
and refuses the same calls. -/
theorem registered_exactly (calls : List RegisterCall) :
    let w : World Unit DecoderTables := performAll calls { state := {} }
    let t : DecoderTables := w.state
    let r : DecoderRegistry := .registerEach KeyTable.empty calls
    (∀ p, t.get? p = (firstCall calls p).map (·.decoder) ∧
      t.nameOf? p = (firstCall calls p).map (·.shownName)) ∧
    (∀ c : RegisterCall, (∀ name, c.name = some name → name ≠ "" → c.shownName = name) ∧
      (c.name = none ∨ c.name = some "" → c.shownName = c.program.text)) ∧
    (t.programs = (calls.map (·.program)).eraseDups ∧ t.programs.Nodup) ∧
    (t.size = t.programs.length ∧ ∀ p, (t.contains p = true ↔ p ∈ t.programs) ∧
      ((t.get? p).isSome ↔ p ∈ t.programs) ∧ ((t.nameOf? p).isSome ↔ p ∈ t.programs)) ∧
    (∀ c : RegisterCall,
      (∀ first, firstCall calls c.program = some first →
        c.perform w = (.error (.report
          { facts := .configuration
            message := s!"a decoder is already registered for program {c.program.text}"
            details := .record [("program_id", .text c.program.text),
              ("name", .text first.shownName)] }), w)) ∧
      (firstCall calls c.program = none → (c.perform w).1 = .ok ())) ∧
    (∀ p, t.get? p = (r.get? p).map (·.decoder) ∧ t.nameOf? p = r.nameOf? p) ∧
    t.programs = r.keys ∧
    ∀ c : RegisterCall, (c.perform w).1 =
      ((r.register c.program c.decoder c.name).map (fun _ => ())).mapError (·.failure) := by
  intro w t r
  have tables : t.HoldsFirst calls := holdsFirst_performAll calls
  have entries : KeyTable.HoldsFirst entry r calls := DecoderRegistry.holdsFirst_registerEach calls
  refine ⟨fun p => ⟨tables.decoders.get?_eq p, tables.names.get?_eq p⟩,
    fun c => ⟨fun _ => c.shownName_of_given, c.shownName_of_missing⟩,
    ⟨tables.decoders.keys_eq, t.decoders.nodup⟩, ⟨(List.length_map _).symm, fun p => ?_⟩,
    fun c => ?_, fun p => ?_, tables.decoders.keys_eq.trans entries.keys_eq.symm, fun c => ?_⟩
  · refine ⟨KeyTable.contains_iff, KeyTable.contains_iff, ?_⟩
    rw [← tables.keys_eq]
    exact KeyTable.contains_iff
  · exact ⟨fun first => perform_of_present tables, fun absent => by
      rw [perform_of_absent tables absent]⟩
  · rw [DecoderRegistry.nameOf?, entries.get?_eq, Option.map_map, Option.map_map]
    exact ⟨tables.decoders.get?_eq p, tables.names.get?_eq p⟩
  · cases found : firstCall calls c.program with
    | some first =>
      rw [perform_of_present tables found, DecoderRegistry.register_of_present entries found]
      rfl
    | none =>
      rw [perform_of_absent tables found, DecoderRegistry.register_of_absent entries found]
      rfl

/-- Two programs, one of which is registered again: its second name is not used. -/
theorem registered_exactly_of_repetition :
    let refuse : Decoder := fun _ _ => .error .wrongType
    let again : RegisterCall := ⟨Token.program.id, refuse, some "again"⟩
    let calls : List RegisterCall := [⟨Token.program.id, Token.program.decoder, some ""⟩,
      ⟨SystemProgram.program.id, refuse, none⟩]
    let w := performAll calls { state := {} }
    w.state.programs = [Token.program.id, SystemProgram.program.id] ∧
      again.perform w = (.error (.report
        { facts := .configuration
          message := s!"a decoder is already registered for program {Token.program.id.text}"
          details := .record [("program_id", .text Token.program.id.text),
            ("name", .text Token.program.id.text)] }), w) := by
  intro refuse again calls w
  obtain ⟨-, -, ⟨programs, -⟩, -, repeated, -⟩ := registered_exactly calls
  refine ⟨programs.trans (by decide +kernel), ?_⟩
  exact (repeated again).1 ⟨Token.program.id, Token.program.decoder, some ""⟩ rfl

end RegisterCall
end SolanaWire
