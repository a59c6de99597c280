import Mathlib.Data.List.TakeWhile
import SolanaWire.Proofs.Verdicts
import SolanaWire.Rpc.Signatures

/-!
# Histories

The history of an address is a list of entries, newest first, each with a signature of its own.  A
node has it, and a request names a range of it: what comes after one signature, down to another one.
The entries after an entry of the range, down to the same signature, are the rest of the range.
-/
namespace SolanaWire.Rpc

/-- The signature of an entry. -/
def signature? (entry : Value) : Option String :=
  match entry.field? "signature" with
  | some (.text s) => some s
  | _ => none

/-- Entries with signatures that are not empty and of which no two are equal. -/
structure IsHistory (entries : List Value) : Prop where
  signed : ∀ e ∈ entries, ∃ s, signature? e = some s ∧ s ≠ ""
  distinct : (entries.map signature?).Nodup

/-- The entries strictly after the one of a signature; all of them if there is no signature. -/
def entriesAfter (entries : List Value) : Option String → List Value
  | none => entries
  | some s => (entries.dropWhile (fun e => signature? e ≠ some s)).tail

/-- The entries strictly before the one of a signature; all of them if none has it. -/
def entriesUntil (entries : List Value) : Option String → List Value
  | none => entries
  | some s => entries.takeWhile (fun e => signature? e ≠ some s)

/-- The entries strictly after one signature, down to another one. -/
def entriesBetween (entries : List Value) (before stop : Option String) : List Value :=
  entriesUntil (entriesAfter entries before) stop

/-- The text of an option. -/
def optionText? (options : Fields) (name : String) : Option String :=
  match options.lookup name with
  | some (.text s) => some s
  | _ => none

/-- The commitment levels at which a node lists signatures. -/
def listedCommitments : List String := ["confirmed", "finalized"]

/-- What a node with a history answers to a request for at most `limit` entries. -/
def answered (entries : List Value) (options : Fields) (limit : Nat) : List Value :=
  (entriesBetween entries (optionText? options "before") (optionText? options "until")).take limit

variable {entries : List Value} {before stop : Option String}

/-- The entry of a signature has it as a field. -/
theorem entry_signature {e : Value} {s : String} (signed : signature? e = some s) :
    entry "signature" e = .ok (.text s) := by
  rw [entry_eq_ok_iff]
  cases e with
  | record fs =>
    refine ⟨fs, rfl, ?_⟩
    simp only [signature?, Value.field?] at signed
    split at signed
    · cases signed
      assumption
    · cases signed
  | _ => cases signed

theorem isSuffix_entriesAfter : entriesAfter entries before <:+ entries := by
  cases before with
  | none => exact List.suffix_rfl
  | some s => exact (List.tail_suffix _).trans (List.dropWhile_suffix _)

theorem isPrefix_entriesUntil : entriesUntil entries stop <+: entries := by
  cases stop with
  | none => exact List.prefix_rfl
  | some s => exact List.takeWhile_prefix _

/-- No entry has an empty signature. -/
theorem entriesUntil_filter (signed : ∀ e ∈ entries, ∃ s, signature? e = some s ∧ s ≠ "") :
    entriesUntil entries (stop.filter (· ≠ "")) = entriesUntil entries stop := by
  cases stop with
  | none => rfl
  | some s =>
    by_cases empty : s = ""
    · subst empty
      have others : ∀ e ∈ entries, decide (signature? e ≠ some "") = true := by
        intro e member
        obtain ⟨s, signed, nonempty⟩ := signed e member
        simpa [signed] using nonempty
      exact (List.takeWhile_eq_self_iff.2 others).symm
    · simp [Option.filter, empty]

/-- A range is a part of the history, in its order. -/
theorem isInfix_entriesBetween : entriesBetween entries before stop <:+: entries :=
  isPrefix_entriesUntil.isInfix.trans isSuffix_entriesAfter.isInfix

theorem IsHistory.distinct_between (history : IsHistory entries) :
    ((entriesBetween entries before stop).map signature?).Nodup :=
  history.distinct.sublist (isInfix_entriesBetween.sublist.map _)

/-- The entries after one of them. -/
theorem entriesAfter_eq {newer older : List Value} {e : Value} {s : String}
    (history : IsHistory entries) (split : entries = newer ++ e :: older)
    (signed : signature? e = some s) : entriesAfter entries (some s) = older := by
  subst split
  have distinct := history.distinct
  rw [List.map_append, List.map_cons, List.nodup_append] at distinct
  have others : ∀ a ∈ newer, decide (signature? a ≠ some s) = true := by
    intro a member
    have differ := distinct.2.2 (signature? a) (List.mem_map_of_mem member) (signature? e) (by simp)
    rw [signed] at differ
    exact decide_eq_true differ
  rw [entriesAfter, List.dropWhile_append_of_pos others,
    List.dropWhile_cons_of_neg (by simp [signed])]
  rfl

/-- What is left of the entries down to a signature when the first ones are gone. -/
theorem entriesUntil_drop {count : Nat} (inside : count ≤ (entriesUntil entries stop).length) :
    entriesUntil (entries.drop count) stop = (entriesUntil entries stop).drop count := by
  cases stop with
  | none => rfl
  | some s =>
    simp only [entriesUntil] at inside ⊢
    induction entries generalizing count with
    | nil => simp
    | cons e entries ih =>
      cases count with
      | zero => rfl
      | succ count =>
        rw [List.takeWhile_cons] at inside ⊢
        split at inside
        · rename_i other
          rw [if_pos other, List.drop_succ_cons, List.drop_succ_cons]
          exact ih (by simpa using inside)
        · simp at inside

/-- A range goes on after each of its entries. -/
theorem entriesBetween_eq_drop (history : IsHistory entries) {i : Nat} {e : Value} {s : String}
    (found : (entriesBetween entries before stop)[i]? = some e) (signed : signature? e = some s) :
    entriesBetween entries (some s) stop = (entriesBetween entries before stop).drop (i + 1) := by
  obtain ⟨inside, rfl⟩ := List.getElem?_eq_some_iff.1 found
  have whole : entriesUntil (entriesAfter entries before) stop <+: entriesAfter entries before :=
    isPrefix_entriesUntil
  have place : i < (entriesAfter entries before).length :=
    Nat.lt_of_lt_of_le inside whole.length_le
  have same : (entriesBetween entries before stop)[i] = (entriesAfter entries before)[i] :=
    whole.getElem inside
  have rest : entriesAfter entries (some s) = (entriesAfter entries before).drop (i + 1) := by
    obtain ⟨newer, split⟩ := (isSuffix_entriesAfter : entriesAfter entries before <:+ entries)
    have around : entries = (newer ++ (entriesAfter entries before).take i) ++
        (entriesBetween entries before stop)[i] :: (entriesAfter entries before).drop (i + 1) := by
      rw [same, List.append_assoc, ← List.drop_eq_getElem_cons place, List.take_append_drop, split]
    exact entriesAfter_eq history around signed
  rw [entriesBetween, rest]
  exact entriesUntil_drop inside

/-- The first entries of a range end with one whose signature begins the rest. -/
theorem exists_last_eq_drop (history : IsHistory entries) {count : Nat} (positive : 1 ≤ count)
    (inside : count ≤ (entriesBetween entries before stop).length) :
    ∃ e s, (entriesBetween entries before stop)[count - 1]? = some e ∧ signature? e = some s ∧
      s ≠ "" ∧ entriesBetween entries (some s) stop =
        (entriesBetween entries before stop).drop count := by
  obtain ⟨e, last⟩ : ∃ e, (entriesBetween entries before stop)[count - 1]? = some e :=
    ⟨_, List.getElem?_eq_getElem (by omega)⟩
  have member : e ∈ entries := isInfix_entriesBetween.subset (List.mem_of_getElem? last)
  obtain ⟨s, signed, given⟩ := history.signed e member
  have rest := entriesBetween_eq_drop history last signed
  rw [Nat.sub_add_cancel positive] at rest
  exact ⟨e, s, last, signed, given, rest⟩

end SolanaWire.Rpc
