import Mathlib.Data.List.Nodup
import SolanaWire.Builtin.Token
import SolanaWire.Proofs.InstructionData

/-!
# The two lookups of a definition

A definition finds the variant of a type id, and the type id of a variant.  A type id that is found
is always one of its variant.  The converse is not so: one variant may have been entered under
several type ids, and it is the last of them that it is encoded with.  The lookups are inverse to
each other exactly if no variant was entered twice, and then every instruction is restored from its
payload.
-/
namespace SolanaWire
open Outcome

namespace Definition

variable {d : Definition} {v : Variant} {typeId : Int}

theorem variantFor?_of_typeIdOf? (found : d.typeIdOf? v = some typeId) :
    d.variantFor? typeId = some v :=
  variantFor?_eq_some_iff.2 (mem_entries_of_typeIdOf? found)

theorem mem_variants_iff : v ∈ d.entries.map (·.2) ↔ ∃ typeId, d.typeIdOf? v = some typeId := by
  rw [← Option.isSome_iff_exists, typeIdOf?, Option.isSome_map, List.find?_isSome]
  simp [eq_comm]

/-- The type id of a variant is the last one that it was entered under. -/
theorem typeIdOf?_eq_some_iff :
    d.typeIdOf? v = some typeId ↔ ∃ before after, d.entries = before ++ (typeId, v) :: after ∧
      ∀ e ∈ after, e.2 ≠ v := by
  simp only [typeIdOf?, Option.map_eq_some_iff, List.find?_eq_some_iff_append]
  constructor
  · rintro ⟨⟨_, w⟩, ⟨same, later, earlier, reversed, others⟩, rfl⟩
    obtain rfl : w = v := by simpa using same
    have whole := congrArg List.reverse reversed
    exact ⟨earlier.reverse, later.reverse, by simpa using whole, by simpa using others⟩
  · rintro ⟨before, after, whole, others⟩
    refine ⟨(typeId, v), ⟨by simp, after.reverse, before.reverse, by simp [whole], ?_⟩, rfl⟩
    simpa using others

theorem typeIdOf?_of_nodup (distinct : (d.entries.map (·.2)).Nodup)
    (entry : (typeId, v) ∈ d.entries) : d.typeIdOf? v = some typeId := by
  obtain ⟨last, found⟩ := mem_variants_iff.1 (List.mem_map_of_mem entry)
  have same := List.inj_on_of_nodup_map distinct (mem_entries_of_typeIdOf? found) entry rfl
  rw [found, (Prod.mk.inj same).1]

/-- The lookups are inverse to each other exactly if no variant was entered twice. -/
theorem inverse_iff_nodup :
    (∀ typeId v, d.variantFor? typeId = some v → d.typeIdOf? v = some typeId) ↔
      (d.entries.map (·.2)).Nodup := by
  constructor
  · intro inverse
    apply List.Nodup.map_on
    · intro e member e' member' same
      have own := inverse e.1 e.2 (variantFor?_eq_some_iff.2 member)
      have own' := inverse e'.1 e'.2 (variantFor?_eq_some_iff.2 member')
      rw [same, own', Option.some.injEq] at own
      exact Prod.ext own.symm same
    · exact List.Nodup.of_map _ d.nodup
  · intro distinct typeId v found
    exact typeIdOf?_of_nodup distinct (variantFor?_eq_some_iff.1 found)

/-- The entries of a definition that is made are those that it is made from. -/
theorem entries_of_ofList {tag : Option IntFormat} {entries : List (Int × Variant)}
    (made : ofList tag entries = .ok d) : d.entries = entries ∧ d.tag = tag := by
  unfold ofList at made
  split at made
  · cases made
  · split at made
    · cases made
    · cases made
      exact ⟨rfl, rfl⟩

/-- Two type ids that are entered with a variant have their bytes in common only if they are the
same. -/
theorem encodeTag_eq_iff {typeId' : Int} {tag : List UInt8} (begins : d.IsTag typeId tag)
    (entry : (typeId, v) ∈ d.entries) (entry' : (typeId', v) ∈ d.entries) :
    d.encodeTag (.int typeId') = .ok tag ↔ typeId' = typeId := by
  cases tagged : d.tag with
  | none =>
    obtain ⟨e, single⟩ := List.length_eq_one_iff.1 (d.untagged tagged)
    rw [single, List.mem_singleton] at entry entry'
    have same : typeId' = typeId := (Prod.mk.inj (entry'.trans entry.symm)).1
    simp [same, begins.written]
  | some f =>
    constructor
    · intro written
      have begins' : d.IsTag typeId' tag := ⟨by simp [tagged], written⟩
      have same : tag ++ [] = tag ++ [] := rfl
      exact (begins'.unique begins same).1
    · rintro rfl
      exact begins.written

end Definition

theorem Variant.decode_of_read {v : Variant} {bytes : List UInt8} {params : List Value}
    (read : v.read bytes = .ok params) : v.form.decode bytes = .ok params := by
  unfold Variant.read at read
  split at read
  · cases read
  split at read
  · cases read
  rename_i decoded
  split at read
  · cases read
  · rw [decoded, Except.ok.inj read]

/-- What is decoded is of the variant whose type id is split off the data.  There are accounts
enough for the variant, and the rest of the data is read as its parameters. -/
theorem Program.steps_of_decode {P : Program} {accounts : List Account} {data : List UInt8}
    {i : Structured} (decoded : P.decode accounts data = .ok i) :
    ∃ typeId bytes v params, P.definition.split? data = some (typeId, bytes) ∧
      P.definition.variantFor? typeId = some v ∧ v.minAccounts ≤ accounts.length ∧
      v.read bytes = .ok params ∧ i = ⟨P, typeId, .ofRead v params accounts⟩ := by
  unfold decode at decoded
  split at decoded
  · cases decoded
  rename_i typeId bytes split
  split at decoded
  · cases decoded
  rename_i v found
  split at decoded
  · cases decoded
  split at decoded
  · cases decoded
  rename_i enough
  obtain ⟨params, read, same⟩ := bind_eq_ok_iff.1 decoded
  cases same
  exact ⟨typeId, bytes, v, params, split, found, by omega, read, rfl⟩

/-- What is decoded begins with its type id and is of the variant that has it.  Its parameters are
those that the rest of the data stands for. -/
theorem Program.exists_of_decode {P : Program} {accounts : List Account} {data : List UInt8}
    {i : Structured} (decoded : P.decode accounts data = .ok i) :
    ∃ tag bytes, P.definition.IsTag i.typeId tag ∧ data = tag ++ bytes ∧ i.program = P ∧
      (i.typeId, i.payload.variant) ∈ P.definition.entries ∧
      i.payload.variant.form.Accepts bytes i.payload.params := by
  obtain ⟨typeId, bytes, v, params, split, found, -, read, rfl⟩ := steps_of_decode decoded
  obtain ⟨tag, begins, whole⟩ := Definition.split?_eq_some_iff.1 split
  exact ⟨tag, bytes, begins, whole, rfl, Definition.variantFor?_eq_some_iff.1 found,
    Form.decode_eq_ok_iff.1 (Variant.decode_of_read read)⟩

/-- What is decoded has the accounts that it is decoded with, and its variant needs no more. -/
theorem Program.accounts_of_decode {P : Program} {accounts : List Account} {data : List UInt8}
    {i : Structured} (decoded : P.decode accounts data = .ok i) :
    i.payload.accounts = accounts ∧ i.payload.variant.minAccounts ≤ accounts.length := by
  obtain ⟨typeId, bytes, v, params, -, -, enough, -, rfl⟩ := steps_of_decode decoded
  exact ⟨rfl, enough⟩

namespace Structured

theorem data_eq_ok_iff {i : Structured} {out : List UInt8} :
    i.data = .ok out ↔ ∃ tag params, i.program.definition.encodeTag (.int i.typeId) = .ok tag ∧
      i.payload.encode = .ok params ∧ out = tag ++ params := by
  simp only [data, bind_eq_ok_iff]
  constructor
  · rintro ⟨tag, written, params, encoded, same⟩
    cases same
    exact ⟨tag, params, written, encoded, rfl⟩
  · rintro ⟨tag, params, written, encoded, rfl⟩
    exact ⟨tag, written, params, encoded, rfl⟩

variable {P : Program} {accounts : List Account} {bytes : List UInt8} {i : Structured}

/-- A payload that has been decoded is of its program again, under the last type id of its
variant. -/
theorem exists_wrap (decoded : P.decode accounts bytes = .ok i) :
    ∃ typeId, P.definition.typeIdOf? i.payload.variant = some typeId ∧
      wrap P i.payload = .ok ⟨P, typeId, i.payload⟩ := by
  obtain ⟨-, -, -, -, -, entry, -⟩ := Program.exists_of_decode decoded
  obtain ⟨typeId, found⟩ := Definition.mem_variants_iff.1 (List.mem_map_of_mem entry)
  exact ⟨typeId, found, by simp [wrap, found]⟩

/-- It equals what was decoded if its type id is the same. -/
theorem eqv_iff_of_decode (decoded : P.decode accounts bytes = .ok i) (typeId : Int) :
    eqv ⟨P, typeId, i.payload⟩ i ↔ typeId = i.typeId := by
  obtain ⟨_, _, -, -, program, -, accepted⟩ := Program.exists_of_decode decoded
  simp [eqv, Payload.eqv, program, Form.eqvItems_self accepted.admits]

/-- It is written as what was decoded if its type id is the same. -/
theorem data_eq_iff_of_decode (decoded : P.decode accounts bytes = .ok i) {typeId : Int}
    (found : P.definition.typeIdOf? i.payload.variant = some typeId) {out : List UInt8}
    (written : i.data = .ok out) :
    data ⟨P, typeId, i.payload⟩ = .ok out ↔ typeId = i.typeId := by
  obtain ⟨tag, -, begins, -, program, entry, -⟩ := Program.exists_of_decode decoded
  obtain ⟨tag', params, own, encoded, rfl⟩ := data_eq_ok_iff.1 written
  rw [program, begins.written, Except.ok.injEq] at own
  subst own
  rw [← Definition.encodeTag_eq_iff begins entry (Definition.mem_entries_of_typeIdOf? found),
    data_eq_ok_iff]
  constructor
  · rintro ⟨front, params', written', encoded', same⟩
    rw [encoded, Except.ok.injEq] at encoded'
    subst encoded'
    rw [List.append_cancel_right same]
    exact written'
  · intro written'
    exact ⟨tag, params, written', encoded, rfl⟩

end Structured

/-- The lookups of every definition that can be made.  A type id that is found for a variant is the
last one that it was entered under, and is one of the variant.  The lookups are inverse to each
other exactly if no variant was entered twice.  An instruction that was decoded is restored from its
payload exactly if its type id is the last one of its variant, and so always if no variant was
entered twice. -/
theorem Definition.lookups_exactly {tag : Option IntFormat} {entries : List (Int × Variant)}
    {d : Definition} (made : ofList tag entries = .ok d) :
    (∀ v, v ∈ entries.map (·.2) ↔ ∃ typeId, d.typeIdOf? v = some typeId) ∧
    (∀ v typeId, d.typeIdOf? v = some typeId ↔ ∃ before after,
      entries = before ++ (typeId, v) :: after ∧ ∀ e ∈ after, e.2 ≠ v) ∧
    (∀ v typeId, d.typeIdOf? v = some typeId → d.variantFor? typeId = some v) ∧
    ((∀ typeId v, d.variantFor? typeId = some v → d.typeIdOf? v = some typeId) ↔
      (entries.map (·.2)).Nodup) ∧
    ∀ P : Program, P.definition = d → ∀ accounts bytes i, P.decode accounts bytes = .ok i →
      ∃ j, Structured.wrap P i.payload = .ok j ∧ j.payload = i.payload ∧
        d.typeIdOf? i.payload.variant = some j.typeId ∧
        (j.eqv i ↔ j.typeId = i.typeId) ∧
        (∀ out, i.data = .ok out → (j.data = .ok out ↔ j.typeId = i.typeId)) ∧
        ((entries.map (·.2)).Nodup → j = i ∧ j.eqv i) := by
  obtain ⟨rfl, -⟩ := entries_of_ofList made
  refine ⟨fun v => mem_variants_iff, fun v typeId => typeIdOf?_eq_some_iff,
    fun v typeId => variantFor?_of_typeIdOf?, inverse_iff_nodup, ?_⟩
  rintro P rfl accounts bytes i decoded
  obtain ⟨typeId, found, wrapped⟩ := Structured.exists_wrap decoded
  have same := Structured.eqv_iff_of_decode decoded typeId
  refine ⟨_, wrapped, rfl, found, same,
    fun out written => Structured.data_eq_iff_of_decode decoded found written, fun distinct => ?_⟩
  obtain ⟨-, -, -, -, program, entry, -⟩ := Program.exists_of_decode decoded
  have restored := typeIdOf?_of_nodup distinct entry
  rw [found, Option.some.injEq] at restored
  subst program
  exact ⟨by rw [restored], same.2 restored⟩

/-- In the table of the token programs the lookups are inverse to each other. -/
theorem Definition.lookups_exactly_of_tokens :
    ofList (some .u8) Token.definition.entries = .ok Token.definition ∧
      (Token.definition.entries.map (·.2)).Nodup ∧
      ∀ typeId v, Token.definition.variantFor? typeId = some v →
        Token.definition.typeIdOf? v = some typeId := by
  have made : ofList (some .u8) Token.definition.entries = .ok Token.definition := by
    decide +kernel
  have distinct : (Token.definition.entries.map (·.2)).Nodup := by decide
  exact ⟨made, distinct, (lookups_exactly made).2.2.2.1.2 distinct⟩

/-- A table with one variant under two type ids. -/
def Definition.doubled : Definition where
  tag := some .u8
  entries := [(0, Token.closeAccount), (1, Token.closeAccount)]
  nodup := by decide
  untagged := by simp

/-- The table can be made, but its lookups are not inverse to each other: an instruction with the
first type id is not restored from its payload, and is written with the second one. -/
theorem Definition.doubled_not_inverse :
    ofList (some .u8) [(0, Token.closeAccount), (1, Token.closeAccount)] = .ok doubled ∧
      doubled.variantFor? 0 = some Token.closeAccount ∧
      doubled.typeIdOf? Token.closeAccount = some 1 ∧
      let P : Program := { Token.program with definition := doubled }
      let accounts : List Account := List.replicate 3 ⟨.ofNat 9, true, false⟩
      ∃ i j, P.decode accounts [0] = .ok i ∧ Structured.wrap P i.payload = .ok j ∧
        j.eqv i = false ∧ i.data = .ok [0] ∧ j.data = .ok [1] := by
  have last : doubled.typeIdOf? Token.closeAccount = some 1 := by decide
  refine ⟨by decide +kernel, rfl, last, ?_⟩
  intro P accounts
  have begins : doubled.IsTag 0 [0] := (isTag_of_tag rfl).2 ⟨by decide, by decide⟩
  have entry : (0, Token.closeAccount) ∈ doubled.entries := by simp [doubled]
  have plain : Token.closeAccount.HidesNothing := by decide +kernel
  have accepted : Token.closeAccount.form.Accepts [] [] := Form.decode_eq_ok_iff.1 rfl
  have decoded : P.decode accounts ([0] ++ []) =
      .ok ⟨P, 0, .ofRead Token.closeAccount [] accounts⟩ :=
    Program.decode_of_accepts begins entry plain.isOrdinary (by decide) accepted
  refine ⟨_, ⟨P, 1, .ofRead Token.closeAccount [] accounts⟩, decoded, ?_, ?_, rfl, rfl⟩
  · simp [Structured.wrap, Payload.ofRead, P, last]
  · simp [Structured.eqv]

end SolanaWire
