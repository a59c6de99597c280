import SolanaWire.Proofs.Regularity

/-!
# Accepted data

A regular program accepts the data that its grammar describes, with enough accounts, and refuses
all other data.  It refuses for the first reason there is: no type id, an unknown type id, too few
accounts, or bytes that are no parameters.  Every refusal of a built-in program is a report about
its instruction data.
-/
namespace SolanaWire
open Outcome

namespace Program

/-- The grammar of instruction data: a type id, and a wire form of parameters of its variant.
Anything may follow. -/
structure Spells (P : Program) (typeId : Int) (v : Variant) (params : List Value)
    (tag : List UInt8) (cells : List Cell) : Prop where
  begins : P.definition.IsTag typeId tag
  entry : (typeId, v) ∈ P.definition.entries
  spelled : v.form.Spells params cells

/-- The meanings of some data as an instruction of a program. -/
def Means (P : Program) (data : List UInt8) (typeId : Int) (v : Variant)
    (params : List Value) : Prop :=
  ∃ tag cells rest, P.Spells typeId v params tag cells ∧ data = tag ++ bytesOf cells ++ rest

/-- Why a program refuses data.  Each reason excludes those before it. -/
inductive Refuses (P : Program) (accounts : List Account) (data : List UInt8) : DecodeFault → Prop
  | tooShort (short : data.length < P.definition.tagWidth) :
      Refuses P accounts data (.tooShort data.length P.definition.tagWidth)
  | unknownTypeId {typeId : Int} {tag bytes : List UInt8}
      (begins : P.definition.IsTag typeId tag) (whole : data = tag ++ bytes)
      (unknown : ∀ v, (typeId, v) ∉ P.definition.entries) :
      Refuses P accounts data (.unknownTypeId typeId)
  | tooFewAccounts {typeId : Int} {v : Variant} {tag bytes : List UInt8}
      (begins : P.definition.IsTag typeId tag) (whole : data = tag ++ bytes)
      (entry : (typeId, v) ∈ P.definition.entries)
      (few : (accounts.length : Int) < v.minAccounts) :
      Refuses P accounts data (.tooFewAccounts v.name accounts.length v.minAccounts)
  | malformed {typeId : Int} {v : Variant} {tag bytes : List UInt8} {fault : LayoutFault}
      (begins : P.definition.IsTag typeId tag) (whole : data = tag ++ bytes)
      (entry : (typeId, v) ∈ P.definition.entries)
      (enough : v.minAccounts ≤ accounts.length)
      (unreadable : ∀ params, ¬ v.form.Accepts bytes params)
      (reason : v.form.decode bytes = .error fault) :
      Refuses P accounts data (.malformed v.name fault)

/-- What a program makes of data: an instruction of the variant whose type id the data begins with,
if there are accounts enough and the rest stands for parameters. -/
inductive Accepts (P : Program) (accounts : List Account) (data : List UInt8) : Structured → Prop
  | instruction {typeId : Int} {v : Variant} {tag bytes : List UInt8} {params : List Value}
      (begins : P.definition.IsTag typeId tag) (whole : data = tag ++ bytes)
      (entry : (typeId, v) ∈ P.definition.entries)
      (enough : v.minAccounts ≤ accounts.length) (accepted : v.form.Accepts bytes params) :
      Accepts P accounts data ⟨P, typeId, .ofRead v params accounts⟩

/-- The data that begins with a type id of a program does so in one way only. -/
theorem entry_unique {P : Program} {typeId typeId' : Int} {v v' : Variant}
    {tag tag' bytes bytes' : List UInt8} (begins : P.definition.IsTag typeId tag)
    (entry : (typeId, v) ∈ P.definition.entries) (begins' : P.definition.IsTag typeId' tag')
    (entry' : (typeId', v') ∈ P.definition.entries) (same : tag ++ bytes = tag' ++ bytes') :
    typeId = typeId' ∧ v = v' ∧ bytes = bytes' := by
  obtain ⟨rfl, rfl⟩ := begins.unique begins' same
  have found := Definition.variantFor?_eq_some_iff.2 entry
  rw [Definition.variantFor?_eq_some_iff.2 entry', Option.some.injEq] at found
  exact ⟨rfl, found.symm, rfl⟩

/-- Data has at most one meaning as an instruction of a program. -/
theorem Means.unique {P : Program} {data : List UInt8} {typeId typeId' : Int} {v v' : Variant}
    {params params' : List Value} (h : P.Means data typeId v params)
    (h' : P.Means data typeId' v' params') :
    typeId = typeId' ∧ v = v' ∧ params = params' := by
  obtain ⟨tag, cells, rest, spells, rfl⟩ := h
  obtain ⟨tag', cells', rest', spells', same⟩ := h'
  rw [List.append_assoc, List.append_assoc] at same
  obtain ⟨rfl, rfl, tails⟩ :=
    entry_unique spells.begins spells.entry spells'.begins spells'.entry same
  have read := Form.decode_eq_ok_iff.2 (.fields spells.spelled rest)
  have read' := Form.decode_eq_ok_iff.2 (.fields spells'.spelled rest')
  rw [tails, read', Except.ok.injEq] at read
  exact ⟨rfl, rfl, read.symm⟩

/-- Decoding ends with the first reason to refuse, or with an instruction. -/
theorem IsRegular.decode_cases {P : Program} (h : P.IsRegular) (accounts : List Account)
    (data : List UInt8) :
    (∃ fault, P.decode accounts data = .error fault ∧ P.Refuses accounts data fault) ∨
      ∃ i, P.decode accounts data = .ok i ∧ P.Accepts accounts data i := by
  cases split : P.definition.split? data with
  | none =>
    have short := Definition.split?_eq_none_iff.1 split
    exact .inl ⟨_, by rw [decode, split], .tooShort short⟩
  | some s =>
    obtain ⟨typeId, bytes⟩ := s
    obtain ⟨tag, begins, rfl⟩ := Definition.split?_eq_some_iff.1 split
    cases found : P.definition.variantFor? typeId with
    | none =>
      have unknown (v : Variant) : (typeId, v) ∉ P.definition.entries := by
        intro entry
        rw [Definition.variantFor?_eq_some_iff.2 entry] at found
        cases found
      exact .inl ⟨_, by simp only [decode, split, found], .unknownTypeId begins rfl unknown⟩
    | some v =>
      have entry := Definition.variantFor?_eq_some_iff.1 found
      have decoded := decode_of_isTag begins entry (h.ordinary _ entry) accounts bytes
      by_cases few : (accounts.length : Int) < v.minAccounts
      · rw [if_pos few] at decoded
        exact .inl ⟨_, decoded, .tooFewAccounts begins rfl entry few⟩
      · have enough : v.minAccounts ≤ accounts.length := by omega
        rw [if_neg few] at decoded
        cases read : v.form.decode bytes with
        | error fault =>
          have unreadable (params : List Value) : ¬ v.form.Accepts bytes params := by
            intro accepted
            rw [Form.decode_eq_ok_iff.2 accepted] at read
            cases read
          rw [read, mapError_error, error_bind] at decoded
          exact .inl ⟨_, decoded, .malformed begins rfl entry enough unreadable read⟩
        | ok params =>
          have accepted := Form.decode_eq_ok_iff.1 read
          rw [read, mapError_ok, ok_bind] at decoded
          exact .inr ⟨_, decoded, .instruction begins rfl entry enough accepted⟩

/-- Data is decoded exactly if it is accepted. -/
theorem IsRegular.decode_eq_ok_iff {P : Program} (h : P.IsRegular) {accounts : List Account}
    {data : List UInt8} {i : Structured} :
    P.decode accounts data = .ok i ↔ P.Accepts accounts data i := by
  constructor
  · intro decoded
    rcases h.decode_cases accounts data with ⟨fault, refused, _⟩ | ⟨j, other, accepts⟩
    · rw [decoded] at refused
      cases refused
    · rw [decoded, Except.ok.injEq] at other
      exact other ▸ accepts
  · rintro ⟨begins, rfl, entry, enough, accepted⟩
    exact decode_of_accepts begins entry (h.ordinary _ entry) enough accepted

theorem IsRegular.entry_of_decode {P : Program} (h : P.IsRegular) {accounts : List Account}
    {data : List UInt8} {i : Structured} (decoded : P.decode accounts data = .ok i) :
    i.program = P ∧ (i.typeId, i.payload.variant) ∈ P.definition.entries := by
  obtain ⟨begins, whole, entry, enough, accepted⟩ := h.decode_eq_ok_iff.1 decoded
  exact ⟨rfl, entry⟩

/-- Data is refused for a reason exactly if the reason is the first that there is. -/
theorem IsRegular.decode_eq_error_iff {P : Program} (h : P.IsRegular) {accounts : List Account}
    {data : List UInt8} {fault : DecodeFault} :
    P.decode accounts data = .error fault ↔ P.Refuses accounts data fault := by
  constructor
  · intro refused
    rcases h.decode_cases accounts data with ⟨other, decoded, reason⟩ | ⟨i, decoded, _⟩
    · rw [refused, Except.error.injEq] at decoded
      exact decoded ▸ reason
    · rw [refused] at decoded
      cases decoded
  · intro reason
    cases reason with
    | tooShort short => rw [decode, Definition.split?_eq_none_iff.2 short]
    | @unknownTypeId typeId tag bytes begins whole unknown =>
      have split := Definition.split?_eq_some_iff.2 ⟨tag, begins, whole⟩
      have missing : P.definition.variantFor? typeId = none := by
        rw [Option.eq_none_iff_forall_ne_some]
        intro v found
        exact unknown v (Definition.variantFor?_eq_some_iff.1 found)
      simp only [decode, split, missing]
    | tooFewAccounts begins whole entry few =>
      rw [whole, decode_of_isTag begins entry (h.ordinary _ entry), if_pos few]
    | malformed begins whole entry enough unreadable read =>
      rw [whole, decode_of_isTag begins entry (h.ordinary _ entry), if_neg (by omega), read,
        mapError_error, error_bind]

/-- What a program refuses is reported with the program. -/
theorem Refuses.failure {P : Program} {accounts : List Account} {data : List UInt8}
    {fault : DecodeFault} (h : P.Refuses accounts data fault) :
    ∃ details, (fault.failure P).fault =
      .reported ⟨.instructionDecode (.key P.id) .null, fault.message P, details⟩ := by
  cases h <;> exact ⟨_, rfl⟩

/-- What has a wire form has the types of the variant, and is written as that wire form with each
set flag made one. -/
theorem Spells.encode {P : Program} {typeId : Int} {v : Variant} {params : List Value}
    {tag : List UInt8} {cells : List Cell} (h : P.Spells typeId v params tag cells)
    (unambiguous : v.form.isUnambiguous) :
    v.form.admits params ∧ v.form.encode params = .ok (canonicalOf cells) := by
  have accepted : v.form.Accepts (bytesOf cells ++ []) params := .fields h.spelled []
  exact ⟨accepted.admits, h.spelled.encode unambiguous⟩

theorem Spells.of_sameUpToFlags {P : Program} {typeId : Int} {v : Variant} {params : List Value}
    {tag : List UInt8} {cells others : List Cell} (h : P.Spells typeId v params tag cells)
    (same : sameUpToFlags others cells) : P.Spells typeId v params tag others where
  begins := h.begins
  entry := h.entry
  spelled := h.spelled.of_sameUpToFlags same

/-- If all parameters are fields, the data that is decoded is the data that has a meaning. -/
theorem IsRegular.decode_eq_ok_iff_means {P : Program} (h : P.IsRegular)
    (unambiguous : ∀ e ∈ P.definition.entries, e.2.form.isUnambiguous) {accounts : List Account}
    {data : List UInt8} {i : Structured} :
    P.decode accounts data = .ok i ↔
      ∃ typeId v params, P.Means data typeId v params ∧ v.minAccounts ≤ accounts.length ∧
        i = ⟨P, typeId, .ofRead v params accounts⟩ := by
  rw [h.decode_eq_ok_iff]
  constructor
  · intro accepts
    obtain ⟨begins, whole, entry, enough, accepted⟩ := accepts
    obtain ⟨cells, rest, spelled, rfl⟩ :=
      (Form.accepts_iff_of_isUnambiguous (unambiguous _ entry)).1 accepted
    refine ⟨_, _, _, ⟨_, cells, rest, ⟨begins, entry, spelled⟩, ?_⟩, enough, rfl⟩
    rw [whole, List.append_assoc]
  · rintro ⟨typeId, v, params, ⟨tag, cells, rest, spells, rfl⟩, enough, rfl⟩
    have accepted := Form.Accepts.fields spells.spelled rest
    exact .instruction spells.begins (List.append_assoc ..) spells.entry enough accepted

end Program

namespace AssociatedToken

/-- The parameters of the only variant are spelled in three ways. -/
theorem accepts_iff {bytes : List UInt8} {params : List Value} :
    create.form.Accepts bytes params ↔
      bytes ∈ [[], [0], [1]] ∧ params = [.bool (bytes = [1])] := by
  constructor
  · intro accepted
    cases accepted with
    | fields spelled => cases spelled
    | _ => exact ⟨by decide, rfl⟩
  · rintro ⟨spelled, rfl⟩
    simp only [List.mem_cons, List.not_mem_nil, or_false] at spelled
    rcases spelled with rfl | rfl | rfl
    · exact .absent _
    · exact .clear _
    · exact .set _

theorem decode_eq_ok_iff {accounts : List Account} {data : List UInt8} {i : Structured} :
    program.decode accounts data = .ok i ↔ data ∈ [[], [0], [1]] ∧ 6 ≤ accounts.length ∧
      i = ⟨program, 0, .ofRead create [.bool (data = [1])] accounts⟩ := by
  have builtin : program ∈ Builtin.programs := by decide +kernel
  have only : program.definition.entries = [(0, create)] := rfl
  rw [(Builtin.isRegular builtin).decode_eq_ok_iff]
  constructor
  · rintro ⟨begins, rfl, entry, enough, accepted⟩
    obtain ⟨rfl, rfl⟩ := (Definition.isTag_of_untagged rfl).1 begins
    rw [only, List.mem_singleton, Prod.mk.injEq] at entry
    obtain ⟨-, rfl⟩ := entry
    obtain ⟨spelled, rfl⟩ := accepts_iff.1 accepted
    have six : create.minAccounts = 6 := rfl
    exact ⟨spelled, by omega, rfl⟩
  · rintro ⟨spelled, enough, rfl⟩
    have six : create.minAccounts = 6 := rfl
    have begins : program.definition.IsTag 0 [] := (Definition.isTag_of_untagged rfl).2 ⟨rfl, rfl⟩
    have accepted := accepts_iff.2 ⟨spelled, rfl⟩
    exact .instruction begins rfl (by simp [only]) (by omega) accepted

end AssociatedToken

end SolanaWire
