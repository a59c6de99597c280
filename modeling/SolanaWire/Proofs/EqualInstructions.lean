import SolanaWire.Proofs.EqualValues
import SolanaWire.Proofs.Lookups
import SolanaWire.Proofs.NormalForm
import SolanaWire.Proofs.Resolvers

/-!
# Equal instructions

Instructions are compared by their programs, type ids, parameters and accounts, whatever data they
came from.  For those that have been decoded this compares what they mean: two of them are equal
exactly if they are of one program, have the same accounts and are written as the same data.
-/
namespace SolanaWire
open Outcome

namespace FieldType

/-- Equality of values is coarser than identity, since it takes numbers by value.  It is not within
one type: there a number has one form, and a member is known by its number. -/
theorem eq_of_eqv {t : FieldType} {v w : Value} (hv : t.admits v) (hw : t.admits w)
    (equal : v.eqv w) : v = w := by
  induction t generalizing v w with
  | int f =>
    cases v with
    | int m =>
      cases w with
      | int n => rw [Value.eqv_int_iff.1 equal]
      | _ => cases hw
    | _ => cases hv
  | key =>
    cases v with
    | key k =>
      cases w with
      | key l => simpa [Value.eqv] using equal
      | _ => cases hw
    | _ => cases hv
  | hash =>
    cases v with
    | hash k =>
      cases w with
      | hash l => simpa [Value.eqv] using equal
      | _ => cases hw
    | _ => cases hv
  | text =>
    cases v with
    | text s =>
      cases w with
      | text t => simpa [Value.eqv] using equal
      | _ => cases hw
    | _ => cases hv
  | option t ih =>
    by_cases absent : v = .null
    · subst absent
      exact (Value.null_eqv_iff.1 equal).symm
    by_cases absent' : w = .null
    · subst absent'
      exact Value.eqv_null_iff.1 equal
    exact ih ((admits_option.1 hv).resolve_left absent)
      ((admits_option.1 hw).resolve_left absent') equal
  | vec t ih =>
    cases v with
    | list vs =>
      cases w with
      | list ws =>
        simp only [admits, Bool.and_eq_true, List.all_eq_true] at hv hw
        rw [Value.eqv] at equal
        rw [Value.eq_of_eqvItems (fun v mem w mem' => ih (hv.2 v mem) (hw.2 w mem')) equal]
      | _ => cases hw
    | _ => cases hv
  | enumerated f e =>
    cases v with
    | member m =>
      cases w with
      | member n =>
        simp only [admits, Bool.and_eq_true, decide_eq_true_eq] at hv hw
        have number : m.number = n.number := Value.eqv_int_iff.1 equal
        rw [number, hw.1] at hv
        rw [Option.some.inj hv.1]
      | _ => cases hw
    | _ => cases hv

theorem eq_of_eqvItems_of_admitsAll {ts : List FieldType} {vs ws : List Value}
    (hv : admitsAll ts vs) (hw : admitsAll ts ws) (equal : Value.eqvItems vs ws) : vs = ws := by
  induction ts generalizing vs ws with
  | nil =>
    cases vs with
    | nil =>
      cases ws with
      | nil => rfl
      | cons w ws => cases hw
    | cons v vs => cases hv
  | cons t ts ih =>
    cases vs with
    | nil => cases hv
    | cons v vs =>
      cases ws with
      | nil => cases hw
      | cons w ws =>
        rw [admitsAll, Bool.and_eq_true] at hv hw
        rw [Value.eqvItems, Bool.and_eq_true] at equal
        rw [eq_of_eqv hv.1 hw.1 equal.1, ih hv.2 hw.2 equal.2]

end FieldType

/-- Parameters of one form are equal exactly if they are the same. -/
theorem Form.eqvItems_iff {form : Form} {vs ws : List Value} (hv : form.admits vs)
    (hw : form.admits ws) : Value.eqvItems vs ws ↔ vs = ws := by
  constructor
  · intro equal
    cases form with
    | fields fs => exact FieldType.eq_of_eqvItems_of_admitsAll hv hw equal
    | presence flag =>
      match vs, ws, hv, hw with
      | [.bool b], [.bool c], _, _ => cases b <;> cases c <;> first | rfl | cases equal
  · rintro rfl
    exact eqvItems_self hv

namespace Program

variable {P Q : Program} {accounts accounts' : List Account} {data data' : List UInt8}
  {i j : Structured}

/-- Instructions that have been decoded are equal exactly if they are the same. -/
theorem IsRegular.eqv_iff (hP : P.IsRegular) (hQ : Q.IsRegular)
    (decoded : P.decode accounts data = .ok i) (decoded' : Q.decode accounts' data' = .ok j) :
    i.eqv j ↔ i = j := by
  constructor
  · intro equal
    obtain ⟨-, -, -, -, accepted⟩ := hP.decode_eq_ok_iff.1 decoded
    obtain ⟨-, -, -, -, accepted'⟩ := hQ.decode_eq_ok_iff.1 decoded'
    simp only [Structured.eqv, Payload.eqv, Payload.ofRead, Bool.and_eq_true, beq_iff_eq] at equal
    obtain ⟨⟨⟨rfl, rfl⟩, rfl, items⟩, rfl⟩ := equal
    rw [(Form.eqvItems_iff accepted.admits accepted'.admits).1 items]
  · rintro rfl
    obtain ⟨-, -, -, self⟩ := hP.decode_data_of_decode decoded
    exact self

/-- They are the same if they are of one program and have the data that is written for them and the
accounts in common, since both are what the program decodes from these. -/
theorem IsRegular.eq_iff_data (hP : P.IsRegular) (hQ : Q.IsRegular)
    (decoded : P.decode accounts data = .ok i) (decoded' : Q.decode accounts' data' = .ok j) :
    i = j ↔ i.program = j.program ∧ (∃ out, i.data = .ok out ∧ j.data = .ok out) ∧
      i.payload.accounts = j.payload.accounts := by
  obtain ⟨out, written, again, -⟩ := hP.decode_data_of_decode decoded
  obtain ⟨out', written', again', -⟩ := hQ.decode_data_of_decode decoded'
  constructor
  · rintro rfl
    exact ⟨rfl, ⟨out, written, written⟩, rfl⟩
  · rintro ⟨program, ⟨both, own, own'⟩, same⟩
    rw [written, Except.ok.injEq] at own
    rw [written', Except.ok.injEq] at own'
    rw [(hP.entry_of_decode decoded).1, (hQ.entry_of_decode decoded').1] at program
    rw [(accounts_of_decode decoded).1, (accounts_of_decode decoded').1] at same
    subst own own' program same
    -- Now both are decoded by one program from the same accounts and data.
    rw [again, Except.ok.injEq] at again'
    exact again'

/-- Programs with one definition decode the same, each to instructions of its own. -/
theorem decode_of_definition_eq (same : Q.definition = P.definition) (accounts : List Account)
    (data : List UInt8) :
    Q.decode accounts data = (P.decode accounts data).map (fun i => { i with program := Q }) := by
  rw [decode, decode, same]
  cases P.definition.split? data with
  | none => rfl
  | some front =>
    cases variant : P.definition.variantFor? front.1 with
    | none => simp only [variant, Except.map]
    | some v =>
      simp only [variant]
      cases v.countFault? with
      | some kind => rfl
      | none =>
        by_cases few : (accounts.length : Int) < v.minAccounts
        · simp only [if_pos few, Except.map]
        · simp only [if_neg few]
          cases v.read front.2 <;> rfl

/-- What two programs with one definition decode from the same accounts and data has one payload and
is written as the same data, but it is not equal. -/
theorem IsRegular.differ_of_definition_eq (hP : P.IsRegular) (same : Q.definition = P.definition)
    (differ : P ≠ Q) (decoded : P.decode accounts data = .ok i)
    (decoded' : Q.decode accounts data = .ok j) :
    i.payload = j.payload ∧ i.payload.eqv j.payload ∧ i.data = j.data ∧
      i.eqv j = false ∧ j.eqv i = false := by
  rw [decode_of_definition_eq same, decoded] at decoded'
  cases decoded'
  have own : i.program = P := (hP.entry_of_decode decoded).1
  obtain ⟨-, -, -, self⟩ := hP.decode_data_of_decode decoded
  simp only [Structured.eqv, Bool.and_eq_true] at self
  refine ⟨rfl, self.1.2, ?_, ?_, ?_⟩
  · simp only [Structured.data, own, same]
  · simp [Structured.eqv, own, differ]
  · simp [Structured.eqv, own, differ.symm]

end Program

namespace Builtin

/-- The instructions that the built-in programs decode, from any accounts and data. -/
def Decodes (i : Structured) : Prop :=
  ∃ P ∈ programs, ∃ accounts data, P.decode accounts data = .ok i

theorem Decodes.eqv_iff {i j : Structured} (hi : Decodes i) (hj : Decodes j) :
    i.eqv j ↔ i = j := by
  obtain ⟨P, builtin, accounts, data, decoded⟩ := hi
  obtain ⟨Q, builtin', accounts', data', decoded'⟩ := hj
  exact (isRegular builtin).eqv_iff (isRegular builtin') decoded decoded'

theorem Decodes.eqv_iff_data {i j : Structured} (hi : Decodes i) (hj : Decodes j) :
    i.eqv j ↔ i.program = j.program ∧ (∃ out, i.data = .ok out ∧ j.data = .ok out) ∧
      i.payload.accounts = j.payload.accounts := by
  rw [hi.eqv_iff hj]
  obtain ⟨P, builtin, accounts, data, decoded⟩ := hi
  obtain ⟨Q, builtin', accounts', data', decoded'⟩ := hj
  exact (isRegular builtin).eq_iff_data (isRegular builtin') decoded decoded'

/-- Equality is an equivalence on what has been decoded, since it is identity there. -/
theorem equivalence_eqv : Equivalence (fun i j : { i // Decodes i } => i.1.eqv j.1 = true) where
  refl i := (i.2.eqv_iff i.2).2 rfl
  symm := by
    intro i j equal
    exact (j.2.eqv_iff i.2).2 ((i.2.eqv_iff j.2).1 equal).symm
  trans := by
    intro i j k first second
    exact (i.2.eqv_iff k.2).2 (((i.2.eqv_iff j.2).1 first).trans ((j.2.eqv_iff k.2).1 second))

/-- Equality of what the built-in programs have decoded.  It is equality of program, of the data
that is written and of the accounts, and so an equivalence.  Equal instructions are told apart by
nothing, and have equal hashes.  The token programs decode the same payloads, which are written as
the same data, but an instruction of one of them never equals an instruction of the other. -/
theorem eqv_exactly :
    (∀ i j, Decodes i → Decodes j →
      (i.eqv j ↔ i.program = j.program ∧ (∃ out, i.data = .ok out ∧ j.data = .ok out) ∧
        i.payload.accounts = j.payload.accounts) ∧
      (i.eqv j ↔ i = j) ∧
      (i.eqv j → (Instruction.structured i).digest = (Instruction.structured j).digest)) ∧
    Equivalence (fun i j : { i // Decodes i } => i.1.eqv j.1 = true) ∧
    ∀ accounts data,
      ((∃ i, Token.program.decode accounts data = .ok i) ↔
        ∃ j, Token.program2022.decode accounts data = .ok j) ∧
      ∀ i j, Token.program.decode accounts data = .ok i →
        Token.program2022.decode accounts data = .ok j →
        i.payload = j.payload ∧ i.payload.eqv j.payload ∧ i.data = j.data ∧
          i.eqv j = false ∧ j.eqv i = false := by
  refine ⟨fun i j hi hj => ⟨hi.eqv_iff_data hj, hi.eqv_iff hj, fun equal => ?_⟩,
    equivalence_eqv, fun accounts data => ?_⟩
  · exact Instruction.digest_eq_of_eqv (i := .structured i) (j := .structured j) equal
  · have same : Token.program2022.definition = Token.program.definition := rfl
    have regular : Token.program.IsRegular := isRegular (by simp [programs])
    constructor
    · rw [Program.decode_of_definition_eq same]
      cases Token.program.decode accounts data <;> simp [Except.map]
    · intro i j decoded decoded'
      exact regular.differ_of_definition_eq same (by decide) decoded decoded'

/-- No data and the byte zero stand for the same: instructions that are decoded from them are
equal. -/
theorem eqv_exactly_of_create :
    let accounts : List Account := List.replicate 6 ⟨.ofNat 9, true, false⟩
    ∃ i j, AssociatedToken.program.decode accounts [] = .ok i ∧
      AssociatedToken.program.decode accounts [0] = .ok j ∧ Decodes i ∧ Decodes j ∧ i.eqv j := by
  intro accounts
  have builtin : AssociatedToken.program ∈ programs := by simp [programs]
  obtain ⟨i, decoded⟩ : ∃ i, AssociatedToken.program.decode accounts [] = .ok i :=
    eq_ok_of_toBool (by decide +kernel)
  obtain ⟨j, decoded'⟩ : ∃ j, AssociatedToken.program.decode accounts [0] = .ok j :=
    eq_ok_of_toBool (by decide +kernel)
  have first : Decodes i := ⟨_, builtin, _, _, decoded⟩
  have second : Decodes j := ⟨_, builtin, _, _, decoded'⟩
  have regular := isRegular builtin
  refine ⟨i, j, decoded, decoded', first, second, (eqv_exactly.1 i j first second).1.2 ⟨?_, ?_, ?_⟩⟩
  · rw [(regular.entry_of_decode decoded).1, (regular.entry_of_decode decoded').1]
  · exact ⟨[], AssociatedToken.data_of_decode decoded, AssociatedToken.data_of_decode decoded'⟩
  · rw [(Program.accounts_of_decode decoded).1, (Program.accounts_of_decode decoded').1]

end Builtin
end SolanaWire
