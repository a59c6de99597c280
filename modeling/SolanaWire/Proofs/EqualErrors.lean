import SolanaWire.Proofs.EqualValues
import SolanaWire.Proofs.ErrorPayloads

/-!
# Equal errors

Errors are equal if they are of one class and have the same contents, causes included down to the
errors of programs.  Only the payload of a transaction's error is compared as a value, so that two
errors may be equal that were read from different payloads.  The hash of an error covers no more
than its equality does.
-/
namespace SolanaWire
open Outcome

/-- The class of an error.  The errors of each program are a class of their own. -/
inductive TaxonomyClass
  | transaction
  | knownTransaction
  | undefinedTransaction
  | indexed
  | knownInstruction
  | undefinedInstruction
  | customInstruction
  | program (table : ErrorTable)
  deriving DecidableEq

/-- Whether a resolver finds no other errors than those of programs. -/
def Resolver.FindsProgramErrors (r : Resolver) : Prop :=
  ∀ code found, r code = .ok (some found) → ∃ e, found = .program e

theorem Resolver.findsProgramErrors_nothing : Resolver.nothing.FindsProgramErrors := by
  rintro code found ⟨⟩

theorem ErrorTable.findsProgramErrors (t : ErrorTable) : t.resolver.FindsProgramErrors := by
  intro code found resolved
  rw [ErrorTable.resolver, Except.ok.injEq, Option.map_eq_some_iff] at resolved
  obtain ⟨e, -, rfl⟩ := resolved
  exact ⟨e, rfl⟩

namespace ResolverTable

/-- Whether the resolvers of a table find no other errors than those of programs. -/
def FindsProgramErrors (t : ResolverTable) : Prop :=
  ∀ program, Resolver.FindsProgramErrors (t.resolve program)

theorem findsProgramErrors_iff {t : ResolverTable} :
    t.FindsProgramErrors ↔
      ∀ program resolver, t.get? program = some resolver → resolver.resolve.FindsProgramErrors := by
  constructor
  · intro own program resolver known code found resolved
    refine own program code found ?_
    rw [resolve, known]
    exact resolved
  · intro each program code found resolved
    unfold resolve at resolved
    split at resolved
    · rename_i resolver known
      exact each program resolver known code found resolved
    · cases resolved

theorem findsProgramErrors_ofBuiltin : ofBuiltin.FindsProgramErrors := by
  refine findsProgramErrors_iff.2 fun program resolver known => ?_
  rw [get?_ofBuiltin] at known
  split at known
  · cases known
    exact ErrorTable.token.findsProgramErrors
  · split at known
    · cases known
      exact ErrorTable.system.findsProgramErrors
    · cases known

end ResolverTable

theorem TransactionError.ResolvesBy.findsProgramErrors {context : Option Message}
    {table : ResolverTable} {index : Nat} {resolver : Resolver} (own : table.FindsProgramErrors)
    (resolves : ResolvesBy table context index resolver) : resolver.FindsProgramErrors := by
  cases resolves with
  | unknown => exact Resolver.findsProgramErrors_nothing
  | registered known found => exact ResolverTable.findsProgramErrors_iff.1 own _ _ found
  | unregistered => exact Resolver.findsProgramErrors_nothing

namespace InstructionError

/-- Whether the error is not caused by one of another library. -/
def isNative : InstructionError → Bool
  | custom _ (some (.foreign ..)) => false
  | _ => true

theorem isNative_of_parse {payload : Value} {resolver : Resolver} {e : InstructionError}
    (own : resolver.FindsProgramErrors) (read : parse payload resolver = .ok (some e)) :
    e.isNative := by
  unfold parse at read
  split at read
  · cases read
    unfold ofName
    split <;> rfl
  · split at read
    · rename_i code custom
      obtain ⟨cause, resolved, same⟩ := bind_eq_ok_iff.1 read
      cases same
      cases cause with
      | none => rfl
      | some found =>
        obtain ⟨p, rfl⟩ := own _ _ resolved
        rfl
    · cases read
  · cases read

/-- Without errors of other libraries equality is identity. -/
theorem eqv_iff {e f : InstructionError} (native : e.isNative) : e.eqv f ↔ e = f := by
  cases e with
  | known k => cases f <;> simp [eqv]
  | undefined m => cases f <;> simp [eqv]
  | custom c cause =>
    cases f with
    | custom d cause' =>
      rcases cause with _ | (_ | _)
      · cases cause' <;> simp [eqv, eqvResolved]
      · rcases cause' with _ | (_ | _) <;> simp [eqv, eqvResolved, ResolvedError.eqv]
      · cases native
    | _ => simp [eqv]

end InstructionError

theorem IndexedError.eqv_iff {e f : IndexedError} (native : e.cause.isNative) :
    e.eqv f ↔ e = f := by
  cases e
  cases f
  simp [eqv, InstructionError.eqv_iff native]

namespace TransactionCause

/-- Whether the failure of an instruction, if there is one, is not caused by an error of another
library. -/
def isNative : TransactionCause → Bool
  | indexed e => e.cause.isNative
  | _ => true

theorem eqv_iff {c d : TransactionCause} (native : c.isNative) : c.eqv d ↔ c = d := by
  cases c with
  | indexed e => cases d <;> simp [eqv, e.eqv_iff native]
  | _ => cases d <;> simp [eqv]

end TransactionCause

namespace TransactionError

theorem isNative_of_describes {context : Option Message} {table : ResolverTable} {raw : Value}
    {cause : TransactionCause} (own : table.FindsProgramErrors)
    (described : Describes context table raw cause) : cause.isNative := by
  cases described with
  | known kind => rfl
  | undefined unknown => rfl
  | indexed blamed number resolves read =>
    exact InstructionError.isNative_of_parse (resolves.findsProgramErrors own) read

theorem eqv_iff {s t : TransactionError} (native : s.cause.isNative) :
    s.eqv t ↔ s.cause = t.cause ∧ s.raw.eqv t.raw := by
  rw [eqv, Bool.and_eq_true, TransactionCause.eqv_iff native]

end TransactionError

namespace TaxonomyError

/-- The class of an error. -/
def kind : TaxonomyError → TaxonomyClass
  | transaction _ => .transaction
  | known _ => .knownTransaction
  | undefined _ => .undefinedTransaction
  | indexed _ => .indexed
  | instruction (.known _) => .knownInstruction
  | instruction (.undefined _) => .undefinedInstruction
  | instruction (.custom _ _) => .customInstruction
  | program e => .program e.table

/-- The errors that come about: those that payloads are read as, where resolvers find errors of
programs, those that the numbers of a program's errors stand for, and the causes of them all. -/
inductive IsProduced : TaxonomyError → Prop
  | transaction {context : Option Message} {table : ResolverTable} {raw : Value}
      {e : TransactionError} (definite : raw.IsDefinite) (own : table.FindsProgramErrors)
      (read : TransactionError.parse context table raw = .ok (some e)) : IsProduced (.transaction e)
  | instruction {payload : Value} {resolver : Resolver} {e : InstructionError}
      (own : resolver.FindsProgramErrors)
      (read : InstructionError.parse payload resolver = .ok (some e)) : IsProduced (.instruction e)
  | program {t : ErrorTable} {code : Value} {e : ProgramError} (found : t.find? code = some e) :
      IsProduced (.program e)
  | ofTransaction {e : TransactionError} (whole : IsProduced (.transaction e)) :
      IsProduced e.cause.error
  | ofIndexed {e : IndexedError} (whole : IsProduced (.indexed e)) :
      IsProduced (.instruction e.cause)
  | ofCustom {code : Nat} {e : ProgramError}
      (whole : IsProduced (.instruction (.custom code (some (.program e))))) :
      IsProduced (.program e)

/-- What all errors that come about have in common: none is caused by an error of another library,
and the payload of a transaction's error is definite. -/
def IsRegular : TaxonomyError → Prop
  | transaction e => e.cause.isNative ∧ e.raw.IsDefinite
  | indexed e => e.cause.isNative
  | instruction e => e.isNative
  | _ => True

theorem IsProduced.isRegular {e : TaxonomyError} (h : e.IsProduced) : e.IsRegular := by
  induction h with
  | transaction definite own read =>
    obtain ⟨same, described⟩ := TransactionError.parse_eq_some_iff.1 read
    exact ⟨TransactionError.isNative_of_describes own described, same ▸ definite⟩
  | instruction own read => exact InstructionError.isNative_of_parse own read
  | program found => trivial
  | @ofTransaction e whole ih =>
    cases cause : e.cause with
    | indexed failed =>
      have native : e.cause.isNative := ih.1
      rw [cause] at native
      exact native
    | _ => trivial
  | ofIndexed whole ih => exact ih
  | ofCustom whole ih => trivial

/-- Two errors are the same, or they are of transactions, with the same cause and payloads that are
equal as values. -/
inductive Agree : TaxonomyError → TaxonomyError → Prop
  | same (e : TaxonomyError) : Agree e e
  | transaction {s t : TransactionError} (cause : s.cause = t.cause) (raw : s.raw.eqv t.raw) :
      Agree (.transaction s) (.transaction t)

theorem eqv_iff {e f : TaxonomyError} (regular : e.IsRegular) : e.eqv f ↔ e.Agree f := by
  constructor
  · intro equal
    cases e with
    | transaction s =>
      cases f with
      | transaction t =>
        obtain ⟨cause, raw⟩ := (TransactionError.eqv_iff regular.1).1 equal
        exact .transaction cause raw
      | _ => cases equal
    | known k =>
      cases f with
      | known l => exact eq_of_beq equal ▸ .same _
      | _ => cases equal
    | undefined m =>
      cases f with
      | undefined n => exact eq_of_beq equal ▸ .same _
      | _ => cases equal
    | indexed e =>
      cases f with
      | indexed f => exact (IndexedError.eqv_iff regular).1 equal ▸ .same _
      | _ => cases equal
    | instruction e =>
      cases f with
      | instruction f => exact (InstructionError.eqv_iff regular).1 equal ▸ .same _
      | _ => cases equal
    | program e =>
      cases f with
      | program f => exact eq_of_beq equal ▸ .same _
      | _ => cases equal
  · intro agree
    cases agree with
    | same =>
      cases e with
      | transaction s => exact (TransactionError.eqv_iff regular.1).2 ⟨rfl, regular.2.eqv_refl⟩
      | indexed e => exact (IndexedError.eqv_iff regular).2 rfl
      | instruction e => exact (InstructionError.eqv_iff regular).2 rfl
      | _ => exact beq_self_eq_true _
    | transaction cause raw => exact (TransactionError.eqv_iff regular.1).2 ⟨cause, raw⟩

theorem Agree.kind_eq {e f : TaxonomyError} (h : e.Agree f) : e.kind = f.kind := by
  cases h <;> rfl

theorem Agree.digest_eq {e f : TaxonomyError} (h : e.Agree f) : e.digest = f.digest := by
  cases h with
  | same => rfl
  | transaction cause raw => exact congrArg TransactionCause.digest cause

theorem Agree.symm {e f : TaxonomyError} (he : e.IsRegular) (hf : f.IsRegular) (h : e.Agree f) :
    f.Agree e := by
  cases h with
  | same => exact .same e
  | transaction cause raw => exact .transaction cause.symm (he.2.eqv_symm hf.2 raw)

theorem Agree.trans {e f g : TaxonomyError} (he : e.IsRegular) (h : e.Agree f) (h' : f.Agree g) :
    e.Agree g := by
  cases h with
  | same => exact h'
  | transaction cause raw =>
    cases h' with
    | same => exact .transaction cause raw
    | transaction cause' raw' =>
      exact .transaction (cause.trans cause') (he.2.eqv_trans raw raw')

theorem equivalence_eqv :
    Equivalence (fun e f : { e : TaxonomyError // e.IsProduced } => e.1.eqv f.1 = true) where
  refl e := (eqv_iff e.2.isRegular).2 (.same e.1)
  symm {e f} equal :=
    (eqv_iff f.2.isRegular).2
      (((eqv_iff e.2.isRegular).1 equal).symm e.2.isRegular f.2.isRegular)
  trans {e f _} equal equal' :=
    (eqv_iff e.2.isRegular).2
      (((eqv_iff e.2.isRegular).1 equal).trans e.2.isRegular ((eqv_iff f.2.isRegular).1 equal'))

/-- Equality of the errors that come about is an equivalence.  Equal errors are of one class and
have one hash.  The errors of two transactions are equal exactly if their payloads are equal as
values and their causes are the same at every level. -/
theorem equality_exactly :
    Equivalence (fun e f : { e : TaxonomyError // e.IsProduced } => e.1.eqv f.1 = true) ∧
      (∀ e f : TaxonomyError, e.IsProduced → e.eqv f → e.kind = f.kind ∧ e.digest = f.digest) ∧
      ∀ s t : TransactionError, IsProduced (.transaction s) →
        (s.eqv t ↔ s.raw.eqv t.raw ∧ s.cause = t.cause) := by
  refine ⟨equivalence_eqv, fun e f produced equal => ?_, fun s t produced => ?_⟩
  · have agree := (eqv_iff produced.isRegular).1 equal
    exact ⟨agree.kind_eq, agree.digest_eq⟩
  · rw [TransactionError.eqv_iff produced.isRegular.1, and_comm]

/-- A position and a code as integers and in floating point are the same error, also where the
payloads have a one and a truth value elsewhere.  A tuple in place of a list makes another one, with
the same hash. -/
theorem equality_exactly_of_numerals :
    let given (wrap : List Value → Value) (slot position code : Value) : Value :=
      .record [("slot", slot), ("InstructionError", wrap [position, .record [("Custom", code)]])]
    let failed : IndexedError :=
      ⟨1, .custom 4 (some (.program ⟨.token, ⟨4, by decide⟩⟩)), by decide +kernel⟩
    let s : TransactionError := ⟨.indexed failed, given .list (.int 1) (.int 1) (.int 4)⟩
    let t : TransactionError :=
      ⟨.indexed failed, given .list (.bool true) (.float (.ofInt 1)) (.float (.ofInt 4))⟩
    let u : TransactionError := ⟨.indexed failed, given .tuple (.int 1) (.int 1) (.int 4)⟩
    IsProduced (.transaction s) ∧ IsProduced (.transaction t) ∧ s.eqv t ∧ t.eqv s ∧ ¬ s.eqv u ∧
      s.digest = u.digest := by
  intro given failed s t u
  let m : Message := ⟨[SystemProgram.program.id, Token.program.id], ⟨1, 0, 0⟩,
    [⟨0, [], []⟩, ⟨1, [7], []⟩]⟩
  have program : m.HasProgram 1 Token.program.id := ⟨⟨1, [7], []⟩, rfl, by decide, rfl⟩
  have produced {slot position code : Value} (hslot : slot.IsDefinite)
      (hposition : position.IsDefinite) (hcode : code.IsDefinite)
      (first : position.toInt? = some ((1 : Nat) : Int))
      (fourth : code.toInt? = some ((4 : Nat) : Int)) :
      IsProduced (.transaction ⟨.indexed failed, given .list slot position code⟩) := by
    have definite : (given .list slot position code).IsDefinite := by
      have payload : (Value.record [("Custom", code)]).IsDefinite :=
        .record (by simp) (List.forall_mem_singleton.2 hcode)
      have blamed : (Value.list [position, .record [("Custom", code)]]).IsDefinite :=
        .list (List.forall_mem_cons.2 ⟨hposition, List.forall_mem_singleton.2 payload⟩)
      exact .record (by simp) (List.forall_mem_cons.2 ⟨hslot, List.forall_mem_singleton.2 blamed⟩)
    have cause : InstructionError.parse (.record [("Custom", code)])
        (ResolverTable.ofBuiltin.resolve Token.program.id) = .ok (some failed.cause) := by
      have custom : InstructionError.customCode? [("Custom", code)] = some 4 :=
        InstructionError.customCode?_eq_some_iff.2 ⟨code, rfl, fourth⟩
      rw [InstructionError.parse, custom]
      rfl
    have read : TransactionError.parse (some m) .ofBuiltin (given .list slot position code) =
        .ok (some ⟨.indexed failed, given .list slot position code⟩) :=
      TransactionError.parse_eq_some_iff.2
        ⟨rfl, .indexed (.inl rfl) first (.of_hasProgram _ program) cause failed.isWritable⟩
    exact .transaction definite ResolverTable.findsProgramErrors_ofBuiltin read
  have integers : IsProduced (.transaction s) :=
    produced (.number rfl (by decide)) (.number rfl (by decide)) (.number rfl (by decide)) rfl rfl
  have floats : IsProduced (.transaction t) :=
    produced (.number rfl (by decide)) (.number rfl (by decide +kernel))
      (.number rfl (by decide +kernel)) (by decide +kernel) (by decide +kernel)
  obtain ⟨equivalence, -, payloads⟩ := equality_exactly
  have equal : s.eqv t := (payloads s t integers).2 ⟨by decide +kernel, rfl⟩
  refine ⟨integers, floats, equal, ?_, fun same => ?_, rfl⟩
  · exact @Equivalence.symm _ _ equivalence ⟨_, integers⟩ ⟨_, floats⟩ equal
  · have other : ¬ s.raw.eqv u.raw := by decide +kernel
    exact other ((payloads s u integers).1 same).1

end TaxonomyError
end SolanaWire
