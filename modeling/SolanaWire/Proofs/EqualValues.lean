import Mathlib.Data.List.Perm.Subperm
import SolanaWire.Proofs.ExactValue
import SolanaWire.Proofs.InstructionData

/-!
# Equal values

Numbers are equal if they have one magnitude, sequences if they are equal item by item, and records
if they have equal values by the same names.  Equality is therefore an equivalence, except where a
number is not one: that equals nothing, not even itself.
-/
namespace SolanaWire

namespace Number

/-- What a number is compared by: the sign of an infinite number, or a rational number. -/
def magnitude? : Number → Option (Bool ⊕ ℚ)
  | float (.infinite negative) => some (.inl negative)
  | a => a.value?.map .inr

@[simp] theorem magnitude?_int (n : Int) :
    (int n).magnitude? = some (.inr (n * 2 ^ (0 : Int))) := by
  simp [magnitude?, value?]

@[simp] theorem magnitude?_infinite (negative : Bool) :
    (float (.infinite negative)).magnitude? = some (.inl negative) := rfl

@[simp] theorem magnitude?_finite (negative : Bool) (m : Nat) (q : Int) :
    (float (.finite negative m q)).magnitude? =
      some (.inr ((if negative then -m else m : Int) * 2 ^ q)) := rfl

@[simp] theorem magnitude?_nan : (float .nan).magnitude? = none := rfl

theorem isSome_magnitude?_iff {a : Number} : a.magnitude?.isSome ↔ a ≠ float .nan := by
  cases a with
  | int n => simp
  | float x => cases x <;> simp

/-- Numbers are equal if they have one magnitude. -/
theorem eqv_iff {a b : Number} :
    a.eqv b ↔ a.magnitude?.isSome ∧ a.magnitude? = b.magnitude? := by
  cases a with
  | int m =>
    cases b with
    | int n => simp [eqv, compare?]
    | float y =>
      cases y with
      | infinite t => cases t <;> simp [eqv, compare?]
      | finite t n r => simp [eqv, compare?, compareDyadic_eq_eq_iff]
      | nan => simp [eqv, compare?]
  | float x =>
    cases x with
    | nan => cases b <;> simp [eqv, compare?, Binary64.compare?]
    | infinite s =>
      cases b with
      | int n => cases s <;> simp [eqv, compare?]
      | float y =>
        cases y with
        | infinite t => cases s <;> cases t <;> simp [eqv, compare?, Binary64.compare?]
        | finite t n r => cases s <;> simp [eqv, compare?, Binary64.compare?]
        | nan => simp [eqv, compare?, Binary64.compare?]
    | finite s m q =>
      cases b with
      | int n => simp [eqv, compare?, compareDyadic_eq_eq_iff]
      | float y =>
        cases y with
        | infinite t => cases t <;> simp [eqv, compare?, Binary64.compare?]
        | finite t n r => simp [eqv, compare?, Binary64.compare?, compareDyadic_eq_eq_iff]
        | nan => simp [eqv, compare?, Binary64.compare?]

theorem eqv_refl {a : Number} (number : a ≠ float .nan) : a.eqv a :=
  eqv_iff.2 ⟨isSome_magnitude?_iff.2 number, rfl⟩

theorem eqv_symm {a b : Number} (h : a.eqv b) : b.eqv a := by
  obtain ⟨some, same⟩ := eqv_iff.1 h
  exact eqv_iff.2 ⟨same ▸ some, same.symm⟩

theorem eqv_trans {a b c : Number} (h : a.eqv b) (h' : b.eqv c) : a.eqv c := by
  obtain ⟨some, same⟩ := eqv_iff.1 h
  exact eqv_iff.2 ⟨some, same.trans (eqv_iff.1 h').2⟩

end Number

namespace Value

/-- Whether every number in a value is one, and every record has each of its names once. -/
inductive IsDefinite : Value → Prop
  | null : IsDefinite null
  | number {v : Value} {a : Number} (counts : v.number? = some a) (number : a ≠ .float .nan) :
      IsDefinite v
  | text (s : String) : IsDefinite (text s)
  | key (k : Key) : IsDefinite (key k)
  | hash (h : Hash) : IsDefinite (hash h)
  | list {vs : List Value} (items : ∀ v ∈ vs, IsDefinite v) : IsDefinite (list vs)
  | tuple {vs : List Value} (items : ∀ v ∈ vs, IsDefinite v) : IsDefinite (tuple vs)
  | record {fs : Fields} (names : (fs.map (·.1)).Nodup) (values : ∀ f ∈ fs, IsDefinite f.2) :
      IsDefinite (record fs)

section

variable {w : Value}

theorem null_eqv_iff : null.eqv w ↔ w = null := by
  cases w <;> simp [eqv, number?]

theorem eqv_null_iff : w.eqv null ↔ w = null := by
  cases w <;> simp [eqv, number?]

theorem text_eqv_iff {s : String} : (text s).eqv w ↔ w = text s := by
  rw [@eq_comm _ w]
  cases w <;> simp [eqv, number?]

theorem key_eqv_iff {k : Key} : (key k).eqv w ↔ w = key k := by
  rw [@eq_comm _ w]
  cases w <;> simp [eqv, number?]

theorem hash_eqv_iff {h : Hash} : (hash h).eqv w ↔ w = hash h := by
  rw [@eq_comm _ w]
  cases w <;> simp [eqv, number?]

theorem list_eqv_iff {vs : List Value} :
    (list vs).eqv w ↔ ∃ ws, w = list ws ∧ eqvItems vs ws := by
  cases w <;> simp [eqv, number?]

theorem tuple_eqv_iff {vs : List Value} :
    (tuple vs).eqv w ↔ ∃ ws, w = tuple ws ∧ eqvItems vs ws := by
  cases w <;> simp [eqv, number?]

theorem record_eqv_iff {fs : Fields} :
    (record fs).eqv w ↔ ∃ gs, w = record gs ∧ fs.length = gs.length ∧ eqvFields fs gs := by
  cases w <;> simp [eqv, number?]

theorem eqv_iff_of_number? {v : Value} {a : Number} (counts : v.number? = some a) :
    v.eqv w ↔ ∃ b, w.number? = some b ∧ a.eqv b := by
  cases v <;> cases counts <;> cases w <;> simp [eqv, number?]

end

/-- Sequences are equal if they are of one length and equal item by item. -/
theorem eqvItems_iff {vs ws : List Value} :
    eqvItems vs ws ↔ vs.length = ws.length ∧
      ∀ (i : Nat) (hv : i < vs.length) (hw : i < ws.length), vs[i].eqv ws[i] := by
  induction vs generalizing ws with
  | nil => cases ws <;> simp [eqvItems]
  | cons v vs ih =>
    cases ws with
    | nil => simp [eqvItems]
    | cons w ws =>
      rw [eqvItems, Bool.and_eq_true, ih]
      constructor
      · rintro ⟨first, lengths, others⟩
        refine ⟨by rw [List.length_cons, lengths, List.length_cons], fun i hv hw => ?_⟩
        cases i with
        | zero => exact first
        | succ i => exact others i (by simpa using hv) (by simpa using hw)
      · rintro ⟨lengths, all⟩
        refine ⟨all 0 (by simp) (by simp), by simpa using lengths, fun i hv hw => ?_⟩
        exact all (i + 1) (by simpa using hv) (by simpa using hw)

/-- Fields are covered if there is an equal value by each of their names. -/
theorem eqvFields_iff {fs gs : Fields} :
    eqvFields fs gs ↔ ∀ f ∈ fs, ∃ w, gs.lookup f.1 = some w ∧ f.2.eqv w := by
  induction fs with
  | nil => simp [eqvFields]
  | cons f fs ih =>
    obtain ⟨name, v⟩ := f
    rw [eqvFields, Bool.and_eq_true, ih, List.forall_mem_cons]
    cases gs.lookup name <;> simp

/-- A sequence equals another one only if they are the same, if this holds of their items. -/
theorem eq_of_eqvItems {vs ws : List Value} (each : ∀ v ∈ vs, ∀ w ∈ ws, v.eqv w → v = w)
    (equal : eqvItems vs ws) : vs = ws := by
  obtain ⟨lengths, all⟩ := eqvItems_iff.1 equal
  exact List.ext_getElem lengths fun i hv hw =>
    each _ (List.getElem_mem hv) _ (List.getElem_mem hw) (all i hv hw)

theorem eqvItems_symm {vs ws : List Value} (each : ∀ v ∈ vs, ∀ w ∈ ws, v.eqv w → w.eqv v)
    (equal : eqvItems vs ws) : eqvItems ws vs := by
  obtain ⟨lengths, all⟩ := eqvItems_iff.1 equal
  exact eqvItems_iff.2 ⟨lengths.symm, fun i hw hv =>
    each _ (List.getElem_mem hv) _ (List.getElem_mem hw) (all i hv hw)⟩

theorem eqvItems_trans {us vs ws : List Value}
    (each : ∀ u ∈ us, ∀ v w, u.eqv v → v.eqv w → u.eqv w)
    (equal : eqvItems us vs) (equal' : eqvItems vs ws) : eqvItems us ws := by
  obtain ⟨lengths, all⟩ := eqvItems_iff.1 equal
  obtain ⟨lengths', all'⟩ := eqvItems_iff.1 equal'
  refine eqvItems_iff.2 ⟨lengths.trans lengths', fun i hu hw => ?_⟩
  have hv : i < vs.length := lengths ▸ hu
  exact each _ (List.getElem_mem hu) _ _ (all i hu hv) (all' i hv hw)

theorem eqvFields_self {fs : Fields} (names : (fs.map (·.1)).Nodup)
    (each : ∀ f ∈ fs, f.2.eqv f.2) : eqvFields fs fs :=
  eqvFields_iff.2 fun f mem => ⟨f.2, (lookup_eq_some_iff_mem names).2 mem, each f mem⟩

/-- A record that covers as many fields as it has leaves no name out. -/
theorem exists_of_eqvFields {fs gs : Fields} (names : (fs.map (·.1)).Nodup)
    (lengths : fs.length = gs.length) (covered : eqvFields fs gs) {g : String × Value}
    (mem : g ∈ gs) : ∃ v, (g.1, v) ∈ fs := by
  have inside : fs.map (·.1) ⊆ gs.map (·.1) := by
    intro name hname
    obtain ⟨f, hf, rfl⟩ := List.mem_map.1 hname
    obtain ⟨w, found, -⟩ := eqvFields_iff.1 covered f hf
    exact List.mem_map.2 ⟨_, mem_of_lookup found, rfl⟩
  have same : (fs.map (·.1)).Perm (gs.map (·.1)) :=
    (List.subperm_of_subset names inside).perm_of_length_le (by simp [lengths])
  obtain ⟨f, hf, name⟩ := List.mem_map.1 (same.mem_iff.2 (List.mem_map.2 ⟨g, mem, rfl⟩))
  exact ⟨f.2, name ▸ hf⟩

theorem eqvFields_symm {fs gs : Fields} (names : (fs.map (·.1)).Nodup)
    (names' : (gs.map (·.1)).Nodup) (lengths : fs.length = gs.length)
    (each : ∀ f ∈ fs, ∀ g ∈ gs, f.2.eqv g.2 → g.2.eqv f.2) (covered : eqvFields fs gs) :
    eqvFields gs fs := by
  refine eqvFields_iff.2 fun g hg => ?_
  obtain ⟨v, hv⟩ := exists_of_eqvFields names lengths covered hg
  obtain ⟨w, found, equal⟩ := eqvFields_iff.1 covered (g.1, v) hv
  rw [(lookup_eq_some_iff_mem names').2 hg, Option.some.injEq] at found
  subst found
  exact ⟨v, (lookup_eq_some_iff_mem names).2 hv, each _ hv g hg equal⟩

theorem eqvFields_trans {fs gs hs : Fields}
    (each : ∀ f ∈ fs, ∀ v w, f.2.eqv v → v.eqv w → f.2.eqv w)
    (covered : eqvFields fs gs) (covered' : eqvFields gs hs) : eqvFields fs hs := by
  refine eqvFields_iff.2 fun f mem => ?_
  obtain ⟨v, found, equal⟩ := eqvFields_iff.1 covered f mem
  obtain ⟨w, found', equal'⟩ := eqvFields_iff.1 covered' (f.1, v)
    (mem_of_lookup found)
  exact ⟨w, found', each f mem v w equal equal'⟩

/-- A definite value equals itself. -/
theorem IsDefinite.eqv_refl {v : Value} (h : v.IsDefinite) : v.eqv v := by
  induction h with
  | null => exact null_eqv_iff.2 rfl
  | number counts number => exact (eqv_iff_of_number? counts).2 ⟨_, counts, Number.eqv_refl number⟩
  | text s => exact text_eqv_iff.2 rfl
  | key k => exact key_eqv_iff.2 rfl
  | hash h => exact hash_eqv_iff.2 rfl
  | list items ih => exact list_eqv_iff.2 ⟨_, rfl, FieldType.eqvItems_self ih⟩
  | tuple items ih => exact tuple_eqv_iff.2 ⟨_, rfl, FieldType.eqvItems_self ih⟩
  | record names values ih => exact record_eqv_iff.2 ⟨_, rfl, rfl, eqvFields_self names ih⟩

theorem IsDefinite.items_of_list {vs : List Value} (h : (Value.list vs).IsDefinite) :
    ∀ v ∈ vs, v.IsDefinite := by
  cases h with
  | number counts => cases counts
  | list items => exact items

theorem IsDefinite.items_of_tuple {vs : List Value} (h : (Value.tuple vs).IsDefinite) :
    ∀ v ∈ vs, v.IsDefinite := by
  cases h with
  | number counts => cases counts
  | tuple items => exact items

theorem IsDefinite.fields_of_record {fs : Fields} (h : (Value.record fs).IsDefinite) :
    (fs.map (·.1)).Nodup ∧ ∀ f ∈ fs, f.2.IsDefinite := by
  cases h with
  | number counts => cases counts
  | record names values => exact ⟨names, values⟩

theorem IsDefinite.eqv_symm {v w : Value} (hv : v.IsDefinite) (hw : w.IsDefinite)
    (equal : v.eqv w) : w.eqv v := by
  induction hv generalizing w with
  | null => exact eqv_null_iff.2 (null_eqv_iff.1 equal)
  | number counts number =>
    obtain ⟨b, counts', same⟩ := (eqv_iff_of_number? counts).1 equal
    exact (eqv_iff_of_number? counts').2 ⟨_, counts, Number.eqv_symm same⟩
  | text s =>
    cases text_eqv_iff.1 equal
    exact equal
  | key k =>
    cases key_eqv_iff.1 equal
    exact equal
  | hash h =>
    cases hash_eqv_iff.1 equal
    exact equal
  | list items ih =>
    obtain ⟨ws, rfl, same⟩ := list_eqv_iff.1 equal
    have others := hw.items_of_list
    exact list_eqv_iff.2 ⟨_, rfl, eqvItems_symm (fun v hv w hw => ih v hv (others w hw)) same⟩
  | tuple items ih =>
    obtain ⟨ws, rfl, same⟩ := tuple_eqv_iff.1 equal
    have others := hw.items_of_tuple
    exact tuple_eqv_iff.2 ⟨_, rfl, eqvItems_symm (fun v hv w hw => ih v hv (others w hw)) same⟩
  | record names values ih =>
    obtain ⟨gs, rfl, lengths, covered⟩ := record_eqv_iff.1 equal
    obtain ⟨names', others⟩ := hw.fields_of_record
    exact record_eqv_iff.2 ⟨_, rfl, lengths.symm, eqvFields_symm names names' lengths
      (fun f hf g hg => ih f hf (others g hg)) covered⟩

theorem IsDefinite.eqv_trans {u v w : Value} (hu : u.IsDefinite) (equal : u.eqv v)
    (equal' : v.eqv w) : u.eqv w := by
  induction hu generalizing v w with
  | null =>
    cases null_eqv_iff.1 equal
    exact equal'
  | number counts number =>
    obtain ⟨b, counts', same⟩ := (eqv_iff_of_number? counts).1 equal
    obtain ⟨c, counts'', same'⟩ := (eqv_iff_of_number? counts').1 equal'
    exact (eqv_iff_of_number? counts).2 ⟨c, counts'', Number.eqv_trans same same'⟩
  | text s =>
    cases text_eqv_iff.1 equal
    exact equal'
  | key k =>
    cases key_eqv_iff.1 equal
    exact equal'
  | hash h =>
    cases hash_eqv_iff.1 equal
    exact equal'
  | list items ih =>
    obtain ⟨vs, rfl, same⟩ := list_eqv_iff.1 equal
    obtain ⟨ws, rfl, same'⟩ := list_eqv_iff.1 equal'
    exact list_eqv_iff.2 ⟨ws, rfl, eqvItems_trans (fun u hu v w => ih u hu) same same'⟩
  | tuple items ih =>
    obtain ⟨vs, rfl, same⟩ := tuple_eqv_iff.1 equal
    obtain ⟨ws, rfl, same'⟩ := tuple_eqv_iff.1 equal'
    exact tuple_eqv_iff.2 ⟨ws, rfl, eqvItems_trans (fun u hu v w => ih u hu) same same'⟩
  | record names values ih =>
    obtain ⟨gs, rfl, lengths, covered⟩ := record_eqv_iff.1 equal
    obtain ⟨hs, rfl, lengths', covered'⟩ := record_eqv_iff.1 equal'
    exact record_eqv_iff.2 ⟨hs, rfl, lengths.trans lengths',
      eqvFields_trans (fun f hf v w => ih f hf) covered covered'⟩

end Value
end SolanaWire
