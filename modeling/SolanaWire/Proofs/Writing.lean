import SolanaWire.Proofs.WireForm

/-!
# Writing values

Every value of a field type is written, and as one of its wire forms.  A value that has been read is
written as it stood, but with every set flag made one.
-/
namespace SolanaWire.FieldType
open Outcome

/-- Whether a value is one of the type. -/
def admits : FieldType → Value → Bool
  | int f, .int n => f.Fits n
  | key, .key _ => true
  | hash, .hash _ => true
  | text, .text s => (Utf8.encode s.toList).length < lengthLimit
  | option _, .null => true
  | option t, v => admits t v
  | vec t, .list vs => vs.length < LittleEndian.capacity 8 && vs.all (admits t)
  | enumerated f e, .member m => e.member? m.number = some m && f.Fits m.number
  | _, _ => false

/-- Whether some values are of some types, one by one. -/
def admitsAll : List FieldType → List Value → Bool
  | [], [] => true
  | t :: ts, v :: vs => t.admits v && admitsAll ts vs
  | _, _ => false

theorem admits_option {t : FieldType} {v : Value} :
    (option t).admits v ↔ v = .null ∨ t.admits v := by
  cases v <;> simp [admits]

theorem encode_option {t : FieldType} {v : Value} {bytes : List UInt8} (h : v ≠ .null)
    (ht : t.encode v = .ok bytes) : (option t).encode v = .ok (1 :: bytes) := by
  have other : (option t).encode v = ((t.encode v).mapError (·.under "value") >>=
      fun bytes => .ok (1 :: bytes)) := by
    cases v <;> first | rfl | exact absurd rfl h
  rw [other, ht, mapError_ok, ok_bind]

theorem write_of_fits {f : IntFormat} {n : Int} (h : f.Fits n) :
    f.write (.int n) = .ok (f.encode n) := if_pos h

theorem writeBytes32_key (k : Key) : writeBytes32 (.key k) = .ok k.bytes := if_pos k.length_eq

theorem writeBytes32_hash (h : Hash) : writeBytes32 (.hash h) = .ok h.bytes := if_pos h.length_eq

theorem writeItems_of_admits {t : FieldType} {vs : List Value}
    (h : ∀ v ∈ vs, ∃ cells, t.Spells v cells ∧ t.encode v = .ok (bytesOf cells)) :
    ∃ cells, SpellsAll (List.replicate vs.length t) vs cells ∧
      writeItems t.encode vs = .ok (bytesOf cells) := by
  induction vs with
  | nil => exact ⟨[], .nil, rfl⟩
  | cons v vs ih =>
    obtain ⟨front, first, hfront⟩ := h v (by simp)
    obtain ⟨cells, items, hitems⟩ := ih (fun w hw => h w (by simp [hw]))
    refine ⟨front ++ cells, .cons first items, ?_⟩
    rw [writeItems, hfront, ok_bind, hitems, ok_bind, bytesOf_append]
    rfl

/-- Every value of a type is written, as one of its wire forms. -/
theorem encode_of_admits {t : FieldType} {v : Value} (h : t.admits v) :
    ∃ cells, t.Spells v cells ∧ t.encode v = .ok (bytesOf cells) := by
  induction t generalizing v with
  | int f =>
    cases v with
    | int n =>
      have fits : f.Fits n := by simpa [admits] using h
      exact ⟨_, .int fits, by rw [encode, write_of_fits fits, bytesOf_plain]⟩
    | _ => cases h
  | key =>
    cases v with
    | key k => exact ⟨_, .key k, by rw [encode, writeBytes32_key, bytesOf_plain]⟩
    | _ => cases h
  | hash =>
    cases v with
    | hash k => exact ⟨_, .hash k, by rw [encode, writeBytes32_hash, bytesOf_plain]⟩
    | _ => cases h
  | text =>
    cases v with
    | text s =>
      have short : (Utf8.encode s.toList).length < lengthLimit := by simpa [admits] using h
      exact ⟨_, .text short, by rw [bytesOf_plain]; rfl⟩
    | _ => cases h
  | option t ih =>
    by_cases null : v = .null
    · subst null
      exact ⟨_, .absent t, rfl⟩
    · obtain ⟨cells, value, written⟩ := ih ((admits_option.1 h).resolve_left null)
      exact ⟨⟨1, true⟩ :: cells, .present (by decide) value, encode_option null written⟩
  | vec t ih =>
    cases v with
    | list vs =>
      simp only [admits, Bool.and_eq_true, decide_eq_true_eq, List.all_eq_true] at h
      obtain ⟨short, all⟩ := h
      obtain ⟨cells, items, written⟩ := writeItems_of_admits (fun v hv => ih (all v hv))
      refine ⟨plain (lengthPrefix vs.length) ++ cells, .vec short items, ?_⟩
      simp only [encode, Value.items?, written, mapError_ok, ok_bind, bytesOf_append,
        bytesOf_plain]
      rfl
    | _ => cases h
  | enumerated f e =>
    cases v with
    | member m =>
      simp only [admits, Bool.and_eq_true, decide_eq_true_eq] at h
      obtain ⟨member, fits⟩ := h
      refine ⟨_, .enumerated fits member, ?_⟩
      rw [encode, bytesOf_plain]
      exact write_of_fits fits
    | _ => cases h

/-- Whether no optional value directly holds another.  Only where one does, null has a wire form in
which a flag is set. -/
def isUnambiguous : FieldType → Bool
  | option (option _) => false
  | option t => isUnambiguous t
  | vec t => isUnambiguous t
  | _ => true

/-- Only an optional value can be null. -/
theorem Spells.ne_null {t : FieldType} {v : Value} {cells : List Cell} (h : t.Spells v cells)
    (unambiguous : (option t).isUnambiguous) : v ≠ .null := by
  cases h with
  | absent => cases unambiguous
  | present => cases unambiguous
  | _ => simp

theorem canonical_of_set {flag : UInt8} (h : flag ≠ 0) : Cell.canonical ⟨flag, true⟩ = 1 :=
  if_pos ⟨rfl, h⟩

theorem isUnambiguous_of_option {t : FieldType} (h : (option t).isUnambiguous) :
    t.isUnambiguous := by
  cases t <;> first | rfl | exact h | cases h

theorem writeItems_of_spellsAll {t : FieldType}
    (ht : ∀ {v : Value} {cells : List Cell}, t.Spells v cells →
      t.encode v = .ok (canonicalOf cells))
    {vs : List Value} {cells : List Cell}
    (h : SpellsAll (List.replicate vs.length t) vs cells) :
    writeItems t.encode vs = .ok (canonicalOf cells) := by
  induction vs generalizing cells with
  | nil =>
    cases h
    rfl
  | cons v vs ih =>
    rw [List.length_cons, List.replicate_succ] at h
    cases h with
    | cons first items =>
      rw [writeItems, ht first, ok_bind, ih items, ok_bind, canonicalOf_append]
      rfl

/-- A value is written as any of its wire forms with each set flag made one. -/
theorem encode_of_spells {t : FieldType} {v : Value} {cells : List Cell} (h : t.Spells v cells)
    (unambiguous : t.isUnambiguous) : t.encode v = .ok (canonicalOf cells) := by
  induction t generalizing v cells with
  | int f =>
    cases h with
    | int fits => rw [encode, write_of_fits fits, canonicalOf_plain]
  | key =>
    cases h with
    | key k => rw [encode, writeBytes32_key, canonicalOf_plain]
  | hash =>
    cases h with
    | hash k => rw [encode, writeBytes32_hash, canonicalOf_plain]
  | text =>
    cases h with
    | text short =>
      rw [canonicalOf_plain]
      rfl
  | option t ih =>
    cases h with
    | absent => rfl
    | present set value =>
      have written := ih value (isUnambiguous_of_option unambiguous)
      rw [encode_option (value.ne_null unambiguous) written, canonicalOf_cons,
        canonical_of_set set]
  | vec t ih =>
    cases h with
    | vec short items =>
      have written := writeItems_of_spellsAll (fun first => ih first unambiguous) items
      simp only [encode, Value.items?, written, mapError_ok, ok_bind, canonicalOf_append,
        canonicalOf_plain]
      rfl
  | enumerated f e =>
    cases h with
    | enumerated fits member =>
      rw [encode, canonicalOf_plain]
      exact write_of_fits fits

theorem spells_of_mem {t : FieldType} {vs : List Value} {cells : List Cell}
    (h : SpellsAll (List.replicate vs.length t) vs cells) {v : Value} (hv : v ∈ vs) :
    ∃ cells, t.Spells v cells := by
  induction vs generalizing cells with
  | nil => cases hv
  | cons w vs ih =>
    rw [List.length_cons, List.replicate_succ] at h
    cases h with
    | cons first others =>
      rcases List.mem_cons.1 hv with rfl | hv
      · exact ⟨_, first⟩
      · exact ih others hv

/-- What has a wire form as a type is a value of the type. -/
theorem admits_of_spells {t : FieldType} {v : Value} {cells : List Cell} (h : t.Spells v cells) :
    t.admits v := by
  induction t generalizing v cells with
  | int f =>
    cases h with
    | int fits => simpa [admits] using fits
  | key => cases h; rfl
  | hash => cases h; rfl
  | text =>
    cases h with
    | text short => simpa [admits] using short
  | option t ih =>
    cases h with
    | absent => rfl
    | present set value => exact admits_option.2 (Or.inr (ih value))
  | vec t ih =>
    cases h with
    | vec short items =>
      simp only [admits, Bool.and_eq_true, decide_eq_true_eq, List.all_eq_true]
      refine ⟨short, fun v hv => ?_⟩
      obtain ⟨cells, value⟩ := spells_of_mem items hv
      exact ih value
  | enumerated f e =>
    cases h with
    | enumerated fits member => simpa [admits, member] using fits

theorem admitsAll_of_spellsAll {ts : List FieldType} {vs : List Value} {cells : List Cell}
    (h : SpellsAll ts vs cells) : admitsAll ts vs := by
  induction vs generalizing ts cells with
  | nil => cases h; rfl
  | cons v vs ih =>
    cases h with
    | cons first others =>
      rw [admitsAll, Bool.and_eq_true]
      exact ⟨admits_of_spells first, ih others⟩

theorem eqvItems_self {vs : List Value} (h : ∀ v ∈ vs, v.eqv v) : Value.eqvItems vs vs := by
  induction vs with
  | nil => rfl
  | cons v vs ih =>
    simp only [Value.eqvItems, Bool.and_eq_true]
    exact ⟨h v (by simp), ih (fun w hw => h w (by simp [hw]))⟩

theorem number_eqv_self (n : Int) : (Number.int n).eqv (.int n) := by
  simp [Number.eqv, Number.compare?]

/-- Every value of a type equals itself. -/
theorem eqv_self_of_admits {t : FieldType} {v : Value} (h : t.admits v) : v.eqv v := by
  induction t generalizing v with
  | int f =>
    cases v with
    | int n => exact number_eqv_self n
    | _ => cases h
  | key =>
    cases v with
    | key k => simp [Value.eqv]
    | _ => cases h
  | hash =>
    cases v with
    | hash k => simp [Value.eqv]
    | _ => cases h
  | text =>
    cases v with
    | text s => simp [Value.eqv]
    | _ => cases h
  | option t ih =>
    rcases admits_option.1 h with rfl | other
    · rfl
    · exact ih other
  | vec t ih =>
    cases v with
    | list vs =>
      simp only [admits, Bool.and_eq_true, List.all_eq_true] at h
      rw [Value.eqv]
      exact eqvItems_self (fun v hv => ih (h.2 v hv))
    | _ => cases h
  | enumerated f e =>
    cases v with
    | member m => exact number_eqv_self m.number
    | _ => cases h

theorem eqvItems_self_of_admitsAll {ts : List FieldType} {vs : List Value}
    (h : admitsAll ts vs) : Value.eqvItems vs vs := by
  induction ts generalizing vs with
  | nil =>
    cases vs with
    | nil => rfl
    | cons v vs => cases h
  | cons t ts ih =>
    cases vs with
    | nil => cases h
    | cons v vs =>
      rw [admitsAll, Bool.and_eq_true] at h
      rw [Value.eqvItems, Bool.and_eq_true]
      exact ⟨eqv_self_of_admits h.1, ih h.2⟩

end SolanaWire.FieldType
