/-!
# Outcomes of steps

A step gives a result or a fault.  These lemmas say what is known of the steps of a procedure from
the outcome of the whole.
-/
namespace SolanaWire.Outcome

variable {ε φ α β : Type}

@[simp] theorem ok_bind (a : α) (f : α → Except ε β) : (Except.ok a >>= f) = f a := rfl

@[simp] theorem error_bind (e : ε) (f : α → Except ε β) : (Except.error e >>= f) = .error e := rfl

@[simp] theorem mapError_ok (f : ε → φ) (a : α) :
    (Except.ok a : Except ε α).mapError f = .ok a := rfl

@[simp] theorem mapError_error (f : ε → φ) (e : ε) :
    (Except.error e : Except ε α).mapError f = .error (f e) := rfl

theorem bind_eq_ok_iff {x : Except ε α} {f : α → Except ε β} {b : β} :
    x >>= f = .ok b ↔ ∃ a, x = .ok a ∧ f a = .ok b := by
  cases x <;> simp

theorem bind_eq_error_iff {x : Except ε α} {f : α → Except ε β} {e : ε} :
    x >>= f = .error e ↔ x = .error e ∨ ∃ a, x = .ok a ∧ f a = .error e := by
  cases x <;> simp

theorem mapError_eq_ok_iff {x : Except ε α} {f : ε → φ} {a : α} :
    x.mapError f = .ok a ↔ x = .ok a := by
  cases x <;> simp

/-- Steps that are taken for some items one after the other fail with one of them. -/
theorem exists_of_mapM_eq_error {f : α → Except ε β} {as : List α} {e : ε}
    (h : as.mapM f = .error e) : ∃ a ∈ as, f a = .error e := by
  induction as with
  | nil => cases h
  | cons a as ih =>
    rw [List.mapM_cons, bind_eq_error_iff] at h
    rcases h with first | ⟨b, _, h⟩
    · exact ⟨a, by simp, first⟩
    · rw [bind_eq_error_iff] at h
      rcases h with rest | ⟨bs, _, h⟩
      · obtain ⟨c, mem, failed⟩ := ih rest
        exact ⟨c, by simp [mem], failed⟩
      · cases h

theorem eq_ok_of_toOption {x : Except ε α} {a : α} (h : x.toOption = some a) : x = .ok a := by
  cases x with
  | ok b => exact congrArg Except.ok (Option.some.inj h)
  | error e => cases h

theorem eq_ok_of_toBool {x : Except ε α} (h : x.toBool) : ∃ a, x = .ok a := by
  cases x with
  | ok a => exact ⟨a, rfl⟩
  | error e => cases h

end SolanaWire.Outcome
