import SolanaWire.Journal

/-!
# What procedures do

The steps of a procedure act on a world one after the other, up to the first that fails.
-/
namespace SolanaWire

variable {ε σ α β : Type}

/-- The world in which more was done. -/
def World.extend (w : World ε σ) (events : Journal ε) : World ε σ :=
  { w with journal := w.journal ++ events }

namespace World

@[simp] theorem journal_extend (w : World ε σ) (events : Journal ε) :
    (w.extend events).journal = w.journal ++ events := rfl

theorem extend_nil (w : World ε σ) : w.extend [] = w := by simp [extend]

@[simp] theorem extend_extend (w : World ε σ) (events more : Journal ε) :
    (w.extend events).extend more = w.extend (events ++ more) := by simp [extend]

theorem record_eq_extend (w : World ε σ) (e : Event ε) : w.record e = w.extend [e] := rfl

end World

namespace Procedure

@[simp] theorem bind_apply (p : Procedure ε σ α) (f : α → Procedure ε σ β) (w : World ε σ) :
    (p >>= f) w =
      match p w with
      | (.ok a, w') => f a w'
      | (.error e, w') => (.error e, w') := by
  show ExceptT.bindCont f (p w).1 (p w).2 = _
  rcases p w with ⟨_ | _, _⟩ <;> rfl

@[simp] theorem pure_apply (a : α) (w : World ε σ) :
    (pure a : Procedure ε σ α) w = (.ok a, w) := rfl

@[simp] theorem throw_apply (f : Failure) (w : World ε σ) :
    (throw f : Procedure ε σ α) w = (.error f, w) := rfl

@[simp] theorem log_apply (level : Level) (source : LogSource) (text : String) (w : World ε σ) :
    log level source text w = (.ok (), w.record (.logged ⟨level, source, text⟩)) := rfl

@[simp] theorem pause_apply (seconds : Value) (w : World ε σ) :
    pause seconds w = (.ok (), w.record (.paused seconds)) := rfl

@[simp] theorem state_apply (w : World ε σ) : (state : Procedure ε σ σ) w = (.ok w.state, w) := rfl

@[simp] theorem update_apply (f : σ → σ) (w : World ε σ) :
    (update f : Procedure ε σ Unit) w = (.ok (), { w with state := f w.state }) := rfl

/-- A step that has no effects leaves the world as it is. -/
@[simp] theorem lift_apply (x : Except Failure α) (w : World ε σ) :
    (liftM x : Procedure ε σ α) w = (x, w) := rfl

end Procedure

namespace Journal

/-- What was done besides logging. -/
def deeds (j : Journal ε) : Journal ε :=
  j.filter (fun
    | .logged _ => false
    | _ => true)

@[simp] theorem deeds_append (j k : Journal ε) : deeds (j ++ k) = deeds j ++ deeds k := by
  simp [deeds]

/-- The acts are among the deeds. -/
theorem acts_deeds (j : Journal ε) : j.deeds.acts = j.acts := by
  rw [deeds, acts, acts, List.filterMap_filter]
  congr 1
  funext e
  cases e <;> rfl

/-- What is done between pauses is as many acts as there are pauses. -/
theorem acts_flatMap_paused (act : ε) (seconds : α → Value) (pauses : List α) :
    acts (pauses.flatMap (fun s => [.paused (seconds s), .did act])) =
      List.replicate pauses.length act := by
  induction pauses with
  | nil => rfl
  | cons s pauses ih =>
    rw [List.flatMap_cons, acts_append, ih, List.length_cons, List.replicate_succ]
    rfl

end Journal
end SolanaWire
