import SolanaWire.Proofs.SerialOrder
import SolanaWire.Proofs.SharedUse

/-!
# Atomicity

However the steps of the workers follow one another, the requests on a shared table could as well
have been made one after the other, in some order that is each worker's own order for its requests.
A lookup has its place in this order where it looks at the table, and a registration where it
writes; as nobody else writes in between, it has seen what it replaces.
-/
namespace SolanaWire.ResolverTable

/-- The entries of one worker among those of all. -/
def ofWorker {α : Type} (i : Nat) (entries : List (Nat × α)) : List α :=
  (entries.filter (·.1 = i)).map (·.2)

/-- What one worker adds to the entries is its own. -/
theorem ofWorker_append_map {α : Type} (i : Nat) (es : List (Nat × α)) (as : List α) (j : Nat) :
    ofWorker j (es ++ as.map (i, ·)) = if i = j then ofWorker i es ++ as else ofWorker j es := by
  by_cases same : i = j
  · simp [ofWorker, same, List.filter_map, Function.comp_def]
  · simp [ofWorker, same, List.filter_map, Function.comp_def]

theorem ofWorker_eq_ite {α : Type} {i : Nat} {es : List (Nat × α)} {as : List α}
    (own : ofWorker i es = as) (j : Nat) :
    ofWorker j es = if i = j then as else ofWorker j es := by
  split
  · rename_i same
    rw [← same, own]
  · rfl

/-- An execution gets to another one by some exchanges, each of which its routine asks for. -/
inductive Execution.Makes (body : NamedResolver → Value → Routine) (e : Execution) :
    List Exchange → Execution → Prop
  | nothing : Makes body e [] e
  | exchange {xs : List Exchange} {x : Exchange} {e' : Execution} (made : Makes body e xs e')
      (asked : e'.routine.Asks x) : Makes body e (xs ++ [x]) (e'.answer body x)

/-- The exchange of a request under way, if it has had its effect. -/
def Stage.effected : Stage → List Exchange
  | outside | asking | seen _ => []
  | settled x | through x => [x]

/-- The exchanges of a worker that have had their effect. -/
def Worker.performed (w : Worker) : List Exchange := w.exchanges ++ w.stage.effected

namespace Shared

variable {body : NamedResolver → Value → Routine} {table : ResolverTable} {routines : List Routine}
  {order : List (Nat × Exchange)} {s s' : Shared} {i : Nat} {w : Worker} {t : Thread}
  {x : Exchange}

/-- The exchanges of the worker at a position that have had their effect. -/
def performed (s : Shared) (i : Nat) : List Exchange := s.workers[i]?.elim [] Worker.performed

/-- The exchanges that the worker at a position has behind it. -/
def concluded (s : Shared) (i : Nat) : List Exchange := s.workers[i]?.elim [] Worker.exchanges

theorem elim_set {α β : Type} {as : List α} {i : Nat} {a : α} (found : as[i]? = some a) (b : α)
    (f : α → List β) (j : Nat) :
    (as.set i b)[j]?.elim [] f = if i = j then f b else as[j]?.elim [] f := by
  by_cases same : i = j
  · subst same
    simp [found, List.getElem?_set_self']
  · simp [same, List.getElem?_set_ne]

/-- An order of exchanges that explains a shared table: one after the other they turn the first
table into what it is now, they are the exchanges that the workers have performed, and these have
come to where they are by them and have logged what there is to log. -/
structure Explains (body : NamedResolver → Value → Routine) (table : ResolverTable)
    (routines : List Routine) (order : List (Nat × Exchange)) (s : Shared) : Prop where
  ordered : table.InOrder (order.map (·.2))
  reached : table.after (order.map (·.2)) = s.table
  own : ∀ i, ofWorker i order = s.performed i
  made : ∀ (i : Nat) (w : Worker), s.workers[i]? = some w →
    ∃ r, routines[i]? = some r ∧ (Execution.start r).Makes body w.exchanges w.execution
  logged : ∀ i, ofWorker i s.log = (s.concluded i).flatMap Exchange.log

namespace Explains

theorem start : Explains body table routines [] (start table routines) where
  ordered := trivial
  reached := rfl
  own := by
    intro i
    simp only [performed, Shared.start, List.getElem?_map]
    cases routines[i]? <;> rfl
  made := by
    intro i w found
    simp only [Shared.start, List.getElem?_map, Option.map_eq_some_iff] at found
    obtain ⟨r, there, rfl⟩ := found
    exact ⟨r, there, .nothing⟩
  logged := by
    intro i
    simp only [concluded, Shared.start, List.getElem?_map]
    cases routines[i]? <;> rfl

theorem of_found (explains : Explains body table routines order s)
    (found : s.workers[i]? = some w) :
    ofWorker i order = w.performed ∧ ofWorker i s.log = w.exchanges.flatMap Exchange.log := by
  rw [explains.own, explains.logged, performed, concluded, found]
  exact ⟨rfl, rfl⟩

/-- An order explains what has come of one worker if it explains this worker and the table. -/
theorem replace (explains : Explains body table routines order s) {w' : Worker}
    {order' : List (Nat × Exchange)} (found : s.workers[i]? = some w)
    (workers : s'.workers = s.workers.set i w')
    (ordered : table.InOrder (order'.map (·.2)))
    (effect : table.after (order'.map (·.2)) = s'.table)
    (own : ∀ j, ofWorker j order' = if i = j then w'.performed else ofWorker j order)
    (made : ∀ e, Execution.Makes body e w.exchanges w.execution →
      e.Makes body w'.exchanges w'.execution)
    (logged : ∀ j, ofWorker j s'.log =
      if i = j then w'.exchanges.flatMap Exchange.log else ofWorker j s.log) :
    Explains body table routines order' s' where
  ordered := ordered
  reached := effect
  own := by
    intro j
    rw [own, performed, workers, elim_set found, explains.own, performed]
  made := by
    intro j v other
    rw [workers] at other
    by_cases same : i = j
    · subst same
      rw [List.getElem?_set_self', found] at other
      cases other
      obtain ⟨r, there, makes⟩ := explains.made i w found
      exact ⟨r, there, made _ makes⟩
    · rw [List.getElem?_set_ne same] at other
      exact explains.made j v other
  logged := by
    intro j
    rw [logged, concluded, workers, elim_set found, explains.logged, concluded]
    split <;> rfl

/-- A step that has no effect on the table yet, or no more. -/
theorem restage (explains : Explains body table routines order s) (found : s.workers[i]? = some w)
    {stage : Stage} (workers : s'.workers = s.workers.set i { w with stage })
    (effected : stage.effected = w.stage.effected) (same : s'.table = s.table)
    (log : s'.log = s.log) : Explains body table routines order s' := by
  obtain ⟨own, logged⟩ := explains.of_found found
  have performed : Worker.performed { w with stage } = w.performed := by
    rw [Worker.performed, Worker.performed, effected]
  refine explains.replace found workers explains.ordered (same ▸ explains.reached)
    (performed ▸ ofWorker_eq_ite own) (fun _ makes => makes) ?_
  rw [log]
  exact ofWorker_eq_ite logged

/-- A step at which an exchange has its effect. -/
theorem settle (explains : Explains body table routines order s) (found : s.workers[i]? = some w)
    (workers : s'.workers = s.workers.set i { w with stage := .settled x })
    (before : w.stage.effected = []) (answered : x.AnsweredBy s.table)
    (effect : s'.table = x.effect s.table) (log : s'.log = s.log) :
    Explains body table routines (order ++ [x].map (i, ·)) s' := by
  obtain ⟨own, logged⟩ := explains.of_found found
  have ordered := explains.ordered
  have reached := explains.reached
  have performed : Worker.performed { w with stage := .settled x } = ofWorker i order ++ [x] := by
    rw [own, Worker.performed, Worker.performed, before, List.append_nil]
    rfl
  rw [← reached] at answered
  refine explains.replace found workers ?_ ?_ (performed ▸ ofWorker_append_map i order [x])
    (fun _ makes => makes) ?_
  · rw [List.map_append]
    exact ordered.concat answered
  · rw [List.map_append, after_append, reached, effect]
    rfl
  · rw [log]
    exact ofWorker_eq_ite logged

/-- A step at which a worker goes on with the answer to its request. -/
theorem proceed (explains : Explains body table routines order s) (found : s.workers[i]? = some w)
    (stage : w.stage = .through x) (asked : w.execution.routine.Asks x) :
    Explains body table routines order (s.proceed body i w x) := by
  obtain ⟨own, logged⟩ := explains.of_found found
  have performed : ofWorker i order =
      Worker.performed ⟨w.execution.answer body x, w.exchanges ++ [x], .outside⟩ := by
    rw [own, Worker.performed, stage]
    exact (List.append_nil _).symm
  refine explains.replace found rfl explains.ordered explains.reached (ofWorker_eq_ite performed)
    (fun _ makes => .exchange makes asked) ?_
  have added := ofWorker_append_map i s.log x.log
  rw [logged] at added
  rw [List.flatMap_append, List.flatMap_singleton]
  exact added

/-- Every step keeps an explanation, with one more exchange or with the same. -/
theorem step (explains : Explains body table routines order s) (coherent : s.IsCoherent)
    (found : s.workers[i]? = some w) (there : s.site.threads[i]? = some t)
    (step : Step body s i w t s') : ∃ order, Explains body table routines order s' := by
  have fits := coherent.fits_thread found there
  cases step with
  | come stage wants =>
    exact ⟨order, explains.restage found rfl (by rw [stage]; rfl) rfl rfl⟩
  | knock stage looks =>
    exact ⟨order, explains.restage found (set_eq_self found).symm rfl rfl rfl⟩
  | @look x stage holds sees =>
    have answered := Routine.answeredBy_of_exchange? sees
    have before : w.stage.effected = [] := by rw [stage]; rfl
    cases x with
    | registered program resolver previous =>
      exact ⟨order, explains.restage found rfl before.symm rfl rfl⟩
    | _ => exact ⟨_, explains.settle found rfl before answered rfl rfl⟩
  | @write x stage =>
    simp only [Worker.Fits, stage] at fits
    have answered := Routine.answeredBy_of_exchange? fits.2
    exact ⟨_, explains.settle found rfl (by rw [stage]; rfl) answered rfl rfl⟩
  | leave stage holds =>
    exact ⟨order, explains.restage found rfl (by rw [stage]; rfl) rfl rfl⟩
  | proceed stage =>
    simp only [Worker.Fits, stage] at fits
    exact ⟨order, explains.proceed found stage fits.2⟩

end Explains

end Shared
end SolanaWire.ResolverTable
