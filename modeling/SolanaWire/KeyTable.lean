import SolanaWire.Key

/-!
# Tables by key

A table holds at most one value for each key and lists its keys in the order in which they first
came in.  Setting the value of a key that is present leaves that order as it is.
-/
namespace SolanaWire

/-- Values by key, in order of first appearance. -/
structure KeyTable (α : Type) where
  entries : List (Key × α) := []
  nodup : (entries.map (·.1)).Nodup := by simp

namespace KeyTable

variable {α : Type}

/-- The table without entries. -/
def empty : KeyTable α := {}

/-- The keys, in order of first appearance. -/
def keys (t : KeyTable α) : List Key := t.entries.map (·.1)

/-- The value of a key. -/
def get? (t : KeyTable α) (k : Key) : Option α := t.entries.lookup k

/-- Whether a key has a value. -/
def contains (t : KeyTable α) (k : Key) : Bool := (t.get? k).isSome

/-- The number of keys. -/
def size (t : KeyTable α) : Nat := t.entries.length

/-- Replaces the value of a key where it stands. -/
def replace (k : Key) (v : α) : List (Key × α) → List (Key × α)
  | [] => []
  | e :: es => if e.1 = k then (k, v) :: es else e :: replace k v es

@[simp] theorem map_fst_replace (k : Key) (v : α) (es : List (Key × α)) :
    (replace k v es).map (·.1) = es.map (·.1) := by
  induction es with
  | nil => rfl
  | cons e es ih =>
    simp only [replace]
    split
    · rename_i h; simp [h]
    · simp [ih]

/-- A key is without a value exactly if no entry has it. -/
theorem lookup_eq_none_iff {k : Key} {es : List (Key × α)} :
    es.lookup k = none ↔ k ∉ es.map (·.1) := by
  induction es with
  | nil => simp
  | cons e es ih =>
    obtain ⟨l, v⟩ := e
    by_cases h : k = l
    · simp [h]
    · simp only [List.lookup_cons, beq_false_of_ne h, ih, List.map_cons, List.mem_cons, h,
        false_or]

theorem get?_eq_none_iff {t : KeyTable α} {k : Key} : t.get? k = none ↔ k ∉ t.keys :=
  lookup_eq_none_iff

theorem contains_iff {t : KeyTable α} {k : Key} : t.contains k = true ↔ k ∈ t.keys := by
  simp only [contains, Option.isSome_iff_ne_none, ne_eq, get?_eq_none_iff, Decidable.not_not]

/-- Sets the value of a key. -/
def set (t : KeyTable α) (k : Key) (v : α) : KeyTable α :=
  if h : k ∈ t.keys then
    { entries := replace k v t.entries
      nodup := by rw [map_fst_replace]; exact t.nodup }
  else
    { entries := t.entries ++ [(k, v)]
      nodup := by
        rw [List.map_append, List.nodup_append]
        refine ⟨t.nodup, by simp, ?_⟩
        intro a ha b hb
        simp only [List.map_cons, List.map_nil, List.mem_singleton] at hb
        rintro rfl
        exact h (hb ▸ ha) }

theorem keys_set (t : KeyTable α) (k : Key) (v : α) :
    (t.set k v).keys = if k ∈ t.keys then t.keys else t.keys ++ [k] := by
  unfold set
  split
  · simp [keys]
  · simp [keys]

theorem lookup_replace (k l : Key) (v : α) (es : List (Key × α)) :
    (replace k v es).lookup l = if l = k ∧ k ∈ es.map (·.1) then some v else es.lookup l := by
  induction es with
  | nil => simp [replace]
  | cons e es ih =>
    obtain ⟨m, w⟩ := e
    by_cases hm : m = k
    · subst hm
      by_cases hl : l = m
      · simp [replace, hl]
      · simp [replace, List.lookup_cons, hl, beq_false_of_ne hl]
    · by_cases hl : l = m
      · subst hl
        simp [replace, hm]
      · have hk : k ≠ m := fun h => hm h.symm
        simp only [replace, if_neg hm, List.lookup_cons, beq_false_of_ne hl, ih, List.map_cons,
          List.mem_cons, hk, false_or]

/-- Setting a key determines its value and leaves the others alone. -/
theorem get?_set (t : KeyTable α) (k l : Key) (v : α) :
    (t.set k v).get? l = if l = k then some v else t.get? l := by
  unfold set
  split
  · rename_i h
    simp only [get?, lookup_replace]
    by_cases hl : l = k
    · simp only [hl, true_and, if_pos (show k ∈ t.entries.map (·.1) from h), if_true]
    · simp [hl]
  · rename_i h
    simp only [get?, List.lookup_append, List.lookup_cons, List.lookup_nil]
    by_cases hl : l = k
    · have missing : t.entries.lookup k = none := lookup_eq_none_iff.2 h
      simp [hl, missing]
    · simp [hl, beq_false_of_ne hl]

end KeyTable
end SolanaWire
