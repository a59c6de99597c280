/-!
# Repetition

The first item of a list that is equal to an earlier one.  A list without such an item has no
duplicates.
-/
namespace SolanaWire

/-- The first item that is equal to an earlier one. -/
def firstRepeated? {α : Type} [DecidableEq α] (items : List α) : Option α :=
  items.zipIdx.findSome? (fun (x, i) => if x ∈ items.take i then some x else none)

theorem nodup_of_firstRepeated? {α : Type} [DecidableEq α] {items : List α}
    (h : firstRepeated? items = none) : items.Nodup := by
  rw [List.nodup_iff_pairwise_ne, List.pairwise_iff_getElem]
  intro i j hi hj hij same
  rw [firstRepeated?, List.findSome?_eq_none_iff] at h
  have := h (items[j], j) (by simp [List.mem_zipIdx_iff_getElem?])
  simp only [ite_eq_right_iff, reduceCtorEq, imp_false] at this
  exact this (List.mem_take_iff_getElem.2 ⟨i, by omega, same⟩)

example : firstRepeated? ["a", "b", "a", "b"] = some "a" := by decide +kernel

end SolanaWire
