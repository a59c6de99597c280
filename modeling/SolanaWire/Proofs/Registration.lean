import SolanaWire.DecoderRegistry
import SolanaWire.Proofs.InstructionData

/-!
# Registration

Programs with different ids are all registered, in their order.  The registry of the built-in
programs therefore knows these programs, each by its id, and no other.
-/
namespace SolanaWire

theorem KeyTable.get?_eq_some_iff {α : Type} {t : KeyTable α} {k : Key} {v : α} :
    t.get? k = some v ↔ (k, v) ∈ t.entries :=
  lookup_eq_some_iff_mem t.nodup

theorem KeyTable.entries_set_of_notMem {α : Type} {t : KeyTable α} {k : Key} {v : α}
    (missing : k ∉ t.keys) : (t.set k v).entries = t.entries ++ [(k, v)] := by
  rw [set, dif_neg missing]

/-- What a registry has about a program that is registered under its own name. -/
def Program.entry (P : Program) : Key × DecoderEntry :=
  (P.id, ⟨DecoderRegistry.nameFor P.id (some P.name), P.decoder⟩)

namespace DecoderRegistry

/-- Programs with different ids that are not registered yet are all added. -/
theorem entries_registerAll {r : DecoderRegistry} {ps : List Program}
    (nodup : (r.keys ++ ps.map (·.id)).Nodup) :
    (r.registerAll ps).1.entries = r.entries ++ ps.map Program.entry ∧
      (r.registerAll ps).2.1 = none := by
  induction ps generalizing r with
  | nil => exact ⟨(List.append_nil _).symm, rfl⟩
  | cons P ps ih =>
    have missing : P.id ∉ r.keys := by
      intro mem
      exact (List.nodup_append.1 nodup).2.2 P.id mem P.id (by simp) rfl
    have added : r.register P.id P.decoder (some P.name) =
        .ok (KeyTable.set r P.id P.entry.2) := by
      rw [register, KeyTable.get?_eq_none_iff.2 missing]
      rfl
    have rest : ((KeyTable.set r P.id P.entry.2).keys ++ ps.map (·.id)).Nodup := by
      rw [KeyTable.keys_set, if_neg missing]
      simpa using nodup
    obtain ⟨entries, conflict⟩ := ih rest
    rw [KeyTable.entries_set_of_notMem missing] at entries
    rw [registerAll, added]
    refine ⟨?_, conflict⟩
    rw [entries]
    simp [Program.entry]

/-- The registry of the built-in programs knows each of them by its id, and no other program. -/
theorem get?_builtin_eq_some_iff {k : Key} {entry : DecoderEntry} :
    builtin.get? k = some entry ↔
      ∃ P ∈ Builtin.programs, P.id = k ∧ entry = ⟨P.name, P.decoder⟩ := by
  have nodup : ((KeyTable.empty : DecoderRegistry).keys ++ Builtin.programs.map (·.id)).Nodup :=
    Builtin.ids_nodup
  have entries : builtin.entries = Builtin.programs.map Program.entry :=
    (entries_registerAll nodup).1
  have named : ∀ P ∈ Builtin.programs, nameFor P.id (some P.name) = P.name := by decide +kernel
  rw [KeyTable.get?_eq_some_iff, entries, List.mem_map]
  constructor
  · rintro ⟨P, mem, same⟩
    rw [Program.entry, Prod.mk.injEq, named P mem] at same
    exact ⟨P, mem, same.1, same.2.symm⟩
  · rintro ⟨P, mem, rfl, rfl⟩
    refine ⟨P, mem, ?_⟩
    rw [Program.entry, named P mem]

end DecoderRegistry
end SolanaWire
