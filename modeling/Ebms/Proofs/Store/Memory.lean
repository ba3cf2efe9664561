import Ebms.Proofs.Index
import Ebms.Store.Memory

/-!
# What a store in memory holds

Saving a sound mode puts it under its identifier and changes nothing else. A store that is filled in
this way has every mode under its own identifier, so it lists the identifiers of its modes once each
and finds the mode of every identifier that it lists.
-/

namespace Ebms

namespace MemoryStore

/-- What is found after a mode is put is that mode under its identifier, and elsewhere what was
found before. -/
theorem find_put (store : MemoryStore) (mode : ProcessingMode) (id : ModeId) :
    find ⟨store.modes.put mode.id.text mode⟩ id =
      if id = mode.id then some mode else store.find id := by
  rw [find, Index.find?_put]
  exact if_congr ModeId.text_inj rfl rfl

/-- A mode with a defect in its structure is refused, and the store stays as it is. -/
theorem save_of_unsound (store : MemoryStore) {mode : ProcessingMode} {defect : Defect}
    (h : mode.checkStructure = .error defect) :
    store.save mode = { result := .error (.invalid defect), state := store } := by
  rw [save, h]

/-- A mode that is sound in structure is put under its identifier. -/
theorem save_of_sound (store : MemoryStore) {mode : ProcessingMode}
    (h : mode.checkStructure = .ok ()) :
    store.save mode = { result := .ok (), state := ⟨store.modes.put mode.id.text mode⟩ } := by
  rw [save, h]

/-- Every mode of a store is under its own identifier. -/
def Keyed (store : MemoryStore) : Prop :=
  ∀ entry ∈ store.modes.entries, entry.2.id.text = entry.1

/-- The modes of a store are under their own identifiers if the index has them under the texts of
those. -/
theorem keyed_iff (store : MemoryStore) :
    store.Keyed ↔ store.modes.Keyed fun mode => mode.id.text :=
  Iff.rfl

/-- Nothing is in an empty store. -/
theorem keyed_empty : Keyed {} :=
  (keyed_iff {}).mpr (Index.keyed_empty _)

/-- A mode is put under its own identifier. -/
theorem Keyed.put {store : MemoryStore} (h : store.Keyed) (mode : ProcessingMode) :
    Keyed ⟨store.modes.put mode.id.text mode⟩ :=
  Index.Keyed.put (store.keyed_iff.mp h) mode

/-- The modes that a store holds. -/
def Holds (store : MemoryStore) (mode : ProcessingMode) : Prop :=
  mode ∈ store.modes.values

/-- What is found under an identifier is the mode with that identifier. -/
theorem Keyed.find_eq_some_iff {store : MemoryStore} (h : store.Keyed) (id : ModeId)
    (mode : ProcessingMode) : store.find id = some mode ↔ store.Holds mode ∧ mode.id = id := by
  rw [find, (store.keyed_iff.mp h).find?_eq_some_iff, ModeId.text_inj]
  rfl

/-- The modes that are held after one is put: that one, and those with other identifiers. -/
theorem Keyed.holds_put {store : MemoryStore} (h : store.Keyed) (mode held : ProcessingMode) :
    Holds ⟨store.modes.put mode.id.text mode⟩ held ↔
      held = mode ∨ held.id ≠ mode.id ∧ store.Holds held := by
  have hself (store : MemoryStore) (hkeyed : store.Keyed) (mode : ProcessingMode) :
      store.Holds mode ↔ store.find mode.id = some mode := by
    rw [hkeyed.find_eq_some_iff, and_iff_left rfl]
  rw [hself _ (h.put mode), hself _ h, find_put]
  split
  · rename_i hid
    simp [hid, eq_comm]
  · rename_i hid
    have hne : held ≠ mode := fun heq => hid (heq ▸ rfl)
    simp [hid, hne]

/-- The identifiers are listed in strictly ascending order. -/
theorem Keyed.pairwise_list {store : MemoryStore} (h : store.Keyed) :
    store.list.Pairwise fun id other => id.text < other.text := by
  rw [list, List.pairwise_map]
  exact (store.keyed_iff.mp h).pairwise_values

/-- No identifier is listed twice. -/
theorem Keyed.nodup_list {store : MemoryStore} (h : store.Keyed) : store.list.Nodup :=
  nodup_of_ascending h.pairwise_list

/-- The identifiers that are listed are those of the modes that are held. -/
theorem mem_list (store : MemoryStore) (id : ModeId) :
    id ∈ store.list ↔ ∃ mode, store.Holds mode ∧ mode.id = id := by
  rw [list, List.mem_map]
  rfl

end MemoryStore

end Ebms
