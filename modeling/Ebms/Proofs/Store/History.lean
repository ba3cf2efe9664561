import Ebms.Proofs.Store.Refinement

/-!
# A store in memory is the modes that were saved in it

What a store in memory answers is told by the modes that were saved in it, in their order. Under an
identifier is the last sound mode that was saved with it, and listed are the identifiers of all
sound modes, in ascending order and once each. A mode with a defect in its structure is refused for
that defect and leaves the store as it is, and nothing that is saved takes an identifier away.
-/

namespace Ebms

/-- The store after some modes are saved, one after the other. -/
def afterSaving {σ : Type} [Repository σ] (store : σ) (modes : List ProcessingMode) : σ :=
  StoreCall.after store (modes.map .save)

/-- The last sound mode with an identifier among some modes. -/
def lastSound (modes : List ProcessingMode) (id : ModeId) : Option ProcessingMode :=
  (modes.filter fun mode => mode.checkStructure = .ok () ∧ mode.id = id).getLast?

/-- There is a last sound mode with an identifier exactly if there is any. -/
theorem lastSound_ne_none_iff (modes : List ProcessingMode) (id : ModeId) :
    lastSound modes id ≠ none ↔
      ∃ mode ∈ modes, mode.checkStructure = .ok () ∧ mode.id = id := by
  rw [lastSound, ne_eq, List.getLast?_eq_none_iff, List.filter_eq_nil_iff]
  simp

/-- The last sound mode with an identifier is one of the modes. -/
theorem mem_of_lastSound {modes : List ProcessingMode} {id : ModeId} {mode : ProcessingMode}
    (h : lastSound modes id = some mode) : mode ∈ modes :=
  List.mem_of_mem_filter (List.mem_of_getLast? h)

namespace MemoryStore

variable (store : MemoryStore)

/-- Saving some modes puts the sound ones under their identifiers, one after the other. -/
theorem modes_afterSaving (modes : List ProcessingMode) :
    (afterSaving store modes).modes =
      store.modes.putAll (fun mode => mode.id.text)
        (modes.filter fun mode => mode.checkStructure = .ok ()) := by
  induction modes generalizing store with
  | nil => rfl
  | cons mode modes ih =>
    have hnext : afterSaving store (mode :: modes) =
        afterSaving (store.save mode).state modes := rfl
    rw [hnext, ih, List.filter_cons]
    cases hstructure : mode.checkStructure with
    | error defect => rw [store.save_of_unsound hstructure, if_neg (by simp)]
    | ok =>
      rw [store.save_of_sound hstructure, if_pos (by simp)]
      rfl

/-- What is found after some modes are saved is the last sound one with the identifier, or else what
was found before. -/
theorem find_afterSaving (modes : List ProcessingMode) (id : ModeId) :
    (afterSaving store modes).find id = (lastSound modes id).or (store.find id) := by
  rw [find, modes_afterSaving, Index.find?_putAll, List.filter_filter, lastSound]
  simp only [ModeId.text_inj, ← Bool.decide_and, and_comm]
  rfl

/-- Saving some modes keeps every mode under its own identifier. -/
theorem Keyed.afterSaving {store : MemoryStore} (h : store.Keyed) (modes : List ProcessingMode) :
    (afterSaving store modes).Keyed := by
  rw [keyed_iff, modes_afterSaving]
  exact (store.keyed_iff.mp h).putAll _

/-- An identifier is listed exactly if something is found under it. -/
theorem Keyed.mem_list_iff {store : MemoryStore} (h : store.Keyed) (id : ModeId) :
    id ∈ store.list ↔ store.find id ≠ none := by
  rw [store.mem_list, Option.ne_none_iff_exists']
  simp only [h.find_eq_some_iff]

/-- The identifiers that are listed after some modes are saved in an empty store are those of the
sound modes among them. -/
theorem mem_list_afterSaving (modes : List ProcessingMode) (id : ModeId) :
    id ∈ (Ebms.afterSaving ({} : MemoryStore) modes).list ↔
      ∃ mode ∈ modes, mode.checkStructure = .ok () ∧ mode.id = id := by
  have hnothing : find {} id = none := rfl
  rw [(keyed_empty.afterSaving modes).mem_list_iff, find_afterSaving, hnothing, Option.or_none,
    lastSound_ne_none_iff]

/-- However the identifiers of the sound modes are enumerated, they are listed as they are sorted:
the listing does not show in which order a store keeps its modes. -/
theorem list_eq_sorted {modes : List ProcessingMode} {ids : List ModeId} (hnodup : ids.Nodup)
    (hids : ∀ id, id ∈ ids ↔ ∃ mode ∈ modes, mode.checkStructure = .ok () ∧ mode.id = id) :
    (Ebms.afterSaving ({} : MemoryStore) modes).list = sortedBy ModeId.text ids := by
  refine eq_sortedBy ModeId.text_injective (keyed_empty.afterSaving modes).pairwise_list hnodup ?_
  intro id
  rw [hids, mem_list_afterSaving]

/-- A store that starts empty answers by the modes that were saved in it. Under an identifier is the
last sound mode with it; the identifiers of all sound modes are listed, in strictly ascending order;
and the size is the number of those. Of any further mode, the defect in its structure is the only
reason to be refused, and then the store stays as it is. Whatever else is saved, no identifier is
lost. -/
theorem answers_afterSaving (modes : List ProcessingMode) :
    let store := Ebms.afterSaving ({} : MemoryStore) modes
    (∀ id, store.find id =
      (modes.filter fun mode => mode.checkStructure = .ok () ∧ mode.id = id).getLast?) ∧
    store.list.Pairwise (fun id other => id.text < other.text) ∧
    (∀ id, id ∈ store.list ↔ ∃ mode ∈ modes, mode.checkStructure = .ok () ∧ mode.id = id) ∧
    store.size = store.list.length ∧
    (∀ mode, (store.save mode).result = mode.checkStructure.mapError .invalid ∧
      (mode.checkStructure ≠ .ok () → (store.save mode).state = store)) ∧
    ∀ others, store.list ⊆ (Ebms.afterSaving store others).list := by
  intro store
  have hkeyed : store.Keyed := keyed_empty.afterSaving modes
  have hfind (id : ModeId) : store.find id = lastSound modes id := by
    rw [find_afterSaving]
    exact Option.or_none
  refine ⟨hfind, hkeyed.pairwise_list, mem_list_afterSaving modes, ?size, ?refused, ?kept⟩
  case size => simp [MemoryStore.size, MemoryStore.list, Index.size, Index.values]
  case refused =>
    intro mode
    cases hstructure : mode.checkStructure with
    | error defect =>
      rw [store.save_of_unsound hstructure]
      exact ⟨rfl, fun _ => rfl⟩
    | ok =>
      rw [store.save_of_sound hstructure]
      exact ⟨rfl, fun hunsound => absurd rfl hunsound⟩
  case kept =>
    intro others id hid
    rw [hkeyed.mem_list_iff] at hid
    rw [(hkeyed.afterSaving others).mem_list_iff, find_afterSaving]
    intro hnone
    exact hid (Option.or_eq_none_iff.mp hnone).2

end MemoryStore

end Ebms
