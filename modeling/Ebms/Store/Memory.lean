import Ebms.Index
import Ebms.Store.Basic

/-!
# Stores in memory

The plainest store: an index from identifiers to processing modes. It refuses modes with a defect
in their structure and never fails otherwise.
-/

namespace Ebms

/-- Processing modes by identifier. -/
structure MemoryStore where
  modes : Index ProcessingMode := .empty

namespace MemoryStore

/-- The store with one more processing mode, unless its structure has a defect. -/
def save (store : MemoryStore) (mode : ProcessingMode) : Outcome MemoryStore StoreError Unit :=
  match mode.checkStructure with
  | .error defect => { result := .error (.invalid defect), state := store }
  | .ok () => { result := .ok (), state := ⟨store.modes.put mode.id.text mode⟩ }

/-- The processing mode under an identifier. -/
def find (store : MemoryStore) (id : ModeId) : Option ProcessingMode :=
  store.modes.find? id.text

/-- The identifiers of all processing modes, in ascending order. -/
def list (store : MemoryStore) : List ModeId :=
  store.modes.values.map ProcessingMode.id

/-- The number of processing modes. -/
def size (store : MemoryStore) : Nat :=
  store.modes.size

instance : Repository MemoryStore where
  save := save
  find store id := .ok (store.find id)
  list store := .ok store.list

end MemoryStore

end Ebms
