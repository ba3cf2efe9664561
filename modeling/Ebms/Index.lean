/-!
# Entries in order of their keys

An index holds at most one entry for a key and lists its entries in the order of the keys, character
by character. Putting an entry replaces the one that had its key; looking a key up after that finds
what was put last.
-/

namespace Ebms

/-- Entries in strictly ascending order of their keys. -/
structure Index (α : Type) where
  entries : List (String × α)
  ascending : entries.Pairwise fun a b => a.1 < b.1

namespace Index

variable {α : Type}

/-- No entries. -/
def empty : Index α :=
  ⟨[], .nil⟩

/-- The entries with one more, in its place. -/
def putEntry (key : String) (value : α) : List (String × α) → List (String × α)
  | [] => [(key, value)]
  | entry :: entries =>
      if key < entry.1 then (key, value) :: entry :: entries
      else if key = entry.1 then (key, value) :: entries
      else entry :: putEntry key value entries

/-- Every entry after one is put was there before or is the one put. -/
theorem mem_putEntry {key : String} {value : α} {entries : List (String × α)}
    {entry : String × α} (h : entry ∈ putEntry key value entries) :
    entry = (key, value) ∨ entry ∈ entries := by
  induction entries with
  | nil => simpa [putEntry] using h
  | cons first entries ih =>
    rw [putEntry] at h
    split at h
    · simpa using h
    · split at h
      · rcases List.mem_cons.1 h with h | h
        · exact .inl h
        · exact .inr (List.mem_cons_of_mem _ h)
      · rcases List.mem_cons.1 h with h | h
        · exact .inr (h ▸ List.mem_cons_self)
        · exact (ih h).imp id (List.mem_cons_of_mem _)

/-- Putting an entry keeps the keys in ascending order. -/
theorem pairwise_putEntry (key : String) (value : α) {entries : List (String × α)}
    (h : entries.Pairwise fun a b => a.1 < b.1) :
    (putEntry key value entries).Pairwise fun a b => a.1 < b.1 := by
  induction entries with
  | nil => simp [putEntry]
  | cons first entries ih =>
    have hfirst : ∀ entry ∈ entries, first.1 < entry.1 := fun _ hentry =>
      List.rel_of_pairwise_cons h hentry
    rw [putEntry]
    split
    · rename_i hlt
      refine .cons (fun entry hentry => ?_) h
      rcases List.mem_cons.1 hentry with rfl | hentry
      · exact hlt
      · exact String.lt_trans hlt (hfirst entry hentry)
    · split
      · rename_i heq
        exact .cons (fun entry hentry => heq ▸ hfirst entry hentry) h.of_cons
      · rename_i hnlt hne
        refine .cons (fun entry hentry => ?_) (ih h.of_cons)
        rcases mem_putEntry hentry with rfl | hentry
        · exact Decidable.byContradiction fun hn =>
            hne (String.le_antisymm (String.not_lt.1 hn) (String.not_lt.1 hnlt))
        · exact hfirst entry hentry

/-- The index with one more entry, in the place of the one that had its key. -/
def put (index : Index α) (key : String) (value : α) : Index α :=
  ⟨putEntry key value index.entries, pairwise_putEntry key value index.ascending⟩

/-- The index without the entry of a key. -/
def erase (index : Index α) (key : String) : Index α :=
  ⟨index.entries.filter fun entry => entry.1 != key, index.ascending.filter _⟩

/-- What is held under a key. -/
def find? (index : Index α) (key : String) : Option α :=
  (index.entries.find? fun entry => entry.1 == key).map Prod.snd

/-- The keys, in ascending order. -/
def keys (index : Index α) : List String :=
  index.entries.map Prod.fst

/-- What is held, in the order of the keys. -/
def values (index : Index α) : List α :=
  index.entries.map Prod.snd

/-- The number of entries. -/
def size (index : Index α) : Nat :=
  index.entries.length

/-- Putting an entry puts it under its key. -/
theorem find?_putEntry_self (key : String) (value : α) (entries : List (String × α)) :
    (putEntry key value entries).find? (fun entry => entry.1 == key) = some (key, value) := by
  induction entries with
  | nil => simp [putEntry]
  | cons first entries ih =>
    rw [putEntry]
    split
    · simp
    · split
      · simp
      · rename_i hne
        simp [Ne.symm hne, ih]

/-- Putting an entry changes nothing under any other key. -/
theorem find?_putEntry_ne {key other : String} (hne : other ≠ key) (value : α)
    (entries : List (String × α)) :
    (putEntry key value entries).find? (fun entry => entry.1 == other) =
      entries.find? fun entry => entry.1 == other := by
  induction entries with
  | nil => simp [putEntry, Ne.symm hne]
  | cons first entries ih =>
    rw [putEntry]
    split
    · simp [List.find?_cons, Ne.symm hne]
    · split
      · rename_i heq
        simp [Ne.symm hne, ← heq]
      · simp [List.find?_cons, ih]

/-- What was put last under a key is found under it. -/
@[simp] theorem find?_put_self (index : Index α) (key : String) (value : α) :
    (index.put key value).find? key = some value := by
  simp [find?, put, find?_putEntry_self]

/-- What is held under other keys stays when an entry is put. -/
theorem find?_put_ne (index : Index α) {key other : String} (hne : other ≠ key) (value : α) :
    (index.put key value).find? other = index.find? other := by
  simp [find?, put, find?_putEntry_ne hne]

end Index

end Ebms
