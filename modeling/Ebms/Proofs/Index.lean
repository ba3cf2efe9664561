import Ebms.Index
import Ebms.Proofs.Sorting

/-!
# An index is what is found in it

What is held under a key is the entry with that key, and there is no other one. Two indexes in which
the same is found under every key are therefore the same, which settles every question about putting
and erasing entries by looking keys up.

Values that bring their keys along are put under them one after the other. The last one with a key
is then found under it, and the index lists its values in the order of their own keys.
-/

namespace Ebms.Index

variable {α : Type}

/-- What is found under a key is the entry with that key. -/
theorem find?_eq_some_iff (index : Index α) (key : String) (value : α) :
    index.find? key = some value ↔ (key, value) ∈ index.entries := by
  obtain ⟨entries, ascending⟩ := index
  simp only [find?, Option.map_eq_some_iff]
  constructor
  · rintro ⟨⟨found, held⟩, hfound, rfl⟩
    have hkey : found = key := by simpa using List.find?_some hfound
    exact hkey ▸ List.mem_of_find?_eq_some hfound
  · intro hmem
    induction entries with
    | nil => cases hmem
    | cons first entries ih =>
      obtain hfirst | hmem := List.mem_cons.mp hmem
      · exact ⟨first, by simp [← hfirst], by rw [← hfirst]⟩
      · have hne : first.1 ≠ key := by
          have hlt : first.1 < key := List.rel_of_pairwise_cons ascending hmem
          rintro rfl
          exact String.lt_irrefl _ hlt
        rw [List.find?_cons_of_neg (by simpa using hne)]
        exact ih ascending.of_cons hmem

/-- Nothing is found under a key exactly if no entry has it. -/
theorem find?_eq_none_iff (index : Index α) (key : String) :
    index.find? key = none ↔ key ∉ index.keys := by
  rw [find?, Option.map_eq_none_iff, List.find?_eq_none, keys, List.mem_map]
  grind

/-- No two entries are the same. -/
theorem nodup_entries (index : Index α) : index.entries.Nodup :=
  nodup_of_ascending index.ascending

/-- Indexes in which the same is found under every key are the same. -/
theorem eq_of_find?_eq {index other : Index α}
    (h : ∀ key, index.find? key = other.find? key) : index = other := by
  have hmem : ∀ entry, entry ∈ index.entries ↔ entry ∈ other.entries := by
    rintro ⟨key, value⟩
    rw [← find?_eq_some_iff, ← find?_eq_some_iff, h]
  have hperm : index.entries.Perm other.entries :=
    (List.perm_ext_iff_of_nodup index.nodup_entries other.nodup_entries).mpr hmem
  have hentries : index.entries = other.entries :=
    hperm.eq_of_pairwise
      (fun _ _ _ _ hlt hgt => absurd (String.lt_trans hlt hgt) (String.lt_irrefl _))
      index.ascending other.ascending
  cases index
  cases other
  cases hentries
  rfl

/-- What is found after an entry is put. -/
theorem find?_put (index : Index α) (key other : String) (value : α) :
    (index.put key value).find? other = if other = key then some value else index.find? other := by
  split
  · rename_i heq
    rw [heq, find?_put_self]
  · rename_i hne
    exact index.find?_put_ne hne value

/-- The entries whose keys are of some kind. -/
def filter (index : Index α) (p : String → Bool) : Index α :=
  ⟨index.entries.filter fun entry => p entry.1, index.ascending.filter _⟩

/-- What is found among the entries whose keys are of some kind. -/
theorem find?_filter (index : Index α) (p : String → Bool) (key : String) :
    (index.filter p).find? key = if p key then index.find? key else none := by
  rw [find?, filter, List.find?_filter]
  split
  · rename_i hkey
    rw [find?]
    congr 2
    funext entry
    by_cases hentry : entry.1 = key <;> simp [hentry, hkey]
  · rename_i hkey
    rw [Option.map_eq_none_iff, List.find?_eq_none]
    intro entry _ hentry
    obtain ⟨hkept, hfound⟩ := of_decide_eq_true hentry
    exact hkey (beq_iff_eq.mp hfound ▸ hkept)

/-- Indexes in which the same is found under every key of some kind have the same entries of that
kind. -/
theorem filter_eq_of_find?_eq {index other : Index α} {p : String → Bool}
    (h : ∀ key, p key = true → index.find? key = other.find? key) :
    index.filter p = other.filter p := by
  apply eq_of_find?_eq
  intro key
  rw [find?_filter, find?_filter]
  split
  · rename_i hkey
    exact h key hkey
  · rfl

/-- What is found after an entry is erased. -/
theorem find?_erase (index : Index α) (key other : String) :
    (index.erase key).find? other = if other = key then none else index.find? other := by
  have herase : index.erase key = index.filter (· != key) := rfl
  rw [herase, find?_filter]
  by_cases hkey : other = key <;> simp [hkey]

/-- Erasing a key under which there is nothing changes nothing. -/
theorem erase_eq_self {index : Index α} {key : String} (h : index.find? key = none) :
    index.erase key = index := by
  apply eq_of_find?_eq
  intro other
  rw [find?_erase]
  split
  · rename_i heq
    rw [heq, h]
  · rfl

/-- Of an entry that is put and erased again nothing is left. -/
theorem erase_put (index : Index α) (key : String) (value : α) :
    (index.put key value).erase key = index.erase key := by
  apply eq_of_find?_eq
  intro other
  rw [find?_erase, find?_erase]
  split
  · rfl
  · rename_i hne
    exact index.find?_put_ne hne value

/-- The entries after one is put: that one, and those with other keys. -/
theorem mem_entries_put (index : Index α) (key : String) (value : α) (entry : String × α) :
    entry ∈ (index.put key value).entries ↔
      entry = (key, value) ∨ entry.1 ≠ key ∧ entry ∈ index.entries := by
  obtain ⟨other, held⟩ := entry
  rw [← find?_eq_some_iff, ← find?_eq_some_iff, find?_put]
  split
  · rename_i heq
    simp [heq, eq_comm]
  · rename_i hne
    simp [hne]

/-- The index after some values are put under keys of their own, one after the other. -/
def putAll (key : α → String) (index : Index α) (values : List α) : Index α :=
  values.foldl (fun index value => index.put (key value) value) index

/-- What is found after some values are put is the last one with the key, or else what was found
before. -/
theorem find?_putAll (key : α → String) (index : Index α) (values : List α) (name : String) :
    (index.putAll key values).find? name =
      (values.filter fun value => key value = name).getLast?.or (index.find? name) := by
  induction values generalizing index with
  | nil => rfl
  | cons value values ih =>
    have hnext : index.putAll key (value :: values) =
        (index.put (key value) value).putAll key values := rfl
    rw [hnext, ih, find?_put, List.filter_cons]
    by_cases hname : key value = name
    · rw [if_pos hname.symm, if_pos (decide_eq_true hname), List.getLast?_cons]
      cases List.getLast? _ <;> rfl
    · rw [if_neg (Ne.symm hname), if_neg (by simpa using hname)]

/-- Every value of an index is under the key that is its own. -/
def Keyed (key : α → String) (index : Index α) : Prop :=
  ∀ entry ∈ index.entries, key entry.2 = entry.1

/-- There is nothing in an empty index that is not under its own key. -/
theorem keyed_empty (key : α → String) : (empty : Index α).Keyed key :=
  fun _ hentry => absurd hentry List.not_mem_nil

namespace Keyed

variable {key : α → String} {index : Index α}

/-- A value is put under its own key. -/
theorem put (h : index.Keyed key) (value : α) : (index.put (key value) value).Keyed key := by
  intro entry hentry
  obtain rfl | ⟨-, hbefore⟩ := (mem_entries_put _ _ _ _).mp hentry
  · rfl
  · exact h entry hbefore

/-- Values are put under their own keys. -/
theorem putAll (h : index.Keyed key) (values : List α) : (index.putAll key values).Keyed key := by
  induction values generalizing index with
  | nil => exact h
  | cons value values ih => exact ih (h.put value)

/-- What is found under a key is the value with that key. -/
theorem find?_eq_some_iff (h : index.Keyed key) (name : String) (value : α) :
    index.find? name = some value ↔ value ∈ index.values ∧ key value = name := by
  rw [Index.find?_eq_some_iff, values, List.mem_map]
  constructor
  · intro hmem
    exact ⟨⟨_, hmem, rfl⟩, h _ hmem⟩
  · rintro ⟨⟨⟨found, held⟩, hmem, rfl⟩, rfl⟩
    exact h _ hmem ▸ hmem

/-- The values are in strictly ascending order of their own keys. -/
theorem pairwise_values (h : index.Keyed key) :
    index.values.Pairwise fun value other => key value < key other := by
  rw [values, List.pairwise_map]
  refine index.ascending.imp_of_mem ?_
  intro entry other hentry hother hlt
  rw [h entry hentry, h other hother]
  exact hlt

end Keyed

end Ebms.Index
