import Ebms.Proofs.Store.Interruption

/-!
# What readers get from what a directory holds

Anyone may have put anything into the directory: files that are no documents, documents under names
that are no digests, several with one identifier, folders, links that lead nowhere, and files that
are cut short. A listing goes through all documents, so one that cannot be read or decoded fails it,
and nothing else does. A search looks at the one document that the identifier names and cannot be
disturbed by the others. Reading fails in two ways, and they tell apart what is not found from what
does not work: a link that leads nowhere is not found, though it has a name.
-/

namespace Ebms

/-- What is made of an error neither adds a result nor loses one. -/
theorem mapError_eq_ok {ε δ α : Type} {result : Except ε α} {change : ε → δ} {value : α} :
    result.mapError change = .ok value ↔ result = .ok value := by
  cases result <;> simp [Except.mapError]

/-- The bytes of a document are decoded to a processing mode, or what is wrong with them is told. -/
theorem decodeDocument_eq (content : ByteArray) :
    decodeDocument content = (ProcessingMode.codec.ofBytes content).mapError .undecodable := by
  rw [decodeDocument]
  cases ProcessingMode.codec.ofBytes content <;> rfl

namespace DirectoryEntry

/-- An entry can be read, and what is read is a processing mode. -/
def Decodes (entry : DirectoryEntry) (mode : ProcessingMode) : Prop :=
  ∃ bytes, entry.read = .ok bytes ∧ ProcessingMode.codec.ofBytes bytes = .ok mode

variable {entry : DirectoryEntry}

/-- A processing mode is found in an entry exactly if the entry can be read and decoded. -/
theorem mode_eq_ok_iff {mode : ProcessingMode} : entry.mode = .ok mode ↔ entry.Decodes mode := by
  rw [DirectoryEntry.mode, Decodes]
  cases entry.read with
  | error => simp
  | ok bytes => simp only [decodeDocument_eq, mapError_eq_ok, Except.ok.injEq, exists_eq_left']

/-- There is one processing mode at most in an entry. -/
theorem Decodes.unique {mode other : ProcessingMode} (h : entry.Decodes mode)
    (hother : entry.Decodes other) : mode = other :=
  Except.ok.inj ((mode_eq_ok_iff.mpr h).symm.trans (mode_eq_ok_iff.mpr hother))

/-- What has a name is not found exactly if it is a link that leads nowhere. -/
theorem read_eq_notFound_iff : entry.read = .error .notFound ↔ entry = .deadLink := by
  cases entry <;> simp [read]

end DirectoryEntry

/-- What a reader answers about an identifier, by what has the name of its document. -/
inductive FoundAs : Option DirectoryEntry → Except StoreError (Option ProcessingMode) → Prop
  | absent : FoundAs none (.ok none)
  | lost {entry : DirectoryEntry} (h : entry.read = .error .notFound) :
      FoundAs (some entry) (.ok none)
  | unreadable {entry : DirectoryEntry} (h : entry.read = .error .refused) :
      FoundAs (some entry) (.error .inaccessible)
  | undecodable {entry : DirectoryEntry} {bytes : ByteArray} {mistake : Json.Mistake}
      (hread : entry.read = .ok bytes)
      (h : ProcessingMode.codec.ofBytes bytes = .error mistake) :
      FoundAs (some entry) (.error (.undecodable mistake))
  | decoded {entry : DirectoryEntry} {mode : ProcessingMode} (h : entry.Decodes mode) :
      FoundAs (some entry) (.ok (some mode))

/-- Two answers that fit what is there are the same. -/
theorem FoundAs.unique {found : Option DirectoryEntry}
    {answer other : Except StoreError (Option ProcessingMode)} (h : FoundAs found answer)
    (hother : FoundAs found other) : answer = other := by
  cases h <;> cases hother
  case decoded.decoded h _ hother => rw [h.unique hother]
  all_goals simp_all [DirectoryEntry.Decodes]

/-- There is nothing to answer exactly if nothing has the name, or what has it leads nowhere. -/
theorem foundAs_none_iff {found : Option DirectoryEntry} :
    FoundAs found (.ok none) ↔ found = none ∨ found = some .deadLink := by
  constructor
  · rintro (_ | hlost)
    · exact .inl rfl
    · exact .inr (congrArg some (DirectoryEntry.read_eq_notFound_iff.mp hlost))
  · rintro (rfl | rfl)
    · exact .absent
    · exact .lost rfl

/-- Some identifiers are those in the documents among some entries, one for each document, in
ascending order. -/
structure ListedAs (entries : List (String × DirectoryEntry)) (ids : List ModeId) : Prop where
  ascending : ids.Pairwise fun id other => id.text ≤ other.text
  ofDocuments : ∃ modes : List ProcessingMode,
    List.Forall₂ (fun entry mode => entry.2.Decodes mode)
      (entries.filter fun entry => isDocumentName entry.1) modes ∧
    ids.Perm (modes.map ProcessingMode.id)

/-- A file is taken for a document exactly if its name ends in `.json`. -/
theorem isDocumentName_iff (name : String) :
    isDocumentName name = true ↔ ∃ front, name = front ++ ".json" := by
  rw [isDocumentName, List.isSuffixOf_iff_suffix]
  constructor
  · rintro ⟨front, hfront⟩
    refine ⟨String.ofList front, String.toList_inj.mp ?_⟩
    rw [String.toList_append, String.toList_ofList]
    exact hfront.symm
  · rintro ⟨front, rfl⟩
    rw [String.toList_append]
    exact List.suffix_append _ _

/-- Every value of a list has a partner exactly if there is a list of partners. -/
theorem exists_forall₂_iff {α β : Type} {partner : α → β → Prop} {values : List α} :
    (∃ partners, List.Forall₂ partner values partners) ↔
      ∀ value ∈ values, ∃ other, partner value other := by
  induction values with
  | nil => simp
  | cons value values ih =>
    rw [List.forall_mem_cons, ← ih]
    simp only [List.forall₂_cons_left_iff]
    constructor
    · rintro ⟨_, other, others, hother, hothers, -⟩
      exact ⟨⟨other, hother⟩, others, hothers⟩
    · rintro ⟨⟨other, hother⟩, others, hothers⟩
      exact ⟨_, other, others, hother, hothers, rfl⟩

/-- The order of the entries does not matter for what is listed. -/
theorem ListedAs.perm {entries others : List (String × DirectoryEntry)} {ids : List ModeId}
    (hperm : entries.Perm others) (h : ListedAs entries ids) : ListedAs others ids := by
  obtain ⟨modes, hdecoded, hids⟩ := h.ofDocuments
  obtain ⟨others', hothers, hmodes⟩ :=
    List.perm_comp_forall₂ (hperm.symm.filter _) hdecoded
  exact ⟨h.ascending, others', hothers, hids.trans (hmodes.symm.map _)⟩

/-- The identifiers among some entries are those in the documents, each of which can be read and
decoded. -/
theorem documentIds_eq_ok_iff {entries : List (String × DirectoryEntry)} {ids : List ModeId} :
    documentIds entries = .ok ids ↔ ListedAs entries ids := by
  rw [documentIds]
  simp only [Json.bind_eq_ok, mapM_eq_ok_iff, DirectoryEntry.mode_eq_ok_iff]
  constructor
  · rintro ⟨modes, hmodes, hids⟩
    obtain ⟨hascending, hperm⟩ := (sortedBy_eq_iff ModeId.text_injective).mp (Except.ok.inj hids)
    exact ⟨hascending, modes, hmodes, hperm⟩
  · rintro ⟨hascending, modes, hmodes, hperm⟩
    exact ⟨modes, hmodes,
      congrArg Except.ok ((sortedBy_eq_iff ModeId.text_injective).mpr ⟨hascending, hperm⟩)⟩

/-- There are identifiers to list exactly if every document can be read and decoded. -/
theorem exists_listedAs_iff {entries : List (String × DirectoryEntry)} :
    (∃ ids, ListedAs entries ids) ↔
      ∀ entry ∈ entries, isDocumentName entry.1 = true → ∃ mode, entry.2.Decodes mode := by
  calc (∃ ids, ListedAs entries ids)
      ↔ ∃ modes, List.Forall₂ (fun entry mode => entry.2.Decodes mode)
          (entries.filter fun entry => isDocumentName entry.1) modes := by
        constructor
        · rintro ⟨ids, -, modes, hmodes, -⟩
          exact ⟨modes, hmodes⟩
        · rintro ⟨modes, hmodes⟩
          exact ⟨sortedBy ModeId.text (modes.map ProcessingMode.id), pairwise_sortedBy _, modes,
            hmodes, sortedBy_perm _⟩
    _ ↔ ∀ entry ∈ entries, isDocumentName entry.1 = true → ∃ mode, entry.2.Decodes mode := by
        rw [exists_forall₂_iff]
        simp only [List.mem_filter, and_imp]

namespace Directory

variable (directory : Directory)

/-- Identifiers are listed for every directory exactly if they are those in its documents. -/
theorem list_eq_ok_iff {ids : List ModeId} :
    directory.list = .ok ids ↔ ListedAs directory.entries.entries ids :=
  documentIds_eq_ok_iff

/-- The answer of a reader fits what has the name of the document. -/
theorem foundAs_find (id : ModeId) :
    FoundAs (directory.entries.find? (documentName id)) (directory.find id) := by
  rcases hentry : directory.entries.find? (documentName id) with _ | entry
  · rw [find, read, hentry]
    exact .absent
  have hsame : directory.read (documentName id) = entry.read := by rw [read, hentry]
  rw [find, hsame]
  rcases hread : entry.read with (_ | _) | bytes
  · exact .lost hread
  · exact .unreadable hread
  · simp only [decodeDocument_eq]
    cases hdecoded : ProcessingMode.codec.ofBytes bytes with
    | ok mode => exact .decoded ⟨bytes, hread, hdecoded⟩
    | error mistake => exact .undecodable hread hdecoded

/-- A reader answers by what has the name of the document, and by nothing else. -/
theorem find_eq_iff {id : ModeId} {answer : Except StoreError (Option ProcessingMode)} :
    directory.find id = answer ↔ FoundAs (directory.entries.find? (documentName id)) answer := by
  constructor
  · rintro rfl
    exact directory.foundAs_find id
  · exact (directory.foundAs_find id).unique

end Directory

end Ebms
