import Ebms.Proofs.Store.Directory

/-!
# Saving is all or nothing

A mode is saved in steps, and each of them can fail: its structure is checked, its document is
written under a temporary name, and the file is renamed. The file may be written in part when that
fails, and it may not be removed. Readers only look at documents, and a temporary name is never the
name of a document. So whatever is in the directory and wherever saving stops, readers get the same
answers as before, unless the file was renamed; then they find the mode, and nothing else changed.
-/

namespace Ebms

/-- Why the saving of a sound mode stops, apart from what is in the directory. -/
inductive Interruption where
  /-- The temporary file cannot be made. -/
  | unwritten
  /-- Only some bytes of the document, if not all, get into the temporary file. -/
  | cutShort (bytes : Nat)
  /-- The temporary file cannot be renamed. -/
  | unrenamed

/-- The temporary name for a document that has some token in it. -/
def temporaryNameWith (document token : String) : String :=
  document ++ "." ++ token ++ ".tmp"

/-- A temporary name is never taken for the name of a document. -/
theorem isDocumentName_temporaryNameWith (document token : String) :
    isDocumentName (temporaryNameWith document token) = false := by
  rw [← Bool.not_eq_true, isDocumentName, List.isSuffixOf_iff_suffix, temporaryNameWith,
    String.toList_append]
  intro hdocument
  have htemporary : ".tmp".toList <:+ documentExtension.toList :=
    List.suffix_of_suffix_length_le (List.suffix_append _ _) hdocument (by decide)
  exact absurd htemporary (by decide)

/-- A temporary name is the name of no document. -/
theorem documentName_ne_temporaryNameWith (id : ModeId) (document token : String) :
    documentName id ≠ temporaryNameWith document token := by
  intro hname
  have hdocument := isDocumentName_documentName id
  rw [hname, isDocumentName_temporaryNameWith] at hdocument
  cases hdocument

namespace Directory

variable (directory : Directory)

/-- The documents in a directory, which are all that readers look at. -/
def documents : Index DirectoryEntry :=
  directory.entries.filter isDocumentName

/-- Where the documents are the same, a reader finds the same. -/
theorem find_of_documents_eq {other : Directory} (h : other.documents = directory.documents)
    (id : ModeId) : other.find id = directory.find id := by
  refine directory.find_congr ?_
  have hsame := congrArg (Index.find? · (documentName id)) h
  simpa only [documents, Index.find?_filter, isDocumentName_documentName, if_true] using hsame

/-- A reader lists the identifiers in the documents. -/
theorem list_eq : directory.list = documentIds directory.documents.entries := by
  rw [list, documentIds, documentIds, documents, Index.filter, List.filter_filter]
  simp only [Bool.and_self]

/-- The directory with a temporary file, or what is left if it cannot be written whole. -/
def writeTemporary (interruption : Option Interruption) (temporary : String)
    (content : ByteArray) : Except Directory Directory :=
  match interruption with
  | some .unwritten => .error directory
  | some (.cutShort bytes) =>
      .error ((directory.write? [temporary] (content.extract 0 bytes)).getD directory)
  | some .unrenamed | none => (directory.write? [temporary] content).elim (.error directory) .ok

/-- The directory with the temporary file under the name of a document, or as it is if the file
cannot be renamed. -/
def renameTemporary (interruption : Option Interruption) (temporary document : String) :
    Except Directory Directory :=
  match interruption with
  | some _ => .error directory
  | none => (directory.rename? temporary document).elim (.error directory) .ok

/-- Saves a mode through the temporary file with some token in its name, as far as saving is not
interrupted. -/
def saveThrough (interruption : Option Interruption) (token : String) (mode : ProcessingMode) :
    Outcome Directory StoreError Unit :=
  match mode.checkStructure with
  | .error defect => { result := .error (.invalid defect), state := directory }
  | .ok () =>
      let document := documentName mode.id
      let temporary := temporaryNameWith document token
      match directory.writeTemporary interruption temporary (documentContent mode) with
      | .error left => { result := .error .inaccessible, state := left }
      | .ok written =>
          match written.renameTemporary interruption temporary document with
          | .error left => { result := .error .inaccessible, state := left }
          | .ok renamed =>
              { result := .ok ()
                state := renamed
                events := [.documentStored mode.id.text document] }

/-- A mode is saved through a temporary file whose name is free, and without an interruption. -/
theorem save_eq_saveThrough (mode : ProcessingMode) :
    ∃ token, directory.entries.find? (temporaryNameWith (documentName mode.id) token) = none ∧
      directory.save mode = directory.saveThrough none token mode := by
  obtain ⟨number, hname, hfree⟩ := directory.freshName_eq (documentName mode.id)
  let token := String.ofList ((Nat.toDigits 10 number).leftpad 32 '0')
  have htoken : temporaryName (documentName mode.id) number =
      temporaryNameWith (documentName mode.id) token := rfl
  rw [htoken] at hname hfree
  refine ⟨token, hfree, ?_⟩
  rw [save, saveThrough]
  cases mode.checkStructure with
  | error defect => rfl
  | ok =>
    simp only [hname, writeTemporary]
    cases directory.write? [temporaryNameWith (documentName mode.id) token]
        (documentContent mode) with
    | none => rfl
    | some written =>
      simp only [Option.elim_some, renameTemporary]
      cases written.rename? (temporaryNameWith (documentName mode.id) token)
          (documentName mode.id) <;> rfl

/-- Writing a file that is no document leaves the documents as they are, and so does trying to. -/
theorem documents_write? {name : String} (hname : isDocumentName name = false)
    (content : ByteArray) :
    ((directory.write? [name] content).getD directory).documents = directory.documents := by
  cases hwritten : directory.write? [name] content with
  | none => rfl
  | some written =>
    obtain ⟨-, -, rfl⟩ := (directory.write?_eq_some_iff _).mp hwritten
    refine Index.filter_eq_of_find?_eq fun other hother => Index.find?_put_ne _ ?_ _
    rintro rfl
    rw [hother] at hname
    cases hname

/-- A temporary file is written whole exactly if that is not interrupted and a file can be written
under its name. -/
theorem writeTemporary_eq_ok_iff {interruption : Option Interruption} {temporary : String}
    (content : ByteArray) {written : Directory} :
    directory.writeTemporary interruption temporary content = .ok written ↔
      (interruption = none ∨ interruption = some .unrenamed) ∧
        directory.write? [temporary] content = some written := by
  rcases interruption with _ | _ | _ | _ <;>
    cases hwritten : directory.write? [temporary] content <;> simp [writeTemporary, hwritten]

/-- A step that cannot be made leaves what was there. -/
theorem eq_of_elim_error {left : Directory} {made : Option Directory}
    (h : made.elim (Except.error directory) Except.ok = .error left) : left = directory := by
  cases made with
  | none => exact (Except.error.inj h).symm
  | some _ => cases h

/-- If a temporary file cannot be written whole, the documents are what they were. -/
theorem documents_of_writeTemporary_error {interruption : Option Interruption} {temporary : String}
    (htemporary : isDocumentName temporary = false) {content : ByteArray} {left : Directory}
    (h : directory.writeTemporary interruption temporary content = .error left) :
    left.documents = directory.documents := by
  rcases interruption with _ | _ | bytes | _
  · rw [directory.eq_of_elim_error h]
  · rw [Except.error.inj h]
  · rw [← Except.error.inj h, directory.documents_write? htemporary]
  · rw [directory.eq_of_elim_error h]

/-- A temporary file is renamed exactly if that is not interrupted and can be done. -/
theorem renameTemporary_eq_ok_iff {interruption : Option Interruption}
    {temporary document : String} {renamed : Directory} :
    directory.renameTemporary interruption temporary document = .ok renamed ↔
      interruption = none ∧ directory.rename? temporary document = some renamed := by
  cases interruption <;> cases hrenamed : directory.rename? temporary document <;>
    simp [renameTemporary, hrenamed]

/-- If a temporary file cannot be renamed, the directory is what it was. -/
theorem eq_of_renameTemporary_error {interruption : Option Interruption}
    {temporary document : String} {left : Directory}
    (h : directory.renameTemporary interruption temporary document = .error left) :
    left = directory := by
  cases interruption with
  | none => exact directory.eq_of_elim_error h
  | some _ => exact (Except.error.inj h).symm

/-- Nothing stands in the way of saving a mode through a temporary file. -/
structure Unhindered (interruption : Option Interruption) (token : String)
    (mode : ProcessingMode) : Prop where
  sound : mode.checkStructure = .ok ()
  uninterrupted : interruption = none
  there : directory.removed = false
  temporaryPlace : directory.Writable (temporaryNameWith (documentName mode.id) token)
  documentPlace : ∀ entries,
    directory.entries.find? (documentName mode.id) ≠ some (.folder entries)

/-- The directory with the document of a mode, and without a temporary file. -/
def withDocument (temporary : String) (mode : ProcessingMode) : Directory :=
  { directory with
    entries := (directory.entries.erase temporary).put (documentName mode.id)
      (.file (documentContent mode)) }

variable {directory} {interruption : Option Interruption} {token : String} {mode : ProcessingMode}

/-- If nothing stands in the way of saving, the document is there and the temporary file is not. -/
theorem Unhindered.saveThrough_eq (h : directory.Unhindered interruption token mode) :
    directory.saveThrough interruption token mode =
      { result := .ok ()
        state := directory.withDocument (temporaryNameWith (documentName mode.id) token) mode
        events := [.documentStored mode.id.text (documentName mode.id)] } := by
  let temporary := temporaryNameWith (documentName mode.id) token
  let written : Directory :=
    { directory with
      entries := directory.entries.put temporary (.file (documentContent mode)) }
  have hwrite : directory.writeTemporary interruption temporary (documentContent mode) =
      .ok written :=
    (directory.writeTemporary_eq_ok_iff _).mpr ⟨.inl h.uninterrupted,
      (directory.write?_eq_some_iff _).mpr ⟨h.there, h.temporaryPlace, rfl⟩⟩
  have hplace : ∀ entries,
      written.entries.find? (documentName mode.id) ≠ some (.folder entries) := by
    rw [Index.find?_put_ne _ (documentName_ne_temporaryNameWith _ _ _)]
    exact h.documentPlace
  have hrename : written.renameTemporary interruption temporary (documentName mode.id) =
      .ok { directory with
        entries := (written.entries.erase temporary).put (documentName mode.id)
          (.file (documentContent mode)) } :=
    written.renameTemporary_eq_ok_iff.mpr ⟨h.uninterrupted,
      written.rename?_eq_some_iff.mpr ⟨_, Index.find?_put_self _ _ _, hplace, rfl⟩⟩
  rw [Index.erase_put] at hrename
  rw [saveThrough, h.sound]
  dsimp only
  rw [hwrite]
  dsimp only
  rw [hrename]
  rfl

/-- Saving either fails and leaves the documents as they were, or nothing stands in its way. -/
theorem saveThrough_cases (directory : Directory) (interruption : Option Interruption)
    (token : String) (mode : ProcessingMode) :
    ((directory.saveThrough interruption token mode).result ≠ .ok () ∧
      (directory.saveThrough interruption token mode).state.documents = directory.documents) ∨
    directory.Unhindered interruption token mode := by
  have htemporary := isDocumentName_temporaryNameWith (documentName mode.id) token
  cases hstructure : mode.checkStructure with
  | error defect =>
    refine .inl ?_
    rw [saveThrough, hstructure]
    exact ⟨nofun, rfl⟩
  | ok =>
    cases hwrite : directory.writeTemporary interruption
      (temporaryNameWith (documentName mode.id) token) (documentContent mode) with
    | error left =>
      refine .inl ?_
      simp only [saveThrough, hstructure, hwrite]
      exact ⟨nofun, directory.documents_of_writeTemporary_error htemporary hwrite⟩
    | ok written =>
      obtain ⟨-, hwritten⟩ := (directory.writeTemporary_eq_ok_iff _).mp hwrite
      cases hrename : written.renameTemporary interruption
        (temporaryNameWith (documentName mode.id) token) (documentName mode.id) with
      | error left =>
        refine .inl ?_
        have hdocuments := directory.documents_write? htemporary (documentContent mode)
        rw [hwritten, Option.getD_some] at hdocuments
        simp only [saveThrough, hstructure, hwrite, hrename]
        exact ⟨nofun, written.eq_of_renameTemporary_error hrename ▸ hdocuments⟩
      | ok renamed =>
        obtain ⟨huninterrupted, hrenamed⟩ := written.renameTemporary_eq_ok_iff.mp hrename
        obtain ⟨hthere, hwritable, rfl⟩ := (directory.write?_eq_some_iff _).mp hwritten
        obtain ⟨-, -, hplace, -⟩ := (rename?_eq_some_iff _).mp hrenamed
        rw [Index.find?_put_ne _ (documentName_ne_temporaryNameWith _ _ _)] at hplace
        exact .inr ⟨hstructure, huninterrupted, hthere, hwritable, hplace⟩

/-- Saving succeeds exactly if nothing stands in its way. -/
theorem saveThrough_result_eq_ok_iff :
    (directory.saveThrough interruption token mode).result = .ok () ↔
      directory.Unhindered interruption token mode := by
  constructor
  · intro hsaved
    obtain ⟨hfailed, -⟩ | hunhindered := directory.saveThrough_cases interruption token mode
    · exact absurd hsaved hfailed
    · exact hunhindered
  · intro hunhindered
    rw [hunhindered.saveThrough_eq]

/-- Saving a mode is all or nothing, whatever is in the directory and wherever saving stops. If it
fails, every mode is found, and the identifiers are listed, as they were before. If it succeeds, a
reader finds what the document that was written is decoded to, which is the mode in its settled
form, finds every mode whose document has another name as before, and no temporary file is left.
Saving without an interruption is what the store does, through a temporary file whose name is
free. -/
theorem save_all_or_nothing (directory : Directory) (mode : ProcessingMode) :
    (∃ token, directory.entries.find? (temporaryNameWith (documentName mode.id) token) = none ∧
      directory.save mode = directory.saveThrough none token mode) ∧
    ∀ interruption token,
      let outcome := directory.saveThrough interruption token mode
      (outcome.result = .ok () ↔ directory.Unhindered interruption token mode) ∧
      (outcome.result ≠ .ok () →
        (∀ id, outcome.state.find id = directory.find id) ∧
          outcome.state.list = directory.list) ∧
      (outcome.result = .ok () →
        ProcessingMode.codec.ofBytes (documentContent mode) = .ok mode.settled ∧
        outcome.state.find mode.id = .ok (some mode.settled) ∧
        (∀ id, documentName id ≠ documentName mode.id →
          outcome.state.find id = directory.find id) ∧
        outcome.state.entries.find? (temporaryNameWith (documentName mode.id) token) = none) := by
  refine ⟨directory.save_eq_saveThrough mode, ?_⟩
  intro interruption token outcome
  refine ⟨saveThrough_result_eq_ok_iff, ?failed, ?saved⟩
  case failed =>
    intro hfailed
    obtain ⟨-, hdocuments⟩ | hunhindered := directory.saveThrough_cases interruption token mode
    · refine ⟨fun id => ?_, ?_⟩
      · exact directory.find_of_documents_eq hdocuments id
      · rw [list_eq, list_eq, hdocuments]
    · exact absurd (saveThrough_result_eq_ok_iff.mpr hunhindered) hfailed
  case saved =>
    intro hsaved
    have hstate : outcome.state =
        directory.withDocument (temporaryNameWith (documentName mode.id) token) mode :=
      congrArg Outcome.state (saveThrough_result_eq_ok_iff.mp hsaved).saveThrough_eq
    have hne (id : ModeId) := documentName_ne_temporaryNameWith id (documentName mode.id) token
    rw [hstate]
    refine ⟨?_, ?_, ?_, ?_⟩
    · exact ofBytes_documentContent mode
    · exact find_of_document _ (Index.find?_put_self _ _ _)
    · intro id hother
      refine directory.find_congr ?_
      rw [withDocument, Index.find?_put_ne _ hother, Index.find?_erase, if_neg (hne id)]
    · rw [withDocument, Index.find?_put_ne _ (hne mode.id).symm, Index.find?_erase, if_pos rfl]

end Directory

end Ebms
