import Ebms.Directory
import Ebms.Sha256
import Ebms.Store.Basic

/-!
# Stores in a directory

Every processing mode is a document of its own, named after the digest of its identifier, so that
any identifier gives a safe name. A document is written under a temporary name first, one that
nothing in the directory has, and then renamed, so no reader meets half a document; if the renaming
fails, the temporary file stays.

Other hands may put anything into the directory. What is no document is left alone when identifiers
are listed; a document that cannot be read, or is no processing mode, is an error there.
-/

namespace Ebms

/-- The end of the name of every document. -/
def documentExtension : String :=
  ".json"

/-- The name of the document of an identifier. -/
def documentName (id : ModeId) : String :=
  Sha256.hexDigestOfText id.text ++ documentExtension

/-- Whether a file is taken for a document. -/
def isDocumentName (name : String) : Bool :=
  documentExtension.toList.isSuffixOf name.toList

/-- The document of a processing mode. -/
def documentContent (mode : ProcessingMode) : ByteArray :=
  (ProcessingMode.codec.encode mode).indented.toUTF8

/-- The processing mode in the bytes of a document. -/
def decodeDocument (content : ByteArray) : Except StoreError ProcessingMode :=
  match ProcessingMode.codec.ofBytes content with
  | .ok mode => .ok mode
  | .error mistake => .error (.undecodable mistake)

/-- The processing mode in an entry with a document's name. An entry that is a link and leads
nowhere is as good as any other that cannot be read. -/
def DirectoryEntry.mode (entry : DirectoryEntry) : Except StoreError ProcessingMode :=
  match entry.read with
  | .ok content => decodeDocument content
  | .error _ => .error .inaccessible

/-- The identifiers in all documents among some entries, in ascending order. -/
def documentIds (entries : List (String × DirectoryEntry)) : Except StoreError (List ModeId) := do
  let documents := entries.filter fun entry => isDocumentName entry.1
  let modes ← documents.mapM fun entry => entry.2.mode
  .ok ((modes.map ProcessingMode.id).mergeSort fun a b => decide (a.text ≤ b.text))

/-- The temporary name of some number for a document; the number is written in thirty-two digits or
more. -/
def temporaryName (document : String) (number : Nat) : String :=
  document ++ "." ++ String.ofList ((Nat.toDigits 10 number).leftpad 32 '0') ++ ".tmp"

namespace Directory

/-- The directory when a store is opened in it: what is there stays, and one that is not there is
made. -/
def opened (directory : Directory) : Directory :=
  { directory with removed := false }

/-- The first temporary name for a document that nothing in the directory has. Of one name more
than the directory has entries, one is always free. -/
def freshName (directory : Directory) (document : String) : String :=
  let names := (List.range (directory.entries.size + 1)).map (temporaryName document)
  (names.find? fun name => (directory.entries.find? name).isNone).getD document

/-- The directory with the document of a processing mode, unless its structure has a defect. -/
def save (directory : Directory) (mode : ProcessingMode) : Outcome Directory StoreError Unit :=
  match mode.checkStructure with
  | .error defect => { result := .error (.invalid defect), state := directory }
  | .ok () =>
      let name := documentName mode.id
      let temporary := directory.freshName name
      match directory.write? [temporary] (documentContent mode) with
      | none => { result := .error .inaccessible, state := directory }
      | some written =>
          match written.rename? temporary name with
          | none => { result := .error .inaccessible, state := written }
          | some renamed =>
              { result := .ok ()
                state := renamed
                events := [.documentStored mode.id.text name] }

/-- The processing mode in the document of an identifier, if there is one. Only a document that is
not found is none; one that is found and cannot be read is an error. -/
def find (directory : Directory) (id : ModeId) : Except StoreError (Option ProcessingMode) :=
  match directory.read (documentName id) with
  | .ok content => (decodeDocument content).map some
  | .error .notFound => .ok none
  | .error .refused => .error .inaccessible

/-- The identifiers in all documents, in ascending order. -/
def list (directory : Directory) : Except StoreError (List ModeId) :=
  documentIds directory.entries.entries

instance : Repository Directory where
  save := save
  find := find
  list := list

end Directory

end Ebms
