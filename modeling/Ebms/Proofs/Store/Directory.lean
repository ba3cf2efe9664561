import Ebms.Proofs.Decimal
import Ebms.Proofs.Index
import Ebms.Proofs.RoundTrip
import Ebms.Store.Directory
import Mathlib.Data.List.Forall2
import Mathlib.Data.List.Nodup

/-!
# Saving and reading documents in a directory

The temporary names of a document are all different, so of one more than there are entries one is
free. A mode that is sound in structure is therefore saved whenever the directory is there and no
folder is in the place of its document, and all that is left of it is that document. Documents have
the same name exactly if the digests of their identifiers are the same, and a document is read as
the mode in its settled form.
-/

namespace Ebms

/-- The words of the digest of an identifier. -/
def ModeId.digest (id : ModeId) : List UInt32 :=
  Sha256.digestWords id.text.toUTF8.toList

namespace Sha256

/-- The hexadecimal digits are different. -/
theorem digitChar_inj {m n : Nat} (hm : m < 16) (hn : n < 16)
    (h : Nat.digitChar m = Nat.digitChar n) : m = n := by
  have hall : ∀ m n : Fin 16, Nat.digitChar m = Nat.digitChar n → m = n := by decide
  exact congrArg Fin.val (hall ⟨m, hm⟩ ⟨n, hn⟩ h)

/-- A number is told by the values of its hexadecimal digits. -/
theorem eq_of_hexDigits (digits : Nat) {m n : Nat} (hm : m < Nat.pow 16 digits)
    (hn : n < Nat.pow 16 digits)
    (h : ∀ i < digits, m >>> (4 * i) % 16 = n >>> (4 * i) % 16) : m = n := by
  induction digits generalizing m n with
  | zero => exact (Nat.lt_one_iff.mp hm).trans (Nat.lt_one_iff.mp hn).symm
  | succ digits ih =>
    have hless {m : Nat} (hm : m < Nat.pow 16 digits * 16) : m >>> 4 < Nat.pow 16 digits := by
      rw [Nat.shiftRight_eq_div_pow]
      exact Nat.div_lt_of_lt_mul (by rwa [Nat.mul_comm] at hm)
    have hfront : m >>> 4 = n >>> 4 := by
      apply ih (hless hm) (hless hn)
      intro i hi
      rw [← Nat.shiftRight_add, ← Nat.shiftRight_add, Nat.add_comm]
      exact h (i + 1) (Nat.succ_lt_succ hi)
    have hlast : m % 16 = n % 16 := h 0 (Nat.succ_pos digits)
    rw [Nat.shiftRight_eq_div_pow, Nat.shiftRight_eq_div_pow] at hfront
    omega

/-- A word is told by its hexadecimal digits. -/
theorem hexOfWord_inj {x y : UInt32} (h : hexOfWord x = hexOfWord y) : x = y := by
  apply UInt32.toNat_inj.mp
  apply eq_of_hexDigits 8 x.toNat_lt y.toNat_lt
  intro i hi
  have hchar := List.map_inj_left.mp h (7 - i) (List.mem_range.mpr (by omega))
  rw [Nat.sub_sub_self (by omega)] at hchar
  exact digitChar_inj (Nat.mod_lt _ (by decide)) (Nat.mod_lt _ (by decide)) hchar

/-- Words are told by their hexadecimal digits. -/
theorem flatMap_hexOfWord_inj {xs ys : List UInt32}
    (h : xs.flatMap hexOfWord = ys.flatMap hexOfWord) : xs = ys := by
  have hlength (x : UInt32) : (hexOfWord x).length = 8 := by
    rw [hexOfWord, List.length_map, List.length_range]
  have hcons (x : UInt32) (xs : List UInt32) : (x :: xs).flatMap hexOfWord ≠ [] := by
    intro hnil
    have := congrArg List.length hnil
    simp [hlength] at this
  induction xs generalizing ys with
  | nil =>
    cases ys with
    | nil => rfl
    | cons y ys => exact absurd h.symm (hcons y ys)
  | cons x xs ih =>
    cases ys with
    | nil => exact absurd h (hcons x xs)
    | cons y ys =>
      obtain ⟨hfirst, hrest⟩ := List.append_inj h (by rw [hlength, hlength])
      rw [hexOfWord_inj hfirst, ih hrest]

end Sha256

/-- Documents have the same name exactly if their identifiers have the same digest. -/
theorem documentName_eq_iff (id other : ModeId) :
    documentName id = documentName other ↔ id.digest = other.digest := by
  rw [documentName, documentName, String.append_left_inj, Sha256.hexDigestOfText,
    Sha256.hexDigestOfText, Sha256.hexDigest, Sha256.hexDigest, String.ofList_inj]
  exact ⟨Sha256.flatMap_hexOfWord_inj, fun h => congrArg _ h⟩

/-- The name of a document is taken for one. -/
theorem isDocumentName_documentName (id : ModeId) : isDocumentName (documentName id) = true := by
  rw [isDocumentName, List.isSuffixOf_iff_suffix, documentName, String.toList_append]
  exact List.suffix_append _ _

/-- The document of a mode is decoded to the mode in its settled form. -/
theorem ofBytes_documentContent (mode : ProcessingMode) :
    ProcessingMode.codec.ofBytes (documentContent mode) = .ok mode.settled :=
  (ProcessingMode.codec.ofBytes_toUTF8 _).trans mode.ofText_written.2

/-- The document of a mode is read as the mode in its settled form. -/
theorem decodeDocument_documentContent (mode : ProcessingMode) :
    decodeDocument (documentContent mode) = .ok mode.settled := by
  rw [decodeDocument, ofBytes_documentContent]

/-- What a directory holds for a mode. -/
def ProcessingMode.document (mode : ProcessingMode) : String × DirectoryEntry :=
  (documentName mode.id, .file (documentContent mode))

/-- Going through a list succeeds if every step does, and collects what the steps give. -/
theorem mapM_eq_ok_iff {ε α β : Type} {step : α → Except ε β} {values : List α}
    {results : List β} :
    values.mapM step = .ok results ↔
      List.Forall₂ (fun value result => step value = .ok result) values results := by
  induction values generalizing results with
  | nil =>
    rw [List.mapM_nil, List.forall₂_nil_left_iff]
    exact ⟨fun h => (Except.ok.inj h).symm, fun h => congrArg _ h.symm⟩
  | cons value values ih =>
    rw [List.mapM_cons, Json.bind_eq_ok, List.forall₂_cons_left_iff]
    simp only [Json.bind_eq_ok, ih]
    constructor
    · rintro ⟨first, hfirst, others, hothers, ⟨⟩⟩
      exact ⟨first, others, hfirst, hothers, rfl⟩
    · rintro ⟨first, others, hfirst, hothers, rfl⟩
      exact ⟨first, hfirst, others, hothers, rfl⟩

/-- Identifiers of processing modes are told by their texts. -/
theorem ModeId.text_injective : Function.Injective ModeId.text :=
  fun _ _ => text_inj.mp

/-- The identifiers in the documents of some modes, in any order, are those of the modes without the
white space around them. -/
theorem documentIds_of_perm {entries : List (String × DirectoryEntry)}
    {modes : List ProcessingMode} (h : entries.Perm (modes.map ProcessingMode.document)) :
    documentIds entries = .ok (sortedBy ModeId.text (modes.map fun mode => mode.id.trimmed)) := by
  have hread : List.Forall₂ (fun entry mode => entry.2.mode = .ok mode)
      (modes.map ProcessingMode.document) (modes.map ProcessingMode.settled) := by
    rw [List.forall₂_map_left_iff, List.forall₂_map_right_iff, List.forall₂_same]
    intro mode _
    exact decodeDocument_documentContent mode
  obtain ⟨found, hfound, hperm⟩ := List.perm_comp_forall₂ h hread
  have hall : entries.filter (fun entry => isDocumentName entry.1) = entries := by
    rw [List.filter_eq_self]
    intro entry hentry
    obtain ⟨mode, -, rfl⟩ := List.mem_map.mp (h.mem_iff.mp hentry)
    exact isDocumentName_documentName mode.id
  have hids := sortedBy_eq_of_perm ModeId.text_injective (hperm.map ProcessingMode.id)
  rw [List.map_map] at hids
  rw [documentIds, hall, mapM_eq_ok_iff.mpr hfound]
  exact congrArg Except.ok hids

/-- Temporary names of different numbers are different. -/
theorem temporaryName_inj {document : String} {number other : Nat}
    (h : temporaryName document number = temporaryName document other) : number = other := by
  have hdigits :
      (Nat.toDigits 10 number).leftpad 32 '0' = (Nat.toDigits 10 other).leftpad 32 '0' := by
    rw [temporaryName, temporaryName, String.append_left_inj, String.append_right_inj,
      String.ofList_inj] at h
    exact h
  have hvalue := congrArg Text.digitsValue hdigits
  rwa [Text.digitsValue_leftpad, Text.digitsValue_leftpad, Text.digitsValue_toDigits,
    Text.digitsValue_toDigits] at hvalue

namespace Directory

variable (directory : Directory)

/-- Among the temporary names for a document there is a free one: there are more of them than
entries. -/
theorem freshName_eq (document : String) :
    ∃ number, directory.freshName document = temporaryName document number ∧
      directory.entries.find? (temporaryName document number) = none := by
  let names := (List.range (directory.entries.size + 1)).map (temporaryName document)
  have hnodup : names.Nodup :=
    List.nodup_range.map fun _ _ h => temporaryName_inj h
  have hfree : ∃ name ∈ names, (directory.entries.find? name).isNone := by
    -- Otherwise all of these names, one more than there are entries, would be keys.
    by_contra htaken
    have hkeys : names ⊆ directory.entries.keys := by
      intro name hname
      by_contra hkey
      exact htaken ⟨name, hname,
        Option.isNone_iff_eq_none.mpr ((Index.find?_eq_none_iff _ _).mpr hkey)⟩
    have hlength := hnodup.length_le_of_subset hkeys
    simp only [names, Index.keys, Index.size, List.length_map, List.length_range] at hlength
    omega
  obtain ⟨name, hname⟩ := Option.isSome_iff_exists.mp (List.find?_isSome.mpr hfree)
  obtain ⟨number, -, rfl⟩ := List.mem_map.mp (List.mem_of_find?_eq_some hname)
  refine ⟨number, ?_, by simpa using List.find?_some hname⟩
  change (names.find? _).getD document = _
  rw [hname]
  rfl

/-- The temporary name for a document is free. -/
theorem find?_freshName (document : String) :
    directory.entries.find? (directory.freshName document) = none := by
  obtain ⟨number, hname, hfree⟩ := directory.freshName_eq document
  rw [hname, hfree]

/-- A name that a file can be written under: it is free, or a file has it. -/
def Writable (name : String) : Prop :=
  ∀ entry, directory.entries.find? name = some entry → ∃ content, entry = .file content

/-- A file is written under a name exactly if the directory is there and the name is free or that of
a file, and then it is all that changes. -/
theorem write?_eq_some_iff {name : String} (content : ByteArray) {written : Directory} :
    directory.write? [name] content = some written ↔
      directory.removed = false ∧ directory.Writable name ∧
        written = { directory with entries := directory.entries.put name (.file content) } := by
  rw [write?, change?, Writable]
  cases hremoved : directory.removed with
  | true => simp
  | false =>
    rcases hentry : directory.entries.find? name with _ | (_ | _ | _ | _) <;>
      simp [DirectoryEntry.change?, eq_comm]

/-- A file is written under a name that is free. -/
theorem write?_of_free (hthere : directory.removed = false) {name : String}
    (hfree : directory.entries.find? name = none) (content : ByteArray) :
    directory.write? [name] content =
      some { directory with entries := directory.entries.put name (.file content) } := by
  refine (directory.write?_eq_some_iff content).mpr ⟨hthere, ?_, rfl⟩
  intro entry hentry
  cases hfree.symm.trans hentry

/-- A file is given another name exactly if it is there and no folder is in its place, and then it
is all that changes. -/
theorem rename?_eq_some_iff {old new : String} {renamed : Directory} :
    directory.rename? old new = some renamed ↔
      ∃ content, directory.entries.find? old = some (.file content) ∧
        (∀ entries, directory.entries.find? new ≠ some (.folder entries)) ∧
        renamed = { directory with
          entries := (directory.entries.erase old).put new (.file content) } := by
  unfold rename?
  rcases directory.entries.find? old with _ | (_ | _ | _ | _) <;>
    rcases directory.entries.find? new with _ | (_ | _ | _ | _) <;> simp [eq_comm]

/-- A file that is written under a name that is free, and then given another name, leaves nothing
behind under the first one. -/
theorem rename?_of_free {temporary name : String}
    (hfree : directory.entries.find? temporary = none)
    (hplace : ∀ entries, directory.entries.find? name ≠ some (.folder entries))
    (content : ByteArray) :
    rename? { directory with entries := directory.entries.put temporary (.file content) }
        temporary name =
      some { directory with entries := directory.entries.put name (.file content) } := by
  refine (rename?_eq_some_iff _).mpr ⟨content, Index.find?_put_self _ _ _, ?_, ?_⟩
  · intro entries
    rw [Index.find?_put]
    split
    · exact nofun
    · exact hplace entries
  · rw [Index.erase_put, Index.erase_eq_self hfree]

/-- What is found depends on nothing but the entry under the name of the document. -/
theorem find_congr {other : Directory} {id : ModeId}
    (h : other.entries.find? (documentName id) = directory.entries.find? (documentName id)) :
    other.find id = directory.find id := by
  rw [find, find, read, read, h]

/-- In the document of a mode the mode is found in its settled form. -/
theorem find_of_document {id : ModeId} {mode : ProcessingMode}
    (h : directory.entries.find? (documentName id) = some (.file (documentContent mode))) :
    directory.find id = .ok (some mode.settled) := by
  simp only [find, read, h, DirectoryEntry.read, decodeDocument_documentContent]
  rfl

/-- A mode with a defect in its structure is refused, and the directory stays as it is. -/
theorem save_of_unsound {mode : ProcessingMode} {defect : Defect}
    (h : mode.checkStructure = .error defect) :
    directory.save mode = { result := .error (.invalid defect), state := directory } := by
  rw [save, h]

/-- A mode that is sound in structure is saved in its document, and nothing else changes, if the
directory is there and no folder is in the place of the document. -/
theorem save_of_sound {mode : ProcessingMode} (h : mode.checkStructure = .ok ())
    (hthere : directory.removed = false)
    (hplace : ∀ entries, directory.entries.find? (documentName mode.id) ≠ some (.folder entries)) :
    directory.save mode =
      { result := .ok ()
        state :=
          { directory with
            entries := directory.entries.put (documentName mode.id)
              (.file (documentContent mode)) }
        events := [.documentStored mode.id.text (documentName mode.id)] } := by
  have hfree := directory.find?_freshName (documentName mode.id)
  simp only [save, h, directory.write?_of_free hthere hfree,
    directory.rename?_of_free hfree hplace]

end Directory

end Ebms
