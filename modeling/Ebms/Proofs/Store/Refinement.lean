import Ebms.Proofs.Store.Directory
import Ebms.Proofs.Store.Memory

/-!
# A directory stands for a store in memory

As long as nobody else writes to it and no two identifiers in use have the same digest, a directory
holds one document for every mode that a store in memory holds after the same calls, and nothing
else. It refuses the same modes for the same defects, finds what that store finds in its settled
form, and lists the identifiers of that store without the white space around them.

If every mode that is saved is exact, nothing is lost in a document, so the two give the same
answers to any calls, and opening the directory again in between changes nothing.
-/

namespace Ebms

/-- A call of a store. -/
inductive StoreCall where
  | save (mode : ProcessingMode)
  | find (id : ModeId)
  | list

/-- What a store answers to a call. -/
inductive StoreAnswer where
  | saved (result : Except StoreError Unit)
  | found (result : Except StoreError (Option ProcessingMode))
  | listed (result : Except StoreError (List ModeId))
  deriving DecidableEq

namespace StoreCall

/-- The identifiers that a call is about. -/
def ids : StoreCall → List ModeId
  | .save mode => [mode.id]
  | .find id => [id]
  | .list => []

variable {σ : Type} [Repository σ]

/-- The answer of a store to a call. -/
def answer (store : σ) : StoreCall → StoreAnswer
  | .save mode => .saved (Repository.save store mode).result
  | .find id => .found (Repository.find store id)
  | .list => .listed (Repository.list store)

/-- The store after a call; only saving changes it. -/
def next (store : σ) : StoreCall → σ
  | .save mode => (Repository.save store mode).state
  | .find _ | .list => store

/-- The answers of a store to calls, one after the other. -/
def answers (store : σ) : List StoreCall → List StoreAnswer
  | [] => []
  | call :: calls => call.answer store :: answers (call.next store) calls

/-- The store after calls. -/
def after (store : σ) : List StoreCall → σ
  | [] => store
  | call :: calls => after (call.next store) calls

/-- The answers to calls and then to others are given by the store and by the one after the first
calls. -/
theorem answers_append (store : σ) (calls others : List StoreCall) :
    answers store (calls ++ others) =
      answers store calls ++ answers (after store calls) others := by
  induction calls generalizing store with
  | nil => rfl
  | cons call calls ih => rw [List.cons_append, answers, answers, after, ih, List.cons_append]

end StoreCall

/-- The answers of a directory to calls in sessions; the directory is opened before each of them. -/
def Directory.answersInSessions (directory : Directory) : List (List StoreCall) → List StoreAnswer
  | [] => []
  | calls :: sessions =>
      StoreCall.answers directory.opened calls ++
        (StoreCall.after directory.opened calls).answersInSessions sessions

/-- No two identifiers have the same digest. -/
def DigestsApart (ids : List ModeId) : Prop :=
  ∀ id ∈ ids, ∀ other ∈ ids, id.digest = other.digest → id = other

/-- A directory mirrors a store in memory if it holds the documents of the modes in that store and
nothing else; the modes are under their own identifiers, which are among those in use. -/
structure Mirrors (ids : List ModeId) (directory : Directory) (store : MemoryStore) : Prop where
  there : directory.removed = false
  documents : ∀ entry, entry ∈ directory.entries.entries ↔
    ∃ mode, store.Holds mode ∧ mode.document = entry
  keyed : store.Keyed
  used : ∀ mode, store.Holds mode → mode.id ∈ ids

namespace Mirrors

variable {ids : List ModeId} {directory : Directory} {store : MemoryStore}

/-- An empty directory mirrors an empty store. -/
theorem empty (ids : List ModeId) : Mirrors ids {} {} where
  there := rfl
  documents entry := by
    constructor
    · intro hentry
      exact absurd hentry List.not_mem_nil
    · rintro ⟨mode, hholds, -⟩
      exact absurd hholds List.not_mem_nil
  keyed := MemoryStore.keyed_empty
  used _ hholds := absurd hholds List.not_mem_nil

/-- Opening a directory that mirrors a store changes nothing. -/
theorem opened (h : Mirrors ids directory store) : directory.opened = directory := by
  have hthere := h.there
  cases directory
  cases hthere
  rfl

/-- Under the name of a document is the document of the mode with that identifier. -/
theorem find?_documentName (h : Mirrors ids directory store) (hapart : DigestsApart ids)
    {id : ModeId} (hid : id ∈ ids) :
    directory.entries.find? (documentName id) =
      (store.find id).map fun mode => .file (documentContent mode) := by
  cases hfind : store.find id with
  | some mode =>
    obtain ⟨hholds, rfl⟩ := (h.keyed.find_eq_some_iff id mode).mp hfind
    exact (Index.find?_eq_some_iff _ _ _).mpr ((h.documents _).mpr ⟨mode, hholds, rfl⟩)
  | none =>
    rw [Option.map_none, Index.find?_eq_none_iff, Index.keys, List.mem_map]
    rintro ⟨entry, hentry, hname⟩
    -- Only the document of a mode with the same digest could be there.
    obtain ⟨mode, hholds, rfl⟩ := (h.documents entry).mp hentry
    have hdigest := (documentName_eq_iff _ _).mp hname
    have hsame := hapart _ (h.used mode hholds) _ hid hdigest
    have hfound := (h.keyed.find_eq_some_iff id mode).mpr ⟨hholds, hsame⟩
    rw [hfind] at hfound
    cases hfound

/-- What is found in a directory is what is found in the store, in its settled form. -/
theorem find (h : Mirrors ids directory store) (hapart : DigestsApart ids) {id : ModeId}
    (hid : id ∈ ids) :
    directory.find id = .ok ((store.find id).map ProcessingMode.settled) := by
  have hdocument := h.find?_documentName hapart hid
  cases hfind : store.find id with
  | none => rw [Directory.find, Directory.read, hdocument, hfind]; rfl
  | some mode => rw [directory.find_of_document (hdocument.trans (by rw [hfind]; rfl))]; rfl

/-- The entries of a directory are the documents of the modes, in some order. -/
theorem entries_perm (h : Mirrors ids directory store) (hapart : DigestsApart ids) :
    directory.entries.entries.Perm (store.modes.values.map ProcessingMode.document) := by
  have hids : (store.modes.values.map ProcessingMode.id).Nodup := h.keyed.nodup_list
  have hdifferent : ∀ mode ∈ store.modes.values, ∀ other ∈ store.modes.values,
      mode.document = other.document → mode = other := by
    intro mode hmode other hother hsame
    have hdigest := (documentName_eq_iff _ _).mp (congrArg Prod.fst hsame)
    exact List.inj_on_of_nodup_map hids hmode hother
      (hapart _ (h.used mode hmode) _ (h.used other hother) hdigest)
  rw [List.perm_ext_iff_of_nodup directory.entries.nodup_entries (hids.of_map.map_on hdifferent)]
  intro entry
  rw [h.documents, List.mem_map]
  rfl

/-- What is listed in a directory are the identifiers in the store, without the white space around
them. -/
theorem list (h : Mirrors ids directory store) (hapart : DigestsApart ids) :
    directory.list = .ok (sortedBy ModeId.text (store.list.map ModeId.trimmed)) := by
  rw [Directory.list, documentIds_of_perm (h.entries_perm hapart), MemoryStore.list, List.map_map]
  rfl

/-- If no identifier in the store has white space around it, the directory lists what the store
lists. -/
theorem list_of_trimmed (h : Mirrors ids directory store) (hapart : DigestsApart ids)
    (htrimmed : ∀ mode, store.Holds mode → mode.id.trimmed = mode.id) :
    directory.list = .ok store.list := by
  have hsame : store.list.map ModeId.trimmed = store.list := by
    refine (List.map_congr_left fun id hid => ?_).trans (List.map_id _)
    obtain ⟨mode, hholds, rfl⟩ := (store.mem_list id).mp hid
    exact htrimmed mode hholds
  rw [h.list hapart, hsame, sortedBy_eq_self ModeId.text_injective h.keyed.pairwise_list]

/-- A mode that is put into the store as well as into its document is mirrored. -/
theorem put (h : Mirrors ids directory store) (hapart : DigestsApart ids) {mode : ProcessingMode}
    (hid : mode.id ∈ ids) :
    Mirrors ids
      { directory with
        entries := directory.entries.put (documentName mode.id) (.file (documentContent mode)) }
      ⟨store.modes.put mode.id.text mode⟩ where
  there := h.there
  documents entry := by
    rw [Index.mem_entries_put, h.documents]
    simp only [h.keyed.holds_put]
    constructor
    · rintro (rfl | ⟨hne, held, hholds, rfl⟩)
      · exact ⟨mode, .inl rfl, rfl⟩
      · refine ⟨held, .inr ⟨?_, hholds⟩, rfl⟩
        intro hsame
        exact hne (congrArg documentName hsame)
    · rintro ⟨held, rfl | ⟨hne, hholds⟩, rfl⟩
      · exact .inl rfl
      · refine .inr ⟨?_, held, hholds, rfl⟩
        intro hname
        exact hne (hapart _ (h.used held hholds) _ hid ((documentName_eq_iff _ _).mp hname))
  keyed := h.keyed.put mode
  used held hheld := by
    obtain rfl | ⟨-, hholds⟩ := (h.keyed.holds_put mode held).mp hheld
    · exact hid
    · exact h.used held hholds

/-- A mode is saved or refused by both, and what they hold afterwards is mirrored. -/
theorem save (h : Mirrors ids directory store) (hapart : DigestsApart ids) {mode : ProcessingMode}
    (hid : mode.id ∈ ids) :
    (directory.save mode).result = (store.save mode).result ∧
      Mirrors ids (directory.save mode).state (store.save mode).state := by
  cases hstructure : mode.checkStructure with
  | error defect =>
    rw [directory.save_of_unsound hstructure, store.save_of_unsound hstructure]
    exact ⟨rfl, h⟩
  | ok =>
    have hplace : ∀ entries,
        directory.entries.find? (documentName mode.id) ≠ some (.folder entries) := by
      intro entries
      rw [h.find?_documentName hapart hid]
      cases store.find mode.id <;> exact nofun
    rw [directory.save_of_sound hstructure h.there hplace, store.save_of_sound hstructure]
    exact ⟨rfl, h.put hapart hid⟩

/-- A call about identifiers in use leaves a store and a directory that mirror each other again. -/
theorem next (h : Mirrors ids directory store) (hapart : DigestsApart ids) {call : StoreCall}
    (hids : ∀ id ∈ call.ids, id ∈ ids) :
    Mirrors ids (call.next directory) (call.next store) := by
  cases call with
  | save mode => exact (h.save hapart (hids _ List.mem_cons_self)).2
  | find | list => exact h

/-- Calls about identifiers in use leave a store and a directory that mirror each other again. -/
theorem after (h : Mirrors ids directory store) (hapart : DigestsApart ids)
    {calls : List StoreCall} (hids : ∀ call ∈ calls, ∀ id ∈ call.ids, id ∈ ids) :
    Mirrors ids (StoreCall.after directory calls) (StoreCall.after store calls) := by
  induction calls generalizing directory store with
  | nil => exact h
  | cons call calls ih =>
    obtain ⟨hid, hids⟩ := List.forall_mem_cons.mp hids
    exact ih (h.next hapart hid) hids

/-- If the modes of a store are exact, the directory that mirrors it answers every call in the same
way. -/
theorem answer (h : Mirrors ids directory store) (hapart : DigestsApart ids)
    (hexact : ∀ mode, store.Holds mode → mode.Exact) {call : StoreCall}
    (hids : ∀ id ∈ call.ids, id ∈ ids) : call.answer directory = call.answer store := by
  cases call with
  | save mode => exact congrArg _ (h.save hapart (hids _ List.mem_cons_self)).1
  | find id =>
    have hsettled : (store.find id).map ProcessingMode.settled = store.find id := by
      cases hfind : store.find id with
      | none => rfl
      | some mode =>
        have hholds := ((h.keyed.find_eq_some_iff id mode).mp hfind).1
        rw [Option.map_some, (ProcessingMode.settled_eq_self_iff mode).mpr (hexact mode hholds)]
    exact congrArg _ ((h.find hapart (hids _ List.mem_cons_self)).trans (congrArg _ hsettled))
  | list =>
    refine congrArg _ (h.list_of_trimmed hapart fun mode hholds => ?_)
    exact (ModeId.trimmed_eq_self_iff _).mpr (hexact mode hholds).1

end Mirrors

namespace StoreCall

/-- A call that saves an exact mode, if it saves one at all. -/
def SavesExactly (call : StoreCall) : Prop :=
  ∀ mode, call = .save mode → mode.checkStructure = .ok () → mode.Exact

/-- The modes of a store stay exact if only exact ones are saved. -/
theorem SavesExactly.next {call : StoreCall} (h : call.SavesExactly) {store : MemoryStore}
    (hkeyed : store.Keyed) (hexact : ∀ mode, store.Holds mode → mode.Exact) :
    ∀ mode, (call.next store).Holds mode → mode.Exact := by
  cases call with
  | save mode =>
    cases hstructure : mode.checkStructure with
    | error defect =>
      change ∀ held, (store.save mode).state.Holds held → _
      rw [store.save_of_unsound hstructure]
      exact hexact
    | ok =>
      change ∀ held, (store.save mode).state.Holds held → _
      rw [store.save_of_sound hstructure]
      intro held hheld
      obtain rfl | ⟨-, hholds⟩ := (hkeyed.holds_put mode held).mp hheld
      · exact h held rfl hstructure
      · exact hexact held hholds
  | find | list => exact hexact

end StoreCall

/-- A directory that mirrors a store of exact modes gives the same answers to calls that save only
exact modes, and the modes of the store are exact afterwards. -/
theorem Mirrors.answers {ids : List ModeId} {directory : Directory} {store : MemoryStore}
    (h : Mirrors ids directory store) (hapart : DigestsApart ids)
    (hexact : ∀ mode, store.Holds mode → mode.Exact) {calls : List StoreCall}
    (hcalls : ∀ call ∈ calls, call.SavesExactly)
    (hids : ∀ call ∈ calls, ∀ id ∈ call.ids, id ∈ ids) :
    StoreCall.answers directory calls = StoreCall.answers store calls ∧
      ∀ mode, (StoreCall.after store calls).Holds mode → mode.Exact := by
  induction calls generalizing directory store with
  | nil => exact ⟨rfl, hexact⟩
  | cons call calls ih =>
    obtain ⟨hcall, hcalls⟩ := List.forall_mem_cons.mp hcalls
    obtain ⟨hid, hids⟩ := List.forall_mem_cons.mp hids
    obtain ⟨hanswers, hafter⟩ :=
      ih (h.next hapart hid) (hcall.next h.keyed hexact) hcalls hids
    refine ⟨?_, hafter⟩
    rw [StoreCall.answers, StoreCall.answers, h.answer hapart hexact hid, hanswers]

/-- A directory that mirrors a store of exact modes gives the same answers to calls in sessions as
that store to the calls one after the other, if only exact modes are saved. -/
theorem Mirrors.answersInSessions {ids : List ModeId} {directory : Directory} {store : MemoryStore}
    (h : Mirrors ids directory store) (hapart : DigestsApart ids)
    (hexact : ∀ mode, store.Holds mode → mode.Exact) {sessions : List (List StoreCall)}
    (hcalls : ∀ calls ∈ sessions, ∀ call ∈ calls, call.SavesExactly)
    (hids : ∀ calls ∈ sessions, ∀ call ∈ calls, ∀ id ∈ call.ids, id ∈ ids) :
    directory.answersInSessions sessions = StoreCall.answers store sessions.flatten := by
  induction sessions generalizing directory store with
  | nil => rfl
  | cons calls sessions ih =>
    obtain ⟨hcall, hcalls⟩ := List.forall_mem_cons.mp hcalls
    obtain ⟨hid, hids⟩ := List.forall_mem_cons.mp hids
    obtain ⟨hanswers, hexact⟩ := h.answers hapart hexact hcall hid
    rw [Directory.answersInSessions, h.opened, hanswers,
      ih (h.after hapart hid) hexact hcalls hids, List.flatten_cons, StoreCall.answers_append]

/-- A store in a directory answers like a store in memory: from an empty directory, or one that is
not there yet, and from an empty store, the same calls get the same answers, refusals and their
defects included, wherever the directory is opened again in between. The modes that are saved must
be exact, and the identifiers in use must have different digests. -/
theorem Directory.answers_like_memory (removed : Bool) (sessions : List (List StoreCall))
    (hexact : ∀ mode, .save mode ∈ sessions.flatten → mode.checkStructure = .ok () → mode.Exact)
    (hapart : DigestsApart (sessions.flatten.flatMap StoreCall.ids)) :
    Directory.answersInSessions { removed } sessions =
      StoreCall.answers ({} : MemoryStore) sessions.flatten := by
  have hmade : Directory.answersInSessions { removed } sessions =
      Directory.answersInSessions {} sessions := by
    cases sessions <;> rfl
  rw [hmade]
  refine (Mirrors.empty _).answersInSessions hapart ?nothing ?calls ?ids
  case nothing =>
    intro mode hholds
    exact absurd hholds List.not_mem_nil
  case calls =>
    rintro calls hcalls call hcall mode rfl
    exact hexact mode (List.mem_flatten.mpr ⟨calls, hcalls, hcall⟩)
  case ids =>
    intro calls hcalls call hcall id hid
    exact List.mem_flatMap.mpr ⟨call, List.mem_flatten.mpr ⟨calls, hcalls, hcall⟩, hid⟩

/-- A mode is saved, another one is refused because its first leg is missing, and once the directory
is opened again the first is found and listed and the second is not. -/
theorem Directory.answers_in_two_sessions :
    ∃ sound unsound : ProcessingMode,
      sound.id.text = "A" ∧ unsound.id.text = "B" ∧
      Directory.answersInSessions {}
          [[.save sound, .save unsound], [.find sound.id, .find unsound.id, .list]] =
        [.saved (.ok ()), .saved (.error (.invalid (.missingLeg1 "B"))),
          .found (.ok (some sound)), .found (.ok none), .listed (.ok [sound.id])] := by
  let sound : ProcessingMode :=
    { id := ⟨"A", by decide⟩
      initiator := { idValue := "buyer", role := defaultInitiatorRole }
      responder := { idValue := "seller", role := defaultResponderRole }
      pattern := .oneWay
      binding := .push
      leg1 := some {} }
  let unsound : ProcessingMode := { sound with id := ⟨"B", by decide⟩, leg1 := none }
  refine ⟨sound, unsound, rfl, rfl, (answers_like_memory false _ ?exact ?apart).trans ?memory⟩
  case exact =>
    intro mode hmode hstructure
    have hcases : mode = sound ∨ mode = unsound := by simpa using hmode
    obtain rfl | rfl := hcases
    · exact ⟨by decide, nofun⟩
    · exact absurd hstructure (by decide)
  case apart =>
    unfold DigestsApart
    decide +kernel
  case memory => decide +kernel

end Ebms
