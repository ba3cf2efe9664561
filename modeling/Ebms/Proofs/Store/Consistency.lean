import Ebms.Naming
import Ebms.Proofs.Store.History

/-!
# When a directory agrees with itself

A directory that is only written by saving modes should list every identifier once, find a mode
under every identifier that it lists, and find nothing under an identifier but a mode with that
identifier. The name of a document is taken from the identifier of the mode that is saved, but what
is listed is taken from the document, where white space around the identifier is gone. So the
directory agrees with itself exactly if no mode with such white space is saved.

Identifiers that are made from a text or read from a document never have it. One that is derived
from a party that was read from a document can.
-/

namespace Ebms

/-- A directory agrees with itself, as far as identifiers in use are asked for: it lists every
identifier once and finds a mode under each, and a mode that is found has the identifier that was
asked for. -/
structure Directory.Consistent (directory : Directory) (ids : List ModeId) : Prop where
  lists : ∃ listed, directory.list = .ok listed ∧ listed.Nodup ∧
    ∀ id ∈ listed, ∃ mode, directory.find id = .ok (some mode)
  finds : ∀ id ∈ ids, ∀ mode, directory.find id = .ok (some mode) → mode.id = id

namespace MemoryStore

variable {store : MemoryStore} {modes : List ProcessingMode}

/-- After some modes are saved, a store holds some of them and what it held before. -/
theorem of_holds_afterSaving (hkeyed : store.Keyed) {held : ProcessingMode}
    (hheld : (afterSaving store modes).Holds held) : held ∈ modes ∨ store.Holds held := by
  have hfind := ((hkeyed.afterSaving modes).find_eq_some_iff held.id held).mpr ⟨hheld, rfl⟩
  rw [find_afterSaving, Option.or_eq_some_iff] at hfind
  obtain hlast | ⟨-, hbefore⟩ := hfind
  · exact .inl (mem_of_lastSound hlast)
  · exact .inr ((hkeyed.find_eq_some_iff held.id held).mp hbefore).1

/-- After some modes are saved, a store holds a mode with the identifier of each sound one. -/
theorem holds_afterSaving (hkeyed : store.Keyed) {mode : ProcessingMode} (hmode : mode ∈ modes)
    (hsound : mode.checkStructure = .ok ()) :
    ∃ held, (afterSaving store modes).Holds held ∧ held.id = mode.id := by
  have hlast := (lastSound_ne_none_iff modes mode.id).mpr ⟨mode, hmode, hsound, rfl⟩
  obtain ⟨held, hheld⟩ := Option.ne_none_iff_exists'.mp hlast
  refine ⟨held, ((hkeyed.afterSaving modes).find_eq_some_iff mode.id held).mp ?_⟩
  rw [find_afterSaving, hheld, Option.some_or]

end MemoryStore

namespace Mirrors

variable {ids : List ModeId} {directory : Directory} {store : MemoryStore}

/-- A directory that mirrors a store agrees with itself exactly if no identifier in the store has
white space around it. -/
theorem consistent_iff (h : Mirrors ids directory store) (hapart : DigestsApart ids) :
    directory.Consistent ids ↔ ∀ mode, store.Holds mode → mode.id.trimmed = mode.id := by
  constructor
  · intro hconsistent mode hholds
    have hfind := (h.keyed.find_eq_some_iff mode.id mode).mpr ⟨hholds, rfl⟩
    refine hconsistent.finds mode.id (h.used mode hholds) mode.settled ?_
    rw [h.find hapart (h.used mode hholds), hfind]
    rfl
  · intro htrimmed
    refine ⟨⟨store.list, h.list_of_trimmed hapart htrimmed, h.keyed.nodup_list, ?_⟩, ?_⟩
    · intro id hid
      obtain ⟨mode, hholds, rfl⟩ := (store.mem_list id).mp hid
      have hfind := (h.keyed.find_eq_some_iff mode.id mode).mpr ⟨hholds, rfl⟩
      rw [h.find hapart (h.used mode hholds), hfind]
      exact ⟨mode.settled, rfl⟩
    · intro id hid mode hmode
      rw [h.find hapart hid, Except.ok.injEq, Option.map_eq_some_iff] at hmode
      obtain ⟨held, hheld, rfl⟩ := hmode
      obtain ⟨hholds, rfl⟩ := (h.keyed.find_eq_some_iff id held).mp hheld
      exact htrimmed held hholds

end Mirrors

/-- After sound modes are saved in an empty directory, it agrees with itself exactly if none of
their identifiers has white space around it. The identifiers in use must have different digests. -/
theorem Directory.consistent_afterSaving_iff (modes : List ProcessingMode) (ids : List ModeId)
    (hsound : ∀ mode ∈ modes, mode.checkStructure = .ok ())
    (hids : ∀ mode ∈ modes, mode.id ∈ ids) (hapart : DigestsApart ids) :
    Directory.Consistent (afterSaving {} modes) ids ↔
      ∀ mode ∈ modes, Text.trim mode.id.text = mode.id.text := by
  have hmirrors : Mirrors ids (afterSaving {} modes) (afterSaving {} modes) := by
    refine (Mirrors.empty ids).after hapart ?_
    intro call hcall id hid
    obtain ⟨mode, hmode, rfl⟩ := List.mem_map.mp hcall
    exact List.mem_singleton.mp hid ▸ hids mode hmode
  have hempty := (Mirrors.empty ids).keyed
  rw [hmirrors.consistent_iff hapart]
  simp only [ModeId.trimmed_eq_self_iff]
  constructor
  · intro htrimmed mode hmode
    obtain ⟨held, hholds, hid⟩ := MemoryStore.holds_afterSaving hempty hmode (hsound mode hmode)
    exact hid ▸ htrimmed held hholds
  · intro htrimmed held hheld
    obtain hmode | hholds := MemoryStore.of_holds_afterSaving hempty hheld
    · exact htrimmed held hmode
    · exact absurd hholds List.not_mem_nil

/-- Two modes whose identifiers have no white space around them, one of them saved twice, leave a
directory that agrees with itself. -/
theorem Directory.consistent_afterSaving_twice :
    ∃ first second : ProcessingMode, first.id.text = "A" ∧ second.id.text = "B" ∧
      Directory.Consistent (afterSaving {} [first, second, first]) [first.id, second.id] := by
  let first : ProcessingMode :=
    { id := ⟨"A", by decide⟩
      initiator := { idValue := "buyer", role := defaultInitiatorRole }
      responder := { idValue := "seller", role := defaultResponderRole }
      pattern := .oneWay
      binding := .push
      leg1 := some {} }
  let second : ProcessingMode := { first with id := ⟨"B", by decide⟩ }
  have hmem : ∀ mode ∈ [first, second, first], mode = first ∨ mode = second := by simp
  refine ⟨first, second, rfl, rfl, (consistent_afterSaving_iff _ _ ?sound ?ids ?apart).mpr ?_⟩
  case sound =>
    intro mode hmode
    obtain rfl | rfl := hmem mode hmode <;> decide
  case ids =>
    intro mode hmode
    obtain rfl | rfl := hmem mode hmode <;> simp
  case apart =>
    unfold DigestsApart
    decide +kernel
  · intro mode hmode
    obtain rfl | rfl := hmem mode hmode <;> decide

/-- A directory does not always agree with itself. The identifier of a mode is derived from a party
that was read from a document with a blank in front of its identifier. Once the mode is saved, the
directory lists an identifier under which it finds nothing, and under the identifier of the mode it
finds a mode with another one. -/
theorem Directory.not_consistent_afterSaving :
    ∃ (mode : ProcessingMode) (listed : ModeId) (found : ProcessingMode),
      Party.codec.ofText "[null,\" A\",\"buyer\"]" = .ok mode.initiator ∧
      mode.id = Naming.derived mode.initiator mode.responder ∧
      mode.checkStructure = .ok () ∧
      (Directory.save {} mode).result = .ok () ∧
      (Directory.save {} mode).state.list = .ok [listed] ∧
      (Directory.save {} mode).state.find listed = .ok none ∧
      (Directory.save {} mode).state.find mode.id = .ok (some found) ∧
      mode.id.text = " A-B" ∧ listed.text = "A-B" ∧ found.id = listed := by
  let initiator : Party := { idValue := " A", role := "buyer" }
  let responder : Party := { idValue := "B", role := "seller" }
  let mode : ProcessingMode :=
    { id := Naming.derived initiator responder
      initiator
      responder
      pattern := .oneWay
      binding := .push
      leg1 := some {} }
  let listed : ModeId := mode.id.trimmed
  have hapart : DigestsApart [mode.id, listed] := by
    unfold DigestsApart
    decide +kernel
  have hid : mode.id ∈ [mode.id, listed] := List.mem_cons_self
  have hlisted : listed ∈ [mode.id, listed] := List.mem_cons_of_mem _ List.mem_cons_self
  obtain ⟨hsaved, hmirrors⟩ := (Mirrors.empty [mode.id, listed]).save hapart hid
  refine ⟨mode, listed, mode.settled, rfl, rfl, ?sound, ?saved, ?list, ?lost, ?other, ?_, ?_, rfl⟩
  case sound => decide
  case saved => exact hsaved.trans (by decide)
  case list => exact (hmirrors.list hapart).trans (by decide +kernel)
  case lost => exact (hmirrors.find hapart hlisted).trans (by decide +kernel)
  case other => exact (hmirrors.find hapart hid).trans (by decide +kernel)
  · decide +kernel
  · decide +kernel

end Ebms
