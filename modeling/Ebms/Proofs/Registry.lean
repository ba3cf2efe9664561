import Ebms.Proofs.Index
import Ebms.Proofs.Json.Verbatim
import Ebms.Registry

/-!
# A registry is the profiles that were registered in it

What a registry answers is told by the profiles that were registered in it, in their order. Under an
identifier is the last profile that was registered with it, and where there is none, what was there
from the start; a registration hands back what it displaces. The identifiers that are listed are
those under which something is found, in ascending order and once each. The registry of the built-in
profiles has each of them under its identifier, and nothing else.

A profile gets its identifier from a text: it is given one, or it is read from a document that says
one or leaves it out. In whatever case that text is written, and whatever white space is around it,
it stands for one identifier, so of profiles that are registered under several writings of a name
the last one stays.
-/

namespace Ebms

namespace ProfileId

/-- Identifiers of profiles are told by their texts. -/
theorem text_injective : Function.Injective ProfileId.text :=
  fun _ _ => text_inj.mp

/-- An identifier is read from a text that stands for it, and from nothing else. -/
theorem decode_eq_ok_iff (reading : Json.Reading) (id : ProfileId) :
    codec.decode reading = .ok id ↔
      ∃ text, reading = .scalar (.str text) ∧ ofText text = .ok id := by
  constructor
  · intro h
    obtain ⟨text, htext, h⟩ := Json.bind_eq_ok.mp h
    refine ⟨text, Json.Codec.text_eq_ok_iff.mp htext, ?_⟩
    split at h
    · rename_i hid
      cases h
      exact hid
    · cases h
  · rintro ⟨text, rfl, hid⟩
    refine Json.bind_eq_ok.mpr ⟨text, rfl, ?_⟩
    rw [hid]

end ProfileId

namespace Profile

/-- A text names a profile if the identifier of the profile comes from it. -/
inductive NamedBy : Profile → String → Prop where
  /-- The profile has some rules under the identifier that the text stands for. -/
  | given {text : String} {id : ProfileId} (rules : Profile)
      (hid : ProfileId.ofText text = .ok id) : NamedBy { rules with id } text
  /-- The profile is read from a document that says the text for its identifier. -/
  | said {document : Json.Document} {profile : Profile} {text : String}
      (hread : codec.decodeDocument document = .ok profile)
      (hsaid : document.root.member? "id" 0 = some (.scalar (.str text))) : NamedBy profile text
  /-- The profile is read from a document that leaves its identifier out. -/
  | leftOut {document : Json.Document} {profile : Profile}
      (hread : codec.decodeDocument document = .ok profile)
      (hleft : document.root.member? "id" 0 = none) : NamedBy profile ProfileId.generic.text

/-- A profile that is read has the identifier that is read from what the document says for it, or
the generic one if the document says nothing. -/
theorem holds_id {document : Json.Document} {profile : Profile}
    (hread : codec.decodeDocument document = .ok profile) :
    (Json.Field.defaulted "id" ProfileId.codec generic.id).Holds profile.id
      (document.root.member? "id" 0) := by
  have hroot := (Json.Codec.decodeDocument_eq_ok_iff.mp hread).1
  obtain ⟨values, hvalues, rfl⟩ := Json.map_eq_ok.mp hroot
  exact Json.Record.Has.first.holds hvalues

/-- A text that names a profile stands for its identifier. -/
theorem NamedBy.ofText_eq {profile : Profile} {text : String} (h : profile.NamedBy text) :
    ProfileId.ofText text = .ok profile.id := by
  cases h with
  | given rules hid => exact hid
  | said hread hsaid =>
    have hholds := holds_id hread
    rw [hsaid] at hholds
    obtain ⟨found, hfound, hid⟩ := (ProfileId.decode_eq_ok_iff _ _).mp hholds
    cases hfound
    exact hid
  | leftOut hread hleft =>
    have hholds := holds_id hread
    rw [hleft] at hholds
    have hid : generic.id = profile.id := Option.some.inj hholds
    rw [← hid]
    exact generic.id.ofText_text

/-- Every profile is named by the text of its identifier. -/
theorem namedBy_self (profile : Profile) : profile.NamedBy profile.id.text :=
  .given profile profile.id.ofText_text

/-- The last of some profiles with an identifier. -/
def last? (profiles : List Profile) (id : ProfileId) : Option Profile :=
  (profiles.filter fun profile => profile.id = id).getLast?

/-- The built-in profile of an identifier is the one that has it. -/
theorem last?_builtins (id : ProfileId) : last? builtins id = builtin? id := by
  have htexts : last? builtins id =
      (builtins.filter fun profile => profile.id.text = id.text).getLast? := by
    simp only [ProfileId.text_inj]
    rfl
  rw [htexts, builtin?]
  -- An identifier is one of the four words, where both sides are computed, or none of them.
  split
  case h_5 hpeppol hbdew hcef hgeneric =>
    rw [List.getLast?_eq_none_iff, List.filter_eq_nil_iff]
    simp only [builtins, List.forall_mem_cons, decide_eq_true_eq]
    exact ⟨Ne.symm hpeppol, Ne.symm hbdew, Ne.symm hcef, Ne.symm hgeneric, List.forall_mem_nil _⟩
  all_goals
    rename_i htext
    rw [htext]
    decide

end Profile

/-- A profile together with a text that names it. -/
structure NamedProfile where
  name : String
  profile : Profile
  named : profile.NamedBy name

/-- Among named profiles, the last one with an identifier is the last one whose name stands for
it. -/
theorem NamedProfile.last?_map (profiles : List NamedProfile) (id : ProfileId) :
    Profile.last? (profiles.map NamedProfile.profile) id =
      (profiles.filter fun named => ProfileId.ofText named.name = .ok id).getLast?.map
        NamedProfile.profile := by
  have hname (named : NamedProfile) :
      ProfileId.ofText named.name = .ok id ↔ named.profile.id = id := by
    rw [named.named.ofText_eq, Except.ok.injEq]
  rw [Profile.last?, List.filter_map, List.getLast?_map]
  simp only [hname]
  rfl

namespace Registry

variable {registry : Registry}

/-- The registry after some profiles are registered, one after the other. -/
def afterRegistering (registry : Registry) (profiles : List Profile) : Registry :=
  profiles.foldl (fun registry profile => (registry.register profile).2) registry

/-- What some registrations hand back, one after the other. -/
def answers (registry : Registry) : List Profile → List (Option Profile)
  | [] => []
  | profile :: profiles =>
      (registry.register profile).1 :: answers (registry.register profile).2 profiles

/-- Registering some profiles puts them under their identifiers, one after the other. -/
theorem profiles_afterRegistering (registry : Registry) (profiles : List Profile) :
    (registry.afterRegistering profiles).profiles =
      registry.profiles.putAll (fun profile => profile.id.text) profiles := by
  induction profiles generalizing registry with
  | nil => rfl
  | cons profile profiles ih => exact ih _

/-- What is found after some profiles are registered is the last one with the identifier, or else
what was found before. -/
theorem get?_afterRegistering (registry : Registry) (profiles : List Profile) (id : ProfileId) :
    (registry.afterRegistering profiles).get? id =
      (Profile.last? profiles id).or (registry.get? id) := by
  rw [get?, profiles_afterRegistering, Index.find?_putAll]
  simp only [ProfileId.text_inj]
  rfl

/-- Registering a profile changes nothing under other identifiers. -/
theorem get?_register_of_ne (registry : Registry) {profile : Profile} {id : ProfileId}
    (hne : id ≠ profile.id) : (registry.register profile).2.get? id = registry.get? id :=
  Index.find?_put_ne _ (fun htext => hne (ProfileId.text_inj.mp htext)) profile

/-- Each registration hands back what was found under the identifier of its profile just before. -/
theorem getElem?_answers (registry : Registry) (profiles : List Profile) (n : Nat) :
    (registry.answers profiles)[n]? =
      profiles[n]?.map fun profile =>
        (registry.afterRegistering (profiles.take n)).get? profile.id := by
  induction profiles generalizing registry n with
  | nil => rfl
  | cons profile profiles ih =>
    cases n with
    | zero => rfl
    | succ n => exact ih _ n

/-- Every profile of a registry is under its own identifier. -/
def Keyed (registry : Registry) : Prop :=
  registry.profiles.Keyed fun profile => profile.id.text

/-- Registering some profiles keeps every profile under its own identifier. -/
theorem Keyed.afterRegistering (h : registry.Keyed) (profiles : List Profile) :
    (registry.afterRegistering profiles).Keyed := by
  rw [Keyed, profiles_afterRegistering]
  exact h.putAll profiles

/-- The identifiers are listed in strictly ascending order. -/
theorem Keyed.pairwise_ids (h : registry.Keyed) :
    registry.ids.Pairwise fun id other => id.text < other.text := by
  rw [ids, List.pairwise_map]
  exact h.pairwise_values

/-- An identifier is listed exactly if something is found under it. -/
theorem Keyed.mem_ids_iff (h : registry.Keyed) (id : ProfileId) :
    id ∈ registry.ids ↔ (registry.get? id).isSome := by
  rw [ids, List.mem_map, Option.isSome_iff_exists, get?]
  simp only [h.find?_eq_some_iff, ProfileId.text_inj]

/-- However the identifiers of a registry are enumerated, they are listed as they are sorted: the
listing does not show in which order a registry keeps its profiles. -/
theorem Keyed.ids_eq_sorted (h : registry.Keyed) {ids : List ProfileId} (hnodup : ids.Nodup)
    (hids : ∀ id, id ∈ ids ↔ (registry.get? id).isSome) :
    registry.ids = sortedBy ProfileId.text ids := by
  refine eq_sortedBy ProfileId.text_injective h.pairwise_ids hnodup ?_
  intro id
  rw [hids, h.mem_ids_iff]

/-- The registry of the built-in profiles is one in which these were registered. -/
theorem builtin_eq : builtin = afterRegistering {} Profile.builtins :=
  rfl

/-- In the registry of the built-in profiles each of them is found under its identifier, and nothing
else. -/
theorem get?_builtin (id : ProfileId) : builtin.get? id = Profile.builtin? id := by
  have hnothing : get? {} id = none := rfl
  rw [builtin_eq, get?_afterRegistering, hnothing, Option.or_none, Profile.last?_builtins]

/-- The built-in profiles are under their own identifiers. -/
theorem keyed_builtin : builtin.Keyed :=
  have hempty : Keyed {} := Index.keyed_empty _
  hempty.afterRegistering Profile.builtins

/-- The registry of the built-in profiles answers by the profiles that are registered in it. Each of
these comes with a name that its identifier is made from, and every profile has one; a name stands
for what is left of it when it is trimmed and folded. Under an identifier is the last profile whose
name stands for it, or else the built-in profile of that identifier. Each registration hands back
what was found under the identifier of its profile just before, and changes nothing under other
identifiers. The identifiers under which something is found are listed in strictly ascending
order. -/
theorem last_registered_answers (profiles : List NamedProfile) :
    let registry := builtin.afterRegistering (profiles.map NamedProfile.profile)
    (∀ profile : Profile, profile.NamedBy profile.id.text) ∧
    (∀ name id, ProfileId.ofText name = .ok id ↔ id.text = Text.lower (Text.trim name)) ∧
    (∀ id, registry.get? id =
      ((profiles.filter fun named => ProfileId.ofText named.name = .ok id).getLast?.map
        NamedProfile.profile).or (Profile.builtin? id)) ∧
    (∀ id, builtin.get? id = Profile.builtin? id) ∧
    (∀ n, (builtin.answers (profiles.map NamedProfile.profile))[n]? =
      profiles[n]?.map fun named =>
        (builtin.afterRegistering ((profiles.take n).map NamedProfile.profile)).get?
          named.profile.id) ∧
    (∀ profile id, id ≠ profile.id → (registry.register profile).2.get? id = registry.get? id) ∧
    registry.ids.Pairwise (fun id other => id.text < other.text) ∧
    ∀ id, id ∈ registry.ids ↔ (registry.get? id).isSome := by
  intro registry
  have hkeyed : registry.Keyed := keyed_builtin.afterRegistering _
  refine ⟨Profile.namedBy_self, ProfileId.ofText_eq_ok_iff, ?found, get?_builtin, ?answers,
    ?others, hkeyed.pairwise_ids, hkeyed.mem_ids_iff⟩
  case found =>
    intro id
    rw [get?_afterRegistering, NamedProfile.last?_map, get?_builtin]
  case answers =>
    intro n
    rw [getElem?_answers, List.getElem?_map, Option.map_map, List.map_take]
    rfl
  case others =>
    intro profile id hne
    exact registry.get?_register_of_ne hne

/-- A profile that is read under another writing of a built-in name displaces the built-in one. -/
example :
    let profile : Profile := { id := .peppol, displayName := "ours" }
    Profile.codec.ofText "[\" PepPol\\u00a0\",\"ours\"]" = .ok profile ∧
      builtin.answers [profile] = [some .peppol] ∧
      (builtin.afterRegistering [profile]).ids = [.bdew, .cef, .generic, .peppol] := by
  decide +kernel

end Registry

end Ebms
