import Ebms.Proofs.Naming
import Ebms.Proofs.Offer
import Ebms.Proofs.Registration
import Ebms.Proofs.Store.History
import Mathlib.Data.List.Dedup

/-!
# One mode for each pair of parties

A registrar is asked again and again to make modes under derived names and to keep them. A wish that
is granted saves its mode and a wish that is refused saves nothing, so the store is what the granted
modes left, saved one after the other.

The name of a granted mode is derived from the two texts of its wish without the white space around
them, and from nothing else. So two granted wishes are about the same mode exactly if they have the
same pair of texts, the store holds one mode for each pair, and that is the mode that was granted
last.
-/

namespace Ebms

namespace CreationRequest

/-- The call for the mode of a wish, under a derived name and to be kept. -/
def keptCall (request : CreationRequest) : RegistrarCall :=
  .create { request with persist := true } .derived

/-- The parties of a wish, without the white space around their texts. -/
def pair (request : CreationRequest) : String × String :=
  (Text.trim request.initiator, Text.trim request.responder)

end CreationRequest

/-- The name that is derived for a pair of parties. -/
def Naming.ofPair (pair : String × String) : ModeId :=
  derived { idValue := pair.1, role := defaultInitiatorRole }
    { idValue := pair.2, role := defaultResponderRole }

/-- Different pairs have different names. -/
theorem Naming.ofPair_inj {pair other : String × String} :
    ofPair pair = ofPair other ↔ pair = other := by
  rw [ofPair, ofPair, derived, derived, ModeId.mk.injEq, derivedText_eq_iff, Prod.ext_iff]
  rfl

/-- A wish that was granted, and what was let in for it. -/
structure Grant where
  request : CreationRequest
  registration : Registration
  deriving DecidableEq

namespace Grant

/-- The mode that was let in. -/
def mode (grant : Grant) : ProcessingMode :=
  grant.registration.mode

/-- The pair of parties that the mode is for. -/
def pair (grant : Grant) : String × String :=
  grant.request.pair

end Grant

namespace Profile

/-- The wishes that are granted among some at some times, in order, all answered by one profile. -/
def grants (profile : Profile) (store : MemoryStore) :
    List (Timestamp × CreationRequest) → List Grant
  | [] => []
  | (now, request) :: requests =>
      let outcome := Registrar.answer ⟨profile, now⟩ store request.keptCall
      let later := profile.grants outcome.state requests
      match outcome.result with
      | .ok registration => ⟨request, registration⟩ :: later
      | .error _ => later

/-- The store after wishes at some times, all answered by one profile, that was empty before. -/
def storeAfterWishes (profile : Profile) (requests : List (Timestamp × CreationRequest)) :
    MemoryStore :=
  profile.storeAfter (requests.map fun (now, request) => (now, request.keptCall))

end Profile

/-- A wish is granted with a mode that is named after its pair and sound in structure, and that mode
is saved, or it is refused and nothing is saved. -/
theorem Registrar.answer_keptCall (registrar : Registrar) (store : MemoryStore)
    (request : CreationRequest) :
    (∃ registration, (registrar.answer store request.keptCall).result = .ok registration ∧
      registration.mode.id = Naming.ofPair request.pair ∧
      registration.mode.checkStructure = .ok () ∧
      (registrar.answer store request.keptCall).state = (store.save registration.mode).state) ∨
    ∃ error, (registrar.answer store request.keptCall).result = .error error ∧
      (registrar.answer store request.keptCall).state = store := by
  have hanswered := registrar.answer_answered store request.keptCall
  generalize registrar.answer store request.keptCall = outcome at hanswered
  cases hanswered with
  | notMade | unsound | refused => exact .inr ⟨_, rfl, rfl⟩
  | passed _ _ _ hkeep => cases hkeep
  | kept hmode hsound =>
    obtain ⟨rfl, -⟩ := Profile.propose_eq_ok hmode
    exact .inl ⟨_, rfl, rfl, hsound, by rw [store.save_of_sound hsound]⟩

namespace Profile

variable (profile : Profile)

/-- After some wishes a store is what the granted modes left, saved one after the other. -/
theorem afterCalls_keptCalls (store : MemoryStore) (requests : List (Timestamp × CreationRequest)) :
    profile.afterCalls store (requests.map fun (now, request) => (now, request.keptCall)) =
      afterSaving store ((profile.grants store requests).map Grant.mode) := by
  induction requests generalizing store with
  | nil => rfl
  | cons timed requests ih =>
    obtain ⟨now, request⟩ := timed
    rw [List.map_cons, afterCalls, ih, grants]
    obtain ⟨registration, hresult, -, -, hstate⟩ | ⟨error, hresult, hstate⟩ :=
      Registrar.answer_keptCall ⟨profile, now⟩ store request
    · simp only [hresult, hstate]
      rfl
    · simp only [hresult, hstate]

/-- Every granted mode is named after the pair of its wish and is sound in structure. -/
theorem of_mem_grants {store : MemoryStore} {requests : List (Timestamp × CreationRequest)}
    {grant : Grant} (h : grant ∈ profile.grants store requests) :
    grant.mode.id = Naming.ofPair grant.pair ∧ grant.mode.checkStructure = .ok () := by
  induction requests generalizing store with
  | nil => cases h
  | cons timed requests ih =>
    obtain ⟨now, request⟩ := timed
    rw [grants] at h
    obtain ⟨registration, hresult, hid, hsound, -⟩ | ⟨error, hresult, -⟩ :=
      Registrar.answer_keptCall ⟨profile, now⟩ store request
    · simp only [hresult] at h
      obtain rfl | h := List.mem_cons.mp h
      · exact ⟨hid, hsound⟩
      · exact ih h
    · simp only [hresult] at h
      exact ih h

/-- Granted modes have the same name exactly if they are for the same pair. -/
theorem id_eq_iff_of_mem_grants {store : MemoryStore}
    {requests : List (Timestamp × CreationRequest)} {first second : Grant}
    (hfirst : first ∈ profile.grants store requests)
    (hsecond : second ∈ profile.grants store requests) :
    first.mode.id = second.mode.id ↔ first.pair = second.pair := by
  rw [(profile.of_mem_grants hfirst).1, (profile.of_mem_grants hsecond).1, Naming.ofPair_inj]

/-- The last sound mode with the name of a granted one is the mode of the last grant for its
pair. -/
theorem lastSound_grants {store : MemoryStore} {requests : List (Timestamp × CreationRequest)}
    {grant : Grant} (h : grant ∈ profile.grants store requests) :
    lastSound ((profile.grants store requests).map Grant.mode) grant.mode.id =
      ((profile.grants store requests).filter fun other =>
        other.pair = grant.pair).getLast?.map Grant.mode := by
  rw [lastSound, List.filter_map, List.getLast?_map]
  refine congrArg (fun grants : List Grant => grants.getLast?.map Grant.mode) ?_
  apply List.filter_congr
  intro other hother
  have hsound := (profile.of_mem_grants hother).2
  have hpair := profile.id_eq_iff_of_mem_grants hother h
  simp only [Function.comp_apply, hsound, true_and, hpair]

/-- A profile keeps one mode for each pair of parties. Whatever is wished for over a store that was
empty, two granted wishes are about the same mode exactly if their initiators and their responders
have the same texts, white space around them aside; the store lists one name for each of these
pairs and no other; and it holds for each pair the mode that was granted last. -/
theorem one_mode_for_each_pair (requests : List (Timestamp × CreationRequest)) :
    let grants := profile.grants {} requests
    let store := profile.storeAfterWishes requests
    (∀ first ∈ grants, ∀ second ∈ grants,
      first.mode.id = second.mode.id ↔ first.pair = second.pair) ∧
    store.list.length = (grants.map Grant.pair).dedup.length ∧
    (∀ id, id ∈ store.list ↔ ∃ grant ∈ grants, grant.mode.id = id) ∧
    ∀ grant ∈ grants, ∃ last,
      (grants.filter fun other => other.pair = grant.pair).getLast? = some last ∧
        store.find grant.mode.id = some last.mode := by
  intro grants store
  have hstore : store = afterSaving {} (grants.map Grant.mode) :=
    profile.afterCalls_keptCalls {} requests
  have hlisted (id : ModeId) : (∃ mode ∈ grants.map Grant.mode,
      mode.checkStructure = .ok () ∧ mode.id = id) ↔ ∃ grant ∈ grants, grant.mode.id = id := by
    constructor
    · rintro ⟨mode, hmode, -, hid⟩
      obtain ⟨grant, hgrant, rfl⟩ := List.mem_map.mp hmode
      exact ⟨grant, hgrant, hid⟩
    · rintro ⟨grant, hgrant, hid⟩
      exact ⟨grant.mode, List.mem_map_of_mem hgrant, (profile.of_mem_grants hgrant).2, hid⟩
  refine ⟨fun _ hfirst _ hsecond => profile.id_eq_iff_of_mem_grants hfirst hsecond,
    ?length, ?names, ?last⟩
  case length =>
    have hnodup : ((grants.map Grant.pair).dedup.map Naming.ofPair).Nodup :=
      (List.nodup_dedup _).map fun _ _ => Naming.ofPair_inj.mp
    have hids (id : ModeId) : id ∈ (grants.map Grant.pair).dedup.map Naming.ofPair ↔
        ∃ mode ∈ grants.map Grant.mode, mode.checkStructure = .ok () ∧ mode.id = id := by
      rw [hlisted]
      simp only [List.mem_map, List.mem_dedup]
      constructor
      · rintro ⟨_, ⟨grant, hgrant, rfl⟩, rfl⟩
        exact ⟨grant, hgrant, (profile.of_mem_grants hgrant).1⟩
      · rintro ⟨grant, hgrant, rfl⟩
        exact ⟨_, ⟨grant, hgrant, rfl⟩, (profile.of_mem_grants hgrant).1.symm⟩
    rw [hstore, MemoryStore.list_eq_sorted hnodup hids, (sortedBy_perm _).length_eq,
      List.length_map]
  case names =>
    intro id
    rw [hstore, MemoryStore.mem_list_afterSaving, hlisted]
  case last =>
    intro grant hgrant
    have hmem : grant ∈ grants.filter fun other => other.pair = grant.pair :=
      List.mem_filter.mpr ⟨hgrant, decide_eq_true rfl⟩
    obtain ⟨last, hlast⟩ := Option.ne_none_iff_exists'.mp
      (List.getLast?_eq_none_iff.not.mpr (List.ne_nil_of_mem hmem))
    refine ⟨last, hlast, ?_⟩
    rw [hstore, MemoryStore.find_afterSaving, profile.lastSound_grants hgrant, hlast]
    rfl

/-- Of three wishes, the second is for the pair of the first with other white space around, and the
third for the two parties the other way round. The store then has two names, and the mode of the
second wish under the name of the first. -/
theorem three_wishes_for_two_pairs :
    ∃ (requests : List (Timestamp × CreationRequest)) (first second third : Grant),
      generic.grants {} requests = [first, second, third] ∧
      first.mode.pattern = .oneWay ∧ second.mode.pattern = .twoWay ∧
      first.mode.id = second.mode.id ∧ first.mode.id ≠ third.mode.id ∧
      (generic.storeAfterWishes requests).list.length = 2 ∧
      (generic.storeAfterWishes requests).find first.mode.id = some second.mode := by
  let now : Timestamp :=
    { date := ⟨2024, 5, 6, by decide⟩, hour := 7, minute := 8, second := 9, nanosecond := 0 }
  let requests : List (Timestamp × CreationRequest) :=
    [(now, { initiator := "buyer ", responder := "seller", address := "https://b.example" }),
      (now, { initiator := "buyer", responder := " seller", address := "https://c.example",
              pattern := .twoWay }),
      (now, { initiator := "seller", responder := "buyer", address := "https://a.example" })]
  have hpairs : (generic.grants {} requests).map Grant.pair =
      [("buyer", "seller"), ("buyer", "seller"), ("seller", "buyer")] := by
    decide +kernel
  have hpatterns : (generic.grants {} requests).map (fun grant => grant.mode.pattern) =
      [.oneWay, .twoWay, .oneWay] := by
    decide +kernel
  obtain ⟨hnames, hlength, -, hlast⟩ := generic.one_mode_for_each_pair requests
  obtain ⟨first, second, third, hgrants⟩ :=
    List.length_eq_three.mp (by simpa using congrArg List.length hpairs)
  rw [hgrants] at hpairs hpatterns hnames hlength hlast
  simp only [List.map_cons, List.map_nil, List.cons.injEq, and_true] at hpairs hpatterns
  obtain ⟨hfirst, hsecond, hthird⟩ := hpairs
  refine ⟨requests, first, second, third, hgrants, hpatterns.1, hpatterns.2.1, ?same, ?other,
    ?length, ?held⟩
  case same => exact (hnames first (by simp) second (by simp)).mpr (hfirst.trans hsecond.symm)
  case other =>
    intro hid
    have hpair := (hnames first (by simp) third (by simp)).mp hid
    rw [hfirst, hthird] at hpair
    exact absurd hpair (by decide)
  case length =>
    rw [hlength]
    simp [hfirst, hsecond, hthird]
  case held =>
    obtain ⟨last, hlastGrant, hfound⟩ := hlast first (by simp)
    have hsame : second = last := by simpa [hfirst, hsecond, hthird] using hlastGrant
    rw [hfound, hsame]

end Profile

end Ebms
