import Ebms.Proofs.Conformance.Mode

/-!
# What address an accepted mode carries

Where a profile requires an address, a leg without one is refused. An address that is given is only
looked at for its scheme, and a blank one has none. It is found like any other address without a
scheme, and a finding on a scheme refuses where schemes are fatal and advises everywhere else.

Of the profiles that require an address, those whose schemes are fatal therefore make sure that the
legs of accepted modes carry one that is not blank. Under every other one that accepts a mode at
all, the same mode with empty addresses is accepted as well, with advice on each of them.
-/

namespace Ebms

/-- A leg has a protocol block with an address that is not blank. -/
def Leg.CarriesAddress (leg : Leg) : Prop :=
  ∃ protocol ∈ leg.protocol, ∃ address ∈ protocol.address, Text.isBlank address = false

/-- A leg whose protocol block has an empty address. -/
def Leg.withEmptyAddress (leg : Leg) : Leg :=
  { leg with protocol := leg.protocol.map fun protocol => { protocol with address := some "" } }

/-- With an empty address, a leg carries none. -/
theorem Leg.not_carriesAddress_withEmptyAddress (leg : Leg) :
    ¬leg.withEmptyAddress.CarriesAddress := by
  rintro ⟨protocol, hprotocol, address, haddress, hblank⟩
  obtain ⟨given, -, rfl⟩ := Option.map_eq_some_iff.mp hprotocol
  cases haddress
  exact absurd hblank (by decide)

/-- A blank address has no scheme. -/
theorem Protocol.scheme?_of_blank {protocol : Protocol} {address : String}
    (haddress : protocol.address = some address) (hblank : Text.isBlank address = true) :
    protocol.scheme? = none := by
  refine Option.eq_none_iff_forall_ne_some.mpr fun scheme hscheme => ?_
  obtain ⟨given, hgiven, hhas⟩ := (protocol.scheme?_eq_some_iff scheme).mp hscheme
  rw [haddress] at hgiven
  cases hgiven
  exact Bool.false_ne_true (hhas.isBlank_eq_false.symm.trans hblank)

namespace Profile

/-- Advice on an address in which no scheme is found. -/
def noSchemeAdvice (number : Nat) (address : String) : Finding :=
  .warning (legField number "protocol.address")
    (legLabel number ++ " address has no recognisable AddressProtocol: " ++ address)

variable {profile : Profile}

/-- Where an address is required, a leg that conforms has one, and if schemes are fatal it is not
blank. -/
theorem LegConforms.address {leg : Leg} (h : profile.LegConforms leg)
    (hrequired : profile.requireAddress = true) :
    ∃ protocol ∈ leg.protocol, ∃ address ∈ protocol.address,
      profile.schemeIsFatal = true → Text.isBlank address = false := by
  obtain ⟨protocol, hprotocol, hconforms⟩ := h.protocol
  have hgiven : protocol.address ≠ none := by
    intro hnone
    have hnot := hconforms.addressGiven hnone
    rw [hrequired] at hnot
    cases hnot
  obtain ⟨address, haddress⟩ := Option.ne_none_iff_exists'.mp hgiven
  refine ⟨protocol, hprotocol, address, haddress, fun hfatal => ?_⟩
  obtain hadvisory | ⟨scheme, hscheme, -⟩ := hconforms.addressStandard address haddress
  · rw [hfatal] at hadvisory
    cases hadvisory
  · exact hscheme.isBlank_eq_false

/-- Where schemes are not fatal, a leg conforms with an empty address. -/
theorem LegConforms.withEmptyAddress {leg : Leg} (h : profile.LegConforms leg)
    (hadvisory : profile.schemeIsFatal = false) :
    profile.LegConforms leg.withEmptyAddress where
  protocol := by
    obtain ⟨protocol, hprotocol, hconforms⟩ := h.protocol
    refine ⟨{ protocol with address := some "" }, ?_, ?_⟩
    · exact Option.map_eq_some_iff.mpr ⟨protocol, hprotocol, rfl⟩
    · exact ⟨nofun, fun _ _ => .inl hadvisory, hconforms.soapVersion⟩
  service := h.service
  securityGiven := h.securityGiven
  security := h.security
  errorHandlingGiven := h.errorHandlingGiven
  errorHandling := h.errorHandling

/-- Where schemes are not fatal, a blank address is advised about. -/
theorem noSchemeAdvice_mem_check {mode : ProcessingMode} {number : Nat} {leg : Leg}
    {protocol : Protocol} {address : String} (hleg : (number, leg) ∈ mode.legs)
    (hprotocol : leg.protocol = some protocol) (haddress : protocol.address = some address)
    (hblank : Text.isBlank address = true) (hadvisory : profile.schemeIsFatal = false) :
    noSchemeAdvice number address ∈ profile.check (.mode mode) := by
  have haddressed : profile.checkAddress number protocol = [noSchemeAdvice number address] := by
    simp [checkAddress, haddress, Protocol.scheme?_of_blank haddress hblank, schemeFinding,
      hadvisory, noSchemeAdvice]
  have hfound : noSchemeAdvice number address ∈ profile.checkLeg number leg := by
    simp [checkLeg_eq, checkProtocol, hprotocol, haddressed]
  have hlegs : noSchemeAdvice number address ∈ profile.checkLegs mode :=
    List.mem_flatMap.mpr ⟨(number, leg), hleg, hfound⟩
  rw [check_mode, checkMode_eq]
  simp [hlegs]

/-- Where schemes are not fatal, an accepted mode is accepted with empty addresses as well. -/
theorem Accepts.withEmptyAddresses {mode : ProcessingMode} (haccepts : profile.Accepts mode)
    (hadvisory : profile.schemeIsFatal = false) :
    profile.Accepts (mode.mapLegs Leg.withEmptyAddress) :=
  (profile.accepts_iff_conforms _).mpr <|
    ((profile.accepts_iff_conforms mode).mp haccepts).mapLegs fun _ hleg =>
      hleg.withEmptyAddress hadvisory

/-- These profiles, and no others, see to it that if an address is required, every leg of every
accepted mode carries one that is not blank: those that require none, those whose schemes are fatal,
and those that accept no mode at all. Under any profile that requires an address, every leg of an
accepted mode has a protocol block with some address, and if that is blank, it is advised about. -/
theorem addresses_carried_iff (profile : Profile) :
    ((profile.requireAddress = true → ∀ mode, profile.Accepts mode →
        ∀ number leg, (number, leg) ∈ mode.legs → leg.CarriesAddress) ↔
      profile.requireAddress = false ∨ profile.schemeIsFatal = true ∨
        ∀ mode, ¬profile.Accepts mode) ∧
    (profile.requireAddress = true → ∀ mode, profile.Accepts mode →
      ∀ number leg, (number, leg) ∈ mode.legs →
        ∃ protocol ∈ leg.protocol, ∃ address ∈ protocol.address, Text.isBlank address = true →
          noSchemeAdvice number address ∈ profile.check (.mode mode)) := by
  refine ⟨⟨?necessary, ?sufficient⟩, ?advised⟩
  case necessary =>
    intro hcarried
    cases hrequired : profile.requireAddress with
    | false => exact .inl rfl
    | true =>
      cases hfatal : profile.schemeIsFatal with
      | true => exact .inr (.inl rfl)
      | false =>
        refine .inr (.inr fun mode haccepts => ?_)
        -- the same mode with empty addresses is accepted, and has a first leg
        have hemptied := haccepts.withEmptyAddresses hfatal
        obtain ⟨leg, hleg⟩ := Option.ne_none_iff_exists'.mp
          ((profile.accepts_iff_conforms mode).mp haccepts).leg1
        have hfirst : (1, leg.withEmptyAddress) ∈ (mode.mapLegs Leg.withEmptyAddress).legs := by
          rw [ProcessingMode.mem_legs_iff, ProcessingMode.mapLegs, hleg, Option.map_some]
          exact .inl ⟨rfl, rfl⟩
        exact leg.not_carriesAddress_withEmptyAddress (hcarried hrequired _ hemptied 1 _ hfirst)
  case sufficient =>
    intro h hrequired mode haccepts number leg hleg
    obtain ⟨protocol, hprotocol, address, haddress, hblank⟩ :=
      (haccepts.legConforms hleg).address hrequired
    obtain hnot | hfatal | hrefuses := h
    · rw [hrequired] at hnot
      cases hnot
    · exact ⟨protocol, hprotocol, address, haddress, hblank hfatal⟩
    · exact absurd haccepts (hrefuses mode)
  case advised =>
    intro hrequired mode haccepts number leg hleg
    obtain ⟨protocol, hprotocol, address, haddress, hfatal⟩ :=
      (haccepts.legConforms hleg).address hrequired
    refine ⟨protocol, hprotocol, address, haddress, fun hblank => ?_⟩
    have hadvisory : profile.schemeIsFatal = false := by
      refine Bool.eq_false_iff.mpr fun h => ?_
      rw [hfatal h] at hblank
      cases hblank
    exact noSchemeAdvice_mem_check hleg hprotocol haddress hblank hadvisory

/-- A profile that requires an address and has all else as the generic one accepts a mode whose only
leg has an empty address, with a single piece of advice. -/
theorem accepts_empty_address :
    ∃ (profile : Profile) (mode : ProcessingMode) (leg : Leg),
      profile = { requireAddress := true } ∧ mode.legs = [(1, leg)] ∧
      leg.protocol.bind Protocol.address = some "" ∧
      profile.check (.mode mode) = [noSchemeAdvice 1 ""] ∧ profile.Accepts mode ∧
      ¬leg.CarriesAddress := by
  let leg : Leg := { protocol := some ⟨some "", default⟩ }
  let mode : ProcessingMode :=
    { id := ⟨"A-B", by decide⟩
      initiator := { idValue := "A", role := "r" }
      responder := { idValue := "B", role := "r" }
      pattern := .oneWay
      binding := .push
      leg1 := some leg }
  have hchecked : ({ requireAddress := true } : Profile).check (.mode mode) =
      [noSchemeAdvice 1 ""] := by
    decide +kernel
  refine ⟨_, mode, leg, rfl, rfl, rfl, hchecked, ?_, leg.not_carriesAddress_withEmptyAddress⟩
  exact congrArg Findings.hasErrors hchecked

end Profile

end Ebms
