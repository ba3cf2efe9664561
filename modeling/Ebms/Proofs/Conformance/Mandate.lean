import Ebms.Proofs.Conformance.Mode

/-!
# What an accepted mode carries

A profile can mandate a signing certificate and the algorithms of signature, digest and encryption.
A security block that is there is checked for all of them. A security block that is missing is
refused only where the profile requires the block, which is a switch of its own, and then none of
the mandates is looked at.

So the legs of accepted modes carry what is mandated exactly under the profiles that require a
security block or mandate nothing. Under every other profile that accepts a mode at all, the same
mode without its security blocks is accepted as well.
-/

namespace Ebms

namespace Profile

/-- What a profile mandates for signature and encryption is there on a leg. -/
structure CarriesMandates (profile : Profile) (leg : Leg) : Prop where
  certificate : profile.requireSignatureCertificate = true →
    ∃ text ∈ leg.security.bind Security.signatureCertificate, Text.isBlank text = false
  signatureAlgorithm : ∀ algorithm ∈ profile.signatureAlgorithm,
    algorithm ∈ leg.security.bind Security.signatureAlgorithm
  signatureDigest : ∀ algorithm ∈ profile.signatureDigest,
    algorithm ∈ leg.security.bind Security.signatureDigest
  encryptionAlgorithm : ∀ algorithm ∈ profile.encryptionAlgorithm,
    algorithm ∈ leg.security.bind Security.encryptionAlgorithm

/-- A profile mandates nothing for signature and encryption. -/
structure MandatesNothing (profile : Profile) : Prop where
  certificate : profile.requireSignatureCertificate = false
  signatureAlgorithm : profile.signatureAlgorithm = none
  signatureDigest : profile.signatureDigest = none
  encryptionAlgorithm : profile.encryptionAlgorithm = none

/-- A leg with a security block that conforms carries what is mandated. -/
theorem SecurityConforms.carriesMandates {profile : Profile} {leg : Leg} {security : Security}
    (h : profile.SecurityConforms security) (hsecurity : leg.security = some security) :
    profile.CarriesMandates leg where
  certificate hrequired := by
    rw [hsecurity]
    exact h.certificate hrequired
  signatureAlgorithm algorithm hmandated := by
    rw [hsecurity]
    exact h.signatureAlgorithm algorithm hmandated
  signatureDigest algorithm hmandated := by
    rw [hsecurity]
    exact h.signatureDigest algorithm hmandated
  encryptionAlgorithm algorithm hmandated := by
    rw [hsecurity]
    exact h.encryptionAlgorithm algorithm hmandated

/-- A leg without a security block carries what is mandated only where nothing is. -/
theorem carriesMandates_iff_of_none {profile : Profile} {leg : Leg} (hnone : leg.security = none) :
    profile.CarriesMandates leg ↔ profile.MandatesNothing := by
  constructor
  · intro h
    refine ⟨?certificate, ?signature, ?digest, ?encryption⟩
    case certificate =>
      refine Bool.eq_false_iff.mpr fun hrequired => ?_
      obtain ⟨text, htext, -⟩ := h.certificate hrequired
      simp [hnone] at htext
    case signature =>
      refine Option.eq_none_iff_forall_not_mem.mpr fun algorithm hmandated => ?_
      simpa [hnone] using h.signatureAlgorithm algorithm hmandated
    case digest =>
      refine Option.eq_none_iff_forall_not_mem.mpr fun algorithm hmandated => ?_
      simpa [hnone] using h.signatureDigest algorithm hmandated
    case encryption =>
      refine Option.eq_none_iff_forall_not_mem.mpr fun algorithm hmandated => ?_
      simpa [hnone] using h.encryptionAlgorithm algorithm hmandated
  · intro h
    refine ⟨?_, ?_, ?_, ?_⟩
    · simp [h.certificate]
    · simp [h.signatureAlgorithm]
    · simp [h.signatureDigest]
    · simp [h.encryptionAlgorithm]

end Profile

/-- A leg without its security block. -/
def Leg.withoutSecurity (leg : Leg) : Leg :=
  { leg with security := none }

/-- A mode whose legs are without their security blocks. -/
def ProcessingMode.withoutSecurity (mode : ProcessingMode) : ProcessingMode :=
  { mode with
    leg1 := mode.leg1.map Leg.withoutSecurity
    leg2 := mode.leg2.map Leg.withoutSecurity }

namespace Profile

variable {profile : Profile}

/-- Where no security block is required, a leg conforms without it. -/
theorem LegConforms.withoutSecurity {leg : Leg} (h : profile.LegConforms leg)
    (hnot : profile.requireSecurity = false) : profile.LegConforms leg.withoutSecurity where
  protocol := h.protocol
  service := h.service
  securityGiven _ := hnot
  security security hsecurity := by
    simp [Leg.withoutSecurity] at hsecurity
  errorHandlingGiven := h.errorHandlingGiven
  errorHandling := h.errorHandling

/-- Where no security block is required, a mode conforms without them. -/
theorem Conforms.withoutSecurity {mode : ProcessingMode} (h : profile.Conforms mode)
    (hnot : profile.requireSecurity = false) : profile.Conforms mode.withoutSecurity :=
  h.mapLegs fun _ hleg => hleg.withoutSecurity hnot

/-- A leg of an accepted mode carries what is mandated exactly when it has a security block or
nothing is mandated. -/
theorem carriesMandates_iff {mode : ProcessingMode} (haccepts : profile.Accepts mode) {leg : Leg}
    (hleg : mode.leg1 = some leg ∨ mode.leg2 = some leg) :
    profile.CarriesMandates leg ↔ leg.security ≠ none ∨ profile.MandatesNothing := by
  have hconforms := ((profile.accepts_iff_conforms mode).mp haccepts).legs leg hleg
  cases hsecurity : leg.security with
  | none => simp [carriesMandates_iff_of_none hsecurity]
  | some security =>
    have hcarries := (hconforms.security security hsecurity).carriesMandates hsecurity
    exact iff_of_true hcarries (.inl (Option.some_ne_none security))

/-- Every leg of every accepted mode carries what a profile mandates for signature and encryption
exactly under these profiles: those that require a security block, those that mandate nothing, and
those that accept no mode at all. -/
theorem mandates_carried_iff (profile : Profile) :
    (∀ mode, profile.Accepts mode → ∀ leg, mode.leg1 = some leg ∨ mode.leg2 = some leg →
        profile.CarriesMandates leg) ↔
      profile.requireSecurity = true ∨ profile.MandatesNothing ∨ ∀ mode, ¬profile.Accepts mode := by
  constructor
  · intro hcarried
    cases hrequired : profile.requireSecurity with
    | true => exact .inl rfl
    | false =>
      by_cases hnone : ∃ mode, profile.Accepts mode
      · obtain ⟨mode, haccepts⟩ := hnone
        have hconforms := (profile.accepts_iff_conforms mode).mp haccepts
        -- the same mode without its security blocks is accepted, and has a first leg
        have hstripped := (profile.accepts_iff_conforms _).mpr (hconforms.withoutSecurity hrequired)
        obtain ⟨leg, hleg⟩ := Option.ne_none_iff_exists'.mp hconforms.leg1
        have hfirst : mode.withoutSecurity.leg1 = some leg.withoutSecurity := by
          rw [ProcessingMode.withoutSecurity, hleg, Option.map_some]
        have hcarries := hcarried _ hstripped leg.withoutSecurity (.inl hfirst)
        exact .inr (.inl ((carriesMandates_iff_of_none rfl).mp hcarries))
      · exact .inr (.inr (not_exists.mp hnone))
  · intro h mode haccepts leg hleg
    have hconforms := ((profile.accepts_iff_conforms mode).mp haccepts).legs leg hleg
    refine (carriesMandates_iff haccepts hleg).mpr ?_
    obtain hrequired | hnothing | hrefuses := h
    · refine .inl fun hnone => ?_
      have hnot := hconforms.securityGiven hnone
      rw [hrequired] at hnot
      cases hnot
    · exact .inr hnothing
    · exact absurd haccepts (hrefuses mode)

/-- A profile that mandates a certificate and all three algorithms, and does not require a security
block, accepts a mode whose only leg has none of them. -/
theorem accepts_without_mandates :
    ∃ (profile : Profile) (mode : ProcessingMode) (leg : Leg),
      profile = { requireSignatureCertificate := true
                  signatureAlgorithm := some .rsaSha256
                  signatureDigest := some .sha256
                  encryptionAlgorithm := some .aes128Gcm } ∧
      mode.leg1 = some leg ∧ leg.security = none ∧
      profile.checkMode mode = [] ∧ profile.Accepts mode ∧ ¬profile.CarriesMandates leg := by
  let profile : Profile :=
    { requireSignatureCertificate := true
      signatureAlgorithm := some .rsaSha256
      signatureDigest := some .sha256
      encryptionAlgorithm := some .aes128Gcm }
  let leg : Leg := { protocol := some ⟨some "https://b.example", default⟩ }
  let mode : ProcessingMode :=
    { id := ⟨"A-B", by decide⟩
      initiator := { idValue := "A", role := "r" }
      responder := { idValue := "B", role := "r" }
      pattern := .oneWay
      binding := .push
      leg1 := some leg }
  have hchecked : profile.checkMode mode = [] := by decide +kernel
  have haccepts : profile.Accepts mode := by
    rw [Accepts, hchecked]
    rfl
  refine ⟨profile, mode, leg, rfl, rfl, rfl, hchecked, haccepts, fun hcarries => ?_⟩
  obtain ⟨text, htext, -⟩ := hcarries.certificate rfl
  cases htext

end Profile

end Ebms
