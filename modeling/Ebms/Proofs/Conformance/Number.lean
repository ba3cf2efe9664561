import Ebms.Proofs.Conformance.Part

/-!
# The number of a leg

The rules about a leg get its number only to say which leg they are about. What they find is decided
by the leg and the profile, and the number stands at the front of the path and at the front of the
message and nowhere else. So the second leg of a mode is judged like the first one: if the legs are
equal, what is found on one of them is what is found on the other, with the other number in front.
-/

namespace Ebms

/-- A text with another front in the place of the one that it has; none if it begins otherwise. -/
def Text.withFront? (front other text : String) : Option String :=
  (front.toList.isPrefixOf? text.toList).map fun rest => other ++ String.ofList rest

/-- A text gets another front exactly if it begins with the one that is taken away, and the rest of
it is kept. -/
theorem Text.withFront?_eq_some_iff (front other text changed : String) :
    Text.withFront? front other text = some changed ↔
      ∃ rest, text = front ++ rest ∧ changed = other ++ rest := by
  simp only [withFront?, Option.map_eq_some_iff, List.isPrefixOf?_eq_some_iff_append_eq]
  constructor
  · rintro ⟨rest, hrest, rfl⟩
    refine ⟨String.ofList rest, String.toList_inj.mp ?_, rfl⟩
    rw [String.toList_append, String.toList_ofList, hrest]
  · rintro ⟨rest, rfl, rfl⟩
    exact ⟨rest.toList, String.toList_append.symm, by rw [String.ofList_toList]⟩

/-- A finding on the leg with some number as a finding on the leg with another one: the number is
replaced at the front of the path and at the front of the message. None if either of them begins
otherwise. -/
def Finding.renumber? (number other : Nat) (finding : Finding) : Option Finding := do
  let field ← Text.withFront? (legPlace number ++ ".") (legPlace other ++ ".") finding.field
  let message ← Text.withFront? (legLabel number) (legLabel other) finding.message
  some { finding with field, message }

/-- What is found on a leg, but for the number of the leg. -/
structure LegFinding where
  severity : Severity
  category : Category
  path : String
  text : String

/-- What is found on the leg with some number. -/
def LegFinding.on (found : LegFinding) (number : Nat) : Finding :=
  ⟨found.severity, found.category, legField number found.path, legLabel number ++ found.text⟩

/-- What is found on a leg can be given the number of another one. -/
theorem LegFinding.renumber?_on (found : LegFinding) (number other : Nat) :
    (found.on number).renumber? number other = some (found.on other) := by
  have hfield : Text.withFront? (legPlace number ++ ".") (legPlace other ++ ".")
      (legField number found.path) = some (legField other found.path) :=
    (Text.withFront?_eq_some_iff ..).mpr ⟨found.path, rfl, rfl⟩
  have hmessage : Text.withFront? (legLabel number) (legLabel other)
      (legLabel number ++ found.text) = some (legLabel other ++ found.text) :=
    (Text.withFront?_eq_some_iff ..).mpr ⟨found.text, rfl, rfl⟩
  rw [Finding.renumber?, LegFinding.on, hfield, hmessage]
  rfl

/-- A check of a leg finds the same whatever the number of the leg is. -/
def FindsAlike (check : Nat → Findings) : Prop :=
  ∃ found : List LegFinding, ∀ number, check number = found.map fun finding => finding.on number

namespace FindsAlike

variable {check later : Nat → Findings}

/-- A check that finds nothing finds nothing whatever the number is. -/
theorem nil : FindsAlike fun _ => [] :=
  ⟨[], fun _ => rfl⟩

/-- An error with the number at the front of its path and of its message is the same whatever the
number is. -/
theorem error (category : Category) (path text : String) :
    FindsAlike fun number =>
      [.error category (legField number path) (legLabel number ++ text)] :=
  ⟨[⟨.error, category, path, text⟩], fun _ => rfl⟩

/-- A finding on a scheme with the number at the front of its path and of its message is the same
whatever the number is. -/
theorem schemeFinding (profile : Profile) (path text : String) :
    FindsAlike fun number =>
      [profile.schemeFinding (legField number path) (legLabel number ++ text)] := by
  unfold Profile.schemeFinding
  cases profile.schemeIsFatal with
  | true => exact error .valueMismatch path text
  | false => exact ⟨[⟨.warning, .advisory, path, text⟩], fun _ => rfl⟩

/-- Two checks in a row find the same if each of them does. -/
theorem append (h : FindsAlike check) (h' : FindsAlike later) :
    FindsAlike fun number => check number ++ later number := by
  obtain ⟨found, hfound⟩ := h
  obtain ⟨others, hothers⟩ := h'
  refine ⟨found ++ others, fun number => ?_⟩
  simp only [hfound, hothers, List.map_append]

/-- One of two checks, chosen without the number, finds the same if each of them does. -/
theorem ite (chosen : Prop) [Decidable chosen] (h : FindsAlike check) (h' : FindsAlike later) :
    FindsAlike fun number => if chosen then check number else later number := by
  split
  · exact h
  · exact h'

/-- What is found alike on a leg becomes what is found with another number when the number is
replaced. -/
theorem renumber? (h : FindsAlike check) (number other : Nat) :
    (check number).map (Finding.renumber? number other) = (check other).map some := by
  obtain ⟨found, hfound⟩ := h
  rw [hfound, hfound, List.map_map, List.map_map]
  exact List.map_congr_left fun finding _ => finding.renumber?_on number other

end FindsAlike

/-- A flag of a leg is checked alike whatever the number of the leg is. -/
theorem Requirement.check_alike (requirement : Requirement) (path name : String) (flag : Flag) :
    FindsAlike fun number =>
      requirement.check (legField number path) (legLabel number ++ ": ") name flag := by
  simp only [check, String.append_assoc]
  cases requirement with
  | unchecked => exact .nil
  | defined =>
    cases flag with
    | undefined => exact .error ..
    | set actual => exact .nil
  | equals wanted =>
    cases flag with
    | undefined => exact .error ..
    | set actual => exact .ite _ .nil (.error ..)

/-- An algorithm of a leg is checked alike whatever the number of the leg is. -/
theorem checkAlgorithm_alike {α : Type} [DecidableEq α] [Spelled α] (path subject : String)
    (mandated actual : Option α) :
    FindsAlike fun number =>
      checkAlgorithm (legField number path) (legLabel number ++ subject) mandated actual := by
  simp only [checkAlgorithm, String.append_assoc]
  cases mandated with
  | none => exact .nil
  | some wanted =>
    cases actual with
    | none => exact .error ..
    | some found => exact .ite _ .nil (.error ..)

namespace Profile

variable (profile : Profile)

/-- An address is checked alike whatever the number of the leg is. -/
theorem checkAddress_alike (protocol : Protocol) :
    FindsAlike fun number => profile.checkAddress number protocol := by
  simp only [checkAddress, String.append_assoc]
  cases protocol.address with
  | none => exact .ite _ (.error ..) .nil
  | some address =>
    cases protocol.scheme? with
    | none => exact .schemeFinding ..
    | some scheme => exact .ite _ .nil (.schemeFinding ..)

/-- A SOAP version is checked alike whatever the number of the leg is. -/
theorem checkSoapVersion_alike (protocol : Protocol) :
    FindsAlike fun number => profile.checkSoapVersion number protocol := by
  simp only [checkSoapVersion, String.append_assoc]
  cases profile.soapVersion with
  | none => exact .nil
  | some wanted => exact .ite _ .nil (.error ..)

/-- A protocol block is checked alike whatever the number of the leg is. -/
theorem checkProtocol_alike (leg : Leg) :
    FindsAlike fun number => profile.checkProtocol number leg := by
  unfold checkProtocol
  cases leg.protocol with
  | none => exact .error ..
  | some protocol =>
    exact (profile.checkAddress_alike protocol).append (profile.checkSoapVersion_alike protocol)

/-- A business block is checked alike whatever the number of the leg is. -/
theorem checkBusiness_alike (leg : Leg) :
    FindsAlike fun number => profile.checkBusiness number leg := by
  simp only [checkBusiness, String.append_assoc]
  cases leg.business.bind BusinessInformation.service with
  | none => exact .nil
  | some service => exact .ite _ .nil (.error ..)

/-- A certificate is checked alike whatever the number of the leg is. -/
theorem checkCertificate_alike (security : Security) :
    FindsAlike fun number => profile.checkCertificate number security :=
  .ite _ (.error ..) .nil

/-- The minimum strength is checked alike whatever the number of the leg is. -/
theorem checkStrength_alike (security : Security) :
    FindsAlike fun number => checkStrength number security := by
  simp only [checkStrength, String.append_assoc]
  cases security.encryptionAlgorithm with
  | none => exact .nil
  | some algorithm =>
    cases security.minimumStrength with
    | none => exact .nil
    | some minimum => exact .ite _ (.error ..) .nil

/-- A WS-Security version is checked alike whatever the number of the leg is. -/
theorem checkWssVersion_alike (security : Security) :
    FindsAlike fun number => profile.checkWssVersion number security := by
  simp only [checkWssVersion, String.append_assoc]
  cases profile.wssVersion with
  | none => exact .nil
  | some wanted =>
    cases security.wssVersion with
    | none => exact .nil
    | some actual => exact .ite _ .nil (.error ..)

/-- The way back of receipts is checked alike whatever the number of the leg is. -/
theorem checkReplyPattern_alike (security : Security) :
    FindsAlike fun number => profile.checkReplyPattern number security := by
  simp only [checkReplyPattern, String.append_assoc]
  cases profile.replyPattern with
  | none => exact .nil
  | some wanted => exact .ite _ (.error ..) .nil

/-- A security block is checked alike whatever the number of the leg is. -/
theorem checkSecurityBlock_alike (security : Security) :
    FindsAlike fun number => profile.checkSecurityBlock number security :=
  (profile.checkCertificate_alike security)
    |>.append (checkAlgorithm_alike ..)
    |>.append (checkAlgorithm_alike ..)
    |>.append (checkAlgorithm_alike ..)
    |>.append (checkStrength_alike security)
    |>.append (profile.checkWssVersion_alike security)
    |>.append (Requirement.check_alike ..)
    |>.append (Requirement.check_alike ..)
    |>.append (profile.checkReplyPattern_alike security)

/-- The security block of a leg is checked alike whatever the number of the leg is. -/
theorem checkSecurity_alike (leg : Leg) :
    FindsAlike fun number => profile.checkSecurity number leg := by
  unfold checkSecurity
  cases leg.security with
  | none => exact .ite _ (.error ..) .nil
  | some security => exact profile.checkSecurityBlock_alike security

/-- The error handling block of a leg is checked alike whatever the number of the leg is. -/
theorem checkErrorHandling_alike (leg : Leg) :
    FindsAlike fun number => profile.checkErrorHandling number leg := by
  unfold checkErrorHandling
  cases leg.errorHandling with
  | none => exact .ite _ (.error ..) .nil
  | some handling =>
    exact (Requirement.check_alike ..)
      |>.append (Requirement.check_alike ..)
      |>.append (Requirement.check_alike ..)
      |>.append (Requirement.check_alike ..)

/-- A leg is checked alike whatever its number is. -/
theorem checkLeg_alike (leg : Leg) : FindsAlike fun number => profile.checkLeg number leg := by
  simp only [checkLeg_eq]
  exact (profile.checkProtocol_alike leg)
    |>.append (profile.checkBusiness_alike leg)
    |>.append (profile.checkSecurity_alike leg)
    |>.append (profile.checkErrorHandling_alike leg)

/-- What is found below the place of a leg is found on that leg, if it is there. -/
theorem filter_below_checkMode (mode : ProcessingMode) (position : LegPosition) :
    ((profile.checkMode mode).filter
        fun finding => Below (legPlace position.number) finding.field) =
      (mode.leg? position).elim [] (profile.checkLeg position.number) := by
  let leg := ModePart.leg position
  -- Within the place of the leg is what is found on its presence, which is at the place itself,
  -- and what is found on its blocks, which is below it.
  have hwithin : (profile.checkMode mode).filter (fun finding => Within leg.place finding.field) =
      checkPresence mode position ++
        (mode.leg? position).elim [] (profile.checkLeg position.number) := by
    rw [filter_within_checkMode, ← flatMap_checkGroup_blocks]
    rfl
  have hpresence : (checkPresence mode position).filter
      (fun finding => finding.field ≠ leg.place) = [] := by
    refine List.filter_eq_nil_iff.mpr fun finding hfinding => ?_
    simpa using field_of_mem_checkPresence hfinding
  have hblocks : ((mode.leg? position).elim [] (profile.checkLeg position.number)).filter
      (fun finding => finding.field ≠ leg.place) =
        (mode.leg? position).elim [] (profile.checkLeg position.number) := by
    cases mode.leg? position with
    | none => rfl
    | some present =>
      refine List.filter_eq_self.mpr fun finding hfinding => decide_eq_true ?_
      have hbelow := profile.below_of_mem_checkLeg position.number present finding hfinding
      exact ((below_iff_within_ne _ _).mp hbelow).2
  calc (profile.checkMode mode).filter
        fun finding => Below (legPlace position.number) finding.field
    _ = ((profile.checkMode mode).filter fun finding => Within leg.place finding.field).filter
          fun finding => finding.field ≠ leg.place := by
      rw [List.filter_filter]
      refine List.filter_congr fun finding _ => ?_
      rw [← Bool.decide_and]
      exact decide_eq_decide.mpr ((below_iff_within_ne _ _).trans and_comm)
    _ = (mode.leg? position).elim [] (profile.checkLeg position.number) := by
      rw [hwithin, List.filter_append, hpresence, hblocks, List.nil_append]

end Profile

end Ebms
