import Ebms.Profile.Builtin
import Ebms.Proofs.Conformance.Part

/-!
# A deviation in a security block

The rules about a security block are about its fields. A field is read by the rule about that field,
and two fields are read by one more rule each: the encryption algorithm is held against the minimum
strength, and the way back of receipts only matters where receipts are sent.

So if one field of the block is replaced in a mode on which nothing was found, what is found
afterwards is about that field, once at most, and about the field that it affects, once at most. The
built-in profiles mandate the algorithm with the shortest keys, if they mandate any. A block that
conforms to one of them has no minimum strength that another algorithm could miss, so there a single
replacement is found once at most.
-/

namespace Ebms

open Findings (OfRule)

/-- The fields of a security block. -/
inductive SecurityField where
  | wssVersion
  | signatureCertificate
  | signatureAlgorithm
  | signatureDigest
  | encryptionCertificate
  | encryptionAlgorithm
  | minimumStrength
  | authorize
  | sendReceipt
  | nonRepudiation
  | replyPattern
  deriving DecidableEq

namespace SecurityField

/-- The fields of a security block, in the order in which they are checked. -/
def all : List SecurityField :=
  [signatureCertificate, signatureAlgorithm, signatureDigest, encryptionCertificate,
    encryptionAlgorithm, minimumStrength, wssVersion, authorize, sendReceipt, nonRepudiation,
    replyPattern]

/-- There are no other fields. -/
theorem mem_all (field : SecurityField) : field ∈ all := by
  cases field <;> decide

/-- The path of a field from its leg. -/
def path : SecurityField → String
  | wssVersion => "security.wss_version"
  | signatureCertificate => "security.x509_signature_certificate"
  | signatureAlgorithm => "security.x509_signature_algorithm"
  | signatureDigest => "security.x509_signature_hash_function"
  | encryptionCertificate => "security.x509_encryption_certificate"
  | encryptionAlgorithm => "security.x509_encryption_algorithm"
  | minimumStrength => "security.x509_encryption_minimum_strength"
  | authorize => "security.pmode_authorize"
  | sendReceipt => "security.send_receipt"
  | nonRepudiation => "security.send_receipt_non_repudiation"
  | replyPattern => "security.send_receipt_reply_pattern"

/-- The place of a field of the block of some leg. -/
def place (field : SecurityField) (number : Nat) : String :=
  legField number field.path

/-- Different fields have different places. -/
theorem place_injective (number : Nat) : Function.Injective (place · number) := by
  have hpath : ∀ field ∈ all, ∀ other ∈ all, field.path = other.path → field = other := by
    decide
  intro field other h
  exact hpath field field.mem_all other other.mem_all ((String.append_right_inj _).mp h)

/-- The field whose rule reads another field as well: algorithms are held against the minimum
strength, and where receipts are sent their way back matters. -/
def affects : SecurityField → Option SecurityField
  | encryptionAlgorithm => some minimumStrength
  | sendReceipt => some replyPattern
  | _ => none

/-- The fields whose rules read a field: its own rule comes first. -/
def readers (field : SecurityField) : List SecurityField :=
  field :: field.affects.toList

/-- The readers of a field stand in the same order among all fields. -/
theorem filter_mem_readers (field : SecurityField) :
    (all.filter fun other => other ∈ field.readers) = field.readers := by
  cases field <;> decide

/-- No rule reads a field twice. -/
theorem nodup_readers (field : SecurityField) : field.readers.Nodup := by
  cases field <;> decide

end SecurityField

/-- A security block with one of its fields cleared. -/
def Security.without (security : Security) : SecurityField → Security
  | .wssVersion => { security with wssVersion := none }
  | .signatureCertificate => { security with signatureCertificate := none }
  | .signatureAlgorithm => { security with signatureAlgorithm := none }
  | .signatureDigest => { security with signatureDigest := none }
  | .encryptionCertificate => { security with encryptionCertificate := none }
  | .encryptionAlgorithm => { security with encryptionAlgorithm := none }
  | .minimumStrength => { security with minimumStrength := none }
  | .authorize => { security with authorize := .undefined }
  | .sendReceipt => { security with sendReceipt := .undefined }
  | .nonRepudiation => { security with nonRepudiation := .undefined }
  | .replyPattern => { security with replyPattern := none }

/-- A mode with another security block in the leg at a position. -/
def ProcessingMode.withSecurity (mode : ProcessingMode) (security : Security)
    (position : LegPosition) : ProcessingMode :=
  mode.withLeg ((mode.leg? position).map fun leg => { leg with security }) position

/-- A mode with another security block is the same but for that block. -/
theorem ProcessingMode.without_withSecurity (mode : ProcessingMode) (security : Security)
    (position : LegPosition) :
    (mode.withSecurity security position).without (.block position .security) =
      mode.without (.block position .security) := by
  cases position with
  | first => cases h : mode.leg1 <;> simp [withSecurity, without, withLeg, leg?, Leg.without, h]
  | second => cases h : mode.leg2 <;> simp [withSecurity, without, withLeg, leg?, Leg.without, h]

/-- A finding has a text in its message. -/
def Finding.Mentions (finding : Finding) (text : String) : Prop :=
  ∃ before after, finding.message = before ++ text ++ after

/-- What is found on an algorithm mentions the one that is mandated. -/
theorem checkAlgorithm_mentions {α : Type} [DecidableEq α] [Spelled α] (field subject : String)
    (wanted : α) (actual : Option α) :
    ∀ finding ∈ checkAlgorithm field subject (some wanted) actual,
      finding.Mentions (Spelled.text wanted) := by
  intro finding hfinding
  cases actual with
  | none =>
    rw [checkAlgorithm, List.mem_singleton] at hfinding
    rw [hfinding]
    exact ⟨subject ++ " is missing (expected '", "')", rfl⟩
  | some found =>
    rw [checkAlgorithm] at hfinding
    split at hfinding
    · cases hfinding
    · rw [List.mem_singleton.mp hfinding]
      refine ⟨subject ++ " must be '", "' instead of '" ++ Spelled.text found ++ "'", ?_⟩
      simp only [Finding.error, String.append_assoc]

namespace Profile

/-- What a profile asks of a field of a security block. Nothing is asked of the certificate for
encryption, and whether receipts are sent is free. -/
def FieldConforms (profile : Profile) (security : Security) : SecurityField → Prop
  | .wssVersion => ∀ version ∈ profile.wssVersion, ∀ given ∈ security.wssVersion, given = version
  | .signatureCertificate => profile.requireSignatureCertificate = true →
      ∃ text ∈ security.signatureCertificate, Text.isBlank text = false
  | .signatureAlgorithm => ∀ algorithm ∈ profile.signatureAlgorithm,
      security.signatureAlgorithm = some algorithm
  | .signatureDigest => ∀ algorithm ∈ profile.signatureDigest,
      security.signatureDigest = some algorithm
  | .encryptionAlgorithm => ∀ algorithm ∈ profile.encryptionAlgorithm,
      security.encryptionAlgorithm = some algorithm
  | .minimumStrength => ∀ algorithm ∈ security.encryptionAlgorithm,
      ∀ minimum ∈ security.minimumStrength, minimum ≤ algorithm.keyBits
  | .authorize => profile.authorize.MetBy security.authorize
  | .nonRepudiation => profile.nonRepudiation.MetBy security.nonRepudiation
  | .replyPattern => ∀ pattern ∈ profile.replyPattern, security.sendReceipt = .set true →
      security.replyPattern = some pattern
  | .encryptionCertificate | .sendReceipt => True

/-- What a field of a security block leaves to be found. -/
def checkField (profile : Profile) (number : Nat) (security : Security)
    (field : SecurityField) : Findings :=
  match field with
  | .wssVersion => profile.checkWssVersion number security
  | .signatureCertificate => profile.checkCertificate number security
  | .signatureAlgorithm =>
      checkAlgorithm (field.place number) (legLabel number ++ ": signature algorithm")
        profile.signatureAlgorithm security.signatureAlgorithm
  | .signatureDigest =>
      checkAlgorithm (field.place number) (legLabel number ++ ": signature hash function")
        profile.signatureDigest security.signatureDigest
  | .encryptionAlgorithm =>
      checkAlgorithm (field.place number) (legLabel number ++ ": encryption algorithm")
        profile.encryptionAlgorithm security.encryptionAlgorithm
  | .minimumStrength => checkStrength number security
  | .authorize =>
      profile.authorize.check (field.place number) (legLabel number ++ ": ") "PModeAuthorize"
        security.authorize
  | .nonRepudiation =>
      profile.nonRepudiation.check (field.place number) (legLabel number ++ ": ")
        "SendReceiptNonRepudiation" security.nonRepudiation
  | .replyPattern => profile.checkReplyPattern number security
  | .encryptionCertificate | .sendReceipt => []

/-- The identifier that a profile mandates for a field, if the field holds an algorithm or a
version and one is mandated. -/
def mandated? (profile : Profile) : SecurityField → Option String
  | .wssVersion => profile.wssVersion.map WssVersion.identifier
  | .signatureAlgorithm => profile.signatureAlgorithm.map SignatureAlgorithm.identifier
  | .signatureDigest => profile.signatureDigest.map DigestAlgorithm.identifier
  | .encryptionAlgorithm => profile.encryptionAlgorithm.map EncryptionAlgorithm.identifier
  | _ => none

variable (profile : Profile)

/-- A security block conforms exactly when each of its fields does. -/
theorem securityConforms_iff (security : Security) :
    profile.SecurityConforms security ↔ ∀ field, profile.FieldConforms security field := by
  constructor
  · intro h field
    cases field with
    | wssVersion => exact h.wssVersion
    | signatureCertificate => exact h.certificate
    | signatureAlgorithm => exact h.signatureAlgorithm
    | signatureDigest => exact h.signatureDigest
    | encryptionAlgorithm => exact h.encryptionAlgorithm
    | minimumStrength => exact h.strength
    | authorize => exact h.authorize
    | nonRepudiation => exact h.nonRepudiation
    | replyPattern => exact h.replyPattern
    | encryptionCertificate | sendReceipt => exact trivial
  · intro h
    exact ⟨h .signatureCertificate, h .signatureAlgorithm, h .signatureDigest,
      h .encryptionAlgorithm, h .minimumStrength, h .wssVersion, h .authorize, h .nonRepudiation,
      h .replyPattern⟩

/-- The check of a field is the rule that it conforms. -/
theorem checkField_ofRule (number : Nat) (security : Security) (field : SecurityField) :
    OfRule .error (field.place number) (profile.FieldConforms security field)
      (profile.checkField number security field) := by
  cases field with
  | wssVersion => exact profile.checkWssVersion_ofRule number security
  | signatureCertificate => exact profile.checkCertificate_ofRule number security
  | signatureAlgorithm | signatureDigest | encryptionAlgorithm =>
    exact checkAlgorithm_ofRule _ _ _ _
  | minimumStrength => exact checkStrength_ofRule number security
  | authorize | nonRepudiation => exact Requirement.check_ofRule _ _ _ _ _
  | replyPattern => exact profile.checkReplyPattern_ofRule number security
  | encryptionCertificate | sendReceipt => exact .kept trivial

/-- A security block is checked field by field. -/
theorem checkSecurityBlock_eq_flatMap (number : Nat) (security : Security) :
    profile.checkSecurityBlock number security =
      SecurityField.all.flatMap (profile.checkField number security) := by
  simp [checkSecurityBlock, SecurityField.all, checkField, SecurityField.place, SecurityField.path]

/-- A field is checked alike whatever is in the fields that its rule does not read. -/
theorem checkField_without (number : Nat) (security : Security) {field changed : SecurityField}
    (h : field ∉ changed.readers) :
    profile.checkField number (security.without changed) field =
      profile.checkField number security field := by
  -- A rule either does not look at the cleared field or is one of its readers.
  cases changed <;> cases field <;> first | rfl | exact absurd (by decide) h

/-- What is found on a field mentions what is mandated for it. -/
theorem checkField_mentions (number : Nat) (security : Security) {field : SecurityField}
    {identifier : String} (hmandated : profile.mandated? field = some identifier) :
    ∀ finding ∈ profile.checkField number security field, finding.Mentions identifier := by
  cases field with
  | wssVersion =>
    obtain ⟨wanted, hwanted, rfl⟩ := Option.map_eq_some_iff.mp hmandated
    rw [checkField, checkWssVersion, hwanted]
    cases security.wssVersion with
    | none => nofun
    | some actual =>
      intro finding hfinding
      simp only at hfinding
      split at hfinding
      · cases hfinding
      · rw [List.mem_singleton.mp hfinding]
        exact ⟨_, " is allowed", rfl⟩
  | signatureAlgorithm | signatureDigest | encryptionAlgorithm =>
    obtain ⟨wanted, hwanted, rfl⟩ := Option.map_eq_some_iff.mp hmandated
    rw [checkField, hwanted]
    exact checkAlgorithm_mentions _ _ wanted _
  | _ => cases hmandated

/-- What is found on a mode that differs in one part from a mode on which nothing is found is found
on that part. -/
theorem checkMode_of_clean_elsewhere {mode changed : ProcessingMode} {part : ModePart}
    (hclean : profile.checkMode mode = []) (hsame : changed.without part = mode.without part) :
    profile.checkMode changed = part.groups.flatMap (profile.checkGroup changed) := by
  have houtside : (profile.checkMode changed).filter
      (fun finding => ¬Within part.place finding.field) = [] := by
    rw [← profile.filter_not_within_checkMode_without changed part, hsame,
      profile.filter_not_within_checkMode_without mode part, hclean, List.filter_nil]
  rw [← profile.filter_within_checkMode changed part, eq_comm, List.filter_eq_self]
  intro finding hfinding
  have hwithin := List.filter_eq_nil_iff.mp houtside finding hfinding
  simpa using hwithin

/-- A security block of a mode on which nothing is found conforms. -/
theorem securityConforms_of_clean {mode : ProcessingMode} {position : LegPosition}
    {security : Security} (hclean : profile.checkMode mode = [])
    (hsecurity : (mode.leg? position).bind Leg.security = some security) :
    profile.SecurityConforms security := by
  obtain ⟨leg, hleg, hblock⟩ := Option.bind_eq_some_iff.mp hsecurity
  have haccepts : profile.Accepts mode := by
    rw [Accepts, hclean]
    rfl
  have hmem : (position.number, leg) ∈ mode.legs :=
    (mode.mem_legs_iff_leg? _ leg).mpr ⟨position, rfl, hleg⟩
  exact (haccepts.legConforms hmem).security security hblock

/-- What is found on a block that differs in one field from a block that conforms is found by the
rules that read that field. -/
theorem checkSecurityBlock_of_conforms_elsewhere (number : Nat) {security other : Security}
    {field : SecurityField} (hconforms : profile.SecurityConforms security)
    (hsame : other.without field = security.without field) :
    profile.checkSecurityBlock number other =
      field.readers.flatMap (profile.checkField number other) := by
  have hsilent {unread : SecurityField} (hunread : unread ∉ field.readers) :
      profile.checkField number other unread = [] := by
    rw [← profile.checkField_without number other hunread, hsame,
      profile.checkField_without number security hunread]
    exact (profile.checkField_ofRule number security unread).eq_nil_iff.mpr
      (profile.securityConforms_iff security |>.mp hconforms unread)
  rw [checkSecurityBlock_eq_flatMap, ← field.filter_mem_readers]
  exact (Findings.flatMap_filter fun _ _ hunread => hsilent (of_decide_eq_false hunread)).symm

/-- If one field of a security block is replaced in a mode on which nothing is found, what is found
is found by the rules that read that field. -/
theorem checkMode_withSecurity {mode : ProcessingMode} {position : LegPosition}
    {security other : Security} {field : SecurityField} (hclean : profile.checkMode mode = [])
    (hsecurity : (mode.leg? position).bind Leg.security = some security)
    (hsame : other.without field = security.without field) :
    profile.checkMode (mode.withSecurity other position) =
      field.readers.flatMap (profile.checkField position.number other) := by
  have hconforms := profile.securityConforms_of_clean hclean hsecurity
  obtain ⟨leg, hleg, -⟩ := Option.bind_eq_some_iff.mp hsecurity
  have hchanged : (mode.withSecurity other position).leg? position =
      some { leg with security := some other } := by
    rw [ProcessingMode.withSecurity, ProcessingMode.leg?_withLeg, if_pos rfl, hleg]
    rfl
  calc profile.checkMode (mode.withSecurity other position)
    _ = profile.checkGroup (mode.withSecurity other position) (.block position .security) := by
      rw [profile.checkMode_of_clean_elsewhere hclean (mode.without_withSecurity other position),
        ModePart.groups, List.flatMap_singleton]
    _ = profile.checkSecurityBlock position.number other := by
      rw [checkGroup, hchanged]
      rfl
    _ = _ := profile.checkSecurityBlock_of_conforms_elsewhere position.number hconforms hsame

/-- What is found on a field is within the block. -/
theorem within_of_mem_checkField (number : Nat) (security : Security) (field : SecurityField) :
    ∀ finding ∈ profile.checkField number security field,
      Within (legField number "security") finding.field := by
  intro finding hfinding
  refine profile.within_of_mem_checkSecurity number { security := some security } finding ?_
  change finding ∈ profile.checkSecurityBlock number security
  rw [checkSecurityBlock_eq_flatMap]
  exact List.mem_flatMap.mpr ⟨field, field.mem_all, hfinding⟩

/-- What is found when one field of a security block is replaced. -/
structure SingleDeviation (profile : Profile) (number : Nat) (field : SecurityField)
    (security : Security) (found : Findings) : Prop where
  /-- Everything is found within the block. -/
  inBlock : ∀ finding ∈ found, Within (legField number "security") finding.field
  /-- Everything is about the field, or about the field that it affects. -/
  places : ∀ finding ∈ found, finding.field = field.place number ∨
    ∃ other ∈ field.affects, finding.field = other.place number
  /-- No place is found twice. -/
  once : ∀ place, (found.forField place).length ≤ 1
  /-- Something is found on the field exactly if it does not conform. -/
  broken : found.forField (field.place number) ≠ [] ↔ ¬profile.FieldConforms security field
  /-- Something is found on the field that it affects exactly if that one does not conform now. -/
  affected : ∀ other ∈ field.affects,
    found.forField (other.place number) ≠ [] ↔ ¬profile.FieldConforms security other
  /-- What is found on the field mentions what is mandated for it. -/
  named : ∀ finding ∈ found.forField (field.place number),
    ∀ identifier ∈ profile.mandated? field, finding.Mentions identifier

/-- The rules that read a field find what is found when that field is replaced. -/
theorem singleDeviation_readers (number : Nat) (field : SecurityField) (security : Security) :
    profile.SingleDeviation number field security
      (field.readers.flatMap (profile.checkField number security)) := by
  have hat {other : SecurityField} (hother : other ∈ field.readers) :
      Findings.forField (field.readers.flatMap (profile.checkField number security))
        (other.place number) = profile.checkField number security other :=
    Findings.forField_flatMap_of_mem (profile.checkField_ofRule number security)
      (SecurityField.place_injective number) field.nodup_readers hother
  have hself : field ∈ field.readers := List.mem_cons_self
  have haffected {other : SecurityField} (hother : other ∈ field.affects) :
      other ∈ field.readers :=
    List.mem_cons_of_mem field (Option.mem_toList.mpr hother)
  refine ⟨?inBlock, ?places, ?once, ?broken, ?affected, ?named⟩
  case inBlock =>
    intro finding hfinding
    obtain ⟨other, -, hother⟩ := List.mem_flatMap.mp hfinding
    exact profile.within_of_mem_checkField number security other finding hother
  case places =>
    intro finding hfinding
    obtain ⟨other, hread, hother⟩ := List.mem_flatMap.mp hfinding
    rw [((profile.checkField_ofRule number security other).of_mem hother).1]
    obtain rfl | haffects := List.mem_cons.mp hread
    · exact .inl rfl
    · exact .inr ⟨other, Option.mem_toList.mp haffects, rfl⟩
  case once =>
    exact Findings.length_forField_flatMap_le_one (profile.checkField_ofRule number security)
      (SecurityField.place_injective number) field.nodup_readers
  case broken =>
    rw [hat hself]
    exact (profile.checkField_ofRule number security field).eq_nil_iff.not
  case affected =>
    intro other hother
    rw [hat (haffected hother)]
    exact (profile.checkField_ofRule number security other).eq_nil_iff.not
  case named =>
    intro finding hfinding identifier hidentifier
    rw [hat hself] at hfinding
    exact profile.checkField_mentions number security hidentifier finding hfinding

/-- A profile mandates an algorithm with the shortest keys, if it mandates any. -/
def MandatesShortestKeys (profile : Profile) : Prop :=
  ∀ mandated ∈ profile.encryptionAlgorithm, ∀ algorithm : EncryptionAlgorithm,
    mandated.keyBits ≤ algorithm.keyBits

/-- The built-in profiles mandate an algorithm with the shortest keys, if they mandate any. -/
theorem builtin_mandatesShortestKeys {id : ProfileId} {profile : Profile}
    (h : builtin? id = some profile) : profile.MandatesShortestKeys := by
  have haes (algorithm : EncryptionAlgorithm) :
      EncryptionAlgorithm.aes128Gcm.keyBits ≤ algorithm.keyBits := by
    cases algorithm <;> decide
  have hgcm {mandated : EncryptionAlgorithm} (hmandated : mandated ∈ some .aes128Gcm)
      (algorithm : EncryptionAlgorithm) : mandated.keyBits ≤ algorithm.keyBits := by
    cases hmandated
    exact haes algorithm
  have hnone : generic.MandatesShortestKeys := by
    intro mandated hmandated
    cases hmandated
  have hall : ∀ profile ∈ builtins, profile.MandatesShortestKeys := by
    simp only [builtins, List.forall_mem_cons]
    exact ⟨fun _ => hgcm, fun _ => hgcm, fun _ => hgcm, hnone, List.forall_mem_nil _⟩
  exact hall profile (mem_builtins_of_builtin? h)

/-- Where the mandated algorithm has the shortest keys, a replaced field is found once at most. -/
theorem length_readers_le_one (number : Nat) {security other : Security} {field : SecurityField}
    (hshortest : profile.MandatesShortestKeys) (hconforms : profile.SecurityConforms security)
    (hsame : other.without field = security.without field) :
    (field.readers.flatMap (profile.checkField number other)).length ≤ 1 := by
  have hrule := profile.checkField_ofRule number other
  rw [SecurityField.readers, List.flatMap_cons]
  cases haffects : field.affects with
  | none =>
    rw [Option.toList_none, List.flatMap_nil, List.append_nil]
    exact (hrule field).length_le_one
  | some affected =>
    rw [Option.toList_some, List.flatMap_singleton]
    -- Of the two rules that read the field, one is kept whatever its new value is.
    refine (hrule field).length_append_le_one (hrule affected) ?_
    cases field with
    | sendReceipt => exact .inl trivial
    | encryptionAlgorithm =>
      cases haffects
      cases hmandated : profile.encryptionAlgorithm with
      | none => exact .inl (by simp [FieldConforms, hmandated])
      | some mandated =>
        -- The minimum was reached by the mandated algorithm, so every other one reaches it.
        refine .inr fun algorithm _ minimum hminimum => ?_
        have hkept := congrArg Security.minimumStrength hsame
        change other.minimumStrength = security.minimumStrength at hkept
        have hgiven := hconforms.encryptionAlgorithm mandated hmandated
        calc minimum
          _ ≤ mandated.keyBits := hconforms.strength mandated hgiven minimum (hkept ▸ hminimum)
          _ ≤ algorithm.keyBits := hshortest mandated hmandated algorithm
    | _ => cases haffects

/-- A single deviation in a security block is found once, and where it is. If one field of the block
of a leg is replaced in a mode on which nothing is found, everything that is found then is within
that block, once at most at each place, and it is about the replaced field, if that does not
conform, or about the field that it affects, if that does not conform any more: the minimum strength
for an encryption algorithm, and the way back of receipts for whether they are sent. A mandated
algorithm or version is mentioned. Under a built-in profile there is one finding at most. -/
theorem security_deviation_found_once {mode : ProcessingMode} {position : LegPosition}
    {security other : Security} {field : SecurityField}
    (hclean : profile.check (.mode mode) = [])
    (hsecurity : (mode.leg? position).bind Leg.security = some security)
    (hsame : other.without field = security.without field) :
    profile.SingleDeviation position.number field other
        (profile.check (.mode (mode.withSecurity other position))) ∧
      ∀ id, builtin? id = some profile →
        (profile.check (.mode (mode.withSecurity other position))).length ≤ 1 := by
  have hfound : profile.check (.mode (mode.withSecurity other position)) =
      field.readers.flatMap (profile.checkField position.number other) :=
    profile.checkMode_withSecurity hclean hsecurity hsame
  rw [hfound]
  refine ⟨profile.singleDeviation_readers position.number field other, fun id hid => ?_⟩
  exact profile.length_readers_le_one position.number (builtin_mandatesShortestKeys hid)
    (profile.securityConforms_of_clean hclean hsecurity) hsame

/-- Another encryption algorithm is found once under the profile of the Peppol network. Under a
profile that mandates long keys a weaker one is found twice: it is not the mandated one, and it
misses the minimum strength of the block. -/
theorem other_algorithm_found :
    (∃ (mode : ProcessingMode) (security other : Security),
      peppol.check (.mode mode) = [] ∧
      (mode.leg? .first).bind Leg.security = some security ∧
      other.without .encryptionAlgorithm = security.without .encryptionAlgorithm ∧
      (peppol.check (.mode (mode.withSecurity other .first))).map Finding.field =
        ["leg1.security.x509_encryption_algorithm"] ∧
      (peppol.check (.mode (mode.withSecurity other .first))).length ≤ 1) ∧
    ∃ (profile : Profile) (mode : ProcessingMode) (security other : Security),
      profile.check (.mode mode) = [] ∧
      (mode.leg? .second).bind Leg.security = some security ∧
      other.without .encryptionAlgorithm = security.without .encryptionAlgorithm ∧
      (profile.check (.mode (mode.withSecurity other .second))).map Finding.field =
        ["leg2.security.x509_encryption_algorithm",
          "leg2.security.x509_encryption_minimum_strength"] ∧
      profile.SingleDeviation 2 .encryptionAlgorithm other
        (profile.check (.mode (mode.withSecurity other .second))) := by
  let mode : ProcessingMode :=
    { id := ⟨"A-B", by decide⟩
      initiator := { idValue := "A", role := "r" }
      responder := { idValue := "B", role := "r" }
      pattern := .oneWay
      binding := .push
      leg1 := none }
  let leg : Leg := { protocol := some ⟨some "https://a.example", default⟩ }
  constructor
  · let security : Security :=
      { signatureAlgorithm := some .rsaSha256
        signatureDigest := some .sha256
        encryptionAlgorithm := some .aes128Gcm
        minimumStrength := some 128
        authorize := .set false }
    let errorHandling : ErrorHandling := ⟨none, none, .set true, .set true, .set true, .set true⟩
    let mode := { mode with leg1 := some { leg with security, errorHandling } }
    let other := { security with encryptionAlgorithm := some .aes192Cbc }
    have hclean : peppol.check (.mode mode) = [] := by decide +kernel
    have hsecurity : (mode.leg? .first).bind Leg.security = some security := rfl
    have hsame : other.without .encryptionAlgorithm = security.without .encryptionAlgorithm := rfl
    have hfound := peppol.security_deviation_found_once hclean hsecurity hsame
    exact ⟨mode, security, other, hclean, hsecurity, hsame, by decide +kernel,
      hfound.2 .peppol rfl⟩
  · let profile : Profile := { encryptionAlgorithm := some .aes256Gcm }
    let security : Security :=
      { encryptionAlgorithm := some .aes256Gcm, minimumStrength := some 256 }
    let leg := { leg with security }
    let mode :=
      { mode with pattern := .twoWay, binding := .pushPush, leg1 := some leg, leg2 := some leg }
    let other := { security with encryptionAlgorithm := some .aes128Gcm }
    have hclean : profile.check (.mode mode) = [] := by decide +kernel
    have hsecurity : (mode.leg? .second).bind Leg.security = some security := rfl
    have hsame : other.without .encryptionAlgorithm = security.without .encryptionAlgorithm := rfl
    have hfound := profile.security_deviation_found_once hclean hsecurity hsame
    exact ⟨profile, mode, security, other, hclean, hsecurity, hsame, by decide +kernel, hfound.1⟩

end Profile

end Ebms
