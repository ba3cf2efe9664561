import Ebms.Proofs.Conformance.Fault
import Ebms.Proofs.Conformance.Part

/-!
# Modes and messages are judged alike

A profile judges processing modes and messages by rules of their own, which speak about the same
three things: the services on offer, whether messages may be pulled, and whether receipts are not to
be repudiated. A service is found on a leg exactly if it is found on a user message, and a mode that
is accepted leads to messages on which nothing of the kind is found: to user messages about the
services of its legs, to pull requests where its binding involves pulling, and to receipts that are
as its legs have them.
-/

namespace Ebms

/-- The service that a leg is about, if it names one. -/
def Leg.service? (leg : Leg) : Option String :=
  leg.business.bind BusinessInformation.service

/-- The service that a user message is about, if it names one. -/
def UserMessage.service? (message : UserMessage) : Option String :=
  message.collaboration.bind CollaborationInfo.service

/-- What is at a path is at that path among what is within a place that the path is within. -/
theorem Findings.forField_filter_within (findings : Findings) {place path : String}
    (hpath : Within place path) :
    forField (findings.filter fun finding => Within place finding.field) path =
      forField findings path := by
  rw [forField, forField, List.filter_filter]
  refine List.filter_congr fun finding _ => ?_
  by_cases hfield : finding.field = path
  · simp [hfield, hpath]
  · simp [hfield]

/-- A text does not go on from a beginning that it does not have. -/
theorem append_ne_of_not_prefixOf {start text : String} (h : ¬start.toList <+: text.toList)
    (rest : String) : start ++ rest ≠ text := by
  rintro rfl
  rw [String.toList_append] at h
  exact h (List.prefix_append _ _)

/-- The path of an unoffered service is the path of no other fault. -/
theorem UserMessageFault.field_eq_service_iff (fault : UserMessageFault) :
    fault.field = "collaboration_info.service" ↔ ∃ service, fault = .unofferedService service := by
  have hside (side : Side) (rest : String) :
      side.field ++ rest ≠ "collaboration_info.service" := by
    cases side <;> exact append_ne_of_not_prefixOf (by decide) rest
  constructor
  · intro hfield
    cases fault with
    | noMessageInfo => exact absurd hfield (by decide)
    | noMessageId => exact absurd hfield (by decide)
    | noPartyInfo => exact absurd hfield (by decide)
    | noSide side => cases side <;> exact absurd hfield (by decide)
    | partyIdCount side => exact absurd hfield (hside side _)
    | partyIdType side => exact absurd hfield (hside side _)
    | noProperty name => exact absurd hfield (append_ne_of_not_prefixOf (by decide) name)
    | unofferedService service => exact ⟨service, rfl⟩
  · rintro ⟨service, rfl⟩
    rfl

namespace Profile

variable {profile : Profile} {mode : ProcessingMode}

/-- Nothing is found on the service of a leg exactly if the service is on offer. -/
theorem forField_leg_service_eq_nil_iff {number : Nat} {leg : Leg}
    (hmem : (number, leg) ∈ mode.legs) {service : String} (hservice : leg.service? = some service) :
    Findings.forField (profile.check (.mode mode))
        (legField number "business_information.service") = [] ↔ profile.OffersService service := by
  obtain ⟨position, rfl, hleg⟩ := (mode.mem_legs_iff_leg? number leg).mp hmem
  have hrule := profile.checkBusiness_ofRule position.number leg
  have hpath : Within (ModePart.block position .business).place
      (legField position.number "business_information.service") := by
    cases position <;> decide
  have hgroup : (ModePart.block position .business).groups.flatMap (profile.checkGroup mode) =
      profile.checkBusiness position.number leg := by
    simp [ModePart.groups, checkGroup, hleg, checkBlock]
  rw [check_mode, ← Findings.forField_filter_within _ hpath, filter_within_checkMode, hgroup,
    hrule.forField_self, hrule.eq_nil_iff]
  obtain ⟨business, hbusiness, hservice⟩ := Option.bind_eq_some_iff.mp hservice
  simp [hbusiness, hservice]

/-- Nothing is found on the service of a user message exactly if the message has no service that is
not on offer. -/
theorem forField_message_service_eq_nil_iff_no_fault (message : UserMessage) :
    Findings.forField (profile.check (.userMessage message)) "collaboration_info.service" = [] ↔
      ∀ service, ¬message.HasFault profile (.unofferedService service) := by
  rw [check_userMessage, checkUserMessage_eq_faults, Findings.forField, List.filter_eq_nil_iff,
    List.forall_mem_map]
  simp only [mem_faults_iff, UserMessageFault.finding, Finding.error, beq_iff_eq,
    UserMessageFault.field_eq_service_iff]
  constructor
  · intro hnone service hfault
    exact hnone _ hfault ⟨service, rfl⟩
  · rintro hnone fault hfault ⟨service, rfl⟩
    exact hnone service hfault

/-- Nothing is found on the service of a user message exactly if the service is on offer. -/
theorem forField_message_service_eq_nil_iff {message : UserMessage} {service : String}
    (hservice : message.service? = some service) :
    Findings.forField (profile.check (.userMessage message)) "collaboration_info.service" = [] ↔
      profile.OffersService service := by
  obtain ⟨collaboration, hcollaboration, hgiven⟩ := Option.bind_eq_some_iff.mp hservice
  rw [forField_message_service_eq_nil_iff_no_fault, OffersService]
  constructor
  · intro hnone
    by_contra hunoffered
    obtain ⟨hlisted, hnot⟩ := not_or.mp hunoffered
    exact hnone service (.unofferedService collaboration service hcollaboration hgiven hlisted hnot)
  · intro hoffered other hfault
    cases hfault with
    | unofferedService given _ hgivenCollaboration hother hlisted hnot =>
      obtain rfl : collaboration = given :=
        Option.some.inj (hcollaboration.symm.trans hgivenCollaboration)
      obtain rfl : service = other := Option.some.inj (hgiven.symm.trans hother)
      exact hoffered.elim hlisted hnot

/-- Pull requests are taken where the binding of an accepted mode involves pulling. -/
theorem Conforms.takes_pullRequest (hconforms : profile.Conforms mode)
    (hpull : mode.binding.involvesPull = true) (channel : Option String) :
    profile.SignalConforms (.pullRequest channel) :=
  ⟨mode.binding, hconforms.binding, hpull⟩

/-- Receipts are taken that are not to be repudiated exactly if a security block that conforms asks
for that. -/
theorem SecurityConforms.takes_receipt {security : Security}
    (hconforms : profile.SecurityConforms security) :
    profile.SignalConforms (.receipt (decide (security.nonRepudiation = .set true))) := by
  intro hdemanded
  have hmet := hconforms.nonRepudiation
  rw [hdemanded] at hmet
  exact decide_eq_true hmet

/-- Nothing is found on an identified signal message whose signal can be taken. -/
theorem check_signalMessage_eq_nil {message : SignalMessage} {signal : Signal}
    (hidentified : Identified message.messageInfo) (hsignal : message.signal = some signal)
    (hconforms : profile.SignalConforms signal) : profile.check (.signalMessage message) = [] :=
  (profile.checkSignalMessage_eq_nil_iff message).mpr ⟨hidentified, signal, hsignal, hconforms⟩

/-- The messages of an accepted mode are judged as the mode is. Nothing is found on the service of a
user message that is about the service of one of its legs. On any mode, whatever a leg and a user
message are about, something is found on the service of the one exactly if it is on that of the
other, which is where the profile lists services and this is none of them. Nothing at all is found
on a pull request where the binding of the mode involves pulling, nor on a receipt that is not to be
repudiated exactly if a leg with a security block asks for that. -/
theorem messages_agree_with_mode (haccepts : profile.Accepts mode) :
    (∀ number leg service message, (number, leg) ∈ mode.legs → leg.service? = some service →
      message.service? = some service →
        Findings.forField (profile.check (.userMessage message)) "collaboration_info.service" =
          []) ∧
    (∀ (other : ProcessingMode) number leg service message, (number, leg) ∈ other.legs →
      leg.service? = some service → message.service? = some service →
        (Findings.forField (profile.check (.mode other))
            (legField number "business_information.service") ≠ [] ↔
          Findings.forField (profile.check (.userMessage message)) "collaboration_info.service" ≠
            []) ∧
        (Findings.forField (profile.check (.userMessage message)) "collaboration_info.service" ≠
            [] ↔
          profile.allowedServices ≠ [] ∧ service ∉ profile.allowedServices)) ∧
    (mode.binding.involvesPull = true → ∀ (message : SignalMessage) channel,
      Identified message.messageInfo → message.signal = some (.pullRequest channel) →
        profile.check (.signalMessage message) = []) ∧
    (∀ number leg security, (number, leg) ∈ mode.legs → leg.security = some security →
      ∀ message : SignalMessage, Identified message.messageInfo →
        message.signal = some (.receipt (decide (security.nonRepudiation = .set true))) →
          profile.check (.signalMessage message) = []) := by
  have hconforms : profile.Conforms mode := (profile.accepts_iff_conforms mode).mp haccepts
  have hlegs {number : Nat} {leg : Leg} (hmem : (number, leg) ∈ mode.legs) :
      profile.LegConforms leg :=
    hconforms.legs leg (((mode.mem_legs_iff number leg).mp hmem).imp And.right And.right)
  refine ⟨?offered, ?alike, ?pullRequest, ?receipt⟩
  case offered =>
    intro number leg service message hmem hleg hmessage
    obtain ⟨business, hbusiness, hservice⟩ := Option.bind_eq_some_iff.mp hleg
    exact (forField_message_service_eq_nil_iff hmessage).mpr
      ((hlegs hmem).service business hbusiness service hservice)
  case alike =>
    intro other number leg service message hmem hleg hmessage
    rw [ne_eq, ne_eq, forField_leg_service_eq_nil_iff hmem hleg,
      forField_message_service_eq_nil_iff hmessage, OffersService, not_or]
    exact ⟨Iff.rfl, Iff.rfl⟩
  case pullRequest =>
    intro hpull message channel hidentified hsignal
    exact check_signalMessage_eq_nil hidentified hsignal (hconforms.takes_pullRequest hpull channel)
  case receipt =>
    intro number leg security hmem hsecurity message hidentified hsignal
    have hblock := (hlegs hmem).security security hsecurity
    exact check_signalMessage_eq_nil hidentified hsignal hblock.takes_receipt

/-- Where invoices are on offer, messages are pulled and receipts are not to be repudiated, a mode
about invoices is accepted and one about orders is not. Nothing is found on the service of a message
about invoices, and something is on that of a message about orders; pull requests and receipts that
are not to be repudiated are taken, and other receipts are not. -/
theorem messages_agree_with_mode_invoice :
    ∃ (profile : Profile) (mode other : ProcessingMode) (invoice order : UserMessage)
      (info : MessageInfo) (security : Security),
      profile.Accepts mode ∧ ¬profile.Accepts other ∧ mode.binding.involvesPull = true ∧
      mode.leg1.bind Leg.security = some security ∧ security.nonRepudiation = .set true ∧
      mode.leg1.bind Leg.service? = some "invoice" ∧ other.leg1.bind Leg.service? = some "order" ∧
      invoice.service? = some "invoice" ∧ order.service? = some "order" ∧
      Findings.forField (profile.check (.userMessage invoice)) "collaboration_info.service" = [] ∧
      Findings.forField (profile.check (.userMessage order)) "collaboration_info.service" ≠ [] ∧
      profile.check (.signalMessage ⟨some info, some (.pullRequest none)⟩) = [] ∧
      profile.check (.signalMessage ⟨some info, some (.receipt true)⟩) = [] ∧
      profile.check (.signalMessage ⟨some info, some (.receipt false)⟩) ≠ [] := by
  let profile : Profile :=
    { allowedBindings := [.pull], allowedServices := ["invoice"], nonRepudiation := .equals true }
  let security : Security := { nonRepudiation := .set true }
  let leg : Leg :=
    { protocol := some ⟨none, default⟩
      business := some { service := some "invoice" }
      security := some security }
  let orderLeg : Leg := { leg with business := some { service := some "order" } }
  let mode : ProcessingMode :=
    { id := ⟨"A-B", by decide⟩
      initiator := { idValue := "A", role := "r" }
      responder := { idValue := "B", role := "r" }
      pattern := .oneWay
      binding := .pull
      leg1 := some leg }
  let other : ProcessingMode := { mode with leg1 := some orderLeg }
  let invoice : UserMessage := { collaboration := some { service := some "invoice" } }
  let order : UserMessage := { collaboration := some { service := some "order" } }
  let info : MessageInfo := { messageId := some "m" }
  have haccepts : profile.Accepts mode := by decide +kernel
  have hidentified : Identified (some info) :=
    (checkMessageInfo_eq_nil_iff (some info)).mp (by decide +kernel)
  obtain ⟨hoffered, halike, hpull, hreceipt⟩ := profile.messages_agree_with_mode haccepts
  refine ⟨profile, mode, other, invoice, order, info, security, haccepts, by decide +kernel, rfl,
    rfl, rfl, rfl, rfl, rfl, rfl, ?offered, ?unoffered, ?pullRequest, ?receipt, by decide +kernel⟩
  case offered => exact hoffered 1 leg "invoice" invoice (by decide +kernel) rfl rfl
  case unoffered =>
    exact (halike other 1 orderLeg "order" order (by decide +kernel) rfl rfl).2.mpr (by decide)
  case pullRequest => exact hpull rfl ⟨some info, some (.pullRequest none)⟩ none hidentified rfl
  case receipt =>
    exact hreceipt 1 leg security (by decide +kernel) rfl ⟨some info, some (.receipt true)⟩
      hidentified rfl

end Profile

end Ebms
