import Ebms.Conformance.Subject
import Ebms.Registration
import Ebms.Registry
import Ebms.Store.Directory
import Ebms.Store.Memory
import Ebms.Proofs.Findings
import Ebms.Proofs.Scheme
import Ebms.Proofs.Conformance.Adds
import Ebms.Proofs.Conformance.Rules.Leg
import Ebms.Proofs.Conformance.Rules.Mode
import Ebms.Proofs.Conformance.Rules.Message
import Ebms.Proofs.Conformance.Rules.Subject
import Ebms.Proofs.Conformance.Leg
import Ebms.Proofs.Conformance.Mode
import Ebms.Proofs.Conformance.Place
import Ebms.Proofs.Proposal
import Ebms.Proofs.Registration
import Ebms.Proofs.Conformance.Message
import Ebms.Proofs.Strictness
import Ebms.Proofs.Naming
import Ebms.Proofs.Decimal
import Ebms.Proofs.Json.Tokens
import Ebms.Proofs.Json.Document
import Ebms.Proofs.Json.Codec
import Ebms.Proofs.Json.Record
import Ebms.Proofs.RoundTrip
import Ebms.Proofs.Sorting
import Ebms.Proofs.Store.Directory
import Ebms.Proofs.Store.Interruption
import Ebms.Proofs.Store.Refinement
import Ebms.Proofs.Store.History
import Ebms.Proofs.Store.Consistency
import Ebms.Proofs.Conformance.Fault
import Ebms.Proofs.Conformance.Mandate
import Ebms.Proofs.EmptyList
import Ebms.Proofs.Offer
import Ebms.Proofs.Conformance.Part
import Ebms.Proofs.Conformance.Agreement
import Ebms.Proofs.Pairs
import Ebms.Proofs.Json.Omission
import Ebms.Proofs.Store.Proposal
import Ebms.Proofs.Store.Content
import Ebms.Proofs.Omission.Profile
import Ebms.Proofs.Omission.Mode
import Ebms.Proofs.Omission.Flag
import Ebms.Proofs.Conformance.Severity
import Ebms.Proofs.Conformance.Ledger
import Ebms.Proofs.Conformance.Deviation
import Ebms.Proofs.Conformance.Address
import Ebms.Proofs.Conformance.Path
import Ebms.Proofs.Conformance.Number
import Ebms.Proofs.Normal
import Ebms.Proofs.Spelling
import Ebms.Proofs.Conformance.Advice
import Ebms.Proofs.Trace
import Ebms.Proofs.Timestamp
import Ebms.Proofs.Message
import Ebms.Proofs.Conformance.Scheme
import Ebms.Proofs.Registry
