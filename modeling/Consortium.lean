import Consortium.Binary.Codec
import Consortium.Binary.Identity
import Consortium.Binary.Ledger
import Consortium.Bytes.Basic
import Consortium.Bytes.Hex
import Consortium.Config.Service
import Consortium.Config.Use
import Consortium.Contract.Error
import Consortium.Contract.Group
import Consortium.Contract.Initiator
import Consortium.Contract.Membership
import Consortium.Contract.Registry
import Consortium.Contract.Structure
import Consortium.Crypto.Blake2b
import Consortium.Crypto.Curve
import Consortium.Crypto.Ed25519
import Consortium.Crypto.Field
import Consortium.Crypto.Sha512
import Consortium.Crypto.Standard
import Consortium.Crypto.Suite
import Consortium.Crypto.Word
import Consortium.Identity.Business
import Consortium.Identity.Error
import Consortium.Identity.Key
import Consortium.Identity.LinearId
import Consortium.Identity.NetworkId
import Consortium.Identity.Party
import Consortium.Identity.Role
import Consortium.Identity.Uuid
import Consortium.Json.Codec
import Consortium.Json.Identity
import Consortium.Json.Ledger
import Consortium.Json.Literal
import Consortium.Json.Reader
import Consortium.Json.Value
import Consortium.Ledger.Command
import Consortium.Ledger.Hash
import Consortium.Ledger.State
import Consortium.Ledger.Transaction
import Consortium.Lock.Environment
import Consortium.Lock.Key
import Consortium.Lock.Page
import Consortium.Lock.PageFile
import Consortium.Lock.PageTree
import Consortium.Lock.Request
import Consortium.Lock.Store
import Consortium.Lock.Table
import Consortium.Network.Batch
import Consortium.Network.Bootstrap
import Consortium.Network.Error
import Consortium.Network.Faults
import Consortium.Network.Group
import Consortium.Network.Ledger
import Consortium.Network.Phase
import Consortium.Network.Plan
import Consortium.Network.Platform
import Consortium.Network.Request
import Consortium.Network.Task
import Consortium.Network.Transition
import Consortium.Ordered.Basic
import Consortium.Ordered.Map
import Consortium.Ordered.Set
import Consortium.Proofs.Binary.RoundTrip
import Consortium.Proofs.Binary.Stored
import Consortium.Proofs.Contract.Group
import Consortium.Proofs.Contract.Initiator
import Consortium.Proofs.Contract.Lineage
import Consortium.Proofs.Contract.Membership
import Consortium.Proofs.Contract.Perspective
import Consortium.Proofs.Contract.Signers
import Consortium.Proofs.Contract.Authority
import Consortium.Proofs.Contract.Bootstrap
import Consortium.Proofs.Contract.Registry
import Consortium.Proofs.Contract.Structure
import Consortium.Proofs.Contract.Verdict
import Consortium.Proofs.Crypto.Transparent
import Consortium.Proofs.Lock.Contents
import Consortium.Proofs.Lock.Occupancy
import Consortium.Proofs.Network.Authority
import Consortium.Proofs.Network.Contention
import Consortium.Proofs.Network.Custody
import Consortium.Proofs.Network.Distinct
import Consortium.Proofs.Network.Founding
import Consortium.Proofs.Network.GroupIds
import Consortium.Proofs.Network.GroupNames
import Consortium.Proofs.Network.History
import Consortium.Proofs.Network.Locking
import Consortium.Proofs.Network.Memberships
import Consortium.Proofs.Network.Plan
import Consortium.Proofs.Network.Proposal
import Consortium.Proofs.Network.Race
import Consortium.Proofs.Network.Record
import Consortium.Proofs.Network.Session
import Consortium.Proofs.Network.Traffic
import Consortium.Text.Blank
import Consortium.Text.Digit
import Consortium.Text.Quoted
import Consortium.Time.Duration
import Consortium.Time.Timestamp
import Consortium.Toml.Literal
import Consortium.Toml.Moment
import Consortium.Toml.Number
import Consortium.Toml.Reader
import Consortium.Toml.Style
import Consortium.Toml.Table
import Consortium.Proofs.Contract.Contents
import Consortium.Proofs.Contract.Acceptance
import Consortium.Proofs.Contract.FixedRules
import Consortium.Proofs.Network.Consumption
import Consortium.Proofs.Lock.Reversal
import Consortium.Proofs.Network.Failure
import Consortium.Proofs.Lock.Room
import Consortium.Proofs.Lock.Agreement
import Consortium.Proofs.Lock.Tenure
import Consortium.Proofs.Contract.Endorsement
import Consortium.Proofs.Contract.Refusal
import Consortium.Proofs.Identity.Spelling
import Consortium.Proofs.Network.Interleaving
import Consortium.Proofs.Network.NaturalKeys
import Consortium.Proofs.Network.Standoff
import Consortium.Proofs.Network.Cosigning
import Consortium.Proofs.Network.Drafts
import Consortium.Proofs.Network.Issuance
import Consortium.Proofs.Network.Rejection
import Consortium.Proofs.Network.Conduct
import Consortium.Proofs.Network.Faultless
import Consortium.Proofs.Network.Outsiders
import Consortium.Proofs.Json.Literal
import Consortium.Proofs.Json.Text
import Consortium.Proofs.Json.RoundTrip
import Consortium.Proofs.Contract.Approval
import Consortium.Proofs.Network.Completion
import Consortium.Proofs.Network.Settlement
import Consortium.Proofs.Network.Transitions
import Consortium.Proofs.Network.Groups
import Consortium.Proofs.Lock.Reconciliation
import Consortium.Proofs.Network.Entry
import Consortium.Proofs.Network.Collection
import Consortium.Proofs.Network.Batch
import Consortium.Proofs.Ledger.Signing
import Consortium.Proofs.Text.Digit
import Consortium.Proofs.Toml.Literal
import Consortium.Proofs.Toml.Document
import Consortium.Proofs.Config.RoundTrip
import Consortium.Proofs.Bytes.Hex
import Consortium.Proofs.Identity.Label
import Consortium.Proofs.Ledger.Order
import Consortium.Proofs.Ledger.Canonical
import Consortium.Proofs.Network.Adherence
import Consortium.Proofs.Config.Founding
