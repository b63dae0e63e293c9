import Gatekeeper.Action
import Gatekeeper.Action.Document
import Gatekeeper.ActionKind
import Gatekeeper.Activity
import Gatekeeper.Breaker
import Gatekeeper.Captcha
import Gatekeeper.Challenge
import Gatekeeper.Challenges
import Gatekeeper.Config
import Gatekeeper.Config.Document
import Gatekeeper.Config.Toml
import Gatekeeper.Decimal.Layout
import Gatekeeper.Decimal.Shortest
import Gatekeeper.Digest.Sha256
import Gatekeeper.Document
import Gatekeeper.Document.Decode
import Gatekeeper.Duplicates
import Gatekeeper.Event
import Gatekeeper.Failure
import Gatekeeper.Fingerprint
import Gatekeeper.Gate
import Gatekeeper.Gate.Holding
import Gatekeeper.Gate.Run
import Gatekeeper.Gate.Sweep
import Gatekeeper.Json
import Gatekeeper.JsonText
import Gatekeeper.Metrics
import Gatekeeper.Payload
import Gatekeeper.Permissions
import Gatekeeper.Proofs.Alike
import Gatekeeper.Rejection
import Gatekeeper.Rule
import Gatekeeper.Rule.Document
import Gatekeeper.Settings
import Gatekeeper.SortedMap
import Gatekeeper.Store.Guarded
import Gatekeeper.Store.Interface
import Gatekeeper.Store.Keyed
import Gatekeeper.Store.Memory
import Gatekeeper.Store.Outage
import Gatekeeper.Text.Blank
import Gatekeeper.Text.Hex
import Gatekeeper.Time
import Gatekeeper.Toml.Lexical
import Gatekeeper.Toml.Number
import Gatekeeper.Toml.Outline
import Gatekeeper.Toml.Table
import Gatekeeper.Toml.Text
import Gatekeeper.Proofs.Correspondence
import Gatekeeper.Proofs.Parts
import Gatekeeper.Proofs.Mediation
import Gatekeeper.Proofs.Memory
import Gatekeeper.Proofs.InFlight
import Gatekeeper.Proofs.Marks
import Gatekeeper.Proofs.Footprint
import Gatekeeper.Proofs.RateLimit
import Gatekeeper.Proofs.Upkeep
import Gatekeeper.Proofs.Session
import Gatekeeper.Proofs.Admissions
import Gatekeeper.Proofs.CounterHistory
import Gatekeeper.Proofs.TurnedAway
import Gatekeeper.Proofs.Separation
import Gatekeeper.Proofs.Bystanders
import Gatekeeper.Proofs.SingleUse
import Gatekeeper.Proofs.SameRequest
import Gatekeeper.Proofs.Faultless
import Gatekeeper.Proofs.ConfigText
import Gatekeeper.Proofs.BreakerHistory
import Gatekeeper.Proofs.Authority
import Gatekeeper.Proofs.StoreVisits
import Gatekeeper.Proofs.PacedOperations
import Gatekeeper.Proofs.LeftAlone
import Gatekeeper.Proofs.Books
import Gatekeeper.Proofs.Chronicles
import Gatekeeper.Proofs.RejectionCounts
import Gatekeeper.Proofs.Usage
import Gatekeeper.Proofs.LogAgreement
import Gatekeeper.Proofs.Accounts
import Gatekeeper.Proofs.Balance
import Gatekeeper.Proofs.Circuits
import Gatekeeper.Proofs.Aftermath
import Gatekeeper.Proofs.TextOrder
import Gatekeeper.Proofs.Verdicts
import Gatekeeper.Proofs.CheckOrder
import Gatekeeper.Proofs.Validity
import Gatekeeper.Proofs.JsonRoundTrip
import Gatekeeper.Proofs.RightAnswer
import Gatekeeper.Proofs.BeyondHorizon
import Gatekeeper.Proofs.Sweeping
import Gatekeeper.Proofs.RecordForms
import Gatekeeper.Proofs.Omissions
import Gatekeeper.Proofs.LeftOut
import Gatekeeper.Proofs.ActionNames
import Gatekeeper.Proofs.FreshIdentifiers
import Gatekeeper.Proofs.Exemptions
