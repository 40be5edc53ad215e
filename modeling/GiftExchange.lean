import GiftExchange.Main
import GiftExchange.Document.Settings
import GiftExchange.Proofs.Pairing
import GiftExchange.Proofs.Violation
import GiftExchange.Proofs.Verdict
import GiftExchange.Proofs.Generation
import GiftExchange.Proofs.Fairness
import GiftExchange.Proofs.Counting
import GiftExchange.Proofs.Relaxation
import GiftExchange.Proofs.Effort
import GiftExchange.Proofs.OrganizerOnly
import GiftExchange.Proofs.Addresses
import GiftExchange.Proofs.Dispatch
import GiftExchange.Proofs.Service
import GiftExchange.Proofs.Lifecycle
import GiftExchange.Proofs.Reachable
import GiftExchange.Proofs.Restriction
import GiftExchange.Proofs.Retry
import GiftExchange.Proofs.Failure
import GiftExchange.Proofs.Stage
import GiftExchange.Proofs.Members
import GiftExchange.Proofs.Errors
import GiftExchange.Proofs.Problems
import GiftExchange.Proofs.AddressPattern
import GiftExchange.Proofs.Secrecy
import GiftExchange.Proofs.Discretion
import GiftExchange.Proofs.Id
import GiftExchange.Proofs.Json.Value
import GiftExchange.Proofs.Json.Decoder
import GiftExchange.Proofs.Document.Exchange
import GiftExchange.Proofs.Document.Pairing
import GiftExchange.Proofs.Document.Settings
import GiftExchange.Proofs.Journal
import GiftExchange.Proofs.Fallback
import GiftExchange.Proofs.Batch
import GiftExchange.Proofs.Conflicts
import GiftExchange.Proofs.Renaming
import GiftExchange.Proofs.Foreseen
import GiftExchange.Proofs.RenamedExchange
import GiftExchange.Proofs.Demo
import GiftExchange.Proofs.Text.Wrap
import GiftExchange.Proofs.Text.Breaks
import GiftExchange.Proofs.Request
import GiftExchange.Proofs.Removal
import GiftExchange.Proofs.Text.Division
import GiftExchange.Proofs.Recording
import GiftExchange.Proofs.Attempts
import GiftExchange.Proofs.Startup
