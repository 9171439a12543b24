import BridgeCustody.Committee.Query
import BridgeCustody.Json.RoundTrip
import BridgeCustody.Ledger.Query
import BridgeCustody.Proofs.Ledger.World
import BridgeCustody.Proofs.Ledger.Solvency
import BridgeCustody.Proofs.Ledger.Refunds
import BridgeCustody.Proofs.Ledger.Authority
import BridgeCustody.Proofs.Committee.Minutes
import BridgeCustody.Proofs.Committee.History
import BridgeCustody.Proofs.Committee.Rounds
import BridgeCustody.Proofs.Ledger.Report
import BridgeCustody.Proofs.Ledger.Trail
import BridgeCustody.Proofs.Committee.WellFormed
import BridgeCustody.Proofs.Ledger.Budget
import BridgeCustody.Proofs.Committee.Windows
import BridgeCustody.Proofs.Ledger.Refusal
import BridgeCustody.Proofs.Ledger.Apart
import BridgeCustody.Proofs.Ledger.Pauses
import BridgeCustody.Proofs.Ledger.PauseHistory
import BridgeCustody.Proofs.Ledger.Roles
import BridgeCustody.Proofs.Ledger.Deletion
import BridgeCustody.Proofs.Ledger.SwapIds
import BridgeCustody.Proofs.Ledger.Caps
import BridgeCustody.Proofs.Ledger.Eons
import BridgeCustody.Proofs.Ledger.Payout
import BridgeCustody.Proofs.Ledger.Outgoing
import BridgeCustody.Proofs.Ledger.Limits
import BridgeCustody.Proofs.Ledger.Headroom
import BridgeCustody.Proofs.Ledger.Principals
import BridgeCustody.Proofs.Committee.Roster
import BridgeCustody.Proofs.Places
import BridgeCustody.Proofs.Messages
import BridgeCustody.Proofs.Conditions
import BridgeCustody.Proofs.Ledger.Conditions
import BridgeCustody.Proofs.Ledger.Swapping
import BridgeCustody.Proofs.Ledger.Relaying
import BridgeCustody.Proofs.Ledger.Entrances
import BridgeCustody.Proofs.Ledger.Undoing
import BridgeCustody.Proofs.Ledger.Commuting
import BridgeCustody.Proofs.Ledger.Pages
import BridgeCustody.Proofs.Committee.Conditions
import BridgeCustody.Proofs.Committee.Calls
import BridgeCustody.Proofs.Committee.Foretelling
import BridgeCustody.Proofs.Ledger.Excess
import BridgeCustody.Proofs.Ledger.Emptying
import BridgeCustody.Proofs.Admission
import BridgeCustody.Proofs.Ledger.Deployment
import BridgeCustody.Proofs.Committee.Founding
