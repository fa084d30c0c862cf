import TxLoad.Main
import TxLoad.Scheduler
import TxLoad.Dispatch.Run.Admission
import TxLoad.Dispatch.Run.Sending
import TxLoad.Dispatch.Run.Step
import TxLoad.Funding.Funder
import TxLoad.Metrics
import TxLoad.Network.Receipt
import TxLoad.Simulation.Calls
import TxLoad.Simulation.Funding
import TxLoad.Simulation.Running
import TxLoad.Simulation.Syncing
import TxLoad.Settings.Strict
import TxLoad.Proofs.Lists
import TxLoad.Proofs.Run.Trace
import TxLoad.Proofs.Run.Move
import TxLoad.Proofs.Run.Standing
import TxLoad.Proofs.Run.Ending
import TxLoad.Proofs.Run.Ledger
import TxLoad.Proofs.Run.Slots
import TxLoad.Proofs.Run.Quota
import TxLoad.Proofs.Run.Pacing
import TxLoad.Proofs.Run.Nonces
import TxLoad.Proofs.Run.NonceOrder
import TxLoad.Proofs.Run.Gaps
import TxLoad.Proofs.Run.Settlement
import TxLoad.Proofs.Run.Raising
import TxLoad.Proofs.Run.Alerts
import TxLoad.Proofs.Run.Stalling
import TxLoad.Proofs.Run.Effort
import TxLoad.Proofs.Run.Played
import TxLoad.Proofs.Run.Timetable
import TxLoad.Proofs.Run.Verdicts
import TxLoad.Proofs.Funding.Trace
import TxLoad.Proofs.Funding.Move
import TxLoad.Proofs.Funding.Solvency
import TxLoad.Proofs.Funding.Contiguity
import TxLoad.Proofs.Funding.Played
import TxLoad.Proofs.Pool.Rotation
import TxLoad.Proofs.Pool.Checking
import TxLoad.Proofs.Funding.Numbering
import TxLoad.Proofs.Funding.Transition
import TxLoad.Proofs.Funding.Commitment
import TxLoad.Proofs.Funding.Endings
import TxLoad.Proofs.Funding.Tasks
import TxLoad.Proofs.Funding.Progress
import TxLoad.Proofs.Funding.Value
import TxLoad.Proofs.Funding.TopUp
import TxLoad.Proofs.Funding.Alone
import TxLoad.Proofs.Funding.Solo
import TxLoad.Proofs.Funding.Exits
import TxLoad.Proofs.Text.Trimming
import TxLoad.Proofs.Url.Normalization
import TxLoad.Proofs.Transaction.Encoding
import TxLoad.Proofs.Transaction.Raw
import TxLoad.Proofs.Settings.Validation
import TxLoad.Proofs.Amount.Numeral
import TxLoad.Proofs.Amount.Reading
import TxLoad.Proofs.Amount.Writing
import TxLoad.Proofs.Network.Searching
import TxLoad.Proofs.Fee.Suggestion
import TxLoad.Proofs.Syncing.Execution
import TxLoad.Proofs.Syncing.Played
import TxLoad.Proofs.Waiting.Backoff
import TxLoad.Proofs.Waiting.Cadence
import TxLoad.Proofs.Settings.Readiness
import TxLoad.Proofs.Url.Listing
import TxLoad.Proofs.Settings.Arguments
import TxLoad.Proofs.Settings.Hosts
import TxLoad.Proofs.Network.Naming
import TxLoad.Proofs.Wallet.Derivation
import TxLoad.Proofs.Settings.Flags
import TxLoad.Proofs.Settings.Precedence
