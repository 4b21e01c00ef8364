import Stablecoin.Holdings
import Stablecoin.Text.Blank
import Stablecoin.Text.Lowercase
import Stablecoin.Text.Graphic
import Stablecoin.Json.Printer
import Stablecoin.Json.Reader
import Stablecoin.Json.Decoding
import Stablecoin.Text.Base64
import Stablecoin.Text.Description
import Stablecoin.TargetPrice
import Stablecoin.Policy.Message
import Stablecoin.Policy.Basic
import Stablecoin.Ledger.Error
import Stablecoin.Ledger.Message
import Stablecoin.Ledger.Execute
import Stablecoin.Ledger.Client
import Stablecoin.Account.Execute
import Stablecoin.Account.Query
import Stablecoin.Chain.Transaction
import Stablecoin.Chain.Script
import Stablecoin.Proofs.Movement
import Stablecoin.Proofs.Rounding
import Stablecoin.Proofs.Crawl
import Stablecoin.Proofs.Backend
import Stablecoin.Proofs.Venue
import Stablecoin.Proofs.Ledger.Step
import Stablecoin.Proofs.Ledger.Run
import Stablecoin.Proofs.Ledger.Supply
import Stablecoin.Proofs.Ledger.Minters
import Stablecoin.Proofs.Ledger.History
import Stablecoin.Proofs.Ledger.Accounting
import Stablecoin.Proofs.Ledger.Allowances
import Stablecoin.Proofs.Ledger.Settlement
import Stablecoin.Proofs.Ledger.Sound
import Stablecoin.Proofs.Ledger.Registry
import Stablecoin.Proofs.Ledger.Gate
import Stablecoin.Proofs.Account.Step
import Stablecoin.Proofs.Account.Valuation
import Stablecoin.Proofs.Account.Payout
import Stablecoin.Proofs.Account.Progress
import Stablecoin.Proofs.Account.Default
import Stablecoin.Proofs.Account.Awaited
import Stablecoin.Proofs.Account.Fee
import Stablecoin.Proofs.Account.Slippage
import Stablecoin.Proofs.Account.Resubmission
import Stablecoin.Proofs.Account.StatedValue
import Stablecoin.Proofs.Chain.Run
import Stablecoin.Proofs.Chain.Joint
import Stablecoin.Proofs.Chain.Debt
import Stablecoin.Proofs.Chain.View
import Stablecoin.Proofs.Chain.Withdrawal
import Stablecoin.Proofs.Chain.Liquidation
import Stablecoin.Proofs.Chain.Events
import Stablecoin.Proofs.Chain.Replies
import Stablecoin.Proofs.Chain.Fee
import Stablecoin.Proofs.Chain.Default
import Stablecoin.Proofs.Chain.Slippage
import Stablecoin.Proofs.Chain.Progress
import Stablecoin.Proofs.Chain.Resubmission
import Stablecoin.Proofs.Chain.Standing
import Stablecoin.Proofs.Chain.WindDown
import Stablecoin.Proofs.Chain.StatedValue
import Stablecoin.Proofs.Chain.DebtMoves
import Stablecoin.Proofs.Ledger.Commute
import Stablecoin.Proofs.Chain.Loan
import Stablecoin.Proofs.Chain.RoundTrip
import Stablecoin.Proofs.Chain.Splitting
import Stablecoin.Proofs.Ledger.Inert
import Stablecoin.Proofs.Account.Inert
import Stablecoin.Proofs.Chain.SideBySide
import Stablecoin.Proofs.Chain.Questions
import Stablecoin.Proofs.Account.Pause
import Stablecoin.Proofs.Chain.Unpaused
import Stablecoin.Proofs.Chain.Pause
import Stablecoin.Proofs.Faults
import Stablecoin.Proofs.Ledger.Roles
import Stablecoin.Proofs.Ledger.Prices
import Stablecoin.Proofs.Ledger.Faults
import Stablecoin.Proofs.Account.Faults
import Stablecoin.Proofs.Account.Roles
import Stablecoin.Proofs.Chain.Failures
import Stablecoin.Proofs.Chain.Prices
import Stablecoin.Proofs.Chain.Range
import Stablecoin.Proofs.Chain.Roles
import Stablecoin.Proofs.Ledger.Refusals
import Stablecoin.Proofs.Ledger.MintTable
import Stablecoin.Proofs.Policy.History
import Stablecoin.Proofs.Chain.Screening
import Stablecoin.Proofs.Chain.Inert
import Stablecoin.Proofs.Chain.Noninterference
import Stablecoin.Proofs.Account.Threshold
import Stablecoin.Proofs.Ledger.PegGate
import Stablecoin.Proofs.Chain.Investment
import Stablecoin.Proofs.Conversion
import Stablecoin.Proofs.Chain.Custody
import Stablecoin.Proofs.Chain.Swaps
import Stablecoin.Proofs.Chain.Proceeds
import Stablecoin.Proofs.Chain.BuyBack
