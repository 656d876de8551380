import LedgerFlow.Amount
import LedgerFlow.Arguments
import LedgerFlow.Assembly.Transaction
import LedgerFlow.Assembly.Workspace
import LedgerFlow.Balance
import LedgerFlow.Binary64.Basic
import LedgerFlow.Binary64.Shortest
import LedgerFlow.Bridge.Assignment
import LedgerFlow.Bridge.Encoding
import LedgerFlow.Bridge.Execution
import LedgerFlow.Bridge.Retry
import LedgerFlow.Bridge.Route
import LedgerFlow.Bridge.Status
import LedgerFlow.Chain
import LedgerFlow.Client.Answer
import LedgerFlow.Client.Connection
import LedgerFlow.Client.Ledger
import LedgerFlow.Client.Routing
import LedgerFlow.Coin.Pool
import LedgerFlow.Coin.Wallet
import LedgerFlow.Condition
import LedgerFlow.Decimal.Arith
import LedgerFlow.Decimal.Basic
import LedgerFlow.Decimal.Digits
import LedgerFlow.Decimal.Power
import LedgerFlow.Decimal.Text
import LedgerFlow.Error
import LedgerFlow.Graph.Decode
import LedgerFlow.Graph.Encoding
import LedgerFlow.Graph.FlowGraph
import LedgerFlow.Graph.Node
import LedgerFlow.Graph.Order
import LedgerFlow.Graph.RunMerge
import LedgerFlow.Graph.RunSort
import LedgerFlow.Graph.Traversal
import LedgerFlow.Graph.View
import LedgerFlow.Json.Access
import LedgerFlow.Json.Basic
import LedgerFlow.Json.Parser
import LedgerFlow.Json.Printer
import LedgerFlow.Log.Logger
import LedgerFlow.Log.Template
import LedgerFlow.Names
import LedgerFlow.Names.Resolution
import LedgerFlow.Number
import LedgerFlow.Plan
import LedgerFlow.Program
import LedgerFlow.Protocol.Exchange
import LedgerFlow.Protocol.LiquidStaking
import LedgerFlow.Protocol.MoveCall
import LedgerFlow.Protocol.Native
import LedgerFlow.Protocol.Navi
import LedgerFlow.Protocol.Registry
import LedgerFlow.Protocol.Scallop
import LedgerFlow.Protocol.Setting
import LedgerFlow.Rehearsal
import LedgerFlow.Rehearsal.Script
import LedgerFlow.Run
import LedgerFlow.Runner
import LedgerFlow.Schema.Checked
import LedgerFlow.Schema.Integer
import LedgerFlow.Schema.Issue
import LedgerFlow.Schema.Scalar
import LedgerFlow.Settings
import LedgerFlow.Text.Blank
import LedgerFlow.Text.Case
import LedgerFlow.Text.CaseTable
import LedgerFlow.Text.Composition
import LedgerFlow.Text.CompositionTable
import LedgerFlow.Text.DecimalDigit
import LedgerFlow.Text.Encoding
import LedgerFlow.Text.Integer
import LedgerFlow.Text.Point
import LedgerFlow.Text.Quoted
import LedgerFlow.Text.UnprintableTable
import LedgerFlow.Token
import LedgerFlow.Transaction
import LedgerFlow.Transaction.Encoding
import LedgerFlow.Validation
import LedgerFlow.Web.Address
import LedgerFlow.Web.HostName
import LedgerFlow.Web.Label
import LedgerFlow.Web.LabelTable
import LedgerFlow.Web.Percent
import LedgerFlow.Web.Punycode
import LedgerFlow.Web.Url
import LedgerFlow.Proofs.Exchange
import LedgerFlow.Proofs.Assembly.Requests
import LedgerFlow.Proofs.Bridge.Attempt
import LedgerFlow.Proofs.Bridge.Scope
import LedgerFlow.Proofs.Bridge.SourceTransaction
import LedgerFlow.Proofs.Bridge.Retries
import LedgerFlow.Proofs.Bridge.Results
import LedgerFlow.Proofs.Run.Preparation
import LedgerFlow.Proofs.Run.Submission
import LedgerFlow.Proofs.Assembly.Operations
import LedgerFlow.Proofs.Redemption.Assembled
import LedgerFlow.Proofs.Replay.Assembled
import LedgerFlow.Proofs.Condition.Marks
import LedgerFlow.Proofs.Run.Phases
import LedgerFlow.Proofs.Wallet.Counters
import LedgerFlow.Proofs.Wallet.PoolFirst
import LedgerFlow.Proofs.Assembly.Segments
import LedgerFlow.Proofs.Names.Recipients
import LedgerFlow.Proofs.Bridge.Destination
import LedgerFlow.Proofs.Validation.Coverage
import LedgerFlow.Proofs.Run.Committed
import LedgerFlow.Proofs.Bridge.Interruption
import LedgerFlow.Proofs.Bridge.Completion
import LedgerFlow.Proofs.Condition.Escapes
import LedgerFlow.Proofs.Graph.RunMerge
import LedgerFlow.Proofs.Graph.RunSort
import LedgerFlow.Proofs.Graph.Siblings
import LedgerFlow.Proofs.Plan.Arrangement
import LedgerFlow.Proofs.Decimal.Rounding
import LedgerFlow.Proofs.Decimal.Operations
import LedgerFlow.Proofs.Decimal.Quotients
import LedgerFlow.Proofs.Graph.RunMap
import LedgerFlow.Proofs.Plan.Redrawn
import LedgerFlow.Proofs.Balance.Spending
import LedgerFlow.Proofs.Balance.Estimates
import LedgerFlow.Proofs.Assembly.Endings
import LedgerFlow.Proofs.Redemption.Sufficiency
import LedgerFlow.Proofs.Run.Sessions
import LedgerFlow.Proofs.Plan.Chains
import LedgerFlow.Proofs.Assembly.Outlays
import LedgerFlow.Proofs.Assembly.Purse
import LedgerFlow.Proofs.Assembly.Settlement
import LedgerFlow.Proofs.Balance.Agreement
import LedgerFlow.Proofs.Graph.Worklist
import LedgerFlow.Proofs.Names.FirstUses
import LedgerFlow.Proofs.Graph.Bands
import LedgerFlow.Proofs.Assembly.Shortfalls
import LedgerFlow.Proofs.Decimal.WholePart
import LedgerFlow.Proofs.Decimal.Numerals
import LedgerFlow.Proofs.Token.Conversion
import LedgerFlow.Proofs.Condition.Comparisons
import LedgerFlow.Proofs.Validation.Verdicts
import LedgerFlow.Proofs.Wallet.FewestCoins
import LedgerFlow.Proofs.Client.Listings
