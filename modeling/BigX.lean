import BigX.Run.Trace
import BigX.Run.Tally
import BigX.Run.Quorum
import BigX.Run.Latest
import BigX.Run.Attempts
import BigX.Run.Credits
import BigX.Run.Pool
import BigX.Run.DailyMeter
import BigX.Run.Window
import BigX.Run.Project
import BigX.Run.Outcome
import BigX.Run.Inventory
import BigX.Run.Callers
import BigX.Heapq.Heap
import BigX.Links.Acyclic
import BigX.Redis.Store
import BigX.Redis.SortedSet
import BigX.Evm.Word
import BigX.Evm.CallStack
import BigX.Evm.Undo
import BigX.Evm.Journal
import BigX.Evm.AccessControl
import BigX.Evm.Enumerable
import BigX.Evm.Erc20
import BigX.Evm.Erc721
import BigX.Evm.Abi
import BigX.Bridge.Contract
import BigX.Bridge.Steps
import BigX.Bridge.EventLog
import BigX.Listener.Receipts
import BigX.Bridge.MockWbtc
import BigX.Bridge.Relayers
import BigX.Bridge.PegIn
import BigX.Bridge.PegOut
import BigX.Bridge.Ledger
import BigX.Bridge.DailyCap
import BigX.Bridge.Liveness
import BigX.Bridge.Releases
import BigX.Revenue.Contract
import BigX.Revenue.Conservation
import BigX.Revenue.OnRecord
import BigX.Nft.Contract
import BigX.Nft.Enumerable
import BigX.Nft.Transfers
import BigX.Nft.Steps
import BigX.Nft.Royalty
import BigX.Nft.VerifierKept
import BigX.Market.Contract
import BigX.Market.Steps
import BigX.Market.VerifierGate
import BigX.Market.Listings
import BigX.Market.Payments
import BigX.Market.Conservation
import BigX.Market.Settleable
import BigX.Registry.Capability
import BigX.Registry.Contract
import BigX.Registry.OnRecord
import BigX.Registry.Steps
import BigX.Registry.Lifecycle
import BigX.Registry.Soundness
import BigX.Registry.HighRisk
import BigX.Registry.Masks
import BigX.Registry.Pages
import BigX.World.Contract
import BigX.World.OwnerRights
import BigX.World.OwnershipCycles
import BigX.Policy.Contract
import BigX.Policy.Steps
import BigX.Policy.EventLog
import BigX.Policy.Limits
import BigX.Policy.Preflight
import BigX.Policy.Replay
import BigX.Policy.TwoStep
import BigX.Policy.Executors
import BigX.Policy.Overspend
import BigX.Policy.Standing
import BigX.Policy.Approvals
import BigX.Account.Contract
import BigX.Account.Enforcement
import BigX.Amqp.Broker
import BigX.Messaging.Consumer
import BigX.Messaging.Integrity
import BigX.Messaging.NoLoss
import BigX.Messaging.EffectivelyOnce
import BigX.Messaging.Fleet
import BigX.Messaging.Shares
import BigX.Messaging.Isolation
import BigX.Pipeline.Resilience
import BigX.Pipeline.Execution
import BigX.Pipeline.Planning
import BigX.Pipeline.AgentGraph
import BigX.Pipeline.TrueRecords
import BigX.Pipeline.PolicyGate
import BigX.Pipeline.PaidOnce
import BigX.Pipeline.Frames
import BigX.Pipeline.FailedReplan
import BigX.Pipeline.Completion
import BigX.Pipeline.Termination
import BigX.Wallet.TransactionQueue
import BigX.Orchestrator.Agents
import BigX.Orchestrator.Graph
import BigX.Gateway.Siwe
import BigX.Wallet.NonceManager
import BigX.Wallet.DistinctNonces
import BigX.Wallet.HumanApproval
import BigX.Wallet.ApprovalHash
import BigX.Blockchain.ContractClient
import BigX.Blockchain.ClientThreads
import BigX.Blockchain.SendOnce
import BigX.Custody.Monitor
import BigX.Custody.Attested
import BigX.Custody.Bridged
import BigX.Custody.Redeemed
import BigX.Custody.Redemption
import BigX.Custody.PaidOut
import BigX.Gateway.Purchase
import BigX.Gateway.SaleRace
import BigX.Text.Wrap
import BigX.Text.Field
import BigX.Guardrail.Checks
import BigX.Guardrail.Patterns
import BigX.Gateway.ApprovedText
import BigX.Wallet.SessionKeys
import BigX.Wallet.SpendLimits
import BigX.Wallet.ApprovalDecisions
import BigX.Backend.Siwe
import BigX.Gateway.NonceClash
import BigX.Backend.Marketplace
import BigX.Guardrail.RateLimit
import BigX.Shared.RateLimit
import BigX.Infra.Counters
import BigX.Infra.FixedWindow
import BigX.Infra.NftLock
import BigX.Reasoning.ToolSelector
import BigX.Recovery.CountChecks
import BigX.ToolRouter.BridgesKept
import BigX.Notification.Survival
import BigX.Notification.Mentions
import BigX.Pipeline.BreakerHistory
import BigX.Pipeline.SharedBreaker
import BigX.Wallet.MpcWallet
import BigX.Pipeline.ServiceBreaker
import BigX.Pipeline.WorkflowRecords
import BigX.Blockchain.NonceGaps
import BigX.Wallet.Confirmations
import BigX.Wallet.Reorgs
import BigX.Wallet.QueueOrder
import BigX.Messaging.RetryStages
import BigX.Messaging.BoundedRetries
import BigX.Gateway.FailedPurchase
import BigX.Custody.SeenDeposits
import BigX.ToolRouter.Decimals
import BigX.ToolRouter.FailedQuote
import BigX.ToolRouter.SwapTool
import BigX.Decimal.Rounding
import BigX.Decimal.Context
import BigX.ToolRouter.DeFiTool
import BigX.ToolRouter.NFTTool
import BigX.ToolRouter.NFTAudit
import BigX.Reasoning.PlanOptimizer
import BigX.Reasoning.Reflection
import BigX.Reasoning.GasErrors
import BigX.Run.Lru
import BigX.Run.EventLog
import BigX.Text.Windows
import BigX.Reasoning.Embedding
import BigX.Reasoning.EmbeddingCache
import BigX.Reasoning.KnowledgeBase
import BigX.Notification.Email
import BigX.Text.Base64
import BigX.Text.Integer
import BigX.Wallet.Encryption
import BigX.Json.Value
import BigX.Json.Scan
import BigX.Json.Fuel
import BigX.Json.Strings
import BigX.Json.Numbers
import BigX.Json.RoundTrip
import BigX.Run.Session
import BigX.Run.Shelves
import BigX.Infra.Cache
import BigX.Infra.Sessions
import BigX.Infra.SyncLibs
import BigX.Infra.SyncContract
import BigX.Infra.SyncResult
import BigX.Text.Pattern
import BigX.Guardrail.Markers
import BigX.Guardrail.FixedPoint
import BigX.Text.Replace
import BigX.Text.Rename
import BigX.Recovery.RestoreText
import BigX.ToolRouter.BridgeKeys
import BigX.Backend.AgentCreation
import BigX.Backend.BrowserLogin
