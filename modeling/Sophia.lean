import Sophia.Library.TracedRun
import Sophia.Library.JsonText
import Sophia.ClassifierSpec
import Sophia.TribalVeto
import Sophia.EscalationGate
import Sophia.RiskFloor
import Sophia.PreflightAck
import Sophia.CacheSoundness
import Sophia.LowerCandidates
import Sophia.FanOut
import Sophia.DecisionTrail
import Sophia.Audit
import Sophia.GateRanking
import Sophia.HatSwitch
import Sophia.RunningRequest
import Sophia.Redelivery
import Sophia.AtMostOnce
import Sophia.Escalation
import Sophia.ShopifyMapping
import Sophia.WooCommerceMapping
import Sophia.StripeMapping
import Sophia.ShipStationMapping
import Sophia.McpServices
import Sophia.HatTools
import Sophia.AnswerShapes
import Sophia.PlatformShapes
import Sophia.McpFailures
import Sophia.ToolFailures
import Sophia.Refunds
import Sophia.WebhookWindow
import Sophia.NotificationCap
import Sophia.MemoryRecall
import Sophia.ReturnWindow
import Sophia.Payouts
import Sophia.StoreIntegrity
import Sophia.KeyContainment
import Sophia.TreeWalks
import Sophia.ParsedForest
import Sophia.ExtractedGraph
import Sophia.GateSurvivors
import Sophia.EscalationDetection
import Sophia.EvaluatorCeilings
import Sophia.RateLimit
import Sophia.NotificationGate
import Sophia.StoredNodes
import Sophia.CacheStats
import Sophia.StripeCents
import Sophia.McpRetries
import Sophia.AckSafety
import Sophia.FinancialLimits
import Sophia.OrderSpellings
import Sophia.ToolResults
import Sophia.FencedJson
import Sophia.ToolTable
import Sophia.AuditWriters
import Sophia.ShopifyOrders
import Sophia.WeightedScore
import Sophia.FloorJoin
import Sophia.ChatMessages
import Sophia.AuditDrawer
import Sophia.WebhookIngestion
import Sophia.AuditStore
import Sophia.StoreChanges
import Sophia.StickyEscalation
import Sophia.ApiRate
import Sophia.EvalHarness
import Sophia.EffectOrder
import Sophia.NotificationRuns
