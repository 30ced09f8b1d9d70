import Aqts.GuardedRuns
import Aqts.ExpiringSlot
import Aqts.RetriedCalls
import Aqts.OrderTypes
import Aqts.IdempotencyStore
import Aqts.CreateOrder
import Aqts.CreateOrderClaims
import Aqts.CreateOrderReplay
import Aqts.CreateOrderRetry
import Aqts.TwoTierStore
import Aqts.ReplayWindow
import Aqts.OrderStateMachine
import Aqts.OrdersTable
import Aqts.SettlementPoller
import Aqts.SettlementWriters
import Aqts.SettlementStatements
import Aqts.SettlementReports
import Aqts.SettlementMatching
import Aqts.PortfolioLedger
import Aqts.LedgerPersistence
import Aqts.LedgerProcesses
import Aqts.ApplyDelta
import Aqts.OrderExecutor
import Aqts.LedgerConservation
import Aqts.BrokerPlacements
import Aqts.SlicedExposure
import Aqts.PostTradeFailures
import Aqts.DryRun
import Aqts.KisClient
import Aqts.TradingGuard
import Aqts.GuardHistory
import Aqts.SchedulerHandlers
import Aqts.OrderTasks
import Aqts.KillSwitchRuns
import Aqts.CircuitBreaker
import Aqts.CircuitHistory
import Aqts.HalfOpenProbes
import Aqts.DocumentStore
import Aqts.IsoTimestamps
import Aqts.AlertManager
import Aqts.AlertStatuses
import Aqts.AlertDeliveries
import Aqts.AlertStores
import Aqts.AlertRetries
import Aqts.AlertStarvation
import Aqts.TelegramTransport
import Aqts.TelegramNotifier
import Aqts.TradingScheduler
import Aqts.SchedulerRestarts
import Aqts.SchedulerOnce
import Aqts.SchedulerProgress
import Aqts.UserAccounts
import Aqts.AuthTokens
import Aqts.RoleVersions
import Aqts.TokenTypes
import Aqts.LoginAttempts
import Aqts.LoginLockout
import Aqts.MfaEnrolment
import Aqts.RevocationStores
import Aqts.Logout
import Aqts.UnitOfWork
import Aqts.UserRequests
import Aqts.BacktestAccount
import Aqts.BacktestEngine
import Aqts.BacktestRuns
import Aqts.BacktestPrefixes
import Aqts.BacktestCash
import Aqts.BacktestEquity
import Aqts.BacktestCooldown
import Aqts.CausalSeries
import Aqts.PandasSeries
import Aqts.TechnicalIndicators
import Aqts.VectorizedSignals
import Aqts.SignalCausality
import Aqts.Delimited
import Aqts.ClientIsolation
import Aqts.RealtimeFrames
import Aqts.RealtimeDelivery
import Aqts.HashChain
import Aqts.AuditIntegrity
import Aqts.ModelRegistry
import Aqts.RegistryNumbers
import Aqts.RegistryChampion
import Aqts.Dictionary
import Aqts.GroupTotals
import Aqts.RlOrders
import Aqts.RlEnvironments
import Aqts.RlReturns
import Aqts.RlFeatures
import Aqts.RlLookahead
import Aqts.StrategyWeights
import Aqts.WeightOptimizer
import Aqts.WeightStores
import Aqts.EndlessRuns
import Aqts.GracefulShutdown
import Aqts.ShutdownSteps
import Aqts.ShutdownRuns
import Aqts.SpacedTimes
import Aqts.RateLimitWait
import Aqts.KisRecovery
import Aqts.KisRecoveryRuns
import Aqts.RetentionPolicy
import Aqts.JsonText
import Aqts.RealtimeResponses
import Aqts.RealtimeSubscriptions
import Aqts.RealtimeRestores
import Aqts.RealtimeRestoreRuns
import Aqts.RateKeys
import Aqts.Reconciliation
import Aqts.ReconciliationRuns
import Aqts.ReconciliationRows
import Aqts.OosJobs
import Aqts.OosJobsOnce
import Aqts.WalkForwardWindows
import Aqts.OosGates
import Aqts.WalkForwardRuns
import Aqts.EmergencyMonitor
import Aqts.EmergencyBatches
import Aqts.SlicedFills
import Aqts.TwapFills
import Aqts.VwapFills
import Aqts.BatchOrders
import Aqts.PriceGuard
import Aqts.LimitPrices
import Aqts.OrderAmounts
import Aqts.UnfilledOrders
import Aqts.CurrencyCap
import Aqts.PortfolioConstraints
import Aqts.PortfolioLimits
import Aqts.PortfolioConstruction
import Aqts.CapitalBudgets
import Aqts.Rebalancing
import Aqts.RebalancingEngine
import Aqts.RebalancingMarkets
import Aqts.EmergencyTrigger
import Aqts.SignalGenerator
import Aqts.TrendAverages
import Aqts.ExponentialMeans
import Aqts.HalfEvenRounding
import Aqts.SampleDeviations
import Aqts.LastIndicators
import Aqts.MeanReversionAgreement
import Aqts.DynamicEnsemble
import Aqts.DirectionalReflection
import Aqts.EnsembleRows
import Aqts.WeightLimits
import Aqts.SharpeLimits
import Aqts.RegimeRouting
import Aqts.Universe
import Aqts.SpanReplacement
import Aqts.PiiMasking
import Aqts.PiiDictionaries
import Aqts.CivilDates
import Aqts.DateScans
import Aqts.MarketCalendar
import Aqts.MarketHolidays
import Aqts.EasterSundays
import Aqts.TradingDays
import Aqts.MarketHours
import Aqts.ExchangeRates
import Aqts.KeyedLocks
import Aqts.QuoteProvider
import Aqts.QuoteProviderRuns
import Aqts.QuoteProviderSpacing
import Aqts.EnsembleSignals
import Aqts.EnsembleDirections
import Aqts.PipelineStates
import Aqts.RelatedJobs
import Aqts.PipelineGates
import Aqts.Pipeline
import Aqts.PipelineRuns
import Aqts.VersionJournal
import Aqts.PromptVersions
import Aqts.PromptEffects
import Aqts.PromptRuns
import Aqts.PromptHistory
import Aqts.PromptAnswers
import Aqts.EnsembleConfig
import Aqts.EnsembleConfigRuns
import Aqts.Drawdowns
import Aqts.PeriodicReporter
import Aqts.MetricsCalculator
import Aqts.NotificationRouter
import Aqts.NotificationDispatches
