import Forecast.Billing.LedgerReconciliation
import Forecast.Billing.Reservations
import Forecast.Billing.PurchaseCompletion
import Forecast.Billing.RefundCap
import Forecast.Billing.RefundSettlement
import Forecast.Billing.SpendLaw
import Forecast.Marg.LockRelease
import Forecast.Marg.CursorCommit
import Forecast.Marg.LineGenerations
import Forecast.Marg.LegacyMerge
import Forecast.Marg.StockReconciliation
import Forecast.Marg.LedgerProjection
import Forecast.Marg.ComputedStock
import Forecast.Accounting.JournalEntries
import Forecast.Marg.AccountPostings
import Forecast.Marg.JournalProjection
import Forecast.Marg.JournalLaw
import Forecast.Marg.JournalBalance
import Forecast.Marg.JournalHistory
import Forecast.Lib.DecimalColumn
import Forecast.Inventory.LedgerEntries
import Forecast.Inventory.LedgerBalance
import Forecast.Inventory.StockReservations
import Forecast.Inventory.ReservationLaw
import Forecast.Costing.CostTables
import Forecast.Costing.CostBooks
import Forecast.Costing.CostingEngine
import Forecast.Costing.CostCalls
import Forecast.Costing.CostEffects
import Forecast.Costing.JournalPostings
import Forecast.Costing.LayerLaw
import Forecast.Costing.AbsorptionLaw
import Forecast.Costing.AverageLaw
import Forecast.Lib.ReadThrough
import Forecast.Costing.FiscalPeriods
import Forecast.Costing.PeriodLaw
import Forecast.Costing.FreezeLaw
import Forecast.Imports.ImportLaw
import Forecast.Lib.Batches
import Forecast.Lib.Calendar
import Forecast.Lib.Deduplication
import Forecast.Marg.StagingPages
import Forecast.Planning.PlanningTables
import Forecast.Planning.Boms
import Forecast.Planning.PlannedOrders
import Forecast.Planning.StatusLaw
import Forecast.Lib.AcyclicRelation
import Forecast.Planning.ComponentLaw
import Forecast.Auth.AuthTables
import Forecast.Auth.AuthCalls
import Forecast.Database.TenantScoping
import Forecast.Database.ScopingLaw
import Forecast.Auth.SessionLaw
import Forecast.Auth.LockoutLaw
import Forecast.Planning.Conversions
import Forecast.Planning.ConversionLaw
import Forecast.Manufacturing.FactoryTables
import Forecast.Manufacturing.GoodsReceipts
import Forecast.Manufacturing.StockMovements
import Forecast.Manufacturing.WorkOrders
import Forecast.Manufacturing.FactoryFrames
import Forecast.Manufacturing.OrderLaw
import Forecast.Manufacturing.BackflushLaw
import Forecast.Manufacturing.StockEffects
import Forecast.Manufacturing.OutputLaw
import Forecast.Manufacturing.HoldLaw
import Forecast.Lib.Netting
import Forecast.Lib.SharedStock
import Forecast.Mrp.MrpTables
import Forecast.Mrp.Calculation
import Forecast.Mrp.NettingLaw
import Forecast.Mrp.ExplosionLaw
import Forecast.Lib.Placeholders
import Forecast.Reporting.Catalog
import Forecast.Reporting.DateRanges
import Forecast.Reporting.Sql
import Forecast.Reporting.SqlCompiler
import Forecast.Reporting.QueryValidator
import Forecast.Reporting.Numbering
import Forecast.Reporting.Selections
import Forecast.Reporting.StatementLaw
import Forecast.Accounting.PostingProfiles
import Forecast.Accounting.TrialBalanceLaw
import Forecast.Billing.EstimateLaw
import Forecast.Billing.StripeCents
import Forecast.Costing.DepletionLaw
import Forecast.Reporting.SqlText
import Forecast.Reporting.SqlSafety
import Forecast.Reporting.SafetyLaw
import Forecast.Reporting.LeaseLaw
import Forecast.Workflow.ApprovalLaw
import Forecast.Workflow.InstanceLaw
import Forecast.Billing.ChargeReversals
import Forecast.Billing.BillingLaw
import Forecast.Costing.IssueLaw
import Forecast.Costing.LandedRetries
import Forecast.Inventory.HoldReleases
import Forecast.Accounting.JournalReversals
import Forecast.Quality.Completions
import Forecast.Quality.InspectionPlans
import Forecast.Lib.Joins
import Forecast.Costing.PeriodValuation
import Forecast.Costing.BomExplosion
import Forecast.Costing.CircularBoms
import Forecast.Costing.RollupLaw
import Forecast.Reporting.ReadRows
import Forecast.Reporting.ScopeLaw
import Forecast.Reporting.FilterLaw
import Forecast.Manufacturing.MovementTotals
import Forecast.Manufacturing.RecordsLaw
import Forecast.Manufacturing.MovementLaw
import Forecast.Reporting.ComparisonLaw
import Forecast.Reporting.NegationLaw
import Forecast.Lib.DigitTexts
import Forecast.Manufacturing.InvoiceSorting
import Forecast.Marg.DateLaw
import Forecast.Marg.DateWindowLaw
import Forecast.Planning.TimeBucketLaw
import Forecast.Reporting.ChangeRankingLaw
import Forecast.Marg.LedgerBalances
import Forecast.Marg.DocumentNumbers
import Forecast.Marg.PurchaseReceipts
import Forecast.Marg.Outstanding
import Forecast.Manufacturing.CapacityPlan
import Forecast.Planning.ExplodedBoms
import Forecast.Mrp.DemandLaw
import Forecast.Marg.RawPages
import Forecast.Engine.LinearSolver
import Forecast.Marg.JournalKeys
import Forecast.Auth.PasswordResets
import Forecast.Forecasting.Assumptions
import Forecast.Forecasting.ForecastRuns
import Forecast.Reporting.AbsenceIntent
