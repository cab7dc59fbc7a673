import ProjectManager.Procurement.SourcingRuns
import ProjectManager.Tasks.AtomicDependencies
import ProjectManager.Tasks.PreviewedSchedules
import ProjectManager.Tasks.OrderedDates
import ProjectManager.Time.LoggedHours
import ProjectManager.Inventory.OptimisticUpdates
import ProjectManager.Maintenance.FixedCadence
import ProjectManager.Maintenance.PlannedInstances
import ProjectManager.Maintenance.ScopedReads
import ProjectManager.Procurement.AimedOrders
import ProjectManager.Auth.FederatedLogins
import ProjectManager.Auth.Lockout
import ProjectManager.Auth.Duties
import ProjectManager.Auth.NarrowedAccess
import ProjectManager.Procurement.ReorderFlags
import ProjectManager.Org.ActiveOrganization
import ProjectManager.Org.ParentLinks
import ProjectManager.Importing.UpdatedRows
import ProjectManager.Maintenance.CoveredShortages
import ProjectManager.Collaboration.UnreadMentions
import ProjectManager.Dashboard.PortfolioPage
import ProjectManager.Maintenance.AnchoredDates
import ProjectManager.Maintenance.AtomicSteps
import ProjectManager.Maintenance.OverrideTurns
import ProjectManager.MasterData.PreviewedImports
import ProjectManager.Scheduling.DayConventions
import ProjectManager.Calendar.Service
import ProjectManager.Reporting.EarnedValueSeries
import ProjectManager.Reporting.BaselineComparison
import ProjectManager.Inventory.UomConversion
import ProjectManager.Dashboard.Leveling
import ProjectManager.Tasks.Assignments
import ProjectManager.Finance.BaselineBudget
import ProjectManager.Maintenance.OrderLifecycle
import ProjectManager.Org.Entitlements
import ProjectManager.Procurement.ReceivedQuantities
