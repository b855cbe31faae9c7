import Clarisal.Lib.Run
import Clarisal.Lib.Table
import Clarisal.Lib.Dict
import Clarisal.Lib.Query
import Clarisal.Lib.Transaction
import Clarisal.Lib.Untransacted
import Clarisal.Lib.Decimal
import Clarisal.Lib.Tariff
import Clarisal.Lib.Relief
import Clarisal.Lib.Calendar
import Clarisal.Lib.Anniversary
import Clarisal.Approvals.Models
import Clarisal.Approvals.Resolution
import Clarisal.Approvals.Services
import Clarisal.Approvals.Invariant
import Clarisal.Approvals.Transactions
import Clarisal.Approvals.Preservation
import Clarisal.Approvals.Quorum
import Clarisal.Approvals.SelfApproval
import Clarisal.Approvals.WorkflowEdit
import Clarisal.Approvals.DefaultWorkflow
import Clarisal.Lib.TwoPhase
import Clarisal.Approvals.Interleaving
import Clarisal.Approvals.Outcome
import Clarisal.Lib.Worklist
import Clarisal.Lib.Writers
import Clarisal.Approvals.Delegation
import Clarisal.Payroll.Models
import Clarisal.Payroll.Statutory
import Clarisal.Payroll.SlabTax
import Clarisal.Payroll.TaxBreakdown
import Clarisal.Payroll.MarginalRelief
import Clarisal.Payroll.Calculation
import Clarisal.Payroll.PayRuns
import Clarisal.Payroll.Transactions
import Clarisal.Payroll.Ledger
import Clarisal.Payroll.Gate
import Clarisal.Payroll.EsiContinuity
import Clarisal.Payroll.Interleaving
import Clarisal.Payroll.Templates
import Clarisal.Payroll.TemplateIntegrity
import Clarisal.Payroll.Withholding
import Clarisal.Payroll.Reconciliation
import Clarisal.Payroll.StatutoryCharges
import Clarisal.Payroll.Arrears
import Clarisal.Payroll.ProvidentFund
import Clarisal.Payroll.FiscalYear
import Clarisal.Payroll.FilingBatches
import Clarisal.TimeOff.Models
import Clarisal.TimeOff.Cycle
import Clarisal.TimeOff.Balance
import Clarisal.TimeOff.CompOff
import Clarisal.TimeOff.Requests
import Clarisal.TimeOff.Overdraw
import Clarisal.TimeOff.Moves
import Clarisal.TimeOff.Booking
import Clarisal.TimeOff.Redemptions
import Clarisal.TimeOff.Encashment
import Clarisal.TimeOff.Debits
import Clarisal.TimeOff.EncashmentLimits
import Clarisal.TimeOff.CycleEnd
import Clarisal.TimeOff.Lapse
import Clarisal.TimeOff.CarryForward
import Clarisal.TimeOff.Rollover
import Clarisal.Organisations.Models
import Clarisal.Organisations.Licences
import Clarisal.Organisations.Onboarding
import Clarisal.Documents.Requests
import Clarisal.Organisations.Payments
import Clarisal.Organisations.Webhooks
import Clarisal.Organisations.Razorpay
import Clarisal.Organisations.Invoices
import Clarisal.Employees.Invitations
import Clarisal.Recruitment.Hiring
import Clarisal.Employees.CareerEvents
import Clarisal.Employees.Offboarding
import Clarisal.Expenses.Claims
import Clarisal.Expenses.Policies
import Clarisal.Expenses.Reimbursement
import Clarisal.Invitations.Admins
import Clarisal.Payroll.Filings
import Clarisal.Payroll.Ecr
import Clarisal.Payroll.TaxMasters
import Clarisal.Payroll.FailedCalculation
import Clarisal.Payroll.FailedEdits
import Clarisal.Payroll.Form24Q
import Clarisal.Payroll.Form24QReconciliation
import Clarisal.Payroll.Form16
import Clarisal.Payroll.Form16Pdf
import Clarisal.Payroll.Form16Figures
import Clarisal.Payroll.FiscalYearLabels
import Clarisal.Approvals.Escalation
import Clarisal.TimeOff.CycleTiling
import Clarisal.TimeOff.Accrual
import Clarisal.TimeOff.CompOffAvailability
import Clarisal.Approvals.Submission
import Clarisal.TimeOff.OnDuty
import Clarisal.TimeOff.FailedRequests
import Clarisal.TimeOff.DayByDay
import Clarisal.Payroll.YearToDate
import Clarisal.Payroll.Prefetch
import Clarisal.Lib.Budget
import Clarisal.Payroll.FullAndFinal
import Clarisal.Payroll.Gratuity
import Clarisal.Payroll.Settlements
import Clarisal.Payroll.ServiceDays
import Clarisal.Payroll.LossOfPay
import Clarisal.Payroll.LossOfPayLeave
import Clarisal.Payroll.AttendanceLoss
import Clarisal.Payroll.Leavers
import Clarisal.Performance.AppraisalCycles
import Clarisal.Attendance.Shifts
import Clarisal.Attendance.DaySummary
import Clarisal.Attendance.PayrollSummary
import Clarisal.Lib.View
import Clarisal.Attendance.StoredDays
import Clarisal.Attendance.DayPay
import Clarisal.Attendance.OvernightPunches
import Clarisal.Attendance.Imports
import Clarisal.Lib.Watermark
import Clarisal.Biometrics.PullSync
import Clarisal.Assets.Custody
import Clarisal.AccessControl.Scopes
import Clarisal.Lib.Forest
import Clarisal.Employees.OrgChart
import Clarisal.Lib.Loops
import Clarisal.Employees.ReportingCycles
import Clarisal.Employees.ReportingTeam
import Clarisal.Employees.EndEmployment
import Clarisal.Lib.Thinning
import Clarisal.Attendance.PunchIngestion
import Clarisal.Lib.Lines
import Clarisal.Biometrics.Adms
import Clarisal.Performance.AutoAdvance
import Clarisal.Payroll.DaysEmployed
import Clarisal.Payroll.PrintedPayslip
import Clarisal.Reports.TaxSummary
import Clarisal.Payroll.Form12BB
import Clarisal.Communications.Events
import Clarisal.Accounts.ContactIdentity
import Clarisal.Accounts.Workspaces
import Clarisal.Accounts.ActAs
import Clarisal.Accounts.Permissions
import Clarisal.Accounts.PasswordReset
import Clarisal.Lib.Json
import Clarisal.Audit.Log
import Clarisal.Approvals.Workflows
import Clarisal.Organisations.Departments
import Clarisal.Lib.Sweeps
import Clarisal.Approvals.Reminders
import Clarisal.Communications.Notices
import Clarisal.Lib.Numbered
import Clarisal.Organisations.Addresses
import Clarisal.Organisations.AddressRecords
import Clarisal.Organisations.AddressRuns
import Clarisal.Organisations.OpenLocations
import Clarisal.Reports.QueryEngine
