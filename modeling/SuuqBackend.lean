import SuuqBackend.Branches.Laws.ReceivableTransfers
import SuuqBackend.Branches.Laws.TransferConcurrency
import SuuqBackend.PurchaseOrders.Laws.InboundOpenPo
import SuuqBackend.PurchaseOrders.Laws.ReceiptConcurrency
import SuuqBackend.PurchaseOrders.Laws.Reconciliation
import SuuqBackend.PurchaseOrders.Laws.ReceiptLines
import SuuqBackend.PosSync.Laws.Replays
import SuuqBackend.Accounting.Laws.EventRuns
import SuuqBackend.PropertyRental.Laws.RentRecognition
import SuuqBackend.PropertyRental.Laws.InterruptedAccruals
import SuuqBackend.PropertyRental.Laws.AccrualConcurrency
import SuuqBackend.PropertyRental.Laws.BillingPeriods
import SuuqBackend.Wallet.Laws.WalletBalance
import SuuqBackend.Wallet.Laws.TopUpConcurrency
import SuuqBackend.Withdrawals.Laws.WithdrawalPayouts
import SuuqBackend.Hospitality.Laws.SplitBills
import SuuqBackend.Hospitality.Laws.FolioConcurrency
import SuuqBackend.Retail.Laws.BnplCreditLimit
import SuuqBackend.Deliverer.Laws.VendorEarnings
import SuuqBackend.Billing.Laws.DeletedRecords
import SuuqBackend.Credit.Laws.CreditUsage
import SuuqBackend.Callbacks.Laws.ConfirmedReturns
import SuuqBackend.Payments.Laws.SeparateReferences
import SuuqBackend.Orders.Laws.StatusRuns
import SuuqBackend.Orders.Laws.OrderMoney
import SuuqBackend.PosWorkspace.Laws.WorkspaceAudits
import SuuqBackend.ProductRequests.Laws.OfferConcurrency
import SuuqBackend.ProcurementWebhooks.Laws.PausedSubscriptions
import SuuqBackend.PosSync.Laws.CostRelief
import SuuqBackend.PosSync.Laws.CheckoutConcurrency
import SuuqBackend.ProcurementWebhooks.Laws.ConfirmedReplays
import SuuqBackend.Audit.Laws.CursorListings
import SuuqBackend.Auth.Laws.PasswordLifecycle
import SuuqBackend.Auth.Laws.ExternalSignIn
import SuuqBackend.BranchStaff.Laws.ConfinedManagers
import SuuqBackend.Branches.Laws.BranchIsolation
import SuuqBackend.Branches.Laws.VariantSettings
import SuuqBackend.PartnerCredentials.Laws.CredentialConcurrency
import SuuqBackend.Users.Laws.Certification
import SuuqBackend.PosSync.Laws.ReturnedQuantities
import SuuqBackend.PosSync.Laws.TaxSummaries
import SuuqBackend.PosSync.Laws.TenderSplits
import SuuqBackend.PosSync.Laws.StockSnapshots
import SuuqBackend.Billing.Laws.OpeningBalances
import SuuqBackend.Wallet.Laws.WeeklySettlements
