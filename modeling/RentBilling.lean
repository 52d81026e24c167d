import RentBilling.Billing.Assembly
import RentBilling.Invoice.Basic
import RentBilling.Log.Filter
import RentBilling.Money.Entry
import RentBilling.Numeral.HexLemmas
import RentBilling.Proofs.Invoice.Payment
import RentBilling.Proofs.Money.Entry
import RentBilling.Proofs.Pix.Bursts
import RentBilling.Proofs.Pix.Grammar
import RentBilling.Storage.Billing
import RentBilling.Storage.Settings
import RentBilling.Proofs.Billing.Replay
import RentBilling.Proofs.Pix.Nesting
import RentBilling.Proofs.Text.Blank
import RentBilling.Proofs.Billing.Template
import RentBilling.Proofs.Invoice.PaymentSection
import RentBilling.Proofs.Invoice.MerchantText
import RentBilling.Proofs.Billing.Relevance
import RentBilling.Proofs.Invoice.Failure
import RentBilling.Proofs.Storage.Bills
import RentBilling.Proofs.Storage.RoundTrips
import RentBilling.Proofs.Pix.Flips
import RentBilling.Proofs.Billing.Accounting
import RentBilling.Proofs.Calendar.Spellings
import RentBilling.Proofs.Money.Accuracy
import RentBilling.Proofs.Money.Notations
import RentBilling.Proofs.Qr.Painting
import RentBilling.Proofs.Pix.Buffered
import RentBilling.Proofs.Calendar.DueDates
import RentBilling.Proofs.Numeral.Order
import RentBilling.Proofs.Text.Slices
import RentBilling.Proofs.Calendar.Months
import RentBilling.Proofs.Billing.Replacement
import RentBilling.Proofs.Billing.Identifiers
import RentBilling.Proofs.Billing.PaymentStatus
import RentBilling.Proofs.Qr.Sides
import RentBilling.Proofs.Text.Normalization
import RentBilling.Proofs.Invoice.MerchantSpellings
import RentBilling.Proofs.Pix.KeySecrecy
import RentBilling.Proofs.ItemId.Canonical
import RentBilling.Proofs.Billing.SpelledIds
import RentBilling.Proofs.Storage.Charges
import RentBilling.Proofs.Invoice.Charges
import RentBilling.Proofs.Pix.Rounds
import RentBilling.Proofs.Calendar.StoredDates
