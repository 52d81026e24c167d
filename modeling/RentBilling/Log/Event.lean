import RentBilling.Calendar.ReferenceMonth
import RentBilling.ItemId.Basic
import RentBilling.Money.Centavos

/-!
What the library reports while it works.

A computation hands its events over beside its result, in the order in which they happened.
-/

namespace RentBilling

/-- Something worth a line in the log. -/
inductive Event where
  | staleOverride (id : ItemId)
  | billAssembled (template : String) (month : ReferenceMonth) (rows : Nat) (total : Centavos)
  | payloadEncoded (length : Nat)
  | /-- A symbol of this width. The line has no size of the image file in bytes: a picture is a grid
    of pixels here, and no file is made of it. -/
    symbolDrawn (modules : Nat)
  | noPixKey (template : String)
  | noMerchantIdentity (template : String)
  deriving DecidableEq, Repr

inductive LogLevel where
  | error
  | warn
  | info
  | debug
  | trace
  deriving DecidableEq, Repr

/-- What a field of a log line holds. -/
inductive LogValue where
  | text (s : String)
  | count (n : Nat)
  deriving DecidableEq, Repr

namespace Event

def level : Event → LogLevel
  | noPixKey _ | noMerchantIdentity _ => .info
  | _ => .debug

/-- The part of the system that the line is filed under. -/
def target : Event → String
  | staleOverride _ | billAssembled .. => "rentivo_billing::assembler"
  | payloadEncoded _ => "rentivo_pix::payload"
  | symbolDrawn _ => "rentivo_pix::qr"
  | noPixKey _ | noMerchantIdentity _ => "rentivo_invoicing::record"

def message : Event → String
  | staleOverride _ => "ignoring override for item not in template"
  | billAssembled .. => "bill assembled"
  | payloadEncoded _ => "pix payload encoded"
  | symbolDrawn _ => "pix qr rendered"
  | noPixKey _ => "no pix key configured; omitting pix"
  | noMerchantIdentity _ => "pix merchant name/city not configured; omitting pix"

def fields : Event → List (String × LogValue)
  | staleOverride id => [("item_id", .text id.text)]
  | billAssembled template month rows total =>
    [("template", .text template), ("reference_month", .text month.text),
      ("line_items", .count rows), ("total", .count total.toNat)]
  | payloadEncoded length => [("len", .count length)]
  | symbolDrawn modules => [("modules", .count modules)]
  | noPixKey template | noMerchantIdentity template => [("template", .text template)]

end Event

/-- A result with the events that led to it. -/
structure Logged (α : Type) where
  events : List Event
  result : α
  deriving DecidableEq, Repr

end RentBilling
