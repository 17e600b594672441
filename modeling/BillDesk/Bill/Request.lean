import BillDesk.Bill.Eligibility
import BillDesk.FormError

/-!
# Requests for an action

A request is an action together with the form data that it takes: whom to endorse the bill to, or
to whom and for how much to sell it. It is checked against the bill before anything is sent.
-/

namespace BillDesk.Bill

inductive Request where
  | pay
  | accept
  | endorse (endorsee : String)
  | sell (buyer : String) (amount : UInt64)
  | buy
  | requestToAccept
  | requestToPay
  deriving DecidableEq

namespace Request

def action : Request → Action
  | pay => .pay
  | accept => .accept
  | endorse _ => .endorse
  | sell _ _ => .sell
  | buy => .buy
  | requestToAccept => .requestToAccept
  | requestToPay => .requestToPay

/-- The form data fits the bill: the names are filled in, the amount is positive, and nobody passes
the bill on to its holder. -/
def check (r : Request) (b : Bill) : Check := do
  refuseIf (Text.isBlank b.name) (.missing .billName)
  match r with
  | endorse endorsee =>
      refuseIf (Text.isBlank endorsee) (.missing .endorsee)
      refuseIf (Text.trim endorsee == Text.trim b.holder.name) .endorserIsEndorsee
  | sell buyer amount =>
      refuseIf (Text.isBlank buyer) (.missing .buyer)
      refuseIf (amount == 0) .invalidSum
      refuseIf (Text.trim buyer == Text.trim b.holder.name) .buyerIsSeller
  | _ => return

end Request

end BillDesk.Bill
