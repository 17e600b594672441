import BillDesk.Bill.Basic

/-!
# Payment instructions

Money moves outside of the ledger, which only observes it. To settle or to buy a bill, the client
tells its user where and how much to pay.
-/

namespace BillDesk.Bill

structure Instruction where
  billName : String
  receiver : Party
  amount : UInt64
  currency : String
  address : Option String
  link : Option String
  deriving DecidableEq

/-- Who is paid for a bill on offer: its seller, or its holder when no seller is filled in. -/
def sellerOrHolder (b : Bill) : Party :=
  (b.seller.filter fun p => !p.isPlaceholder).getD b.payee

/-- How the drawee settles the bill, if the ledger gave an address or a link for it. -/
def paymentInstruction? (b : Bill) : Option Instruction :=
  if b.addressToPay.isNone && b.linkToPay.isNone then none
  else some {
    billName := b.name
    receiver := b.holder
    amount := b.amount
    currency := b.currency
    address := b.addressToPay
    link := b.linkToPay }

/-- How the buyer pays for the bill, if the ledger gave an address or a link for it. -/
def buyInstruction? (b : Bill) : Option Instruction :=
  if b.addressForSelling.isNone && b.linkForBuy.isNone then none
  else some {
    billName := b.name
    receiver := b.sellerOrHolder
    amount := b.amountForSelling.getD b.amount
    currency := b.currency
    address := b.addressForSelling
    link := b.linkForBuy }

open Json in
def Instruction.write (i : Instruction) : Value := .record [
  ("bill_name", Codec.write i.billName),
  ("receiver", Codec.write i.receiver),
  ("amount_numbers", Codec.write i.amount),
  ("currency_code", Codec.write i.currency),
  ("address", Codec.write i.address),
  ("link", Codec.write i.link)]

end BillDesk.Bill
