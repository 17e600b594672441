import BillDesk.Bill.Basic

/-!
# Bills as JSON

The members of a bill in the order in which they are declared. The first eight have to be given, the
others have defaults. On output every member is present.
-/

namespace BillDesk.Bill

open Json

def fieldNames : List String :=
  ["name", "date_of_issue", "maturity_date", "amount_numbers", "currency_code", "drawer", "drawee",
    "payee", "endorsee", "buyer", "seller", "accepted", "payed", "pending", "endorsed",
    "requested_to_accept", "requested_to_pay", "waited_for_payment", "chain_of_blocks",
    "place_of_drawing", "place_of_payment", "bill_jurisdiction", "language", "amounts_letters",
    "link_to_pay", "address_to_pay", "link_for_buy", "address_for_selling", "amount_for_selling"]

def write (b : Bill) : Value := .record [
  ("name", Codec.write b.name),
  ("date_of_issue", Codec.write b.dateOfIssue),
  ("maturity_date", Codec.write b.maturityDate),
  ("amount_numbers", Codec.write b.amount),
  ("currency_code", Codec.write b.currency),
  ("drawer", Codec.write b.drawer),
  ("drawee", Codec.write b.drawee),
  ("payee", Codec.write b.payee),
  ("endorsee", Codec.write b.endorsee),
  ("buyer", Codec.write b.buyer),
  ("seller", Codec.write b.seller),
  ("accepted", Codec.write b.status.accepted),
  ("payed", Codec.write b.status.payed),
  ("pending", Codec.write b.status.pending),
  ("endorsed", Codec.write b.status.endorsed),
  ("requested_to_accept", Codec.write b.status.requestedToAccept),
  ("requested_to_pay", Codec.write b.status.requestedToPay),
  ("waited_for_payment", Codec.write b.status.waitedForPayment),
  ("chain_of_blocks", Codec.write b.chain),
  ("place_of_drawing", Codec.write b.placeOfDrawing),
  ("place_of_payment", Codec.write b.placeOfPayment),
  ("bill_jurisdiction", Codec.write b.jurisdiction),
  ("language", Codec.write b.language),
  ("amounts_letters", Codec.write b.amountInLetters),
  ("link_to_pay", Codec.write b.linkToPay),
  ("address_to_pay", Codec.write b.addressToPay),
  ("link_for_buy", Codec.write b.linkForBuy),
  ("address_for_selling", Codec.write b.addressForSelling),
  ("amount_for_selling", Codec.write b.amountForSelling)]

def readStatus? (row : Row) : Option Status := do
  return {
    accepted := ← row.withDefault "accepted" false
    payed := ← row.withDefault "payed" false
    pending := ← row.withDefault "pending" false
    endorsed := ← row.withDefault "endorsed" false
    requestedToAccept := ← row.withDefault "requested_to_accept" false
    requestedToPay := ← row.withDefault "requested_to_pay" false
    waitedForPayment := ← row.withDefault "waited_for_payment" false }

def readRow? (row : Row) : Option Bill := do
  return {
    name := ← row.required "name"
    dateOfIssue := ← row.required "date_of_issue"
    maturityDate := ← row.required "maturity_date"
    amount := ← row.required "amount_numbers"
    currency := ← row.required "currency_code"
    drawer := ← row.required "drawer"
    drawee := ← row.required "drawee"
    payee := ← row.required "payee"
    endorsee := ← row.withDefault "endorsee" none
    buyer := ← row.withDefault "buyer" none
    seller := ← row.withDefault "seller" none
    status := ← readStatus? row
    chain := ← row.withDefault "chain_of_blocks" .empty
    placeOfDrawing := ← row.withDefault "place_of_drawing" ""
    placeOfPayment := ← row.withDefault "place_of_payment" ""
    jurisdiction := ← row.withDefault "bill_jurisdiction" ""
    language := ← row.withDefault "language" ""
    amountInLetters := ← row.withDefault "amounts_letters" ""
    linkToPay := ← row.withDefault "link_to_pay" none
    addressToPay := ← row.withDefault "address_to_pay" none
    linkForBuy := ← row.withDefault "link_for_buy" none
    addressForSelling := ← row.withDefault "address_for_selling" none
    amountForSelling := ← row.withDefault "amount_for_selling" none }

instance : Codec Bill where
  write := write
  read? v := (v.row? fieldNames).bind readRow?

end BillDesk.Bill
