import BillDesk.Bill.Record
import Mathlib.Data.List.Forall2

/-!
# Which JSON values are bills

A record is read as a whole or not at all: each of its members has to be read in its own place, and
a list has to be read element by element. So whatever a bill is made of, a single part that cannot
be read spoils the bill, and with it every list that the bill is in.

Results:
1. `Json.read?_array_eq_some_iff`: a list is read exactly when each of its elements is, in order.
2. `Bill.readRow?_eq_some_iff`: a bill is read exactly when each of its members is.
3. `Bill.read?_of_spoiled`: a list of bills with one bill, party or block that cannot be read is not
   read.
-/

namespace BillDesk

open Json

namespace Json

theorem mapM_eq_some_iff {α β : Type} {f : α → Option β} {as : List α} {bs : List β} :
    as.mapM f = some bs ↔ List.Forall₂ (fun a b => f a = some b) as bs := by
  induction as generalizing bs with
  | nil => cases bs <;> simp
  | cons a as ih =>
    rw [List.mapM_cons, List.forall₂_cons_left_iff]
    constructor
    · intro h
      obtain ⟨b, hb, h⟩ := Option.bind_eq_some_iff.1 h
      obtain ⟨bs', hbs', h⟩ := Option.bind_eq_some_iff.1 h
      exact ⟨b, bs', hb, ih.1 hbs', (Option.some.inj h).symm⟩
    · rintro ⟨b, bs', hb, hbs', rfl⟩
      rw [hb, ih.2 hbs']
      rfl

/-- A list is read exactly when each of its elements is, in order. -/
theorem read?_array_eq_some_iff {α : Type} [Codec α] {vs : List Value} {as : List α} :
    Codec.read? (.array vs) = some as ↔
      List.Forall₂ (fun v a => Codec.read? v = some a) vs as :=
  mapM_eq_some_iff

theorem exists_read?_of_mem {α : Type} [Codec α] {vs : List Value} {as : List α}
    (h : Codec.read? (.array vs) = some as) {v : Value} (hv : v ∈ vs) :
    ∃ a : α, Codec.read? v = some a := by
  have hall := read?_array_eq_some_iff.1 h
  clear h
  induction hall with
  | nil => cases hv
  | cons hhead _ ih =>
    rcases List.mem_cons.1 hv with rfl | hv
    · exact ⟨_, hhead⟩
    · exact ih hv

/-- A value that may be left out is read like one that is given, unless it is `null`. -/
theorem exists_read?_of_optional {α : Type} [Codec α] {v : Value} {a? : Option α}
    (h : Codec.read? v = some a?) (hv : v ≠ .null) : ∃ a : α, Codec.read? v = some a := by
  have hmap : (Codec.read? v : Option α).map some = some a? := by
    cases v with
    | null => exact absurd rfl hv
    | _ => exact h
  obtain ⟨a, ha, _⟩ := Option.map_eq_some_iff.1 hmap
  exact ⟨a, ha⟩

namespace Row

variable {α : Type} [Codec α] {row : Row} {name : String} {a : α}

theorem read?_of_required (h : row.required name = some a) {v : Value}
    (hv : row.lookup name = some v) : Codec.read? v = some a := by
  rwa [required, hv] at h

theorem read?_of_withDefault {default : α} (h : row.withDefault name default = some a) {v : Value}
    (hv : row.lookup name = some v) : Codec.read? v = some a := by
  rwa [withDefault, hv] at h

end Row

end Json

namespace Bill

/-- Every flag of the status is read from its member, or is off. -/
structure StatusInRow (row : Row) (s : Status) : Prop where
  accepted : row.withDefault "accepted" false = some s.accepted
  payed : row.withDefault "payed" false = some s.payed
  pending : row.withDefault "pending" false = some s.pending
  endorsed : row.withDefault "endorsed" false = some s.endorsed
  requestedToAccept : row.withDefault "requested_to_accept" false = some s.requestedToAccept
  requestedToPay : row.withDefault "requested_to_pay" false = some s.requestedToPay
  waitedForPayment : row.withDefault "waited_for_payment" false = some s.waitedForPayment

/-- Every part of the bill is read from its member. Eight of them have to be there. -/
structure InRow (row : Row) (b : Bill) : Prop where
  name : row.required "name" = some b.name
  dateOfIssue : row.required "date_of_issue" = some b.dateOfIssue
  maturityDate : row.required "maturity_date" = some b.maturityDate
  amount : row.required "amount_numbers" = some b.amount
  currency : row.required "currency_code" = some b.currency
  drawer : row.required "drawer" = some b.drawer
  drawee : row.required "drawee" = some b.drawee
  payee : row.required "payee" = some b.payee
  endorsee : row.withDefault "endorsee" none = some b.endorsee
  buyer : row.withDefault "buyer" none = some b.buyer
  seller : row.withDefault "seller" none = some b.seller
  status : StatusInRow row b.status
  chain : row.withDefault "chain_of_blocks" .empty = some b.chain
  placeOfDrawing : row.withDefault "place_of_drawing" "" = some b.placeOfDrawing
  placeOfPayment : row.withDefault "place_of_payment" "" = some b.placeOfPayment
  jurisdiction : row.withDefault "bill_jurisdiction" "" = some b.jurisdiction
  language : row.withDefault "language" "" = some b.language
  amountInLetters : row.withDefault "amounts_letters" "" = some b.amountInLetters
  linkToPay : row.withDefault "link_to_pay" none = some b.linkToPay
  addressToPay : row.withDefault "address_to_pay" none = some b.addressToPay
  linkForBuy : row.withDefault "link_for_buy" none = some b.linkForBuy
  addressForSelling : row.withDefault "address_for_selling" none = some b.addressForSelling
  amountForSelling : row.withDefault "amount_for_selling" none = some b.amountForSelling

theorem readStatus?_eq_some_iff {row : Row} {s : Status} :
    readStatus? row = some s ↔ StatusInRow row s := by
  constructor
  · -- One step for each member.
    intro h
    obtain ⟨_, accepted, h⟩ := Option.bind_eq_some_iff.1 h
    obtain ⟨_, payed, h⟩ := Option.bind_eq_some_iff.1 h
    obtain ⟨_, pending, h⟩ := Option.bind_eq_some_iff.1 h
    obtain ⟨_, endorsed, h⟩ := Option.bind_eq_some_iff.1 h
    obtain ⟨_, requestedToAccept, h⟩ := Option.bind_eq_some_iff.1 h
    obtain ⟨_, requestedToPay, h⟩ := Option.bind_eq_some_iff.1 h
    obtain ⟨_, waitedForPayment, h⟩ := Option.bind_eq_some_iff.1 h
    cases h
    exact ⟨accepted, payed, pending, endorsed, requestedToAccept, requestedToPay, waitedForPayment⟩
  · intro h
    simp only [readStatus?, h.accepted, h.payed, h.pending, h.endorsed, h.requestedToAccept,
      h.requestedToPay, h.waitedForPayment]
    rfl

theorem readRow?_eq_some_iff {row : Row} {b : Bill} : readRow? row = some b ↔ InRow row b := by
  constructor
  · -- One step for each member.
    intro h
    obtain ⟨_, name, h⟩ := Option.bind_eq_some_iff.1 h
    obtain ⟨_, dateOfIssue, h⟩ := Option.bind_eq_some_iff.1 h
    obtain ⟨_, maturityDate, h⟩ := Option.bind_eq_some_iff.1 h
    obtain ⟨_, amount, h⟩ := Option.bind_eq_some_iff.1 h
    obtain ⟨_, currency, h⟩ := Option.bind_eq_some_iff.1 h
    obtain ⟨_, drawer, h⟩ := Option.bind_eq_some_iff.1 h
    obtain ⟨_, drawee, h⟩ := Option.bind_eq_some_iff.1 h
    obtain ⟨_, payee, h⟩ := Option.bind_eq_some_iff.1 h
    obtain ⟨_, endorsee, h⟩ := Option.bind_eq_some_iff.1 h
    obtain ⟨_, buyer, h⟩ := Option.bind_eq_some_iff.1 h
    obtain ⟨_, seller, h⟩ := Option.bind_eq_some_iff.1 h
    obtain ⟨_, status, h⟩ := Option.bind_eq_some_iff.1 h
    obtain ⟨_, chain, h⟩ := Option.bind_eq_some_iff.1 h
    obtain ⟨_, placeOfDrawing, h⟩ := Option.bind_eq_some_iff.1 h
    obtain ⟨_, placeOfPayment, h⟩ := Option.bind_eq_some_iff.1 h
    obtain ⟨_, jurisdiction, h⟩ := Option.bind_eq_some_iff.1 h
    obtain ⟨_, language, h⟩ := Option.bind_eq_some_iff.1 h
    obtain ⟨_, amountInLetters, h⟩ := Option.bind_eq_some_iff.1 h
    obtain ⟨_, linkToPay, h⟩ := Option.bind_eq_some_iff.1 h
    obtain ⟨_, addressToPay, h⟩ := Option.bind_eq_some_iff.1 h
    obtain ⟨_, linkForBuy, h⟩ := Option.bind_eq_some_iff.1 h
    obtain ⟨_, addressForSelling, h⟩ := Option.bind_eq_some_iff.1 h
    obtain ⟨_, amountForSelling, h⟩ := Option.bind_eq_some_iff.1 h
    cases h
    exact ⟨name, dateOfIssue, maturityDate, amount, currency, drawer, drawee, payee, endorsee,
      buyer, seller, readStatus?_eq_some_iff.1 status, chain, placeOfDrawing, placeOfPayment,
      jurisdiction, language, amountInLetters, linkToPay, addressToPay, linkForBuy,
      addressForSelling, amountForSelling⟩
  · intro h
    simp only [readRow?, h.name, h.dateOfIssue, h.maturityDate, h.amount, h.currency, h.drawer,
      h.drawee, h.payee, h.endorsee, h.buyer, h.seller, readStatus?_eq_some_iff.2 h.status, h.chain,
      h.placeOfDrawing, h.placeOfPayment, h.jurisdiction, h.language, h.amountInLetters,
      h.linkToPay, h.addressToPay, h.linkForBuy, h.addressForSelling, h.amountForSelling]
    rfl

theorem read?_eq_some_iff {v : Value} {b : Bill} :
    Codec.read? v = some b ↔ ∃ row, v.row? fieldNames = some row ∧ InRow row b := by
  show (v.row? fieldNames).bind readRow? = some b ↔ _
  simp only [Option.bind_eq_some_iff, readRow?_eq_some_iff]

/-! ## Parts of a bill -/

/-- The value stands for a party of the bill. A party that may be absent is given as `null` then. -/
inductive HasParty (bill party : Value) : Prop
  | required {row : Row} {name : String} (hrow : bill.row? fieldNames = some row)
      (hname : name ∈ ["drawer", "drawee", "payee"]) (h : row.lookup name = some party)
  | optional {row : Row} {name : String} (hrow : bill.row? fieldNames = some row)
      (hname : name ∈ ["endorsee", "buyer", "seller"]) (h : row.lookup name = some party)
      (hgiven : party ≠ .null)

/-- The value stands for a block of the bill's chain. -/
inductive HasBlock (bill block : Value) : Prop
  | intro {row chainRow : Row} {chain : Value} {blocks : List Value}
      (hrow : bill.row? fieldNames = some row) (hchain : row.lookup "chain_of_blocks" = some chain)
      (hchainRow : chain.row? ["blocks"] = some chainRow)
      (hblocks : chainRow.lookup "blocks" = some (.array blocks)) (h : block ∈ blocks)

theorem exists_read?_party {v party : Value} {b : Bill} (hb : Codec.read? v = some b)
    (h : HasParty v party) : ∃ p : Party, Codec.read? party = some p := by
  obtain ⟨row, hrow, hin⟩ := read?_eq_some_iff.1 hb
  cases h with
  | required hrow' hname h =>
    cases hrow.symm.trans hrow'
    simp only [List.mem_cons, List.not_mem_nil, or_false] at hname
    rcases hname with rfl | rfl | rfl
    · exact ⟨_, Row.read?_of_required hin.drawer h⟩
    · exact ⟨_, Row.read?_of_required hin.drawee h⟩
    · exact ⟨_, Row.read?_of_required hin.payee h⟩
  | optional hrow' hname h hgiven =>
    cases hrow.symm.trans hrow'
    simp only [List.mem_cons, List.not_mem_nil, or_false] at hname
    rcases hname with rfl | rfl | rfl
    · exact exists_read?_of_optional (Row.read?_of_withDefault hin.endorsee h) hgiven
    · exact exists_read?_of_optional (Row.read?_of_withDefault hin.buyer h) hgiven
    · exact exists_read?_of_optional (Row.read?_of_withDefault hin.seller h) hgiven

theorem read?_chain_eq_some {v : Value} {row : Row} {c : Chain}
    (hrow : v.row? ["blocks"] = some row) (h : Codec.read? v = some c) :
    row.required "blocks" = some c.blocks := by
  change (v.row? ["blocks"]).bind (fun row => (row.required "blocks").bind fun bs => some ⟨bs⟩) =
    some c at h
  rw [hrow, Option.bind_some] at h
  obtain ⟨blocks, hblocks, hc⟩ := Option.bind_eq_some_iff.1 h
  rw [← Option.some.inj hc, hblocks]

theorem exists_read?_block {v block : Value} {b : Bill} (hb : Codec.read? v = some b)
    (h : HasBlock v block) : ∃ k : ChainBlock, Codec.read? block = some k := by
  obtain ⟨row, hrow, hin⟩ := read?_eq_some_iff.1 hb
  obtain ⟨hrow', hchain, hchainRow, hblocks, h⟩ := h
  cases hrow.symm.trans hrow'
  have hread := read?_chain_eq_some hchainRow (Row.read?_of_withDefault hin.chain hchain)
  exact exists_read?_of_mem (Row.read?_of_required hread hblocks) h

/-- In a list of bills, some bill, party or block cannot be read. -/
inductive Spoiled (bills : List Value) : Prop
  | bill {v : Value} (hmem : v ∈ bills) (h : (Codec.read? v : Option Bill) = none)
  | party {v party : Value} (hmem : v ∈ bills) (hpart : HasParty v party)
      (h : (Codec.read? party : Option Party) = none)
  | block {v block : Value} (hmem : v ∈ bills) (hpart : HasBlock v block)
      (h : (Codec.read? block : Option ChainBlock) = none)

/-- One part that cannot be read spoils the whole list. -/
theorem read?_of_spoiled {bills : List Value} (h : Spoiled bills) :
    (Codec.read? (.array bills) : Option (List Bill)) = none := by
  rw [Option.eq_none_iff_forall_ne_some]
  intro bs hbs
  cases h with
  | bill hmem hnone =>
    obtain ⟨b, hb⟩ := exists_read?_of_mem hbs hmem
    rw [hnone] at hb
    cases hb
  | party hmem hpart hnone =>
    obtain ⟨b, hb⟩ := exists_read?_of_mem hbs hmem
    obtain ⟨p, hp⟩ := exists_read?_party hb hpart
    rw [hnone] at hp
    cases hp
  | block hmem hpart hnone =>
    obtain ⟨b, hb⟩ := exists_read?_of_mem hbs hmem
    obtain ⟨k, hk⟩ := exists_read?_block hb hpart
    rw [hnone] at hk
    cases hk

end Bill

end BillDesk
