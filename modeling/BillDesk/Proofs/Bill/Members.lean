import BillDesk.Proofs.Json.Members

/-!
# Which objects are bills

A bill is read from the members of an object, and its parties, its chain and the blocks of the chain
are objects in turn. What each of them denotes is said member by member, without the order of the
members and without those that belong to no field. So a bill is read or refused as a whole, by its
own members and by those of everything it contains.

Results:
1. `readAs_operation`, `readAs_party`, `readAs_block` and `readAs_chain`: the parts of a bill.
2. `read?_object_iff`: an object is read as a bill exactly when its members make that bill.
3. `bill_of_text_iff`: so is every text that spells one, in whatever order the members stand and
   whatever others stand between them.
4. `signed_zero_and_unpaired_name_refused`: the grammar alone makes bills that are refused.
-/

namespace BillDesk

open Json

/-! ## Parts of a bill -/

/-- An operation is given by its name, or by an object whose only member has that name. -/
inductive DenotesOperation : Value → Operation → Prop
  | name (o : Operation) : DenotesOperation (.string (some o.name)) o
  | member (o : Operation) : DenotesOperation (.object [(some o.name, .null)]) o

def DenotesPeerId (v : Value) (p : PeerId) : Prop := DenotesText v p.text

structure PartyMembers (std : Standard) (ms : List (Text × Value)) (p : Party) : Prop where
  names : ∀ m ∈ ms, std.IsName m.1
  name : GivenOnce DenotesText ms "name" p.name
  peerId : GivenOnce DenotesPeerId ms "peer_id" p.peerId
  company : GivenOrDefault DenotesText "" ms "company" p.company
  postalAddress : GivenOrDefault DenotesText "" ms "postal_address" p.postalAddress
  email : GivenOrDefault DenotesText "" ms "email" p.email

def DenotesParty (std : Standard) : Value → Party → Prop := DenotesRecord (PartyMembers std)

structure BlockMembers (std : Standard) (ms : List (Text × Value)) (b : ChainBlock) : Prop where
  names : ∀ m ∈ ms, std.IsName m.1
  id : GivenOnce (DenotesUnsigned std) ms "id" b.id
  operation : GivenOnce DenotesOperation ms "operation_code" b.operation
  signature : GivenOnce DenotesText ms "signature" b.signature
  label : GivenOrDefault DenotesText "" ms "label" b.label
  timestamp : GivenOrDefault (DenotesOptional (DenotesSigned std)) none ms "timestamp" b.timestamp
  hash : GivenOrDefault (DenotesOptional DenotesText) none ms "hash" b.hash
  previousHash :
    GivenOrDefault (DenotesOptional DenotesText) none ms "previous_hash" b.previousHash

def DenotesBlock (std : Standard) : Value → ChainBlock → Prop := DenotesRecord (BlockMembers std)

structure ChainMembers (std : Standard) (ms : List (Text × Value)) (c : Chain) : Prop where
  names : ∀ m ∈ ms, std.IsName m.1
  blocks : GivenOnce (DenotesList (DenotesBlock std)) ms "blocks" c.blocks

def DenotesChain (std : Standard) : Value → Chain → Prop := DenotesRecord (ChainMembers std)

section Parts

variable {v : Value}

theorem Operation.ofName?_eq_some_iff {s : String} {o : Operation} :
    ofName? s = some o ↔ s = o.name := by
  constructor
  · intro h
    rw [ofName?] at h
    have hname := List.find?_some h
    exact (eq_of_beq hname).symm
  · rintro rfl
    exact ofName?_name o

theorem readAs_operation : ReadAs DenotesOperation v := by
  intro o
  constructor
  · intro h
    change readName? Operation.ofName? v = some o at h
    unfold readName? at h
    split at h
    · obtain rfl := Operation.ofName?_eq_some_iff.1 h
      exact .name o
    · obtain rfl := Operation.ofName?_eq_some_iff.1 h
      exact .member o
    · cases h
  · intro h
    cases h with
    | name => exact Operation.ofName?_name o
    | member => exact Operation.ofName?_name o

theorem readAs_peerId : ReadAs DenotesPeerId v := by
  intro p
  show (Codec.read? v).map PeerId.mk = some p ↔ DenotesText v p.text
  rw [← readAs_text, Option.map_eq_some_iff]
  constructor
  · rintro ⟨s, hs, rfl⟩
    exact hs
  · exact fun h => ⟨p.text, h, rfl⟩

theorem PartyMembers.length_le {std : Standard} {ms : List (Text × Value)} {p : Party}
    (h : PartyMembers std ms p) : ∀ f ∈ ["name", "peer_id", "company", "postal_address", "email"],
      (valuesOf ms f).length ≤ 1 := by
  simp only [List.forall_mem_cons, List.not_mem_nil, false_implies, implies_true, and_true]
  exact ⟨h.name.length_le, h.peerId.length_le, h.company.length_le, h.postalAddress.length_le,
    h.email.length_le⟩

theorem readAs_party (harray : ¬IsArray v) : ReadAs (DenotesParty .codec) v := by
  refine readAs_record (fun _ => rfl) (fun ms p h => ⟨h.names, h.length_le⟩) ?_ harray
  intro ms row _ hrow p
  have text : ∀ {name s}, name ∈ ["name", "peer_id", "company", "postal_address", "email"] →
      (row.withDefault name "" = some s ↔ GivenOrDefault DenotesText "" ms name s) :=
    fun hname => withDefault_iff hrow hname fun _ _ => readAs_text
  have name : ∀ {s}, row.required "name" = some s ↔ GivenOnce DenotesText ms "name" s :=
    required_iff hrow (by simp) fun _ _ => readAs_text
  have peerId : ∀ {i}, row.required "peer_id" = some i ↔ GivenOnce DenotesPeerId ms "peer_id" i :=
    required_iff hrow (by simp) fun _ _ => readAs_peerId
  constructor
  · -- One step for each member.
    intro h
    obtain ⟨_, hname, h⟩ := Option.bind_eq_some_iff.1 h
    obtain ⟨_, hpeerId, h⟩ := Option.bind_eq_some_iff.1 h
    obtain ⟨_, hcompany, h⟩ := Option.bind_eq_some_iff.1 h
    obtain ⟨_, haddress, h⟩ := Option.bind_eq_some_iff.1 h
    obtain ⟨_, hemail, h⟩ := Option.bind_eq_some_iff.1 h
    cases h
    exact {
      names := (exists_memberRow_iff.1 ⟨row, hrow⟩).1
      name := name.1 hname
      peerId := peerId.1 hpeerId
      company := (text (by simp)).1 hcompany
      postalAddress := (text (by simp)).1 haddress
      email := (text (by simp)).1 hemail }
  · intro h
    simp only [name.2 h.name, peerId.2 h.peerId, (text (by simp)).2 h.company,
      (text (by simp)).2 h.postalAddress, (text (by simp)).2 h.email]
    rfl

theorem BlockMembers.length_le {std : Standard} {ms : List (Text × Value)} {b : ChainBlock}
    (h : BlockMembers std ms b) : ∀ f ∈ ["id", "operation_code", "signature", "label", "timestamp",
      "hash", "previous_hash"], (valuesOf ms f).length ≤ 1 := by
  simp only [List.forall_mem_cons, List.not_mem_nil, false_implies, implies_true, and_true]
  exact ⟨h.id.length_le, h.operation.length_le, h.signature.length_le, h.label.length_le,
    h.timestamp.length_le, h.hash.length_le, h.previousHash.length_le⟩

theorem readAs_block (harray : ¬IsArray v) : ReadAs (DenotesBlock .codec) v := by
  refine readAs_record (fun _ => rfl) (fun ms b h => ⟨h.names, h.length_le⟩) ?_ harray
  intro ms row _ hrow b
  have id : ∀ {i}, row.required "id" = some i ↔ GivenOnce (DenotesUnsigned .codec) ms "id" i :=
    required_iff hrow (by simp) fun _ _ => readAs_unsigned
  have operation : ∀ {o}, row.required "operation_code" = some o ↔
      GivenOnce DenotesOperation ms "operation_code" o :=
    required_iff hrow (by simp) fun _ _ => readAs_operation
  have signature : ∀ {s}, row.required "signature" = some s ↔
      GivenOnce DenotesText ms "signature" s :=
    required_iff hrow (by simp) fun _ _ => readAs_text
  have label : ∀ {s}, row.withDefault "label" "" = some s ↔
      GivenOrDefault DenotesText "" ms "label" s :=
    withDefault_iff hrow (by simp) fun _ _ => readAs_text
  have timestamp : ∀ {t}, row.withDefault "timestamp" none = some t ↔
      GivenOrDefault (DenotesOptional (DenotesSigned .codec)) none ms "timestamp" t :=
    withDefault_iff hrow (by simp) fun _ _ => readAs_optional fun _ => readAs_signed
  have hash : ∀ {name s}, name ∈ ["hash", "previous_hash"] →
      (row.withDefault name none = some s ↔
        GivenOrDefault (DenotesOptional DenotesText) none ms name s) := by
    intro name s hname
    refine withDefault_iff hrow ?_ fun _ _ => readAs_optional fun _ => readAs_text
    simp only [List.mem_cons] at hname ⊢
    tauto
  constructor
  · -- One step for each member.
    intro h
    obtain ⟨_, hid, h⟩ := Option.bind_eq_some_iff.1 h
    obtain ⟨_, hoperation, h⟩ := Option.bind_eq_some_iff.1 h
    obtain ⟨_, hsignature, h⟩ := Option.bind_eq_some_iff.1 h
    obtain ⟨_, hlabel, h⟩ := Option.bind_eq_some_iff.1 h
    obtain ⟨_, htimestamp, h⟩ := Option.bind_eq_some_iff.1 h
    obtain ⟨_, hhash, h⟩ := Option.bind_eq_some_iff.1 h
    obtain ⟨_, hprevious, h⟩ := Option.bind_eq_some_iff.1 h
    cases h
    exact {
      names := (exists_memberRow_iff.1 ⟨row, hrow⟩).1
      id := id.1 hid
      operation := operation.1 hoperation
      signature := signature.1 hsignature
      label := label.1 hlabel
      timestamp := timestamp.1 htimestamp
      hash := (hash (by simp)).1 hhash
      previousHash := (hash (by simp)).1 hprevious }
  · intro h
    simp only [id.2 h.id, operation.2 h.operation, signature.2 h.signature, label.2 h.label,
      timestamp.2 h.timestamp, (hash (by simp)).2 h.hash, (hash (by simp)).2 h.previousHash]
    rfl

/-- No block stands as an array. -/
def BlocksAsObjects (chain : Value) : Prop :=
  ∀ ms, chain = .object ms → ∀ vs, .array vs ∈ valuesOf ms "blocks" → ∀ v ∈ vs, ¬IsArray v

theorem readAs_chain (harray : ¬IsArray v) (hblocks : BlocksAsObjects v) :
    ReadAs (DenotesChain .codec) v := by
  have honce : ∀ ms c, ChainMembers .codec ms c →
      (∀ m ∈ ms, m.1.isSome = true) ∧ ∀ f ∈ ["blocks"], (valuesOf ms f).length ≤ 1 :=
    fun ms c h => ⟨h.names, by simpa using h.blocks.length_le⟩
  refine readAs_record (fun _ => rfl) honce ?_ harray
  intro ms row hms hrow c
  have blocks : ∀ {bs}, row.required "blocks" = some bs ↔
      GivenOnce (DenotesList (DenotesBlock .codec)) ms "blocks" bs := by
    refine required_iff hrow (by simp) fun w hw => readAs_list fun vs hvs b hb => readAs_block ?_
    exact hblocks ms hms vs (hvs ▸ hw) b hb
  constructor
  · intro h
    obtain ⟨_, hread, h⟩ := Option.bind_eq_some_iff.1 h
    cases h
    exact ⟨(exists_memberRow_iff.1 ⟨row, hrow⟩).1, blocks.1 hread⟩
  · intro h
    simp only [blocks.2 h.blocks]
    rfl

end Parts

/-! ## Bills -/

namespace Bill

@[mk_iff]
structure StatusMembers (ms : List (Text × Value)) (s : Status) : Prop where
  accepted : GivenOrDefault DenotesFlag false ms "accepted" s.accepted
  payed : GivenOrDefault DenotesFlag false ms "payed" s.payed
  pending : GivenOrDefault DenotesFlag false ms "pending" s.pending
  endorsed : GivenOrDefault DenotesFlag false ms "endorsed" s.endorsed
  requestedToAccept : GivenOrDefault DenotesFlag false ms "requested_to_accept" s.requestedToAccept
  requestedToPay : GivenOrDefault DenotesFlag false ms "requested_to_pay" s.requestedToPay
  waitedForPayment : GivenOrDefault DenotesFlag false ms "waited_for_payment" s.waitedForPayment

/-- The members make the bill. Eight of them have to be there. -/
@[mk_iff]
structure Members (std : Standard) (ms : List (Text × Value)) (b : Bill) : Prop where
  names : ∀ m ∈ ms, std.IsName m.1
  name : GivenOnce DenotesText ms "name" b.name
  dateOfIssue : GivenOnce DenotesText ms "date_of_issue" b.dateOfIssue
  maturityDate : GivenOnce DenotesText ms "maturity_date" b.maturityDate
  amount : GivenOnce (DenotesUnsigned std) ms "amount_numbers" b.amount
  currency : GivenOnce DenotesText ms "currency_code" b.currency
  drawer : GivenOnce (DenotesParty std) ms "drawer" b.drawer
  drawee : GivenOnce (DenotesParty std) ms "drawee" b.drawee
  payee : GivenOnce (DenotesParty std) ms "payee" b.payee
  endorsee : GivenOrDefault (DenotesOptional (DenotesParty std)) none ms "endorsee" b.endorsee
  buyer : GivenOrDefault (DenotesOptional (DenotesParty std)) none ms "buyer" b.buyer
  seller : GivenOrDefault (DenotesOptional (DenotesParty std)) none ms "seller" b.seller
  status : StatusMembers ms b.status
  chain : GivenOrDefault (DenotesChain std) .empty ms "chain_of_blocks" b.chain
  placeOfDrawing : GivenOrDefault DenotesText "" ms "place_of_drawing" b.placeOfDrawing
  placeOfPayment : GivenOrDefault DenotesText "" ms "place_of_payment" b.placeOfPayment
  jurisdiction : GivenOrDefault DenotesText "" ms "bill_jurisdiction" b.jurisdiction
  language : GivenOrDefault DenotesText "" ms "language" b.language
  amountInLetters : GivenOrDefault DenotesText "" ms "amounts_letters" b.amountInLetters
  linkToPay : GivenOrDefault (DenotesOptional DenotesText) none ms "link_to_pay" b.linkToPay
  addressToPay :
    GivenOrDefault (DenotesOptional DenotesText) none ms "address_to_pay" b.addressToPay
  linkForBuy : GivenOrDefault (DenotesOptional DenotesText) none ms "link_for_buy" b.linkForBuy
  addressForSelling :
    GivenOrDefault (DenotesOptional DenotesText) none ms "address_for_selling" b.addressForSelling
  amountForSelling : GivenOrDefault (DenotesOptional (DenotesUnsigned std)) none ms
    "amount_for_selling" b.amountForSelling

/-- The fields that hold a party. -/
def roleFields : List String := ["drawer", "drawee", "payee", "endorsee", "buyer", "seller"]

/-- Neither a party nor the chain nor a block of it stands as an array. -/
structure RecordsAsObjects (ms : List (Text × Value)) : Prop where
  parties : ∀ role ∈ roleFields, ∀ v ∈ valuesOf ms role, ¬IsArray v
  chain : ∀ v ∈ valuesOf ms "chain_of_blocks", ¬IsArray v
  blocks : ∀ v ∈ valuesOf ms "chain_of_blocks", BlocksAsObjects v

section Reading

variable {ms : List (Text × Value)} {row : Row}

theorem statusInRow_iff (hrow : memberRow fieldNames ms = some row) {s : Status} :
    StatusInRow row s ↔ StatusMembers ms s := by
  have hflag : ∀ {name : String} {b : Bool}, name ∈ fieldNames →
      (row.withDefault name false = some b ↔ GivenOrDefault DenotesFlag false ms name b) :=
    fun hname => withDefault_iff hrow hname fun _ _ => readAs_flag
  constructor
  · intro h
    exact {
      accepted := (hflag (by simp [fieldNames])).1 h.accepted
      payed := (hflag (by simp [fieldNames])).1 h.payed
      pending := (hflag (by simp [fieldNames])).1 h.pending
      endorsed := (hflag (by simp [fieldNames])).1 h.endorsed
      requestedToAccept := (hflag (by simp [fieldNames])).1 h.requestedToAccept
      requestedToPay := (hflag (by simp [fieldNames])).1 h.requestedToPay
      waitedForPayment := (hflag (by simp [fieldNames])).1 h.waitedForPayment }
  · intro h
    exact {
      accepted := (hflag (by simp [fieldNames])).2 h.accepted
      payed := (hflag (by simp [fieldNames])).2 h.payed
      pending := (hflag (by simp [fieldNames])).2 h.pending
      endorsed := (hflag (by simp [fieldNames])).2 h.endorsed
      requestedToAccept := (hflag (by simp [fieldNames])).2 h.requestedToAccept
      requestedToPay := (hflag (by simp [fieldNames])).2 h.requestedToPay
      waitedForPayment := (hflag (by simp [fieldNames])).2 h.waitedForPayment }

/-- What is read from the row is what the members make, each in its own place. -/
theorem inRow_iff (hobjects : RecordsAsObjects ms) (hrow : memberRow fieldNames ms = some row)
    {b : Bill} : InRow row b ↔ Members .codec ms b := by
  -- One fact for each type that a member of a bill has.
  have text : ∀ {name s}, name ∈ fieldNames →
      (row.required name = some s ↔ GivenOnce DenotesText ms name s) :=
    fun hname => required_iff hrow hname fun _ _ => readAs_text
  have amount : ∀ {name n}, name ∈ fieldNames →
      (row.required name = some n ↔ GivenOnce (DenotesUnsigned .codec) ms name n) :=
    fun hname => required_iff hrow hname fun _ _ => readAs_unsigned
  have party : ∀ {name p}, name ∈ fieldNames → name ∈ roleFields →
      (row.required name = some p ↔ GivenOnce (DenotesParty .codec) ms name p) :=
    fun hname hrole => required_iff hrow hname fun v hv =>
      readAs_party (hobjects.parties _ hrole v hv)
  have party? : ∀ {name p}, name ∈ fieldNames → name ∈ roleFields →
      (row.withDefault name none = some p ↔
        GivenOrDefault (DenotesOptional (DenotesParty .codec)) none ms name p) :=
    fun hname hrole => withDefault_iff hrow hname fun v hv => readAs_optional fun _ =>
      readAs_party (hobjects.parties _ hrole v hv)
  have chain : ∀ {c}, row.withDefault "chain_of_blocks" .empty = some c ↔
      GivenOrDefault (DenotesChain .codec) .empty ms "chain_of_blocks" c :=
    withDefault_iff hrow (by simp [fieldNames]) fun v hv =>
      readAs_chain (hobjects.chain v hv) (hobjects.blocks v hv)
  have detail : ∀ {name s}, name ∈ fieldNames →
      (row.withDefault name "" = some s ↔ GivenOrDefault DenotesText "" ms name s) :=
    fun hname => withDefault_iff hrow hname fun _ _ => readAs_text
  have detail? : ∀ {name s}, name ∈ fieldNames →
      (row.withDefault name none = some s ↔
        GivenOrDefault (DenotesOptional DenotesText) none ms name s) :=
    fun hname => withDefault_iff hrow hname fun _ _ => readAs_optional fun _ => readAs_text
  have amount? : ∀ {name n}, name ∈ fieldNames →
      (row.withDefault name none = some n ↔
        GivenOrDefault (DenotesOptional (DenotesUnsigned .codec)) none ms name n) :=
    fun hname => withDefault_iff hrow hname fun _ _ => readAs_optional fun _ => readAs_unsigned
  constructor
  · intro h
    exact {
      names := (exists_memberRow_iff.1 ⟨row, hrow⟩).1
      name := (text (by simp [fieldNames])).1 h.name
      dateOfIssue := (text (by simp [fieldNames])).1 h.dateOfIssue
      maturityDate := (text (by simp [fieldNames])).1 h.maturityDate
      amount := (amount (by simp [fieldNames])).1 h.amount
      currency := (text (by simp [fieldNames])).1 h.currency
      drawer := (party (by simp [fieldNames]) (by simp [roleFields])).1 h.drawer
      drawee := (party (by simp [fieldNames]) (by simp [roleFields])).1 h.drawee
      payee := (party (by simp [fieldNames]) (by simp [roleFields])).1 h.payee
      endorsee := (party? (by simp [fieldNames]) (by simp [roleFields])).1 h.endorsee
      buyer := (party? (by simp [fieldNames]) (by simp [roleFields])).1 h.buyer
      seller := (party? (by simp [fieldNames]) (by simp [roleFields])).1 h.seller
      status := (statusInRow_iff hrow).1 h.status
      chain := chain.1 h.chain
      placeOfDrawing := (detail (by simp [fieldNames])).1 h.placeOfDrawing
      placeOfPayment := (detail (by simp [fieldNames])).1 h.placeOfPayment
      jurisdiction := (detail (by simp [fieldNames])).1 h.jurisdiction
      language := (detail (by simp [fieldNames])).1 h.language
      amountInLetters := (detail (by simp [fieldNames])).1 h.amountInLetters
      linkToPay := (detail? (by simp [fieldNames])).1 h.linkToPay
      addressToPay := (detail? (by simp [fieldNames])).1 h.addressToPay
      linkForBuy := (detail? (by simp [fieldNames])).1 h.linkForBuy
      addressForSelling := (detail? (by simp [fieldNames])).1 h.addressForSelling
      amountForSelling := (amount? (by simp [fieldNames])).1 h.amountForSelling }
  · intro h
    exact {
      name := (text (by simp [fieldNames])).2 h.name
      dateOfIssue := (text (by simp [fieldNames])).2 h.dateOfIssue
      maturityDate := (text (by simp [fieldNames])).2 h.maturityDate
      amount := (amount (by simp [fieldNames])).2 h.amount
      currency := (text (by simp [fieldNames])).2 h.currency
      drawer := (party (by simp [fieldNames]) (by simp [roleFields])).2 h.drawer
      drawee := (party (by simp [fieldNames]) (by simp [roleFields])).2 h.drawee
      payee := (party (by simp [fieldNames]) (by simp [roleFields])).2 h.payee
      endorsee := (party? (by simp [fieldNames]) (by simp [roleFields])).2 h.endorsee
      buyer := (party? (by simp [fieldNames]) (by simp [roleFields])).2 h.buyer
      seller := (party? (by simp [fieldNames]) (by simp [roleFields])).2 h.seller
      status := (statusInRow_iff hrow).2 h.status
      chain := chain.2 h.chain
      placeOfDrawing := (detail (by simp [fieldNames])).2 h.placeOfDrawing
      placeOfPayment := (detail (by simp [fieldNames])).2 h.placeOfPayment
      jurisdiction := (detail (by simp [fieldNames])).2 h.jurisdiction
      language := (detail (by simp [fieldNames])).2 h.language
      amountInLetters := (detail (by simp [fieldNames])).2 h.amountInLetters
      linkToPay := (detail? (by simp [fieldNames])).2 h.linkToPay
      addressToPay := (detail? (by simp [fieldNames])).2 h.addressToPay
      linkForBuy := (detail? (by simp [fieldNames])).2 h.linkForBuy
      addressForSelling := (detail? (by simp [fieldNames])).2 h.addressForSelling
      amountForSelling := (amount? (by simp [fieldNames])).2 h.amountForSelling }

theorem Members.length_le {b : Bill} {std : Standard} (h : Members std ms b) :
    ∀ f ∈ fieldNames, (valuesOf ms f).length ≤ 1 := by
  simp only [fieldNames, List.forall_mem_cons, List.not_mem_nil, false_implies, implies_true,
    and_true]
  exact ⟨h.name.length_le, h.dateOfIssue.length_le, h.maturityDate.length_le, h.amount.length_le,
    h.currency.length_le, h.drawer.length_le, h.drawee.length_le, h.payee.length_le,
    h.endorsee.length_le, h.buyer.length_le, h.seller.length_le, h.status.accepted.length_le,
    h.status.payed.length_le, h.status.pending.length_le, h.status.endorsed.length_le,
    h.status.requestedToAccept.length_le, h.status.requestedToPay.length_le,
    h.status.waitedForPayment.length_le, h.chain.length_le, h.placeOfDrawing.length_le,
    h.placeOfPayment.length_le, h.jurisdiction.length_le, h.language.length_le,
    h.amountInLetters.length_le, h.linkToPay.length_le, h.addressToPay.length_le,
    h.linkForBuy.length_le, h.addressForSelling.length_le, h.amountForSelling.length_le⟩

/-- An object is read as the bill that its members make. -/
theorem read?_object_iff (hobjects : RecordsAsObjects ms) {b : Bill} :
    Codec.read? (.object ms) = some b ↔ Members .codec ms b := by
  have hread : ReadAs (DenotesRecord (Members .codec)) (.object ms) := by
    refine readAs_record (fun _ => rfl) (fun ms b h => ⟨h.names, h.length_le⟩) ?_
      (by rintro ⟨_, ⟨⟩⟩)
    rintro _ row ⟨⟩ hrow b
    rw [readRow?_eq_some_iff, inRow_iff hobjects hrow]
  exact (hread b).trans denotesRecord_object_iff

end Reading

/-! ## Other members -/

section Others

variable {ms ms' : List (Text × Value)}

/-- Neither the order of the members matters nor what belongs to no field. -/
theorem Members.of_values {std : Standard} {b : Bill} (h : Members std ms b)
    (hnames : ∀ m ∈ ms', std.IsName m.1)
    (hsame : ∀ f ∈ fieldNames, valuesOf ms' f = valuesOf ms f) : Members std ms' b := by
  simp only [fieldNames, List.forall_mem_cons, List.not_mem_nil, false_implies, implies_true,
    and_true] at hsame
  rw [members_iff] at h ⊢
  refine ⟨hnames, ?_⟩
  simpa only [statusMembers_iff, GivenOnce, GivenOrDefault, hsame] using h.2

theorem RecordsAsObjects.of_values (h : RecordsAsObjects ms)
    (hsame : ∀ f ∈ fieldNames, valuesOf ms' f = valuesOf ms f) : RecordsAsObjects ms' where
  parties role hrole := by
    have hfield : role ∈ fieldNames := by
      revert role
      decide
    rw [hsame role hfield]
    exact h.parties role hrole
  chain := by
    rw [hsame _ (by simp [fieldNames])]
    exact h.chain
  blocks := by
    rw [hsame _ (by simp [fieldNames])]
    exact h.blocks

end Others

/-! ## A bill without parties -/

def nobody : Party := { name := "", peerId := ⟨""⟩ }

def nobodyMembers : List (Text × Value) := [(some "name", .text ""), (some "peer_id", .text "")]

/-- A bill of which nothing is given that has a default. -/
def draft (amount : UInt64) : Bill where
  name := "bill-1"
  dateOfIssue := "2025-01-15"
  maturityDate := "2025-07-15"
  amount := amount
  currency := "sat"
  drawer := nobody
  drawee := nobody
  payee := nobody

def draftMembers (amount : Value) : List (Text × Value) :=
  [(some "name", .text "bill-1"), (some "date_of_issue", .text "2025-01-15"),
    (some "maturity_date", .text "2025-07-15"), (some "amount_numbers", amount),
    (some "currency_code", .text "sat"), (some "drawer", .object nobodyMembers),
    (some "drawee", .object nobodyMembers), (some "payee", .object nobodyMembers)]

theorem denotesParty_nobody (std : Standard) : DenotesParty std (.object nobodyMembers) nobody := by
  refine .object {
    names := ?_
    name := ⟨_, rfl, .text _⟩
    peerId := ⟨_, rfl, .text _⟩
    company := .inl ⟨rfl, rfl⟩
    postalAddress := .inl ⟨rfl, rfl⟩
    email := .inl ⟨rfl, rfl⟩ }
  simp [nobodyMembers, Standard.isName_some]

theorem members_draft {std : Standard} {v : Value} {amount : UInt64}
    (h : DenotesUnsigned std v amount) : Members std (draftMembers v) (draft amount) := by
  have habsent : ∀ {α : Type} {Denotes : Value → α → Prop} {default : α} {name : String},
      valuesOf (draftMembers v) name = [] →
        GivenOrDefault Denotes default (draftMembers v) name default :=
    fun hnone => .inl ⟨hnone, rfl⟩
  exact {
    names := by simp [draftMembers, Standard.isName_some]
    name := ⟨_, rfl, .text _⟩
    dateOfIssue := ⟨_, rfl, .text _⟩
    maturityDate := ⟨_, rfl, .text _⟩
    amount := ⟨_, rfl, h⟩
    currency := ⟨_, rfl, .text _⟩
    drawer := ⟨_, rfl, denotesParty_nobody std⟩
    drawee := ⟨_, rfl, denotesParty_nobody std⟩
    payee := ⟨_, rfl, denotesParty_nobody std⟩
    endorsee := habsent rfl
    buyer := habsent rfl
    seller := habsent rfl
    status := ⟨habsent rfl, habsent rfl, habsent rfl, habsent rfl, habsent rfl, habsent rfl,
      habsent rfl⟩
    chain := habsent rfl
    placeOfDrawing := habsent rfl
    placeOfPayment := habsent rfl
    jurisdiction := habsent rfl
    language := habsent rfl
    amountInLetters := habsent rfl
    linkToPay := habsent rfl
    addressToPay := habsent rfl
    linkForBuy := habsent rfl
    addressForSelling := habsent rfl
    amountForSelling := habsent rfl }

theorem recordsAsObjects_draft (v : Value) : RecordsAsObjects (draftMembers v) where
  parties := by
    have hnobody : ∀ role ∈ roleFields, ∀ w ∈ valuesOf (draftMembers v) role,
        w = .object nobodyMembers := by
      simp [roleFields, valuesOf, draftMembers]
    rintro role hrole w hw ⟨vs, hvs⟩
    cases (hnobody role hrole w hw).symm.trans hvs
  chain _ hw := absurd hw List.not_mem_nil
  blocks _ hw := absurd hw List.not_mem_nil

theorem integral_draft {v : Value} (h : v.Integral) :
    ∀ m ∈ draftMembers v, m.2.Integral := by
  have hnobody : (Value.object nobodyMembers).Integral := .object (by
    simp only [nobodyMembers, List.forall_mem_cons, List.not_mem_nil, false_implies, implies_true,
      and_true]
    exact ⟨.string _, .string _⟩)
  simp only [draftMembers, List.forall_mem_cons, List.not_mem_nil, false_implies, implies_true,
    and_true]
  exact ⟨.string _, .string _, .string _, h, .string _, hnobody, hnobody, hnobody⟩

/-! ## Texts -/

/-- A text is decoded to a bill exactly when its members make that bill. Another text that gives the
same values for every field is decoded to the same, in whatever order they stand, and whatever other
members stand between them. -/
theorem bill_of_text_iff {s : String} {ms : List (Text × Value)} (hs : IsText s (.object ms))
    (hobjects : RecordsAsObjects ms) :
    (∀ b, decode? Bill (Json.read? s) = some b ↔ Members .codec ms b) ∧
      ∀ s' ms', IsText s' (.object ms') → (∀ m ∈ ms ++ ms', Standard.codec.IsName m.1) →
        (∀ f ∈ fieldNames, valuesOf ms' f = valuesOf ms f) →
        decode? Bill (Json.read? s') = decode? Bill (Json.read? s) := by
  have hdecode : ∀ {s ms} (b : Bill), IsText s (.object ms) → RecordsAsObjects ms →
      (decode? Bill (Json.read? s) = some b ↔ Members .codec ms b) := by
    intro s ms b hs hobjects
    rw [read?_of_isText hs, decode?, Option.bind_some, read?_object_iff hobjects]
  refine ⟨fun b => hdecode b hs hobjects, fun s' ms' hs' hnames hsame => ?_⟩
  obtain ⟨hnames, hnames'⟩ := List.forall_mem_append.1 hnames
  refine Option.ext fun b => ?_
  rw [hdecode b hs hobjects, hdecode b hs' (hobjects.of_values hsame)]
  constructor
  · exact fun h => h.of_values hnames fun f hf => (hsame f hf).symm
  · exact fun h => h.of_values hnames' hsame

/-- The draft is decoded from its members in reverse as well, with another member in front. -/
theorem bill_of_text_draft :
    decode? Bill (Json.read? (compact (.object (draftMembers (.nat 21))))) = some (draft 21) ∧
      decode? Bill (Json.read? (compact (.object
        ((some "note", .nat 7) :: (draftMembers (.nat 21)).reverse)))) = some (draft 21) := by
  have hintegral := integral_draft (.integer false 21)
  have htext : IsText (compact (.object (draftMembers (.nat 21))))
      (.object (draftMembers (.nat 21))) := isText_compact (.object hintegral)
  obtain ⟨hbill, hother⟩ := bill_of_text_iff htext (recordsAsObjects_draft _)
  have hdraft := (hbill (draft 21)).2 (members_draft (.unsigned 21))
  refine ⟨hdraft, (hother _ _ (isText_compact (.object ?_)) ?_ ?_).trans hdraft⟩
  · rw [List.forall_mem_cons]
    exact ⟨.integer false 7, fun m hm => hintegral m (List.mem_reverse.1 hm)⟩
  · simp [draftMembers, Standard.isName_some]
  · simp only [fieldNames, List.forall_mem_cons, List.not_mem_nil, false_implies, implies_true,
      and_true]
    and_intros <;> rfl

/-- By the grammar the text makes a bill, and it is refused. -/
structure Refused (s : String) (ms : List (Text × Value)) (b : Bill) : Prop where
  text : IsText s (.object ms)
  objects : RecordsAsObjects ms
  members : Members .grammar ms b
  refused : decode? Bill (Json.read? s) = none

/-- Neither a zero with a sign nor a name without a text is accepted. -/
theorem signed_zero_and_unpaired_name_refused :
    Refused (compact (.object (draftMembers (.integer true 0)))) (draftMembers (.integer true 0))
        (draft 0) ∧
      Refused (compact (.object ((none, .null) :: draftMembers (.nat 21))))
        ((none, .null) :: draftMembers (.nat 21)) (draft 21) := by
  have hnone : ∀ {s ms}, IsText s (.object ms) → RecordsAsObjects ms →
      (∀ b, ¬Members .codec ms b) → decode? Bill (Json.read? s) = none := by
    intro s ms hs hobjects hno
    rw [read?_of_isText hs, decode?, Option.bind_some, Option.eq_none_iff_forall_ne_some]
    exact fun b hb => hno b ((read?_object_iff hobjects).1 hb)
  constructor
  · have htext := isText_compact (.object (integral_draft (.integer true 0)))
    have hobjects := recordsAsObjects_draft (.integer true 0)
    refine ⟨htext, hobjects, members_draft (.negative (by rintro ⟨⟩)), hnone htext hobjects ?_⟩
    intro b hb
    obtain ⟨v, hv, hamount⟩ := hb.amount
    obtain rfl : Value.integer true 0 = v := List.head_eq_of_cons_eq hv
    exact absurd ((denotesInteger_negative_iff.1 hamount).2 rfl) (Nat.lt_irrefl 0)
  · have hintegral : ∀ m ∈ (none, Value.null) :: draftMembers (.nat 21), m.2.Integral :=
      List.forall_mem_cons.2 ⟨.null, integral_draft (.integer false 21)⟩
    have htext := isText_compact (.object hintegral)
    have hobjects : RecordsAsObjects ((none, .null) :: draftMembers (.nat 21)) :=
      (recordsAsObjects_draft (.nat 21)).of_values fun _ _ => rfl
    have hmembers : Members .grammar (draftMembers (.nat 21)) (draft 21) :=
      members_draft (.unsigned 21)
    refine ⟨htext, hobjects, hmembers.of_values (fun _ _ => trivial) fun _ _ => rfl,
      hnone htext hobjects ?_⟩
    intro b hb
    exact absurd (hb.names (none, .null) (List.mem_cons_self ..)) (by rintro ⟨⟩)

end Bill

end BillDesk
