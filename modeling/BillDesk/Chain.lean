import BillDesk.Json.Codec

/-!
# The chain of custody

The ledger keeps a chain of blocks for each bill, one block for each operation on it. The set of
operations is closed, and the chain of a sound ledger has exactly one issue block, at its start.
-/

namespace BillDesk

/-- What a block records. -/
inductive Operation where
  | issue
  | accept
  | decline
  | endorse
  | requestToAccept
  | requestToPay
  | sell
  deriving DecidableEq

namespace Operation

def all : List Operation :=
  [.issue, .accept, .decline, .endorse, .requestToAccept, .requestToPay, .sell]

def name : Operation → String
  | .issue => "Issue"
  | .accept => "Accept"
  | .decline => "Decline"
  | .endorse => "Endorse"
  | .requestToAccept => "RequestToAccept"
  | .requestToPay => "RequestToPay"
  | .sell => "Sell"

def ofName? (s : String) : Option Operation := all.find? fun o => o.name == s

theorem ofName?_name (o : Operation) : ofName? o.name = some o := by cases o <;> decide

instance : Json.Codec Operation where
  write o := .text o.name
  read? := Json.readName? ofName?

end Operation

structure ChainBlock where
  id : UInt64
  operation : Operation
  signature : String
  label : String
  timestamp : Option Int64
  hash : Option String
  previousHash : Option String
  deriving DecidableEq

/-- The blocks of a bill, oldest first. -/
structure Chain where
  blocks : List ChainBlock
  deriving DecidableEq

namespace Chain

def empty : Chain := ⟨[]⟩

def first? (c : Chain) : Option ChainBlock := c.blocks.head?

def latest? (c : Chain) : Option ChainBlock := c.blocks.getLast?

/-- Some block records the operation. -/
def records (c : Chain) (o : Operation) : Bool := c.blocks.any fun b => b.operation == o

/-- Exactly one block issues the bill, and it is the first. -/
def isWellFormed (c : Chain) : Bool :=
  c.blocks.countP (fun b => b.operation == .issue) == 1 &&
    c.first?.any fun b => b.operation == .issue

end Chain

open Json in
instance : Codec ChainBlock where
  write b := .record [
    ("id", Codec.write b.id),
    ("operation_code", Codec.write b.operation),
    ("signature", Codec.write b.signature),
    ("label", Codec.write b.label),
    ("timestamp", Codec.write b.timestamp),
    ("hash", Codec.write b.hash),
    ("previous_hash", Codec.write b.previousHash)]
  read? v := do
    let row ← v.row? ["id", "operation_code", "signature", "label", "timestamp", "hash",
      "previous_hash"]
    return {
      id := ← row.required "id"
      operation := ← row.required "operation_code"
      signature := ← row.required "signature"
      label := ← row.withDefault "label" ""
      timestamp := ← row.withDefault "timestamp" none
      hash := ← row.withDefault "hash" none
      previousHash := ← row.withDefault "previous_hash" none }

open Json in
instance : Codec Chain where
  write c := .record [("blocks", Codec.write c.blocks)]
  read? v := do
    let row ← v.row? ["blocks"]
    return ⟨← row.required "blocks"⟩

end BillDesk
