import BillDesk.Service.Error

/-!
# Snapshots from the ledger

A bill that could not be fetched is shown as unavailable, with the reason.
-/

namespace BillDesk

/-- What a view shows for the answer to a query for a bill. -/
def Bill.Snapshot.ofAnswer : Except LedgerError Bill → Bill.Snapshot
  | .ok b => .loaded b
  | .error e => .unavailable e.message

end BillDesk
