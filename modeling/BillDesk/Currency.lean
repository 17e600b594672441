/-!
# Currencies

The ledger settles bills in satoshis only. Other currency codes are kept as the ledger sends them,
but no bill is issued in one.
-/

namespace BillDesk.Currency

def sat : String := "sat"

/-- The codes that a bill may be issued in. -/
def valid : List String := [sat]

end BillDesk.Currency
