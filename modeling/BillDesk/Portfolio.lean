import BillDesk.Bill.Basic

/-!
# The list of bills

Bills are listed newest first, and may be narrowed to those on which the local peer has a role.

Results: `newestFirst_perm` (ordering loses and invents no bill).
-/

namespace BillDesk.Portfolio

/-- Which bills of the list to keep. -/
inductive Filter where
  | all
  | payee
  | drawer
  | drawee
  deriving DecidableEq

def Filter.keeps (f : Filter) (peer : PeerId) (b : Bill) : Bool :=
  match f with
  | .all => true
  | .payee => b.hasRole .payee peer
  | .drawer => b.hasRole .drawer peer
  | .drawee => b.hasRole .drawee peer

def select (bills : List Bill) (peer : PeerId) (f : Filter) : List Bill :=
  bills.filter (f.keeps peer)

/-- A bill may stand before another: it was issued on the same day or later, or the other has no
readable issue date. -/
def mayPrecede (a b : Bill) : Bool :=
  match a.issueDate?, b.issueDate? with
  | some x, some y => x.compare y != .lt
  | _, none => true
  | none, some _ => false

/-- Newest first. Bills without a readable issue date come last, and bills of one day keep their
order. -/
def newestFirst (bills : List Bill) : List Bill := bills.mergeSort mayPrecede

theorem newestFirst_perm (bills : List Bill) : (newestFirst bills).Perm bills :=
  List.mergeSort_perm bills mayPrecede

end BillDesk.Portfolio
