/-!
# Notices

A notice is a message to the user that stays until it is dismissed. The board hands out an id for
each notice, never the same one twice, so a dismissed notice cannot be dismissed again.

Results: `dismiss_fst_iff` (dismissing succeeds exactly when a notice of that id is on the board),
`entries_push` (a new notice comes last).
-/

namespace BillDesk

inductive NoticeKind where
  | info
  | success
  | error
  deriving DecidableEq

namespace NoticeKind

def name : NoticeKind → String
  | info => "Info"
  | success => "Success"
  | error => "Error"

/-- The word that a notice is printed with. -/
def label : NoticeKind → String
  | info => "info"
  | success => "ok"
  | error => "error"

end NoticeKind

structure Notice where
  id : Nat
  kind : NoticeKind
  text : String
  deriving DecidableEq

namespace Notice

/-- What a notice says, whichever id it has. -/
def entry (n : Notice) : NoticeKind × String := (n.kind, n.text)

end Notice

/-- The notices that are shown, oldest first. -/
structure NoticeBoard where
  notices : List Notice := []
  /-- The id of the next notice. -/
  nextId : Nat := 0
  deriving DecidableEq

namespace NoticeBoard

def push (b : NoticeBoard) (kind : NoticeKind) (text : String) : NoticeBoard where
  notices := b.notices ++ [⟨b.nextId, kind, text⟩]
  nextId := b.nextId + 1

/-- The board without the notice of that id, and whether it was there. -/
def dismiss (b : NoticeBoard) (id : Nat) : Bool × NoticeBoard :=
  (b.notices.any fun n => n.id == id,
    { b with notices := b.notices.filter fun n => n.id != id })

def clear (b : NoticeBoard) : NoticeBoard := { b with notices := [] }

def latest? (b : NoticeBoard) : Option Notice := b.notices.getLast?

def ofKind (b : NoticeBoard) (kind : NoticeKind) : List Notice :=
  b.notices.filter fun n => n.kind == kind

def isEmpty (b : NoticeBoard) : Bool := b.notices.isEmpty

def size (b : NoticeBoard) : Nat := b.notices.length

/-- What the notices say, oldest first. -/
def entries (b : NoticeBoard) : List (NoticeKind × String) := b.notices.map Notice.entry

theorem entries_push (b : NoticeBoard) (kind : NoticeKind) (text : String) :
    (b.push kind text).entries = b.entries ++ [(kind, text)] := by
  simp [entries, push, Notice.entry]

theorem dismiss_fst_iff {b : NoticeBoard} {id : Nat} :
    (b.dismiss id).1 = true ↔ ∃ n ∈ b.notices, n.id = id := by
  simp [dismiss]

end NoticeBoard

end BillDesk
