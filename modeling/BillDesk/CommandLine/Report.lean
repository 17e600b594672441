import BillDesk.CommandLine.Invocation

/-!
# What a run leaves behind

The printed result goes to standard output and every notice to standard error, and the exit code
tells whether there was an error among the notices. Settings that cannot be used, and a command that
fails itself, end the run with one line.

Results: `ofRun_exitCode_iff` (a command that was printed ends well exactly when no notice is an
error).
-/

namespace BillDesk.CommandLine

structure Report where
  output : String := ""
  errors : String := ""
  exitCode : UInt8
  deriving DecidableEq

namespace Report

/-- The run did not begin, because of the settings. -/
def ofSettingsError (e : Settings.Error) : Report where
  errors := View.line ("Error: " ++ e.message)
  exitCode := 1

/-- The run of a command that left a desk behind. -/
def ofRun (result : Except Command.Failure String) (d : Desk) : Report :=
  match result with
  | .error e => { errors := View.line e.message, exitCode := 1 }
  | .ok output => {
      output
      errors := String.join (d.board.notices.map fun n => View.line (View.notice n))
      exitCode := if (d.board.ofKind .error).isEmpty then 0 else 1 }

theorem ofRun_exitCode_iff {output : String} {d : Desk} :
    (ofRun (.ok output) d).exitCode = 0 ↔ d.board.ofKind .error = [] := by
  simp only [ofRun]
  split <;> simp_all

end Report

/-- Runs a command in a new session with a ledger, which is left in the state that is returned. -/
def Invocation.report {σ : Type} (i : Invocation) (L : Ledger σ) (state : σ) (today : Date) :
    Report × σ :=
  let (result, s) := (i.command.run L today i.format).run { ledger := state }
  (Report.ofRun result s.desk, s.ledger)

end BillDesk.CommandLine
