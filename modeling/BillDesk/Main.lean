import BillDesk.CommandLine.Report
import BillDesk.Ledger.Message
import BillDesk.Ledger.Replay
import Std.Async.DNS
import Std.Async.TCP
import Std.Async.Timer
import Std.Time

/-!
# The program

Everything here is input and output: the arguments and the environment are read, requests are
carried over sockets, and the report is printed.
-/

namespace BillDesk

open Std Async Http

/-- Today, where the program runs. -/
def currentDate : IO (Option Date) := do
  let d ← Time.PlainDate.now
  return Date.ofParts? d.year.toInt d.month.toNat d.day.toNat

def socketAddress (address : Net.IPAddr) (port : UInt16) : Net.SocketAddress :=
  match address with
  | .v4 a => .v4 ⟨a, port⟩
  | .v6 a => .v6 ⟨a, port⟩

/-- What a connection delivers until it is closed. -/
partial def receiveAll (socket : TCP.Socket.Client) (received : ByteArray) : Async ByteArray := do
  match ← socket.recv? 65536 with
  | some bytes => receiveAll socket (received ++ bytes)
  | none => return received

/-- One exchange over a new connection. -/
def exchange (r : Request) : Async (Option Response) := do
  if r.url.scheme != "http" then return none
  let port := r.url.port.getD 80
  let host := (r.url.host.map Url.Host.text).getD ""
  let addresses ← DNS.getAddrInfo host (Nat.repr port)
  match addresses[0]? with
  | none => return none
  | some address =>
      let socket ← TCP.Socket.Client.mk
      socket.connect (socketAddress address port.toUInt16)
      socket.send r.bytes
      return Response.ofBytes? (← receiveAll socket .empty)

/-- One exchange within the time that it may take. -/
def carry (timeoutSeconds : UInt64) (r : Request) : IO (Option Response) := do
  let timeout : Async (Option Response) := do
    Async.sleep (.ofNat (timeoutSeconds.toNat * 1000))
    return none
  try (Async.race (exchange r) timeout).block
  catch _ => return none

/-- Runs a command against the server, replaying it with every further response. -/
partial def converse (i : CommandLine.Invocation) (s : Settings) (today : Date)
    (heard : List (Option Response)) : IO CommandLine.Report := do
  let ledger := (LedgerClient.ofSettings s).ledger Replay.transport
  let (report, replay) := i.report ledger { heard } today
  match replay.wanted with
  | none => return report
  | some request => converse i s today (heard ++ [← carry s.timeoutSeconds request])

def usage : String :=
  "Usage: billdesk [OPTIONS] <identity|contacts|bills|bill|issue|balance|opcodes|help>\n"

/-- Prints what was asked for, or how the program is used. -/
def answerUsage (e : CommandLine.UsageError) : IO Unit :=
  match e with
  | .help => IO.print usage
  | .version => IO.println "billdesk"
  | _ => IO.eprint usage

def runProgram (args : List String) : IO UInt8 := do
  let names := CommandLine.program.options.filterMap CommandLine.Parameter.environment
  let environment ← names.mapM fun name => return (name, ← IO.getEnv name)
  match CommandLine.Invocation.ofArguments (fun name => (environment.lookup name).join) args with
  | .error e =>
      answerUsage e
      return e.exitCode
  | .ok i =>
      let report ←
        match i.settings, ← currentDate with
        | .error e, _ => pure (.ofSettingsError e)
        | .ok _, none => throw (.userError "no date today")
        | .ok s, some today => converse i s today []
      IO.print report.output
      IO.eprint report.errors
      return report.exitCode

end BillDesk

def main (args : List String) : IO UInt32 := do
  return (← BillDesk.runProgram args).toUInt32
