import BillDesk.Text.Blank
import BillDesk.Url.Parser

/-!
# Settings

Where the ledger is, what token it is given, and how long an answer may take.
-/

namespace BillDesk

structure Settings where
  /-- Requests go to paths below this URL. -/
  base : Url
  /-- Sent with every request as a bearer token. -/
  token : Option String
  timeoutSeconds : UInt64
  deriving DecidableEq

namespace Settings

inductive Error where
  | invalidUrl (text : String) (reason : Url.Error)
  | noBaseUrl (url : Url)
  | noTimeout
  deriving DecidableEq

def Error.message : Error → String
  | .invalidUrl text reason => "Invalid ledger URL " ++ text ++ ": " ++ reason.message
  | .noBaseUrl url => "Ledger URL " ++ url.text ++ " can't be a base URL"
  | .noTimeout => "Request timeout has to be at least one second"

def defaultUrl : String := "http://localhost:8000"

def defaultTimeoutSeconds : UInt64 := 30

/-- Settings that the ledger can be reached with. A blank token counts as none. -/
def ofInput (url : String) (token : Option String) (timeoutSeconds : UInt64) :
    Except Error Settings :=
  match Url.parse url with
  | .error reason => .error (.invalidUrl url reason)
  | .ok base =>
      if base.cannotBeBase then .error (.noBaseUrl base)
      else if timeoutSeconds = 0 then .error .noTimeout
      else .ok { base, token := token.filter fun t => !Text.isBlank t, timeoutSeconds }

end Settings

end BillDesk
