import BillDesk.Url.Host

/-!
# URLs

A URL in its parts. Its path is a list of segments, or opaque: then nothing can be appended to it
and it is no base for other URLs.

Appending takes a segment as a whole: it is percent-encoded so that it stays one segment, whatever
delimiters it holds. Tabs and line breaks do not appear in URLs and are dropped, and the names `.`
and `..` mean a place rather than a segment.
-/

namespace BillDesk

inductive Url.Path where
  | segments (parts : List String)
  | opaqueText (text : String)
  deriving DecidableEq

structure Url where
  scheme : String
  user : String := ""
  password : Option String := none
  host : Option Url.Host := none
  port : Option Nat := none
  path : Url.Path
  query : Option String := none
  fragment : Option String := none
  deriving DecidableEq

namespace Url

/-- The port that a scheme implies. The schemes that have one, and `file`, are special. -/
def defaultPort? : String → Option Nat
  | "http" | "ws" => some 80
  | "https" | "wss" => some 443
  | "ftp" => some 21
  | _ => none

def isSpecialScheme (scheme : String) : Bool := scheme == "file" || (defaultPort? scheme).isSome

def isSpecial (u : Url) : Bool := isSpecialScheme u.scheme

/-- Nothing can be appended to the URL. -/
def cannotBeBase (u : Url) : Bool :=
  match u.path with
  | .opaqueText _ => true
  | .segments _ => false

/-! ## Text -/

def Path.text : Path → String
  | .segments parts => String.join (parts.map ("/" ++ ·))
  | .opaqueText s => s

/-- User and password, if there are any, before the host. -/
def userinfoText (u : Url) : String :=
  if u.user.isEmpty && u.password.isNone then ""
  else u.user ++ (u.password.map (":" ++ ·)).getD "" ++ "@"

/-- What stands between the scheme and the path. Without a host, a path that begins with an empty
segment is kept apart from one. -/
def authorityText (u : Url) : String :=
  match u.host with
  | some h =>
      "//" ++ u.userinfoText ++ h.text ++ (u.port.map fun p => ":" ++ Nat.repr p).getD ""
  | none =>
      match u.path with
      | .segments ("" :: _ :: _) => "/."
      | _ => ""

def text (u : Url) : String :=
  u.scheme ++ ":" ++ u.authorityText ++ u.path.text ++
    (u.query.map ("?" ++ ·)).getD "" ++ (u.fragment.map ("#" ++ ·)).getD ""

/-- Path and query, as a request for the URL names it. -/
def target (u : Url) : String := u.path.text ++ (u.query.map ("?" ++ ·)).getD ""

/-! ## Segments -/

/-- Tabs and line breaks, which are dropped wherever they stand in a URL. -/
def isDropped (c : Char) : Bool := c == '\t' || c == '\n' || c == '\r'

/-- The segment as it is written in a path. -/
def encodeSegment (special : Bool) (s : String) : String :=
  let set := if special then inSpecialSegmentSet else inSegmentSet
  String.ofList (percentEncode set (s.toList.filter fun c => !isDropped c))

/-- The segments with one more. Of a path that is just the root, the empty segment is taken. A
segment that becomes `.` by dropping ends the path with an empty segment, and one that becomes `..`
takes the last segment with it. -/
def pushSegment (special : Bool) (parts : List String) (s : String) : List String :=
  if s = "." ∨ s = ".." then parts
  else
    let front := if parts = [""] then [] else parts
    match encodeSegment special s with
    | "." => front ++ [""]
    | ".." => front.dropLast ++ [""]
    | e => front ++ [e]

/-- The segments without an empty one at the end. The root stays. -/
def popIfEmpty (parts : List String) : List String :=
  if 2 ≤ parts.length ∧ parts.getLast? = some "" then parts.dropLast else parts

/-- The URL with further segments after its path, where it has one to append to. -/
def append? (u : Url) (extra : List String) : Option Url :=
  match u.path with
  | .opaqueText _ => none
  | .segments parts =>
      some { u with path := .segments (extra.foldl (pushSegment u.isSpecial) (popIfEmpty parts)) }

end Url

end BillDesk
