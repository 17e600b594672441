import BillDesk.Url.Basic

/-!
# Reading URLs

An absolute URL is read part by part: scheme, user, host, port, path, query, fragment. Control
characters and spaces around it do not count, nor do tabs and line breaks within it, except right
behind the drive of a file path. What stands where it may not is percent-encoded, so that the text
of the result is a canonical form of the input.
-/

namespace BillDesk.Url

def isAsciiLetter (c : Char) : Bool := ('a' ≤ c && c ≤ 'z') || ('A' ≤ c && c ≤ 'Z')

def isSchemeChar (c : Char) : Bool :=
  isAsciiLetter c || Text.isDigit c || c == '+' || c == '-' || c == '.'

/-- The input without the control characters and spaces around it. -/
def trimOuter (s : String) : List Char :=
  let isOuter (c : Char) : Bool := c.toNat ≤ 0x20
  ((s.toList.dropWhile isOuter).reverse.dropWhile isOuter).reverse

/-- The characters without tabs and line breaks. -/
def clean (cs : List Char) : List Char := cs.filter fun c => !isDropped c

/-- The scheme in lower case, and what follows its colon. -/
def readScheme? (cs : List Char) : Option (String × List Char) :=
  let scheme := cs.takeWhile isSchemeChar
  match scheme, cs.drop scheme.length with
  | c :: _, ':' :: rest =>
      if isAsciiLetter c then some (String.ofList (scheme.map Char.toLower), rest) else none
  | _, _ => none

/-- A slash, or a backslash where it counts as one. -/
def isSlash (special : Bool) (c : Char) : Bool := c == '/' || (special && c == '\\')

/-- The character ends the part of the URL before the path. -/
def endsAuthority (special : Bool) (c : Char) : Bool := isSlash special c || c == '?' || c == '#'

/-! ## User and password -/

structure Userinfo where
  user : String := ""
  password : Option String := none

/-- The characters before the last occurrence of a character and those after it. -/
def splitAtLast (sep : Char) (cs : List Char) : Option (List Char × List Char) :=
  if cs.contains sep then
    let after := (cs.reverse.takeWhile (· != sep)).reverse
    some (cs.take (cs.length - after.length - 1), after)
  else none

def Userinfo.ofChars (cs : List Char) : Userinfo :=
  let user := cs.takeWhile (· != ':')
  let encode (part : List Char) : String := String.ofList (percentEncode inUserinfoSet part)
  match cs.drop user.length with
  | _ :: c :: r => { user := encode user, password := some (encode (c :: r)) }
  | _ => { user := encode user }

/-- User and password up to the last `@` before the path, and what follows. -/
def readUserinfo (special : Bool) (cs : List Char) : Except Error (Userinfo × List Char) :=
  let authority := cs.takeWhile fun c => !endsAuthority special c
  let rest := cs.drop authority.length
  match splitAtLast '@' authority with
  | none => .ok ({}, cs)
  | some (info, host) =>
      if info.isEmpty && host.isEmpty && !rest.isEmpty then .error .emptyHost
      else .ok (Userinfo.ofChars info, host ++ rest)

/-! ## Host and port -/

/-- The host at the front: up to a colon outside of brackets, or to the path. -/
def hostChars (special : Bool) : Bool → List Char → List Char
  | _, [] => []
  | inBrackets, c :: r =>
      if (c == ':' && !inBrackets) || endsAuthority special c then []
      else c :: hostChars special (c == '[' || (inBrackets && c != ']')) r

/-- The port after its colon. The one that the scheme implies is left out. -/
def readPort (scheme : String) (cs : List Char) : Except Error (Option Nat × List Char) :=
  let (digits, rest) := Text.spanDigits cs
  let port := Text.digitsValue digits
  if 65535 < port then .error .invalidPort
  else if rest.head?.any fun c => !endsAuthority true c then .error .invalidPort
  else if digits.isEmpty || defaultPort? scheme == some port then .ok (none, rest)
  else .ok (some port, rest)

structure Authority where
  info : Userinfo := {}
  host : Host
  port : Option Nat := none

/-- What follows the double slash, up to the path. -/
def readAuthority (scheme : String) (cs : List Char) : Except Error (Authority × List Char) := do
  let special := isSpecialScheme scheme
  let (info, afterInfo) ← readUserinfo special cs
  let chars := hostChars special false afterInfo
  let afterHost := afterInfo.drop chars.length
  if chars.isEmpty && (special || afterHost.head? == some ':') then throw .emptyHost
  let host ← if special then domainHost chars else plainHost chars
  if chars.isEmpty && !(info.user.isEmpty && info.password.isNone) then throw .emptyHost
  match afterHost with
  | ':' :: r => do
      let (port, rest) ← readPort scheme r
      return (⟨info, host, port⟩, rest)
  | rest => return (⟨info, host, none⟩, rest)

/-! ## Path -/

/-- Splits at each slash. -/
def splitSegments (special : Bool) : List Char → List (List Char)
  | [] => [[]]
  | c :: r =>
      if isSlash special c then [] :: splitSegments special r
      else
        match splitSegments special r with
        | [] => [[c]]
        | part :: parts => (c :: part) :: parts

def isSingleDot (s : List Char) : Bool :=
  ["." , "%2e", "%2E"].contains (String.ofList s)

def isDoubleDot (s : List Char) : Bool :=
  ["..", ".%2e", ".%2E", "%2e.", "%2E.", "%2e%2e", "%2e%2E", "%2E%2e", "%2E%2E"].contains
    (String.ofList s)

/-- A letter and a colon, or a bar in its place. -/
def isDriveLetter : List Char → Bool
  | [c, d] => isAsciiLetter c && (d == ':' || d == '|')
  | _ => false

/-- A segment that names a drive, where a backslash may follow. It is not taken back by `..`. -/
def isDrive (part : String) : Bool := isDriveLetter (part.toList.takeWhile (· != '\\'))

/-- The drive at the front of a segment and what a tab or line break parts from it. -/
def splitAtBreak? (segment : List Char) : Option (String × List Char) :=
  match segment.dropWhile isDropped with
  | [] => none
  | c :: r =>
      match r.dropWhile isDropped with
      | ':' :: d :: rest =>
          if isAsciiLetter c && isDropped d && !(clean rest).isEmpty then
            some (String.ofList [c, ':'], clean rest)
          else none
      | _ => none

/-- The segments read so far. -/
structure Trail where
  parts : List String := []
  /-- The path begins with a drive, beside which a host does not count. -/
  onDrive : Bool := false

/-- The segments without the last one. A drive stays. -/
def Trail.shortened (t : Trail) : List String :=
  if t.parts.getLast?.any isDrive then t.parts else t.parts.dropLast

/-- The trail after one more segment, of which tabs and line breaks do not count. The last segment
of a path that names a place is empty. A file path may begin with a drive, and what a tab or line
break parts from the drive is a segment of its own. -/
def Trail.add (file : Bool) (t : Trail) (segment : List Char) (isLast : Bool) : Trail :=
  let text := clean segment
  let closing := if isLast then [""] else []
  let write (cs : List Char) : String := String.ofList (percentEncode inPathSet cs)
  if isDoubleDot text then { t with parts := t.shortened ++ closing }
  else if isSingleDot text then { t with parts := t.parts ++ closing }
  else if file && t.parts.isEmpty then
    match splitAtBreak? segment with
    | some (drive, rest) => { t with parts := [drive, write rest] }
    | none =>
        if isDriveLetter text then
          { parts := [String.ofList (text.take 1 ++ [':'])], onDrive := true }
        else { t with parts := [write text] }
  else { t with parts := t.parts ++ [write text] }

def Trail.addAll (file : Bool) (t : Trail) : List (List Char) → Trail
  | [] => t
  | [s] => t.add file s true
  | s :: r => (t.add file s false).addAll file r

/-- The path after its first slash. -/
def readPath (scheme : String) (cs : List Char) : Path :=
  .segments (Trail.addAll false {} (splitSegments (isSpecialScheme scheme) cs)).parts

/-- The path of a file URL after its first slash, with its tabs and line breaks. -/
def readFileTrail (cs : List Char) : Trail := Trail.addAll true {} (splitSegments true cs)

/-- A file path does not begin with empty segments. -/
def Trail.filePath (t : Trail) : Path :=
  let parts := t.parts.dropWhile (· == "")
  .segments (if parts.isEmpty then [""] else parts)

/-! ## Query and fragment -/

/-- The characters before the path ends, the query and the fragment. -/
def splitTail (cs : List Char) : List Char × Option (List Char) × Option (List Char) :=
  let beforeFragment := cs.takeWhile (· != '#')
  let fragment := (cs.drop beforeFragment.length).tail?
  let path := beforeFragment.takeWhile (· != '?')
  (path, (beforeFragment.drop path.length).tail?, fragment)

/-- The URL with the query and fragment that follow. -/
def withTail (u : Url) (query fragment : Option (List Char)) : Url :=
  let querySet := if u.isSpecial then inSpecialQuerySet else inQuerySet
  { u with
    query := query.map fun q => String.ofList (percentEncode querySet q)
    fragment := fragment.map fun f => String.ofList (percentEncode inFragmentSet f) }

/-! ## Kinds of URLs -/

/-- A URL with a host, after the double slash. -/
def readHosted (scheme : String) (cs : List Char) : Except Error Url := do
  let (authority, rest) ← readAuthority scheme cs
  let (pathChars, query, fragment) := splitTail rest
  let special := isSpecialScheme scheme
  let path : Path :=
    match pathChars with
    | [] => .segments (if special then [""] else [])
    | c :: r => readPath scheme (if isSlash special c then r else pathChars)
  let url : Url := {
    scheme
    user := authority.info.user
    password := authority.info.password
    host := some authority.host
    port := authority.port
    path }
  return withTail url query fragment

/-- A file URL whose path has been read. Beside a drive the host does not count. -/
def fileUrl (host : Host) (path : Trail) : Url :=
  { scheme := "file"
    host := some (if path.onDrive then .name "" else host)
    path := path.filePath }

/-- The host of a file URL, after the double slash, and the path. A drive is no host, nor is
`localhost`. Without one the path begins with the slash that ends the host. -/
def readFileHost (cs : List Char) : Except Error Url := do
  let hostPart := cs.takeWhile fun c => !isSlash true c
  let rest := cs.drop hostPart.length
  let chars := clean hostPart
  if isDriveLetter chars then return fileUrl (.name "") (readFileTrail cs)
  if chars.isEmpty then return fileUrl (.name "") (readFileTrail rest)
  let host ← domainHost chars
  if host = .name "localhost" then return fileUrl (.name "") (readFileTrail rest)
  return fileUrl host (readFileTrail (rest.drop 1))

/-- A file URL after its scheme, with its tabs and line breaks. -/
def readFile (cs : List Char) : Except Error Url := do
  let (pathChars, query, fragment) := splitTail cs
  let url ←
    match pathChars.dropWhile isDropped with
    | [] => .ok (fileUrl (.name "") (readFileTrail []))
    | a :: r =>
        if isSlash true a then
          match r.dropWhile isDropped with
          | [] => .ok (fileUrl (.name "") (readFileTrail []))
          | b :: r' =>
              if isSlash true b then readFileHost r'
              else .ok (fileUrl (.name "") (readFileTrail r))
        else .ok (fileUrl (.name "") (readFileTrail pathChars))
  return withTail url (query.map clean) (fragment.map clean)

/-- A URL whose scheme implies neither host nor path, after its scheme. -/
def readOther (scheme : String) (cs : List Char) : Except Error Url :=
  match cs with
  | '/' :: '/' :: r => readHosted scheme r
  | '/' :: r =>
      let (pathChars, query, fragment) := splitTail r
      .ok (withTail { scheme, path := readPath scheme pathChars } query fragment)
  | _ =>
      let (pathChars, query, fragment) := splitTail cs
      let path : Path := .opaqueText (String.ofList (percentEncode inControlSet pathChars))
      .ok (withTail { scheme, path } query fragment)

/-- The URL that the text denotes. It has to be absolute. -/
def parse (s : String) : Except Error Url :=
  let input := trimOuter s
  match readScheme? (clean input) with
  | none => .error .relativeWithoutBase
  | some (scheme, rest) =>
      if scheme = "file" then readFile ((input.dropWhile (· != ':')).drop 1)
      else if isSpecialScheme scheme then
        readHosted scheme (rest.dropWhile (isSlash true))
      else readOther scheme rest

end BillDesk.Url
