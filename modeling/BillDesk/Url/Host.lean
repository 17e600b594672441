import BillDesk.Text.Digits
import BillDesk.Url.Domain
import BillDesk.Url.Percent

/-!
# Hosts

The host of a URL is a name or an address. In a special URL a name whose last label is a number is
an IPv4 address, whose numbers may be written in octal or hexadecimal, and whose last number fills
the remaining bytes. An IPv6 address stands in brackets. Other URLs take any name that holds no
delimiter.
-/

namespace BillDesk.Url

inductive Host where
  | name (text : String)
  | ipv4 (address : Nat)
  | ipv6 (pieces : List Nat)
  deriving DecidableEq

/-! ## IPv4 -/

def radixValue? (radix : Nat) (c : Char) : Option Nat :=
  match Text.hexDigitValue? c with
  | some d => if d < radix then some d else none
  | none => none

/-- A number in decimal, in octal after `0`, or in hexadecimal after `0x`. -/
def ipv4Number? (cs : List Char) : Option Nat :=
  let read (radix : Nat) (ds : List Char) : Option Nat :=
    (ds.mapM (radixValue? radix)).map fun vs => vs.foldl (fun n d => n * radix + d) 0
  match cs with
  | [] => none
  | '0' :: 'x' :: r => read 16 r
  | '0' :: 'X' :: r => read 16 r
  | '0' :: d :: r => read 8 (d :: r)
  | ds => read 10 ds

/-- The labels of a name, without an empty one at the end. -/
def labels (cs : List Char) : List (List Char) :=
  let parts := splitAt '.' cs
  if parts.length ≠ 1 && parts.getLast? == some [] then parts.dropLast else parts

/-- The name is meant as an IPv4 address. -/
def endsInNumber (cs : List Char) : Bool :=
  match (labels cs).getLast? with
  | some last => (!last.isEmpty && last.all Text.isDigit) || (ipv4Number? last).isSome
  | none => false

/-- An address from its numbers: each of them is a byte, and the last one fills all the bytes that
are left. -/
def ipv4Address (cs : List Char) : Except Error Host :=
  match (labels cs).mapM ipv4Number? with
  | none => .error .invalidIpv4
  | some numbers =>
      let front := numbers.dropLast
      let last := numbers.getLastD 0
      let room := Nat.pow 256 (4 - front.length)
      if 4 < numbers.length || front.any (255 < ·) || room ≤ last then .error .invalidIpv4
      else .ok (.ipv4 (front.foldl (fun n b => n * 256 + b) 0 * room + last))

/-- The four bytes of an address, most significant first. -/
def ipv4Bytes (n : Nat) : List Nat :=
  [n / 16777216 % 256, n / 65536 % 256, n / 256 % 256, n % 256]

def ipv4Text (n : Nat) : String := ".".intercalate ((ipv4Bytes n).map Nat.repr)

/-! ## IPv6 -/

/-- A byte in decimal, without leading zeros. -/
def decimalByte? (cs : List Char) : Option Nat :=
  match Text.readNat? cs with
  | some n => if n ≤ 255 && (Nat.repr n).toList = cs then some n else none
  | none => none

/-- One to four hexadecimal digits. -/
def ipv6Piece? (cs : List Char) : Option Nat :=
  if cs.isEmpty || 4 < cs.length then none
  else (cs.mapM Text.hexDigitValue?).map fun vs => vs.foldl (fun n d => n * 16 + d) 0

/-- The pieces between colons, where the last may be an IPv4 address when `final`. -/
def ipv6Pieces? (final : Bool) : List (List Char) → Option (List Nat)
  | [] => some []
  | [p] =>
      if final && p.contains '.' then
        match (splitAt '.' p).mapM decimalByte? with
        | some [a, b, c, d] => some [a * 256 + b, c * 256 + d]
        | _ => none
      else (ipv6Piece? p).map ([·])
  | p :: ps => do
      let n ← ipv6Piece? p
      let ns ← ipv6Pieces? final ps
      return n :: ns

/-- The text before the first double colon and the text after it. -/
def splitDoubleColon : List Char → Option (List Char × List Char)
  | ':' :: ':' :: r => some ([], r)
  | c :: r => (splitDoubleColon r).map fun (a, b) => (c :: a, b)
  | [] => none

/-- The pieces of a side of the double colon, which may be empty. -/
def ipv6Side? (final : Bool) (cs : List Char) : Option (List Nat) :=
  if cs.isEmpty then some [] else ipv6Pieces? final (splitAt ':' cs)

def ipv6Address? (cs : List Char) : Option (List Nat) :=
  match splitDoubleColon cs with
  | none => do
      let ns ← ipv6Pieces? true (splitAt ':' cs)
      if ns.length = 8 then some ns else none
  | some (front, back) => do
      let before ← ipv6Side? false front
      let after ← ipv6Side? true back
      let given := before.length + after.length
      if given ≤ 7 then some (before ++ List.replicate (8 - given) 0 ++ after) else none

/-- The length of the run of zeros at the front. -/
def zeroRun (ns : List Nat) : Nat := (ns.takeWhile (· == 0)).length

/-- The first of the longest runs of at least two zeros: where it begins, and its length. -/
def longestZeroRun (ns : List Nat) : Option (Nat × Nat) :=
  let runs := (List.range ns.length).map fun i => (i, zeroRun (ns.drop i))
  runs.foldl (fun best run =>
    if 2 ≤ run.2 && (best.map Prod.snd).getD 0 < run.2 then some run else best) none

def hexText (n : Nat) : String := String.ofList (Nat.toDigits 16 n)

def ipv6Text (ns : List Nat) : String :=
  let join (part : List Nat) : String := ":".intercalate (part.map hexText)
  match longestZeroRun ns with
  | none => join ns
  | some (start, count) => join (ns.take start) ++ "::" ++ join (ns.drop (start + count))

/-! ## Hosts -/

def Host.text : Host → String
  | .name s => s
  | .ipv4 n => ipv4Text n
  | .ipv6 ns => "[" ++ ipv6Text ns ++ "]"

/-- An address in brackets, if the characters begin with one. -/
def bracketed? : List Char → Option (Except Error Host)
  | '[' :: r =>
      some <|
        if r.getLast? == some ']' then
          match ipv6Address? r.dropLast with
          | some ns => .ok (.ipv6 ns)
          | none => .error .invalidIpv6
        else .error .invalidIpv6
  | _ => none

/-- The host of a special URL. -/
def domainHost (cs : List Char) : Except Error Host :=
  match bracketed? cs with
  | some host => host
  | none =>
      match String.fromUTF8? (ByteArray.mk (percentDecode cs).toArray) with
      | none => .error .invalidDomain
      | some decoded => do
          let domain ← asciiDomain decoded.toList
          if domain.isEmpty then .error .emptyHost
          else if endsInNumber domain then ipv4Address domain
          else .ok (.name (String.ofList domain))

/-- Characters that the host of no URL has. -/
def isForbiddenInHost (c : Char) : Bool :=
  ['\x00', '\t', '\n', '\r', ' ', '#', '/', ':', '<', '>', '?', '@', '[', '\\', ']', '^',
    '|'].contains c

/-- The host of a URL that is not special. -/
def plainHost (cs : List Char) : Except Error Host :=
  match bracketed? cs with
  | some host => host
  | none =>
      if cs.any isForbiddenInHost then .error .invalidDomainCharacter
      else .ok (.name (String.ofList (percentEncode inControlSet cs)))

end BillDesk.Url
