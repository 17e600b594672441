import BillDesk.Ledger.Http
import BillDesk.Text.Blank
import BillDesk.Text.Digits

/-!
# HTTP messages

The bytes of a request, and the response that the bytes of an answer hold. A connection carries one
exchange and is closed after it. A form is sent in parts, one for each field, between lines that
occur in no field.
-/

namespace BillDesk.Http

/-! ## Requests -/

def lineEnd : String := "\r\n"

/-- The fields of a form, between boundary lines. -/
def formBody (boundary : String) (fields : List (String × String)) : String :=
  String.join (fields.map fun f =>
    "--" ++ boundary ++ lineEnd ++
    "Content-Disposition: form-data; name=\"" ++ f.1 ++ "\"" ++ lineEnd ++ lineEnd ++
    f.2 ++ lineEnd) ++
  "--" ++ boundary ++ "--" ++ lineEnd

/-- The text occurs in another one. -/
def occursIn (part : List Char) : List Char → Bool
  | [] => part.isEmpty
  | c :: cs => part.isPrefixOf (c :: cs) || occursIn part cs

/-- A boundary that occurs in no value of the form. -/
def boundaryFor (fields : List (String × String)) : String :=
  let candidates := (List.range 1000).map fun n => "form-field-boundary-" ++ Nat.repr n
  (candidates.find? fun b => fields.all fun f => !occursIn b.toList f.2.toList).getD "form"

namespace Request

/-- The host that the request names, with the port unless the scheme implies it. -/
def hostLine (r : Request) : String :=
  (r.url.host.map Url.Host.text).getD "" ++ (r.url.port.map fun p => ":" ++ Nat.repr p).getD ""

def headLines (r : Request) (content : List String) : List String :=
  [r.method.name ++ " " ++ r.url.target ++ " HTTP/1.1", "Host: " ++ r.hostLine] ++
  (r.authorization.map ("Authorization: " ++ ·)).toList ++
  content ++ ["Accept: */*", "Connection: close"]

def bytes (r : Request) : ByteArray :=
  match r.method with
  | .get => (lineEnd.intercalate (r.headLines [] ++ ["", ""])).toUTF8
  | .post =>
      let boundary := boundaryFor r.fields
      let body := (formBody boundary r.fields).toUTF8
      let content := ["Content-Type: multipart/form-data; boundary=" ++ boundary,
        "Content-Length: " ++ Nat.repr body.size]
      (lineEnd.intercalate (r.headLines content ++ ["", ""])).toUTF8 ++ body

end Request

/-! ## Responses -/

/-- The line at the front, without its end, and what follows it. -/
def splitLine : List UInt8 → Option (List UInt8 × List UInt8)
  | [] => none
  | 13 :: 10 :: rest => some ([], rest)
  | b :: rest => (splitLine rest).map fun p => (b :: p.1, p.2)

theorem length_splitLine {bs line rest : List UInt8} (h : splitLine bs = some (line, rest)) :
    rest.length < bs.length := by
  fun_induction splitLine bs generalizing line rest with
  | case1 => cases h
  | case2 after =>
    cases h
    simp only [List.length_cons]
    omega
  | case3 b after _ ih =>
    obtain ⟨p, hp, hq⟩ := Option.map_eq_some_iff.1 h
    cases hq
    have := ih hp
    simp only [List.length_cons]
    omega

/-- The characters of a header line. -/
def lineText (bs : List UInt8) : List Char := bs.map fun b => Char.ofNat b.toNat

/-- The header lines up to the empty one, and the body. -/
def splitHead (bs : List UInt8) : Option (List (List Char) × List UInt8) :=
  match _h : splitLine bs with
  | none => none
  | some (line, rest) =>
      if line.isEmpty then some ([], rest)
      else (splitHead rest).map fun p => (lineText line :: p.1, p.2)
termination_by bs.length
decreasing_by exact length_splitLine _h

/-- The status in the first line. -/
def readStatus? (line : List Char) : Option Nat :=
  Text.readNat? ((line.dropWhile (· != ' ')).drop 1 |>.takeWhile Text.isDigit)

/-- The value of a header, whatever the case of its name. -/
def header? (lines : List (List Char)) (name : String) : Option (List Char) :=
  lines.findSome? fun line =>
    if (line.takeWhile (· != ':')).map Char.toLower == name.toList then
      some (Text.trimChars ((line.dropWhile (· != ':')).drop 1))
    else none

/-- The size at the front of a chunk. -/
def chunkSize (line : List Char) : Nat :=
  (line.map Text.hexDigitValue?).takeWhile Option.isSome |>.foldl (fun n d => n * 16 + d.getD 0) 0

/-- The chunks of a body, joined. -/
def joinChunks (bs : List UInt8) : Option (List UInt8) :=
  match _h : splitLine bs with
  | none => none
  | some (line, rest) =>
      let size := chunkSize (lineText line)
      if size = 0 then some []
      else if rest.length < size + 2 then none
      else (joinChunks (rest.drop (size + 2))).map (rest.take size ++ ·)
termination_by bs.length
decreasing_by
  have := length_splitLine _h
  simp only [List.length_drop]
  omega

/-- The body as its headers delimit it; nothing if it breaks off. -/
def readBody? (lines : List (List Char)) (bs : List UInt8) : Option (List UInt8) :=
  if header? lines "transfer-encoding" == some "chunked".toList then joinChunks bs
  else
    match (header? lines "content-length").bind Text.readNat? with
    | none => some bs
    | some size => if bs.length < size then none else some (bs.take size)

/-- The response in the bytes of an answer. Some statuses have no body. -/
def Response.ofBytes? (bytes : ByteArray) : Option Response := do
  let (lines, rest) ← splitHead bytes.toList
  let status ← readStatus? (← lines.head?)
  if status == 204 || status == 304 then return ⟨status, ""⟩
  let body ← readBody? lines rest
  return ⟨status, (String.fromUTF8? ⟨body.toArray⟩).getD ""⟩

end BillDesk.Http
