import Courier.Http.Chunked
import Courier.Http.Request
import Courier.Http.Status

/-! Responses: reading one from the bytes that a server sends before it closes the connection. -/

namespace Courier

namespace Http

structure Response where
  /-- Zero for `HTTP/1.0`, one for `HTTP/1.1`. -/
  minorVersion : Nat
  status : Nat
  headers : HeaderMap
  body : Bytes

inductive ExchangeError where
  | badScheme (url : Url)
  | noResponse (url : Url)
  | brokenBody

def ExchangeError.message : ExchangeError → String
  | badScheme url => "HTTP request failed: builder error for url (" ++ url.text ++ ")"
  | noResponse url => "HTTP request failed: error sending request for url (" ++ url.text ++ ")"
  | brokenBody => "Failed to read response body"

namespace Response

structure Head where
  minorVersion : Nat
  status : Nat
  headers : HeaderMap

def digit? (b : UInt8) : Option Nat :=
  if 48 ≤ b.toNat ∧ b.toNat ≤ 57 then some (b.toNat - 48) else none

def versionStart : Bytes := Utf8.encode "HTTP/1.".toList

/-- `HTTP/1.0` or `HTTP/1.1`, a blank, three digits, and after another blank any text. -/
def statusLine? (l : Bytes) : Option (Nat × Nat) := do
  guard (versionStart.isPrefixOf l)
  match l.drop versionStart.length with
  | minor :: 32 :: a :: b :: c :: reason =>
    let minor ← digit? minor
    let status := 100 * (← digit? a) + 10 * (← digit? b) + (← digit? c)
    guard (minor ≤ 1 ∧ 100 ≤ status)
    guard (reason.isEmpty || reason.head? = some 32)
    guard (reason.all Wire.isValueByte)
    return (minor, status)
  | _ => none

/-- Lines that are empty may come first. -/
def head? : Nat → Bytes → Option (Head × Bytes)
  | 0, _ => none
  | fuel + 1, s =>
    match Wire.line? s with
    | none => none
    | some ([], rest) => head? fuel rest
    | some (l, rest) =>
      match statusLine? l, Wire.headers? (Wire.headerLimit + 1) rest with
      | some (minor, status), some (hs, rest) => some (⟨minor, status, .ofList hs⟩, rest)
      | _, _ => none

inductive Framing where
  | empty
  | length (n : Nat)
  | chunked
  | untilClose
  deriving DecidableEq

def isVisible (s : String) : Bool :=
  s.toList.all fun c => c = '\t' || (0x20 ≤ c.toNat && c.toNat < 0x7F)

def trimBlanks (s : List Char) : List Char :=
  ((s.dropWhile (·.isWhitespace)).reverse.dropWhile (·.isWhitespace)).reverse

def lengthLimit : Nat := Nat.pow 2 64 - 3

def agreedLength? (values : List String) : Option Nat :=
  let numbers := values.flatMap fun v =>
    if isVisible v then (splitOn ',' v.toList).map fun p => Integer.magnitude? (trimBlanks p)
    else [none]
  match numbers with
  | some n :: rest => if n ≤ lengthLimit ∧ rest.all (· == some n) then some n else none
  | _ => none

/-- Chunks are the last encoding that is named. -/
def endsChunked (values : List String) : Bool :=
  match values.getLast? with
  | none => false
  | some v =>
    isVisible v &&
      ((splitOn ',' v.toList).getLast?.map fun p =>
        (trimBlanks p).map Char.toLower == "chunked".toList).getD false

/-- Some statuses and methods admit no body. An encoding goes before a length. -/
def framing? (method : String) (h : Head) : Option Framing :=
  let encodings := h.headers.getAll "transfer-encoding"
  let lengths := h.headers.getAll "content-length"
  if h.status = 101 ∨ h.status = 204 ∨ h.status = 304 ∨ method = "HEAD" then some .empty
  else if method = "CONNECT" ∧ 200 ≤ h.status ∧ h.status < 300 then some .empty
  else if !encodings.isEmpty then
    if h.minorVersion = 0 then none
    else if endsChunked encodings then some .chunked
    else some .untilClose
  else if !lengths.isEmpty then (agreedLength? lengths).map .length
  else some .untilClose

def readBody? : Framing → Bytes → Option Bytes
  | .empty, _ => some []
  | .length n, s => if s.length < n then none else some (s.take n)
  | .chunked, s => Wire.chunks? (s.length + 1) s
  | .untilClose, s => some s

def isInformational (status : Nat) : Bool := status ≠ 101 && status < 200

/-- The first head that is not merely informational. -/
def finalHead? : Nat → Bytes → Option (Head × Bytes)
  | 0, _ => none
  | fuel + 1, s =>
    match head? (s.length + 1) s with
    | none => none
    | some (h, rest) => if isInformational h.status then finalHead? fuel rest else some (h, rest)

/-- The response to a request that a server answers with these bytes. -/
def receive (method : String) (url : Url) (s : Bytes) : Except ExchangeError Response :=
  match finalHead? (s.length + 1) s with
  | none => .error (.noResponse url)
  | some (h, rest) =>
    match framing? method h with
    | none => .error (.noResponse url)
    | some framing =>
      match readBody? framing rest with
      | none => .error .brokenBody
      | some body => .ok ⟨h.minorVersion, h.status, h.headers, body⟩

def firstLine (r : Response) : List Char :=
  "HTTP/1.".toList ++ Nat.toDigits 10 r.minorVersion ++ ' ' :: Nat.toDigits 10 r.status ++
    ' ' :: (reason r.status).toList ++ ['\n']

def display (r : Response) : String :=
  String.ofList (firstLine r ++ r.headers.toList.flatMap headerLine ++
    (if r.body.isEmpty then [] else '\n' :: displayBytes r.body ++ ['\n']))

end Response

/-- Only the schemes of the web can be sent to. -/
def isSendable (u : Url) : Bool := u.scheme == "http" || u.scheme == "https"

end Http

end Courier
