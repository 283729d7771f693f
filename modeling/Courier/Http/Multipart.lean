import Courier.Content
import Courier.Http.HeaderMap

/-! Media types with their parameters, and multipart bodies. Only the length of a body is known:
what separates the parts is drawn at random when a request is sent. -/

namespace Courier

namespace MediaType

inductive Error where
  | noSlash
  | noEquals
  | noQuote
  | badToken (byte position : Nat)
  deriving DecidableEq

def Error.message : Error → String
  | .noSlash => "a slash (/) was missing between the type and subtype"
  | .noEquals => "an equals sign (=) was missing between a parameter and its value"
  | .noQuote => "a quote (\") was missing from a parameter value"
  | .badToken byte position =>
    "an invalid token was encountered, " ++
      String.ofList ((Nat.toDigits 16 byte).map Char.toUpper) ++ " at position " ++
      toString position

/-- The part of a media type that is being read, and where it began. -/
inductive State where
  | type
  | subtype (start : Nat)
  | name (start : Nat)
  | value (start : Nat)
  | quoted (start : Nat)
  | afterQuoted
  deriving DecidableEq

/-- One more byte, seen as the character with its code. -/
def step (state : State) (position : Nat) (c : Char) : Except Error State :=
  let bad : Except Error State := .error (.badToken c.toNat position)
  match state with
  | .type =>
    if Http.isNameChar c then .ok .type
    else if c = '/' ∧ 0 < position then .ok (.subtype (position + 1))
    else bad
  | .subtype start =>
    if c = ';' ∧ start < position then .ok (.name (position + 1))
    else if Http.isNameChar c then .ok (.subtype start)
    else bad
  | .name start =>
    if c = ' ' ∧ position = start then .ok (.name (position + 1))
    else if Http.isNameChar c then .ok (.name start)
    else if c = '=' ∧ start < position then .ok (.value (position + 1))
    else bad
  | .value start =>
    if c = '"' ∧ position = start then .ok (.quoted (position + 1))
    else if Http.isNameChar c then .ok (.value start)
    else if c = ';' ∧ start < position then .ok (.name (position + 1))
    else bad
  | .quoted start =>
    if c = '"' ∧ start < position then .ok .afterQuoted
    else if 31 < c.toNat ∧ c.toNat ≠ 127 then .ok (.quoted start)
    else bad
  | .afterQuoted =>
    if c = ';' then .ok (.name (position + 1))
    else if c = ' ' then .ok .afterQuoted
    else bad

def finish (position : Nat) : State → Except Error Unit
  | .type => .error .noSlash
  | .name start => if start = position then .ok () else .error .noEquals
  | .quoted _ => .error .noQuote
  | _ => .ok ()

def run (state : State) (position : Nat) : List Char → Except Error Unit
  | [] => finish position state
  | c :: rest =>
    match step state position c with
    | .error e => .error e
    | .ok state => run state (position + 1) rest

/-- The media type as it is sent. A semicolon without parameters behind it is dropped. -/
def parse (s : String) : Except Error String :=
  let cs := (Utf8.encode s.toList).map fun b => Char.ofNat b.toNat
  (run .type 0 cs).map fun _ =>
    let (head, rest) := s.toList.span (· != ';')
    if rest.all fun c => c = ';' || c = ' ' then String.ofList head else s

end MediaType

namespace Http

namespace Multipart

def boundaryLength : Nat := 67

structure Part where
  name : String
  filename : Option String
  mediaType : Option String
  size : Nat

def isReserved (c : Char) : Bool :=
  Percent.isControl c ||
    [' ', '"', '<', '>', '\x60', '#', '?', '{', '}', '/', '%'].contains c

/-- The pieces that percent encoding writes a text in: runs that stay as they are, and single
bytes. -/
def pieces (s : List Char) : List (List Char) :=
  s.foldr (fun c ps =>
    if 0x80 ≤ c.toNat || isReserved c then (Utf8.encode [c]).map Percent.byte ++ ps
    else
      match ps with
      | p :: rest => if p.head? = some '%' then [c] :: ps else (c :: p) :: rest
      | [] => [[c]]) []

/-- A name in one piece stands in quotes. -/
def nameParameter (name : String) : List Char :=
  match pieces name.toList with
  | [] => "name=\"\"".toList
  | [p] => "name=\"".toList ++ p ++ ['"']
  | ps => "name*=utf-8''".toList ++ ps.flatten

def escapeFilename (s : List Char) : List Char :=
  s.flatMap fun c => if ['\\', '"', '\r', '\n'].contains c then ['\\', c] else [c]

def Part.headers (p : Part) : List Char :=
  "Content-Disposition: form-data; ".toList ++ nameParameter p.name ++
    (match p.filename with
      | some f => "; filename=\"".toList ++ escapeFilename f.toList ++ ['"']
      | none => []) ++
    (match p.mediaType with
      | some m => "\r\nContent-Type: ".toList ++ m.toList
      | none => [])

/-- Two hyphens, boundary and line end; headers and an empty line; content and line end. -/
def Part.length (p : Part) : Nat :=
  (2 + boundaryLength + 2) + (Json.byteSize p.headers + 4) + (p.size + 2)

def length (parts : List Part) : Nat :=
  if parts.isEmpty then 0
  else (parts.map Part.length).foldl (· + ·) 0 + (2 + boundaryLength + 4)

def ofField (name value : String) : Part := ⟨name, none, none, value.utf8ByteSize⟩

def ofUpload (name : String) (u : Upload) : Except (String × MediaType.Error) Part :=
  match u.mediaType with
  | none => .ok ⟨name, some u.filename, none, u.content.length⟩
  | some m =>
    match MediaType.parse m with
    | .error e => .error (m, e)
    | .ok m => .ok ⟨name, some u.filename, some m, u.content.length⟩

end Multipart

end Http

end Courier
