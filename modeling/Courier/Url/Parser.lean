import Courier.Url.Basic

/-! Parsing URLs: scheme, authority, path, query and fragment. -/

namespace Courier

namespace Url

/-- Schemes whose URLs have hosts that are looked up; those of the web have default ports. -/
inductive SchemeKind where
  | web
  | file
  | other
  deriving DecidableEq

def schemeKind : String → SchemeKind
  | "http" | "https" | "ws" | "wss" | "ftp" => .web
  | "file" => .file
  | _ => .other

def defaultPort? : String → Option Nat
  | "http" | "ws" => some 80
  | "https" | "wss" => some 443
  | "ftp" => some 21
  | _ => none

def SchemeKind.isSpecial : SchemeKind → Bool
  | .other => false
  | _ => true

def isSlash (kind : SchemeKind) (c : Char) : Bool := c = '/' || (c = '\\' && kind.isSpecial)

/-- Ends an authority or a path segment. -/
def isBoundary (kind : SchemeKind) (c : Char) : Bool := isSlash kind c || c = '?' || c = '#'

def inFragment (c : Char) : Bool := Percent.isControl c || [' ', '"', '<', '>', '\x60'].contains c

def inQuery (kind : SchemeKind) (c : Char) : Bool :=
  Percent.isControl c || [' ', '"', '#', '<', '>'].contains c || (c = '\x27' && kind.isSpecial)

def inPath (c : Char) : Bool := inFragment c || ['#', '?', '{', '}'].contains c

def inUserinfo (c : Char) : Bool :=
  inPath c || ['/', ':', ';', '=', '@', '[', '\\', ']', '^', '|'].contains c

/-- Blanks and controls around a URL are dropped, tabs and line ends everywhere. -/
def clean (s : List Char) : List Char :=
  let blank (c : Char) : Bool := c.toNat ≤ 0x20
  ((s.dropWhile blank).reverse.dropWhile blank).reverse.filter fun c =>
    !(c = '\t' || c = '\n' || c = '\r')

def isSchemeChar (c : Char) : Bool := c.isAlphanum || c = '+' || c = '-' || c = '.'

def splitScheme? (s : List Char) : Option (String × List Char) :=
  match s, s.dropWhile isSchemeChar with
  | c :: _, ':' :: rest =>
    if c.isAlpha then some (String.ofList ((s.takeWhile isSchemeChar).map Char.toLower), rest)
    else none
  | _, _ => none

/-- What stands before and after the last `@`. -/
def splitUserinfo? (authority : List Char) : Option (List Char × List Char) :=
  if authority.contains '@' then
    some ((authority.reverse.dropWhile (· != '@')).drop 1 |>.reverse,
      (authority.reverse.takeWhile (· != '@')).reverse)
  else none

def userinfoText (s : List Char) : String := String.ofList (Percent.encode inUserinfo s)

/-- User name and password. An empty password is none. -/
def readUserinfo (s : List Char) : String × Option String :=
  let password := (s.dropWhile (· != ':')).drop 1
  (userinfoText (s.takeWhile (· != ':')),
    if password.isEmpty then none else some (userinfoText password))

/-- The host ends at a colon outside brackets. -/
def splitHost (inside : Bool) : List Char → List Char × List Char
  | [] => ([], [])
  | c :: rest =>
    if c = ':' ∧ !inside then ([], c :: rest)
    else
      let inside := if c = '[' then true else if c = ']' then false else inside
      let (host, port) := splitHost inside rest
      (c :: host, port)

/-- A port number. Where it is not the scheme's default it is kept. -/
def readPort (scheme : String) (s : List Char) : Except UrlError (Option Nat) :=
  if !s.all Char.isDigit then .error .badPort
  else if s.isEmpty then .ok none
  else
    let port := Integer.ofDigits s
    if 65535 < port then .error .badPort
    else .ok (if some port = defaultPort? scheme then none else some port)

def isSingleDot (s : List Char) : Bool :=
  ["." , "%2e"].contains (String.ofList (s.map Char.toLower))

def isDoubleDot (s : List Char) : Bool :=
  ["..", ".%2e", "%2e.", "%2e%2e"].contains (String.ofList (s.map Char.toLower))

/-- A letter and a colon, or a bar in place of the colon. -/
def isDrive (s : List Char) : Bool :=
  match s with
  | [c, d] => c.isAlpha && (d = ':' || d = '|')
  | _ => false

def segmentsOf (kind : SchemeKind) (s : List Char) : List (List Char) :=
  splitOn '/' (s.map fun c => if isSlash kind c then '/' else c)

/-- Adds a segment to the ones before it, which come backwards. Two dots take one away, but not
the drive of a file. -/
def addSegment (kind : SchemeKind) (last : Bool) (before : List (List Char)) (segment : List Char) :
    List (List Char) :=
  let encoded := Percent.encode inPath segment
  if isDoubleDot encoded then
    let up :=
      match before with
      | [d] => if kind = .file ∧ isDrive d then before else []
      | ps => ps.drop 1
    if last then [] :: up else up
  else if isSingleDot encoded then
    if last then [] :: before else before
  else if kind = .file ∧ before.isEmpty ∧ isDrive encoded then
    [encoded.take 1 ++ [':']]
  else encoded :: before

def addSegments (kind : SchemeKind) (before : List (List Char)) :
    List (List Char) → List (List Char)
  | [] => before
  | [s] => addSegment kind true before s
  | s :: t :: rest => addSegments kind (addSegment kind false before s) (t :: rest)

def readPath (kind : SchemeKind) (s : List Char) : String :=
  String.ofList ((addSegments kind [] (segmentsOf kind s)).reverse.flatMap ('/' :: ·))

/-- The path behind an authority. Only a scheme without hosts of its own may leave it out. -/
def pathAfterHost (kind : SchemeKind) (s : List Char) : String :=
  match s with
  | [] => if kind.isSpecial then "/" else ""
  | c :: rest => if isSlash kind c then readPath kind rest else readPath kind (c :: rest)

/-- The text up to the query or fragment, and these two. -/
def splitTail (kind : SchemeKind) (s : List Char) : List Char × Option String × Option String :=
  let head := s.takeWhile fun c => !(c = '?' || c = '#')
  let tail := s.dropWhile fun c => !(c = '?' || c = '#')
  let fragmentOf (s : List Char) : Option String :=
    match s with
    | '#' :: f => some (String.ofList (Percent.encode inFragment f))
    | _ => none
  match tail with
  | '?' :: rest =>
    (head, some (String.ofList (Percent.encode (inQuery kind) (rest.takeWhile (· != '#')))),
      fragmentOf (rest.dropWhile (· != '#')))
  | tail => (head, none, fragmentOf tail)

def parseAuthority (scheme : String) (kind : SchemeKind) (s : List Char) : Except UrlError Url := do
  let authority := s.takeWhile fun c => !isBoundary kind c
  let rest := s.dropWhile fun c => !isBoundary kind c
  let (username, password, hostPort) ←
    match splitUserinfo? authority with
    | none => pure ("", none, authority)
    | some (info, hostPort) =>
      if info.isEmpty && hostPort.isEmpty && !rest.isEmpty then throw UrlError.emptyHost
      else
        let (username, password) := readUserinfo info
        pure (username, password, hostPort)
  let (hostChars, portChars) := splitHost false hostPort
  if hostChars.isEmpty && (kind.isSpecial || !portChars.isEmpty) then throw UrlError.emptyHost
  let host ← if kind.isSpecial then Host.parse hostChars else Host.parseName hostChars
  let port ← readPort scheme (portChars.drop 1)
  let host := if host = .name "" then none else some host
  if host.isNone && (!username.isEmpty || password.isSome) then throw UrlError.emptyHost
  let (path, query, fragment) := splitTail kind rest
  return {
    scheme, hasAuthority := true, username, password, host, port
    path := pathAfterHost kind path, query, fragment }

def parseFileHost (s : List Char) : Except UrlError (Option Host × List Char) :=
  let name := s.takeWhile fun c => !isBoundary .file c
  if isDrive name then .ok (none, '/' :: s)
  else
    let rest := s.dropWhile fun c => !isBoundary .file c
    if name.isEmpty then .ok (none, rest)
    else (Host.parse name).map fun h => (if h = .name "localhost" then none else some h, rest)

def parseFile (s : List Char) : Except UrlError Url := do
  let (host, rest) ←
    match s with
    | c :: d :: r => if isSlash .file c && isSlash .file d then parseFileHost r else pure (none, s)
    | _ => pure (none, s)
  let (path, query, fragment) := splitTail .file rest
  return {
    scheme := "file", hasAuthority := true, username := "", password := none, host, port := none
    path := pathAfterHost .file path, query, fragment }

/-- A URL without authority. Where the path starts with no slash it has no segments. -/
def parsePlain (scheme : String) (s : List Char) : Url :=
  let (path, query, fragment) := splitTail .other s
  let path :=
    match path with
    | '/' :: rest => readPath .other rest
    | path => String.ofList (Percent.encode Percent.isControl path)
  { scheme, hasAuthority := false, username := "", password := none, host := none, port := none
    path, query, fragment }

def parse (s : String) : Except UrlError Url :=
  match splitScheme? (clean s.toList) with
  | none => .error .relative
  | some (scheme, rest) =>
    match schemeKind scheme with
    | .web => parseAuthority scheme .web (rest.dropWhile (isSlash .web))
    | .file => parseFile rest
    | .other =>
      match rest with
      | '/' :: '/' :: r => parseAuthority scheme .other r
      | r => .ok (parsePlain scheme r)

def addQuery (u : Url) (pairs : List (String × String)) : Url :=
  if pairs.isEmpty then u
  else { u with query := some (String.ofList (Urlencoded.append (u.query.getD "").toList pairs)) }

end Url

end Courier
