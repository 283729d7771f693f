import Courier.Http.Multipart
import Courier.Url.Parser

/-! Requests: building one from the content of its items, and how it is shown. -/

namespace Courier

namespace Http

inductive Body where
  | none
  | text (s : List Char)
  | parts (ps : List Multipart.Part)

structure Request where
  method : String
  url : Url
  headers : HeaderMap
  body : Body

inductive RequestError where
  | badMethod (method : String)
  | badUrl (url : String) (error : UrlError)
  | badMediaType (mediaType : String) (error : MediaType.Error)
  | noHost (url : Url)
  | badHeaderName (name : String)
  | badHeaderValue (name : String)

def RequestError.message : RequestError → String
  | badMethod method => "Invalid HTTP method: " ++ method ++ ": invalid HTTP method"
  | badUrl url error => "Invalid URL: " ++ url ++ ": " ++ error.message
  | badMediaType mediaType error =>
    "Invalid MIME type: " ++ mediaType ++ ": builder error: mime parse error: " ++ error.message
  | noHost url =>
    "Failed to build request: builder error for url (" ++ url.text ++
      "): URL scheme is not allowed"
  | badHeaderName name => "Invalid header name: " ++ name ++ ": invalid HTTP header name"
  | badHeaderValue name =>
    "Invalid value for header " ++ name ++ ": failed to parse header value"

def userAgent : String := "httprasa/0.1.0"

def jsonAccept : String := "application/json, */*;q=0.5"

def anyAccept : String := "*/*"

def jsonContentType : String := "application/json"

def formContentType : String := "application/x-www-form-urlencoded"

/-- The boundary is written as a word of its own, since it differs from request to request. -/
def multipartContentType : String := "multipart/form-data; boundary=BOUNDARY"

def basicAuth (user : String) (password : Option String) : String :=
  "Basic " ++ String.ofList (Base64.encode
    (Utf8.encode (user.toList ++ ':' :: (password.getD "").toList)))

/-- A user name ends at the first colon; the password may hold more of them. -/
def splitCredentials (auth : String) : String × Option String :=
  match splitOnce? [':'] auth.toList with
  | some (user, password) => (String.ofList user, some (String.ofList password))
  | none => (auth, none)

def decodeUserinfo? (s : String) : Option String :=
  (Utf8.decode? (Percent.decode s.toList)).map String.ofList

/-- Takes user name and password out of a URL. They stay if the name is no text. -/
def takeCredentials (u : Url) : Url × Option (String × Option String) :=
  if !u.hasAuthority then (u, none) else
  match decodeUserinfo? u.username with
  | none => (u, none)
  | some user =>
    let password := u.password.bind decodeUserinfo?
    if user.isEmpty && password.isNone then (u, none)
    else ({ u with username := "", password := none }, some (user, password))

def encodeBody (c : Content) : Except RequestError (Body × List (String × String)) :=
  match c.data with
  | .json fields =>
    .ok (if fields.isEmpty then .none else .text (Json.render none (Path.unwrap fields)), [])
  | .form fields =>
    if c.encoding = .multipart || !c.uploads.isEmpty then
      match c.uploads.entries.mapM fun (name, u) => Multipart.ofUpload name u with
      | .error (m, e) => .error (.badMediaType m e)
      | .ok files =>
        let parts := fields.entries.map (fun (name, value) => Multipart.ofField name value) ++ files
        .ok (if parts.isEmpty then .text [] else .parts parts,
          [("content-type", multipartContentType),
            ("content-length", toString (Multipart.length parts))])
    else if fields.isEmpty then .ok (.none, [])
    else .ok (.text (Urlencoded.encode fields.entries), [("content-type", formContentType)])

/-- The headers of the items, and the defaults that they neither give nor suppress. -/
def withDefaults (c : Content) : Headers :=
  let accept := if c.encoding = .json then jsonAccept else anyAccept
  let headers := c.headers.setDefault "accept" accept
  let headers := headers.setDefault "user-agent" userAgent
  match c.data with
  | .json fields =>
    if fields.isEmpty then headers else headers.setDefault "content-type" jsonContentType
  | .form _ => headers

def checkHeaders : List (String × String) → Except RequestError (List (String × String))
  | [] => .ok []
  | (name, value) :: rest =>
    match headerName? name with
    | none => .error (.badHeaderName name)
    | some lower =>
      if isHeaderValue value then (checkHeaders rest).map ((lower, value) :: ·)
      else .error (.badHeaderValue lower)

/-- Credentials of the URL, headers of the body and explicit credentials come first. Item headers
take the place of all of them that have the same name. Without any `accept` header one is added. -/
def build (method : Option String) (url : String) (c : Content) (auth : Option String) :
    Except RequestError Request :=
  let method := c.method method
  if !isMethod method then .error (.badMethod method) else
  match Url.parse url with
  | .error e => .error (.badUrl url e)
  | .ok u =>
    let u := u.addQuery c.query.entries
    match encodeBody c with
    | .error e => .error e
    | .ok (body, described) =>
      if u.host.isNone then .error (.noHost u) else
      let (u, inUrl) := takeCredentials u
      let credentials := (inUrl.map fun (user, password) => basicAuth user password).toList
      let explicit := (auth.map fun a =>
        let (user, password) := splitCredentials a
        basicAuth user password).toList
      let own := HeaderMap.ofList (credentials.map ("authorization", ·) ++ described ++
        explicit.map ("authorization", ·))
      match checkHeaders (withDefaults c).sent with
      | .error e => .error e
      | .ok custom =>
        let headers := own.override (.ofList custom)
        let headers :=
          if headers.contains "accept" then headers else headers.append "accept" anyAccept
        .ok ⟨method, u, headers, body⟩

/-- JSON is shown indented, any other text as it is. -/
def displayText (s : List Char) : List Char :=
  match Json.Reader.document s with
  | .ok v => Json.render (some 0) v
  | .error _ => s

def displayBytes (content : Bytes) : List Char :=
  match Utf8.decode? content with
  | some s => displayText s
  | none => Utf8.decodeLossy content

def binaryNote : List Char :=
  ("+-----------------------------------------+\n" ++
    "| NOTE: binary data not shown in terminal |\n" ++
    "+-----------------------------------------+").toList

def headerLine (h : String × String) : List Char :=
  h.1.toList ++ ": ".toList ++ h.2.toList ++ ['\n']

def requestLine (r : Request) : List Char :=
  r.method.toList ++ ' ' :: r.url.target.toList ++ " HTTP/1.1\n".toList

def hostLine (u : Url) : List Char :=
  match u.host with
  | some h => "Host: ".toList ++ h.spell.toList ++ u.portText.toList ++ ['\n']
  | none => []

def head (r : Request) : List Char :=
  requestLine r ++ hostLine r.url ++ r.headers.toList.flatMap headerLine

def bodyText : Body → List Char
  | .none => []
  | .text s => '\n' :: displayText s ++ ['\n']
  | .parts _ => '\n' :: binaryNote ++ ['\n']

def Request.display (r : Request) : String := String.ofList (head r ++ bodyText r.body)

end Http

end Courier
