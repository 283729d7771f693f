import Courier.Files.Tree
import Courier.Item.Basic
import Courier.Json.Parser
import Courier.Path.Error
import Courier.Text.Quoted

/-! The value of an item, files read and JSON parsed, and what can be wrong with the items of a
request. -/

namespace Courier

inductive ItemError where
  | invalid (item : String)
  | badPath (error : Path.Error)
  | file (item : String) (error : FileError)
  | notText (item path : String)
  | badJson (item : String) (error : Json.Error)
  | emptyHeader (item : String)
  | complexField
  | uploadsInJson (keys : List String)
  deriving DecidableEq

def ItemError.message : ItemError → String
  | invalid item => Quoted.quote item ++ " is not a valid value"
  | badPath error => error.diagnostic.render
  | file item error => Quoted.quote item ++ ": " ++ error.message
  | notText item name =>
    Quoted.quote item ++ ": cannot embed the content of " ++ Quoted.quote name ++
      ", not a UTF-8 or ASCII-encoded text file"
  | badJson item error => Quoted.quote item ++ ": " ++ error.message
  | emptyHeader item =>
    "Invalid item " ++ Quoted.quote item ++ " (to specify an empty header use `Header;`)"
  | complexField => "Cannot use complex JSON value types with --form/--multipart."
  | uploadsInJson keys =>
    "Invalid file fields (perhaps you meant --form?): " ++ String.intercalate ", " keys

structure Upload where
  filename : String
  path : String
  content : Bytes
  mediaType : Option String
  deriving DecidableEq

namespace Item

inductive Decoded where
  /-- A header without a value is suppressed. -/
  | header (value : Option String)
  | text (s : String)
  | json (v : Json)
  | upload (u : Upload)
  deriving DecidableEq

/-- Without one line end, if the text has one. -/
def chomp (s : String) : String :=
  match s.toList.reverse with
  | '\n' :: '\r' :: rest => String.ofList rest.reverse
  | '\n' :: rest => String.ofList rest.reverse
  | _ => s

def readFile (files : Files) (item : Item) (path : String) : Except ItemError Bytes :=
  (files.read path).mapError (.file item.source)

def readText (files : Files) (item : Item) : Except ItemError String :=
  match readFile files item (files.expand item.value) with
  | .error e => .error e
  | .ok content =>
    match Utf8.decode? content with
    | some cs => .ok (String.ofList cs)
    | none => .error (.notText item.source item.value)

def readJson (item : Item) (text : String) : Except ItemError Json :=
  (Json.parse text).mapError (.badJson item.source)

/-- Stands between the path of an upload and its media type. -/
def typeMark : List Char := ";type=".toList

/-- The path of an upload, and the media type if one is given. -/
def uploadParts (item : Item) : String × Option String :=
  match splitOnce? typeMark item.value.toList with
  | some (name, mediaType) => (String.ofList name, some (String.ofList mediaType))
  | none => (item.value, none)

def readUpload (files : Files) (item : Item) : Except ItemError Upload :=
  let (name, given) := uploadParts item
  let path := files.expand name
  (readFile files item path).map fun content =>
    ⟨fileName path, path, content, given <|> files.mediaType? path⟩

def decode (files : Files) (item : Item) : Except ItemError Decoded :=
  match item.separator with
  | .header => .ok (.header (if item.value.isEmpty then none else some item.value))
  | .headerEmpty =>
    if item.value.isEmpty then .ok (.header (some "")) else .error (.emptyHeader item.source)
  | .headerFile => (readText files item).map fun s => .header (some (chomp s))
  | .query | .field => .ok (.text item.value)
  | .queryFile => (readText files item).map fun s => .text (chomp s)
  | .fieldFile => (readText files item).map .text
  | .json => (readJson item item.value).map .json
  | .jsonFile =>
    match readText files item with
    | .error e => .error e
    | .ok s => (readJson item s).map .json
  | .upload => (readUpload files item).map .upload

def path? (files : Files) (item : Item) : Option String :=
  match item.separator with
  | .headerFile | .queryFile | .fieldFile | .jsonFile => some (files.expand item.value)
  | .upload => some (files.expand (uploadParts item).1)
  | _ => none

end Item

end Courier
