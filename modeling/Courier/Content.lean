import Courier.Headers
import Courier.Item.Decode
import Courier.Json.Printer
import Courier.Path.Write
import Courier.Text.Uppercase

/-! What the items of a request amount to: headers, query parameters, and the data and files of
its body. -/

namespace Courier

inductive Encoding where
  | json
  | form
  | multipart
  deriving DecidableEq

inductive Data where
  | json (fields : List (String × Json))
  | form (fields : MultiMap String)

def Data.isEmpty : Data → Bool
  | json fields => fields.isEmpty
  | form fields => fields.isEmpty

def Data.addField (key value : String) : Data → Data
  | json fields => json fields
  | form fields => form (fields.add key value)

structure Content where
  headers : Headers
  data : Data
  uploads : MultiMap Upload
  query : MultiMap String
  encoding : Encoding

namespace Content

def hasData (c : Content) : Bool := !c.data.isEmpty || !c.uploads.isEmpty

/-- The method asked for, in upper case; otherwise data makes the request a `POST`. -/
def method (c : Content) (explicit : Option String) : String :=
  match explicit with
  | some m => Uppercase.text m
  | none => if c.hasData then "POST" else "GET"

def isUpload (item : Item) : Bool := item.separator == .upload

/-- Uploads make a request multipart unless an encoding is asked for; JSON has no uploads. -/
def encodingOf (explicit : Option Encoding) (items : List Item) : Except ItemError Encoding :=
  let uploads := items.filter isUpload
  match explicit with
  | some .json =>
    if uploads.isEmpty then .ok .json else .error (.uploadsInJson (uploads.map Item.key))
  | some e => .ok e
  | none => .ok (if uploads.isEmpty then .json else .multipart)

def formValue : Json → Except ItemError String
  | .string s => .ok s
  | .number n => .ok (String.ofList n.spell)
  | .bool b => .ok (String.ofList (Json.boolText b))
  | _ => .error .complexField

def add (c : Content) (item : Item) : Item.Decoded → Except ItemError Content
  | .header value => .ok { c with headers := c.headers.add item.key value }
  | .upload u => .ok { c with uploads := c.uploads.add item.key u }
  | .text s =>
    if item.separator.isData then .ok { c with data := c.data.addField item.key s }
    else .ok { c with query := c.query.add item.key s }
  | .json v => (formValue v).map fun s => { c with data := c.data.addField item.key s }

def addAll (files : Files) (c : Content) : List Item → Except ItemError Content
  | [] => .ok c
  | item :: rest =>
    match item.decode files with
    | .error e => .error e
    | .ok d =>
      match c.add item d with
      | .error e => .error e
      | .ok c => addAll files c rest

def documentValue : Item.Decoded → Json
  | .json v => v
  | .text s => .string s
  | _ => .null

def pairs (files : Files) : List Item → Except ItemError (List (String × Json))
  | [] => .ok []
  | item :: rest =>
    match item.decode files with
    | .error e => .error e
    | .ok d => (pairs files rest).map ((item.key, documentValue d) :: ·)

/-- The fields that the data items of a JSON body write. -/
def document (files : Files) (items : List Item) : Except ItemError (List (String × Json)) :=
  match pairs files items with
  | .error e => .error e
  | .ok ps => (Path.assemble ps).mapError .badPath

/-- In JSON the data items come first, as they write one document; all else goes in order. -/
def ofItems (files : Files) (explicit : Option Encoding) (items : List Item) :
    Except ItemError Content :=
  match encodingOf explicit items with
  | .error e => .error e
  | .ok encoding =>
    let inDocument (item : Item) := encoding == .json && item.separator.isNestedJson
    let start (data : Data) : Content := ⟨.empty, data, .empty, .empty, encoding⟩
    let others := items.filter fun item => !inDocument item
    if encoding = .json then
      match document files (items.filter inDocument) with
      | .error e => .error e
      | .ok fields => addAll files (start (.json fields)) others
    else addAll files (start (.form .empty)) others

end Content

end Courier
