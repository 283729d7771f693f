import Courier.Text.Split

/-! Request items: a key, a separator that says what the item is for, and a value. -/

namespace Courier

inductive Separator where
  | header
  | headerEmpty
  | headerFile
  | query
  | queryFile
  | field
  | fieldFile
  | json
  | jsonFile
  | upload
  deriving DecidableEq

namespace Separator

def all : List Separator :=
  [header, headerEmpty, headerFile, query, queryFile, field, fieldFile, json, jsonFile, upload]

def text : Separator → List Char
  | header => [':']
  | headerEmpty => [';']
  | headerFile => [':', '@']
  | query => ['=', '=']
  | queryFile => ['=', '=', '@']
  | field => ['=']
  | fieldFile => ['=', '@']
  | json => [':', '=']
  | jsonFile => [':', '=', '@']
  | upload => ['@']

def ofText? (s : String) : Option Separator := all.find? fun sep => sep.text == s.toList

/-- Items whose value goes into the document of a JSON body. -/
def isNestedJson : Separator → Bool
  | field | fieldFile | json | jsonFile => true
  | _ => false

def isData (s : Separator) : Bool := s.isNestedJson || s == upload

end Separator

structure Item where
  key : String
  value : String
  separator : Separator
  source : String
  deriving DecidableEq

namespace Item

/-- The characters that a backslash makes literal: those of the separators looked for. -/
def isSpecial (separators : List Separator) (c : Char) : Bool :=
  separators.any fun s => s.text.contains c

def startsWith : List Char → List Mark → Bool
  | [], _ => true
  | c :: cs, .plain d :: ms => c == d && startsWith cs ms
  | _ :: _, _ => false

def longer (s : Separator) : Option Separator → Option Separator
  | some t => if t.text.length < s.text.length then some s else some t
  | none => some s

/-- The longest listed separator that stands, unescaped, at the head of the marks. -/
def separatorAt? (separators : List Separator) (ms : List Mark) : Option Separator :=
  (separators.filter fun s => startsWith s.text ms).foldr longer none

/-- Splits at the first place where a separator stands. -/
def split? (separators : List Separator) : List Mark → Option (List Mark × Separator × List Mark)
  | [] => none
  | m :: ms =>
    match separatorAt? separators (m :: ms) with
    | some s => some ([], s, (m :: ms).drop s.text.length)
    | none => (split? separators ms).map fun (before, s, after) => (m :: before, s, after)

def parseWith? (separators : List Separator) (source : String) : Option Item :=
  (split? separators (Mark.read (isSpecial separators) source.toList)).map fun (k, s, v) =>
    ⟨String.ofList (Mark.decode k), String.ofList (Mark.decode v), s, source⟩

def parse? (source : String) : Option Item := parseWith? Separator.all source

end Item

end Courier
