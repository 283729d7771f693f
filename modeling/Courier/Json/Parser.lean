import Courier.Json.Scanner

/-! Reading JSON text. Lists and objects nest at most 127 deep. -/

namespace Courier

namespace Json

namespace Reader

def depthLimit : Nat := 127

/-- Steps over what has to stand between items: nothing before the first one, a comma before each
later one. -/
def nextItem (first : Bool) (c : Char) (s : List Char) : Except Fault (List Char) :=
  if first then .ok (c :: s)
  else if c = ',' then
    match skip s with
    | [] => .error (.atEnd .endInValue)
    | d :: r => if d = ']' then .error (.atHead .trailingComma (d :: r)) else .ok (d :: r)
  else .error (.atHead .noListSeparator (c :: s))

/-- Steps over what has to stand between members, and over the opening quote of a key. -/
def nextKey (first : Bool) (c : Char) (s : List Char) : Except Fault (List Char) :=
  if first then
    if c = '"' then .ok s else .error (.atHead .keyNotString (c :: s))
  else if c = ',' then
    match skip s with
    | [] => .error (.atEnd .endInValue)
    | d :: r =>
      if d = '"' then .ok r
      else if d = '}' then .error (.atHead .trailingComma (d :: r))
      else .error (.atHead .keyNotString (d :: r))
  else .error (.atHead .noObjectSeparator (c :: s))

def skipColon (s : List Char) : Except Fault (List Char) :=
  match skip s with
  | [] => .error (.atEnd .endInObject)
  | c :: r => if c = ':' then .ok r else .error (.atHead .noColon (c :: r))

mutual

/-- One value. The fuel counts calls; `depth` is how many brackets may still be opened. -/
def value : Nat → Nat → List Char → Except Fault (Json × List Char)
  | 0, _, _ => .error (.atEnd .endInValue)
  | fuel + 1, depth, s =>
    match skip s with
    | [] => .error (.atEnd .endInValue)
    | c :: r =>
      if c = 'n' then (word ['u', 'l', 'l'] r).map (null, ·)
      else if c = 't' then (word ['r', 'u', 'e'] r).map (bool true, ·)
      else if c = 'f' then (word ['a', 'l', 's', 'e'] r).map (bool false, ·)
      else if c = '-' then (numeral true r).map fun (n, r) => (number n, r)
      else if c.isDigit then (numeral false (c :: r)).map fun (n, r) => (number n, r)
      else if c = '"' then (stringBody [] r).map fun (t, r) => (string t, r)
      else if c = '[' then
        match depth with
        | 0 => .error (.atHead .tooDeep (c :: r))
        | depth + 1 => (items fuel depth true [] r).map fun (vs, r) => (array vs, r)
      else if c = '{' then
        match depth with
        | 0 => .error (.atHead .tooDeep (c :: r))
        | depth + 1 => (fields fuel depth true [] r).map fun (fs, r) => (object fs, r)
      else .error (.atHead .noValue (c :: r))

/-- The rest of a list; `acc` holds the items read, backwards. -/
def items : Nat → Nat → Bool → List Json → List Char → Except Fault (List Json × List Char)
  | 0, _, _, _, _ => .error (.atEnd .endInList)
  | fuel + 1, depth, first, acc, s =>
    match skip s with
    | [] => .error (.atEnd .endInList)
    | c :: r =>
      if c = ']' then .ok (acc.reverse, r)
      else
        match nextItem first c r with
        | .error f => .error f
        | .ok r =>
          match value fuel depth r with
          | .error f => .error f
          | .ok (v, r) => items fuel depth false (v :: acc) r

/-- The rest of an object; `acc` holds the fields read so far. -/
def fields : Nat → Nat → Bool → List (String × Json) → List Char →
    Except Fault (List (String × Json) × List Char)
  | 0, _, _, _, _ => .error (.atEnd .endInObject)
  | fuel + 1, depth, first, acc, s =>
    match skip s with
    | [] => .error (.atEnd .endInObject)
    | c :: r =>
      if c = '}' then .ok (acc, r)
      else
        match nextKey first c r with
        | .error f => .error f
        | .ok r =>
          match stringBody [] r with
          | .error f => .error f
          | .ok (k, r) =>
            match skipColon r with
            | .error f => .error f
            | .ok r =>
              match value fuel depth r with
              | .error f => .error f
              | .ok (v, r) => fields fuel depth false (Fields.insert k v acc) r

end

/-- Two calls read at least one character. -/
def fuelFor (s : List Char) : Nat := 2 * s.length + 2

def document (s : List Char) : Except Fault Json :=
  match value (fuelFor s) depthLimit s with
  | .error f => .error f
  | .ok (v, r) =>
    match skip r with
    | [] => .ok v
    | r => .error (.atHead .trailingCharacters r)

end Reader

def parse (text : String) : Except Error Json :=
  (Reader.document text.toList).mapError (Fault.locate text.toList)

end Json

end Courier
