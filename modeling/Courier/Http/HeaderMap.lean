/-! Headers of a message, and the characters of their names and values. The values of one name stay
together, at the place of the first. -/

namespace Courier

namespace Http

def isNameChar (c : Char) : Bool :=
  c.isAlphanum ||
    ['!', '#', '$', '%', '&', '\x27', '*', '+', '-', '.', '^', '_', '\x60', '|', '~'].contains c

def isMethod (s : String) : Bool := !s.isEmpty && s.toList.all isNameChar

def nameLimit : Nat := 65535

/-- The name as it is sent, in lower case. -/
def headerName? (s : String) : Option String :=
  if isMethod s && s.length ≤ nameLimit then some (String.ofList (s.toList.map Char.toLower))
  else none

/-- No control characters but the tab. -/
def isValueChar (c : Char) : Bool := c = '\t' || (0x20 ≤ c.toNat && c.toNat ≠ 0x7F)

def isHeaderValue (s : String) : Bool := s.toList.all isValueChar

structure HeaderMap where
  groups : List (String × List String)
  deriving DecidableEq

namespace HeaderMap

def empty : HeaderMap := ⟨[]⟩

def contains (h : HeaderMap) (name : String) : Bool := h.groups.any fun g => g.1 == name

def getAll (h : HeaderMap) (name : String) : List String :=
  ((h.groups.find? fun g => g.1 == name).map Prod.snd).getD []

def names (h : HeaderMap) : List String := h.groups.map Prod.fst

def toList (h : HeaderMap) : List (String × String) :=
  h.groups.flatMap fun (name, values) => values.map (name, ·)

def appendTo (name value : String) : List (String × List String) → List (String × List String)
  | [] => [(name, [value])]
  | (n, vs) :: rest =>
    if n = name then (n, vs ++ [value]) :: rest else (n, vs) :: appendTo name value rest

def append (h : HeaderMap) (name value : String) : HeaderMap := ⟨appendTo name value h.groups⟩

/-- Takes a name out. The last name moves into the gap. -/
def removeFrom (name : String) : List (String × List String) → List (String × List String)
  | [] => []
  | (n, vs) :: rest =>
    if n = name then
      match rest.getLast? with
      | some l => l :: rest.dropLast
      | none => []
    else (n, vs) :: removeFrom name rest

def remove (h : HeaderMap) (name : String) : HeaderMap := ⟨removeFrom name h.groups⟩

def removeAll (h : HeaderMap) (names : List String) : HeaderMap := names.foldl remove h

def appendAll (h : HeaderMap) (headers : List (String × String)) : HeaderMap :=
  headers.foldl (fun h (name, value) => h.append name value) h

def ofList (headers : List (String × String)) : HeaderMap := empty.appendAll headers

/-- Where a name of `custom` is present, its values there are the only ones. -/
def override (h custom : HeaderMap) : HeaderMap :=
  (h.removeAll custom.names).appendAll custom.toList

end HeaderMap

end Http

end Courier
