/-! Pairs in the order in which they were added, and headers as the items of a request give them: in
order, names compared without regard to ASCII case, and with a way to say that a header is not to be
sent. -/

namespace Courier

structure MultiMap (α : Type) where
  entries : List (String × α)
  deriving DecidableEq

namespace MultiMap

variable {α : Type}

def empty : MultiMap α := ⟨[]⟩

def add (m : MultiMap α) (key : String) (value : α) : MultiMap α := ⟨m.entries ++ [(key, value)]⟩

def getAll (m : MultiMap α) (key : String) : List α :=
  (m.entries.filter fun e => e.1 == key).map Prod.snd

def size (m : MultiMap α) : Nat := m.entries.length

def isEmpty (m : MultiMap α) : Bool := m.entries.isEmpty

end MultiMap

def sameName (a b : String) : Bool :=
  a.toList.map Char.toLower == b.toList.map Char.toLower

/-- The value of a suppressed header is `none`. -/
structure Headers where
  entries : List (String × Option String)
  deriving DecidableEq

namespace Headers

def empty : Headers := ⟨[]⟩

def isEmpty (h : Headers) : Bool := h.entries.isEmpty

def contains (h : Headers) (name : String) : Bool := h.entries.any fun e => sameName e.1 name

def getAll (h : Headers) (name : String) : List (Option String) :=
  (h.entries.filter fun e => sameName e.1 name).map Prod.snd

def remove (h : Headers) (name : String) : Headers :=
  ⟨h.entries.filter fun e => !sameName e.1 name⟩

def spelling (h : Headers) (name : String) : String :=
  ((h.entries.find? fun e => sameName e.1 name).map Prod.fst).getD name

def push (h : Headers) (name : String) (value : Option String) : Headers :=
  ⟨h.entries ++ [(name, value)]⟩

/-- Suppressing a header takes the place of all its values. A value takes the place of a
suppression, and joins other values. -/
def add (h : Headers) (name : String) (value : Option String) : Headers :=
  let kept := if value.isNone || (h.getAll name).all Option.isNone then h.remove name else h
  kept.push (h.spelling name) value

/-- Sets a header that is neither given nor suppressed. -/
def setDefault (h : Headers) (name value : String) : Headers :=
  if h.contains name then h else h.push name (some value)

def sent (h : Headers) : List (String × String) :=
  h.entries.filterMap fun (name, value) => value.map (name, ·)

end Headers

end Courier
