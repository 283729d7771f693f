import Courier.Json.Basic

/-! JSON text, compact or indented. `text` says what is written; `render` writes it in one pass
over an accumulator and gives the same characters. -/

namespace Courier

namespace Json

def hexDigit (n : Nat) : Char := Nat.digitChar n

def escapeChar (c : Char) : List Char :=
  if c = '"' then ['\\', '"']
  else if c = '\\' then ['\\', '\\']
  else if c = '\x08' then ['\\', 'b']
  else if c = '\x0c' then ['\\', 'f']
  else if c = '\n' then ['\\', 'n']
  else if c = '\r' then ['\\', 'r']
  else if c = '\t' then ['\\', 't']
  else if c.toNat < 0x20 then
    ['\\', 'u', '0', '0', hexDigit (c.toNat / 16), hexDigit (c.toNat % 16)]
  else [c]

def quoted (s : String) : List Char := '"' :: s.toList.flatMap escapeChar ++ ['"']

def boolText : Bool → List Char
  | true => ['t', 'r', 'u', 'e']
  | false => ['f', 'a', 'l', 's', 'e']

/-- Before each item and before a closing bracket, indented text starts a new line; a level is
two spaces. Compact text has no level and no breaks. -/
def lineBreak : Option Nat → List Char
  | none => []
  | some level => '\n' :: List.replicate (2 * level) ' '

def colon : Option Nat → List Char
  | none => [':']
  | some _ => [':', ' ']

def inner (level : Option Nat) : Option Nat := level.map (· + 1)

mutual

def text (level : Option Nat) : Json → List Char
  | null => ['n', 'u', 'l', 'l']
  | bool b => boolText b
  | number n => n.spell
  | string s => quoted s
  | array items => '[' :: itemsText level items ++ [']']
  | object fields => '{' :: fieldsText level fields ++ ['}']

def itemsText (level : Option Nat) : List Json → List Char
  | [] => []
  | [v] => lineBreak (inner level) ++ text (inner level) v ++ lineBreak level
  | v :: w :: rest =>
    lineBreak (inner level) ++ text (inner level) v ++ ',' :: itemsText level (w :: rest)

def fieldsText (level : Option Nat) : List (String × Json) → List Char
  | [] => []
  | [(k, v)] =>
    lineBreak (inner level) ++ quoted k ++ colon level ++ text (inner level) v ++ lineBreak level
  | (k, v) :: w :: rest =>
    lineBreak (inner level) ++ quoted k ++ colon level ++ text (inner level) v ++
      ',' :: fieldsText level (w :: rest)

end

/-- Puts text in front of an accumulator that holds the output backwards. -/
def push (cs acc : List Char) : List Char := cs.reverseAux acc

theorem push_eq (cs acc : List Char) : push cs acc = cs.reverse ++ acc := List.reverseAux_eq

mutual

def emit (level : Option Nat) : Json → List Char → List Char
  | null, acc => push ['n', 'u', 'l', 'l'] acc
  | bool b, acc => push (boolText b) acc
  | number n, acc => push n.spell acc
  | string s, acc => push (quoted s) acc
  | array items, acc => ']' :: emitItems level items ('[' :: acc)
  | object fields, acc => '}' :: emitFields level fields ('{' :: acc)

def emitItems (level : Option Nat) : List Json → List Char → List Char
  | [], acc => acc
  | [v], acc => push (lineBreak level) (emit (inner level) v (push (lineBreak (inner level)) acc))
  | v :: w :: rest, acc =>
    emitItems level (w :: rest) (',' :: emit (inner level) v (push (lineBreak (inner level)) acc))

def emitFields (level : Option Nat) : List (String × Json) → List Char → List Char
  | [], acc => acc
  | [(k, v)], acc =>
    push (lineBreak level)
      (emit (inner level) v
        (push (colon level) (push (quoted k) (push (lineBreak (inner level)) acc))))
  | (k, v) :: w :: rest, acc =>
    emitFields level (w :: rest) (',' ::
      emit (inner level) v
        (push (colon level) (push (quoted k) (push (lineBreak (inner level)) acc))))

end

mutual

theorem emit_eq (level : Option Nat) :
    ∀ (v : Json) (acc : List Char), emit level v acc = (text level v).reverse ++ acc
  | null, acc | bool _, acc | number _, acc | string _, acc => by simp [emit, text, push_eq]
  | array items, acc => by simp [emit, text, emitItems_eq level items]
  | object fields, acc => by simp [emit, text, emitFields_eq level fields]

theorem emitItems_eq (level : Option Nat) :
    ∀ (items : List Json) (acc : List Char),
      emitItems level items acc = (itemsText level items).reverse ++ acc
  | [], acc => by simp [emitItems, itemsText]
  | [v], acc => by simp [emitItems, itemsText, push_eq, emit_eq (inner level) v]
  | v :: w :: rest, acc => by
    simp [emitItems, itemsText, push_eq, emit_eq (inner level) v, emitItems_eq level (w :: rest)]

theorem emitFields_eq (level : Option Nat) :
    ∀ (fields : List (String × Json)) (acc : List Char),
      emitFields level fields acc = (fieldsText level fields).reverse ++ acc
  | [], acc => by simp [emitFields, fieldsText]
  | [(k, v)], acc => by simp [emitFields, fieldsText, push_eq, emit_eq (inner level) v]
  | (k, v) :: w :: rest, acc => by
    simp [emitFields, fieldsText, push_eq, emit_eq (inner level) v,
      emitFields_eq level (w :: rest)]

end

def render (level : Option Nat) (v : Json) : List Char := (emit level v []).reverse

theorem render_eq (level : Option Nat) (v : Json) : render level v = text level v := by
  simp [render, emit_eq]

def compact (v : Json) : String := String.ofList (render none v)

def pretty (v : Json) : String := String.ofList (render (some 0) v)

end Json

end Courier
