import Courier.Json.Basic
import Courier.Json.Error

/-! The leaves of JSON text: blanks, literals, numbers and strings. Each reader returns what it
read and the rest of the text. -/

namespace Courier

namespace Json.Reader

def isBlank (c : Char) : Bool := c = ' ' || c = '\n' || c = '\t' || c = '\r'

def skip (s : List Char) : List Char := s.dropWhile isBlank

def word : List Char → List Char → Except Fault (List Char)
  | [], s => .ok s
  | _ :: _, [] => .error (.atEnd .endInValue)
  | e :: es, c :: s => if c = e then word es s else .error (.atHead .badLiteral (c :: s))

def fraction : List Char → Except Fault (List Char × List Char)
  | '.' :: s =>
    let ds := s.takeWhile Char.isDigit
    if ds.isEmpty then
      .error (if s.isEmpty then .atEnd .endInValue else .atHead .badNumber s)
    else .ok (ds, s.dropWhile Char.isDigit)
  | s => .ok ([], s)

def exponentDigits (down : Bool) :
    List Char → Except Fault (Option (Bool × List Char) × List Char)
  | [] => .error (.atEnd .endInValue)
  | c :: s =>
    if c.isDigit then
      .ok (some (down, (c :: s).takeWhile Char.isDigit), (c :: s).dropWhile Char.isDigit)
    else .error (.atHead .badNumber (c :: s))

def exponent : List Char → Except Fault (Option (Bool × List Char) × List Char)
  | [] => .ok (none, [])
  | e :: s =>
    if e = 'e' ∨ e = 'E' then
      match s with
      | '-' :: r => exponentDigits true r
      | '+' :: r => exponentDigits false r
      | r => exponentDigits false r
    else .ok (none, e :: s)

/-- The digits before the point. A zero stands alone. -/
def whole : List Char → Except Fault (List Char × List Char)
  | [] => .error (.atEnd .endInValue)
  | c :: s =>
    if c = '0' then
      match s with
      | d :: r => if d.isDigit then .error (.atHead .badNumber (d :: r)) else .ok ([c], d :: r)
      | [] => .ok ([c], [])
    else if c.isDigit then
      .ok ((c :: s).takeWhile Char.isDigit, (c :: s).dropWhile Char.isDigit)
    else .error (.atHead .badNumber (c :: s))

/-- A number, its minus sign already read. -/
def numeral (negative : Bool) (s : List Char) : Except Fault (Number × List Char) :=
  match whole s with
  | .error f => .error f
  | .ok (w, s) =>
    match fraction s with
    | .error f => .error f
    | .ok (d, s) =>
      match exponent s with
      | .error f => .error f
      | .ok (e, s) =>
        match (Numeral.mk negative w d e).value with
        | .ok n => .ok (n, s)
        | .error unread => .error (.before .numberRange (unread ++ s))

def hexValue? (c : Char) : Option Nat :=
  if c.isDigit then some (c.toNat - 48)
  else if 'a' ≤ c ∧ c ≤ 'f' then some (c.toNat - 87)
  else if 'A' ≤ c ∧ c ≤ 'F' then some (c.toNat - 55)
  else none

def unit? (a b c d : Char) : Option Nat := do
  return (((← hexValue? a) * 16 + (← hexValue? b)) * 16 + (← hexValue? c)) * 16 + (← hexValue? d)

/-- Four bytes are taken before the digits are looked at. -/
def unitFault (s : List Char) : Fault :=
  if byteSize s < 4 then .atEnd .endInString else ⟨.badEscape, byteSize s - 4⟩

def unescape? : Char → Option Char
  | '"' => some '"'
  | '\\' => some '\\'
  | '/' => some '/'
  | 'b' => some '\x08'
  | 'f' => some '\x0c'
  | 'n' => some '\n'
  | 'r' => some '\r'
  | 't' => some '\t'
  | _ => none

def isHighSurrogate (n : Nat) : Bool := 0xD800 ≤ n && n < 0xDC00

def isLowSurrogate (n : Nat) : Bool := 0xDC00 ≤ n && n < 0xE000

def pair (high low : Nat) : Char := Char.ofNat ((high - 0xD800) * 0x400 + (low - 0xDC00) + 0x10000)

/-- The rest of a string behind its opening quote; `acc` holds the characters read, backwards. -/
def stringBody (acc : List Char) : List Char → Except Fault (String × List Char)
  | [] => .error (.atEnd .endInString)
  | c :: s =>
    if c = '"' then .ok (String.ofList acc.reverse, s)
    else if c.toNat < 0x20 then .error (.atHead .controlCharacter (c :: s))
    else if c ≠ '\\' then stringBody (c :: acc) s
    else
      match s with
      | [] => .error (.atEnd .endInString)
      | e :: s =>
        if e ≠ 'u' then
          match unescape? e with
          | some x => stringBody (x :: acc) s
          | none => .error (.atHead .badEscape (e :: s))
        else
          match s with
          | h₁ :: h₂ :: h₃ :: h₄ :: r =>
            match unit? h₁ h₂ h₃ h₄ with
            | none => .error (unitFault s)
            | some n =>
              if isLowSurrogate n then .error (.before .loneSurrogate r)
              else if isHighSurrogate n then
                match r with
                | [] => .error (.atEnd .endInString)
                | b :: r =>
                  if b ≠ '\\' then .error (.atHead .unpairedEscape (b :: r)) else
                  match r with
                  | [] => .error (.atEnd .endInString)
                  | u :: r =>
                    if u ≠ 'u' then .error (.atHead .unpairedEscape (u :: r)) else
                    match r with
                    | l₁ :: l₂ :: l₃ :: l₄ :: r' =>
                      match unit? l₁ l₂ l₃ l₄ with
                      | none => .error (unitFault r)
                      | some m =>
                        if isLowSurrogate m then stringBody (pair n m :: acc) r'
                        else .error (.before .loneSurrogate r')
                    | _ => .error (unitFault r)
              else stringBody (Char.ofNat n :: acc) r
          | _ => .error (unitFault s)

end Json.Reader

end Courier
