import Courier.Json.Parser

/-! Stepping over a JSON value that nobody asked for. Its shape is checked, but neither the range
of its numbers, nor its escapes for surrogates, nor its depth. -/

namespace Courier

namespace Json.Reader

inductive Frame where
  | list
  | object
  deriving DecidableEq

namespace Frame

def closer : Frame → Char
  | list => ']'
  | object => '}'

def atEnd : Frame → Fault
  | list => .atEnd .endInList
  | object => .atEnd .endInObject

def noSeparator : Frame → Cause
  | list => .noListSeparator
  | object => .noObjectSeparator

end Frame

def passDigits (s : List Char) : List Char := s.dropWhile Char.isDigit

def noDigit (s : List Char) : Fault := .atHead .badNumber s

def passExponent : List Char → Except Fault (List Char)
  | [] => .ok []
  | e :: s =>
    if e = 'e' ∨ e = 'E' then
      let s := match s with
        | '-' :: r => r
        | '+' :: r => r
        | r => r
      if (s.head?.map Char.isDigit).getD false then .ok (passDigits s) else .error (noDigit s)
    else .ok (e :: s)

def passNumber (s : List Char) : Except Fault (List Char) :=
  match s with
  | [] => .error (noDigit [])
  | c :: r =>
    if !c.isDigit then .error (noDigit s)
    else if c = '0' ∧ (r.head?.map Char.isDigit).getD false then .error (noDigit r)
    else
      match passDigits s with
      | '.' :: r =>
        if (r.head?.map Char.isDigit).getD false then passExponent (passDigits r)
        else .error (noDigit r)
      | r => passExponent r

/-- The rest of a string. A control character in it is not counted as read. -/
def passString : List Char → Except Fault (List Char)
  | [] => .error (.atEnd .endInString)
  | c :: s =>
    if c = '"' then .ok s
    else if c.toNat < 0x20 then .error (.before .controlCharacter (c :: s))
    else if c ≠ '\\' then passString s
    else
      match s with
      | [] => .error (.atEnd .endInString)
      | e :: s =>
        if e ≠ 'u' then
          if (unescape? e).isSome then passString s else .error (.atHead .badEscape (e :: s))
        else
          match s with
          | h₁ :: h₂ :: h₃ :: h₄ :: r =>
            if (unit? h₁ h₂ h₃ h₄).isSome then passString r else .error (unitFault s)
          | _ => .error (unitFault s)

def passScalar (c : Char) (s : List Char) : Except Fault (List Char) :=
  if c = 'n' then word ['u', 'l', 'l'] s
  else if c = 't' then word ['r', 'u', 'e'] s
  else if c = 'f' then word ['a', 'l', 's', 'e'] s
  else if c = '-' then passNumber s
  else if c.isDigit then passNumber (c :: s)
  else if c = '"' then passString s
  else .error (.atHead .noValue (c :: s))

/-- What stands in front of a value: in an object a key and a colon. -/
def passKey (frame : Frame) (s : List Char) : Except Fault (List Char) :=
  match frame with
  | .list => .ok s
  | .object =>
    match skip s with
    | [] => .error frame.atEnd
    | c :: r =>
      if c ≠ '"' then .error (.atHead .keyNotString (c :: r))
      else
        match passString r with
        | .error f => .error f
        | .ok r => skipColon r

/-- What follows a value: brackets that close, up to a comma or the end of the outermost one. -/
def passClosers : List Frame → List Char → Except Fault (List Frame × List Char)
  | [], s => .ok ([], s)
  | frame :: outer, s =>
    match skip s with
    | [] => .error frame.atEnd
    | c :: r =>
      if c = ',' then (passKey frame r).map (frame :: outer, ·)
      else if c = frame.closer then passClosers outer r
      else .error (.atHead frame.noSeparator (c :: r))

/-- What follows an opening bracket: the first value, or the closing bracket. -/
def passOpener (frame : Frame) (outer : List Frame) (s : List Char) :
    Except Fault (List Frame × List Char × Bool) :=
  match skip s with
  | [] => .error frame.atEnd
  | c :: r =>
    if c = frame.closer then
      (passClosers outer r).map fun (frames, r) => (frames, r, frames.isEmpty)
    else (passKey frame (c :: r)).map fun r => (frame :: outer, r, false)

/-- A value inside of open brackets, and all that follows up to the end of the outermost one. -/
def pass : Nat → List Frame → List Char → Except Fault (List Char)
  | 0, _, _ => .error (.atEnd .endInValue)
  | fuel + 1, frames, s =>
    match skip s with
    | [] => .error (.atEnd .endInValue)
    | c :: r =>
      let after :=
        if c = '[' then passOpener .list frames r
        else if c = '{' then passOpener .object frames r
        else
          match passScalar c r with
          | .error f => .error f
          | .ok r => (passClosers frames r).map fun (frames, r) => (frames, r, frames.isEmpty)
      match after with
      | .error f => .error f
      | .ok (frames, r, finished) => if finished then .ok r else pass fuel frames r

end Json.Reader

end Courier
