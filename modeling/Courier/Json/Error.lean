/-! What can be wrong with a JSON text, and where it shows. -/

namespace Courier

namespace Json

inductive Cause where
  | endInValue | endInList | endInObject | endInString
  | noValue | badLiteral | badNumber | numberRange
  | badEscape | unpairedEscape | loneSurrogate | controlCharacter
  | keyNotString | noColon | noListSeparator | noObjectSeparator
  | trailingComma | trailingCharacters | tooDeep
  /-- The text is JSON so far, but not of the shape that is read. -/
  | wrongType (found expected : String)
  | duplicateField (name : String)
  deriving DecidableEq

def Cause.message : Cause → String
  | .endInValue => "EOF while parsing a value"
  | .endInList => "EOF while parsing a list"
  | .endInObject => "EOF while parsing an object"
  | .endInString => "EOF while parsing a string"
  | .noValue => "expected value"
  | .badLiteral => "expected ident"
  | .badNumber => "invalid number"
  | .numberRange => "number out of range"
  | .badEscape => "invalid escape"
  | .unpairedEscape => "unexpected end of hex escape"
  | .loneSurrogate => "lone leading surrogate in hex escape"
  | .controlCharacter => "control character (\\u0000-\\u001F) found while parsing a string"
  | .keyNotString => "key must be a string"
  | .noColon => "expected `:`"
  | .noListSeparator => "expected `,` or `]`"
  | .noObjectSeparator => "expected `,` or `\x7d`"
  | .trailingComma => "trailing comma"
  | .trailingCharacters => "trailing characters"
  | .tooDeep => "recursion limit exceeded"
  | .wrongType found expected => "invalid type: " ++ found ++ ", expected " ++ expected
  | .duplicateField name => "duplicate field `" ++ name ++ "`"

def byteSize (s : List Char) : Nat := s.foldl (fun n c => n + c.utf8Size) 0

/-- A cause, and how many bytes of the text lie behind the place where it shows. -/
structure Fault where
  cause : Cause
  left : Nat
  deriving DecidableEq

namespace Fault

/-- Shows at the first byte of `rest`, which counts as read. -/
def atHead (cause : Cause) (rest : List Char) : Fault := ⟨cause, byteSize rest - 1⟩

/-- Shows in front of `rest`. -/
def before (cause : Cause) (rest : List Char) : Fault := ⟨cause, byteSize rest⟩

def atEnd (cause : Cause) : Fault := ⟨cause, 0⟩

end Fault

structure Error where
  cause : Cause
  line : Nat
  column : Nat
  deriving DecidableEq

/-- Line and column after so many bytes: lines count from one, columns are the bytes since the
last line feed. -/
def position (line column : Nat) : Nat → List Char → Nat × Nat
  | _, [] => (line, column)
  | bytes, c :: rest =>
    if bytes = 0 then (line, column)
    else if bytes < c.utf8Size then (line, column + bytes)
    else if c = '\n' then position (line + 1) 0 (bytes - 1) rest
    else position line (column + c.utf8Size) (bytes - c.utf8Size) rest

def Fault.locate (text : List Char) (f : Fault) : Error :=
  let (line, column) := position 1 0 (byteSize text - f.left) text
  ⟨f.cause, line, column⟩

def Error.message (e : Error) : String :=
  e.cause.message ++ " at line " ++ toString e.line ++ " column " ++ toString e.column

end Json

end Courier
