import Courier.Path.Token

/-! Errors of paths, rendered with a line of carets under the part that is wrong. -/

namespace Courier

namespace Path

inductive Category where
  | malformed
  | mismatch
  | outOfRange
  deriving DecidableEq

def Category.title : Category → String
  | .malformed => "Syntax"
  | .mismatch => "Type"
  | .outOfRange => "Value"

/-- A message about a path, and the part of the path it is about. -/
structure Diagnostic where
  category : Category
  source : String
  token : Option Token
  message : String

/-- How many characters make up exactly the first bytes of a text. -/
def charCount? : Nat → List Char → Option Nat
  | 0, _ => some 0
  | _ + 1, [] => none
  | n + 1, c :: rest =>
    if n + 1 < c.utf8Size then none
    else (charCount? (n + 1 - c.utf8Size) rest).map (· + 1)

/-- Columns that the bytes `start` to `stop` take up: the characters there, or the bytes if the
range cuts through a character, and one column for each byte past the end. -/
def width (source : List Char) (start stop : Nat) : Nat :=
  let size := source.foldl (fun n c => n + c.utf8Size) 0
  let low := min start size
  let high := min stop size
  let inside :=
    match charCount? low source, charCount? high source with
    | some a, some b => if low ≤ high then b - a else 0
    | _, _ => high - low
  inside + (stop - max high start)

def carets (source : List Char) (t : Token) : List Char :=
  List.replicate (width source 0 t.start) ' ' ++
    List.replicate (max (width source t.start t.stop) 1) '^'

def Diagnostic.render (d : Diagnostic) : String :=
  let head := d.category.title ++ " Error: " ++ d.message
  match d.token with
  | none => head
  | some t =>
    head ++ "\n" ++ d.source ++ "\n" ++ String.ofList (carets d.source.toList t)

/-- The most empty slots that one index may add to an array. -/
def paddingLimit : Nat := 100000

inductive Problem where
  | unexpected (expected : List Kind)
  | wrongType (accessor : Accessor) (walked : String) (found : Json.Kind)
  | negativeIndex
  | indexBeyond (index : Int) (length : Nat)
  deriving DecidableEq

def alternatives : List Kind → String
  | [] => ""
  | [k] => k.describe
  | k :: l :: [] => k.describe ++ " or " ++ l.describe
  | k :: rest => k.describe ++ ", " ++ alternatives rest

namespace Problem

def category : Problem → Category
  | unexpected _ => .malformed
  | wrongType .. => .mismatch
  | negativeIndex | indexBeyond .. => .outOfRange

def message : Problem → String
  | unexpected expected => "Expecting " ++ alternatives expected
  | wrongType a walked found =>
    "Cannot perform '" ++ a.name ++ "' based access on '" ++ walked ++ "' which has a type of '" ++
      found.name ++ "' but this operation requires a type of '" ++ a.container.name ++ "'."
  | negativeIndex => "Negative indexes are not supported."
  | indexBeyond index length =>
    "Index " ++ String.ofList (Integer.spell index) ++ " is out of range, an array of length " ++
      toString length ++ " can only be padded up to index " ++
      toString (length + paddingLimit) ++ "."

end Problem

structure Error where
  source : String
  token : Option Token
  problem : Problem
  deriving DecidableEq

def Error.diagnostic (e : Error) : Diagnostic :=
  ⟨e.problem.category, e.source, e.token, e.problem.message⟩

end Path

end Courier
