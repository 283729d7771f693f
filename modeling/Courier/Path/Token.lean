import Courier.Json.Basic
import Courier.Text.Split

/-! Tokens of the bracket path language, and segments: one step into a document each, or the value
that is put at the end. Spans are bytes of the source, ends exclusive, and those of a tokenized
source tile it. -/

namespace Courier

namespace Path

inductive Kind where
  | text
  | number
  | left
  | right
  /-- Marks a range of the source and has no text. -/
  | range
  deriving DecidableEq

def Kind.describe : Kind → String
  | .text => "a text"
  | .number => "a number"
  | .left => "'['"
  | .right => "']'"
  | .range => "a pseudo"

def Kind.isLiteral : Kind → Bool
  | .text | .number => true
  | _ => false

structure Token where
  kind : Kind
  value : String
  start : Nat
  stop : Nat
  deriving DecidableEq

namespace Token

def range (start stop : Nat) : Token := ⟨.range, "", start, stop⟩

def number? (t : Token) : Option Int :=
  if t.kind = .number then Integer.read? t.value.toList else none

end Token

/-- A bracket, or the marks between two brackets. -/
inductive Lexeme where
  | left
  | right
  | run (marks : List Mark)
  deriving DecidableEq

namespace Lexeme

def isSpecial (c : Char) : Bool := c = '[' || c = ']' || c = '\\'

def cons (m : Mark) (ls : List Lexeme) : List Lexeme :=
  if m = .plain '[' then left :: ls
  else if m = .plain ']' then right :: ls
  else
    match ls with
    | run ms :: rest => run (m :: ms) :: rest
    | ls => run [m] :: ls

def ofMarks (ms : List Mark) : List Lexeme := ms.foldr cons []

def source : Lexeme → List Char
  | left => ['[']
  | right => [']']
  | run ms => ms.flatMap Mark.source

def size (l : Lexeme) : Nat := l.source.foldl (fun n c => n + c.utf8Size) 0

/-- A run without escapes that spells an integer is a number. A backslash in front of such a run
keeps it a text, and is dropped. -/
def classify (ms : List Mark) : Kind × List Char :=
  let s := Mark.decode ms
  if ms.any Mark.isEscaped then (.text, s)
  else
    match Integer.read? s with
    | some n => (.number, Integer.spell n)
    | none =>
      match s with
      | '\\' :: digits =>
        if (Integer.read? digits).isSome then (.text, digits) else (.text, s)
      | _ => (.text, s)

def token (start : Nat) (l : Lexeme) : Token :=
  match l with
  | left => ⟨.left, "[", start, start + 1⟩
  | right => ⟨.right, "]", start, start + 1⟩
  | run ms =>
    let (kind, value) := classify ms
    ⟨kind, String.ofList value, start, start + l.size⟩

/-- Gives each lexeme its place behind the ones before it. -/
def place (start : Nat) : List Lexeme → List Token
  | [] => []
  | l :: ls => l.token start :: place (start + l.size) ls

end Lexeme

def tokenize (source : String) : List Token :=
  Lexeme.place 0 (Lexeme.ofMarks (Mark.read Lexeme.isSpecial source.toList))

inductive Accessor where
  | key (name : String)
  | index (position : Int)
  | append
  deriving DecidableEq

inductive Action where
  | access (a : Accessor)
  | assign (value : Json)
  deriving DecidableEq

def Accessor.name : Accessor → String
  | .key _ => "key"
  | .index _ => "index"
  | .append => "append"

def Accessor.container : Accessor → Json.Kind
  | .key _ => .object
  | .index _ | .append => .array

structure Segment where
  action : Action
  tokens : List Token
  isRoot : Bool
  deriving DecidableEq

namespace Segment

def accessor? (s : Segment) : Option Accessor :=
  match s.action with
  | .access a => some a
  | .assign _ => none

/-- The segment in canonical path text: the root key stands bare, all else in brackets. -/
def reconstruct (s : Segment) : List Char :=
  match s.action with
  | .access (.key k) => if s.isRoot then k.toList else '[' :: k.toList ++ [']']
  | .access (.index i) => '[' :: Integer.spell i ++ [']']
  | .access .append => ['[', ']']
  | .assign _ => []

end Segment

def accessors (segments : List Segment) : List Accessor := segments.filterMap Segment.accessor?

theorem accessors_cons {s : Segment} {a : Accessor} (h : s.action = .access a)
    (ss : List Segment) : accessors (s :: ss) = a :: accessors ss := by
  simp [accessors, Segment.accessor?, h]

def reconstruct (segments : List Segment) : List Char := segments.flatMap Segment.reconstruct

end Path

end Courier
