import Courier.Path.Error

/-! Parsing paths: a root, then hops in brackets. -/

namespace Courier

namespace Path

/-- What could have stood in front of the tokens that are left. -/
structure Unexpected where
  expected : List Kind
  rest : List Token

def Segment.access (a : Accessor) (tokens : List Token) (isRoot : Bool) : Segment :=
  ⟨.access a, tokens, isRoot⟩

/-- The accessor that a literal in brackets spells. -/
def bracketed (t : Token) : Accessor :=
  match t.number? with
  | some i => .index i
  | none => .key t.value

def hops : List Token → Except Unexpected (List Segment)
  | [] => .ok []
  | open₁ :: ts =>
    if open₁.kind ≠ .left then .error ⟨[.left], open₁ :: ts⟩ else
    match ts with
    | [] => .error ⟨[.text, .number, .right], []⟩
    | t :: ts =>
      if t.kind = .right then
        (hops ts).map (Segment.access .append [open₁, t] false :: ·)
      else if t.kind.isLiteral then
        match ts with
        | [] => .error ⟨[.right], []⟩
        | close :: ts =>
          if close.kind = .right then
            (hops ts).map (Segment.access (bracketed t) [open₁, t, close] false :: ·)
          else .error ⟨[.right], close :: ts⟩
      else .error ⟨[.text, .number, .right], t :: ts⟩

/-- A root key stands bare. In brackets the root is an index or an append, never a key. -/
def root : List Token → Except Unexpected (Segment × List Token)
  | [] => .ok (.access (.key "") [] true, [])
  | t :: ts =>
    if t.kind.isLiteral then .ok (.access (.key t.value) [t] true, ts)
    else if t.kind = .left then
      match ts with
      | [] => .error ⟨[.number, .right], []⟩
      | u :: us =>
        if u.kind = .number ∨ u.kind = .right then
          match u.number? with
          | none => .ok (.access .append [t, u] true, us)
          | some i =>
            match us with
            | [] => .error ⟨[.right], []⟩
            | close :: rest =>
              if close.kind = .right then .ok (.access (.index i) [t, u, close] true, rest)
              else .error ⟨[.right], close :: rest⟩
        else .error ⟨[.number, .right], u :: us⟩
    else .error ⟨[.text, .number, .left], t :: ts⟩

def parseTokens (ts : List Token) : Except Unexpected (List Segment) :=
  match root ts with
  | .error e => .error e
  | .ok (s, rest) => (hops rest).map (s :: ·)

/-- The token that is wrong, or one column behind the last token if the path stops too early. -/
def offender (tokens rest : List Token) : Option Token :=
  match rest with
  | t :: _ => some t
  | [] => tokens.getLast?.map fun t => { t with start := t.stop, stop := t.stop + 1 }

def parse (source : String) : Except Error (List Segment) :=
  let tokens := tokenize source
  (parseTokens tokens).mapError fun e =>
    ⟨source, offender tokens e.rest, .unexpected e.expected⟩

end Path

end Courier
