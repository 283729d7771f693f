import Courier.Path.Parser

/-! Writing a value at the end of a path, and assembling a document from pairs of a path and a
value. Containers that are missing, or `null`, come into being on the way; what is there keeps its
kind. -/

namespace Courier

namespace Path

inductive Refusal where
  | wrongType (found : Json.Kind)
  | negative
  | beyond (index : Int) (length : Nat)
  deriving DecidableEq

/-- A refusal, and how many steps of the path were taken before it. -/
structure Failure where
  depth : Nat
  refusal : Refusal
  deriving DecidableEq

def Failure.deeper (f : Failure) : Failure := { f with depth := f.depth + 1 }

def fields? : Json → Option (List (String × Json))
  | .null => some []
  | .object fields => some fields
  | _ => none

def items? : Json → Option (List Json)
  | .null => some []
  | .array items => some items
  | _ => none

def slot (index : Int) (length : Nat) : Except Refusal Nat :=
  if index < 0 then .error .negative
  else if index.toNat ≤ length + paddingLimit then .ok index.toNat
  else .error (.beyond index length)

/-- Fills an array with `null` up to and including a place. -/
def pad (items : List Json) (place : Nat) : List Json :=
  items ++ List.replicate (place + 1 - items.length) .null

def refuse (r : Refusal) : Except Failure Json := .error ⟨0, r⟩

def write (value : Json) : List Accessor → Json → Except Failure Json
  | [], _ => .ok value
  | .key k :: rest, doc =>
    match fields? doc with
    | none => refuse (.wrongType doc.kind)
    | some fields =>
      match write value rest ((Fields.find? k fields).getD .null) with
      | .error f => .error f.deeper
      | .ok child => .ok (.object (Fields.insert k child fields))
  | .index i :: rest, doc =>
    match items? doc with
    | none => refuse (.wrongType doc.kind)
    | some items =>
      match slot i items.length with
      | .error r => refuse r
      | .ok place =>
        match write value rest (items[place]?.getD .null) with
        | .error f => .error f.deeper
        | .ok child => .ok (.array ((pad items place).set place child))
  | .append :: rest, doc =>
    match items? doc with
    | none => refuse (.wrongType doc.kind)
    | some items =>
      match write value rest .null with
      | .error f => .error f.deeper
      | .ok child => .ok (.array (items ++ [child]))

namespace Failure

def span (s : Segment) : Option Token :=
  match s.tokens.head?, s.tokens.getLast? with
  | some a, some b => some (.range a.start b.stop)
  | _, _ => none

/-- A wrong type is about the whole segment, an index about its number. -/
def explain (source : String) (segments : List Segment) (f : Failure) : Error :=
  let walked := String.ofList (reconstruct (segments.take f.depth))
  let here := segments[f.depth]?
  match f.refusal with
  | .wrongType found =>
    ⟨source, here.bind span, .wrongType ((here.bind Segment.accessor?).getD .append) walked found⟩
  | .negative => ⟨source, here.bind (·.tokens[1]?), .negativeIndex⟩
  | .beyond index length => ⟨source, here.bind (·.tokens[1]?), .indexBeyond index length⟩

end Failure

def assign (doc : Json) (source : String) (value : Json) : Except Error Json :=
  match parse source with
  | .error e => .error e
  | .ok segments =>
    (write value (accessors segments) doc).mapError (Failure.explain source segments)

/-- The document behind all pairs, `null` if there are none. -/
def build (doc : Json) : List (String × Json) → Except Error Json
  | [] => .ok doc
  | (source, value) :: rest =>
    match assign doc source value with
    | .error e => .error e
    | .ok doc => build doc rest

/-- Fields for a document: anything but an object stands under the empty key. -/
def wrap : Json → List (String × Json)
  | .null => []
  | .object fields => fields
  | doc => [("", doc)]

def unwrap (fields : List (String × Json)) : Json :=
  match fields with
  | [("", .array items)] => .array items
  | _ => .object fields

theorem unwrap_of_ne {fields : List (String × Json)}
    (h : ∀ items, fields ≠ [("", .array items)]) : unwrap fields = .object fields := by
  unfold unwrap
  split
  · next items => exact absurd rfl (h items)
  · rfl

def assemble (pairs : List (String × Json)) : Except Error (List (String × Json)) :=
  (build .null pairs).map wrap

theorem build_append (doc : Json) (ps qs : List (String × Json)) :
    build doc (ps ++ qs) = (build doc ps).bind fun d => build d qs := by
  induction ps generalizing doc with
  | nil => rfl
  | cons p ps ih =>
    simp only [List.cons_append, build]
    cases assign doc p.1 p.2 with
    | error e => rfl
    | ok d => exact ih d

end Path

end Courier
