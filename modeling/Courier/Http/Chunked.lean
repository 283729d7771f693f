import Courier.Http.HeaderMap
import Courier.Text.Encoding

/-! Lines and chunks: how headers and bodies of unknown length stand on the wire. -/

namespace Courier

namespace Http

namespace Wire

/-- A line without its end, and what follows. Lines end in a line feed, which a carriage return
may precede. -/
def line? (s : Bytes) : Option (Bytes × Bytes) :=
  match s.dropWhile (· != 10) with
  | [] => none
  | _ :: rest =>
    let body := s.takeWhile (· != 10)
    some (if body.getLast? = some 13 then body.dropLast else body, rest)

/-- Bytes of header values: no controls but the tab. -/
def isValueByte (b : UInt8) : Bool := b = 9 || (0x20 ≤ b.toNat && b.toNat ≠ 0x7F)

def isBlankByte (b : UInt8) : Bool := b = 32 || b = 9

def trim (s : Bytes) : Bytes :=
  ((s.dropWhile isBlankByte).reverse.dropWhile isBlankByte).reverse

def isNameByte (b : UInt8) : Bool := b.toNat < 0x80 && isNameChar (Char.ofNat b.toNat)

def header? (s : Bytes) : Option (String × String) :=
  let name := s.takeWhile (· != 58)
  match s.dropWhile (· != 58) with
  | [] => none
  | _ :: value =>
    if name.isEmpty || !name.all isNameByte || !value.all isValueByte then none
    else
      some (String.ofList (name.map fun b => (Char.ofNat b.toNat).toLower),
        String.ofList (Utf8.decodeLossy (trim value)))

def headerLimit : Nat := 100

def headers? : Nat → Bytes → Option (List (String × String) × Bytes)
  | 0, _ => none
  | count + 1, s =>
    match line? s with
    | none => none
    | some ([], rest) => some ([], rest)
    | some (l, rest) =>
      match header? l with
      | none => none
      | some h => (headers? count rest).map fun (hs, rest) => (h :: hs, rest)

/-- A size in hexadecimal digits, blanks, and an extension that is ignored. -/
def chunkSize? (s : Bytes) : Option Nat :=
  let digits := s.takeWhile fun b => (Percent.hexValue? b).isSome
  let rest := (s.dropWhile fun b => (Percent.hexValue? b).isSome).dropWhile isBlankByte
  let size := digits.foldl (fun n b => 16 * n + (Percent.hexValue? b).getD 0) 0
  if digits.isEmpty || Nat.pow 2 64 ≤ size || !(rest.isEmpty || rest.head? = some 59) then none
  else some size

def strictLine? (s : Bytes) : Option (Bytes × Bytes) :=
  match s.dropWhile (· != 13) with
  | 13 :: 10 :: rest =>
    if (s.takeWhile (· != 13)).contains 10 then none else some (s.takeWhile (· != 13), rest)
  | _ => none

/-- Headers behind the last chunk, up to an empty line. They are checked and dropped. -/
def trailers? : Nat → Bytes → Option Unit
  | 0, _ => none
  | count + 1, s =>
    match strictLine? s with
    | none => none
    | some ([], _) => some ()
    | some (l, rest) => if (header? l).isSome then trailers? count rest else none

/-- The content of chunks, up to the chunk of size zero and the headers that end the body. The
fuel counts chunks. -/
def chunks? : Nat → Bytes → Option Bytes
  | 0, _ => none
  | fuel + 1, s =>
    match strictLine? s with
    | none => none
    | some (l, rest) =>
      match chunkSize? l with
      | none => none
      | some 0 => (trailers? (headerLimit + 1) rest).map fun _ => []
      | some size =>
        if rest.length < size then none
        else
          match rest.drop size with
          | 13 :: 10 :: more => (chunks? fuel more).map (rest.take size ++ ·)
          | _ => none

end Wire

end Http

end Courier
