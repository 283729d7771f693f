import Courier.Text.Split

/-! Encodings of texts: UTF-8, percent encoding, the `application/x-www-form-urlencoded` format and
Base64. UTF-8 is decoded to characters and gaps: one gap for each longest stretch of bytes that
begins a character but does not finish it, and for each byte that begins none. -/

namespace Courier

abbrev Bytes := List UInt8

namespace Utf8

/-- A character under way: the bytes still needed, the range the next one must lie in, and the
bits read so far. -/
structure Pending where
  needed : Nat
  low : Nat
  high : Nat
  bits : Nat

inductive Start where
  | done (c : Char)
  | more (p : Pending)
  | bad

/-- What a first byte begins. The narrow ranges keep out overlong forms, surrogates and code
points past the last one. -/
def start (b : Nat) : Start :=
  if b < 0x80 then .done (Char.ofNat b)
  else if b < 0xC2 then .bad
  else if b < 0xE0 then .more ⟨1, 0x80, 0xBF, b - 0xC0⟩
  else if b = 0xE0 then .more ⟨2, 0xA0, 0xBF, 0⟩
  else if b = 0xED then .more ⟨2, 0x80, 0x9F, 0xD⟩
  else if b < 0xF0 then .more ⟨2, 0x80, 0xBF, b - 0xE0⟩
  else if b = 0xF0 then .more ⟨3, 0x90, 0xBF, 0⟩
  else if b < 0xF4 then .more ⟨3, 0x80, 0xBF, b - 0xF0⟩
  else if b = 0xF4 then .more ⟨3, 0x80, 0x8F, 4⟩
  else .bad

/-- One more byte: what it adds to the output, backwards, and what is under way after it. -/
def step (acc : List (Option Char)) (pending : Option Pending) (b : Nat) :
    List (Option Char) × Option Pending :=
  let begin (acc : List (Option Char)) :=
    match start b with
    | .done c => (some c :: acc, none)
    | .more p => (acc, some p)
    | .bad => (none :: acc, none)
  match pending with
  | none => begin acc
  | some p =>
    if p.low ≤ b ∧ b ≤ p.high then
      let bits := p.bits * 64 + (b - 0x80)
      if p.needed ≤ 1 then (some (Char.ofNat bits) :: acc, none)
      else (acc, some ⟨p.needed - 1, 0x80, 0xBF, bits⟩)
    else begin (none :: acc)

def scan (acc : List (Option Char)) (pending : Option Pending) : Bytes → List (Option Char)
  | [] => (if pending.isSome then none :: acc else acc).reverse
  | b :: bs =>
    let (acc, pending) := step acc pending b.toNat
    scan acc pending bs

def pieces (bs : Bytes) : List (Option Char) := scan [] none bs

def decode? (bs : Bytes) : Option (List Char) :=
  let ps := pieces bs
  if ps.all Option.isSome then some (ps.filterMap id) else none

/-- The text, with a replacement character for every gap. -/
def decodeLossy (bs : Bytes) : List Char := (pieces bs).map (·.getD '\ufffd')

def encodeChar (c : Char) : List Nat :=
  let n := c.toNat
  if n < 0x80 then [n]
  else if n < 0x800 then [0xC0 + n / 64, 0x80 + n % 64]
  else if n < 0x10000 then [0xE0 + n / 4096, 0x80 + n / 64 % 64, 0x80 + n % 64]
  else [0xF0 + n / 262144, 0x80 + n / 4096 % 64, 0x80 + n / 64 % 64, 0x80 + n % 64]

def encode (s : List Char) : Bytes := s.flatMap fun c => (encodeChar c).map UInt8.ofNat

end Utf8

namespace Percent

def hexUpper (n : Nat) : Char := if n < 10 then Char.ofNat (48 + n) else Char.ofNat (55 + n)

def byte (b : UInt8) : List Char := ['%', hexUpper (b.toNat / 16), hexUpper (b.toNat % 16)]

def encodeChar (c : Char) : List Char := (Utf8.encode [c]).flatMap byte

/-- Encodes the characters that `reserved` holds of, and all outside ASCII. -/
def encode (reserved : Char → Bool) (s : List Char) : List Char :=
  s.flatMap fun c => if 0x80 ≤ c.toNat || reserved c then encodeChar c else [c]

def hexValue? (b : UInt8) : Option Nat :=
  let n := b.toNat
  if 48 ≤ n ∧ n ≤ 57 then some (n - 48)
  else if 65 ≤ n ∧ n ≤ 70 then some (n - 55)
  else if 97 ≤ n ∧ n ≤ 102 then some (n - 87)
  else none

/-- A percent sign that two hexadecimal digits do not follow stands for itself. -/
def decodeBytes : Bytes → Bytes
  | [] => []
  | 37 :: a :: b :: rest =>
    match hexValue? a, hexValue? b with
    | some m, some n => UInt8.ofNat (16 * m + n) :: decodeBytes rest
    | _, _ => 37 :: decodeBytes (a :: b :: rest)
  | b :: rest => b :: decodeBytes rest

def decode (s : List Char) : Bytes := decodeBytes (Utf8.encode s)

def isControl (c : Char) : Bool := c.toNat < 0x20 || c.toNat = 0x7F

end Percent

namespace Urlencoded

def isUnreserved (c : Char) : Bool :=
  c.isAlphanum || c = '*' || c = '-' || c = '.' || c = '_'

def encodeText (s : List Char) : List Char :=
  s.flatMap fun c =>
    if isUnreserved c then [c] else if c = ' ' then ['+'] else Percent.encodeChar c

def encodePair (p : String × String) : List Char :=
  encodeText p.1.toList ++ '=' :: encodeText p.2.toList

def encode (pairs : List (String × String)) : List Char :=
  List.intercalate ['&'] (pairs.map encodePair)

/-- Appends pairs to a line that may already hold some. -/
def append (line : List Char) (pairs : List (String × String)) : List Char :=
  if line.isEmpty then encode pairs else pairs.foldl (fun l p => l ++ '&' :: encodePair p) line

def decodeText (s : List Char) : String :=
  let spaced := s.map fun c => if c = '+' then ' ' else c
  String.ofList (Utf8.decodeLossy (Percent.decode spaced))

/-- Empty pieces are skipped; a piece without `=` has an empty value. -/
def decode (line : List Char) : List (String × String) :=
  ((splitOn '&' line).filter fun p => !p.isEmpty).map fun p =>
    (decodeText (p.takeWhile (· != '=')), decodeText ((p.dropWhile (· != '=')).drop 1))

end Urlencoded

namespace Base64

def digit (n : Nat) : Char :=
  if n < 26 then Char.ofNat (65 + n)
  else if n < 52 then Char.ofNat (71 + n)
  else if n < 62 then Char.ofNat (n - 4)
  else if n = 62 then '+'
  else '/'

/-- Three bytes become four digits of six bits each; what is missing at the end is padded. -/
def encode : Bytes → List Char
  | [] => []
  | [a] => [digit (a.toNat / 4), digit (a.toNat % 4 * 16), '=', '=']
  | [a, b] =>
    [digit (a.toNat / 4), digit (a.toNat % 4 * 16 + b.toNat / 16), digit (b.toNat % 16 * 4), '=']
  | a :: b :: c :: rest =>
    digit (a.toNat / 4) :: digit (a.toNat % 4 * 16 + b.toNat / 16) ::
      digit (b.toNat % 16 * 4 + c.toNat / 64) :: digit (c.toNat % 64) :: encode rest

end Base64

end Courier
