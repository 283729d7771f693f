/-! Punycode: texts of any characters in ASCII letters, digits and hyphens. The ASCII characters
come first; then each other one is inserted, in the order of code points, by a number that says
how far to go on from the insertion before. -/

namespace Courier

namespace Punycode

def base : Nat := 36

def lowest : Nat := 1

def highest : Nat := 26

def firstBias : Nat := 72

def firstCode : Nat := 0x80

/-- The weight of the digit at a place lies between two limits, and follows the bias between. -/
def threshold (place bias : Nat) : Nat := min (max (place - bias) lowest) highest

theorem threshold_pos (place bias : Nat) : 0 < threshold place bias := by
  unfold threshold lowest highest
  omega

def digit (n : Nat) : Char := if n < 26 then Char.ofNat (97 + n) else Char.ofNat (22 + n)

def digitValue? (c : Char) : Option Nat :=
  if 'a' ≤ c ∧ c ≤ 'z' then some (c.toNat - 97)
  else if c.isDigit then some (c.toNat - 22)
  else none

/-- A number in digits of mixed weight. The last one is below its threshold. -/
def spell (bias place q : Nat) : List Char :=
  let t := threshold place bias
  if q < t then [digit q]
  else digit (t + (q - t) % (base - t)) :: spell bias (place + base) ((q - t) / (base - t))
termination_by q
decreasing_by
  rename_i h
  have h₁ := threshold_pos place bias
  have h₂ : (q - threshold place bias) / (base - threshold place bias) ≤ q - threshold place bias :=
    Nat.div_le_self _ _
  omega

/-- Divides until the quotient is small, and counts the places this takes. -/
def settle (place delta : Nat) : Nat :=
  if 455 < delta then settle (place + base) (delta / 35) else place + 36 * delta / (delta + 38)
termination_by delta
decreasing_by omega

/-- The bias for the next number, after `delta` led to a text of `size` characters. -/
def adapt (delta size : Nat) (first : Bool) : Nat :=
  let delta := if first then delta / 700 else delta / 2
  settle 0 (delta + delta / size)

/-- How many characters are in place, what was counted since the last one, and the output. -/
structure Encoder where
  code : Nat
  delta : Nat
  bias : Nat
  placed : Nat
  first : Bool
  out : List Char

/-- Passes one character of the text while those of a code point are inserted. -/
def Encoder.visit (code : Nat) (e : Encoder) (c : Char) : Encoder :=
  if c.toNat < code then { e with delta := e.delta + 1 }
  else if c.toNat = code then
    { e with
      out := e.out ++ spell e.bias base e.delta
      bias := adapt e.delta (e.placed + 1) e.first
      delta := 0
      placed := e.placed + 1
      first := false }
  else e

/-- Inserts all characters of one code point. -/
def Encoder.insert (s : List Char) (e : Encoder) (code : Nat) : Encoder :=
  let e := { e with delta := e.delta + (code - e.code) * (e.placed + 1) }
  let e := s.foldl (visit code) e
  { e with delta := e.delta + 1, code := code + 1 }

def codes (s : List Char) : List Nat :=
  (((s.map Char.toNat).filter (firstCode ≤ ·)).mergeSort).eraseDups

def encode (s : List Char) : List Char :=
  let plain := s.filter fun c => c.toNat < firstCode
  let start : Encoder := ⟨firstCode, 0, firstBias, plain.length, true,
    if plain.isEmpty then [] else plain ++ ['-']⟩
  ((codes s).foldl (Encoder.insert s) start).out

/-- The text so far, the number under way and the weight of its next digit. -/
structure Decoder where
  code : Nat
  position : Nat
  bias : Nat
  out : List Char
  number : Nat
  weight : Nat
  place : Nat

/-- A number is complete: it says which character comes next, and where it goes. -/
def Decoder.insert? (d : Decoder) (number : Nat) : Option Decoder :=
  let size := d.out.length + 1
  let code := d.code + (d.position + number) / size
  let position := (d.position + number) % size
  if 0x10FFFF < code ∨ (0xD800 ≤ code ∧ code < 0xE000) then none
  else
    some ⟨code, position + 1, adapt number size (d.position == 0),
      d.out.take position ++ Char.ofNat code :: d.out.drop position, 0, 1, base⟩

def Decoder.step? (d : Decoder) (c : Char) : Option Decoder :=
  match digitValue? c with
  | none => none
  | some v =>
    let number := d.number + v * d.weight
    let t := threshold d.place d.bias
    if v < t then d.insert? number
    else some { d with number, weight := d.weight * (base - t), place := d.place + base }

def Decoder.steps? (d : Decoder) : List Char → Option Decoder
  | [] => some d
  | c :: rest => (d.step? c).bind fun d => d.steps? rest

def splitPlain (s : List Char) : List Char × List Char :=
  if s.contains '-' then
    (((s.reverse.dropWhile (· != '-')).drop 1).reverse, (s.reverse.takeWhile (· != '-')).reverse)
  else ([], s)

/-- The text that was encoded, if the last number is complete. -/
def decode? (s : List Char) : Option (List Char) :=
  let (plain, digits) := splitPlain s
  match Decoder.steps? ⟨firstCode, 0, firstBias, plain, 0, 1, base⟩ digits with
  | none => none
  | some d => if d.weight = 1 then some d.out else none

end Punycode

end Courier
