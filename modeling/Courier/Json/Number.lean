import Courier.Number

/-! JSON numbers. A numeral without fraction and exponent that fits 64 bits stays an integer, any
other one becomes a binary64 number. -/

namespace Courier

inductive Number where
  | integer (n : Int)
  | binary (x : Binary64)
  deriving DecidableEq

structure Numeral where
  negative : Bool
  whole : List Char
  fraction : List Char
  exponent : Option (Bool × List Char)

namespace Numeral

/-- Reads digits into a significand as long as it stays below `2 ^ 64`, and returns the digits
that did not fit. -/
def accumulate (significand : Nat) : List Char → Nat × List Char
  | [] => (significand, [])
  | d :: ds =>
    let next := 10 * significand + Integer.digitValue d
    if next < Nat.pow 2 64 then accumulate next ds else (significand, d :: ds)

/-- A significand times a power of ten in binary64 arithmetic: one rounding for the significand,
one for the power and one for the product. Past `10 ^ 308` a quotient is taken in two steps. -/
def scaled? (significand : Nat) (exponent : Int) : Option Binary64 := do
  if significand = 0 then return .zero false
  let f ← Binary64.ofNat? significand
  if 308 < exponent then none
  else if 0 ≤ exponent then
    f.mul? (← Binary64.ofNat? (Nat.pow 10 exponent.toNat))
  else if -308 ≤ exponent then
    f.div? (← Binary64.ofNat? (Nat.pow 10 (-exponent).toNat))
  else if -616 ≤ exponent then
    let g ← f.div? (← Binary64.ofNat? (Nat.pow 10 308))
    g.div? (← Binary64.ofNat? (Nat.pow 10 (-exponent - 308).toNat))
  else return .zero false

def signed (negative : Bool) (x : Binary64) : Number :=
  .binary (if negative then x.neg else x)

/-- The exponent digits left over once the exponent no longer fits 32 bits. -/
def exponentOverflow? (exponent : Nat) : List Char → Option (List Char)
  | [] => none
  | d :: ds =>
    let next := 10 * exponent + Integer.digitValue d
    if next < Nat.pow 2 31 then exponentOverflow? next ds else some ds

/-- The numeral's value. If it is out of range, the digits behind the place where that shows. -/
def value (n : Numeral) : Except (List Char) Number :=
  let (whole, late) := accumulate 0 n.whole
  let (significand, lost) := accumulate whole n.fraction
  let place : Int := late.length - (n.fraction.length - lost.length : Nat)
  let finish (exponent : Int) : Except (List Char) Number :=
    match scaled? significand exponent with
    | some x => .ok (signed n.negative x)
    | none => .error []
  match n.exponent with
  | some (down, digits) =>
    match exponentOverflow? 0 digits with
    | some rest =>
      if significand ≠ 0 ∧ !down then .error rest else .ok (signed n.negative (.zero false))
    | none =>
      let e : Int := Integer.ofDigits digits
      finish (if down then place - e else place + e)
  | none =>
    if n.fraction.isEmpty && late.isEmpty then
      if !n.negative then .ok (.integer whole)
      else if 0 < whole ∧ whole ≤ Nat.pow 2 63 then .ok (.integer (-(whole : Int)))
      else finish 0
    else finish place

end Numeral

namespace Binary64

/-- A number `d.ddd * 10 ^ e` is written without exponent if `-5 ≤ e < 16`, and then always with
a fraction. -/
def layout (digits : List Char) (place : Int) : List Char :=
  let point : Int := digits.length + place
  if 0 ≤ place ∧ point ≤ 16 then
    digits ++ List.replicate place.toNat '0' ++ ['.', '0']
  else if 0 < point ∧ point ≤ 16 then
    digits.take point.toNat ++ '.' :: digits.drop point.toNat
  else if -5 < point ∧ point ≤ 0 then
    '0' :: '.' :: List.replicate (-point).toNat '0' ++ digits
  else
    let mantissa := match digits with
      | d :: e :: rest => d :: '.' :: e :: rest
      | ds => ds
    let exponent := point - 1
    mantissa ++ 'e' :: (if exponent < 0 then '-' else '+') :: Nat.toDigits 10 exponent.natAbs

def spell (x : Binary64) : List Char :=
  let magnitude :=
    if x.isZero then ['0', '.', '0']
    else
      let (digits, place) := x.shortest
      layout (Nat.toDigits 10 digits) place
  if x.negative then '-' :: magnitude else magnitude

end Binary64

def Number.spell : Number → List Char
  | .integer n => Integer.spell n
  | .binary x => x.spell

end Courier
