/-! Decimal integers of 64 bits, and finite binary64 numbers in exact integer arithmetic: rounding a
quotient to the nearest one, multiplying and dividing, the shortest decimal numeral that rounds
back, and reading one from decimal text, infinities and NaN among them. -/

namespace Courier

namespace Integer

def minimum : Int := -9223372036854775808

def maximum : Int := 9223372036854775807

def digitValue (c : Char) : Nat := c.toNat - '0'.toNat

def ofDigits (ds : List Char) : Nat := ds.foldl (fun n d => 10 * n + digitValue d) 0

def magnitude? (ds : List Char) : Option Nat :=
  if ds.isEmpty || !ds.all Char.isDigit then none else some (ofDigits ds)

/-- At most one sign, then digits only; the value has to fit. -/
def read? (s : List Char) : Option Int :=
  let signed : Option Int := match s with
    | '-' :: ds => (magnitude? ds).map fun n => -(n : Int)
    | '+' :: ds => (magnitude? ds).map Int.ofNat
    | ds => (magnitude? ds).map Int.ofNat
  signed.filter fun n => decide (minimum ≤ n ∧ n ≤ maximum)

/-- The canonical spelling: no leading zero, a sign only below zero. -/
def spell (n : Int) : List Char :=
  if n < 0 then '-' :: Nat.toDigits 10 n.natAbs else Nat.toDigits 10 n.natAbs

end Integer

/-- The number `significand * 2 ^ exponent`, negated if `negative`. Rounding gives significands
below `2 ^ 53`, and of `2 ^ 52` or more unless the exponent is `-1074`, the least one. -/
structure Binary64 where
  negative : Bool
  significand : Nat
  exponent : Int
  deriving DecidableEq

namespace Binary64

def zero (negative : Bool) : Binary64 := ⟨negative, 0, -1074⟩

def isZero (x : Binary64) : Bool := x.significand == 0

def neg (x : Binary64) : Binary64 := { x with negative := !x.negative }

/-- The nearest integer to a quotient, of two equally near ones the even one. -/
def roundDiv (num den : Nat) : Nat :=
  let q := num / den
  let r := num % den
  if 2 * r < den then q else if den < 2 * r then q + 1 else q + q % 2

/-- Moves a power of two into a quotient: `num / den * 2 ^ shift`. -/
def scale (num den : Nat) (shift : Int) : Nat × Nat :=
  (num * Nat.pow 2 shift.toNat, den * Nat.pow 2 (-shift).toNat)

/-- The nearest binary64 number to `num / den`, or nothing if that is past the largest one. -/
def ofRatio? (negative : Bool) (num den : Nat) : Option Binary64 :=
  if num = 0 then some (zero negative) else
  let guess : Int := (num.log2 : Int) - den.log2 - 52
  let (a, b) := scale num den (-guess)
  let exponent := max (if a / b < Nat.pow 2 52 then guess - 1 else guess) (-1074)
  let (a, b) := scale num den (-exponent)
  let m := roundDiv a b
  let (m, exponent) := if m = Nat.pow 2 53 then (Nat.pow 2 52, exponent + 1) else (m, exponent)
  if 971 < exponent then none else some ⟨negative, m, exponent⟩

def ofNat? (n : Nat) : Option Binary64 := ofRatio? false n 1

def ratio (x : Binary64) : Nat × Nat := scale x.significand 1 x.exponent

def mul? (x y : Binary64) : Option Binary64 :=
  let (a, b) := scale (x.significand * y.significand) 1 (x.exponent + y.exponent)
  ofRatio? (x.negative != y.negative) a b

/-- The divisor must not be zero. -/
def div? (x y : Binary64) : Option Binary64 :=
  let (a, b) := scale x.significand y.significand (x.exponent - y.exponent)
  ofRatio? (x.negative != y.negative) a b

/-- Four times the rounding interval around a positive number, in units of
`2 ^ (exponent - 2)`: its lower end, the number and its upper end. -/
def interval (x : Binary64) : Nat × Nat × Nat :=
  let m := x.significand
  let below := if m = Nat.pow 2 52 ∧ -1074 < x.exponent then 4 * m - 1 else 4 * m - 2
  (below, 4 * m, 4 * m + 2)

/-- The ends of the interval round to the number itself if its significand is even. -/
def holds (x : Binary64) (low value high : Nat) : Bool :=
  if x.significand % 2 = 0 then low ≤ value && value ≤ high else low < value && value < high

/-- The multiple of `10 ^ place` that rounds to the number and is nearest to it. Only the two
neighbours of the number on that grid can be. -/
def onGrid? (x : Binary64) (place : Int) : Option Nat :=
  let (low, mid, high) := x.interval
  let (a, b) := scale 1 1 (x.exponent - 2)
  let a := a * Nat.pow 10 (-place).toNat
  let b := b * Nat.pow 10 place.toNat
  let c := mid * a / b
  let down := holds x (low * a) (c * b) (high * a)
  let up := holds x (low * a) ((c + 1) * b) (high * a)
  let toDown := mid * a - c * b
  let toUp := (c + 1) * b - mid * a
  if down && up then
    if toDown < toUp ∨ (toDown = toUp ∧ c % 2 = 0) then some c else some (c + 1)
  else if down then some c
  else if up then some (c + 1)
  else none

/-- A place at which even one unit is past the number. -/
def topPlace (x : Binary64) : Int :=
  (x.significand.log2 + x.exponent + 1) * 30103 / 100000 + 2

/-- Digits and place of the shortest numeral of a positive number: the coarsest grid that has a
point in the rounding interval. Seventeen digits always suffice. -/
def shortest (x : Binary64) : Nat × Int :=
  let places := (List.range 22).map fun i : Nat => x.topPlace - i
  (places.findSome? fun p => (x.onGrid? p).map (·, p)).getD (0, 0)

end Binary64

inductive Extended where
  | finite (x : Binary64)
  | infinite (negative : Bool)
  | nan
  deriving DecidableEq

namespace Decimal

/-- The nearest number to `digits * 10 ^ place`; far out it is infinite, far below it is zero. -/
def round (negative : Bool) (digits : Nat) (place : Int) : Extended :=
  let size : Int := (Nat.toDigits 10 digits).length + place
  if digits = 0 ∨ size < -330 then .finite (.zero negative)
  else if 330 < size then .infinite negative
  else
    match Binary64.ofRatio? negative (digits * Nat.pow 10 place.toNat)
        (Nat.pow 10 (-place).toNat) with
    | some x => .finite x
    | none => .infinite negative

def exponent? : List Char → Option Int
  | [] => some 0
  | e :: s =>
    if e = 'e' ∨ e = 'E' then
      match s with
      | '-' :: ds => (Integer.magnitude? ds).map fun n => -(n : Int)
      | '+' :: ds => (Integer.magnitude? ds).map Int.ofNat
      | ds => (Integer.magnitude? ds).map Int.ofNat
    else none

/-- Digits with at most one point anywhere among them, and an exponent. -/
def magnitude? (negative : Bool) (s : List Char) : Option Extended :=
  let whole := s.takeWhile Char.isDigit
  let (fraction, rest) :=
    match s.dropWhile Char.isDigit with
    | '.' :: r => (r.takeWhile Char.isDigit, r.dropWhile Char.isDigit)
    | r => ([], r)
  if whole.isEmpty && fraction.isEmpty then none
  else
    (exponent? rest).map fun e =>
      round negative (Integer.ofDigits (whole ++ fraction)) (e - fraction.length)

/-- A magnitude, or a name in any case. -/
def unsigned? (negative : Bool) (s : List Char) : Option Extended :=
  let name := String.ofList (s.map Char.toLower)
  if name = "inf" ∨ name = "infinity" then some (.infinite negative)
  else if name = "nan" then some .nan
  else magnitude? negative s

def read? : List Char → Option Extended
  | '-' :: s => unsigned? true s
  | '+' :: s => unsigned? false s
  | s => unsigned? false s

end Decimal

end Courier
