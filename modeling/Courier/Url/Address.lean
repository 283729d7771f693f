import Courier.Number
import Courier.Text.Split

/-! IPv4 addresses in the forms that URLs admit: up to four numbers, decimal, octal after a zero or
hexadecimal after `0x`; the last number fills the bytes that are left. IPv6 addresses: eight pieces
of sixteen bits. -/

namespace Courier

namespace Ipv4

def digitValue? (base : Nat) (c : Char) : Option Nat :=
  let v :=
    if c.isDigit then c.toNat - 48
    else if 'a' ≤ c ∧ c ≤ 'f' then c.toNat - 87
    else if 'A' ≤ c ∧ c ≤ 'F' then c.toNat - 55
    else base
  if v < base then some v else none

def inBase? (base : Nat) (s : List Char) : Option Nat :=
  s.foldlM (fun n c => (digitValue? base c).map (base * n + ·)) 0

def number? (s : List Char) : Option Nat :=
  match s with
  | [] => none
  | '0' :: 'x' :: ds | '0' :: 'X' :: ds => inBase? 16 ds
  | '0' :: d :: ds => inBase? 8 (d :: ds)
  | ds => inBase? 10 ds

/-- The parts between dots. One dot at the end does not count. -/
def parts (s : List Char) : List (List Char) :=
  let ps := splitOn '.' s
  if 1 < ps.length && (ps.getLast?.getD []).isEmpty then ps.dropLast else ps

/-- Such a host has to be an IPv4 address. -/
def endsInNumber (s : List Char) : Bool :=
  match (parts s).getLast? with
  | none | some [] => false
  | some last => last.all Char.isDigit || (number? last).isSome

def assemble (bytes : List Nat) (last : Nat) : Option Nat :=
  if bytes.any (255 < ·) || Nat.pow 256 (4 - bytes.length) ≤ last then none
  else some (bytes.foldl (fun n b => 256 * n + b) 0 * Nat.pow 256 (4 - bytes.length) + last)

def parse? (s : List Char) : Option Nat := do
  let ps := parts s
  if 4 < ps.length then none
  else
    let ns ← ps.mapM number?
    assemble ns.dropLast (← ns.getLast?)

def spell (address : Nat) : List Char :=
  List.intercalate ['.'] ([3, 2, 1, 0].map fun i => Nat.toDigits 10 (address / Nat.pow 256 i % 256))

end Ipv4

namespace Ipv6

/-- A piece as written: up to four hexadecimal digits. -/
def piece? (s : List Char) : Option Nat :=
  if s.isEmpty || 4 < s.length then none else Ipv4.inBase? 16 s

/-- A decimal byte without a leading zero. -/
def byte? (s : List Char) : Option Nat := do
  if s.isEmpty || (1 < s.length && s.head? == some '0') then none
  else
    let n ← Ipv4.inBase? 10 s
    if n ≤ 255 then some n else none

/-- The two pieces of an IPv4 address in the last place. -/
def dotted? (s : List Char) : Option (List Nat) :=
  match (splitOn '.' s).mapM byte? with
  | some [a, b, c, d] => some [256 * a + b, 256 * c + d]
  | _ => none

/-- Pieces between single colons; the last one may be an IPv4 address if `dottedEnd`. -/
def pieces? (dottedEnd : Bool) : List (List Char) → Option (List Nat)
  | [] => some []
  | [p] => if dottedEnd && p.contains '.' then dotted? p else (piece? p).map ([·])
  | p :: q :: rest => do return (← piece? p) :: (← pieces? dottedEnd (q :: rest))

def group? (dottedEnd : Bool) (s : List Char) : Option (List Nat) :=
  if s.isEmpty then some [] else pieces? dottedEnd (splitOn ':' s)

/-- Two colons stand for as many zeros as are missing, at least one. -/
def parse? (s : List Char) : Option (List Nat) := do
  match splitOnce? [':', ':'] s with
  | none =>
    let ps ← group? true s
    if ps.length = 8 then some ps else none
  | some (before, after) =>
    let front ← group? false before
    let back ← group? true after
    let missing := 8 - (front.length + back.length)
    if missing = 0 then none else some (front ++ List.replicate missing 0 ++ back)

def zerosAt (ps : List Nat) (i : Nat) : Nat := ((ps.drop i).takeWhile (· == 0)).length

/-- Start and length of the first longest run of two or more zeros. -/
def longestZeros (ps : List Nat) : Option (Nat × Nat) :=
  let runs := (List.range ps.length).map fun i => (i, zerosAt ps i)
  let best := runs.foldl (fun (a : Nat × Nat) b => if a.2 < b.2 then b else a) (0, 0)
  if 2 ≤ best.2 then some best else none

def joined (ps : List Nat) : List Char :=
  List.intercalate [':'] (ps.map (Nat.toDigits 16))

def spell (ps : List Nat) : List Char :=
  match longestZeros ps with
  | none => joined ps
  | some (i, n) => joined (ps.take i) ++ [':', ':'] ++ joined (ps.drop (i + n))

end Ipv6

end Courier
