import Courier.Text.Split
import Courier.Url.Domain.Mapping
import Courier.Url.Domain.Properties
import Courier.Url.Punycode

/-! Domain names in the form in which they are looked up: ASCII in lower case, labels of other
characters encoded. -/

namespace Courier

namespace Domain

/-- ASCII characters that no domain may hold. -/
def isForbidden (c : Char) : Bool :=
  c.toNat ≤ 0x20 || c.toNat = 0x7F ||
    ['%', '#', '/', ':', '<', '>', '?', '@', '[', '\\', ']', '^', '|'].contains c

def mapAll? (s : List Char) : Option (List Char) := (s.mapM map?).map List.flatten

def isAscii (s : List Char) : Bool := s.all fun c => c.toNat < 0x80

def virama : Nat := 9

def isLeftJoining (c : Char) : Bool :=
  CodePoints.holds leftJoining c || CodePoints.holds dualJoining c

def isRightJoining (c : Char) : Bool :=
  CodePoints.holds rightJoining c || CodePoints.holds dualJoining c

def joins (joining : Char → Bool) (s : List Char) : Bool :=
  match s.dropWhile (CodePoints.holds nonspacing) with
  | c :: _ => joining c
  | [] => false

/-- Joiners stand behind a virama; one that keeps letters apart also stands between letters that
would join. The first list is what precedes, backwards. -/
def joinersFit : List Char → List Char → Bool
  | _, [] => true
  | before, c :: rest =>
    let afterVirama := before.head?.any fun d => Composition.classOf d = virama
    let fits :=
      if c = '\u200d' then afterVirama
      else if c = '\u200c' then
        afterVirama || (joins isLeftJoining before && joins isRightJoining rest)
      else true
    fits && joinersFit (c :: before) rest

/-- A label that may stand in a domain name, once it is mapped and composed. -/
def isLabel (s : List Char) : Bool :=
  !s.any isForbidden && !(s.head?.any (CodePoints.holds marks)) && joinersFit [] s

inductive Direction where
  | left
  | right
  | arabicDigit
  | europeanDigit
  | neutral
  | nonspacing
  deriving DecidableEq

def direction (c : Char) : Direction :=
  if CodePoints.holds Domain.nonspacing c then .nonspacing
  else if CodePoints.holds rightToLeft c then .right
  else if CodePoints.holds arabicDigits c then .arabicDigit
  else if CodePoints.holds europeanDigits c then .europeanDigit
  else if CodePoints.holds Domain.neutral c then .neutral
  else .left

/-- A label reads in one direction: its first character sets it, the others admit it, and the
last one that takes up room does not leave it open. -/
def isDirected (ds : List Direction) : Bool :=
  let last := (ds.reverse.dropWhile (· == .nonspacing)).head?
  match ds.head? with
  | none => true
  | some .left =>
    ds.all (fun d => d != .right && d != .arabicDigit) &&
      (last == some .left || last == some .europeanDigit)
  | some .right =>
    ds.all (· != .left) && (last != some .neutral) &&
      !(ds.contains .arabicDigit && ds.contains .europeanDigit)
  | some _ => false

def isBidirectional (ds : List Direction) : Bool :=
  ds.any fun d => d == .right || d == .arabicDigit

/-- Where anything is written from right to left, all labels have to be directed. -/
def directionsFit (labels : List (List Char)) : Bool :=
  let ds := labels.map fun l => l.map direction
  !ds.any isBidirectional || ds.all isDirected

def encodedMark : List Char := ['x', 'n', '-', '-']

def labelLimit : Nat := 1000

/-- The characters that a label stands for. An encoded one must be what encoding gives. -/
def readLabel? (label : List Char) : Option (List Char) :=
  if encodedMark.isPrefixOf label then
    if !isAscii label then none else
    match Punycode.decode? (label.drop encodedMark.length) with
    | none => none
    | some s =>
      if isAscii s || s.contains '.' || mapAll? s != some s || Composition.compose s != s then none
      else some s
  else some label

def spellLabel? (label : List Char) : Option (List Char) :=
  if isAscii label then some label
  else if labelLimit < label.length then none
  else some (encodedMark ++ Punycode.encode label)

/-- Maps and composes a name, checks its labels and encodes them. -/
def toAscii? (s : List Char) : Option (List Char) := do
  let mapped ← mapAll? s
  let labels ← (splitOn '.' (Composition.compose mapped)).mapM readLabel?
  guard (labels.all isLabel && directionsFit labels)
  let spelled ← labels.mapM spellLabel?
  return List.intercalate ['.'] spelled

end Domain

end Courier
