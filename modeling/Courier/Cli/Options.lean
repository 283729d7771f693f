import Courier.Cli.Arguments
import Courier.Content

/-! What a command line asks for. A URL may be typed without a scheme, or without a host in front of
a port or path. Durations are whole nanoseconds. -/

namespace Courier

structure Duration where
  seconds : Nat
  nanoseconds : Nat
  deriving DecidableEq

/-- The duration nearest to so many seconds, of two equally near ones the even one. The seconds
have to fit 64 bits. -/
def Duration.ofSeconds? (x : Binary64) : Option Duration :=
  let (a, b) := x.ratio
  if Nat.pow 2 64 * b ≤ a then none
  else
    let n := Binary64.roundDiv (a * Nat.pow 10 9) b
    some ⟨n / Nat.pow 10 9, n % Nat.pow 10 9⟩

namespace Cli

def defaultScheme : List Char := "http://".toList

/-- What follows the colon of a text that leaves out the local host. Two colons start an address
of another kind. -/
def localPart? : List Char → Option (List Char)
  | ':' :: ':' :: _ => none
  | ':' :: rest => some rest
  | _ => none

/-- The local host, with a port if digits come first. -/
def completeLocal (s : List Char) : List Char :=
  let port := s.takeWhile Char.isDigit
  defaultScheme ++ "localhost".toList ++ (if port.isEmpty then [] else ':' :: port) ++
    s.dropWhile Char.isDigit

def completeAddress (s : List Char) : List Char :=
  match localPart? s with
  | some rest => completeLocal rest
  | none => if (splitOnce? "://".toList s).isSome then s else defaultScheme ++ s

def completeUrl (s : String) : String := String.ofList (completeAddress s.toList)

structure Options where
  method : Option String
  url : String
  items : List String
  encoding : Option Encoding
  offline : Bool
  verbose : Bool
  checkStatus : Bool
  timeout : Option Duration
  auth : Option String

namespace Options

def isMethodWord (word : String) : Bool :=
  !word.isEmpty && word.toList.all Char.isUpper

/-- A first word in capital letters is a method if another word follows it. Then come URL and
items. -/
def splitWords : List String → Option (Option String × String × List String)
  | [] => none
  | [url] => some (none, url, [])
  | first :: second :: rest =>
    if isMethodWord first then some (some first, second, rest)
    else some (none, first, second :: rest)

/-- A timeout that is not above zero is none. -/
def readTimeout : Extended → Except Stop (Option Duration)
  | .nan => .ok none
  | .infinite negative => if negative then .ok none else .error .endlessTimeout
  | .finite x =>
    if x.negative || x.isZero then .ok none
    else
      match Duration.ofSeconds? x with
      | some d => .ok (some d)
      | none => .error .endlessTimeout

def encodingOf (flags : List Flag) : Option Encoding :=
  if .form ∈ flags then some .form else if .json ∈ flags then some .json else none

def ofArguments (a : Arguments) : Except Stop Options :=
  if .json ∈ a.flags ∧ .form ∈ a.flags then .error (.wrong .exclusive)
  else
    match splitWords a.words with
    | none => .error (.wrong .noUrl)
    | some (method, url, items) =>
      match (a.timeout.map readTimeout).getD (.ok none) with
      | .error e => .error e
      | .ok timeout => .ok {
          method
          url := completeUrl url
          items
          encoding := encodingOf a.flags
          offline := .offline ∈ a.flags
          verbose := .verbose ∈ a.flags
          checkStatus := .checkStatus ∈ a.flags
          timeout
          auth := a.auth }

def parse (arguments : List String) : Except Stop Options :=
  match Arguments.ofList arguments with
  | .error e => .error e
  | .ok a => ofArguments a

end Options

end Cli

end Courier
