import Courier.Number

/-! Reading arguments one by one: switches, their values, and words. A value is looked at only
when the next switch or word shows that it is complete. -/

namespace Courier

namespace Cli

inductive Flag where
  | json
  | form
  | offline
  | verbose
  | checkStatus
  deriving DecidableEq

inductive Parameter where
  | timeout
  | auth
  deriving DecidableEq

inductive Switch where
  | flag (f : Flag)
  | parameter (p : Parameter)
  | help
  | version
  deriving DecidableEq

def Flag.name : Flag → String
  | .json => "json"
  | .form => "form"
  | .offline => "offline"
  | .verbose => "verbose"
  | .checkStatus => "check-status"

def Parameter.name : Parameter → String
  | .timeout => "timeout"
  | .auth => "auth"

namespace Switch

def all : List Switch :=
  [flag .json, flag .form, flag .offline, flag .verbose, flag .checkStatus,
    parameter .timeout, parameter .auth, help, version]

def name : Switch → String
  | flag f => f.name
  | parameter p => p.name
  | help => "help"
  | version => "version"

def letter? : Switch → Option Char
  | flag .json => some 'j'
  | flag .form => some 'f'
  | flag .verbose => some 'v'
  | parameter .auth => some 'a'
  | help => some 'h'
  | version => some 'V'
  | _ => none

/-- Names are not abbreviated. -/
def ofName? (s : String) : Option Switch := all.find? fun switch => switch.name == s

def ofLetter? (c : Char) : Option Switch := all.find? fun switch => switch.letter? == some c

end Switch

inductive UsageError where
  | unknown (argument : String)
  | repeated (option : String)
  | exclusive
  | noUrl
  | noValue (option : String)
  | badValue (option value : String)
  | extraValue (option : String)
  deriving DecidableEq

def UsageError.message : UsageError → String
  | unknown argument => "unexpected argument '" ++ argument ++ "' found"
  | repeated option => "the argument '--" ++ option ++ "' cannot be used multiple times"
  | exclusive => "the argument '--json' cannot be used with '--form'"
  | noUrl => "a URL is required"
  | noValue option => "a value is required for '--" ++ option ++ "' but none was supplied"
  | badValue option value => "invalid value '" ++ value ++ "' for '--" ++ option ++ "'"
  | extraValue option => "the option '--" ++ option ++ "' takes no value"

inductive Stop where
  | help
  | version
  | wrong (e : UsageError)
  /-- A timeout of `2 ^ 64` seconds or more. -/
  | endlessTimeout
  deriving DecidableEq

inductive Pending where
  | nothing
  | awaited (p : Parameter)
  | unread (p : Parameter) (value : String)
  deriving DecidableEq

structure Arguments where
  flags : List Flag
  timeout : Option Extended
  auth : Option String
  pending : Pending
  /-- After `--` there are only words. -/
  onlyWords : Bool
  words : List String

namespace Arguments

def start : Arguments := ⟨[], none, none, .nothing, false, []⟩

def setFlag (a : Arguments) (f : Flag) : Except Stop Arguments :=
  if f ∈ a.flags then .error (.wrong (.repeated f.name)) else .ok { a with flags := a.flags ++ [f] }

def setParameter (a : Arguments) (value : String) : Parameter → Except Stop Arguments
  | .timeout =>
    if a.timeout.isSome then .error (.wrong (.repeated Parameter.timeout.name))
    else
      match Decimal.read? value.toList with
      | some x => .ok { a with timeout := some x }
      | none => .error (.wrong (.badValue Parameter.timeout.name value))
  | .auth =>
    if a.auth.isSome then .error (.wrong (.repeated Parameter.auth.name))
    else .ok { a with auth := some value }

/-- Reads the value that is pending. -/
def settle (a : Arguments) : Except Stop Arguments :=
  match a.pending with
  | .nothing => .ok a
  | .awaited p => .error (.wrong (.noValue p.name))
  | .unread p value => { a with pending := .nothing }.setParameter value p

def switchOn (a : Arguments) (s : Switch) : Except Stop Arguments :=
  match a.settle with
  | .error e => .error e
  | .ok a =>
    match s with
    | .flag f => a.setFlag f
    | .parameter p => .ok { a with pending := .awaited p }
    | .help => .error .help
    | .version => .error .version

def attach (a : Arguments) (p : Parameter) (value : List Char) : Except Stop Arguments :=
  match a.settle with
  | .error e => .error e
  | .ok a => a.setParameter (String.ofList value) p

/-- A name, and a value behind an equals sign. -/
def addLong (a : Arguments) (s : List Char) : Except Stop Arguments :=
  match Switch.ofName? (String.ofList (s.takeWhile (· != '='))), s.dropWhile (· != '=') with
  | none, _ => .error (.wrong (.unknown (String.ofList ('-' :: '-' :: s))))
  | some switch, [] => a.switchOn switch
  | some (.parameter p), _ :: value => a.attach p value
  | some switch, _ :: _ => .error (.wrong (.extraValue switch.name))

/-- Letters of switches. Behind one that takes a value, the rest is its value. -/
def addLetters (a : Arguments) : List Char → Except Stop Arguments
  | [] => .ok a
  | c :: rest =>
    match Switch.ofLetter? c, rest with
    | none, _ => .error (.wrong (.unknown (String.ofList ['-', c])))
    | some (.parameter p), [] => a.switchOn (.parameter p)
    | some (.parameter p), '=' :: value => a.attach p value
    | some (.parameter p), value => a.attach p value
    | some switch, rest =>
      match a.switchOn switch with
      | .error e => .error e
      | .ok a => a.addLetters rest

def addWord (a : Arguments) (word : String) : Except Stop Arguments :=
  match a.settle with
  | .error e => .error e
  | .ok a => .ok { a with words := a.words ++ [word] }

/-- A word, unless a parameter waits for its value. -/
def addBare (a : Arguments) (word : String) : Except Stop Arguments :=
  match a.pending with
  | .awaited p => .ok { a with pending := .unread p word }
  | _ => a.addWord word

/-- A hyphen alone is no switch. -/
def add (a : Arguments) (argument : String) : Except Stop Arguments :=
  if a.onlyWords then a.addWord argument
  else
    match argument.toList with
    | ['-', '-'] => .ok { a with onlyWords := true }
    | '-' :: '-' :: s => a.addLong s
    | '-' :: c :: s => a.addLetters (c :: s)
    | _ => a.addBare argument

def addAll (a : Arguments) : List String → Except Stop Arguments
  | [] => .ok a
  | argument :: rest =>
    match a.add argument with
    | .error e => .error e
    | .ok a => a.addAll rest

def ofList (arguments : List String) : Except Stop Arguments :=
  match start.addAll arguments with
  | .error e => .error e
  | .ok a => a.settle

end Arguments

end Cli

end Courier
