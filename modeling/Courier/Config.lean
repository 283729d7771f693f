import Courier.Files.Tree
import Courier.Json.Pass
import Courier.Json.Printer
import Courier.Text.Quoted

/-! The configuration: options that every command line starts with. It is an object with a list of
options, or a list of at most that list. -/

namespace Courier

structure Config where
  defaultOptions : List String
  deriving DecidableEq

def Config.default : Config := ⟨[]⟩

inductive ConfigError where
  | invalid (path : String) (error : Json.Error)
  | unreadable (error : FileError)
  deriving DecidableEq

def ConfigError.message : ConfigError → String
  | invalid path error => "invalid config file: " ++ error.message ++ " [" ++ path ++ "]"
  | unreadable error => "cannot read config file: " ++ error.message

namespace Config

open Json.Reader
open Json (Fault)

/-- A value of another type than expected. Scalars are read, lists and objects are not. -/
def misfit (expected : String) (c : Char) (s : List Char) : Fault :=
  let wrong (found : String) (rest : List Char) : Fault := .before (.wrongType found expected) rest
  let literal (name : String) (r : Except Fault (List Char)) : Fault :=
    match r with
    | .error f => f
    | .ok rest => wrong name rest
  let number (r : Except Fault (Number × List Char)) : Fault :=
    match r with
    | .error f => f
    | .ok (.integer n, rest) => wrong ("integer `" ++ String.ofList (Integer.spell n) ++ "`") rest
    | .ok (.binary x, rest) => wrong ("floating point `" ++ String.ofList x.spell ++ "`") rest
  if c = 'n' then literal "null" (word ['u', 'l', 'l'] s)
  else if c = 't' then literal "boolean `true`" (word ['r', 'u', 'e'] s)
  else if c = 'f' then literal "boolean `false`" (word ['a', 'l', 's', 'e'] s)
  else if c = '-' then number (numeral true s)
  else if c.isDigit then number (numeral false (c :: s))
  else if c = '"' then
    match stringBody [] s with
    | .error f => f
    | .ok (t, rest) => wrong ("string " ++ Quoted.quote t) rest
  else if c = '[' then wrong "sequence" (c :: s)
  else if c = '{' then wrong "map" (c :: s)
  else .atHead .noValue (c :: s)

def string (s : List Char) : Except Fault (String × List Char) :=
  match skip s with
  | [] => .error (.atEnd .endInValue)
  | c :: r => if c = '"' then stringBody [] r else .error (misfit "a string" c r)

/-- The rest of a list of strings; `acc` holds those read, backwards. -/
def strings : Nat → Bool → List String → List Char → Except Fault (List String × List Char)
  | 0, _, _, _ => .error (.atEnd .endInList)
  | fuel + 1, first, acc, s =>
    match skip s with
    | [] => .error (.atEnd .endInList)
    | c :: r =>
      if c = ']' then .ok (acc.reverse, r)
      else
        match nextItem first c r with
        | .error f => .error f
        | .ok r =>
          match string r with
          | .error f => .error f
          | .ok (t, r) => strings fuel false (t :: acc) r

def options (s : List Char) : Except Fault (List String × List Char) :=
  match skip s with
  | [] => .error (.atEnd .endInValue)
  | c :: r => if c = '[' then strings (r.length + 1) true [] r else .error (misfit "a sequence" c r)

/-- The end of a list in which nothing more may stand. -/
def endOfList (s : List Char) : Except Fault (List Char) :=
  match skip s with
  | [] => .error (.atEnd .endInList)
  | c :: r =>
    if c = ']' then .ok r
    else if c = ',' then
      match skip r with
      | [] => .error (.atEnd .trailingCharacters)
      | d :: r =>
        .error (.atHead (if d = ']' then .trailingComma else .trailingCharacters) (d :: r))
    else .error (.atHead .trailingCharacters (c :: r))

/-- A configuration as a list: its fields in order, of which there is one. -/
def positional (s : List Char) : Except Fault (Config × List Char) :=
  match skip s with
  | [] => .error (.atEnd .endInList)
  | c :: r =>
    if c = ']' then .ok (.default, r)
    else
      match options (c :: r) with
      | .error f => .error f
      | .ok (os, r) => (endOfList r).map (⟨os⟩, ·)

def optionsKey : String := "default_options"

/-- Shows where the repeated key is done with, or behind a bracket that closes the object there. -/
def repeated (s : List Char) : Fault :=
  .before (.duplicateField optionsKey) (match skip s with
    | '}' :: r => r
    | r => r)

/-- The rest of an object. Other fields are stepped over. -/
def fields : Nat → Bool → Option (List String) → List Char → Except Fault (Config × List Char)
  | 0, _, _, _ => .error (.atEnd .endInObject)
  | fuel + 1, first, found, s =>
    match skip s with
    | [] => .error (.atEnd .endInObject)
    | c :: r =>
      if c = '}' then .ok (⟨found.getD []⟩, r)
      else
        match nextKey first c r with
        | .error f => .error f
        | .ok r =>
          match stringBody [] r with
          | .error f => .error f
          | .ok (k, r) =>
            if k = optionsKey ∧ found.isSome then .error (repeated r)
            else
              match skipColon r with
              | .error f => .error f
              | .ok r =>
                if k = optionsKey then
                  match options r with
                  | .error f => .error f
                  | .ok (os, r) => fields fuel false (some os) r
                else
                  match pass (r.length + 1) [] r with
                  | .error f => .error f
                  | .ok r => fields fuel false found r

def value (s : List Char) : Except Fault (Config × List Char) :=
  match skip s with
  | [] => .error (.atEnd .endInValue)
  | c :: r =>
    if c = '[' then positional r
    else if c = '{' then fields (r.length + 1) true none r
    else .error (misfit "struct Config" c r)

def document (s : List Char) : Except Fault Config :=
  match value s with
  | .error f => .error f
  | .ok (config, r) =>
    match skip r with
    | [] => .ok config
    | r => .error (.atHead .trailingCharacters r)

def parse (text : String) : Except Json.Error Config :=
  (document text.toList).mapError (Fault.locate text.toList)

end Config

/-- What a program can see around it: files, and two variables that name directories. -/
structure Environment where
  files : Files
  configDirectory : Option String
  configHome : Option String

namespace Config

def directoryName : String := "httprasa"

def fileName : String := "config.json"

def hiddenDirectory (files : Files) : String := files.expand "~/.httprasa"

/-- A directory named outright comes first, then a hidden one at home if it exists, then one
under the directory of all configurations. -/
def directory (env : Environment) : String :=
  match env.configDirectory with
  | some d => d
  | none =>
    if env.files.holds (hiddenDirectory env.files) then hiddenDirectory env.files
    else joinPath (env.configHome.getD (env.files.expand "~/.config")) directoryName

def path (directory : String) : String := joinPath directory fileName

/-- A file that is missing leaves the configuration empty. -/
def load (files : Files) (directory : String) : Except ConfigError Config :=
  match files.read (path directory) with
  | .error .notFound => .ok .default
  | .error e => .error (.unreadable e)
  | .ok content =>
    match Utf8.decode? content with
    | none => .error (.unreadable .notText)
    | some cs => (parse (String.ofList cs)).mapError (.invalid (path directory))

end Config

end Courier
