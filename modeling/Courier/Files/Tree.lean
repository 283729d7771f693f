import Courier.Text.Encoding

/-! Reading files: what a read gives, paths in a home directory, and a directory tree held in
memory. Paths start in the root of the tree; nothing is known of what lies outside but that there is
a directory. -/

namespace Courier

inductive FileError where
  | notFound
  | notDirectory
  | isDirectory
  | denied
  | nameTooLong
  | nulInName
  | notText
  deriving DecidableEq

def FileError.message : FileError → String
  | notFound => "No such file or directory (os error 2)"
  | notDirectory => "Not a directory (os error 20)"
  | isDirectory => "Is a directory (os error 21)"
  | denied => "Permission denied (os error 13)"
  | nameTooLong => "File name too long (os error 36)"
  | nulInName => "file name contained an unexpected NUL byte"
  | notText => "stream did not contain valid UTF-8"

/-- The files that can be reached, the home directory, and the media type guessed from a path. -/
structure Files where
  read : String → Except FileError Bytes
  holds : String → Bool
  home : String
  mediaType? : String → Option String

namespace Files

/-- A tilde at the start, alone or before a slash, is the home directory. -/
def expand (files : Files) (path : String) : String :=
  match path.toList with
  | '~' :: [] => files.home
  | '~' :: '/' :: rest => files.home ++ String.ofList ('/' :: rest)
  | _ => path

end Files

def joinPath (directory name : String) : String :=
  if directory.isEmpty || directory.endsWith "/" then directory ++ name
  else directory ++ "/" ++ name

def fileName (path : String) : String :=
  String.ofList (path.toList.reverse.takeWhile (· != '/')).reverse

/-- Paths from the root with their content; directories have none. A directory also exists if
something is in it. -/
structure Tree where
  entries : List (List String × Option Bytes)

namespace Tree

def components (path : String) : List String :=
  (splitOn '/' path.toList).map String.ofList

def ofEntries (entries : List (String × Option Bytes)) : Tree :=
  ⟨entries.map fun (path, content) => (components path, content)⟩

inductive Place where
  | outside
  | directory (path : List String)
  | file (content : Bytes)

def lookup (t : Tree) (path : List String) : Option Place :=
  if path.isEmpty then some (.directory [])
  else
    match t.entries.find? fun e => e.1 == path with
    | some (_, some content) => some (.file content)
    | some (_, none) => some (.directory path)
    | none =>
      if t.entries.any fun e => path.isPrefixOf e.1 then some (.directory path) else none

def nameLimit : Nat := 255

def pathLimit : Nat := 4095

def enter (t : Tree) (name : String) : Place → Except FileError Place
  | .file _ => .error .notDirectory
  | .outside =>
    if name = "" ∨ name = "." ∨ name = ".." then .ok .outside
    else if nameLimit < name.utf8ByteSize then .error .nameTooLong
    else .error .notFound
  | .directory path =>
    if name = "" ∨ name = "." then .ok (.directory path)
    else if name = ".." then
      .ok (if path.isEmpty then .outside else .directory path.dropLast)
    else if nameLimit < name.utf8ByteSize then .error .nameTooLong
    else
      match t.lookup (path ++ [name]) with
      | some p => .ok p
      | none => .error .notFound

def resolve (t : Tree) (path : String) : Except FileError Place :=
  if path.toList.contains '\x00' then .error .nulInName
  else if path.isEmpty then .error .notFound
  else if pathLimit < path.utf8ByteSize then .error .nameTooLong
  else
    let start := if path.startsWith "/" then Place.outside else .directory []
    (components path).foldlM (fun p name => t.enter name p) start

def read (t : Tree) (path : String) : Except FileError Bytes :=
  match t.resolve path with
  | .error e => .error e
  | .ok (.file content) => .ok content
  | .ok _ => .error .isDirectory

/-- The tree as the files of a program whose home directory is `home`. It knows no media types. -/
def files (t : Tree) (home : String) : Files where
  read := t.read
  holds path := (t.resolve path).toOption.isSome
  home := home
  mediaType? _ := none

end Tree

end Courier
