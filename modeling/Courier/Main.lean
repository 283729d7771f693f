import Courier.Cli.Run

/-! The command line. Files are read before the program runs and their media types are not
guessed. No connection is opened: a request that would have to be sent fails as if no server
answered. -/

namespace Courier

namespace Cli

def fileError : IO.Error → FileError
  | .noFileOrDirectory .. | .noSuchThing .. => .notFound
  | .inappropriateType _ code _ => if code = 20 then .notDirectory else .isDirectory
  | .permissionDenied .. => .denied
  | _ => .nameTooLong

def readFile (path : String) : IO (Except FileError Bytes) := do
  try
    return .ok (← IO.FS.readBinFile path).toList
  catch e => return .error (fileError e)

def canOpen (path : String) : IO Bool := do
  try
    let _ ← IO.FS.Handle.mk path .read
    return true
  catch _ => return false

def withFiles (env : Environment) (paths : List String) : IO Environment := do
  let contents ← paths.mapM fun path => return (path, ← readFile path)
  let read (path : String) := (Fields.find? path contents).getD (.error .notFound)
  return { env with files := { env.files with read } }

def surroundings (arguments : List String) : IO Environment := do
  let home := (← IO.getEnv "HOME").getD ""
  let bare : Files := {
    read := fun _ => .error .notFound
    holds := fun _ => false
    home
    mediaType? := fun _ => none }
  let hidden := Config.hiddenDirectory bare
  let found ← canOpen hidden
  let env : Environment := {
    files := { bare with holds := fun path => found && path == hidden }
    configDirectory := ← IO.getEnv "HTTPRASA_CONFIG_DIR"
    configHome := ← IO.getEnv "XDG_CONFIG_HOME" }
  let config := Config.path (Config.directory env)
  let env ← withFiles env [config]
  withFiles env (config :: itemPaths env arguments)

def unconnected : Transport IO := fun request _ => return .error (.noResponse request.url)

end Cli

end Courier

def main (arguments : List String) : IO UInt32 := do
  let env ← Courier.Cli.surroundings arguments
  let report ← Courier.Cli.run Courier.Cli.unconnected env arguments
  IO.print report.out
  IO.eprint report.err
  return report.exit.toUInt32
