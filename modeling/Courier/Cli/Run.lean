import Courier.Cli.Options
import Courier.Config
import Courier.Http.Response

/-! The program: from arguments and environment to what it prints and how it exits. -/

namespace Courier

namespace Cli

structure Report where
  exit : Nat
  out : String
  err : String

namespace Report

def programName : String := "httprasa"

def versionText : String := "httprasa 0.1.0\n"

def usage : String := "Usage: httprasa [OPTIONS] [METHOD] URL [REQUEST_ITEM]..."

def helpText : String :=
  "A command-line HTTP request builder with nested JSON request items\n\n" ++ usage ++ "\n\n" ++
    "Options:\n" ++
    "  -j, --json               send data items as JSON\n" ++
    "  -f, --form               send data items as form fields\n" ++
    "      --offline            build and print the request without sending it\n" ++
    "  -v, --verbose            Print the request as well as the response\n" ++
    "      --check-status       exit with an error status on 3xx, 4xx and 5xx responses\n" ++
    "      --timeout <SECONDS>  connection timeout in seconds\n" ++
    "  -a, --auth <USER[:PASS]> basic auth credentials\n" ++
    "  -h, --help               Print help\n" ++
    "  -V, --version            Print version\n"

def usageExit : Nat := 2

def abortExit : Nat := 101

def endlessTimeoutNote : String :=
  "cannot convert float seconds to Duration: value is either too big or NaN"

def ofStop : Stop → Report
  | .help => ⟨0, helpText, ""⟩
  | .version => ⟨0, versionText, ""⟩
  | .wrong e => ⟨usageExit, "", "error: " ++ e.message ++ "\n\n" ++ usage ++ "\n"⟩
  | .endlessTimeout => ⟨abortExit, "", endlessTimeoutNote ++ "\n"⟩

def failure (out message : String) : Report :=
  ⟨ExitStatus.failure.code, out, programName ++ ": error: " ++ message ++ "\n"⟩

/-- With a check of the status, an error of the server shows in a warning and the exit status. -/
def ofResponse (checkStatus : Bool) (out : String) (r : Http.Response) : Report :=
  let out := out ++ r.display ++ "\n"
  if checkStatus then
    let status := ExitStatus.ofHttp r.status
    ⟨status.code, out,
      if status = .success then ""
      else programName ++ ": warning: HTTP " ++ toString r.status ++ "\n"⟩
  else ⟨ExitStatus.success.code, out, ""⟩

end Report

inductive Refusal where
  | items (e : ItemError)
  | request (e : Http.RequestError)

def Refusal.message : Refusal → String
  | items e => e.message
  | request e => e.message

def parseItems (words : List String) : Except ItemError (List Item) :=
  words.mapM fun word => (Item.parse? word).elim (.error (.invalid word)) .ok

def Options.request (files : Files) (o : Options) : Except Refusal Http.Request :=
  match parseItems o.items with
  | .error e => .error (.items e)
  | .ok items =>
    match Content.ofItems files o.encoding items with
    | .error e => .error (.items e)
    | .ok content => (Http.build o.method o.url content o.auth).mapError .request

/-- Sends a request and waits for the response, for at most the given time. -/
abbrev Transport (m : Type → Type) :=
  Http.Request → Option Duration → m (Except Http.ExchangeError Http.Response)

/-- Prints the request if asked to, and sends it unless told not to. -/
def perform {m : Type → Type} [Monad m] (send : Transport m) (o : Options) (r : Http.Request) :
    m Report := do
  let out := if o.offline || o.verbose then r.display ++ "\n" else ""
  if o.offline then return ⟨ExitStatus.success.code, out, ""⟩
  else if !Http.isSendable r.url then
    return .failure out (Http.ExchangeError.badScheme r.url).message
  else
    match ← send r o.timeout with
    | .error e => return .failure out e.message
    | .ok response => return .ofResponse o.checkStatus out response

/-- The paths that the items of a command line name, once the configuration is known. -/
def itemPaths (env : Environment) (arguments : List String) : List String :=
  match Config.load env.files (Config.directory env) with
  | .error _ => []
  | .ok config =>
    match Options.parse (config.defaultOptions ++ arguments) with
    | .error _ => []
    | .ok options => (options.items.filterMap Item.parse?).filterMap (Item.path? env.files)

/-- The options of the configuration come in front of the arguments. -/
def run {m : Type → Type} [Monad m] (send : Transport m) (env : Environment)
    (arguments : List String) : m Report :=
  match Config.load env.files (Config.directory env) with
  | .error e => return .failure "" e.message
  | .ok config =>
    match Options.parse (config.defaultOptions ++ arguments) with
    | .error stop => return .ofStop stop
    | .ok options =>
      match options.request env.files with
      | .error e => return .failure "" e.message
      | .ok request => perform send options request

end Cli

end Courier
