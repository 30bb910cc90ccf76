import Catalog.Command.Arguments
import Catalog.Http.Address
import Catalog.Http.Service
import Catalog.Json.Printer
import Catalog.Seed
import Catalog.Settings

set_option autoImplicit false

namespace Catalog

inductive CommandError where
  | settings (error : SettingsError)
  | seed (error : StoreError)
  | invalidArgument (message : String)
  | inputOutput (message : String)
  | bootFailed (message : String)
deriving DecidableEq, Repr

namespace CommandError

def code : CommandError → String
  | .settings _ => "CATALOGD_CONFIG_ERROR"
  | .seed _ => "CATALOGD_SEED_ERROR"
  | .invalidArgument _ => "CATALOGD_INVALID_ARGUMENT"
  | .inputOutput _ => "CATALOGD_IO_ERROR"
  | .bootFailed _ => "CATALOGD_BOOT_FAILED"

def detail : CommandError → String
  | .settings error => error.message
  | .seed error => error.message
  | .invalidArgument message => message
  | .inputOutput message => message
  | .bootFailed message => message

def message (e : CommandError) : String := e.code ++ ": " ++ e.detail

end CommandError

abbrev FileAnswer := Except String String

structure Server where
  address : String
  policy : OriginPolicy
  store : Store

inductive ServeFailure where
  | command (error : CommandError)
  | origins (error : OriginError)
deriving DecidableEq, Repr

namespace Command

def storeOfFile (now : Instant) (path : String) : FileAnswer → Except CommandError Store
  | .error message => .error (.seed (.seedRead path message))
  | .ok text =>
    match Store.ofSeed? now text with
    | some store => .ok store
    | none => .error (.seed (.seedParse path "not a catalogue"))

def loadStore {m : Type → Type} [Monad m] (readFile : String → m FileAnswer) (now : Instant)
    (seed : Option String) : m (Except CommandError Store) :=
  match seed with
  | none => pure (.ok .empty)
  | some path => do return storeOfFile now path (← readFile path)

def queryPairs (query : String) : Except CommandError Service.Pairs :=
  let bare := (Text.trimChars query.toList).dropWhile (· = '?')
  match Target.read ("/?" ++ String.ofList bare) with
  | .ok target => .ok (Percent.pairs target.query)
  | .error error => .error (.invalidArgument ("invalid query string: " ++ error.message))

def compileAgainst (store : Store) (profile : Profile) (query : String) :
    Except CommandError Json := do
  let pairs ← queryPairs query
  match Plan.compile store.lookup profile (Params.ofPairs pairs) with
  | .ok plan => return plan.toJson
  | .error error => return Answer.error (.query error)

def compileQuery {m : Type → Type} [Monad m] (readFile : String → m FileAnswer) (now : Instant)
    (entity : String) (seed : Option String) (query : String) : m (Except CommandError Json) :=
  match Profile.ofName? entity with
  | none => pure (.error (.invalidArgument ("unknown entity '" ++ entity ++ "'")))
  | some profile => do
    let store ← loadStore readFile now seed
    return store.bind fun store => compileAgainst store profile query

def settingsOfFile (path : String) : FileAnswer → Except CommandError Settings
  | .error message => .error (.settings (.read path message))
  | .ok text => (Settings.ofText path text).mapError .settings

def Server.build (settings : Settings) (store : Store) : Except ServeFailure Server := do
  let policy ← (OriginPolicy.ofConfigured settings.corsOrigins).mapError .origins
  if Address.isValid settings.address then return ⟨settings.address, policy, store⟩
  else throw (.command (.bootFailed "HTTP server failed: invalid socket address syntax"))

-- A port that is given overrides the one in the settings, after those have been checked.
def prepare {m : Type → Type} [Monad m] (readFile : String → m FileAnswer) (now : Instant)
    (config : String) (port : Option Nat) : m (Except ServeFailure Server) := do
  match settingsOfFile config (← readFile config) with
  | .error error => return .error (.command error)
  | .ok settings =>
    let settings := { settings with port := port.getD settings.port }
    match ← loadStore readFile now settings.seedPath with
    | .error error => return .error (.command error)
    | .ok store => return Server.build settings store

end Command

structure Outcome where
  code : Nat
  stdout : String
  stderr : String
deriving DecidableEq, Repr

namespace Outcome

def ofError (error : CommandError) : Outcome := ⟨1, "", error.message ++ "\n"⟩

def ofServe : Except ServeFailure Server → Outcome
  | .error (.command error) => ofError error
  | .error (.origins error) => ⟨101, "", error.message ++ "\n"⟩
  | .ok server => ofError (.bootFailed ("HTTP server failed: cannot listen on " ++ server.address))

def ofCompile : Except CommandError Json → Outcome
  | .error error => ofError error
  | .ok json => ⟨0, json.canonical.compact ++ "\n", ""⟩

def lines (texts : List String) : String :=
  String.join (texts.map (· ++ "\n"))

def helpText : HelpTopic → String
  | .program => lines [
    "A catalog query service that compiles request parameters into validated store filters",
    "",
    "Usage: catalogd <COMMAND>",
    "",
    "Commands:",
    "  serve    Start the HTTP API server",
    "  compile  Compile a query string and print the resulting plan",
    "  help     Print this message or the help of the given subcommand(s)",
    "",
    "Options:",
    "  -h, --help     Print help",
    "  -V, --version  Print version"]
  | .serve => lines [
    "Start the HTTP API server",
    "",
    "Usage: catalogd serve [OPTIONS]",
    "",
    "Options:",
    "      --config <CONFIG>  Path to configuration file [default: ./catalogd.json]",
    "      --port <PORT>      Override the configured port",
    "  -h, --help             Print help"]
  | .compile => lines [
    "Compile a query string and print the resulting plan",
    "",
    "Usage: catalogd compile [OPTIONS] <QUERY>",
    "",
    "Arguments:",
    "  <QUERY>  Query string, e.g. \"price=gte_10&price=lte_50&order_by=price.desc\"",
    "",
    "Options:",
    "      --entity <ENTITY>  Entity the query targets (product or swiper) [default: product]",
    "      --seed <SEED>      Seed file providing categories for `category=` lookups",
    "  -h, --help             Print help"]
  | .help => lines [
    "Print this message or the help of the given subcommand(s)",
    "",
    "Usage: catalogd help [COMMAND]...",
    "",
    "Arguments:",
    "  [COMMAND]...  Print help for the subcommand(s)"]

def usageMessage : UsageError → String
  | .help topic => helpText topic
  | .version => "catalogd " ++ version ++ "\n"
  | .noCommand => helpText .program
  | .unknownCommand name => "error: unrecognized subcommand '" ++ name ++ "'\n"
  | .unknownArgument text => "error: unexpected argument '" ++ text ++ "' found\n"
  | .missingValue option => "error: a value is required for '--" ++ option ++ "'\n"
  | .invalidValue option value =>
    "error: invalid value '" ++ value ++ "' for '--" ++ option ++ "'\n"
  | .unneededValue option => "error: unexpected value for '--" ++ option ++ "' found\n"
  | .repeated option => "error: the argument '--" ++ option ++ "' cannot be used multiple times\n"
  | .missingArgument name => "error: the required argument '" ++ name ++ "' was not provided\n"

def ofUsage (error : UsageError) : Outcome :=
  match error with
  | .help _ | .version => ⟨0, usageMessage error, ""⟩
  | _ => ⟨2, "", usageMessage error⟩

end Outcome

def run {m : Type → Type} [Monad m] (readFile : String → m FileAnswer) (now : Instant)
    (args : List String) : m Outcome :=
  match Command.read args with
  | .error error => pure (Outcome.ofUsage error)
  | .ok (.serve config port) => do
    return Outcome.ofServe (← Command.prepare readFile now config port)
  | .ok (.compile entity seed query) => do
    return Outcome.ofCompile (← Command.compileQuery readFile now entity seed query)

end Catalog
