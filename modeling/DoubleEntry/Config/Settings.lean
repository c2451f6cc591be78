import DoubleEntry.Config.Decode
import DoubleEntry.Config.Environment
import DoubleEntry.Config.Toml.Document
import DoubleEntry.Time.Span

/-!
The settings of the service. They come from a file of defaults, the file of the mode that the service runs
in and the environment, and of what more than one of them sets, the last one's value counts. A setting that none
of them has takes its default; only the database has to be named.
-/

set_option autoImplicit false

namespace DoubleEntry.Config

open Time (Span)

structure ServerSettings where
  host : String := "0.0.0.0"
  port : Nat := 8080
  shutdownTimeoutSecs : Nat := 20
deriving DecidableEq, Repr

structure DatabaseSettings where
  url : String
  maxConnections : Nat := 10
  minConnections : Nat := 1
  acquireTimeoutSecs : Nat := 5
  runMigrations : Bool := true
deriving DecidableEq, Repr

structure LedgerSettings where
  operationTimeoutMs : Option Nat := none
deriving DecidableEq, Repr

structure LogSettings where
  filter : String := "info,sqlx=warn,sea_orm=warn"
  json : Bool := false
deriving DecidableEq, Repr

structure Settings where
  server : ServerSettings
  database : DatabaseSettings
  ledger : LedgerSettings
  log : LogSettings
deriving DecidableEq, Repr

def ServerSettings.bindAddress (s : ServerSettings) : String := s.host ++ ":" ++ toString s.port

def LedgerSettings.deadline (s : LedgerSettings) : Option Span := s.operationTimeoutMs.map Span.ofMillis

def decodeServer : Decoder ServerSettings := fun v => do
  let r ← Record.ofValue "ServerConfig" ["host", "port", "shutdown_timeout_secs"] v
  let default : ServerSettings := {}
  let host ← r.readOr "host" decodeText default.host
  let port ← r.readOr "port" (decodeNat 16) default.port
  let shutdownTimeoutSecs ← r.readOr "shutdown_timeout_secs" decodeNat64 default.shutdownTimeoutSecs
  return { host, port, shutdownTimeoutSecs }

def decodeDatabase : Decoder DatabaseSettings := fun v => do
  let r ← Record.ofValue "DatabaseConfig"
    ["url", "max_connections", "min_connections", "acquire_timeout_secs", "run_migrations"] v
  let url ← r.read? "url" decodeText
  let default : DatabaseSettings := { url := url.getD "" }
  let maxConnections ← r.readOr "max_connections" (decodeNat 32) default.maxConnections
  let minConnections ← r.readOr "min_connections" (decodeNat 32) default.minConnections
  let acquireTimeoutSecs ← r.readOr "acquire_timeout_secs" decodeNat64 default.acquireTimeoutSecs
  let runMigrations ← r.readOr "run_migrations" decodeFlag default.runMigrations
  match url with
  | some url => return { url, maxConnections, minConnections, acquireTimeoutSecs, runMigrations }
  | none => throw (r.absent "url")

def decodeLedger : Decoder LedgerSettings := fun v => do
  let r ← Record.ofValue "LedgerConfig" ["operation_timeout_ms"] v
  let operationTimeoutMs ← r.readOptional "operation_timeout_ms" decodeNat64
  return { operationTimeoutMs }

def decodeLog : Decoder LogSettings := fun v => do
  let r ← Record.ofValue "LogConfig" ["filter", "json"] v
  let default : LogSettings := {}
  let filter ← r.readOr "filter" decodeText default.filter
  let json ← r.readOr "json" decodeFlag default.json
  return { filter, json }

def decodeSettings : Decoder Settings := fun v => do
  let r ← Record.ofValue "AppConfig" ["server", "database", "ledger", "log"] v
  let server ← r.readOr "server" decodeServer {}
  let database ← r.read? "database" decodeDatabase
  let ledger ← r.readOr "ledger" decodeLedger {}
  let log ← r.readOr "log" decodeLog {}
  match database with
  | some database => return { server, database, ledger, log }
  | none => throw (r.absent "database")

inductive ConfigError where
  | unreadable (file : String) (text : List Char) (fault : Toml.Fault)
  | setting (e : SettingError)
deriving DecidableEq, Repr

def ConfigError.message : ConfigError → String
  | unreadable file text fault => fault.message text ++ " in " ++ file
  | setting e => e.message

abbrev Files := List (String × String)

def directory : String := "config/"

def extension : String := ".toml"

-- The file with a name, which may be given without its extension. One of another kind is not looked at.
def findFile (files : Files) (name : String) : Option (String × String) :=
  match files.lookup name with
  | some text => if name.endsWith extension then some (name, text) else none
  | none => (files.lookup (name ++ extension)).map fun text => (name ++ extension, text)

def fileTable (files : Files) (name : String) : Except ConfigError Table :=
  match findFile files name with
  | none => .ok []
  | some (name, text) =>
    match Toml.read (some (directory ++ name)) text.toList with
    | .ok table => .ok table
    | .error fault => .error (.unreadable (directory ++ name) text.toList fault)

def runMode (environment : Environment) : String := (environment.lookup "RUN_MODE").getD "development"

def serviceNaming : Environment.Naming := ⟨"transfer__", true⟩

def sources (files : Files) (environment : Environment) : Except ConfigError (List Table) := do
  let defaults ← fileTable files "default"
  let mode ← fileTable files (runMode environment)
  return [defaults, mode, Environment.table serviceNaming environment]

def decodeAll {α : Type} (decode : Decoder α) (v : Value) : Except ConfigError α :=
  match decode v with
  | .ok a => .ok a
  | .error e => .error (.setting e)

def load (files : Files) (environment : Environment) : Except ConfigError Settings := do
  let tables ← sources files environment
  decodeAll decodeSettings (merge tables)

end DoubleEntry.Config
