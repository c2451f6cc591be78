import DoubleEntry.Config.Dotenv
import DoubleEntry.Config.Settings
import DoubleEntry.Sql.Migration
import DoubleEntry.Sql.Url

/-!
The start of the service: its settings are loaded, the database is connected to, and its schema is brought up
to date if the settings say so. The first of these that fails ends it.
-/

set_option autoImplicit false

namespace DoubleEntry

open Config (Environment Files Settings ConfigError)
open Sql (Connection Network SqlError)

inductive StartupError where
  | config (e : ConfigError)
  | database (e : SqlError)

def StartupError.message : StartupError → String
  | config e => e.message
  | database e => e.message

namespace Startup

def start (network : Network) (files : Files) (environment : Environment) :
    Except StartupError (Settings × Connection) := do
  let settings ← (Config.load files environment).mapError .config
  let connection ← (Sql.connect network settings.database.url).mapError .database
  if settings.database.runMigrations then
    match Sql.migrate .up connection with
    | (.ok _, connection) => return (settings, connection)
    | (.error e, _) => throw (.database e)
  else return (settings, connection)

end Startup
end DoubleEntry
