import DoubleEntry.Config.Settings
import DoubleEntry.Proofs.Config.Layers

/-!
The settings of the service, one by one: the place of each, what it is read as, and what it is where no source has it.
Of a table of groups each setting is read from its own place alone.
-/

set_option autoImplicit false

namespace DoubleEntry.Config

inductive Setting where
  | host
  | port
  | shutdownTimeoutSecs
  | url
  | maxConnections
  | minConnections
  | acquireTimeoutSecs
  | runMigrations
  | operationTimeoutMs
  | filter
  | json
deriving DecidableEq

namespace Setting

def group : Setting → String
  | host | port | shutdownTimeoutSecs => "server"
  | url | maxConnections | minConnections | acquireTimeoutSecs | runMigrations => "database"
  | operationTimeoutMs => "ledger"
  | filter | json => "log"

def name : Setting → String
  | host => "host"
  | port => "port"
  | shutdownTimeoutSecs => "shutdown_timeout_secs"
  | url => "url"
  | maxConnections => "max_connections"
  | minConnections => "min_connections"
  | acquireTimeoutSecs => "acquire_timeout_secs"
  | runMigrations => "run_migrations"
  | operationTimeoutMs => "operation_timeout_ms"
  | filter => "filter"
  | json => "json"

def path (s : Setting) : List String := [s.group, s.name]

-- Its key in one line, and the variable of that key.
def key (s : Setting) : String := s.group ++ "." ++ s.name

def variableName (s : Setting) : String := "TRANSFER__" ++ s.group.toUpper ++ "__" ++ s.name.toUpper

abbrev Content : Setting → Type
  | host | url | filter => String
  | port | shutdownTimeoutSecs | maxConnections | minConnections | acquireTimeoutSecs => Nat
  | runMigrations | json => Bool
  | operationTimeoutMs => Option Nat

def decode : (s : Setting) → Decoder s.Content
  | host | url | filter => decodeText
  | port => decodeNat 16
  | maxConnections | minConnections => decodeNat 32
  | shutdownTimeoutSecs | acquireTimeoutSecs => decodeNat64
  | runMigrations | json => decodeFlag
  | operationTimeoutMs => fun v => (decodeNat64 v).map some

-- All but the address of the database have a default.
def default? : (s : Setting) → Option s.Content
  | host => some "0.0.0.0"
  | port => some (8080 : Nat)
  | shutdownTimeoutSecs => some (20 : Nat)
  | url => none
  | maxConnections => some (10 : Nat)
  | minConnections => some (1 : Nat)
  | acquireTimeoutSecs => some (5 : Nat)
  | runMigrations => some true
  | operationTimeoutMs => some (none : Option Nat)
  | filter => some "info,sqlx=warn,sea_orm=warn"
  | json => some false

def field : (s : Setting) → Settings → s.Content
  | host, x => x.server.host
  | port, x => x.server.port
  | shutdownTimeoutSecs, x => x.server.shutdownTimeoutSecs
  | url, x => x.database.url
  | maxConnections, x => x.database.maxConnections
  | minConnections, x => x.database.minConnections
  | acquireTimeoutSecs, x => x.database.acquireTimeoutSecs
  | runMigrations, x => x.database.runMigrations
  | operationTimeoutMs, x => x.ledger.operationTimeoutMs
  | filter, x => x.log.filter
  | json, x => x.log.json

end Setting

-- What is read where a value may be set: what the value is converted into, or the default.
def Takes {α : Type} (decode : Decoder α) (default? : Option α) (value : Option Value) (a : α) : Prop :=
  match value with
  | some v => decode v = .ok a
  | none => default? = some a

-- A value that is set can be converted.
def Converts {α : Type} (decode : Decoder α) (value : Option Value) : Prop := ∀ v, value = some v → ∃ a, decode v = .ok a

theorem takes_unique {α : Type} (decode : Decoder α) (default? : Option α) (value : Option Value) (a b : α)
    (first : Takes decode default? value a) (second : Takes decode default? value b) : a = b := by
  cases value with
  | none => exact Option.some.inj (first.symm.trans second)
  | some v => exact Except.ok.inj (first.symm.trans second)

section Records

variable {α : Type} (name field : String) (fields : List String) (entries : Table) (decode : Decoder α)

theorem field_read (fits : Converts decode (entries.lookup field)) :
    ∃ a, (Record.mk name fields (.inl entries)).read? field decode = .ok a ∧
      Takes (fun v => (decode v).map some) (some none) (entries.lookup field) a := by
  cases found : entries.lookup field with
  | none => exact ⟨none, by simp [Record.read?, Record.part?, found], rfl⟩
  | some v =>
      obtain ⟨a, decoded⟩ := fits v found
      exact ⟨some a, by simp [Record.read?, Record.part?, found, decoded], by simp [Takes, decoded, Except.map]⟩

theorem field_taken (default : α) (fits : Converts decode (entries.lookup field)) :
    ∃ a, (Record.mk name fields (.inl entries)).readOr field decode default = .ok a ∧
      Takes decode (some default) (entries.lookup field) a := by
  cases found : entries.lookup field with
  | none => exact ⟨default, by simp [Record.readOr, Record.read?, Record.part?, found, Except.map], rfl⟩
  | some v =>
      obtain ⟨a, decoded⟩ := fits v found
      exact ⟨a, by simp [Record.readOr, Record.read?, Record.part?, found, decoded, Except.map], decoded⟩

end Records

-- The values of a group can all be converted.
def ConvertsGroup (group : String) (entries : Table) : Prop :=
  ∀ s : Setting, s.group = group → Converts s.decode (entries.lookup s.name)

def Holds (group : String) (entries : Table) (x : Settings) : Prop :=
  ∀ s : Setting, s.group = group → Takes s.decode s.default? (entries.lookup s.name) (s.field x)

section Groups

variable (origin : Origin) (entries : Table)

theorem server_decoded (fits : ConvertsGroup "server" entries) :
    ∃ server, decodeServer (.table origin entries) = .ok server ∧
      ∀ x : Settings, Holds "server" entries { x with server } := by
  obtain ⟨host, hostRead, hostTaken⟩ := field_taken "ServerConfig" "host" ["host", "port", "shutdown_timeout_secs"]
    entries decodeText "0.0.0.0" (fits .host rfl)
  obtain ⟨port, portRead, portTaken⟩ := field_taken "ServerConfig" "port" ["host", "port", "shutdown_timeout_secs"]
    entries (decodeNat 16) 8080 (fits .port rfl)
  obtain ⟨secs, secsRead, secsTaken⟩ := field_taken "ServerConfig" "shutdown_timeout_secs"
    ["host", "port", "shutdown_timeout_secs"] entries decodeNat64 20 (fits .shutdownTimeoutSecs rfl)
  refine ⟨⟨host, port, secs⟩, ?_, ?_⟩
  · simp only [decodeServer, Record.ofValue, bind, Except.bind, hostRead, portRead, secsRead]
    rfl
  · intro x s own
    cases s with
    | host => exact hostTaken
    | port => exact portTaken
    | shutdownTimeoutSecs => exact secsTaken
    | url | maxConnections | minConnections | acquireTimeoutSecs | runMigrations | operationTimeoutMs | filter
    | json => exact absurd own (by decide)

theorem database_decoded (fits : ConvertsGroup "database" entries) :
    (entries.lookup "url" = none ∧ ∃ e, decodeDatabase (.table origin entries) = .error e) ∨
      ∃ database, decodeDatabase (.table origin entries) = .ok database ∧
        ∀ x : Settings, Holds "database" entries { x with database } := by
  let fields := ["url", "max_connections", "min_connections", "acquire_timeout_secs", "run_migrations"]
  obtain ⟨url, urlRead, urlTaken⟩ := field_read "DatabaseConfig" "url" fields entries decodeText (fits .url rfl)
  obtain ⟨most, mostRead, mostTaken⟩ := field_taken "DatabaseConfig" "max_connections" fields entries (decodeNat 32) 10
    (fits .maxConnections rfl)
  obtain ⟨least, leastRead, leastTaken⟩ := field_taken "DatabaseConfig" "min_connections" fields entries (decodeNat 32) 1
    (fits .minConnections rfl)
  obtain ⟨secs, secsRead, secsTaken⟩ := field_taken "DatabaseConfig" "acquire_timeout_secs" fields entries decodeNat64 5
    (fits .acquireTimeoutSecs rfl)
  obtain ⟨migrate, migrateRead, migrateTaken⟩ := field_taken "DatabaseConfig" "run_migrations" fields entries decodeFlag
    true (fits .runMigrations rfl)
  cases found : entries.lookup "url" with
  | none =>
      rw [found] at urlTaken
      cases urlTaken
      refine .inl ⟨rfl, (Record.mk "DatabaseConfig" fields (.inl entries)).absent "url", ?_⟩
      simp only [decodeDatabase, Record.ofValue, bind, Except.bind, fields, urlRead, mostRead, leastRead, secsRead,
        migrateRead]
      rfl
  | some v =>
      rw [found] at urlTaken
      cases decoded : decodeText v with
      | error e => simp [Takes, decoded, Except.map] at urlTaken
      | ok address =>
          have same : url = some address := by simpa [Takes, decoded, Except.map, eq_comm] using urlTaken
          refine .inr ⟨⟨address, most, least, secs, migrate⟩, ?_, ?_⟩
          · simp only [decodeDatabase, Record.ofValue, bind, Except.bind, fields, urlRead, mostRead, leastRead, secsRead,
              migrateRead, same]
            rfl
          · intro x s own
            cases s with
            | url => exact found ▸ decoded
            | maxConnections => exact mostTaken
            | minConnections => exact leastTaken
            | acquireTimeoutSecs => exact secsTaken
            | runMigrations => exact migrateTaken
            | host | port | shutdownTimeoutSecs | operationTimeoutMs | filter | json => exact absurd own (by decide)

theorem ledger_decoded (fits : ConvertsGroup "ledger" entries) :
    ∃ ledger, decodeLedger (.table origin entries) = .ok ledger ∧
      ∀ x : Settings, Holds "ledger" entries { x with ledger } := by
  have whole : Converts decodeNat64 (entries.lookup "operation_timeout_ms") := by
    intro v found
    obtain ⟨a, decoded⟩ := fits .operationTimeoutMs rfl v found
    cases read : decodeNat64 v with
    | ok n => exact ⟨n, rfl⟩
    | error e => simp [Setting.decode, read, Except.map] at decoded
  obtain ⟨limit, limitRead, limitTaken⟩ := field_read "LedgerConfig" "operation_timeout_ms" ["operation_timeout_ms"]
    entries decodeNat64 whole
  refine ⟨⟨limit⟩, ?_, ?_⟩
  · simp only [decodeLedger, Record.ofValue, Record.readOptional, bind, Except.bind, limitRead]
    rfl
  · intro x s own
    cases s with
    | operationTimeoutMs => exact limitTaken
    | host | port | shutdownTimeoutSecs | url | maxConnections | minConnections | acquireTimeoutSecs | runMigrations
    | filter | json => exact absurd own (by decide)

theorem log_decoded (fits : ConvertsGroup "log" entries) :
    ∃ log, decodeLog (.table origin entries) = .ok log ∧ ∀ x : Settings, Holds "log" entries { x with log } := by
  obtain ⟨filter, filterRead, filterTaken⟩ := field_taken "LogConfig" "filter" ["filter", "json"] entries decodeText
    "info,sqlx=warn,sea_orm=warn" (fits .filter rfl)
  obtain ⟨json, jsonRead, jsonTaken⟩ := field_taken "LogConfig" "json" ["filter", "json"] entries decodeFlag false
    (fits .json rfl)
  refine ⟨⟨filter, json⟩, ?_, ?_⟩
  · simp only [decodeLog, Record.ofValue, bind, Except.bind, filterRead, jsonRead]
    rfl
  · intro x s own
    cases s with
    | filter => exact filterTaken
    | json => exact jsonTaken
    | host | port | shutdownTimeoutSecs | url | maxConnections | minConnections | acquireTimeoutSecs | runMigrations
    | operationTimeoutMs => exact absurd own (by decide)

end Groups

theorem group_taken {α : Type} (name : String) (fields : List String) (entries : Table) (group : String)
    (isTable : ∀ x, entries.lookup group = some x → x.isTable = true) (decode : Decoder α) (default : α)
    (empty : decode (.table none []) = .ok default) (holds : Table → α → Prop)
    (decodes : ∀ origin, ∃ a, decode (.table origin (Value.entriesOf (entries.lookup group))) = .ok a ∧
      holds (Value.entriesOf (entries.lookup group)) a) :
    ∃ a, (Record.mk name fields (.inl entries)).readOr group decode default = .ok a ∧
      holds (Value.entriesOf (entries.lookup group)) a := by
  cases found : entries.lookup group with
  | none =>
      rw [found] at decodes
      obtain ⟨a, decoded, own⟩ := decodes none
      cases empty.symm.trans decoded
      exact ⟨default, by simp [Record.readOr, Record.read?, Record.part?, found, Except.map], own⟩
  | some v =>
      rw [found] at decodes
      cases v with
      | table origin inner =>
          obtain ⟨a, decoded, own⟩ := decodes origin
          rw [Value.entriesOf] at decoded
          exact ⟨a, by simp [Record.readOr, Record.read?, Record.part?, found, decoded, Except.map], own⟩
      | scalar _ _ | list _ _ => cases isTable _ found

theorem database_taken (name : String) (fields : List String) (entries : Table)
    (isTable : ∀ x, entries.lookup "database" = some x → x.isTable = true)
    (fits : ConvertsGroup "database" (Value.entriesOf (entries.lookup "database"))) :
    ((Value.entriesOf (entries.lookup "database")).lookup "url" = none ∧
        ((Record.mk name fields (.inl entries)).read? "database" decodeDatabase = .ok none ∨
          ∃ e, (Record.mk name fields (.inl entries)).read? "database" decodeDatabase = .error e)) ∨
      ∃ database, (Record.mk name fields (.inl entries)).read? "database" decodeDatabase = .ok (some database) ∧
        ∀ x : Settings, Holds "database" (Value.entriesOf (entries.lookup "database")) { x with database } := by
  cases found : entries.lookup "database" with
  | none => exact .inl ⟨rfl, .inl (by simp [Record.read?, Record.part?, found])⟩
  | some v =>
      rw [found] at fits
      cases v with
      | table origin inner =>
          rcases database_decoded origin inner fits with ⟨unset, e, failed⟩ | ⟨database, decoded, holds⟩
          · refine .inl ⟨unset, .inr ⟨e.within (.name "database"), ?_⟩⟩
            simp [Record.read?, Record.part?, found, failed]
          · exact .inr ⟨database, by simp [Record.read?, Record.part?, found, decoded], holds⟩
      | scalar _ _ | list _ _ => cases isTable _ found

theorem settings_decoded (v : Value) (grouped : v.Grouped)
    (fits : ∀ s : Setting, Converts s.decode (v.at? s.group s.name)) :
    (v.at? "database" "url" = none ∧ ∃ e, decodeSettings v = .error e) ∨
      ∃ x, decodeSettings v = .ok x ∧ ∀ s : Setting, Takes s.decode s.default? (v.at? s.group s.name) (s.field x) := by
  cases v with
  | scalar _ _ | list _ _ => cases grouped.isTable
  | table origin entries =>
      have fitsGroup : ∀ group, ConvertsGroup group (Value.entriesOf (entries.lookup group)) := by
        rintro group s rfl
        exact fits s
      let fields := ["server", "database", "ledger", "log"]
      obtain ⟨server, serverRead, serverHolds⟩ := group_taken "AppConfig" fields entries "server"
        (grouped.groups "server") decodeServer {} rfl
        (fun inner server => ∀ x : Settings, Holds "server" inner { x with server })
        fun origin => server_decoded origin _ (fitsGroup "server")
      obtain ⟨ledger, ledgerRead, ledgerHolds⟩ := group_taken "AppConfig" fields entries "ledger"
        (grouped.groups "ledger") decodeLedger {} rfl
        (fun inner ledger => ∀ x : Settings, Holds "ledger" inner { x with ledger })
        fun origin => ledger_decoded origin _ (fitsGroup "ledger")
      obtain ⟨log, logRead, logHolds⟩ := group_taken "AppConfig" fields entries "log"
        (grouped.groups "log") decodeLog {} rfl (fun inner log => ∀ x : Settings, Holds "log" inner { x with log })
        fun origin => log_decoded origin _ (fitsGroup "log")
      have steps : ∀ database, (Record.mk "AppConfig" fields (.inl entries)).read? "database" decodeDatabase = database →
          decodeSettings (.table origin entries) = database.bind fun found =>
            found.elim (.error ((Record.mk "AppConfig" fields (.inl entries)).absent "database")) fun database =>
              .ok ⟨server, database, ledger, log⟩ := by
        rintro database databaseRead
        simp only [decodeSettings, Record.ofValue, bind, Except.bind, fields, serverRead, databaseRead, ledgerRead,
          logRead]
        rcases database with e | _ | database <;> rfl
      rcases database_taken "AppConfig" fields entries (grouped.groups "database") (fitsGroup "database") with
        ⟨unset, absent | ⟨e, failed⟩⟩ | ⟨database, databaseRead, databaseHolds⟩
      · exact .inl ⟨unset, _, steps _ absent⟩
      · exact .inl ⟨unset, _, steps _ failed⟩
      · refine .inr ⟨⟨server, database, ledger, log⟩, steps _ databaseRead, ?_⟩
        intro s
        cases s with
        | host | port | shutdownTimeoutSecs => exact serverHolds ⟨server, database, ledger, log⟩ _ rfl
        | url | maxConnections | minConnections | acquireTimeoutSecs | runMigrations =>
            exact databaseHolds ⟨server, database, ledger, log⟩ _ rfl
        | operationTimeoutMs => exact ledgerHolds ⟨server, database, ledger, log⟩ _ rfl
        | filter | json => exact logHolds ⟨server, database, ledger, log⟩ _ rfl

end DoubleEntry.Config
