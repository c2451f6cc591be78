import DoubleEntry.Sql.Store

/-!
Migrations of the schema. A table of its own records which of them have been applied. All pending ones are
applied, or all applied ones taken back, inside one unit of work that is dropped when anything fails; nothing is
done if a migration was applied that is not known.
-/

set_option autoImplicit false

namespace DoubleEntry.Sql

def migrationTable : Table := ⟨"seaql_migrations"⟩

namespace MigrationColumn

def version : Column := ⟨migrationTable, "version"⟩
def appliedAt : Column := ⟨migrationTable, "applied_at"⟩

end MigrationColumn

structure Migration where
  name : String
  up : String
  down : String

def createLedger : Migration :=
  { name := "m20250101_000001_create_ledger"
    up := "
-- Accounts hold the authoritative balance
CREATE TABLE accounts (
    account_id BIGINT PRIMARY KEY,
    balance NUMERIC(30, 5) NOT NULL,
    created_date TIMESTAMPTZ NOT NULL DEFAULT now(),
    last_modified_date TIMESTAMPTZ NOT NULL DEFAULT now(),
    CONSTRAINT chk_account_id_positive CHECK (account_id > 0),
    CONSTRAINT chk_balance_non_negative CHECK (balance >= 0)
);

-- Signed movements; the entries of an account sum to its balance
CREATE TABLE ledger_entries (
    entry_id BIGSERIAL PRIMARY KEY,
    account_id BIGINT NOT NULL REFERENCES accounts(account_id),
    amount NUMERIC(30, 5) NOT NULL,
    created_date TIMESTAMPTZ NOT NULL DEFAULT now()
);

-- Index for per-account history in entry order
CREATE INDEX idx_ledger_entries_account ON ledger_entries(account_id, entry_id);
"
    down := "DROP TABLE IF EXISTS ledger_entries CASCADE;
             DROP TABLE IF EXISTS accounts CASCADE;" }

def migrations : List Migration := [createLedger]

def createMigrationTable : Statement :=
  .script "CREATE TABLE IF NOT EXISTS \"seaql_migrations\" ( \"version\" varchar NOT NULL PRIMARY KEY, \"applied_at\" bigint NOT NULL )"

def selectMigrations : Statement :=
  .select [MigrationColumn.version, MigrationColumn.appliedAt] migrationTable []
    (some MigrationColumn.version) none

def recordMigration (name : String) : Statement :=
  .insert migrationTable [(MigrationColumn.version, .text name), (MigrationColumn.appliedAt, .now)]
    [MigrationColumn.version]

def forgetMigration (name : String) : Statement :=
  .delete migrationTable [.equals MigrationColumn.version (.text name)]

def unknownMigration (name : String) : String :=
  "Migration file of version '" ++ name ++
    "' is missing, this migration has been applied but its file is missing"

def versionOfRow (row : Row) : Decoded String := do
  let version ← (← cell row MigrationColumn.version).text?
  let _ ← (← cell row MigrationColumn.appliedAt).int?
  return version

inductive Direction where
  | up
  | down
deriving DecidableEq, Repr

abbrev Steps := StateT Connection (Except (SqlError × Connection))

namespace Steps

def execute (s : Statement) : Steps Nat := fun conn =>
  match conn.execute .bare s with
  | (.ok n, conn) => .ok (n, conn)
  | (.error e, conn) => .error (e, conn)

def query {α : Type} (s : Statement) (decode : Row → Decoded α) : Steps (List α) := fun conn =>
  match conn.query .bare s with
  | (rows, conn) =>
    match rows.bind fun rows => rows.mapM decode with
    | .ok values => .ok (values, conn)
    | .error e => .error (e, conn)

def fail {α : Type} (e : SqlError) : Steps α := fun conn => .error (e, conn)

end Steps

def record (name : String) : Steps Unit := do
  let inserted ← Steps.execute (recordMigration name)
  if inserted = 0 then Steps.fail .recordNotInserted

-- How often the table of migrations is asked for before it is read.
def preparations : Nat := 4

def migrateSteps (direction : Direction) : Steps Unit := do
  for _ in List.range preparations do
    let _ ← Steps.execute createMigrationTable
  let applied ← Steps.query selectMigrations versionOfRow
  let unknown := applied.filter fun version => !migrations.any fun m => m.name == version
  if !unknown.isEmpty then
    Steps.fail (.custom ("\n".intercalate (unknown.map unknownMigration)))
  match direction with
  | .up =>
    for m in migrations.filter fun m => !applied.contains m.name do
      let _ ← Steps.execute (.script m.up)
      record m.name
  | .down =>
    for m in (migrations.filter fun m => applied.contains m.name).reverse do
      let _ ← Steps.execute (.script m.down)
      let _ ← Steps.execute (forgetMigration m.name)

def migrate (direction : Direction) (conn : Connection) : Except SqlError Unit × Connection :=
  match migrateSteps direction (conn.note .begin) with
  | .ok (_, conn) => (.ok (), conn.note .commit)
  | .error (e, conn) => (.error e, conn.note .startRollback)

end DoubleEntry.Sql
