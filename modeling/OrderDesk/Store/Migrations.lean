import OrderDesk.Store.Write

/-!
# Schema migrations

The schema is built by eight migrations, one per table, applied in order; the sixth also indexes
orders by restaurant. Each migration creates its table only if it is missing, and undoing it drops
the table, which must exist. The names of the applied migrations are kept in their own table,
which every run creates first if needed.

* `up n` applies the next `n` pending migrations (all when `n` is absent);
* `down n` undoes the last `n` applied ones, the latest first;
* `fresh` drops every table and applies everything;
* `refresh` undoes everything, then applies everything;
* `reset` undoes everything.

A table may also be dropped by name, outside the migrations, but not one of the tables the engine
keeps for itself.

Migrations run one statement at a time without a transaction: when one fails, those before it
stay done.
-/

namespace OrderDesk.Store

/-- A command on the schema. -/
inductive SchemaCommand where
  | up (n : Option Nat)
  | down (n : Option Nat)
  | fresh
  | refresh
  | reset
  /-- Drops the table of that name, compared without regard to ASCII case. -/
  | drop (table : String)

/-- One migration: its name, and what applying and undoing it do. -/
structure Migration where
  name : String
  apply : Db → Except EngineFault Db
  undo : Db → Except EngineFault Db

/-- The name of the index of orders by restaurant. -/
def orderRestaurantIndex : String := "idx_order_restaurant_id"

/-- The migration that creates one table. -/
def tableMigration (name : String) (t : Table) : Migration :=
  { name, apply := fun db => pure (db.ensureTable t), undo := fun db => db.dropTable t }

/-- The migrations, in order. -/
def migrations : List Migration :=
  [ tableMigration "m20261001_000001_create_restaurant_table" .restaurant,
    tableMigration "m20261001_000002_create_menu_item_table" .menuItem,
    tableMigration "m20261001_000003_create_modifier_table" .modifier,
    tableMigration "m20261001_000004_create_menu_item_modifier_table" .menuItemModifier,
    tableMigration "m20261001_000005_create_modifier_option_table" .modifierOption,
    { name := "m20261001_000006_create_order_table",
      apply := fun db => (db.ensureTable .order).createIndex orderRestaurantIndex .order,
      undo := fun db => db.dropTable .order },
    tableMigration "m20261001_000007_create_order_item_table" .orderItem,
    tableMigration "m20261001_000008_create_order_item_modifier_option_table" .orderItemOption ]

namespace Db

/-- Creates the table of applied migrations if it is missing. -/
def install (db : Db) : Db := db.ensureTable .migrations

/-- The applied migrations, in order. -/
def appliedMigrations (db : Db) : List Migration :=
  migrations.filter fun m => db.applied.contains m.name

/-- The migrations not applied yet, in order. -/
def pendingMigrations (db : Db) : List Migration :=
  migrations.filter fun m => !db.applied.contains m.name

/-- Applies migrations in turn, recording each. -/
def applyAll : Db → List Migration → Except EngineFault Db
  | db, [] => pure db
  | db, m :: rest => do
    let db ← m.apply db
    applyAll { db with applied := db.applied ++ [m.name] } rest

/-- Undoes migrations in turn, removing each record. -/
def undoAll : Db → List Migration → Except EngineFault Db
  | db, [] => pure db
  | db, m :: rest => do
    let db ← m.undo db
    undoAll { db with applied := db.applied.filter (· != m.name) } rest

/-- Runs migrations one at a time; the database as far as they got, and the first failure. -/
def runEach (step : Db → Migration → Except EngineFault Db) :
    Db → List Migration → Option EngineFault × Db
  | db, [] => (none, db)
  | db, m :: rest =>
    match step db m with
    | .error e => (some e, db)
    | .ok db' => runEach step db' rest

/-- Applies the next `n` pending migrations, or all of them. -/
def migrateUp (db : Db) (n : Option Nat) : Option EngineFault × Db :=
  let db := db.install
  let todo := match n with
    | some k => db.pendingMigrations.take k
    | none => db.pendingMigrations
  runEach (fun db m => applyAll db [m]) db todo

/-- Undoes the last `n` applied migrations, or all of them, the latest first. -/
def migrateDown (db : Db) (n : Option Nat) : Option EngineFault × Db :=
  let db := db.install
  let todo := match n with
    | some k => db.appliedMigrations.reverse.take k
    | none => db.appliedMigrations.reverse
  runEach (fun db m => undoAll db [m]) db todo

/-- Drops every table, keys unchecked, then applies every migration. -/
def migrateFresh (db : Db) : Option EngineFault × Db :=
  let db := db.install
  let dropped := db.tables.foldl (fun acc t => (acc.dropTable t).toOption.getD acc) db
  dropped.migrateUp none

/-- Undoes every migration, then applies every one. -/
def migrateRefresh (db : Db) : Option EngineFault × Db :=
  match db.migrateDown none with
  | (some e, db) => (some e, db)
  | (none, db) => db.migrateUp none

/-- The name of the engine's own table that a name finds, if any: the schema tables under either
of their names, the table of id counters while it exists, and the table functions that need no
declaration. -/
def engineTable? (db : Db) (name : String) : Option String :=
  let lower := name.toLower
  if lower == "sqlite_master" || lower == "sqlite_schema" then some "sqlite_master"
  else if lower == "sqlite_temp_master" || lower == "sqlite_temp_schema" then
    some "sqlite_temp_master"
  else if lower == "sqlite_sequence" && db.counters then some "sqlite_sequence"
  else ["json_each", "json_tree", "dbstat", "fts3tokenize"].find? (· == lower)

/-- Drops the table of that name; the engine's own tables may not be dropped. -/
def dropNamed (db : Db) (name : String) : Except EngineFault Db :=
  match Table.all.find? (fun t => t.name.toLower == name.toLower && db.has t) with
  | some t => db.dropTable t
  | none =>
    match db.engineTable? name with
    | some t => throw (.undroppable t)
    | none => throw (.noSuchTable name)

/-- Runs a command on the schema; the database as far as it got, and the first failure. -/
def runCommand (db : Db) : SchemaCommand → Option EngineFault × Db
  | .up n => db.migrateUp n
  | .down n => db.migrateDown n
  | .fresh => db.migrateFresh
  | .refresh => db.migrateRefresh
  | .reset => db.migrateDown none
  | .drop name =>
    match db.dropNamed name with
    | .ok db' => (none, db')
    | .error f => (some f, db)

/-- Runs commands in turn, each on what the one before left, even after a failure; the failure
of each and the database after it. Reading the applied migrations after a command that succeeds
creates their table if it is missing. -/
def runCommands : Db → List SchemaCommand → List (Option EngineFault × Db)
  | _, [] => []
  | db, c :: rest =>
    let (fault, db') := db.runCommand c
    let db' := if fault.isNone then db'.install else db'
    (fault, db') :: runCommands db' rest

/-- The names of the tables, ascending. -/
def tableNames (db : Db) : List String :=
  (db.tables.map Table.name).mergeSort fun a b => decide (a ≤ b)

/-- The names of the indexes, ascending. -/
def indexNames (db : Db) : List String :=
  (db.indexes.map (·.1)).mergeSort fun a b => decide (a ≤ b)

end Db

end OrderDesk.Store
