/-
**Migrating the database: `migrate` of `src/db/scheme.rs`.**

The program keeps a list of migrations, SQL scripts that it only ever appends to, and stores in
the database's `user_version` the index of the next migration to apply. `Db::new` calls
`migrate`, which reads `user_version`, applies every migration from that index on, writing the
index after each one to `user_version`, and then runs `integrity_check`.

* `VersionedDb` — what `migrate` works on: `user_version`, a 32-bit signed integer, and the rest
  of the database, the schema the migrations build.
* `getUserVersion`, `setUserVersion` — the two pragmas; `PRAGMA user_version = v` keeps `v` as a
  32-bit signed integer (`toUserVersion`), and the read-back `assert_eq!` panics when that
  changed it.
* `applyMigrations` — the `while let` loop, from `next_migration` on.
* `migrate` — the whole method.

What a migration does to the schema (`sqlx::query(migration).execute`) and what
`integrity_check` reads are parameters: the SQL is not modelled. A script that fails may have
run some of its statements, so `execute` fails with the schema it left.
-/

import ChorePlanner.Model.Schema

namespace ChorePlanner

/-- The database as `migrate` sees it: `PRAGMA user_version` and the schema the migrations
build. -/
structure VersionedDb (σ : Type) where
  userVersion : Int
  schema : σ

/-- The 32-bit signed integer SQLite keeps for `PRAGMA user_version = v`. -/
def toUserVersion (v : Nat) : Int := ((v : Int) + 2 ^ 31) % 2 ^ 32 - 2 ^ 31

section Migrate

variable {σ : Type}

/-- `get_user_version`: `PRAGMA user_version`, read as a `u32`. -/
def getUserVersion : EStateM Failure (VersionedDb σ) Nat := do
  let version := (← get).userVersion
  -- `row.try_get::<u32, usize>(0).context("get_user_version failed")` refuses a negative version
  if version < 0 then throw (.err (.bail "get_user_version failed")) else pure version.toNat

/-- `set_user_version`. -/
def setUserVersion (userVersion : Nat) : EStateM Failure (VersionedDb σ) Unit := do
  modify fun db => { db with userVersion := toUserVersion userVersion }
  -- `assert_eq!(self.get_user_version().await?, user_version)`
  if (← getUserVersion) ≠ userVersion then throw .panic

variable (execute : String → EStateM Failure σ Unit)

/-- `sqlx::query(migration).execute(&mut self.con).await?`: the script runs on the schema. -/
def executeMigration (migration : String) : EStateM Failure (VersionedDb σ) Unit := fun db =>
  match (execute migration).run db.schema with
  | .ok () schema => .ok () { db with schema }
  | .error e schema => .error e { db with schema }

/-- `while let Some(migration) = migrations.get(next_migration)`, over the migrations from
`next_migration` on. -/
def applyMigrations : List String → Nat → EStateM Failure (VersionedDb σ) Unit
  | [], _ => pure ()
  | migration :: rest, nextMigration => do
    executeMigration execute migration
    setUserVersion (nextMigration + 1)
    applyMigrations rest (nextMigration + 1)

/-- `migrate`, with the program's list of migrations and `self.integrity_check()`. -/
def migrate (integrityCheck : EStateM Failure (VersionedDb σ) Unit) (migrations : List String) :
    EStateM Failure (VersionedDb σ) Unit := do
  let nextMigration ← getUserVersion
  applyMigrations execute (migrations.drop nextMigration) nextMigration
  integrityCheck

end Migrate

end ChorePlanner
