/-
**Upgrading the program brings a database where a fresh install would.**

Below `2 ^ 31` migrations, `set_user_version` stores its argument and the read-back holds
(`setUserVersion_run`). The loop then keeps `user_version` equal to the index of the next
migration: a run of it over migrations that all succeed ends at the index past the last
(`applyMigrations_run_ok`), and one where a migration fails stops with `user_version` at the
index of that migration (`applyMigrations_run_error`). A loop over two lists is the loop over the
first and then over the second (`applyMigrations_append`).

* `migrate_after_older` — the migrations are only ever appended to: on a database that an older
  program, whose list is a prefix of the new one, has migrated, the new program's `migrate` does
  exactly what it does on the database as it was before. So every way of upgrading ends where
  migrating with the newest list does.
* `migrate_fails_at_version` — when a migration fails, `migrate` fails with `user_version` at
  that migration's index and the schema as the failed script left it: the next start runs that
  script again from its first statement.
-/

import ChorePlanner.Lib.Exec
import ChorePlanner.Model.Migrate

namespace ChorePlanner

variable {σ : Type}

open EStateM

/-! ## The pragmas -/

theorem toUserVersion_of_lt {v : Nat} (small : v < 2 ^ 31) : toUserVersion v = v := by
  unfold toUserVersion
  omega

theorem getUserVersion_run {db : VersionedDb σ} {v : Nat} (version : db.userVersion = v) :
    getUserVersion.run db = .ok v db := by
  have nonneg : ¬ db.userVersion < 0 := by omega
  simp only [getUserVersion, EStateM.run_bind, EStateM.run_get, nonneg]
  simp [version]

/-- **Below `2 ^ 31`, `set_user_version` stores its argument.** -/
theorem setUserVersion_run (db : VersionedDb σ) {v : Nat} (small : v < 2 ^ 31) :
    (setUserVersion v).run db = .ok () { db with userVersion := v } := by
  have stored : getUserVersion.run ({ db with userVersion := (v : Int) } : VersionedDb σ) =
      .ok v { db with userVersion := v } := getUserVersion_run rfl
  simp only [setUserVersion, EStateM.run_bind, EStateM.run_modify, toUserVersion_of_lt small,
    stored]
  simp

variable (execute : String → EStateM Failure σ Unit)

theorem executeMigration_run_ok {migration : String} {db : VersionedDb σ} {schema : σ}
    (ok : (execute migration).run db.schema = .ok () schema) :
    (executeMigration execute migration).run db = .ok () { db with schema } := by
  simp only [EStateM.run, executeMigration]
  rw [show execute migration db.schema = .ok () schema from ok]

theorem executeMigration_run_error {migration : String} {db : VersionedDb σ} {schema : σ}
    {e : Failure} (failed : (execute migration).run db.schema = .error e schema) :
    (executeMigration execute migration).run db = .error e { db with schema } := by
  simp only [EStateM.run, executeMigration]
  rw [show execute migration db.schema = .error e schema from failed]

/-- A migration touches the schema, not `user_version`. -/
theorem executeMigration_userVersion (migration : String) (db : VersionedDb σ) :
    ((executeMigration execute migration).run db).store.userVersion = db.userVersion := by
  simp only [EStateM.run, executeMigration]
  split <;> rfl

/-! ## The loop -/

theorem applyMigrations_cons (migration : String) (rest : List String) (k : Nat) :
    applyMigrations execute (migration :: rest) k =
      (executeMigration execute migration >>= fun _ => setUserVersion (k + 1) >>= fun _ =>
        applyMigrations execute rest (k + 1)) := rfl

/-- The loop over two lists is the loop over the first, then over the second from the index
past the first. -/
theorem applyMigrations_append (ms ms' : List String) (k : Nat) :
    applyMigrations execute (ms ++ ms') k =
      (applyMigrations execute ms k >>= fun _ => applyMigrations execute ms' (k + ms.length)) := by
  induction ms generalizing k with
  | nil => simp [applyMigrations]
  | cons migration ms ih =>
    simp only [List.cons_append, applyMigrations_cons, ih, bind_assoc, List.length_cons]
    rw [Nat.add_assoc, Nat.add_comm 1]

/-- **A successful loop leaves `user_version` past its last migration**, whatever the
migrations did to the schema. -/
theorem applyMigrations_userVersion {ms : List String} {k : Nat} (small : k + ms.length < 2 ^ 31)
    {db db' : VersionedDb σ} (version : db.userVersion = k)
    (ok : (applyMigrations execute ms k).run db = .ok () db') : db'.userVersion = k + ms.length := by
  induction ms generalizing k db with
  | nil =>
    cases ok
    simpa using version
  | cons migration ms ih =>
    rw [applyMigrations_cons] at ok
    obtain ⟨_, db₁, executed, ok⟩ := run_bind_eq_ok.mp ok
    obtain ⟨_, db₂, stored, ok⟩ := run_bind_eq_ok.mp ok
    -- `set_user_version(next_migration)` left the index of the next migration
    have next : db₂.userVersion = (k + 1 : Nat) := by
      rw [setUserVersion_run db₁ (by simp at small; omega)] at stored
      cases stored
      rfl
    rw [ih (by simp at small; omega) next ok, List.length_cons]
    push_cast
    omega

/-- **A loop over migrations that all succeed** ends past the last of them, with the schema
they build. -/
theorem applyMigrations_run_ok {ms : List String} {k : Nat} (small : k + ms.length < 2 ^ 31)
    {s s' : σ} (ok : (ms.forM execute).run s = .ok () s') :
    (applyMigrations execute ms k).run ⟨k, s⟩ = .ok () ⟨(k + ms.length : Nat), s'⟩ := by
  induction ms generalizing k s with
  | nil =>
    cases ok
    rfl
  | cons migration ms ih =>
    obtain ⟨s₁, first, rest⟩ := run_forM_eq_ok.mp ok
    rw [applyMigrations_cons, run_bind_of_ok (executeMigration_run_ok execute first),
      run_bind_of_ok (setUserVersion_run _ (by simp at small; omega)),
      ih (by simp at small; omega) rest, List.length_cons, Nat.add_right_comm k 1, Nat.add_assoc]

/-- **A loop where a migration fails** stops with `user_version` at that migration's index and
the schema the failed script left. -/
theorem applyMigrations_run_error {ms : List String} {k : Nat} (small : k + ms.length < 2 ^ 31)
    {j : Nat} (failing : j < ms.length) {s s₁ s₂ : σ} {e : Failure}
    (before : ((ms.take j).forM execute).run s = .ok () s₁)
    (fails : (execute ms[j]).run s₁ = .error e s₂) :
    (applyMigrations execute ms k).run ⟨k, s⟩ = .error e ⟨(k + j : Nat), s₂⟩ := by
  have split : ms = ms.take j ++ ms[j] :: ms.drop (j + 1) := by simp
  have taken : (ms.take j).length = j := by simp; omega
  rw [split, applyMigrations_append, run_bind_of_ok (applyMigrations_run_ok execute
      (by rw [taken]; omega) before), taken, applyMigrations_cons,
    run_bind_of_error (executeMigration_run_error execute fails)]

/-! ## `migrate` -/

variable (integrityCheck : EStateM Failure (VersionedDb σ) Unit)

theorem migrate_eq (migrations : List String) :
    migrate execute integrityCheck migrations =
      (getUserVersion >>= fun nextMigration =>
        applyMigrations execute (migrations.drop nextMigration) nextMigration >>= fun _ =>
          integrityCheck) := rfl

/-- A successful read of `user_version` changed nothing and read the stored version. -/
theorem getUserVersion_run_eq_ok {db db' : VersionedDb σ} {v : Nat}
    (ok : getUserVersion.run db = .ok v db') : db' = db ∧ db.userVersion = v := by
  by_cases negative : db.userVersion < 0
  · simp [getUserVersion, EStateM.run_bind, EStateM.run_get, negative] at ok
    cases ok
  · simp only [getUserVersion, EStateM.run_bind, EStateM.run_get, negative, if_false] at ok
    cases ok
    exact ⟨rfl, by omega⟩

/-- **Upgrading the program.** Migrations are only ever appended: on a database that a program
with an older list (a prefix of the new one) has migrated, the new program's `migrate` does what
it does on the database as it was before. So however a database went through versions of the
program, it ends where migrating it once with the newest list takes it. -/
theorem migrate_after_older (reads : Respects (Agree id) integrityCheck) {older newer : List String}
    (appended : older <+: newer) (fits : newer.length < 2 ^ 31) {db db' : VersionedDb σ}
    (migrated : (migrate execute integrityCheck older).run db = .ok () db') :
    (migrate execute integrityCheck newer).run db' = (migrate execute integrityCheck newer).run db := by
  obtain ⟨added, rfl⟩ := appended
  -- the older run read `user_version`, ran its loop from there and checked the result
  obtain ⟨v, db₀, read, afterRead⟩ := run_bind_eq_ok.mp migrated
  obtain ⟨rfl, version⟩ := getUserVersion_run_eq_ok read
  obtain ⟨_, db₁, looped, checked⟩ := run_bind_eq_ok.mp afterRead
  have same : db' = db₁ := by
    have kept := reads db₁
    rw [checked] at kept
    exact kept
  subst same
  by_cases within : v ≤ older.length
  · -- the older loop went up to the end of the older list; the new one goes on from there
    have length : v + (older.drop v).length = older.length := by simp; omega
    have reached : db'.userVersion = older.length := by
      rw [applyMigrations_userVersion execute (by simp at fits ⊢; omega) version looped]
      exact_mod_cast length
    calc (migrate execute integrityCheck (older ++ added)).run db'
        = (applyMigrations execute added older.length >>= fun _ => integrityCheck).run db' := by
          rw [migrate_eq, run_bind_of_ok (getUserVersion_run reached), List.drop_left]
      _ = ((applyMigrations execute (older.drop v) v >>= fun _ =>
            applyMigrations execute added older.length) >>= fun _ => integrityCheck).run db₀ := by
          rw [bind_assoc, run_bind_of_ok looped]
      _ = (migrate execute integrityCheck (older ++ added)).run db₀ := by
          rw [migrate_eq, run_bind_of_ok (getUserVersion_run version),
            List.drop_append_of_le_length within, applyMigrations_append, length]
  · -- `user_version` was past the older list: the older run changed nothing
    rw [List.drop_eq_nil_of_le (by omega)] at looped
    cases looped
    rfl

/-- **A failed migration is run again from its start.** When a migration fails, `migrate` fails
with `user_version` at that migration's index and the schema as the failed script left it: the
next start reads that index and runs the whole script again. -/
theorem migrate_fails_at_version {migrations : List String} (fits : migrations.length < 2 ^ 31)
    {db : VersionedDb σ} {v : Nat} (version : db.userVersion = v) {j : Nat} (started : v ≤ j)
    (failing : j < migrations.length) {s₁ s₂ : σ} {e : Failure}
    (before : (((migrations.drop v).take (j - v)).forM execute).run db.schema = .ok () s₁)
    (fails : (execute migrations[j]).run s₁ = .error e s₂) :
    (migrate execute integrityCheck migrations).run db = .error e ⟨j, s₂⟩ := by
  have bound : j - v < (migrations.drop v).length := by simp; omega
  have index : (migrations.drop v)[j - v] = migrations[j] := by
    simp only [List.getElem_drop]
    congr 1
    omega
  obtain ⟨userVersion, schema⟩ := db
  subst version
  rw [migrate_eq, run_bind_of_ok (getUserVersion_run rfl),
    run_bind_of_error (applyMigrations_run_error execute (by simp; omega) (by simp; omega) before
      (index ▸ fails)), Nat.add_sub_cancel' started]

/-- A migration that records its name in the schema, and fails on the script `"broken"`. -/
def recordMigration (migration : String) : EStateM Failure (List String) Unit :=
  if migration = "broken" then throw (.err (.bail "syntax error")) else modify (· ++ [migration])

theorem migrate_after_older_sample :
    Respects (Agree id) (pure () : EStateM Failure (VersionedDb (List String)) Unit) ∧
      ["a"] <+: ["a", "b"] ∧ ["a", "b"].length < 2 ^ 31 ∧
      (migrate recordMigration (pure ()) ["a"]).run ⟨0, []⟩ = .ok () ⟨1, ["a"]⟩ ∧
      (migrate recordMigration (pure ()) ["a", "b"]).run ⟨1, ["a"]⟩ =
        (migrate recordMigration (pure ()) ["a", "b"]).run ⟨0, []⟩ :=
  ⟨Respects.pure (), ⟨["b"], rfl⟩, by decide, rfl,
    migrate_after_older recordMigration (pure ()) (Respects.pure ())
      (show ["a"] <+: ["a", "b"] from ⟨["b"], rfl⟩) (by decide) rfl⟩

theorem migrate_fails_at_version_sample :
    ["a", "broken", "c"].length < 2 ^ 31 ∧ 0 ≤ 1 ∧ 1 < ["a", "broken", "c"].length ∧
      (((["a", "broken", "c"].drop 0).take (1 - 0)).forM recordMigration).run [] = .ok () ["a"] ∧
      (recordMigration "broken").run ["a"] = .error (.err (.bail "syntax error")) ["a"] ∧
      (migrate recordMigration (pure ()) ["a", "broken", "c"]).run ⟨0, []⟩ =
        .error (.err (.bail "syntax error")) ⟨1, ["a"]⟩ :=
  ⟨by decide, by decide, by decide, rfl, rfl,
    migrate_fails_at_version recordMigration (pure ()) (by decide) rfl (by decide) (by decide) rfl
      rfl⟩

end ChorePlanner
