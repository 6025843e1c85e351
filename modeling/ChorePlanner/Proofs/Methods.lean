/-
**What each primitive and each read of `Db` does, once.**

Later proofs cite these lemmas and never unfold a method.

* `getWeekInternal_run`, `integrityCheck_run`, `execute_run_ok`, `execute_run_error` — the
  primitives: on tables that pass `integrity_check` the two reads return without touching the
  state; a statement either installs its database or fails leaving the state as it was.
  `intact_of_getWeekInternal_ok`, `intact_of_integrityCheck_ok` and `execute_ok` read them
  backwards, from a success.
* `getAllAvailableTenantsUnnormalized_run`, `getAvailableTenantsUnnormalized_run`,
  `getWeeksToPlan_run`, `listPlan_run` — **the reads are pure**: each returns its query on the
  tables and leaves the state as it is.
* `getAvailableTenantsUnnormalized_run` shows the method computes `Tables.availableTenantsFor`.
-/

import ChorePlanner.Model.Plan

set_option linter.unusedSectionVars false

namespace ChorePlanner

namespace Tables

variable (t : Tables)

/-- The `(week, chore)` slots `get_weeks_to_plan` returns: for each of the next `weeks_to_plan`
weeks, its active chores without a `ChoreLog`. -/
def weeksToPlan (config : Config) : List (Int × String) :=
  (List.range config.weeksToPlan).flatMap fun (i : Nat) =>
    (t.unplannedChores (t.thisWeek config + (i : Int))).map fun chore =>
      (t.thisWeek config + (i : Int), chore)

end Tables

variable {R : Type} (env : Env R) {db : Db R}

/-! ### The primitives -/

section Primitives

theorem getWeekInternal_run (intact : Integrity env db.tables) :
    (getWeekInternal env).run db = .ok (db.tables.thisWeek env.config) db := by
  simp only [getWeekInternal, EStateM.run_bind, EStateM.run_get, if_pos intact]
  rfl

theorem getWeekInternal_run_of_not (broken : ¬Integrity env db.tables) :
    (getWeekInternal env).run db = .error .panic db := by
  simp only [getWeekInternal, EStateM.run_bind, EStateM.run_get, if_neg broken]
  rfl

theorem integrityCheck_run (intact : Integrity env db.tables) :
    (integrityCheck env).run db = .ok () db := by
  unfold Integrity at intact
  simp only [integrityCheck, EStateM.run_bind, EStateM.run_get, intact]
  rfl

theorem integrityCheck_run_of_violation {message : String}
    (violated : integrityViolation env db.tables = some message) :
    (integrityCheck env).run db = .error (.err (.bail message)) db := by
  simp only [integrityCheck, EStateM.run_bind, EStateM.run_get, violated]
  rfl

theorem execute_run_ok {statement : Database → Except Error Executed} {result : Executed}
    (ok : statement db.con = .ok result) :
    (execute statement).run db = .ok result { db with con := result.con } := by
  simp only [execute, EStateM.run_bind, EStateM.run_get, ok]
  rfl

theorem execute_run_error {statement : Database → Except Error Executed} {e : Error}
    (failed : statement db.con = .error e) :
    (execute statement).run db = .error (.err e) db := by
  simp only [execute, EStateM.run_bind, EStateM.run_get, failed]
  rfl

theorem bail_run {α : Type} (message : String) :
    (bail message : DbM R α).run db = .error (.err (.bail message)) db := rfl

/-! Read backwards: a successful primitive ran on tables that pass `integrity_check`, and a
successful `execute` installed the database its statement returned. -/

theorem intact_of_getWeekInternal_ok {week : Int} {db' : Db R}
    (ok : (getWeekInternal env).run db = .ok week db') : Integrity env db.tables := by
  by_contra broken
  rw [getWeekInternal_run_of_not env broken] at ok
  cases ok

theorem intact_of_integrityCheck_ok {db' : Db R} (ok : (integrityCheck env).run db = .ok () db') :
    Integrity env db.tables := by
  cases violated : integrityViolation env db.tables with
  | none => exact violated
  | some message =>
    rw [integrityCheck_run_of_violation env violated] at ok
    cases ok

theorem execute_ok {statement : Database → Except Error Executed} {result : Executed} {db' : Db R}
    (ok : (execute statement).run db = .ok result db') :
    statement db.con = .ok result ∧ db' = { db with con := result.con } := by
  cases ran : statement db.con with
  | error e =>
    rw [execute_run_error ran] at ok
    cases ok
  | ok executed =>
    rw [execute_run_ok ran] at ok
    cases ok
    exact ⟨rfl, rfl⟩

end Primitives

/-! ### The reads -/

section Reads

variable (intact : Integrity env db.tables)
include intact

theorem getAllAvailableTenantsUnnormalized_run (week : Int) (chore : String) :
    (getAllAvailableTenantsUnnormalized env week chore).run db =
      .ok (db.tables.availableTenants week chore) db := by
  simp only [getAllAvailableTenantsUnnormalized, EStateM.run_bind, EStateM.run_get,
    integrityCheck_run env intact]
  rfl

theorem getBusyTenants_run (week : Int) :
    (getBusyTenants env week).run db = .ok (db.tables.busyTenants week) db := by
  simp only [getBusyTenants, EStateM.run_bind, EStateM.run_get, integrityCheck_run env intact]
  rfl

/-- `get_available_tenants_unnormalized` computes `Tables.availableTenantsFor` of the state. -/
theorem getAvailableTenantsUnnormalized_run (week : Int) (chore : String) :
    (getAvailableTenantsUnnormalized env week chore).run db =
      .ok (db.tables.availableTenantsFor env.config.tryExcludeBusyTenants week chore) db := by
  simp only [getAvailableTenantsUnnormalized, EStateM.run_bind, getBusyTenants_run env intact,
    getAllAvailableTenantsUnnormalized_run env intact, Tables.availableTenantsFor]
  -- the method and the query branch on the same emptiness test
  split <;> simp_all

/-- `get_weeks_to_plan` returns `Tables.weeksToPlan`. -/
theorem getWeeksToPlan_run :
    (getWeeksToPlan env).run db = .ok (db.tables.weeksToPlan env.config) db := by
  unfold getWeeksToPlan
  rw [EStateM.run_foldlM_of_pure (g := fun acc (i : Nat) =>
    acc ++ (db.tables.unplannedChores (db.tables.thisWeek env.config + i)).map
      fun chore => (db.tables.thisWeek env.config + i, chore))]
  · rw [Tables.weeksToPlan, List.flatMap_eq_foldl]
  · -- one week of the loop reads the week and the unplanned chores, and changes nothing
    intro acc i
    simp only [EStateM.run_bind, getWeekInternal_run env intact, EStateM.run_get,
      integrityCheck_run env intact]
    rfl

theorem listPlan_run : (listPlan env).run db = .ok () db := by
  simp only [listPlan, EStateM.run_bind, getWeekInternal_run env intact, EStateM.run_get,
    integrityCheck_run env intact]
  exact EStateM.run_forM_of_pure _ fun _ _ => integrityCheck_run env intact

end Reads

/-! Read backwards: a successful read ran on tables that pass `integrity_check`. -/

theorem getAllAvailableTenantsUnnormalized_ok {week : Int} {chore : String}
    {rows : List (String × ℚ)} {db' : Db R}
    (ok : (getAllAvailableTenantsUnnormalized env week chore).run db = .ok rows db') :
    Integrity env db.tables ∧ rows = db.tables.availableTenants week chore ∧ db' = db := by
  cases violated : integrityViolation env db.tables with
  | none =>
    rw [getAllAvailableTenantsUnnormalized_run env violated] at ok
    cases ok
    exact ⟨violated, rfl, rfl⟩
  | some message =>
    simp only [getAllAvailableTenantsUnnormalized, EStateM.run_bind, EStateM.run_get,
      integrityCheck_run_of_violation env violated] at ok
    cases ok

end ChorePlanner
