/-
**Runs of the program from the freshly migrated database.**

Each run is a list of parsed command lines handed to `run_command` one after the other, from the
empty database, in week 0 (no weekly action, so the current week never changes): `runFromEmpty`.
The five runs are evaluated once, in `sampleRuns_outcomes`, and each theorem below reads off its
part.

* `PlanValid` — every `ChoreLog` from the current week on has an eligible worker.
* `twoExemptionRun_plans_exempt_worker` — **a run of successful commands that plans an exempt
  tenant**: Bob holds Sick (linked to the Dishes) and Busy (linked to the Trash), and the plan
  update of the second grant gives him the Dishes.
* `twoReasonRun_scores_not_zero_sum` — a tenant with two exemptions linked to no chore profits
  twice from each `ChoreLog`, so the scores of a chore do not sum to zero.
* `grantRevokeRun_regrant_fails` — a revoke in the week of the grant leaves an empty interval, and
  a second grant in that week violates `TenantExemption`'s primary key.
* `deactivateRun_keeps_plan` — deactivating a chore leaves its `ChoreLog`s of the current week.
* `twoStay_lookups_bail` — a database with two overlapping stays of one tenant in one room passes
  `integrity_check`, and both room lookups bail on it.
* `moveIn_fresh_unnormalized` — a first `move_in` of a name whose normal form is not normal
  itself commits the tenant and then fails `integrity_check`;
  `sharpS_moveIn_breaks_integrity` is that run for the name `ß`, under Unicode's case mappings.
-/

import ChorePlanner.Proofs.Availability
import ChorePlanner.Model.Command

set_option linter.unusedSectionVars false

namespace ChorePlanner

/-- Every `ChoreLog` from the current week on has as worker a tenant eligible for its chore and
week. -/
def PlanValid (config : Config) (t : Tables) : Prop :=
  ∀ log ∈ t.choreLog, t.thisWeek config ≤ log.week →
    ∃ tenant ∈ t.tenant, tenant.id = log.worker ∧ t.Eligible tenant log.choreId log.week

instance (config : Config) (t : Tables) : Decidable (PlanValid config t) :=
  inferInstanceAs (Decidable (∀ log ∈ t.choreLog, _))

/-- The outcome of `run_command` on each command line in turn, from the freshly migrated
database, as long as the commands succeed. -/
def runFromEmpty {R : Type} (env : Env R) (rng : R) (clis : List Cli) :
    EStateM.Result Failure (Db R) Unit :=
  (clis.forM (runCli env)).run ⟨Database.empty, rng⟩

/-! ### The runs -/

/-- Bob moves into room R; the chores Dishes and Trash are created; the reason Sick exempts from
the Dishes and Busy from the Trash; Bob is granted Sick, then Busy. -/
def twoExemptionRun : List Cli :=
  [⟨some (.tenant (some (.createRoom "R")))⟩,
    ⟨some (.tenant (some (.moveIn "Bob" none "R")))⟩,
    ⟨some (.chore (some (.create "Dishes" "wash up")))⟩,
    ⟨some (.chore (some (.create "Trash" "take out")))⟩,
    ⟨some (.exemption (some (.create ["Dishes"] "Sick")))⟩,
    ⟨some (.exemption (some (.create ["Trash"] "Busy")))⟩,
    ⟨some (.exemption (some (.grant "Bob" "Sick")))⟩,
    ⟨some (.exemption (some (.grant "Bob" "Busy")))⟩]

/-- Anna moves into R1 and Bob into R2; the chore Dishes is created, and the reasons Busy and
Away, linked to no chore; Bob is granted both. -/
def twoReasonRun : List Cli :=
  [⟨some (.tenant (some (.createRoom "R1")))⟩,
    ⟨some (.tenant (some (.createRoom "R2")))⟩,
    ⟨some (.tenant (some (.moveIn "Anna" none "R1")))⟩,
    ⟨some (.tenant (some (.moveIn "Bob" none "R2")))⟩,
    ⟨some (.chore (some (.create "Dishes" "wash up")))⟩,
    ⟨some (.exemption (some (.create [] "Busy")))⟩,
    ⟨some (.exemption (some (.create [] "Away")))⟩,
    ⟨some (.exemption (some (.grant "Bob" "Busy")))⟩,
    ⟨some (.exemption (some (.grant "Bob" "Away")))⟩]

/-- Anna moves into R; the reason Sick is created; Anna is granted Sick, and it is revoked in the
same week. -/
def grantRevokeRun : List Cli :=
  [⟨some (.tenant (some (.createRoom "R")))⟩,
    ⟨some (.tenant (some (.moveIn "Anna" none "R")))⟩,
    ⟨some (.exemption (some (.create [] "Sick")))⟩,
    ⟨some (.exemption (some (.grant "Anna" "Sick")))⟩,
    ⟨some (.exemption (some (.revoke "Sick" "Anna")))⟩]

/-- Anna moves into R and the chore Dishes is created, which plans her for week 0; then the Dishes
are deactivated. -/
def deactivateRun : List Cli :=
  [⟨some (.tenant (some (.createRoom "R")))⟩,
    ⟨some (.tenant (some (.moveIn "Anna" none "R")))⟩,
    ⟨some (.chore (some (.create "Dishes" "wash up")))⟩,
    ⟨some (.chore (some (.deactivate "Dishes")))⟩]

/-- Anna lives in R from week 0 and, through a second row, from week 1; the current week is 1. -/
def twoStayTables : Tables :=
  { Tables.empty with
    room := ["R"]
    tenant := [⟨1, "Anna", none⟩]
    livesIn := [⟨1, "R", 0, none⟩, ⟨1, "R", 1, none⟩]
    currentWeek := some 1 }

/-- `twoStayTables` as a database: it satisfies every constraint of the schema. -/
def twoStayDb : Database := ⟨twoStayTables, by constructor <;> decide⟩

/-- What the five runs above do, found by one evaluation of all of them; the theorems below
each read off one part. -/
theorem sampleRuns_outcomes :
    ((runFromEmpty (asciiEnv sampleConfig) () twoExemptionRun).error? = none ∧
        (runFromEmpty (asciiEnv sampleConfig) () twoExemptionRun).store.tables.choreLog =
          [⟨2, 0, 1, false, none⟩, ⟨1, 0, 1, false, none⟩] ∧
        ¬PlanValid sampleConfig (runFromEmpty (asciiEnv sampleConfig) () twoExemptionRun).store.tables) ∧
    ((runFromEmpty (asciiEnv sampleConfig) () twoReasonRun).error? = none ∧
        (runFromEmpty (asciiEnv sampleConfig) () twoReasonRun).store.tables.choreLog =
          [⟨1, 0, 1, false, none⟩] ∧
        (runFromEmpty (asciiEnv sampleConfig) () twoReasonRun).store.tables.tenantScore =
          [⟨1, 1, 1⟩, ⟨2, 1, -2⟩] ∧
        (((runFromEmpty (asciiEnv sampleConfig) () twoReasonRun).store.tables.tenantScore.filter
          (·.choreId == 1)).map (·.score)).sum = -1) ∧
    ((runFromEmpty (asciiEnv sampleConfig) () grantRevokeRun).error? = none ∧
        (runFromEmpty (asciiEnv sampleConfig) () grantRevokeRun).store.tables.tenantExemption =
          [⟨1, 1, 0, some 0⟩] ∧
        ((isTenantExempt (asciiEnv sampleConfig) "Sick" "Anna").run
            (runFromEmpty (asciiEnv sampleConfig) () grantRevokeRun).store).value? = some false ∧
        (runFromEmpty (asciiEnv sampleConfig) ()
            (grantRevokeRun ++ [⟨some (.exemption (some (.grant "Anna" "Sick")))⟩])).error? =
          some (.err (.sql (.unique
            "TenantExemption.tenant_id, TenantExemption.exemption_reason_id, TenantExemption.start_week")))) ∧
    ((runFromEmpty (asciiEnv sampleConfig) () deactivateRun).error? = none ∧
        (runFromEmpty (asciiEnv sampleConfig) () deactivateRun).store.tables.chore =
          [⟨1, "Dishes", "wash up", false⟩] ∧
        (runFromEmpty (asciiEnv sampleConfig) () deactivateRun).store.tables.choreLog =
          [⟨1, 0, 1, false, none⟩] ∧
        (runFromEmpty (asciiEnv sampleConfig) () deactivateRun).store.tables.thisWeek sampleConfig = 0) ∧
    (Integrity (asciiEnv sampleConfig) twoStayTables ∧
        ((getRoomsTenant (asciiEnv sampleConfig) "R").run ⟨twoStayDb, ()⟩).error? =
          some (.err (.bail "get_rooms_tenant returned more than one row")) ∧
        ((getTenantsRoom (asciiEnv sampleConfig) "Anna").run ⟨twoStayDb, ()⟩).error? =
          some (.err (.bail "get_tenants_room returned more than one row"))) := by
  decide +kernel

/-! ### An exempt tenant in the plan -/

/-- **Every command succeeds, and the plan gives the Dishes to the exempt Bob.** The grant of
Sick removes Bob's Dishes of week 0 from the plan, and the grant of Busy plans him again: the row
of his exemption Busy passes the availability query for the Dishes. -/
theorem twoExemptionRun_plans_exempt_worker :
    (runFromEmpty (asciiEnv sampleConfig) () twoExemptionRun).error? = none ∧
      (runFromEmpty (asciiEnv sampleConfig) () twoExemptionRun).store.tables.choreLog =
        [⟨2, 0, 1, false, none⟩, ⟨1, 0, 1, false, none⟩] ∧
      ¬PlanValid sampleConfig (runFromEmpty (asciiEnv sampleConfig) () twoExemptionRun).store.tables :=
  sampleRuns_outcomes.1

/-! ### Scores that do not sum to zero -/

/-- **Every command succeeds, and the scores of the Dishes sum to `-1`.** Anna does the Dishes of
week 0 and gains `1`; Bob profits from them through each of his two exemptions, so
`ProfitingTenant` lists him twice and he loses `1/(N-1) = 1` twice. -/
theorem twoReasonRun_scores_not_zero_sum :
    (runFromEmpty (asciiEnv sampleConfig) () twoReasonRun).error? = none ∧
      (runFromEmpty (asciiEnv sampleConfig) () twoReasonRun).store.tables.choreLog =
        [⟨1, 0, 1, false, none⟩] ∧
      (runFromEmpty (asciiEnv sampleConfig) () twoReasonRun).store.tables.tenantScore =
        [⟨1, 1, 1⟩, ⟨2, 1, -2⟩] ∧
      (((runFromEmpty (asciiEnv sampleConfig) () twoReasonRun).store.tables.tenantScore.filter
        (·.choreId == 1)).map (·.score)).sum = -1 :=
  sampleRuns_outcomes.2.1

/-! ### A grant after a revoke in the same week -/

/-- **A second grant in the week of a revoke fails.** The revoke leaves the empty interval
`[0, 0)`, so Anna is not exempt, but the grant inserts a second row with the key
`(Anna, Sick, 0)` and violates the primary key. -/
theorem grantRevokeRun_regrant_fails :
    (runFromEmpty (asciiEnv sampleConfig) () grantRevokeRun).error? = none ∧
      (runFromEmpty (asciiEnv sampleConfig) () grantRevokeRun).store.tables.tenantExemption =
        [⟨1, 1, 0, some 0⟩] ∧
      ((isTenantExempt (asciiEnv sampleConfig) "Sick" "Anna").run
          (runFromEmpty (asciiEnv sampleConfig) () grantRevokeRun).store).value? = some false ∧
      (runFromEmpty (asciiEnv sampleConfig) ()
          (grantRevokeRun ++ [⟨some (.exemption (some (.grant "Anna" "Sick")))⟩])).error? =
        some (.err (.sql (.unique
          "TenantExemption.tenant_id, TenantExemption.exemption_reason_id, TenantExemption.start_week"))) :=
  sampleRuns_outcomes.2.2.1

/-! ### A deactivated chore stays planned -/

/-- **The plan keeps the Dishes after they are deactivated.** `clean_plan` deletes a `ChoreLog` only
when its worker is no longer available, and availability does not look at `Chore.active`, so
Anna's Dishes of the current week 0 stay. -/
theorem deactivateRun_keeps_plan :
    (runFromEmpty (asciiEnv sampleConfig) () deactivateRun).error? = none ∧
      (runFromEmpty (asciiEnv sampleConfig) () deactivateRun).store.tables.chore =
        [⟨1, "Dishes", "wash up", false⟩] ∧
      (runFromEmpty (asciiEnv sampleConfig) () deactivateRun).store.tables.choreLog =
        [⟨1, 0, 1, false, none⟩] ∧
      (runFromEmpty (asciiEnv sampleConfig) () deactivateRun).store.tables.thisWeek sampleConfig = 0 :=
  sampleRuns_outcomes.2.2.2.1

/-! ### A tenant twice in one room -/

/-- **`integrity_check` accepts two overlapping stays of one tenant in one room, and then both
lookups bail.** The room overlap query pairs rows of different tenants and the tenant overlap
query rows of different rooms, so neither sees Anna's two rows of R; in week 1 both cover the
week, and `get_rooms_tenant(R)` and `get_tenants_room(Anna)` find two rows. -/
theorem twoStay_lookups_bail :
    Integrity (asciiEnv sampleConfig) twoStayTables ∧
      ((getRoomsTenant (asciiEnv sampleConfig) "R").run ⟨twoStayDb, ()⟩).error? =
        some (.err (.bail "get_rooms_tenant returned more than one row")) ∧
      ((getTenantsRoom (asciiEnv sampleConfig) "Anna").run ⟨twoStayDb, ()⟩).error? =
        some (.err (.bail "get_tenants_room returned more than one row")) :=
  sampleRuns_outcomes.2.2.2.2

/-! ### A name that `capitalize_tenant_name` does not fix -/

section Capitalize

variable {R : Type} (env : Env R)

theorem integrityViolation_empty : integrityViolation env Tables.empty = none := by
  simp [integrityViolation, Tables.empty, roomOverlap, tenantOverlap, exemptionOverlap]

/-- A first `move_in` of a name whose normal form `capitalize_tenant_name` changes again commits
the new tenant, then fails `integrity_check`, leaving tables that fail it. -/
theorem moveIn_fresh_unnormalized (rng : R) (name : String) (tag : Option String) (room : String)
    (unnormal : capitalizeTenantName env (capitalizeTenantName env name) ≠
      capitalizeTenantName env name) :
    ∃ db, (moveIn env name tag room).run ⟨Database.empty, rng⟩ =
        .error (.err (.bail ("Tenant name " ++ capitalizeTenantName env name ++ " is not capitalized")))
          db ∧
      db.tables.tenant = [⟨1, capitalizeTenantName env name, tag⟩] ∧ ¬Integrity env db.tables := by
  have intact : Integrity env (Db.tables ⟨Database.empty, rng⟩) := integrityViolation_empty env
  have lookup : (getTenantId env (capitalizeTenantName env name)).run ⟨Database.empty, rng⟩ =
      .ok none ⟨Database.empty, rng⟩ := by
    simp only [getTenantId, EStateM.run_bind, EStateM.run_get, integrityCheck_run env intact]
    rfl
  obtain ⟨result, inserted, tables_eq⟩ : ∃ result,
      Database.empty.insertTenant (capitalizeTenantName env name) tag = .ok result ∧
        result.con.tables = { Tables.empty with tenant := [⟨1, capitalizeTenantName env name, tag⟩] } := by
    refine ⟨_, rfl, ?_⟩
    simp [Database.empty, Tables.empty, Sql.nextRowid]
  have ran : (execute (·.insertTenant (capitalizeTenantName env name) tag)).run
      ⟨Database.empty, rng⟩ = .ok result ⟨result.con, rng⟩ := execute_run_ok inserted
  -- the new tenant is the first one whose name is not a fixed point
  have violated : integrityViolation env (Db.tables ⟨result.con, rng⟩) =
      some ("Tenant name " ++ capitalizeTenantName env name ++ " is not capitalized") := by
    simp [Db.tables, tables_eq, integrityViolation, Tables.empty, Ne.symm unnormal]
  refine ⟨⟨result.con, rng⟩, ?_, ?_, ?_⟩
  · simp only [moveIn, EStateM.run_bind, lookup, Option.isSome_none, Bool.false_eq_true, if_false,
      ran, integrityCheck_run_of_violation env violated]
  · show result.con.tables.tenant = _
    rw [tables_eq]
  · show integrityViolation env (Db.tables ⟨result.con, rng⟩) ≠ none
    rw [violated]
    exact Option.some_ne_none _

/-- Where `ß` upper-cases to `SS`, as in Unicode's mappings, the name `ß` normalizes to `SS`. -/
theorem capitalizeTenantName_sharpS (upper_sharpS : env.toUppercase 'ß' = ['S', 'S'])
    (lower_empty : env.toLowercase "" = "") : capitalizeTenantName env "ß" = "SS" := by
  simp only [capitalizeTenantName, show "ß".toList = ['ß'] from rfl, splitSpace,
    show ('ß' = ' ') = False by decide, if_false, List.map_cons, List.map_nil, capitalizePart,
    upper_sharpS, show String.ofList [] = "" from rfl, lower_empty]
  rfl

/-- The name `SS` normalizes to `Ss`: only a first letter stays upper case. -/
theorem capitalizeTenantName_SS (upper_S : env.toUppercase 'S' = ['S'])
    (lower_S : env.toLowercase "S" = "s") : capitalizeTenantName env "SS" = "Ss" := by
  simp only [capitalizeTenantName, show "SS".toList = ['S', 'S'] from rfl, splitSpace,
    show ('S' = ' ') = False by decide, if_false, List.map_cons, List.map_nil, capitalizePart,
    upper_S, show String.ofList ['S'] = "S" from rfl, lower_S]
  rfl

/-- **`move_in --name ß` leaves a tenant that fails `integrity_check`.** With Unicode's case
mappings, `ß` upper-cases to `SS`, which normalizes to `Ss`. -/
theorem sharpS_moveIn_breaks_integrity (rng : R) (room : String)
    (upper_sharpS : env.toUppercase 'ß' = ['S', 'S']) (upper_S : env.toUppercase 'S' = ['S'])
    (lower_empty : env.toLowercase "" = "") (lower_S : env.toLowercase "S" = "s") :
    ∃ db, (runCli env ⟨some (.tenant (some (.moveIn "ß" none room)))⟩).run ⟨Database.empty, rng⟩ =
        .error (.err (.bail "Tenant name SS is not capitalized")) db ∧
      db.tables.tenant = [⟨1, "SS", none⟩] ∧ ¬Integrity env db.tables := by
  have sharpS := capitalizeTenantName_sharpS env upper_sharpS lower_empty
  have fresh := moveIn_fresh_unnormalized env rng "ß" none room
    (by rw [sharpS, capitalizeTenantName_SS env upper_S lower_S]; decide)
  rw [sharpS] at fresh
  exact fresh

end Capitalize

/-- Unicode's full upper-case mapping on `ß` (to `SS`) and on ASCII, over `asciiEnv`. -/
def sharpSEnv (config : Config) : Env Unit :=
  { asciiEnv config with toUppercase := fun c => if c = 'ß' then ['S', 'S'] else [c.toUpper] }

theorem sharpSEnv_toLowercase_empty (config : Config) : (sharpSEnv config).toLowercase "" = "" :=
  String.map_eq_empty.mpr rfl

theorem sharpSEnv_toLowercase_S (config : Config) : (sharpSEnv config).toLowercase "S" = "s" := by
  -- `String.map` does not reduce under `decide`, so compare the lists of characters
  simp [sharpSEnv, asciiEnv, ← String.toList_inj, String.toList_map]

theorem sharpS_moveIn_breaks_integrity_sample :
    ∃ db, (runCli (sharpSEnv sampleConfig) ⟨some (.tenant (some (.moveIn "ß" none "R")))⟩).run
        ⟨Database.empty, ()⟩ = .error (.err (.bail "Tenant name SS is not capitalized")) db ∧
      db.tables.tenant = [⟨1, "SS", none⟩] ∧ ¬Integrity (sharpSEnv sampleConfig) db.tables :=
  sharpS_moveIn_breaks_integrity (sharpSEnv sampleConfig) () "R" (by decide) (by decide)
    (sharpSEnv_toLowercase_empty _) (sharpSEnv_toLowercase_S _)

end ChorePlanner
