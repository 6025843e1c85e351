/-
**The planner: `src/db/plan.rs` and the planning half of `src/db/plan_commands.rs`.**

The queries are functions of the tables; each method of `Db` reads one of them, runs
`integrity_check`, and acts on the rows, as the source does.

* `Tables.availableTenants` — the query of `get_all_available_tenants_unnormalized`: tenants
  living in a room in the week, left-joined with their active exemptions, those with the chore
  exempt, and the week's `Unwilling` rows, keeping the rows where the last two are `NULL`, ordered
  by score (SQLite's sort of the scan order, stable on equal scores).
* `Tables.busyTenants` — the query of `get_busy_tenants`.
* `cleanPlan`, `getWeeksToPlan`, `planWeek`, `updatePlan` — the three loops of a plan update.
* `normalizeTenants`, `calcTenantDistribution`, `chooseTenant` — the arithmetic of a draw, over
  exact rationals; `chooseTenant` draws with `Env.weightedIndex`.

`list_plan` only formats; it is kept as the reads and `integrity_check`s it performs. The reply
messages are not modelled: `updatePlan` returns whether its reply is non-empty, which is what
`create_chore` and `set_chore_active_state` branch on.
-/

import ChorePlanner.Model.Integrity
import Mathlib.Data.List.Sort

namespace ChorePlanner

namespace Tables

variable (t : Tables)

/-! ### The queries -/

/-- The current week `get_week_internal` returns: the `KeyValue` row, or the fallback week. -/
def thisWeek (config : Config) : Int := t.currentWeek.getD config.fallbackWeek

/-- `SELECT ChoreLog.week, Chore.name, Tenant.name FROM ChoreLog JOIN Chore ON Chore.id =
ChoreLog.chore_id JOIN Tenant ON Tenant.id = ChoreLog.worker WHERE ChoreLog.week >= ?1`. -/
def futureChoreLogs (week : Int) : List (Int × String × String) :=
  t.choreLog.flatMap fun log =>
    (t.chore.filter (·.id == log.choreId)).flatMap fun chore =>
      (t.tenant.filter (·.id == log.worker)).filterMap fun tenant =>
        if week ≤ log.week then some (log.week, chore.name, tenant.name) else none

/-- `SELECT Chore.name FROM Chore LEFT JOIN ChoreLog ON ChoreLog.chore_id = Chore.id AND
ChoreLog.week = ?1 WHERE Chore.active = 1 AND ChoreLog.chore_id IS NULL`. -/
def unplannedChores (week : Int) : List String :=
  ((Sql.leftJoin t.chore t.choreLog fun chore log => log.choreId == chore.id && log.week == week).filter
    fun (chore, log) => chore.active && log.isNone).map (·.1.name)

/-- `SELECT Tenant.name FROM Tenant JOIN ProfitingTenant ON Tenant.id = ProfitingTenant.tenant_id
AND ProfitingTenant.did_work = 1 AND ProfitingTenant.week >= ?1 - 1 AND ProfitingTenant.week <= ?1 + 1
GROUP BY Tenant.id, Tenant.name`. -/
def busyTenants (week : Int) : List String :=
  t.tenant.filterMap fun tenant =>
    if t.profitingTenant.any fun row =>
        row.tenantId == tenant.id && row.didWork && decide (week - 1 ≤ row.week) &&
          decide (row.week ≤ week + 1) then
      some tenant.name
    else none

/-- `FROM Tenant, Chore JOIN TenantScore ON Tenant.id = TenantScore.tenant_id AND Chore.id =
TenantScore.chore_id JOIN LivesIn ON Tenant.id = LivesIn.tenant_id AND LivesIn covers ?1`. -/
def residentScores (week : Int) : List (TenantRow × ChoreRow × TenantScoreRow) :=
  t.tenant.flatMap fun tenant => t.chore.flatMap fun chore =>
    (t.tenantScore.filter fun score => tenant.id == score.tenantId && chore.id == score.choreId).flatMap
      fun score =>
        (t.livesIn.filter fun livesIn =>
            tenant.id == livesIn.tenantId && Sql.covers livesIn.moveInWeek livesIn.moveOutWeek week).map
          fun _ => (tenant, chore, score)

/-- `LEFT JOIN TenantExemption ON TenantExemption.tenant_id = Tenant.id AND the exemption is active
in ?1`. -/
def residentExemptions (week : Int) :
    List ((TenantRow × ChoreRow × TenantScoreRow) × Option TenantExemptionRow) :=
  Sql.leftJoin (t.residentScores week) t.tenantExemption fun (tenant, _, _) exemption =>
    exemption.tenantId == tenant.id && Sql.covers exemption.startWeek exemption.endWeek week

/-- `LEFT JOIN ChoreExemption ON TenantExemption.exemption_reason_id =
ChoreExemption.exemption_reason_id AND ChoreExemption.chore_id = Chore.id`. -/
def residentChoreExemptions (week : Int) :
    List (((TenantRow × ChoreRow × TenantScoreRow) × Option TenantExemptionRow) ×
      Option ChoreExemptionRow) :=
  Sql.leftJoin (t.residentExemptions week) t.choreExemption fun ((_, chore, _), exemption) link =>
    match exemption with
    | none => false
    | some exemption =>
      exemption.exemptionReasonId == link.exemptionReasonId && link.choreId == chore.id

/-- `LEFT JOIN Unwilling ON Unwilling.tenant_id = Tenant.id AND Unwilling.week = ?1`, then
`WHERE ChoreExemption.chore_id IS NULL AND Unwilling.tenant_id IS NULL AND Chore.name = ?2`, selecting
`Tenant.name, CAST(TenantScore.score AS REAL)`. -/
def availableRows (week : Int) (chore : String) : List (String × ℚ) :=
  ((Sql.leftJoin (t.residentChoreExemptions week) t.unwilling fun ((resident, _), _) unwilling =>
      unwilling.tenantId == resident.1.id && unwilling.week == week).filter
    fun (((resident, _), link), unwilling) =>
      link.isNone && unwilling.isNone && resident.2.1.name == chore).map
    fun (((resident, _), _), _) => (resident.1.name, resident.2.2.score)

/-- The rows of `get_all_available_tenants_unnormalized`: `availableRows` `ORDER BY score ASC`. -/
def availableTenants (week : Int) (chore : String) : List (String × ℚ) :=
  (t.availableRows week chore).insertionSort fun a b => a.2 ≤ b.2

/-- What `get_available_tenants_unnormalized` returns: the available tenants that are not busy
when busy tenants are to be excluded, unless that leaves none. -/
def availableTenantsFor (tryExcludeBusyTenants : Bool) (week : Int) (chore : String) :
    List (String × ℚ) :=
  let nonBusy := (t.availableTenants week chore).filter fun (name, _) =>
    !tryExcludeBusyTenants || !(t.busyTenants week).contains name
  if nonBusy.isEmpty then t.availableTenants week chore else nonBusy

end Tables

/-! ### The arithmetic of a draw -/

/-- `normalize_tenants`: shift every score by minus the mean, so that they sum to zero. -/
def normalizeTenants (unnormalized : List (String × ℚ)) : List (String × ℚ) :=
  let sum := -(unnormalized.foldl (fun sum entry => sum + entry.2) 0)
  let n : ℚ := unnormalized.length
  unnormalized.map fun (tenant, score) => (tenant, score + sum / n)

/-- `EPS` of `calc_tenant_distribution`. -/
def eps : ℚ := 1 / 10000000

/-- `calc_tenant_distribution`: the weight `max(1/n - (1 - gamma) / (n * xn) * score, 0)` of each
tenant, with `xn` the score of the last one, or `1/n` each when `xn` is within `EPS` of zero. -/
def calcTenantDistribution (gamma : ℚ) (tenants : List (String × ℚ)) : List ℚ :=
  let n : ℚ := tenants.length
  match tenants.getLast? with
  | none => []
  | some (_, xn) =>
    if |xn| < eps then tenants.map fun _ => 1 / n
    else tenants.map fun (_, score) => max (1 / n - (1 - gamma) / (n * xn) * score) 0

variable {R : Type} (env : Env R)

/-! ### The methods -/

/-- `get_all_available_tenants_unnormalized`. -/
def getAllAvailableTenantsUnnormalized (week : Int) (chore : String) :
    DbM R (List (String × ℚ)) := do
  let rows := (← get).tables.availableTenants week chore
  integrityCheck env
  pure rows

/-- `get_busy_tenants`. -/
def getBusyTenants (week : Int) : DbM R (List String) := do
  let rows := (← get).tables.busyTenants week
  integrityCheck env
  pure rows

/-- `get_available_tenants_unnormalized`. The `debug_assert_eq!` is compiled out of release
builds. -/
def getAvailableTenantsUnnormalized (week : Int) (chore : String) : DbM R (List (String × ℚ)) := do
  let busyTenants ← getBusyTenants env week
  let allAvailableTenants ← getAllAvailableTenantsUnnormalized env week chore
  let nonBusyAvailableTenants := allAvailableTenants.filter fun (name, _) =>
    !env.config.tryExcludeBusyTenants || !busyTenants.contains name
  if nonBusyAvailableTenants.isEmpty then pure allAvailableTenants
  else pure nonBusyAvailableTenants

/-- `clean_plan`: delete every future `ChoreLog` whose worker is no longer available for it. -/
def cleanPlan : DbM R Unit := do
  let week ← getWeekInternal env
  let futureChoreLogs := (← get).tables.futureChoreLogs week
  integrityCheck env
  futureChoreLogs.forM fun (week, chore, tenant) => do
    let availableTenantsUnnormalized ← getAllAvailableTenantsUnnormalized env week chore
    if !availableTenantsUnnormalized.any fun (availableTenant, _) => availableTenant == tenant then
      let affectedRows := (← execute (·.deleteChoreLog chore week)).rowsAffected
      integrityCheck env
      if affectedRows != 1 then bail s!"affected {affectedRows} rows"

/-- `get_weeks_to_plan`: the `(week, chore)` slots of the next `weeks_to_plan` weeks that have no
`ChoreLog`, week by week. -/
def getWeeksToPlan : DbM R (List (Int × String)) :=
  List.foldlM (fun weeksToPlan (i : Nat) => do
      let checkWeek := (← getWeekInternal env) + (i : Int)
      let rows := (← get).tables.unplannedChores checkWeek
      integrityCheck env
      pure (weeksToPlan ++ rows.map fun chore => (checkWeek, chore)))
    [] (List.range env.config.weeksToPlan)

/-- `choose_tenant`: the drawn tenant, its score and its weight. -/
def chooseTenant (tenants : List (String × ℚ)) : DbM R (String × ℚ × ℚ) := do
  let dist := calcTenantDistribution env.config.gamma tenants
  let db ← get
  match env.weightedIndex dist db.rng with
  | .error e => throw (.err e)
  | .ok (idx, rng) =>
    set { db with rng := rng }
    match tenants[idx]?, dist[idx]? with
    | some (tenant, score), some prob => pure (tenant, score, prob)
    | _, _ => throw .panic

/-- `plan_week`: draw a tenant for the slot and insert its `ChoreLog`; nothing when no tenant is
available. -/
def planWeek (week : Int) (chore : String) : DbM R Unit := do
  let unnormalizedTenants ← getAvailableTenantsUnnormalized env week chore
  let tenants := normalizeTenants unnormalizedTenants
  if tenants.isEmpty then return
  let (tenant, _, _) ← chooseTenant env tenants
  -- `SELECT Tenant.chat_tag FROM Tenant WHERE Tenant.name = ?1` with `fetch_one`
  if ((← get).tables.tenant.filter (·.name == tenant)).isEmpty then throw (.err .rowNotFound)
  integrityCheck env
  let affectedRows := (← execute (·.insertChoreLog chore week tenant)).rowsAffected
  integrityCheck env
  if affectedRows != 1 then bail s!"affected {affectedRows} rows"
  let _ ← getWeekInternal env

/-- `list_plan`: one query for the active chores and one per active chore, each followed by
`integrity_check`. -/
def listPlan : DbM R Unit := do
  let _ ← getWeekInternal env
  let chores := (← get).tables.chore.filter (·.active)
  integrityCheck env
  chores.forM fun _ => integrityCheck env

/-- `update_plan`. It returns whether its reply is non-empty: the listed plan is appended exactly
when some slot was to be planned. -/
def updatePlan : DbM R Bool := do
  cleanPlan env
  let weeksToPlan ← getWeeksToPlan env
  weeksToPlan.forM fun (week, chore) => planWeek env week chore
  if weeksToPlan.isEmpty then pure false
  else
    listPlan env
    pure true

/-- `replan`: mark the tenant unwilling for the week, then update the plan. -/
def replan (tenant : String) (week : Int) : DbM R Unit := do
  let tenant := capitalizeTenantName env tenant
  let affectedRows := (← execute (·.replaceUnwilling tenant week)).rowsAffected
  integrityCheck env
  if affectedRows != 1 then bail s!"affected {affectedRows} rows"
  let _ ← updatePlan env

end ChorePlanner
