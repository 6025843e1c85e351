/-
**The score views of `src/db/scheme.rs`: `ProfitingTenant`, `TotalProfitingTenant`, `TenantScore`.**

The three views are evaluated as SQLite evaluates them, row by row, with bag semantics: joins are
nested loops over the tables in rowid order, `LEFT JOIN` is `Sql.leftJoin`, and the score is
computed over exact rationals with SQLite's `NULL` rules (`Sql.div` is `NULL` on a zero divisor,
`Sql.sum` skips `NULL`s).

* `profitingTenant` — one row per tenant, `LivesIn` row covering a `ChoreLog`'s week, and active
  `TenantExemption` of that tenant (or `NULL`) not linked to the `ChoreLog`'s chore by a
  `ChoreExemption`: the `WHERE ChoreExemption.chore_id IS NULL` of the view.
* `totalProfitingTenant` — per `(week, chore)` group of `ProfitingTenant`, the number of distinct
  tenants.
* `tenantScore` — per tenant and chore, `COALESCE(SUM(did_work * 1 - (1 - did_work) * 1 /
  CAST(count - 1 AS FLOAT)), 0)` over the tenant's `ProfitingTenant` rows for the chore.
-/

import ChorePlanner.Model.Statements

namespace ChorePlanner

/-- A row of the view `ProfitingTenant (tenant_id, chore_id, week, did_work)`. -/
structure ProfitingTenantRow where
  tenantId : Nat
  choreId : Nat
  week : Int
  didWork : Bool
  deriving DecidableEq, Repr

/-- A row of the view `TotalProfitingTenant (chore_id, week, count)`. -/
structure TotalProfitingTenantRow where
  choreId : Nat
  week : Int
  count : Nat
  deriving DecidableEq, Repr

/-- A row of the view `TenantScore (tenant_id, chore_id, score)`. -/
structure TenantScoreRow where
  tenantId : Nat
  choreId : Nat
  score : ℚ
  deriving DecidableEq, Repr

namespace Tables

variable (t : Tables)

/-! ### `ProfitingTenant` -/

/-- `FROM Tenant JOIN LivesIn ON Tenant.id = LivesIn.tenant_id JOIN ChoreLog ON LivesIn covers
ChoreLog.week`: every tenant with every `ChoreLog` of a week one of its `LivesIn` rows covers, once
per such row. -/
def livedChoreLogs : List (TenantRow × ChoreLogRow) :=
  t.tenant.flatMap fun tenant =>
    (t.livesIn.filter (·.tenantId == tenant.id)).flatMap fun livesIn =>
      (t.choreLog.filter fun log => Sql.covers livesIn.moveInWeek livesIn.moveOutWeek log.week).map
        fun log => (tenant, log)

/-- `LEFT JOIN TenantExemption ON TenantExemption.tenant_id = Tenant.id AND the exemption is
active in ChoreLog.week`. -/
def activeExemptions : List ((TenantRow × ChoreLogRow) × Option TenantExemptionRow) :=
  Sql.leftJoin t.livedChoreLogs t.tenantExemption fun (tenant, log) exemption =>
    exemption.tenantId == tenant.id && Sql.covers exemption.startWeek exemption.endWeek log.week

/-- `LEFT JOIN ChoreExemption ON TenantExemption.exemption_reason_id =
ChoreExemption.exemption_reason_id AND ChoreExemption.chore_id = ChoreLog.chore_id`; a `NULL`
exemption compares as `NULL` and matches nothing. -/
def choreExemptions :
    List (((TenantRow × ChoreLogRow) × Option TenantExemptionRow) × Option ChoreExemptionRow) :=
  Sql.leftJoin t.activeExemptions t.choreExemption fun ((_, log), exemption) choreExemption =>
    match exemption with
    | none => false
    | some exemption =>
      exemption.exemptionReasonId == choreExemption.exemptionReasonId &&
        choreExemption.choreId == log.choreId

/-- The view `ProfitingTenant`: `WHERE ChoreExemption.chore_id IS NULL`, selecting
`Tenant.id, ChoreLog.chore_id, ChoreLog.week, IIF(ChoreLog.worker = Tenant.id, 1, 0)`. -/
def profitingTenant : List ProfitingTenantRow :=
  (t.choreExemptions.filter (·.2.isNone)).map fun (((tenant, log), _), _) =>
    ⟨tenant.id, log.choreId, log.week, log.worker == tenant.id⟩

/-! ### `TotalProfitingTenant` -/

/-- The view `TotalProfitingTenant`: `COUNT(DISTINCT tenant_id) ... GROUP BY week, chore_id`. -/
def totalProfitingTenant : List TotalProfitingTenantRow :=
  (t.profitingTenant.map fun row => (row.choreId, row.week)).dedup.map fun (choreId, week) =>
    ⟨choreId, week,
      ((t.profitingTenant.filter fun row => row.choreId == choreId && row.week == week).map
        (·.tenantId)).dedup.length⟩

/-! ### `TenantScore` -/

/-- `did_work * 1 - (1 - did_work) * 1 / CAST(count - 1 AS FLOAT)` on one row of the two left
joins; `NULL` when either side is. -/
def contribution (row : Option ProfitingTenantRow) (total : Option TotalProfitingTenantRow) :
    Option ℚ :=
  let didWork : Option ℚ := row.map fun row => if row.didWork then 1 else 0
  let others : Option ℚ := total.map fun total => ((total.count : Int) - 1 : Int)
  Sql.sub (Sql.mul didWork (some 1)) (Sql.div (Sql.mul (Sql.sub (some 1) didWork) (some 1)) others)

/-- The rows of `FROM Tenant, Chore LEFT JOIN ProfitingTenant ... LEFT JOIN TotalProfitingTenant
...` for one tenant id and one chore id. -/
def scoreRows (tenantId choreId : Nat) :
    List ((Unit × Option ProfitingTenantRow) × Option TotalProfitingTenantRow) :=
  Sql.leftJoin
    (Sql.leftJoin [()] t.profitingTenant fun _ row =>
      row.tenantId == tenantId && row.choreId == choreId)
    t.totalProfitingTenant fun (_, row) total =>
      match row with
      | none => false
      | some row => row.choreId == total.choreId && row.week == total.week

/-- The score column of `TenantScore` for one group `GROUP BY Tenant.id, Chore.id`. -/
def score (tenantId choreId : Nat) : ℚ :=
  Sql.coalesce (Sql.sum ((t.scoreRows tenantId choreId).map fun ((_, row), total) =>
    contribution row total)) 0

/-- The view `TenantScore`: one row per tenant and chore. -/
def tenantScore : List TenantScoreRow :=
  t.tenant.flatMap fun tenant => t.chore.map fun chore =>
    ⟨tenant.id, chore.id, t.score tenant.id chore.id⟩

end Tables

end ChorePlanner
