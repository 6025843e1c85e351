/-
**Exemptions: `src/db/exemption.rs` and `src/db/exemption_commands.rs`.**

* `isTenantExempt` — the tenant's rows of the reason that are active this week; more than one is
  a bail.
* `createExemptionReason` — insert the reason, then one `ChoreExemption` per chore name, each with
  the new reason's rowid. No plan update.
* `changeExemptionReason` — delete every `ChoreExemption` of the reason, insert the new ones, and
  update the plan. `ChoreExemption` has no time column: the change holds for every week, past ones
  included.
* `grantExemption`, `revokeExemption` — insert an exemption starting this week, or end the active
  one this week, each guarded by `isTenantExempt`, then update the plan.
-/

import ChorePlanner.Model.Plan

namespace ChorePlanner

namespace Tables

variable (t : Tables)

/-- `SELECT * FROM TenantExemption WHERE tenant_id = (SELECT ... = ?1) AND exemption_reason_id =
(SELECT ... = ?2) AND start_week <= ?3 AND (end_week IS NULL OR end_week > ?3)`. -/
def activeExemptionRows (tenant : String) (reason : String) (week : Int) :
    List TenantExemptionRow :=
  t.tenantExemption.filter fun row =>
    some row.tenantId == ((t.tenant.find? (·.name == tenant)).map (·.id)) &&
      some row.exemptionReasonId == ((t.exemptionReason.find? (·.reason == reason)).map (·.id)) &&
      Sql.covers row.startWeek row.endWeek week

/-- `SELECT * FROM ExemptionReason WHERE ExemptionReason.reason = ?1`. -/
def reasonRows (reason : String) : List ExemptionReasonRow :=
  t.exemptionReason.filter (·.reason == reason)

end Tables

variable {R : Type} (env : Env R)

/-- `is_tenant_exempt`. -/
def isTenantExempt (reason : String) (tenant : String) : DbM R Bool := do
  let week ← getWeekInternal env
  let rows := (← get).tables.activeExemptionRows tenant reason week
  integrityCheck env
  match rows with
  | [] => pure false
  | [_] => pure true
  | _ => bail "is_tenant_exempt returned more than one row"

/-- `list_exemptions`: one query, then `integrity_check`. -/
def listExemptions : DbM R Unit := do
  let _ ← getWeekInternal env
  integrityCheck env

/-- `create_exemption_reason`. -/
def createExemptionReason (reason : String) (chores : List String) : DbM R Unit := do
  let res ← execute (·.insertExemptionReason reason)
  integrityCheck env
  let reasonId := res.lastInsertRowid
  if res.rowsAffected != 1 then bail s!"affected {res.rowsAffected} ExemptionReason rows"
  chores.forM fun chore => do
    let affectedRows :=
      (← execute fun con => con.insertChoreExemption (con.choreId chore) (some reasonId)).rowsAffected
    integrityCheck env
    if affectedRows != 1 then bail s!"affected {affectedRows} ChoreExemption rows"
  listExemptions env

/-- `change_exemption_reason`. -/
def changeExemptionReason (reason : String) (chores : List String) : DbM R Unit := do
  if ((← get).tables.reasonRows reason).isEmpty then
    bail ("the ExemptionReason " ++ reason ++ " doesn't exist")
  let _ ← execute (·.deleteChoreExemption reason)
  integrityCheck env
  chores.forM fun chore => do
    let affectedRows :=
      (← execute fun con => con.insertChoreExemption (con.choreId chore) (con.reasonId reason)).rowsAffected
    integrityCheck env
    if affectedRows != 1 then bail s!"affected {affectedRows} ChoreExemption rows"
  listExemptions env
  let _ ← updatePlan env

/-- `grant_exemption`. -/
def grantExemption (reason : String) (tenant : String) : DbM R Unit := do
  let tenant := capitalizeTenantName env tenant
  if ← isTenantExempt env reason tenant then bail "tenant is already exempt"
  let week ← getWeekInternal env
  let affectedRows := (← execute (·.insertTenantExemption tenant reason week)).rowsAffected
  integrityCheck env
  if affectedRows != 1 then bail s!"affected {affectedRows} TenantExemption rows"
  listExemptions env
  let _ ← updatePlan env

/-- `revoke_exemption`. -/
def revokeExemption (reason : String) (tenant : String) : DbM R Unit := do
  let tenant := capitalizeTenantName env tenant
  if !(← isTenantExempt env reason tenant) then bail "tenant is not exempt"
  let week ← getWeekInternal env
  let affectedRows := (← execute (·.updateTenantExemptionEnd week tenant reason)).rowsAffected
  integrityCheck env
  if affectedRows != 1 then bail s!"affected {affectedRows} TenantExemption rows"
  listExemptions env
  let _ ← updatePlan env

end ChorePlanner
