/-
**Chores and reports: `src/db/chore_commands.rs` and `src/db/report_commands.rs`.**

* `createChore`, `setChoreActiveState` — one statement, then `updatePlan`; the plan is listed once
  more when the plan update's reply is empty.
* `printReport`, `printNextWeekBanner` — reads followed by `integrity_check`; the tables they
  format are not modelled.
-/

import ChorePlanner.Model.Tenant

namespace ChorePlanner

variable {R : Type} (env : Env R)

/-- `create_chore`. -/
def createChore (name : String) (description : String) : DbM R Unit := do
  let affectedRows := (← execute (·.insertChore name description)).rowsAffected
  integrityCheck env
  if affectedRows != 1 then bail s!"affected {affectedRows} rows"
  -- only list the plan separately when the update did not
  if !(← updatePlan env) then listPlan env

/-- `set_chore_active_state`. -/
def setChoreActiveState (name : String) (activeState : Bool) : DbM R Unit := do
  let affectedRows := (← execute (·.updateChoreActive activeState name)).rowsAffected
  integrityCheck env
  if affectedRows != 1 then bail s!"affected {affectedRows} rows"
  if !(← updatePlan env) then listPlan env

/-- `print_report`: `list_plan(Some(week))`, whose reads are those of `list_plan(None)`, then
`list_tenants`. -/
def printReport : DbM R Unit := do
  listPlan env
  listTenants env

/-- `print_next_week_banner`: this week's `ChoreLog`s, then `get_week_internal` for the title. -/
def printNextWeekBanner : DbM R Unit := do
  let _ ← getWeekInternal env
  integrityCheck env
  let _ ← getWeekInternal env

end ChorePlanner
