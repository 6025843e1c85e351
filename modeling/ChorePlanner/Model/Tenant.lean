/-
**Rooms and tenants: `src/db/tenant.rs` and `src/db/tenant_commands.rs`.**

* `Tables.roomsTenant`, `Tables.tenantsRoom` — who lives in a room, and where a tenant lives, in a
  week: the `LivesIn` rows covering it. `getRoomsTenant` and `getTenantsRoom` bail when there is
  more than one.
* `moveIn` — create the tenant (or update its chat tag), then stop with a message when the room is
  taken or the tenant lives elsewhere this week, else insert a `LivesIn` row from this week on and
  update the plan.
* `moveOut` — `undoMoveIn` deletes a `LivesIn` row that started this week; otherwise the covering
  row gets this week as its move-out week. Then the plan is updated.
-/

import ChorePlanner.Model.Plan

namespace ChorePlanner

namespace Tables

variable (t : Tables)

/-- `SELECT Tenant.name FROM Room JOIN LivesIn ON Room.name = LivesIn.room_name AND LivesIn covers
?1 JOIN Tenant ON LivesIn.tenant_id = Tenant.id WHERE Room.name = ?2`. -/
def roomsTenant (week : Int) (room : String) : List String :=
  (t.room.filter (· == room)).flatMap fun room =>
    (t.livesIn.filter fun livesIn =>
        room == livesIn.roomName && Sql.covers livesIn.moveInWeek livesIn.moveOutWeek week).flatMap
      fun livesIn => (t.tenant.filter (·.id == livesIn.tenantId)).map (·.name)

/-- `SELECT Room.name FROM Tenant JOIN LivesIn ON Tenant.id = LivesIn.tenant_id AND LivesIn covers
?1 JOIN Room ON LivesIn.room_name = Room.name WHERE Tenant.name = ?2`. -/
def tenantsRoom (week : Int) (name : String) : List String :=
  (t.tenant.filter (·.name == name)).flatMap fun tenant =>
    (t.livesIn.filter fun livesIn =>
        tenant.id == livesIn.tenantId && Sql.covers livesIn.moveInWeek livesIn.moveOutWeek week).flatMap
      fun livesIn => t.room.filter (· == livesIn.roomName)

/-- `SELECT Tenant.id FROM Tenant WHERE Tenant.name = ?1`. -/
def tenantIds (name : String) : List Nat :=
  (t.tenant.filter (·.name == name)).map (·.id)

end Tables

variable {R : Type} (env : Env R)

/-- `get_rooms_tenant`. -/
def getRoomsTenant (room : String) : DbM R (Option String) := do
  let week ← getWeekInternal env
  let rows := (← get).tables.roomsTenant week room
  integrityCheck env
  match rows with
  | [] => pure none
  | [name] => pure (some name)
  | _ => bail "get_rooms_tenant returned more than one row"

/-- `get_tenants_room`. -/
def getTenantsRoom (name : String) : DbM R (Option String) := do
  let week ← getWeekInternal env
  let rows := (← get).tables.tenantsRoom week name
  integrityCheck env
  match rows with
  | [] => pure none
  | [room] => pure (some room)
  | _ => bail "get_tenants_room returned more than one row"

/-- `get_tenant_id`. -/
def getTenantId (name : String) : DbM R (Option Nat) := do
  let rows := (← get).tables.tenantIds name
  integrityCheck env
  match rows with
  | [] => pure none
  | [id] => pure (some id)
  | _ => bail "get_tenant_id returned more than one row"

/-- `undo_move_in`: delete the tenant's `LivesIn` row for the room that starts this week, and say
whether there was one. -/
def undoMoveIn (tenant : String) (room : String) : DbM R Bool := do
  let week ← getWeekInternal env
  let affectedRows := (← execute (·.deleteLivesIn tenant room week)).rowsAffected
  integrityCheck env
  match affectedRows with
  | 0 => pure false
  | 1 => pure true
  | _ => bail "undo_move_in adjusted more than one row"

/-- `list_tenants`: one query, then `integrity_check`. -/
def listTenants : DbM R Unit := do
  let _ ← getWeekInternal env
  integrityCheck env

/-- `move_in`. -/
def moveIn (tenant : String) (tag : Option String) (room : String) : DbM R Unit := do
  let tenant := capitalizeTenantName env tenant
  if (← getTenantId env tenant).isSome then
    if let some tag := tag then
      let affectedRows := (← execute (·.updateTenantChatTag tag tenant)).rowsAffected
      integrityCheck env
      if affectedRows != 1 then bail s!"affected {affectedRows} rows"
  else
    let affectedRows := (← execute (·.insertTenant tenant tag)).rowsAffected
    integrityCheck env
    if affectedRows != 1 then bail s!"affected {affectedRows} rows"
  -- the room is taken, or the tenant lives elsewhere: reply with a message
  if (← getRoomsTenant env room).isSome then return
  if (← getTenantsRoom env tenant).isSome then return
  let week ← getWeekInternal env
  let _ ← execute (·.insertLivesIn tenant room week)
  integrityCheck env
  listTenants env
  let _ ← updatePlan env

/-- `move_out`. -/
def moveOut (tenant : String) : DbM R Unit := do
  let tenant := capitalizeTenantName env tenant
  let room ← match ← getTenantsRoom env tenant with
    | some room => pure room
    | none => bail ("the tenant " ++ tenant ++ " isn't living anywhere")
  if !(← undoMoveIn env tenant room) then
    let week ← getWeekInternal env
    let affectedRows := (← execute (·.updateLivesInMoveOut week tenant)).rowsAffected
    integrityCheck env
    if affectedRows != 1 then bail s!"affected {affectedRows} rows"
  listTenants env
  let _ ← updatePlan env

/-- `create_room`. -/
def createRoom (name : String) : DbM R Unit := do
  let name := capitalizeTenantName env name
  let affectedRows := (← execute (·.insertRoom name)).rowsAffected
  integrityCheck env
  if affectedRows != 1 then bail s!"affected {affectedRows} rows"
  listTenants env

end ChorePlanner
