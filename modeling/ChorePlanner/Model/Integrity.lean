/-
**`integrity_check`, the name normaliser, and the primitives every method of `Db` is made of.**

* `capitalizeTenantName` — `Db::capitalize_tenant_name` of `src/db.rs`: split at every `' '`,
  upper-case the first character of each part with `char::to_uppercase` (which may give several
  characters) and lower-case the rest with `str::to_lowercase`, join with `' '`.
* `integrityViolation` — the tests of `Db::integrity_check` in `src/db/scheme.rs`, in their order,
  with the message of the first one that fails; `integrityCheck` bails with it.
* `execute`, `bail` — running one statement with `?`, and `bail!`.
* `getWeekInternal`, `setWeekInternal` — `src/db/key_value.rs`. Both `unwrap` the
  `integrity_check` after their statement, so on a database that fails it they panic.
-/

import ChorePlanner.Model.Views

namespace ChorePlanner

variable {R : Type} (env : Env R)

/-! ### `capitalize_tenant_name` -/

/-- `str::split(' ')` on the characters of a string: the parts between the spaces, with an empty
part between two adjacent spaces and at either end. -/
def splitSpace : List Char → List (List Char)
  | [] => [[]]
  | c :: cs =>
    if c = ' ' then [] :: splitSpace cs
    else match splitSpace cs with
      | [] => [[c]]
      | part :: parts => (c :: part) :: parts

/-- One part of a name: `first.to_uppercase().collect::<String>() + &chars.as_str().to_lowercase()`,
and the empty string for an empty part. -/
def capitalizePart (part : List Char) : String :=
  match part with
  | [] => ""
  | first :: rest => String.ofList (env.toUppercase first) ++ env.toLowercase (String.ofList rest)

/-- `Db::capitalize_tenant_name`. -/
def capitalizeTenantName (name : String) : String :=
  " ".intercalate ((splitSpace name.toList).map (capitalizePart env))

/-! ### `integrity_check` -/

/-- `FROM Room JOIN LivesIn LivesInA ON Room.name = LivesInA.room_name JOIN LivesIn LivesInB ON
Room.name = LivesInB.room_name AND LivesInA.tenant_id != LivesInB.tenant_id AND the two overlap` is
not empty. -/
def roomOverlap (t : Tables) : Bool :=
  t.room.any fun room => t.livesIn.any fun a => t.livesIn.any fun b =>
    room == a.roomName && room == b.roomName && a.tenantId != b.tenantId &&
      Sql.overlaps (a.moveInWeek, a.moveOutWeek) (b.moveInWeek, b.moveOutWeek)

/-- `FROM Room JOIN LivesIn LivesInA ON Room.name = LivesInA.room_name JOIN LivesIn LivesInB ON
Room.name != LivesInB.room_name AND LivesInA.tenant_id = LivesInB.tenant_id AND the two overlap` is
not empty. -/
def tenantOverlap (t : Tables) : Bool :=
  t.room.any fun room => t.livesIn.any fun a => t.livesIn.any fun b =>
    room == a.roomName && room != b.roomName && a.tenantId == b.tenantId &&
      Sql.overlaps (a.moveInWeek, a.moveOutWeek) (b.moveInWeek, b.moveOutWeek)

/-- `FROM TenantExemption A, TenantExemption B WHERE` same tenant, same reason, different
`start_week`, and the two overlap, is not empty. -/
def exemptionOverlap (t : Tables) : Bool :=
  t.tenantExemption.any fun a => t.tenantExemption.any fun b =>
    a.tenantId == b.tenantId && a.exemptionReasonId == b.exemptionReasonId &&
      a.startWeek != b.startWeek && Sql.overlaps (a.startWeek, a.endWeek) (b.startWeek, b.endWeek)

/-- The message `integrity_check` bails with: that of its first test the tables fail. -/
def integrityViolation (t : Tables) : Option String :=
  if t.livesIn.any fun row => row.moveOutWeek.any (· ≤ row.moveInWeek) then
    some "move out date is before or same as move in date"
  else if t.tenantExemption.any fun row => row.endWeek.any (· < row.startWeek) then
    some "exemption end date is before start date"
  else match t.tenant.find? fun row => row.name != capitalizeTenantName env row.name with
  | some row => some ("Tenant name " ++ row.name ++ " is not capitalized")
  | none =>
    if roomOverlap t then some "there is a room with multiple tenants at the same time"
    else if tenantOverlap t then some "there is a tenant with multiple rooms at the same time"
    else if exemptionOverlap t then
      some "there are two overlapping TenantExemptions for the same Tenant and ExemptionReason"
    else if t.choreLog.any fun row => row.completed && row.ratingPollId.isNone then
      some "there is a completed ChoreLog without a poll id"
    else none

/-- The tables pass `integrity_check`. -/
def Integrity (t : Tables) : Prop := integrityViolation env t = none

instance (t : Tables) : Decidable (Integrity env t) :=
  inferInstanceAs (Decidable (integrityViolation env t = none))

/-! ### The primitives of `Db`'s methods -/

/-- `bail!(message)`. -/
def bail {α : Type} (message : String) : DbM R α := throw (.err (.bail message))

/-- `self.integrity_check().await?`. -/
def integrityCheck : DbM R Unit := do
  match integrityViolation env (← get).tables with
  | none => pure ()
  | some message => bail message

/-- `sqlx::query(statement).bind(..).execute(&mut self.con).await?`. -/
def execute (statement : Database → Except Error Executed) : DbM R Executed := do
  let db ← get
  match statement db.con with
  | .ok result =>
    set { db with con := result.con }
    pure result
  | .error e => throw (.err e)

/-- `get_week_internal`: `get_kv("current_week")`, or the fallback week when the key is not set.
`get_kv` `unwrap`s the `integrity_check` after its query. -/
def getWeekInternal : DbM R Int := do
  let db ← get
  if Integrity env db.tables then pure (db.tables.currentWeek.getD env.config.fallbackWeek)
  else throw .panic

/-- `set_week_internal`: `set_kv("current_week", ..)`, which `unwrap`s its `REPLACE` and the
`integrity_check` after it, and panics unless one row was affected. -/
def setWeekInternal (week : Int) : DbM R Unit := do
  let db ← get
  match db.con.replaceCurrentWeek week with
  | .error _ => throw .panic
  | .ok result =>
    set { db with con := result.con }
    if Integrity env result.con.tables then
      if result.rowsAffected != 1 then throw .panic
    else throw .panic

end ChorePlanner
