/-
**The database of `src/db/scheme.rs`: its tables, their constraints, and the `Db` state.**

Every table of the migrations is a list of rows in rowid order, with one field per column. The
column types follow the schema: `INTEGER` weeks and poll ids are `Int`, row ids `Nat`, the two
flag columns (`Chore.active`, `ChoreLog.completed`, only ever `0` or `1`) `Bool`, nullable columns
`Option`. The `KeyValue` table only ever holds the key `current_week`, whose text is the decimal
week: it is kept as that week, `Tables.currentWeek`.

* `Tables.Valid` — what SQLite itself guarantees of every database file the program opens
  (`foreign_keys(true)`): primary keys and `UNIQUE` columns are unique, foreign keys resolve.
  `Database` packs the tables with that proof, so no statement can build a database that SQLite
  would refuse; the statements of `Model.Statements` prove it once each.
* `Db` — the program's `Db` struct: the connection and the random number generator. Its other
  fields never change after `Db::new` and form the `Config`.
* `Env` — what the code relies on from outside `src/`: the Unicode case mappings of Rust's
  standard library, `rand`'s `WeightedIndex` sampling and `chrono`'s ISO calendar.
* `DbM` — a method of `Db`: it may return, fail with an `anyhow::Error`, or panic, and in every
  case it leaves the database as far as it got (no statement runs in a transaction).
-/

import Mathlib.Data.List.Dedup
import Mathlib.Algebra.Order.Field.Rat
import ChorePlanner.Lib.Exec

namespace ChorePlanner

/-! ### Rows -/

/-- A row of `Tenant (id, name, chat_tag)`. -/
structure TenantRow where
  id : Nat
  name : String
  chatTag : Option String
  deriving DecidableEq, Repr

/-- A row of `LivesIn (tenant_id, room_name, move_in_week, move_out_week)`. -/
structure LivesInRow where
  tenantId : Nat
  roomName : String
  moveInWeek : Int
  moveOutWeek : Option Int
  deriving DecidableEq, Repr

/-- A row of `Unwilling (tenant_id, week)`. -/
structure UnwillingRow where
  tenantId : Nat
  week : Int
  deriving DecidableEq, Repr

/-- A row of `Chore (id, name, description, active)`. -/
structure ChoreRow where
  id : Nat
  name : String
  description : String
  active : Bool
  deriving DecidableEq, Repr

/-- A row of `ExemptionReason (id, reason)`. -/
structure ExemptionReasonRow where
  id : Nat
  reason : String
  deriving DecidableEq, Repr

/-- A row of `TenantExemption (tenant_id, exemption_reason_id, start_week, end_week)`. -/
structure TenantExemptionRow where
  tenantId : Nat
  exemptionReasonId : Nat
  startWeek : Int
  endWeek : Option Int
  deriving DecidableEq, Repr

/-- A row of `ChoreExemption (chore_id, exemption_reason_id)`. -/
structure ChoreExemptionRow where
  choreId : Nat
  exemptionReasonId : Nat
  deriving DecidableEq, Repr

/-- A row of `ChoreLog (chore_id, week, worker, completed, rating_poll_id)`. -/
structure ChoreLogRow where
  choreId : Nat
  week : Int
  worker : Nat
  completed : Bool
  ratingPollId : Option Int
  deriving DecidableEq, Repr

/-- A row of `Rating (id, for_chore_log_chore_id, week, rating)`. -/
structure RatingRow where
  id : Nat
  forChoreLogChoreId : Nat
  week : Int
  rating : Nat
  deriving DecidableEq, Repr

/-- The primary key `(chore_id, week)` of a `ChoreLog`. -/
def ChoreLogRow.key (row : ChoreLogRow) : Nat × Int := (row.choreId, row.week)

/-- The `ChoreLog` a `Rating` refers to. -/
def RatingRow.choreLog (row : RatingRow) : Nat × Int := (row.forChoreLogChoreId, row.week)

/-! ### Tables -/

/-- Every table, in rowid order. `currentWeek` is the `KeyValue` row `current_week`. -/
structure Tables where
  room : List String
  tenant : List TenantRow
  livesIn : List LivesInRow
  unwilling : List UnwillingRow
  chore : List ChoreRow
  exemptionReason : List ExemptionReasonRow
  tenantExemption : List TenantExemptionRow
  choreExemption : List ChoreExemptionRow
  choreLog : List ChoreLogRow
  rating : List RatingRow
  currentWeek : Option Int
  deriving DecidableEq, Repr

namespace Tables

/-- The tables right after `migrate` on a new file. -/
def empty : Tables :=
  { room := [], tenant := [], livesIn := [], unwilling := [], chore := [], exemptionReason := [],
    tenantExemption := [], choreExemption := [], choreLog := [], rating := [],
    currentWeek := none }

/-- The constraints of the schema, which SQLite enforces on every statement: the primary keys
and `UNIQUE` columns, and (with `foreign_keys(true)`) the foreign keys. `NOT NULL` is carried by the
field types. -/
structure Valid (t : Tables) : Prop where
  room_key : t.room.Nodup
  tenant_key : (t.tenant.map (·.id)).Nodup
  tenant_name : (t.tenant.map (·.name)).Nodup
  livesIn_key : (t.livesIn.map fun row => (row.roomName, row.moveInWeek)).Nodup
  livesIn_tenant : ∀ row ∈ t.livesIn, row.tenantId ∈ t.tenant.map (·.id)
  livesIn_room : ∀ row ∈ t.livesIn, row.roomName ∈ t.room
  unwilling_key : (t.unwilling.map fun row => (row.tenantId, row.week)).Nodup
  unwilling_tenant : ∀ row ∈ t.unwilling, row.tenantId ∈ t.tenant.map (·.id)
  chore_key : (t.chore.map (·.id)).Nodup
  chore_name : (t.chore.map (·.name)).Nodup
  reason_key : (t.exemptionReason.map (·.id)).Nodup
  reason_name : (t.exemptionReason.map (·.reason)).Nodup
  tenantExemption_key :
    (t.tenantExemption.map fun row => (row.tenantId, row.exemptionReasonId, row.startWeek)).Nodup
  tenantExemption_tenant : ∀ row ∈ t.tenantExemption, row.tenantId ∈ t.tenant.map (·.id)
  tenantExemption_reason :
    ∀ row ∈ t.tenantExemption, row.exemptionReasonId ∈ t.exemptionReason.map (·.id)
  choreExemption_key : (t.choreExemption.map fun row => (row.choreId, row.exemptionReasonId)).Nodup
  choreExemption_chore : ∀ row ∈ t.choreExemption, row.choreId ∈ t.chore.map (·.id)
  choreExemption_reason :
    ∀ row ∈ t.choreExemption, row.exemptionReasonId ∈ t.exemptionReason.map (·.id)
  choreLog_key : (t.choreLog.map (·.key)).Nodup
  choreLog_worker : ∀ row ∈ t.choreLog, row.worker ∈ t.tenant.map (·.id)
  choreLog_poll : (t.choreLog.filterMap (·.ratingPollId)).Nodup
  rating_key : (t.rating.map (·.id)).Nodup
  rating_choreLog : ∀ row ∈ t.rating, row.choreLog ∈ t.choreLog.map (·.key)

theorem empty_valid : empty.Valid where
  room_key := List.nodup_nil
  tenant_key := List.nodup_nil
  tenant_name := List.nodup_nil
  livesIn_key := List.nodup_nil
  livesIn_tenant := fun _ member => by cases member
  livesIn_room := fun _ member => by cases member
  unwilling_key := List.nodup_nil
  unwilling_tenant := fun _ member => by cases member
  chore_key := List.nodup_nil
  chore_name := List.nodup_nil
  reason_key := List.nodup_nil
  reason_name := List.nodup_nil
  tenantExemption_key := List.nodup_nil
  tenantExemption_tenant := fun _ member => by cases member
  tenantExemption_reason := fun _ member => by cases member
  choreExemption_key := List.nodup_nil
  choreExemption_chore := fun _ member => by cases member
  choreExemption_reason := fun _ member => by cases member
  choreLog_key := List.nodup_nil
  choreLog_worker := fun _ member => by cases member
  choreLog_poll := List.nodup_nil
  rating_key := List.nodup_nil
  rating_choreLog := fun _ member => by cases member

/-! ### Replacing one table -/

namespace Valid

/-- Replacing `Room` keeps the schema when its names stay unique and it keeps every room a
`LivesIn` row names. -/
theorem withRoom {t : Tables} (valid : t.Valid) (rows : List String)
    (key : rows.Nodup) (kept : ∀ row ∈ t.livesIn, row.roomName ∈ rows) :
    ({ t with room := rows } : Tables).Valid where
  room_key := key
  tenant_key := valid.tenant_key
  tenant_name := valid.tenant_name
  livesIn_key := valid.livesIn_key
  livesIn_tenant := valid.livesIn_tenant
  livesIn_room := kept
  unwilling_key := valid.unwilling_key
  unwilling_tenant := valid.unwilling_tenant
  chore_key := valid.chore_key
  chore_name := valid.chore_name
  reason_key := valid.reason_key
  reason_name := valid.reason_name
  tenantExemption_key := valid.tenantExemption_key
  tenantExemption_tenant := valid.tenantExemption_tenant
  tenantExemption_reason := valid.tenantExemption_reason
  choreExemption_key := valid.choreExemption_key
  choreExemption_chore := valid.choreExemption_chore
  choreExemption_reason := valid.choreExemption_reason
  choreLog_key := valid.choreLog_key
  choreLog_worker := valid.choreLog_worker
  choreLog_poll := valid.choreLog_poll
  rating_key := valid.rating_key
  rating_choreLog := valid.rating_choreLog

/-- Replacing `Tenant` keeps the schema when its ids and names stay unique and it keeps every
id it had. -/
theorem withTenant {t : Tables} (valid : t.Valid) (rows : List TenantRow)
    (key : (rows.map (·.id)).Nodup) (name : (rows.map (·.name)).Nodup)
    (kept : ∀ id ∈ t.tenant.map (·.id), id ∈ rows.map (·.id)) :
    ({ t with tenant := rows } : Tables).Valid where
  room_key := valid.room_key
  tenant_key := key
  tenant_name := name
  livesIn_key := valid.livesIn_key
  livesIn_tenant := fun row member => kept _ (valid.livesIn_tenant row member)
  livesIn_room := valid.livesIn_room
  unwilling_key := valid.unwilling_key
  unwilling_tenant := fun row member => kept _ (valid.unwilling_tenant row member)
  chore_key := valid.chore_key
  chore_name := valid.chore_name
  reason_key := valid.reason_key
  reason_name := valid.reason_name
  tenantExemption_key := valid.tenantExemption_key
  tenantExemption_tenant := fun row member => kept _ (valid.tenantExemption_tenant row member)
  tenantExemption_reason := valid.tenantExemption_reason
  choreExemption_key := valid.choreExemption_key
  choreExemption_chore := valid.choreExemption_chore
  choreExemption_reason := valid.choreExemption_reason
  choreLog_key := valid.choreLog_key
  choreLog_worker := fun row member => kept _ (valid.choreLog_worker row member)
  choreLog_poll := valid.choreLog_poll
  rating_key := valid.rating_key
  rating_choreLog := valid.rating_choreLog

/-- Replacing `LivesIn` keeps the schema when its keys stay unique and its rows name existing
tenants and rooms. -/
theorem withLivesIn {t : Tables} (valid : t.Valid) (rows : List LivesInRow)
    (key : (rows.map fun row => (row.roomName, row.moveInWeek)).Nodup)
    (tenant : ∀ row ∈ rows, row.tenantId ∈ t.tenant.map (·.id))
    (room : ∀ row ∈ rows, row.roomName ∈ t.room) :
    ({ t with livesIn := rows } : Tables).Valid where
  room_key := valid.room_key
  tenant_key := valid.tenant_key
  tenant_name := valid.tenant_name
  livesIn_key := key
  livesIn_tenant := tenant
  livesIn_room := room
  unwilling_key := valid.unwilling_key
  unwilling_tenant := valid.unwilling_tenant
  chore_key := valid.chore_key
  chore_name := valid.chore_name
  reason_key := valid.reason_key
  reason_name := valid.reason_name
  tenantExemption_key := valid.tenantExemption_key
  tenantExemption_tenant := valid.tenantExemption_tenant
  tenantExemption_reason := valid.tenantExemption_reason
  choreExemption_key := valid.choreExemption_key
  choreExemption_chore := valid.choreExemption_chore
  choreExemption_reason := valid.choreExemption_reason
  choreLog_key := valid.choreLog_key
  choreLog_worker := valid.choreLog_worker
  choreLog_poll := valid.choreLog_poll
  rating_key := valid.rating_key
  rating_choreLog := valid.rating_choreLog

/-- Replacing `Unwilling` keeps the schema when its keys stay unique and its rows name existing
tenants. -/
theorem withUnwilling {t : Tables} (valid : t.Valid) (rows : List UnwillingRow)
    (key : (rows.map fun row => (row.tenantId, row.week)).Nodup)
    (tenant : ∀ row ∈ rows, row.tenantId ∈ t.tenant.map (·.id)) :
    ({ t with unwilling := rows } : Tables).Valid where
  room_key := valid.room_key
  tenant_key := valid.tenant_key
  tenant_name := valid.tenant_name
  livesIn_key := valid.livesIn_key
  livesIn_tenant := valid.livesIn_tenant
  livesIn_room := valid.livesIn_room
  unwilling_key := key
  unwilling_tenant := tenant
  chore_key := valid.chore_key
  chore_name := valid.chore_name
  reason_key := valid.reason_key
  reason_name := valid.reason_name
  tenantExemption_key := valid.tenantExemption_key
  tenantExemption_tenant := valid.tenantExemption_tenant
  tenantExemption_reason := valid.tenantExemption_reason
  choreExemption_key := valid.choreExemption_key
  choreExemption_chore := valid.choreExemption_chore
  choreExemption_reason := valid.choreExemption_reason
  choreLog_key := valid.choreLog_key
  choreLog_worker := valid.choreLog_worker
  choreLog_poll := valid.choreLog_poll
  rating_key := valid.rating_key
  rating_choreLog := valid.rating_choreLog

/-- Replacing `Chore` keeps the schema when its ids and names stay unique and it keeps every id
it had. -/
theorem withChore {t : Tables} (valid : t.Valid) (rows : List ChoreRow)
    (key : (rows.map (·.id)).Nodup) (name : (rows.map (·.name)).Nodup)
    (kept : ∀ id ∈ t.chore.map (·.id), id ∈ rows.map (·.id)) :
    ({ t with chore := rows } : Tables).Valid where
  room_key := valid.room_key
  tenant_key := valid.tenant_key
  tenant_name := valid.tenant_name
  livesIn_key := valid.livesIn_key
  livesIn_tenant := valid.livesIn_tenant
  livesIn_room := valid.livesIn_room
  unwilling_key := valid.unwilling_key
  unwilling_tenant := valid.unwilling_tenant
  chore_key := key
  chore_name := name
  reason_key := valid.reason_key
  reason_name := valid.reason_name
  tenantExemption_key := valid.tenantExemption_key
  tenantExemption_tenant := valid.tenantExemption_tenant
  tenantExemption_reason := valid.tenantExemption_reason
  choreExemption_key := valid.choreExemption_key
  choreExemption_chore := fun row member => kept _ (valid.choreExemption_chore row member)
  choreExemption_reason := valid.choreExemption_reason
  choreLog_key := valid.choreLog_key
  choreLog_worker := valid.choreLog_worker
  choreLog_poll := valid.choreLog_poll
  rating_key := valid.rating_key
  rating_choreLog := valid.rating_choreLog

/-- Replacing `ExemptionReason` keeps the schema when its ids and reasons stay unique and it
keeps every id it had. -/
theorem withExemptionReason {t : Tables} (valid : t.Valid) (rows : List ExemptionReasonRow)
    (key : (rows.map (·.id)).Nodup) (name : (rows.map (·.reason)).Nodup)
    (kept : ∀ id ∈ t.exemptionReason.map (·.id), id ∈ rows.map (·.id)) :
    ({ t with exemptionReason := rows } : Tables).Valid where
  room_key := valid.room_key
  tenant_key := valid.tenant_key
  tenant_name := valid.tenant_name
  livesIn_key := valid.livesIn_key
  livesIn_tenant := valid.livesIn_tenant
  livesIn_room := valid.livesIn_room
  unwilling_key := valid.unwilling_key
  unwilling_tenant := valid.unwilling_tenant
  chore_key := valid.chore_key
  chore_name := valid.chore_name
  reason_key := key
  reason_name := name
  tenantExemption_key := valid.tenantExemption_key
  tenantExemption_tenant := valid.tenantExemption_tenant
  tenantExemption_reason := fun row member => kept _ (valid.tenantExemption_reason row member)
  choreExemption_key := valid.choreExemption_key
  choreExemption_chore := valid.choreExemption_chore
  choreExemption_reason := fun row member => kept _ (valid.choreExemption_reason row member)
  choreLog_key := valid.choreLog_key
  choreLog_worker := valid.choreLog_worker
  choreLog_poll := valid.choreLog_poll
  rating_key := valid.rating_key
  rating_choreLog := valid.rating_choreLog

/-- Replacing `TenantExemption` keeps the schema when its keys stay unique and its rows name
existing tenants and reasons. -/
theorem withTenantExemption {t : Tables} (valid : t.Valid) (rows : List TenantExemptionRow)
    (key : (rows.map fun row => (row.tenantId, row.exemptionReasonId, row.startWeek)).Nodup)
    (tenant : ∀ row ∈ rows, row.tenantId ∈ t.tenant.map (·.id))
    (reason : ∀ row ∈ rows, row.exemptionReasonId ∈ t.exemptionReason.map (·.id)) :
    ({ t with tenantExemption := rows } : Tables).Valid where
  room_key := valid.room_key
  tenant_key := valid.tenant_key
  tenant_name := valid.tenant_name
  livesIn_key := valid.livesIn_key
  livesIn_tenant := valid.livesIn_tenant
  livesIn_room := valid.livesIn_room
  unwilling_key := valid.unwilling_key
  unwilling_tenant := valid.unwilling_tenant
  chore_key := valid.chore_key
  chore_name := valid.chore_name
  reason_key := valid.reason_key
  reason_name := valid.reason_name
  tenantExemption_key := key
  tenantExemption_tenant := tenant
  tenantExemption_reason := reason
  choreExemption_key := valid.choreExemption_key
  choreExemption_chore := valid.choreExemption_chore
  choreExemption_reason := valid.choreExemption_reason
  choreLog_key := valid.choreLog_key
  choreLog_worker := valid.choreLog_worker
  choreLog_poll := valid.choreLog_poll
  rating_key := valid.rating_key
  rating_choreLog := valid.rating_choreLog

/-- Replacing `ChoreExemption` keeps the schema when its keys stay unique and its rows name
existing chores and reasons. -/
theorem withChoreExemption {t : Tables} (valid : t.Valid) (rows : List ChoreExemptionRow)
    (key : (rows.map fun row => (row.choreId, row.exemptionReasonId)).Nodup)
    (chore : ∀ row ∈ rows, row.choreId ∈ t.chore.map (·.id))
    (reason : ∀ row ∈ rows, row.exemptionReasonId ∈ t.exemptionReason.map (·.id)) :
    ({ t with choreExemption := rows } : Tables).Valid where
  room_key := valid.room_key
  tenant_key := valid.tenant_key
  tenant_name := valid.tenant_name
  livesIn_key := valid.livesIn_key
  livesIn_tenant := valid.livesIn_tenant
  livesIn_room := valid.livesIn_room
  unwilling_key := valid.unwilling_key
  unwilling_tenant := valid.unwilling_tenant
  chore_key := valid.chore_key
  chore_name := valid.chore_name
  reason_key := valid.reason_key
  reason_name := valid.reason_name
  tenantExemption_key := valid.tenantExemption_key
  tenantExemption_tenant := valid.tenantExemption_tenant
  tenantExemption_reason := valid.tenantExemption_reason
  choreExemption_key := key
  choreExemption_chore := chore
  choreExemption_reason := reason
  choreLog_key := valid.choreLog_key
  choreLog_worker := valid.choreLog_worker
  choreLog_poll := valid.choreLog_poll
  rating_key := valid.rating_key
  rating_choreLog := valid.rating_choreLog

/-- Replacing `ChoreLog` keeps the schema when its keys and poll ids stay unique, its workers
exist, and it keeps every `ChoreLog` a `Rating` refers to. -/
theorem withChoreLog {t : Tables} (valid : t.Valid) (rows : List ChoreLogRow)
    (key : (rows.map (·.key)).Nodup) (worker : ∀ row ∈ rows, row.worker ∈ t.tenant.map (·.id))
    (poll : (rows.filterMap (·.ratingPollId)).Nodup)
    (kept : ∀ row ∈ t.rating, row.choreLog ∈ rows.map (·.key)) :
    ({ t with choreLog := rows } : Tables).Valid where
  room_key := valid.room_key
  tenant_key := valid.tenant_key
  tenant_name := valid.tenant_name
  livesIn_key := valid.livesIn_key
  livesIn_tenant := valid.livesIn_tenant
  livesIn_room := valid.livesIn_room
  unwilling_key := valid.unwilling_key
  unwilling_tenant := valid.unwilling_tenant
  chore_key := valid.chore_key
  chore_name := valid.chore_name
  reason_key := valid.reason_key
  reason_name := valid.reason_name
  tenantExemption_key := valid.tenantExemption_key
  tenantExemption_tenant := valid.tenantExemption_tenant
  tenantExemption_reason := valid.tenantExemption_reason
  choreExemption_key := valid.choreExemption_key
  choreExemption_chore := valid.choreExemption_chore
  choreExemption_reason := valid.choreExemption_reason
  choreLog_key := key
  choreLog_worker := worker
  choreLog_poll := poll
  rating_key := valid.rating_key
  rating_choreLog := kept

/-- Replacing `Rating` keeps the schema when its ids stay unique and its rows refer to existing
`ChoreLog`s. -/
theorem withRating {t : Tables} (valid : t.Valid) (rows : List RatingRow)
    (key : (rows.map (·.id)).Nodup) (choreLog : ∀ row ∈ rows, row.choreLog ∈ t.choreLog.map (·.key)) :
    ({ t with rating := rows } : Tables).Valid where
  room_key := valid.room_key
  tenant_key := valid.tenant_key
  tenant_name := valid.tenant_name
  livesIn_key := valid.livesIn_key
  livesIn_tenant := valid.livesIn_tenant
  livesIn_room := valid.livesIn_room
  unwilling_key := valid.unwilling_key
  unwilling_tenant := valid.unwilling_tenant
  chore_key := valid.chore_key
  chore_name := valid.chore_name
  reason_key := valid.reason_key
  reason_name := valid.reason_name
  tenantExemption_key := valid.tenantExemption_key
  tenantExemption_tenant := valid.tenantExemption_tenant
  tenantExemption_reason := valid.tenantExemption_reason
  choreExemption_key := valid.choreExemption_key
  choreExemption_chore := valid.choreExemption_chore
  choreExemption_reason := valid.choreExemption_reason
  choreLog_key := valid.choreLog_key
  choreLog_worker := valid.choreLog_worker
  choreLog_poll := valid.choreLog_poll
  rating_key := key
  rating_choreLog := choreLog

/-- The `KeyValue` row is constrained by nothing else. -/
theorem withCurrentWeek {t : Tables} (valid : t.Valid) (week : Option Int) :
    ({ t with currentWeek := week } : Tables).Valid where
  room_key := valid.room_key
  tenant_key := valid.tenant_key
  tenant_name := valid.tenant_name
  livesIn_key := valid.livesIn_key
  livesIn_tenant := valid.livesIn_tenant
  livesIn_room := valid.livesIn_room
  unwilling_key := valid.unwilling_key
  unwilling_tenant := valid.unwilling_tenant
  chore_key := valid.chore_key
  chore_name := valid.chore_name
  reason_key := valid.reason_key
  reason_name := valid.reason_name
  tenantExemption_key := valid.tenantExemption_key
  tenantExemption_tenant := valid.tenantExemption_tenant
  tenantExemption_reason := valid.tenantExemption_reason
  choreExemption_key := valid.choreExemption_key
  choreExemption_chore := valid.choreExemption_chore
  choreExemption_reason := valid.choreExemption_reason
  choreLog_key := valid.choreLog_key
  choreLog_worker := valid.choreLog_worker
  choreLog_poll := valid.choreLog_poll
  rating_key := valid.rating_key
  rating_choreLog := valid.rating_choreLog

end Valid

end Tables

/-- A database file as SQLite keeps it: tables that satisfy every constraint of the schema. -/
structure Database where
  tables : Tables
  valid : tables.Valid

/-- The freshly migrated empty database. -/
def Database.empty : Database := ⟨Tables.empty, Tables.empty_valid⟩

/-! ### Errors -/

/-- A statement SQLite refused, by the constraint it would have broken. -/
inductive Violation where
  | notNull (column : String)
  | unique (column : String)
  | foreignKey
  deriving DecidableEq, Repr

/-- An `anyhow::Error` the program returns. -/
inductive Error where
  /-- `sqlx` reports a statement SQLite refused. -/
  | sql (violation : Violation)
  /-- `fetch_one` found no row. -/
  | rowNotFound
  /-- `bail!`, or an `Option` turned into an error by `context`, with its message. -/
  | bail (message : String)
  /-- `str::parse::<u32>` refused a string, with `ParseIntError`'s message. -/
  | parseInt (message : String)
  /-- The command line did not parse; `clap` also reports its help pages this way. -/
  | usage (message : String)
  /-- `WeightedIndex::new` refused the weights. -/
  | weights
  deriving DecidableEq, Repr

/-- How a method of `Db` can fail: an error returned with `?`, or a panic from an `unwrap` or
`assert_eq!`, after which the process is gone. -/
inductive Failure where
  | err (error : Error)
  | panic
  deriving DecidableEq, Repr

/-! ### The `Db` struct -/

/-- The fields of `Db` that are fixed by `Db::new`. -/
structure Config where
  fallbackWeek : Int
  weeksToPlan : Nat
  gamma : ℚ
  tryExcludeBusyTenants : Bool
  debug : Bool

/-- What `Db` relies on from outside `src/`. Rust's `char::to_uppercase` and
`str::to_lowercase` (the Unicode default case mappings); `rand`'s
`WeightedIndex::new(weights)?.sample(rng)`: an index drawn with probability proportional to its
weight, together with the advanced generator, or an error for weights it refuses; and `chrono`'s
ISO calendar on days counted from 1970-01-01: `NaiveDate::from_isoywd_opt(year, week, Mon)` and
`NaiveDate::iso_week` as its week number and year. -/
structure Env (R : Type) where
  config : Config
  toUppercase : Char → List Char
  toLowercase : String → String
  weightedIndex : List ℚ → R → Except Error (Nat × R)
  fromIsoywd : Int → Nat → Option Int
  isoWeek : Int → Nat × Int

/-- The state of a `Db`: the connection's database and the random number generator `rng`. -/
structure Db (R : Type) where
  con : Database
  rng : R

/-- A method of `Db`. -/
abbrev DbM (R : Type) := EStateM Failure (Db R)

namespace Db

variable {R : Type}

/-- The tables of the connection. -/
def tables (db : Db R) : Tables := db.con.tables

@[simp] theorem tables_mk (con : Database) (rng : R) : (Db.mk con rng).tables = con.tables := rfl

end Db

end ChorePlanner
