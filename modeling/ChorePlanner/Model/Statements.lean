/-
**The SQL statements the program executes, as SQLite executes them.**

Each `INSERT`, `UPDATE`, `DELETE` and `REPLACE` of `src/db/` is a function of the database, with
the subqueries it binds (`(SELECT Tenant.id FROM Tenant WHERE Tenant.name = ?1)` is
`Database.tenantId`). A statement either is refused, with the constraint it would break and the
database untouched (SQLite's statement-level atomicity), or runs and reports `rows_affected()` and
`last_insert_rowid()`. SQLite checks `NOT NULL` first, then the unique indexes, then, at the end of
the statement, the foreign keys; a refused statement reports the first of these it breaks.

Every statement returns a `Database`, so each carries its own proof that the schema still holds,
built from the one-table lemmas `Tables.Valid.withRoom` to `Tables.Valid.withCurrentWeek` and the
key laws of `Lib.Sql`.
-/

import ChorePlanner.Lib.Sql
import ChorePlanner.Model.Schema

namespace ChorePlanner

/-- What `execute` reports: the database after the statement, `rows_affected()`, and the rowid of
the row it inserted (`0` for a statement that inserts none). -/
structure Executed where
  con : Database
  rowsAffected : Nat
  lastInsertRowid : Nat

namespace Database

variable (db : Database)

/-! ### Subqueries -/

/-- `(SELECT Tenant.id FROM Tenant WHERE Tenant.name = ?)`, `NULL` when there is no such tenant. -/
def tenantId (name : String) : Option Nat :=
  (db.tables.tenant.find? (·.name == name)).map (·.id)

/-- `(SELECT Chore.id FROM Chore WHERE Chore.name = ?)`. -/
def choreId (name : String) : Option Nat :=
  (db.tables.chore.find? (·.name == name)).map (·.id)

/-- `(SELECT ExemptionReason.id FROM ExemptionReason WHERE ExemptionReason.reason = ?)`. -/
def reasonId (reason : String) : Option Nat :=
  (db.tables.exemptionReason.find? (·.reason == reason)).map (·.id)

/-- The `ChoreLog` `WHERE ChoreLog.rating_poll_id = ?`, of which the subqueries of
`stop_rating_polls` read the `chore_id` and the `week`. -/
def choreLogOfPoll (pollId : Int) : Option ChoreLogRow :=
  db.tables.choreLog.find? (·.ratingPollId == some pollId)

variable {db}

theorem tenantId_spec {name : String} {id : Nat} (found : db.tenantId name = some id) :
    ∃ row ∈ db.tables.tenant, row.name = name ∧ row.id = id := by
  unfold tenantId at found
  obtain ⟨row, first, rfl⟩ := Option.map_eq_some_iff.mp found
  exact ⟨row, List.mem_of_find?_eq_some first, by simpa using List.find?_some first, rfl⟩

theorem tenantId_mem {name : String} {id : Nat} (found : db.tenantId name = some id) :
    id ∈ db.tables.tenant.map (·.id) := by
  obtain ⟨row, member, _, rfl⟩ := tenantId_spec found
  exact List.mem_map_of_mem member

theorem choreId_spec {name : String} {id : Nat} (found : db.choreId name = some id) :
    ∃ row ∈ db.tables.chore, row.name = name ∧ row.id = id := by
  unfold choreId at found
  obtain ⟨row, first, rfl⟩ := Option.map_eq_some_iff.mp found
  exact ⟨row, List.mem_of_find?_eq_some first, by simpa using List.find?_some first, rfl⟩

theorem choreId_mem {name : String} {id : Nat} (found : db.choreId name = some id) :
    id ∈ db.tables.chore.map (·.id) := by
  obtain ⟨row, member, _, rfl⟩ := choreId_spec found
  exact List.mem_map_of_mem member

theorem reasonId_mem {reason : String} {id : Nat} (found : db.reasonId reason = some id) :
    id ∈ db.tables.exemptionReason.map (·.id) := by
  unfold reasonId at found
  obtain ⟨row, first, rfl⟩ := Option.map_eq_some_iff.mp found
  exact List.mem_map_of_mem (List.mem_of_find?_eq_some first)

theorem choreLogOfPoll_mem {pollId : Int} {row : ChoreLogRow}
    (found : db.choreLogOfPoll pollId = some row) :
    row ∈ db.tables.choreLog ∧ row.ratingPollId = some pollId := by
  unfold choreLogOfPoll at found
  exact ⟨List.mem_of_find?_eq_some found, by simpa using List.find?_some found⟩

/-- Appending a row keeps every membership in a column. -/
theorem mem_map_append {α β : Type} {f : α → β} {xs : List α} {a : α} {b : β}
    (member : b ∈ xs.map f) : b ∈ (xs ++ [a]).map f := by
  rw [List.map_append]
  exact List.mem_append_left _ member

theorem forall_mem_append_singleton {α : Type} {P : α → Prop} {xs : List α} {a : α}
    (old : ∀ x ∈ xs, P x) (new : P a) : ∀ x ∈ xs ++ [a], P x := by
  intro x member
  rcases List.mem_append.mp member with member | member
  · exact old x member
  · rw [List.mem_singleton.mp member]
    exact new

variable (db)

/-! ### `Room`, `Tenant`, `LivesIn`, `Unwilling` -/

/-- `INSERT INTO Room VALUES (?1)`. -/
def insertRoom (name : String) : Except Error Executed :=
  if taken : name ∈ db.tables.room then .error (.sql (.unique "Room.name"))
  else
    .ok ⟨⟨{ db.tables with room := db.tables.room ++ [name] },
      db.valid.withRoom _ (db.valid.room_key.append (List.nodup_singleton _)
          (List.disjoint_singleton.mpr taken))
        fun row member => List.mem_append_left _ (db.valid.livesIn_room row member)⟩, 1, 0⟩

/-- `INSERT INTO Tenant VALUES (NULL, ?1, ?2)`: the new tenant gets the next rowid. -/
def insertTenant (name : String) (chatTag : Option String) : Except Error Executed :=
  if taken : name ∈ db.tables.tenant.map (·.name) then .error (.sql (.unique "Tenant.name"))
  else
    let id := Sql.nextRowid (db.tables.tenant.map (·.id))
    .ok ⟨⟨{ db.tables with tenant := db.tables.tenant ++ [⟨id, name, chatTag⟩] },
      db.valid.withTenant _ (Sql.nodup_map_append db.valid.tenant_key (Sql.nextRowid_not_mem _))
        (Sql.nodup_map_append db.valid.tenant_name taken) fun _ member => mem_map_append member⟩,
      1, id⟩

/-- `UPDATE Tenant SET chat_tag = ?1 WHERE Tenant.name = ?2`. -/
def updateTenantChatTag (chatTag : String) (name : String) : Except Error Executed :=
  let rows := Sql.update db.tables.tenant (·.name == name) fun row => { row with chatTag := chatTag }
  have ids : rows.map (·.id) = db.tables.tenant.map (·.id) := Sql.map_update fun _ => rfl
  have names : rows.map (·.name) = db.tables.tenant.map (·.name) := Sql.map_update fun _ => rfl
  .ok ⟨⟨{ db.tables with tenant := rows },
    db.valid.withTenant rows (ids ▸ db.valid.tenant_key) (names ▸ db.valid.tenant_name)
      fun _ member => ids ▸ member⟩,
    db.tables.tenant.countP (·.name == name), 0⟩

/-- `INSERT INTO LivesIn VALUES ((SELECT Tenant.id ... = ?1), ?2, ?3, NULL)`. -/
def insertLivesIn (tenant : String) (room : String) (week : Int) : Except Error Executed :=
  match found : db.tenantId tenant with
  | none => .error (.sql (.notNull "LivesIn.tenant_id"))
  | some id =>
    if taken : (room, week) ∈ db.tables.livesIn.map fun row => (row.roomName, row.moveInWeek) then
      .error (.sql (.unique "LivesIn.room_name, LivesIn.move_in_week"))
    else if exists_room : room ∈ db.tables.room then
      .ok ⟨⟨{ db.tables with livesIn := db.tables.livesIn ++ [⟨id, room, week, none⟩] },
        db.valid.withLivesIn _ (Sql.nodup_map_append db.valid.livesIn_key taken)
          (forall_mem_append_singleton db.valid.livesIn_tenant (tenantId_mem found))
          (forall_mem_append_singleton db.valid.livesIn_room exists_room)⟩, 1, 0⟩
    else .error (.sql .foreignKey)

/-- `DELETE FROM LivesIn WHERE tenant_id = (SELECT ... = ?1) AND room_name = ?2 AND
move_in_week = ?3`. -/
def deleteLivesIn (tenant : String) (room : String) (week : Int) : Except Error Executed :=
  let gone : LivesInRow → Bool := fun row =>
    some row.tenantId == db.tenantId tenant && row.roomName == room && row.moveInWeek == week
  .ok ⟨⟨{ db.tables with livesIn := db.tables.livesIn.filter fun row => !gone row },
    db.valid.withLivesIn _ (Sql.nodup_map_filter _ db.valid.livesIn_key)
      (fun row member => db.valid.livesIn_tenant row (List.mem_of_mem_filter member))
      fun row member => db.valid.livesIn_room row (List.mem_of_mem_filter member)⟩,
    db.tables.livesIn.countP gone, 0⟩

/-- `UPDATE LivesIn SET move_out_week = ?1 WHERE tenant_id = (SELECT ... = ?2) AND
move_in_week <= ?1 AND (move_out_week IS NULL OR move_out_week > ?1)`. -/
def updateLivesInMoveOut (week : Int) (tenant : String) : Except Error Executed :=
  let chosen : LivesInRow → Bool := fun row =>
    some row.tenantId == db.tenantId tenant && Sql.covers row.moveInWeek row.moveOutWeek week
  let rows := Sql.update db.tables.livesIn chosen fun row => { row with moveOutWeek := some week }
  .ok ⟨⟨{ db.tables with livesIn := rows },
    db.valid.withLivesIn rows
      ((Sql.map_update fun _ => rfl : rows.map (fun row => (row.roomName, row.moveInWeek)) = _) ▸
        db.valid.livesIn_key)
      (fun row member => by
        obtain ⟨old, source, rfl⟩ := Sql.mem_update.mp member
        split <;> exact db.valid.livesIn_tenant old source)
      fun row member => by
        obtain ⟨old, source, rfl⟩ := Sql.mem_update.mp member
        split <;> exact db.valid.livesIn_room old source⟩,
    db.tables.livesIn.countP chosen, 0⟩

/-- `REPLACE INTO Unwilling VALUES ((SELECT Tenant.id ... = ?1), ?2)`: a row with the same key
is deleted and the new row inserted. -/
def replaceUnwilling (tenant : String) (week : Int) : Except Error Executed :=
  match found : db.tenantId tenant with
  | none => .error (.sql (.notNull "Unwilling.tenant_id"))
  | some id =>
    let kept := db.tables.unwilling.filter fun row => !(row.tenantId == id && row.week == week)
    .ok ⟨⟨{ db.tables with unwilling := kept ++ [⟨id, week⟩] },
      db.valid.withUnwilling _ (Sql.nodup_map_append (Sql.nodup_map_filter _ db.valid.unwilling_key)
          (by
            intro member
            obtain ⟨row, member, same⟩ := List.mem_map.mp member
            have gone := (List.mem_filter.mp member).2
            simp only [Prod.mk.injEq] at same
            simp [same.1, same.2] at gone))
        (forall_mem_append_singleton
          (fun row member => db.valid.unwilling_tenant row (List.mem_of_mem_filter member))
          (tenantId_mem found))⟩, 1, 0⟩

/-! ### `Chore`, `ExemptionReason`, `TenantExemption`, `ChoreExemption` -/

/-- `INSERT INTO Chore VALUES (NULL, ?1, ?2, 1)`. -/
def insertChore (name : String) (description : String) : Except Error Executed :=
  if taken : name ∈ db.tables.chore.map (·.name) then .error (.sql (.unique "Chore.name"))
  else
    let id := Sql.nextRowid (db.tables.chore.map (·.id))
    .ok ⟨⟨{ db.tables with chore := db.tables.chore ++ [⟨id, name, description, true⟩] },
      db.valid.withChore _ (Sql.nodup_map_append db.valid.chore_key (Sql.nextRowid_not_mem _))
        (Sql.nodup_map_append db.valid.chore_name taken) fun _ member => mem_map_append member⟩,
      1, id⟩

/-- `UPDATE Chore SET active = ?1 WHERE Chore.name = ?2`. -/
def updateChoreActive (active : Bool) (name : String) : Except Error Executed :=
  let rows := Sql.update db.tables.chore (·.name == name) fun row => { row with active := active }
  have ids : rows.map (·.id) = db.tables.chore.map (·.id) := Sql.map_update fun _ => rfl
  have names : rows.map (·.name) = db.tables.chore.map (·.name) := Sql.map_update fun _ => rfl
  .ok ⟨⟨{ db.tables with chore := rows },
    db.valid.withChore rows (ids ▸ db.valid.chore_key) (names ▸ db.valid.chore_name)
      fun _ member => ids ▸ member⟩,
    db.tables.chore.countP (·.name == name), 0⟩

/-- `INSERT INTO ExemptionReason VALUES (NULL, ?1)`. -/
def insertExemptionReason (reason : String) : Except Error Executed :=
  if taken : reason ∈ db.tables.exemptionReason.map (·.reason) then
    .error (.sql (.unique "ExemptionReason.reason"))
  else
    let id := Sql.nextRowid (db.tables.exemptionReason.map (·.id))
    .ok ⟨⟨{ db.tables with exemptionReason := db.tables.exemptionReason ++ [⟨id, reason⟩] },
      db.valid.withExemptionReason _
        (Sql.nodup_map_append db.valid.reason_key (Sql.nextRowid_not_mem _))
        (Sql.nodup_map_append db.valid.reason_name taken) fun _ member => mem_map_append member⟩,
      1, id⟩

/-- `INSERT INTO ChoreExemption VALUES (?1, ?2)` with the chore and the reason as the statement's
subqueries (or the bound rowid) produced them. -/
def insertChoreExemption (chore : Option Nat) (reason : Option Nat) : Except Error Executed :=
  match chore, reason with
  | none, _ => .error (.sql (.notNull "ChoreExemption.chore_id"))
  | some _, none => .error (.sql (.notNull "ChoreExemption.exemption_reason_id"))
  | some choreId, some reasonId =>
    if taken : (choreId, reasonId) ∈
        db.tables.choreExemption.map fun row => (row.choreId, row.exemptionReasonId) then
      .error (.sql (.unique "ChoreExemption.chore_id, ChoreExemption.exemption_reason_id"))
    else if parents : choreId ∈ db.tables.chore.map (·.id) ∧
        reasonId ∈ db.tables.exemptionReason.map (·.id) then
      .ok ⟨⟨{ db.tables with choreExemption := db.tables.choreExemption ++ [⟨choreId, reasonId⟩] },
        db.valid.withChoreExemption _ (Sql.nodup_map_append db.valid.choreExemption_key taken)
          (forall_mem_append_singleton db.valid.choreExemption_chore parents.1)
          (forall_mem_append_singleton db.valid.choreExemption_reason parents.2)⟩, 1, 0⟩
    else .error (.sql .foreignKey)

/-- `DELETE FROM ChoreExemption WHERE exemption_reason_id = (SELECT ... = ?1)`. -/
def deleteChoreExemption (reason : String) : Except Error Executed :=
  let gone : ChoreExemptionRow → Bool := fun row => some row.exemptionReasonId == db.reasonId reason
  .ok ⟨⟨{ db.tables with choreExemption := db.tables.choreExemption.filter fun row => !gone row },
    db.valid.withChoreExemption _ (Sql.nodup_map_filter _ db.valid.choreExemption_key)
      (fun row member => db.valid.choreExemption_chore row (List.mem_of_mem_filter member))
      fun row member => db.valid.choreExemption_reason row (List.mem_of_mem_filter member)⟩,
    db.tables.choreExemption.countP gone, 0⟩

/-- `INSERT INTO TenantExemption VALUES ((SELECT Tenant.id ... = ?1), (SELECT ExemptionReason.id
... = ?2), ?3, NULL)`. -/
def insertTenantExemption (tenant : String) (reason : String) (week : Int) :
    Except Error Executed :=
  match foundTenant : db.tenantId tenant, foundReason : db.reasonId reason with
  | none, _ => .error (.sql (.notNull "TenantExemption.tenant_id"))
  | some _, none => .error (.sql (.notNull "TenantExemption.exemption_reason_id"))
  | some tenantId, some reasonId =>
    if taken : (tenantId, reasonId, week) ∈ db.tables.tenantExemption.map
        fun row => (row.tenantId, row.exemptionReasonId, row.startWeek) then
      .error (.sql (.unique
        "TenantExemption.tenant_id, TenantExemption.exemption_reason_id, TenantExemption.start_week"))
    else
      .ok ⟨⟨{ db.tables with
          tenantExemption := db.tables.tenantExemption ++ [⟨tenantId, reasonId, week, none⟩] },
        db.valid.withTenantExemption _ (Sql.nodup_map_append db.valid.tenantExemption_key taken)
          (forall_mem_append_singleton db.valid.tenantExemption_tenant (tenantId_mem foundTenant))
          (forall_mem_append_singleton db.valid.tenantExemption_reason
            (reasonId_mem foundReason))⟩, 1, 0⟩

/-- `UPDATE TenantExemption SET end_week = ?1 WHERE tenant_id = (SELECT ... = ?2) AND
exemption_reason_id = (SELECT ... = ?3) AND start_week <= ?1 AND (end_week IS NULL OR
end_week > ?1)`. -/
def updateTenantExemptionEnd (week : Int) (tenant : String) (reason : String) :
    Except Error Executed :=
  let chosen : TenantExemptionRow → Bool := fun row =>
    some row.tenantId == db.tenantId tenant && some row.exemptionReasonId == db.reasonId reason &&
      Sql.covers row.startWeek row.endWeek week
  let rows := Sql.update db.tables.tenantExemption chosen fun row => { row with endWeek := week }
  .ok ⟨⟨{ db.tables with tenantExemption := rows },
    db.valid.withTenantExemption rows
      ((Sql.map_update fun _ => rfl : rows.map
          (fun row => (row.tenantId, row.exemptionReasonId, row.startWeek)) = _) ▸
        db.valid.tenantExemption_key)
      (fun row member => by
        obtain ⟨old, source, rfl⟩ := Sql.mem_update.mp member
        split <;> exact db.valid.tenantExemption_tenant old source)
      fun row member => by
        obtain ⟨old, source, rfl⟩ := Sql.mem_update.mp member
        split <;> exact db.valid.tenantExemption_reason old source⟩,
    db.tables.tenantExemption.countP chosen, 0⟩

/-! ### `ChoreLog`, `Rating`, `KeyValue` -/

/-- `DELETE FROM ChoreLog WHERE chore_id = (SELECT Chore.id ... = ?1) AND week = ?2`. A deleted
`ChoreLog` that a `Rating` still refers to breaks that foreign key. -/
def deleteChoreLog (chore : String) (week : Int) : Except Error Executed :=
  let gone : ChoreLogRow → Bool := fun row => some row.choreId == db.choreId chore && row.week == week
  let kept := db.tables.choreLog.filter fun row => !gone row
  if referenced : ∀ row ∈ db.tables.rating, row.choreLog ∈ kept.map (·.key) then
    .ok ⟨⟨{ db.tables with choreLog := kept },
      db.valid.withChoreLog kept (Sql.nodup_map_filter _ db.valid.choreLog_key)
        (fun row member => db.valid.choreLog_worker row (List.mem_of_mem_filter member))
        (((List.filter_sublist : kept.Sublist db.tables.choreLog).filterMap _).nodup
          db.valid.choreLog_poll) referenced⟩,
      db.tables.choreLog.countP gone, 0⟩
  else .error (.sql .foreignKey)

/-- `INSERT INTO ChoreLog VALUES ((SELECT Chore.id ... = ?1), ?2, (SELECT Tenant.id ... = ?3), 0,
NULL)`. `ChoreLog.chore_id` has no foreign key. -/
def insertChoreLog (chore : String) (week : Int) (tenant : String) : Except Error Executed :=
  match db.choreId chore, foundTenant : db.tenantId tenant with
  | none, _ => .error (.sql (.notNull "ChoreLog.chore_id"))
  | some _, none => .error (.sql (.notNull "ChoreLog.worker"))
  | some choreId, some worker =>
    if taken : (choreId, week) ∈ db.tables.choreLog.map (·.key) then
      .error (.sql (.unique "ChoreLog.chore_id, ChoreLog.week"))
    else
      .ok ⟨⟨{ db.tables with
          choreLog := db.tables.choreLog ++ [⟨choreId, week, worker, false, none⟩] },
        db.valid.withChoreLog _ (Sql.nodup_map_append db.valid.choreLog_key taken)
          (forall_mem_append_singleton db.valid.choreLog_worker (tenantId_mem foundTenant))
          (by rw [List.filterMap_append]; simpa using db.valid.choreLog_poll)
          fun _ member => mem_map_append (db.valid.rating_choreLog _ member)⟩, 1, 0⟩

/-- `UPDATE ChoreLog SET rating_poll_id = ?1 WHERE week = ?2 AND chore_id = (SELECT Chore.id ...
= ?3)`. -/
def updateChoreLogPoll (pollId : Int) (week : Int) (chore : String) : Except Error Executed :=
  let chosen : ChoreLogRow → Bool := fun row => row.week == week && some row.choreId == db.choreId chore
  let rows := Sql.update db.tables.choreLog chosen fun row => { row with ratingPollId := pollId }
  have keys : rows.map (·.key) = db.tables.choreLog.map (·.key) := Sql.map_update fun _ => rfl
  if unique : (rows.filterMap (·.ratingPollId)).Nodup then
    .ok ⟨⟨{ db.tables with choreLog := rows },
      db.valid.withChoreLog rows (keys ▸ db.valid.choreLog_key)
        (fun row member => by
          obtain ⟨old, source, rfl⟩ := Sql.mem_update.mp member
          split <;> exact db.valid.choreLog_worker old source)
        unique fun _ member => keys ▸ db.valid.rating_choreLog _ member⟩,
      db.tables.choreLog.countP chosen, 0⟩
  else .error (.sql (.unique "ChoreLog.rating_poll_id"))

/-- `UPDATE ChoreLog SET completed = 1 WHERE ChoreLog.rating_poll_id = ?1`. -/
def updateChoreLogCompleted (pollId : Int) : Except Error Executed :=
  let chosen : ChoreLogRow → Bool := fun row => row.ratingPollId == some pollId
  let rows := Sql.update db.tables.choreLog chosen fun row => { row with completed := true }
  have keys : rows.map (·.key) = db.tables.choreLog.map (·.key) := Sql.map_update fun _ => rfl
  have polls : rows.map (·.ratingPollId) = db.tables.choreLog.map (·.ratingPollId) :=
    Sql.map_update fun _ => rfl
  .ok ⟨⟨{ db.tables with choreLog := rows },
    db.valid.withChoreLog rows (keys ▸ db.valid.choreLog_key)
      (fun row member => by
        obtain ⟨old, source, rfl⟩ := Sql.mem_update.mp member
        split <;> exact db.valid.choreLog_worker old source)
      (by
        have same : rows.filterMap (·.ratingPollId) =
            db.tables.choreLog.filterMap (·.ratingPollId) := by
          have viaMap := congrArg (List.filterMap id) polls
          simpa [List.filterMap_map] using viaMap
        rw [same]
        exact db.valid.choreLog_poll)
      fun _ member => keys ▸ db.valid.rating_choreLog _ member⟩,
    db.tables.choreLog.countP chosen, 0⟩

/-- `INSERT INTO Rating VALUES (NULL, (SELECT ChoreLog.chore_id ... = ?1), (SELECT ChoreLog.week
... = ?1), ?2)`. -/
def insertRating (pollId : Int) (rating : Nat) : Except Error Executed :=
  match found : db.choreLogOfPoll pollId with
  | none => .error (.sql (.notNull "Rating.for_chore_log_chore_id"))
  | some choreLog =>
    let id := Sql.nextRowid (db.tables.rating.map (·.id))
    .ok ⟨⟨{ db.tables with
        rating := db.tables.rating ++ [⟨id, choreLog.choreId, choreLog.week, rating⟩] },
      db.valid.withRating _ (Sql.nodup_map_append db.valid.rating_key (Sql.nextRowid_not_mem _))
        (forall_mem_append_singleton db.valid.rating_choreLog
          (List.mem_map_of_mem (choreLogOfPoll_mem found).1))⟩, 1, id⟩

/-- `REPLACE INTO KeyValue VALUES ('current_week', ?2)`. -/
def replaceCurrentWeek (week : Int) : Except Error Executed :=
  .ok ⟨⟨{ db.tables with currentWeek := some week }, db.valid.withCurrentWeek _⟩, 1, 0⟩

end Database

end ChorePlanner
