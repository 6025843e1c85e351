/-
**One stay at a time: over every run, a room has one tenant and a tenant one room.**

`get_rooms_tenant` and `get_tenants_room` bail when their query returns more than one row, and
`integrity_check` does not rule that out: it compares the stays of different tenants in one room
and of one tenant in different rooms, never two stays of one tenant in one room
(`twoStay_lookups_bail`). What rules it out is how `LivesIn` rows come to be. `move_in` inserts a
stay from the current week on, and only for a room and a tenant that no stay covers in that week;
`move_out` deletes a stay or ends it at the current week; nothing else writes `LivesIn`. So while
the week does not go back, no two stays of one room, or of one tenant, cover a common week.

* `Tables.OneAtATime key` — two `LivesIn` rows with the same `key` that cover a common week are
  the same row; `Tables.Residency` — that for rooms and for tenants, and no stay starting after
  the current week.
* `OneAtATime.length_roomsTenant_le_one`, `OneAtATime.length_tenantsRoom_le_one` — then the
  lookups' queries return at most one row in every week.
* `Database.insertLivesIn_residency`, `Database.deleteLivesIn_residency`,
  `Database.updateLivesInMoveOut_residency` — the three statements on `LivesIn`, the first for a
  room and a tenant the lookups found free.
* `runCli_keeps_residency` — every command line keeps the stays one at a time, whatever its
  outcome: `move_in` after its lookups (`moveIn_keeps_residency`), `move_out` by deleting or
  ending stays, and the other commands write no stay. `weeklyAction_keeps_residency` — so does
  the weekly action, on a day whose week is not before the current one.
* `runLoop_one_stay_at_a_time` — over every run of the main loop whose weeks do not go back, the
  lookups' queries return at most one row in every week.
-/

import ChorePlanner.Proofs.Upkeep

set_option linter.unusedSectionVars false

namespace ChorePlanner

open EStateM

/-! ### Stays that cover a common week -/

namespace Tables

/-- Two `LivesIn` rows with the same `key` that cover a common week are the same row. -/
def OneAtATime {α : Type} (key : LivesInRow → α) (rows : List LivesInRow) : Prop :=
  ∀ a ∈ rows, ∀ b ∈ rows, key a = key b → ∀ week,
    Sql.covers a.moveInWeek a.moveOutWeek week = true → Sql.covers b.moveInWeek b.moveOutWeek week = true →
      a = b

/-- **One stay at a time**: no stay starts after the current week, and in every week a room has
at most one stay and a tenant at most one. -/
structure Residency (t : Tables) (config : Config) : Prop where
  started : ∀ row ∈ t.livesIn, row.moveInWeek ≤ t.thisWeek config
  room_once : OneAtATime (·.roomName) t.livesIn
  tenant_once : OneAtATime (·.tenantId) t.livesIn

section OneAtATime

variable {α : Type} {key : LivesInRow → α} {rows rows' : List LivesInRow}

theorem OneAtATime.mono (once : OneAtATime key rows) (sub : rows' ⊆ rows) : OneAtATime key rows' :=
  fun a member_a b member_b => once a (sub member_a) b (sub member_b)

/-- A stay that the `UPDATE` of `move_out` may end at `week` covers after it only weeks it
covered before. -/
theorem covers_of_update_end {p : LivesInRow → Bool} {week v : Int} {row : LivesInRow}
    (covering : p row = true → Sql.covers row.moveInWeek row.moveOutWeek week = true)
    (image : Sql.covers (if p row then { row with moveOutWeek := some week } else row).moveInWeek
      (if p row then { row with moveOutWeek := some week } else row).moveOutWeek v = true) :
    Sql.covers row.moveInWeek row.moveOutWeek v = true := by
  by_cases chosen : p row = true
  · rw [if_pos chosen] at image
    exact Sql.covers_of_end (covering chosen) image
  · rwa [if_neg chosen] at image

/-- Ending stays that cover `week` at `week` keeps them one at a time: each only shrinks. -/
theorem OneAtATime.update_end (once : OneAtATime key rows) {p : LivesInRow → Bool} {week : Int}
    (keep : ∀ row (stop : Option Int), key { row with moveOutWeek := stop } = key row)
    (covering : ∀ row ∈ rows, p row = true → Sql.covers row.moveInWeek row.moveOutWeek week = true) :
    OneAtATime key (Sql.update rows p fun row => { row with moveOutWeek := some week }) := by
  have key_image : ∀ row, key (if p row then { row with moveOutWeek := some week } else row) = key row :=
    fun row => by
      split
      · exact keep row _
      · rfl
  intro a' member_a b' member_b same v covers_a covers_b
  obtain ⟨a, source_a, rfl⟩ := Sql.mem_update.mp member_a
  obtain ⟨b, source_b, rfl⟩ := Sql.mem_update.mp member_b
  have rows_eq : a = b := once a source_a b source_b (by rw [← key_image a, ← key_image b]; exact same) v
    (covers_of_update_end (covering a source_a) covers_a) (covers_of_update_end (covering b source_b) covers_b)
  rw [rows_eq]

/-- A stay from its first week on, of a key that no stay covers in that week, keeps the stays
one at a time when none of them starts later. -/
theorem OneAtATime.append_from (once : OneAtATime key rows) {new : LivesInRow}
    (open_ended : new.moveOutWeek = none) (started : ∀ row ∈ rows, row.moveInWeek ≤ new.moveInWeek)
    (free : ∀ row ∈ rows, key row = key new → Sql.covers row.moveInWeek row.moveOutWeek new.moveInWeek ≠ true) :
    OneAtATime key (rows ++ [new]) := by
  -- an old stay covering a week the new one covers also covers the new one's first week
  have apart : ∀ row ∈ rows, key row = key new → ∀ v, Sql.covers row.moveInWeek row.moveOutWeek v = true →
      Sql.covers new.moveInWeek new.moveOutWeek v = true → False := by
    intro row member same v old_covers new_covers
    rw [open_ended, Sql.covers_none, decide_eq_true_eq] at new_covers
    exact free row member same (Sql.covers_of_le (started row member) new_covers old_covers)
  intro a member_a b member_b same v covers_a covers_b
  rcases List.mem_append.mp member_a with old_a | new_a <;>
    rcases List.mem_append.mp member_b with old_b | new_b
  · exact once a old_a b old_b same v covers_a covers_b
  · rw [List.mem_singleton.mp new_b] at same covers_b
    exact (apart a old_a same v covers_a covers_b).elim
  · rw [List.mem_singleton.mp new_a] at same covers_a
    exact (apart b old_b same.symm v covers_b covers_a).elim
  · rw [List.mem_singleton.mp new_a, List.mem_singleton.mp new_b]

end OneAtATime

variable {t t' : Tables} {config : Config}

/-- Tables without a stay. -/
theorem Residency.of_unoccupied (unoccupied : t.livesIn = []) : t.Residency config where
  started _ member := absurd (unoccupied ▸ member) List.not_mem_nil
  room_once _ member := absurd (unoccupied ▸ member) List.not_mem_nil
  tenant_once _ member := absurd (unoccupied ▸ member) List.not_mem_nil

/-- The same stays, at a week not before. -/
theorem Residency.of_later (resident : t.Residency config) (rows : t'.livesIn = t.livesIn)
    (later : t.thisWeek config ≤ t'.thisWeek config) : t'.Residency config where
  started row member := le_trans (resident.started row (rows ▸ member)) later
  room_once := rows ▸ resident.room_once
  tenant_once := rows ▸ resident.tenant_once

/-- A stay from the current week on, for a room and a tenant no stay covers in it. -/
theorem Residency.insert (resident : t.Residency config) {id : Nat} {room : String}
    (vacant : ∀ row ∈ t.livesIn, row.roomName = room →
      Sql.covers row.moveInWeek row.moveOutWeek (t.thisWeek config) ≠ true)
    (homeless : ∀ row ∈ t.livesIn, row.tenantId = id →
      Sql.covers row.moveInWeek row.moveOutWeek (t.thisWeek config) ≠ true) :
    ({ t with livesIn := t.livesIn ++ [⟨id, room, t.thisWeek config, none⟩] } : Tables).Residency config where
  started row member := by
    rcases List.mem_append.mp member with old | new
    · exact resident.started row old
    · rw [List.mem_singleton.mp new]
      exact le_refl _
  room_once := resident.room_once.append_from rfl resident.started vacant
  tenant_once := resident.tenant_once.append_from rfl resident.started homeless

/-! ### What the lookups find -/

theorem livesIn_nodup (valid : t.Valid) : t.livesIn.Nodup := valid.livesIn_key.of_map _

/-- **In every week, `get_rooms_tenant`'s query returns at most one tenant** when a room has one
stay at a time. -/
theorem OneAtATime.length_roomsTenant_le_one (valid : t.Valid) (once : OneAtATime (·.roomName) t.livesIn)
    (week : Int) (room : String) : (t.roomsTenant week room).length ≤ 1 := by
  unfold roomsTenant
  refine Sql.length_flatMap_le_one ?_ fun _ _ => Sql.length_flatMap_le_one ?_ fun row _ => ?_
  · exact Sql.length_filter_le_one valid.room_key fun x _ y _ named_x named_y =>
      (beq_iff_eq.mp named_x).trans (beq_iff_eq.mp named_y).symm
  · refine Sql.length_filter_le_one (livesIn_nodup valid) fun a member_a b member_b chosen_a chosen_b => ?_
    simp only [Bool.and_eq_true, beq_iff_eq] at chosen_a chosen_b
    exact once a member_a b member_b (chosen_a.1.symm.trans chosen_b.1) week chosen_a.2 chosen_b.2
  · rw [List.length_map]
    exact Sql.length_filter_le_one (valid.tenant_key.of_map _) fun x member_x y member_y id_x id_y =>
      List.inj_on_of_nodup_map valid.tenant_key member_x member_y
        ((beq_iff_eq.mp id_x).trans (beq_iff_eq.mp id_y).symm)

/-- **In every week, `get_tenants_room`'s query returns at most one room** when a tenant has one
stay at a time. -/
theorem OneAtATime.length_tenantsRoom_le_one (valid : t.Valid) (once : OneAtATime (·.tenantId) t.livesIn)
    (week : Int) (name : String) : (t.tenantsRoom week name).length ≤ 1 := by
  unfold tenantsRoom
  refine Sql.length_flatMap_le_one ?_ fun tenant _ => Sql.length_flatMap_le_one ?_ fun row _ => ?_
  · exact Sql.length_filter_le_one (valid.tenant_key.of_map _) fun x member_x y member_y named_x named_y =>
      List.inj_on_of_nodup_map valid.tenant_name member_x member_y
        ((beq_iff_eq.mp named_x).trans (beq_iff_eq.mp named_y).symm)
  · refine Sql.length_filter_le_one (livesIn_nodup valid) fun a member_a b member_b chosen_a chosen_b => ?_
    simp only [Bool.and_eq_true, beq_iff_eq] at chosen_a chosen_b
    exact once a member_a b member_b (chosen_a.1.symm.trans chosen_b.1) week chosen_a.2 chosen_b.2
  · exact Sql.length_filter_le_one valid.room_key fun x _ y _ named_x named_y =>
      (beq_iff_eq.mp named_x).trans (beq_iff_eq.mp named_y).symm

/-- A room of the table whose query finds no tenant in a week has no stay covering it: every
stay names a tenant. -/
theorem roomsTenant_eq_nil (valid : t.Valid) {week : Int} {room : String} (vacant : t.roomsTenant week room = [])
    (exists_room : room ∈ t.room) :
    ∀ row ∈ t.livesIn, row.roomName = room → Sql.covers row.moveInWeek row.moveOutWeek week ≠ true := by
  intro row member named covering
  obtain ⟨tenant, listed, same⟩ := List.mem_map.mp (valid.livesIn_tenant row member)
  have found : tenant.name ∈ t.roomsTenant week room := by
    simp only [roomsTenant, List.mem_flatMap, List.mem_filter, List.mem_map, beq_iff_eq, Bool.and_eq_true]
    exact ⟨room, ⟨exists_room, rfl⟩, row, ⟨member, named.symm, covering⟩, tenant, ⟨listed, same⟩, rfl⟩
  rw [vacant] at found
  cases found

/-- A tenant whose query finds no room in a week has no stay covering it: every stay names a
room. -/
theorem tenantsRoom_eq_nil (valid : t.Valid) {week : Int} {name : String} (homeless : t.tenantsRoom week name = [])
    {tenant : TenantRow} (listed : tenant ∈ t.tenant) (named : tenant.name = name) :
    ∀ row ∈ t.livesIn, row.tenantId = tenant.id → Sql.covers row.moveInWeek row.moveOutWeek week ≠ true := by
  intro row member same covering
  have found : row.roomName ∈ t.tenantsRoom week name := by
    simp only [tenantsRoom, List.mem_flatMap, List.mem_filter, beq_iff_eq, Bool.and_eq_true]
    exact ⟨tenant, ⟨listed, named⟩, row, ⟨member, same.symm, covering⟩, valid.livesIn_room row member, rfl⟩
  rw [homeless] at found
  cases found

end Tables

/-! ### The statements on `LivesIn` -/

namespace Database

variable {con : Database} {result : Executed} {config : Config}

/-- The `INSERT` of `move_in`, at the current week, for a room and a tenant the lookups found
free. -/
theorem insertLivesIn_residency {tenant room : String}
    (ok : con.insertLivesIn tenant room (con.tables.thisWeek config) = .ok result)
    (resident : con.tables.Residency config)
    (vacant : con.tables.roomsTenant (con.tables.thisWeek config) room = [])
    (homeless : con.tables.tenantsRoom (con.tables.thisWeek config) tenant = []) :
    result.con.tables.Residency config := by
  dsimp only [insertLivesIn] at ok
  split at ok
  · cases ok
  · rename_i id found
    split at ok
    · cases ok
    · split at ok
      · rename_i exists_room
        cases ok
        obtain ⟨row, listed, named, rfl⟩ := tenantId_spec found
        exact resident.insert (Tables.roomsTenant_eq_nil con.valid vacant exists_room)
          (Tables.tenantsRoom_eq_nil con.valid homeless listed named)
      · cases ok

/-- The `DELETE` of `undo_move_in` only removes stays. -/
theorem deleteLivesIn_residency {tenant room : String} {week : Int}
    (ok : con.deleteLivesIn tenant room week = .ok result) (resident : con.tables.Residency config) :
    result.con.tables.Residency config := by
  dsimp only [deleteLivesIn] at ok
  cases ok
  exact ⟨fun row member => resident.started row (List.mem_of_mem_filter member),
    resident.room_once.mono fun _ => List.mem_of_mem_filter,
    resident.tenant_once.mono fun _ => List.mem_of_mem_filter⟩

/-- The `UPDATE` of `move_out` ends at `week` only stays that cover it. -/
theorem updateLivesInMoveOut_residency {week : Int} {tenant : String}
    (ok : con.updateLivesInMoveOut week tenant = .ok result) (resident : con.tables.Residency config) :
    result.con.tables.Residency config := by
  dsimp only [updateLivesInMoveOut] at ok
  cases ok
  have covering : ∀ row ∈ con.tables.livesIn,
      (some row.tenantId == con.tenantId tenant && Sql.covers row.moveInWeek row.moveOutWeek week) = true →
        Sql.covers row.moveInWeek row.moveOutWeek week = true :=
    fun _ _ chosen => (Bool.and_eq_true _ _ ▸ chosen).2
  refine ⟨fun row member => ?_, resident.room_once.update_end (fun _ _ => rfl) covering,
    resident.tenant_once.update_end (fun _ _ => rfl) covering⟩
  -- the first week of every stay stays as it was
  obtain ⟨old, source, rfl⟩ := Sql.mem_update.mp member
  split
  · exact resident.started old source
  · exact resident.started old source

end Database

/-! ### Every command line, whatever its outcome -/

section Methods

variable {R : Type} (env : Env R)

/-- The stays of `db` are one at a time. -/
def Resident (db : Db R) : Prop := db.tables.Residency env.config

/-- Keeping the stays one at a time in every outcome is closed under sequencing. -/
theorem resident_closed : Closed (Agree Db.tables) (Guards (Resident env) (fun _ : Failure => False)) :=
  Guards.closed fun db db' same held => by
    unfold Resident
    rw [show db'.tables = db.tables from same]
    exact held

theorem resident_of_same {db db' : Db R} (held : Resident env db) (rows : db'.tables.livesIn = db.tables.livesIn)
    (week : db'.tables.currentWeek = db.tables.currentWeek) : Resident env db' :=
  held.of_later rows (le_of_eq (Tables.thisWeek_congr week env.config).symm)

/-- What writes neither `LivesIn` nor the week keeps the stays. -/
theorem guards_resident_of_writes {α : Type} {writes : List Table} {x : DbM R α}
    (frame : Respects (WritesOnly writes) x) (livesIn : .livesIn ∉ writes) (keyValue : .keyValue ∉ writes) :
    Guards (Resident env) (fun _ : Failure => False) x :=
  Guards.of_respects (Respects.mono frame fun _ _ same held =>
    resident_of_same env held (same .livesIn livesIn) (same .keyValue keyValue))

/-- `get_rooms_tenant` found no tenant: nothing changed, and its query is empty. -/
theorem getRoomsTenant_none {db db' : Db R} {room : String} (ok : (getRoomsTenant env room).run db = .ok none db') :
    db' = db ∧ db.tables.roomsTenant (db.tables.thisWeek env.config) room = [] := by
  by_cases intact : Integrity env db.tables
  · simp only [getRoomsTenant, EStateM.run_bind, getWeekInternal_run env intact, EStateM.run_get,
      integrityCheck_run env intact] at ok
    split at ok
    · rename_i empty
      cases ok
      exact ⟨rfl, empty⟩
    · cases ok
    · cases ok
  · rw [getRoomsTenant, run_bind_of_error (getWeekInternal_run_of_not env intact)] at ok
    cases ok

theorem getTenantsRoom_none {db db' : Db R} {name : String} (ok : (getTenantsRoom env name).run db = .ok none db') :
    db' = db ∧ db.tables.tenantsRoom (db.tables.thisWeek env.config) name = [] := by
  by_cases intact : Integrity env db.tables
  · simp only [getTenantsRoom, EStateM.run_bind, getWeekInternal_run env intact, EStateM.run_get,
      integrityCheck_run env intact] at ok
    split at ok
    · rename_i empty
      cases ok
      exact ⟨rfl, empty⟩
    · cases ok
    · cases ok
  · rw [getTenantsRoom, run_bind_of_error (getWeekInternal_run_of_not env intact)] at ok
    cases ok

/-- `get_week_internal` returns the current week and changes nothing. -/
theorem getWeekInternal_ok {db db' : Db R} {week : Int} (ok : (getWeekInternal env).run db = .ok week db') :
    db' = db ∧ week = db.tables.thisWeek env.config := by
  rw [getWeekInternal_run env (intact_of_getWeekInternal_ok env ok)] at ok
  cases ok
  exact ⟨rfl, rfl⟩

/-- The `INSERT` of `move_in`, at the current week, for a room and a tenant the lookups found
free. -/
theorem execute_insertLivesIn_guarded {db : Db R} {tenant room : String} (held : Resident env db)
    (vacant : db.tables.roomsTenant (db.tables.thisWeek env.config) room = [])
    (homeless : db.tables.tenantsRoom (db.tables.thisWeek env.config) tenant = []) :
    ((execute (·.insertLivesIn tenant room (db.tables.thisWeek env.config))).run db).Guarded (Resident env)
      (fun _ : Failure => False) := by
  cases ran : db.con.insertLivesIn tenant room (db.tables.thisWeek env.config) with
  | ok result =>
    rw [execute_run_ok ran]
    exact .inl (Database.insertLivesIn_residency ran held vacant homeless)
  | error e =>
    rw [execute_run_error ran]
    exact .inl held

/-- **`move_in` keeps one stay at a time**, whatever its outcome: it inserts a stay only from the
current week on, after both lookups found the room and the tenant free in it. -/
theorem moveIn_keeps_residency (tenant : String) (tag : Option String) (room : String) :
    Guards (Resident env) (fun _ : Failure => False) (moveIn env tenant tag room) := by
  have closed := resident_closed env
  unfold moveIn
  dsimp only
  refine closed.bind_neutral (getTenantId_reads env _) fun _ => closed.ite ?_ ?_
  -- a known tenant may get a new chat tag, an unknown one is inserted
  split
  refine closed.bind (guards_resident_of_writes env (execute_writes (updateTenantChatTag_writes _ _))
    (by decide) (by decide)) fun _ => closed.bind_neutral (integrityCheck_reads env) fun _ =>
      closed.ite (closed.bind_neutral (bail_reads _) fun _ => ?_) ?_
  on_goal 4 =>
    refine closed.bind (guards_resident_of_writes env (execute_writes (insertTenant_writes _ _))
      (by decide) (by decide)) fun _ => closed.bind_neutral (integrityCheck_reads env) fun _ =>
        closed.ite (closed.bind_neutral (bail_reads _) fun _ => ?_) ?_
  -- the lookups, then the stay from this week on
  all_goals
    intro db held
    refine Result.guarded_bind (closed.of_neutral (getRoomsTenant_reads env room) db held)
      fun occupant db₁ looked held₁ => ?_
    cases occupant with
    | some _ => exact .inl held₁
    | none =>
      obtain ⟨looked_only, vacant⟩ := getRoomsTenant_none env looked
      subst db₁
      rw [if_neg (by simp)]
      refine Result.guarded_bind (closed.of_neutral (getTenantsRoom_reads env _) db held)
        fun home db₂ found held₂ => ?_
      cases home with
      | some _ => exact .inl held₂
      | none =>
        obtain ⟨found_only, homeless⟩ := getTenantsRoom_none env found
        subst db₂
        rw [if_neg (by simp)]
        refine Result.guarded_bind (closed.of_neutral (getWeekInternal_reads env) db held)
          fun week db₃ now _ => ?_
        obtain ⟨read_only, rfl⟩ := getWeekInternal_ok env now
        subst db₃
        refine Result.guarded_bind (execute_insertLivesIn_guarded env held vacant homeless)
          fun _ db₄ _ held₄ => ?_
        exact closed.bind_neutral (integrityCheck_reads env) (fun _ =>
          closed.bind_neutral (listTenants_reads env) fun _ =>
            closed.bind (guards_resident_of_writes env (updatePlan_writes env) (by decide) (by decide))
              fun _ => closed.of_neutral (.pure _)) db₄ held₄

theorem undoMoveIn_keeps_residency (tenant room : String) :
    Guards (Resident env) (fun _ : Failure => False) (undoMoveIn env tenant room) := by
  have closed := resident_closed env
  unfold undoMoveIn
  refine closed.bind_neutral (getWeekInternal_reads env) fun _ =>
    closed.bind (execute_guards fun _ _ ran held => Database.deleteLivesIn_residency ran held) fun _ =>
      closed.bind_neutral (integrityCheck_reads env) fun _ => ?_
  split
  · exact closed.of_neutral (.pure _)
  · exact closed.of_neutral (.pure _)
  · exact closed.of_neutral (bail_reads _)

/-- **`move_out` keeps one stay at a time**, whatever its outcome: it deletes a stay, or ends
stays at a week they cover. -/
theorem moveOut_keeps_residency (tenant : String) :
    Guards (Resident env) (fun _ : Failure => False) (moveOut env tenant) := by
  have closed := resident_closed env
  unfold moveOut
  refine closed.bind_neutral (getTenantsRoom_reads env _) fun _ => ?_
  split
  on_goal 1 => refine closed.bind_neutral (.pure _) fun _ => ?_
  on_goal 2 => refine closed.bind_neutral (bail_reads _) fun _ => ?_
  all_goals
    refine closed.bind (undoMoveIn_keeps_residency env _ _) fun _ =>
      closed.ite (closed.bind_neutral (getWeekInternal_reads env) fun _ =>
        closed.bind (execute_guards fun _ _ ran held => Database.updateLivesInMoveOut_residency ran held)
          fun _ => closed.bind_neutral (integrityCheck_reads env) fun _ =>
            closed.ite (closed.bind_neutral (bail_reads _) fun _ => ?_) ?_) ?_
  all_goals
    exact closed.bind_neutral (listTenants_reads env) fun _ =>
      closed.bind (guards_resident_of_writes env (updatePlan_writes env) (by decide) (by decide))
        fun _ => closed.of_neutral (.pure _)

/-- Only `move_in` and `move_out` write `LivesIn`. -/
theorem Cli.moves_of_livesIn {cli : Cli} (writes : .livesIn ∈ cli.writes) :
    (∃ name tag room, cli = ⟨some (.tenant (some (.moveIn name tag room)))⟩) ∨
      ∃ name, cli = ⟨some (.tenant (some (.moveOut name)))⟩ := by
  obtain ⟨command⟩ := cli
  unfold Cli.writes at writes
  split at writes <;> simp_all

/-- **Every command line keeps one stay at a time**, whatever its outcome. -/
theorem runCli_keeps_residency (cli : Cli) :
    Guards (Resident env) (fun _ : Failure => False) (runCli env cli) := by
  by_cases moves : .livesIn ∈ cli.writes
  · rcases Cli.moves_of_livesIn moves with ⟨name, tag, room, rfl⟩ | ⟨name, rfl⟩
    · exact moveIn_keeps_residency env name tag room
    · exact moveOut_keeps_residency env name
  · exact guards_resident_of_writes env (runCli_writes env cli) moves cli.writes_unrated.2

/-! ### The weekly action, and every run -/

/-- The stays are one at a time, and outside debug mode the week is not after `week`. -/
def ResidentBefore (week : Int) (db : Db R) : Prop :=
  Resident env db ∧ (env.config.debug = false → db.tables.thisWeek env.config ≤ week)

/-- `set_week` moves the week on to `week`, or to the next one in debug mode, and writes no
stay. -/
theorem setWeek_keeps_residency (week : Int) : Respects (Keeps (ResidentBefore env week)) (setWeek env week) := by
  intro db held
  by_cases intact : Integrity env db.tables
  · obtain ⟨_, db', week', ran, tables, later, set⟩ := setWeek_run_later env intact week held.2
    have now : db'.tables.thisWeek env.config = week' := by
      rw [tables]
      rfl
    rw [ran, Result.store_ok]
    refine ⟨held.1.of_later (by rw [tables]) (now ▸ later), fun release => ?_⟩
    rw [now, set release]
  · -- a broken state panics at the first query
    rw [setWeek, run_bind_of_error (getWeekInternal_run_of_not env intact)]
    exact held

/-- **The weekly action keeps one stay at a time**, whatever its outcome, on a day whose week is
not before the current one: it moves the week on and writes no stay. -/
theorem weeklyAction_keeps_residency {B : Type} (bot : PollableBot B) (today : Int) :
    Respects (OnDb (B := B) (Keeps (ResidentBefore env (Week.ofDate today)))) (weeklyAction env bot today) := by
  refine weeklyAction_respects env bot today (setWeek_keeps_residency env _) fun db db' frame held => ?_
  have week : db'.tables.currentWeek = db.tables.currentWeek := frame .keyValue (by decide)
  refine ⟨resident_of_same env held.1 (frame .livesIn (by decide)) week, fun release => ?_⟩
  rw [Tables.thisWeek_congr week env.config]
  exact held.2 release

/-- A chain of weeks that starts lower is still a chain. -/
theorem isChain_of_le {a b : Int} {weeks : List Int} (lower : b ≤ a) (chain : (a :: weeks).IsChain (· ≤ ·)) :
    (b :: weeks).IsChain (· ≤ ·) := by
  cases weeks with
  | nil => exact .singleton b
  | cons c weeks =>
    rw [List.isChain_cons_cons] at chain ⊢
    exact ⟨le_trans lower chain.1, chain.2⟩

/-- One call keeps one stay at a time, whatever its outcome, and outside debug mode leaves the
week not after the weekly action's, or where it was. -/
theorem handle_keeps_residency {B : Type} (bot : PollableBot B) (call : Call) {s : Db R × B}
    (held : Resident env s.1)
    (later : env.config.debug = false → ∀ week ∈ call.week?, s.1.tables.thisWeek env.config ≤ week) :
    Resident env ((handle env bot call).run s).store.1 ∧
      (env.config.debug = false → ((handle env bot call).run s).store.1.tables.thisWeek env.config ≤
        (call.week?).getD (s.1.tables.thisWeek env.config)) := by
  obtain ⟨db, b⟩ := s
  cases call with
  | command cli =>
    -- the bot only hears of the result, and the tables are where the command left them
    have store : ((handle env bot (.command cli)).run (db, b)).store = (((runCli env cli).run db).store, b) :=
      (report_store _ _).trans (liftDb_store _ _ _)
    have week := runCli_writes env cli db .keyValue cli.writes_unrated.2
    rw [store]
    exact ⟨(runCli_keeps_residency env cli).run_store held,
      fun _ => le_of_eq (Tables.thisWeek_congr week env.config)⟩
  | weekly today => exact weeklyAction_keeps_residency env bot today (db, b) ⟨held, fun release => later release _ rfl⟩

/-- **Every run of calls keeps one stay at a time**: chat commands of any kind and outcome, and
weekly actions whose weeks do not go back (any weeks in debug mode). The run ends after its last
call or at the first panic. -/
theorem handleAll_keeps_residency {B : Type} (bot : PollableBot B) :
    ∀ (calls : List Call) {s : Db R × B}, Resident env s.1 →
      (env.config.debug = false → (s.1.tables.thisWeek env.config :: calls.filterMap Call.week?).IsChain (· ≤ ·)) →
      Resident env ((calls.forM (handle env bot)).run s).store.1
  | [], _, held, _ => held
  | call :: calls, s, held, increasing => by
    obtain ⟨held', week'⟩ := handle_keeps_residency env bot call held fun release =>
      le_of_isChain (increasing release)
    change Resident env ((handle env bot call >>= fun _ => calls.forM (handle env bot)).run s).store.1
    cases ran : (handle env bot call).run s with
    | ok _ s₁ =>
      rw [ran, Result.store_ok] at held' week'
      rw [run_bind_of_ok ran]
      -- the rest of the run starts at a week not after the call's
      exact handleAll_keeps_residency bot calls held' fun release =>
        isChain_of_le (week' release) (isChain_after (increasing release))
    | error e s₁ =>
      rw [ran, Result.store_error] at held'
      rw [run_bind_of_error ran]
      exact held'

/-- **Over every run of the main loop, a room has at most one tenant and a tenant at most one
room in every week**: whatever the messages say and whether they parse, from tables with one stay
at a time, when the weeks of the SIGHUPs do not go back (any weeks in debug mode). The queries of
`get_rooms_tenant` and `get_tenants_room` return at most one row in the state the run ends in,
so neither lookup can bail with "more than one row" there. -/
theorem runLoop_one_stay_at_a_time {B : Type} (bot : PollableBot B) (parse : String → Except Error Cli)
    (events : List Event) {s : Db R × B} (resident : s.1.tables.Residency env.config)
    (increasing : env.config.debug = false →
      (s.1.tables.thisWeek env.config :: (callsOf parse events).filterMap Call.week?).IsChain (· ≤ ·)) :
    let db := ((runLoop env bot parse events).run s).store.1
    ∀ week, (∀ room, (db.tables.roomsTenant week room).length ≤ 1) ∧
      ∀ name, (db.tables.tenantsRoom week name).length ≤ 1 := by
  intro db week
  have held : Resident env db := by
    show Resident env ((runLoop env bot parse events).run s).store.1
    rw [runLoop_eq]
    exact handleAll_keeps_residency env bot _ resident increasing
  exact ⟨held.room_once.length_roomsTenant_le_one db.con.valid week,
    held.tenant_once.length_tenantsRoom_le_one db.con.valid week⟩

end Methods

/-- A parser that reads `tenant create-room R` as such, and every other message as
`tenant move-in Anna R`. -/
def parseRoomThenAnna (msg : String) : Except Error Cli :=
  if msg = "tenant create-room R" then .ok ⟨some (.tenant (some (.createRoom "R")))⟩
  else .ok ⟨some (.tenant (some (.moveIn "Anna" none "R")))⟩

/-- A run from the empty database: room R, Anna moving in, a SIGHUP on day 7, and Anna moving in
again. -/
theorem runLoop_one_stay_at_a_time_sample :
    let s : Db Unit × PollBox := (⟨Database.empty, ()⟩, ⟨[], []⟩)
    let db := ((runLoop (asciiEnv sampleConfig) boxBot parseRoomThenAnna
      [.message (some "tenant create-room R"), .message (some "tenant move-in Anna R"), .sighup 7,
        .message (some "tenant move-in Anna R")]).run s).store.1
    ∀ week, (∀ room, (db.tables.roomsTenant week room).length ≤ 1) ∧
      ∀ name, (db.tables.tenantsRoom week name).length ≤ 1 :=
  runLoop_one_stay_at_a_time (asciiEnv sampleConfig) boxBot parseRoomThenAnna _
    (Tables.Residency.of_unoccupied rfl) fun _ => by decide

end ChorePlanner
