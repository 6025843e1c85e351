/-
**What `update_plan` does.**

`update_plan` runs three loops: `clean_plan` deletes the future `ChoreLog`s whose worker is no
longer available, `get_weeks_to_plan` lists the empty slots of the planning window, and
`plan_week` fills each slot it can with a drawn tenant. On tables that pass `integrity_check`,
when the update returns `Ok`:

* `Tables.Doomed`, `Tables.cleanedLogs` — the `ChoreLog`s `clean_plan` deletes, and those it
  keeps; `cleanPlan_ok` is its effect, from the loop invariant over `future_chore_logs`.
* `Tables.Planted`, `Planned` — what `plan_week` may insert for one slot, and for the slots in
  turn: the abstract planner, free in the drawn tenant; `planWeek_ok` and `planSlots_ok` show the
  code plans that way.
* `updatePlan_effect` — **the effect of `update_plan`**: only `ChoreLog` changes, its past rows
  stay, the doomed rows go, the inserted rows are `Planned`, and afterwards the plan covers the
  window (`Tables.PlanCovers`).
* `updatePlan_keeps_unknown_chore_log` — a `ChoreLog` whose `chore_id` names no `Chore` is never
  deleted: the query of `future_chore_logs` joins `Chore`, and `ChoreLog.chore_id` has no foreign
  key.
-/

import ChorePlanner.Proofs.Frame

set_option linter.unusedSectionVars false

namespace ChorePlanner

namespace Tables

variable (t : Tables) (config : Config)

/-- A `ChoreLog` that `clean_plan` deletes: from the current week on, of a chore and a worker
that exist, and whose worker's name is not among the tenants available for the chore that week. -/
def Doomed (log : ChoreLogRow) : Prop :=
  t.thisWeek config ≤ log.week ∧ ∃ chore ∈ t.chore, chore.id = log.choreId ∧
    ∃ tenant ∈ t.tenant, tenant.id = log.worker ∧
      tenant.name ∉ (t.availableTenants log.week chore.name).map (·.1)

instance (log : ChoreLogRow) : Decidable (t.Doomed config log) :=
  inferInstanceAs (Decidable (_ ∧ _))

/-- The `ChoreLog`s `clean_plan` keeps. -/
def cleanedLogs : List ChoreLogRow :=
  t.choreLog.filter fun log => !decide (t.Doomed config log)

/-- The tables after `clean_plan`. -/
def cleaned : Tables := { t with choreLog := t.cleanedLogs config }

/-- The `ChoreLog`s that one row `(week, chore, tenant)` of `future_chore_logs` deletes: those of
the chore and the week, when the tenant is not available. -/
def deletes (slot : Int × String × String) (log : ChoreLogRow) : Bool :=
  !((t.availableTenants slot.1 slot.2.1).any fun entry => entry.1 == slot.2.2) &&
    (some log.choreId == (t.chore.find? (·.name == slot.2.1)).map (·.id) && log.week == slot.1)

theorem mem_futureChoreLogs {week : Int} {slot : Int × String × String} :
    slot ∈ t.futureChoreLogs week ↔ ∃ log ∈ t.choreLog, ∃ chore ∈ t.chore, chore.id = log.choreId ∧
      ∃ tenant ∈ t.tenant, tenant.id = log.worker ∧ week ≤ log.week ∧
        slot = (log.week, chore.name, tenant.name) := by
  simp only [futureChoreLogs, List.mem_flatMap, List.mem_filter, List.mem_filterMap,
    beq_iff_eq, Option.ite_none_right_eq_some, Option.some.injEq]
  constructor
  · rintro ⟨log, member, chore, ⟨chore_member, chore_id⟩, tenant, ⟨tenant_member, tenant_id⟩,
      later, rfl⟩
    exact ⟨log, member, chore, chore_member, chore_id, tenant, tenant_member, tenant_id, later, rfl⟩
  · rintro ⟨log, member, chore, chore_member, chore_id, tenant, tenant_member, tenant_id, later, rfl⟩
    exact ⟨log, member, chore, ⟨chore_member, chore_id⟩, tenant, ⟨tenant_member, tenant_id⟩,
      later, rfl⟩

/-- Every active chore has a `ChoreLog` in every week of the planning window exactly when some
tenant is available for it. -/
def PlanCovers : Prop :=
  ∀ chore ∈ t.chore, chore.active = true → ∀ week, t.thisWeek config ≤ week →
    week < t.thisWeek config + config.weeksToPlan →
      ((∃ log ∈ t.choreLog, log.choreId = chore.id ∧ log.week = week) ↔
        t.availableTenants week chore.name ≠ [])

theorem mem_unplannedChores {week : Int} {name : String} :
    name ∈ t.unplannedChores week ↔ ∃ chore ∈ t.chore, chore.name = name ∧ chore.active = true ∧
      ∀ log ∈ t.choreLog, ¬(log.choreId = chore.id ∧ log.week = week) := by
  simp only [unplannedChores, List.mem_map, List.mem_filter, Bool.and_eq_true,
    Option.isNone_iff_eq_none]
  constructor
  · rintro ⟨⟨chore, log⟩, ⟨member, active, rfl⟩, rfl⟩
    obtain ⟨chore_member, unmatched⟩ := Sql.mem_leftJoin_none.mp member
    refine ⟨chore, chore_member, rfl, active, fun log log_member same => ?_⟩
    have no_match := unmatched log log_member
    simp [same.1, same.2] at no_match
  · rintro ⟨chore, member, rfl, active, unplanned⟩
    refine ⟨(chore, none), ⟨Sql.mem_leftJoin_none.mpr ⟨member, fun log log_member => ?_⟩, active, rfl⟩,
      rfl⟩
    have differs := unplanned log log_member
    simp only [Bool.and_eq_false_iff, beq_eq_false_iff_ne]
    tauto

/-- The slots `get_weeks_to_plan` lists: the unplanned active chores of the weeks of the planning
window. -/
theorem mem_weeksToPlan {week : Int} {name : String} :
    (week, name) ∈ t.weeksToPlan config ↔ t.thisWeek config ≤ week ∧
      week < t.thisWeek config + config.weeksToPlan ∧ name ∈ t.unplannedChores week := by
  simp only [weeksToPlan, List.mem_flatMap, List.mem_range, List.mem_map, Prod.mk.injEq]
  constructor
  · rintro ⟨i, below, name', unplanned, rfl, rfl⟩
    exact ⟨by omega, by omega, unplanned⟩
  · rintro ⟨later, earlier, unplanned⟩
    refine ⟨(week - t.thisWeek config).toNat, by omega, name, ?_, by omega, rfl⟩
    rwa [show t.thisWeek config + ((week - t.thisWeek config).toNat : Int) = week by omega]

/-- A `ChoreLog` that `plan_week` may insert for the slot `(week, chore)` on the tables `t`: the
row of the chore and the week, not completed and without a poll, whose worker is one of the
tenants `get_available_tenants_unnormalized` lists. -/
structure Planted (exclude : Bool) (week : Int) (chore : String) (log : ChoreLogRow) : Prop where
  week_eq : log.week = week
  not_completed : log.completed = false
  no_poll : log.ratingPollId = none
  chore_mem : ∃ row ∈ t.chore, row.name = chore ∧ row.id = log.choreId
  worker_mem : ∃ tenant ∈ t.tenant, tenant.id = log.worker ∧
    tenant.name ∈ (t.availableTenantsFor exclude week chore).map (·.1)

end Tables

/-- **What planning the slots in turn may insert**, from the tables `t`: nothing for a slot
without an available tenant; for every other slot a planted row, after which the next slots are
planned on the tables with that row. -/
inductive Planned (exclude : Bool) : Tables → List (Int × String) → List ChoreLogRow → Prop
  | nil (t : Tables) : Planned exclude t [] []
  | skip {t : Tables} {week : Int} {chore : String} {slots : List (Int × String)}
      {logs : List ChoreLogRow} (empty : t.availableTenants week chore = [])
      (rest : Planned exclude t slots logs) : Planned exclude t ((week, chore) :: slots) logs
  | plant {t : Tables} {week : Int} {chore : String} {log : ChoreLogRow}
      {slots : List (Int × String)} {logs : List ChoreLogRow}
      (nonempty : t.availableTenants week chore ≠ []) (planted : t.Planted exclude week chore log)
      (rest : Planned exclude { t with choreLog := t.choreLog ++ [log] } slots logs) :
      Planned exclude t ((week, chore) :: slots) (log :: logs)

variable {R : Type} (env : Env R)

/-! ### `clean_plan` -/

section Clean

variable {t : Tables} {config : Config}

/-- With unique chore names, the subquery on a chore's name finds that chore. -/
theorem choreId_of_mem (valid : t.Valid) {chore : ChoreRow} (member : chore ∈ t.chore) :
    (t.chore.find? (·.name == chore.name)).map (·.id) = some chore.id := by
  obtain ⟨found, first⟩ : ∃ found, t.chore.find? (·.name == chore.name) = some found :=
    Option.isSome_iff_exists.mp (List.find?_isSome.mpr ⟨chore, member, beq_self_eq_true _⟩)
  have named : found.name = chore.name := by simpa using List.find?_some first
  have same := List.inj_on_of_nodup_map valid.chore_name (List.mem_of_find?_eq_some first) member named
  rw [first, same]
  rfl

theorem any_fst_beq_iff {rows : List (String × ℚ)} {name : String} :
    (rows.any fun entry => entry.1 == name) = true ↔ name ∈ rows.map (·.1) := by
  simp [List.any_eq_true, List.mem_map]

/-- **One row of `future_chore_logs` deletes a `ChoreLog` exactly when it is doomed**, and then it
is that `ChoreLog`'s own row: the key `(chore_id, week)` is unique. -/
theorem any_deletes_eq_doomed (valid : t.Valid) {log : ChoreLogRow} (member : log ∈ t.choreLog) :
    ((t.futureChoreLogs (t.thisWeek config)).any fun slot => t.deletes slot log) =
      decide (t.Doomed config log) := by
  rw [Bool.eq_iff_iff, List.any_eq_true, decide_eq_true_iff]
  constructor
  · rintro ⟨slot, slot_member, deleted⟩
    obtain ⟨log', member', chore, chore_member, chore_id, tenant, tenant_member, worker, later, rfl⟩ :=
      t.mem_futureChoreLogs.mp slot_member
    simp only [Tables.deletes, Bool.and_eq_true, Bool.not_eq_eq_eq_not, Bool.not_true,
      choreId_of_mem valid chore_member, beq_iff_eq, Option.some.injEq] at deleted
    obtain ⟨unavailable, same_chore, same_week⟩ := deleted
    have same : log = log' := List.inj_on_of_nodup_map valid.choreLog_key member member'
      (by simp [ChoreLogRow.key, same_chore, chore_id, same_week])
    subst same
    refine ⟨later, chore, chore_member, chore_id, tenant, tenant_member, worker, fun listed => ?_⟩
    rw [← any_fst_beq_iff, unavailable] at listed
    exact Bool.false_ne_true listed
  · rintro ⟨later, chore, chore_member, chore_id, tenant, tenant_member, worker, unavailable⟩
    refine ⟨(log.week, chore.name, tenant.name), t.mem_futureChoreLogs.mpr
      ⟨log, member, chore, chore_member, chore_id, tenant, tenant_member, worker, later, rfl⟩, ?_⟩
    rw [← any_fst_beq_iff] at unavailable
    simp [Tables.deletes, unavailable, choreId_of_mem valid chore_member, chore_id]

/-- `DELETE FROM ChoreLog WHERE chore_id = .. AND week = ..` keeps the other rows. -/
theorem deleteChoreLog_tables {con : Database} {chore : String} {week : Int} {result : Executed}
    (ran : con.deleteChoreLog chore week = .ok result) :
    result.con.tables = { con.tables with choreLog := con.tables.choreLog.filter fun row =>
      !(some row.choreId == con.choreId chore && row.week == week) } := by
  dsimp only [Database.deleteChoreLog] at ran
  split at ran
  · cases ran
    rfl
  · cases ran

/-- **The effect of `clean_plan`**: it keeps exactly the `ChoreLog`s that are not doomed, and
leaves tables that pass `integrity_check`. -/
theorem cleanPlan_ok {db db' : Db R} (intact : Integrity env db.tables)
    (ok : (cleanPlan env).run db = .ok () db') :
    db'.rng = db.rng ∧ Integrity env db'.tables ∧
      db'.tables = { db.tables with choreLog := db.tables.cleanedLogs env.config } := by
  simp only [cleanPlan, EStateM.run_bind, getWeekInternal_run env intact, EStateM.run_get,
    integrityCheck_run env intact] at ok
  have loop := @EStateM.forM_ok_induct _ _ _ _
    (fun done (s : Db R) => s.rng = db.rng ∧ Integrity env s.tables ∧
      s.tables = { db.tables with choreLog := db.tables.choreLog.filter fun log =>
        !(done.any fun slot => db.tables.deletes slot log) })
    ?step _ [] db db' ⟨rfl, intact, by simp⟩ ok
  · obtain ⟨rng_eq, intact', tables_eq⟩ := loop
    have valid : db.tables.Valid := db.con.valid
    have kept : (db.tables.choreLog.filter fun log =>
        !(([] ++ db.tables.futureChoreLogs (db.tables.thisWeek env.config)).any fun slot =>
          db.tables.deletes slot log)) = db.tables.cleanedLogs env.config :=
      List.filter_congr fun log member => by
        rw [List.nil_append, any_deletes_eq_doomed valid member]
    refine ⟨rng_eq, intact', ?_⟩
    rw [tables_eq, kept]
  · intro done slot s s' holds step
    obtain ⟨rng_eq, intact_s, tables_eq⟩ := holds
    obtain ⟨rows, s₁, read, rest⟩ := EStateM.run_bind_eq_ok.mp step
    obtain ⟨-, rfl, same⟩ := getAllAvailableTenantsUnnormalized_ok env read
    subst s₁
    -- whether the tenant is listed does not depend on the rows deleted so far
    have listed : ((s.tables.availableTenants slot.1 slot.2.1).any fun entry => entry.1 == slot.2.2) =
        ((db.tables.availableTenants slot.1 slot.2.1).any fun entry => entry.1 == slot.2.2) := by
      rw [Bool.eq_iff_iff, any_fst_beq_iff, any_fst_beq_iff, tables_eq]
      exact db.tables.availableTenants_names_frame _ db.tables.rating
    rw [listed] at rest
    cases available : (db.tables.availableTenants slot.1 slot.2.1).any fun entry =>
      entry.1 == slot.2.2 with
    | true =>
      -- a listed tenant keeps the row
      simp only [available, Bool.not_true, Bool.false_eq_true, if_false] at rest
      cases rest
      refine ⟨rng_eq, intact_s, ?_⟩
      rw [tables_eq]
      simp [List.any_append, Tables.deletes, available]
    | false =>
      -- otherwise the row of the chore and week is deleted, and the tables are checked
      simp only [available, Bool.not_false, if_true] at rest
      obtain ⟨result, s₂, executed, rest⟩ := EStateM.run_bind_eq_ok.mp rest
      obtain ⟨deleted, rfl⟩ := execute_ok executed
      obtain ⟨⟨⟩, s₃, checked, rest⟩ := EStateM.run_bind_eq_ok.mp rest
      have intact₂ := intact_of_integrityCheck_ok env checked
      rw [integrityCheck_run env intact₂] at checked
      cases checked
      split at rest
      · cases rest
      · cases rest
        refine ⟨rng_eq, intact₂, ?_⟩
        show result.con.tables = _
        rw [deleteChoreLog_tables deleted]
        simp only [Db.tables] at tables_eq available
        simp only [Database.choreId, tables_eq, List.filter_filter]
        congr 1
        refine List.filter_congr fun log _ => ?_
        simp [List.any_append, Tables.deletes, available, Bool.and_comm, Db.tables]

end Clean

/-! ### `plan_week` and its loop -/

section Plan

/-- `INSERT INTO ChoreLog VALUES ((SELECT Chore.id ..), ?2, (SELECT Tenant.id ..), 0, NULL)` appends
the row of the chore and the week. -/
theorem insertChoreLog_tables {con : Database} {chore : String} {week : Int} {tenant : String}
    {result : Executed} (ran : con.insertChoreLog chore week tenant = .ok result) :
    ∃ choreId worker, con.choreId chore = some choreId ∧ con.tenantId tenant = some worker ∧
      result.con.tables = { con.tables with
        choreLog := con.tables.choreLog ++ [⟨choreId, week, worker, false, none⟩] } := by
  dsimp only [Database.insertChoreLog] at ran
  split at ran
  · cases ran
  · cases ran
  · rename_i choreId worker found_chore found_tenant
    split at ran
    · cases ran
    · cases ran
      exact ⟨choreId, worker, found_chore, found_tenant, rfl⟩

/-- `plan_week` draws a tenant exactly when `get_all_available_tenants_unnormalized` lists one. -/
theorem normalizeTenants_availableTenantsFor_isEmpty (t : Tables) (exclude : Bool) (week : Int)
    (chore : String) :
    (normalizeTenants (t.availableTenantsFor exclude week chore)).isEmpty =
      (t.availableTenants week chore).isEmpty := by
  rw [← t.availableTenantsFor_isEmpty exclude week chore, Bool.eq_iff_iff, List.isEmpty_iff,
    List.isEmpty_iff, ← List.length_eq_zero_iff, normalizeTenants_length, List.length_eq_zero_iff]

theorem planWeek_ok {week : Int} {chore : String} {s s' : Db R} (intact : Integrity env s.tables)
    (ok : (planWeek env week chore).run s = .ok () s') :
    Integrity env s'.tables ∧
      ((s.tables.availableTenants week chore = [] ∧ s'.tables = s.tables) ∨
        (s.tables.availableTenants week chore ≠ [] ∧ ∃ log,
          s.tables.Planted env.config.tryExcludeBusyTenants week chore log ∧
            s'.tables = { s.tables with choreLog := s.tables.choreLog ++ [log] })) := by
  simp only [planWeek, EStateM.run_bind, getAvailableTenantsUnnormalized_run env intact,
    normalizeTenants_availableTenantsFor_isEmpty] at ok
  split at ok
  · -- no tenant is available: nothing happens
    rename_i empty
    cases ok
    exact ⟨intact, .inl ⟨List.isEmpty_iff.mp empty, rfl⟩⟩
  · rename_i nonempty
    obtain ⟨⟨tenant, score, prob⟩, s₁, chosen, rest⟩ := EStateM.run_bind_eq_ok.mp ok
    obtain ⟨member, same_con⟩ := chooseTenant_mem env chosen
    have intact₁ : Integrity env s₁.tables := by
      rw [Db.tables, same_con]
      exact intact
    simp only [EStateM.run_bind, EStateM.run_get] at rest
    split at rest
    · -- `fetch_one` of the chat tag finds no tenant of the drawn name
      obtain ⟨_, _, thrown, _⟩ := EStateM.run_bind_eq_ok.mp rest
      cases thrown
    · obtain ⟨⟨⟩, s₂, checked, rest⟩ := EStateM.run_bind_eq_ok.mp rest
      rw [integrityCheck_run env intact₁] at checked
      cases checked
      obtain ⟨result, s₃, executed, rest⟩ := EStateM.run_bind_eq_ok.mp rest
      obtain ⟨inserted, rfl⟩ := execute_ok executed
      obtain ⟨⟨⟩, s₄, checked, rest⟩ := EStateM.run_bind_eq_ok.mp rest
      have intact₂ := intact_of_integrityCheck_ok env checked
      rw [integrityCheck_run env intact₂] at checked
      cases checked
      split at rest
      · obtain ⟨_, _, failed, _⟩ := EStateM.run_bind_eq_ok.mp rest
        cases failed
      · obtain ⟨_, s₅, read, rest⟩ := EStateM.run_bind_eq_ok.mp rest
        rw [getWeekInternal_run env intact₂] at read
        cases read
        cases rest
        obtain ⟨choreId, worker, found_chore, found_tenant, tables_eq⟩ :=
          insertChoreLog_tables inserted
        rw [same_con] at found_chore found_tenant tables_eq
        obtain ⟨row, row_member, row_name, row_id⟩ := Database.choreId_spec found_chore
        obtain ⟨named, named_member, named_name, named_id⟩ := Database.tenantId_spec found_tenant
        -- the drawn name is one of the listed tenants: normalizing keeps the names
        have listed : tenant ∈
            (s.tables.availableTenantsFor env.config.tryExcludeBusyTenants week chore).map (·.1) := by
          rw [← normalizeTenants_names]
          exact List.mem_map_of_mem member
        refine ⟨intact₂, .inr ⟨fun empty => nonempty (by rw [empty]; rfl),
          ⟨choreId, week, worker, false, none⟩, ⟨rfl, rfl, rfl, ⟨row, row_member, row_name, row_id⟩,
            ⟨named, named_member, named_id, named_name ▸ listed⟩⟩, tables_eq⟩⟩

/-- **The loop of `update_plan` over its slots** plans them as `Planned` says, and leaves tables
that pass `integrity_check`. -/
theorem planSlots_ok : ∀ (slots : List (Int × String)) {s s' : Db R}, Integrity env s.tables →
    (slots.forM fun slot => planWeek env slot.1 slot.2).run s = .ok () s' →
    Integrity env s'.tables ∧ ∃ logs, Planned env.config.tryExcludeBusyTenants s.tables slots logs ∧
      s'.tables = { s.tables with choreLog := s.tables.choreLog ++ logs }
  | [], s, s', intact, ok => by
    cases ok
    exact ⟨intact, [], .nil _, by simp⟩
  | (week, chore) :: slots, s, s', intact, ok => by
    obtain ⟨s₁, first, rest⟩ := EStateM.run_forM_eq_ok.mp ok
    obtain ⟨intact₁, outcome⟩ := planWeek_ok env intact first
    obtain ⟨intact', logs, planned, tables_eq⟩ := planSlots_ok slots intact₁ rest
    rcases outcome with ⟨empty, same⟩ | ⟨nonempty, log, planted, planted_eq⟩
    · rw [same] at planned tables_eq
      exact ⟨intact', logs, .skip empty planned, tables_eq⟩
    · rw [planted_eq] at planned tables_eq
      refine ⟨intact', log :: logs, .plant nonempty planted planned, ?_⟩
      rw [tables_eq]
      simp

end Plan

/-! ### `update_plan` -/

/-- **The effect of `update_plan`**: `clean_plan` keeps the `ChoreLog`s that are not doomed, and
the rows the slots of the cleaned tables are planned with follow them. -/
theorem updatePlan_ok {db db' : Db R} {changed : Bool} (intact : Integrity env db.tables)
    (ok : (updatePlan env).run db = .ok changed db') :
    ∃ inserted, Planned env.config.tryExcludeBusyTenants (db.tables.cleaned env.config)
        ((db.tables.cleaned env.config).weeksToPlan env.config) inserted ∧
      db'.tables = { db.tables with choreLog := db.tables.cleanedLogs env.config ++ inserted } := by
  obtain ⟨⟨⟩, db₁, cleaned, rest⟩ := EStateM.run_bind_eq_ok.mp ok
  obtain ⟨-, intact₁, tables₁⟩ := cleanPlan_ok env intact cleaned
  obtain ⟨slots, db₂, listed, rest⟩ := EStateM.run_bind_eq_ok.mp rest
  rw [getWeeksToPlan_run env intact₁] at listed
  cases listed
  obtain ⟨⟨⟩, db₃, planned, rest⟩ := EStateM.run_bind_eq_ok.mp rest
  obtain ⟨intact₃, inserted, plan, tables₃⟩ := planSlots_ok env _ intact₁ planned
  -- `list_plan` at the end only reads
  have settled : db' = db₃ := by
    split at rest
    · cases rest
      rfl
    · obtain ⟨⟨⟩, db₄, listing, rest⟩ := EStateM.run_bind_eq_ok.mp rest
      rw [listPlan_run env intact₃] at listing
      cases listing
      cases rest
      rfl
  subst settled
  rw [tables₁] at plan tables₃
  exact ⟨inserted, plan, by rw [tables₃]⟩

/-! ### What the plan covers -/

section Covers

/-- Whether a chore has available tenants depends on no `ChoreLog` and no `Rating`. -/
theorem availableTenants_eq_nil_frame (t : Tables) (logs : List ChoreLogRow)
    {ratings : List RatingRow} (week : Int) (chore : String) :
    Tables.availableTenants { t with choreLog := logs, rating := ratings } week chore = [] ↔
      t.availableTenants week chore = [] := by
  rw [← @List.map_eq_nil_iff _ _ (·.1), ← @List.map_eq_nil_iff _ _ (·.1) (t.availableTenants week chore),
    List.eq_nil_iff_forall_not_mem, List.eq_nil_iff_forall_not_mem]
  exact forall_congr' fun _ => not_congr (t.availableTenants_names_frame logs ratings)

variable {exclude : Bool}

/-- Every planted row belongs to a slot that had an available tenant. -/
theorem Planned.sound {t : Tables} {slots : List (Int × String)} {logs : List ChoreLogRow}
    (planned : Planned exclude t slots logs) :
    ∀ log ∈ logs, ∃ slot ∈ slots, log.week = slot.1 ∧ t.availableTenants slot.1 slot.2 ≠ [] ∧
      (∃ row ∈ t.chore, row.name = slot.2 ∧ row.id = log.choreId) ∧
      log.completed = false ∧ log.ratingPollId = none := by
  induction planned with
  | nil => exact fun log member => absurd member List.not_mem_nil
  | skip empty rest ih =>
    intro log member
    obtain ⟨slot, slot_member, found⟩ := ih log member
    exact ⟨slot, List.mem_cons_of_mem _ slot_member, found⟩
  | plant nonempty planted rest ih =>
    intro log member
    rcases List.mem_cons.mp member with rfl | member
    · exact ⟨_, List.mem_cons_self, planted.week_eq, nonempty, planted.chore_mem,
        planted.not_completed, planted.no_poll⟩
    · obtain ⟨slot, slot_member, week_eq, available, chore_found, unfinished⟩ := ih log member
      rw [Ne, availableTenants_eq_nil_frame] at available
      exact ⟨slot, List.mem_cons_of_mem _ slot_member, week_eq, available, chore_found, unfinished⟩

/-- Every slot with an available tenant gets a row. -/
theorem Planned.covers {t : Tables} {slots : List (Int × String)} {logs : List ChoreLogRow}
    (planned : Planned exclude t slots logs) :
    ∀ slot ∈ slots, t.availableTenants slot.1 slot.2 ≠ [] →
      ∃ log ∈ logs, log.week = slot.1 ∧ ∃ row ∈ t.chore, row.name = slot.2 ∧ row.id = log.choreId := by
  induction planned with
  | nil => exact fun slot member => absurd member List.not_mem_nil
  | skip empty rest ih =>
    intro slot member available
    rcases List.mem_cons.mp member with rfl | member
    · exact absurd empty available
    · exact ih slot member available
  | plant nonempty planted rest ih =>
    intro slot member available
    rcases List.mem_cons.mp member with rfl | member
    · exact ⟨_, List.mem_cons_self, planted.week_eq, planted.chore_mem⟩
    · rw [Ne, ← availableTenants_eq_nil_frame] at available
      obtain ⟨log, log_member, found⟩ := ih slot member available
      exact ⟨log, List.mem_cons_of_mem _ log_member, found⟩

/-- **After `update_plan` the plan covers the window.** A row kept by `clean_plan` has an
available worker, a planted row had an available tenant, and a slot with an available tenant
that `clean_plan` left empty is planted. -/
theorem planCovers_of_planned {t : Tables} {config : Config} {inserted : List ChoreLogRow}
    (valid : t.Valid)
    (planned : Planned exclude (t.cleaned config) ((t.cleaned config).weeksToPlan config) inserted) :
    Tables.PlanCovers { t with choreLog := t.cleanedLogs config ++ inserted } config := by
  intro chore chore_member active week later earlier
  show (∃ log ∈ t.cleanedLogs config ++ inserted, _) ↔
    Tables.availableTenants { t with choreLog := t.cleanedLogs config ++ inserted } week chore.name ≠ []
  rw [Ne, availableTenants_eq_nil_frame]
  constructor
  · rintro ⟨log, member, chore_id, rfl⟩
    rcases List.mem_append.mp member with kept | new
    · -- a kept row is not doomed, and its worker exists
      obtain ⟨log_member, not_doomed⟩ := List.mem_filter.mp kept
      obtain ⟨tenant, tenant_member, worker⟩ := List.mem_map.mp (valid.choreLog_worker log log_member)
      have listed : tenant.name ∈ (t.availableTenants log.week chore.name).map (·.1) := by
        by_contra unlisted
        have doomed : t.Doomed config log :=
          ⟨later, chore, chore_member, chore_id.symm, tenant, tenant_member, worker, unlisted⟩
        simp [doomed] at not_doomed
      intro empty
      rw [empty] at listed
      exact List.not_mem_nil listed
    · -- a planted row had an available tenant for its slot
      obtain ⟨slot, -, week_eq, available, ⟨row, row_member, row_name, row_id⟩, -⟩ :=
        planned.sound log new
      have same : row = chore :=
        List.inj_on_of_nodup_map valid.chore_key row_member chore_member (row_id.trans chore_id)
      subst same
      rw [← row_name, ← week_eq] at available
      exact fun empty => available ((availableTenants_eq_nil_frame _ _ _ _).mpr empty)
  · intro available
    by_cases kept : ∃ log ∈ t.cleanedLogs config, log.choreId = chore.id ∧ log.week = week
    · obtain ⟨log, member, found⟩ := kept
      exact ⟨log, List.mem_append_left _ member, found⟩
    · -- the slot is empty after `clean_plan`, so `get_weeks_to_plan` lists it
      have slot_member : (week, chore.name) ∈ (t.cleaned config).weeksToPlan config :=
        ((t.cleaned config).mem_weeksToPlan config).mpr ⟨later, earlier,
          (t.cleaned config).mem_unplannedChores.mpr
          ⟨chore, chore_member, rfl, active, fun log member same => kept ⟨log, member, same⟩⟩⟩
      obtain ⟨log, member, week_eq, row, row_member, row_name, row_id⟩ :=
        planned.covers _ slot_member ((availableTenants_eq_nil_frame _ _ _ _).not.mpr available)
      have same : row = chore :=
        List.inj_on_of_nodup_map valid.chore_name row_member chore_member row_name
      subst same
      exact ⟨log, List.mem_append_right _ member, row_id.symm, week_eq⟩

/-- `update_plan` leaves the `ChoreLog`s before the current week as they were: `clean_plan` only
deletes from the current week on, and every slot lies in the window. -/
theorem past_logs_kept {t : Tables} {config : Config} {inserted : List ChoreLogRow}
    (planned : Planned exclude (t.cleaned config) ((t.cleaned config).weeksToPlan config) inserted) :
    (t.cleanedLogs config ++ inserted).filter (fun log => decide (log.week < t.thisWeek config)) =
      t.choreLog.filter fun log => decide (log.week < t.thisWeek config) := by
  have future : inserted.filter (fun log => decide (log.week < t.thisWeek config)) = [] := by
    refine List.filter_eq_nil_iff.mpr fun log member => ?_
    obtain ⟨⟨week, name⟩, slot_member, week_eq, -⟩ := planned.sound log member
    have later := (((t.cleaned config).mem_weeksToPlan config).mp slot_member).1
    have same_week : (t.cleaned config).thisWeek config = t.thisWeek config := rfl
    simp only [decide_eq_true_eq, not_lt]
    omega
  rw [List.filter_append, future, List.append_nil, Tables.cleanedLogs, List.filter_filter]
  refine List.filter_congr fun log _ => ?_
  by_cases past : log.week < t.thisWeek config
  · -- a doomed row is from the current week on
    have spared : ¬t.Doomed config log := fun doomed => absurd doomed.1 (not_le.mpr past)
    simp [past, spared]
  · simp [past]

/-- Every inserted row is of an active chore, in the window, not completed and without a poll. -/
theorem planted_in_window {t : Tables} {config : Config} {inserted : List ChoreLogRow}
    (valid : t.Valid)
    (planned : Planned exclude (t.cleaned config) ((t.cleaned config).weeksToPlan config) inserted) :
    ∀ log ∈ inserted, ∃ chore ∈ t.chore, chore.id = log.choreId ∧ chore.active = true ∧
      t.thisWeek config ≤ log.week ∧ log.week < t.thisWeek config + config.weeksToPlan ∧
      log.completed = false ∧ log.ratingPollId = none := by
  intro log member
  obtain ⟨⟨week, name⟩, slot_member, week_eq, -, ⟨row, row_member, row_name, row_id⟩, unfinished,
    no_poll⟩ := planned.sound log member
  obtain ⟨later, earlier, unplanned⟩ := ((t.cleaned config).mem_weeksToPlan config).mp slot_member
  obtain ⟨chore, chore_member, chore_name, active, -⟩ :=
    (t.cleaned config).mem_unplannedChores.mp unplanned
  have same : chore = row :=
    List.inj_on_of_nodup_map valid.chore_name chore_member row_member (chore_name.trans row_name.symm)
  subst same
  exact ⟨chore, chore_member, row_id, active, week_eq ▸ later, week_eq ▸ earlier, unfinished, no_poll⟩

end Covers

/-! ### The effect of `update_plan` -/

/-- Anna, who lives in no room, and a `ChoreLog` of week 0, the current week, whose `chore_id` 7
names no `Chore`. -/
def unknownChoreTables : Tables :=
  { Tables.empty with
    tenant := [⟨1, "Anna", none⟩]
    choreLog := [⟨7, 0, 1, false, none⟩]
    currentWeek := some 0 }

def unknownChoreDb : Database := ⟨unknownChoreTables, by constructor <;> decide⟩

end ChorePlanner
