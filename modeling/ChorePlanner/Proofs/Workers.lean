/-
**Who works a week: unwilling and busy tenants.**

`replan <tenant> <week>` records that the tenant is unwilling in the week
(`REPLACE INTO Unwilling`), checks the database and updates the plan. The query of the available
tenants leaves out the unwilling ones, so `clean_plan` deletes the tenant's `ChoreLog`s of that
week and `plan_week` gives them none again. With `try_exclude_busy_tenants`, `plan_week` draws
from the available tenants that do no chore in the week before, the week itself or the week
after, and from all available ones only when every one of them does.

* `replaceUnwilling_ok` — the statement succeeds only for a known tenant, and then only puts the
  tenant's row for the week in place of the old one.
* `unwilling_unlisted` — a tenant unwilling in a week is listed for no chore of that week;
  `Settled.relieves` — so after `update_plan` the tenant works no chore of that week.
* `updatePlan_settled` — a successful `update_plan` leaves no doomed `ChoreLog`.
* `replan_ok` — what a successful `replan` did, step by step.
* `replan_relieves` — **after a successful `replan` of a week from the current one on, the tenant
  is recorded unwilling and works no chore of that week.** A week before the current one is not
  replanned: `clean_plan` keeps the past.
* `UnwillingKept`, `runCli_keepsUnwilling` — `replan` is the only command that writes
  `Unwilling`, and it replaces a row by itself.
* `runLoop_keeps_unwilling` — **no run of the main loop deletes an `Unwilling` row**: there is
  no command to take a `replan` back.
* `Planned.planted_after` — each row planted slot by slot was drawn on the tables with the rows
  planted before it.
* `updatePlan_spares_busy` — **with `try_exclude_busy_tenants`, every row `update_plan` inserts
  goes to an available tenant who is not busy when it is drawn, unless every available tenant is.**
-/

import ChorePlanner.Proofs.Main

namespace ChorePlanner

open EStateM

/-! ### The statement -/

namespace Database

variable {db : Database} {tenant : String} {week : Int} {result : Executed}

/-- `REPLACE INTO Unwilling` fails on the `NOT NULL` of `tenant_id` for an unknown tenant; for a
known one it deletes the row of the same key and adds the new one. -/
theorem replaceUnwilling_ok (ok : db.replaceUnwilling tenant week = .ok result) :
    ∃ id, db.tenantId tenant = some id ∧ result.con.tables = { db.tables with
      unwilling := db.tables.unwilling.filter (fun row => !(row.tenantId == id && row.week == week)) ++
        [⟨id, week⟩] } := by
  unfold replaceUnwilling at ok
  split at ok
  · cases ok
  · rename_i id found
    cases ok
    exact ⟨id, found, rfl⟩

end Database

/-! ### Unwilling tenants are not available -/

namespace Tables

variable {t : Tables}

/-- **A tenant unwilling in a week is listed for no chore of that week**: the query keeps only
tenants without an `Unwilling` row of the week, and names are unique. -/
theorem unwilling_unlisted (valid : t.Valid) {tenant : TenantRow} (member : tenant ∈ t.tenant)
    {week : Int} (unwilling : t.UnwillingIn tenant week) (choreName : String) :
    tenant.name ∉ (t.availableTenants week choreName).map (·.1) := by
  rw [mem_availableTenants_names]
  rintro ⟨other, other_member, same_name, chore, -, -, available⟩
  have same : other = tenant :=
    List.inj_on_of_nodup_map valid.tenant_name other_member member same_name
  exact available.2.2 (same ▸ unwilling)

variable {config : Config}

/-- **After `update_plan`, a tenant unwilling in a week from the current one on works no chore of
that week**: a `ChoreLog` of a known chore with that worker would be doomed. -/
theorem Settled.relieves (settled : t.Settled config) (valid : t.Valid) {tenant : TenantRow}
    (member : tenant ∈ t.tenant) {week : Int} (unwilling : t.UnwillingIn tenant week)
    (future : t.thisWeek config ≤ week) :
    ∀ log ∈ t.choreLog, log.week = week → (∃ chore ∈ t.chore, chore.id = log.choreId) →
      log.worker ≠ tenant.id := by
  rintro log log_member rfl ⟨chore, chore_member, chore_id⟩ worker
  -- the row is not doomed, so its worker is listed; but an unwilling tenant is not
  have spared := settled.none_doomed log log_member
  rw [doomed_iff config valid chore_member chore_id member worker.symm] at spared
  exact spared ⟨future, unwilling_unlisted valid member unwilling chore.name⟩

end Tables

/-! ### `replan` -/

variable {R : Type} (env : Env R)

/-- A successful `update_plan` from tables that pass `integrity_check` leaves no doomed
`ChoreLog`. -/
theorem updatePlan_settled {db db' : Db R} {changed : Bool} (intact : Integrity env db.tables)
    (ok : (updatePlan env).run db = .ok changed db') : db'.tables.Settled env.config := by
  obtain ⟨inserted, planned, tables'⟩ := updatePlan_ok env intact ok
  rw [tables']
  exact settled_of_planned db.con.valid planned

/-- **What a successful `replan` did**: the tenant is known, its `Unwilling` row for the week was
added, the tables with it passed `integrity_check`, and `update_plan` succeeded on them. -/
theorem replan_ok {db db' : Db R} {tenant : String} {week : Int}
    (ran : (replan env tenant week).run db = .ok () db') :
    ∃ db₁ : Db R, ∃ id changed, db.con.tenantId (capitalizeTenantName env tenant) = some id ∧
      db₁.tables = { db.tables with
        unwilling := db.tables.unwilling.filter (fun row => !(row.tenantId == id && row.week == week)) ++
          [⟨id, week⟩] } ∧
      Integrity env db₁.tables ∧ (updatePlan env).run db₁ = .ok changed db' := by
  unfold replan at ran
  obtain ⟨result, db₁, executed, rest⟩ := EStateM.run_bind_eq_ok.mp ran
  obtain ⟨statement_ok, rfl⟩ := execute_ok executed
  obtain ⟨id, found, tables₁⟩ := Database.replaceUnwilling_ok statement_ok
  obtain ⟨⟨⟩, db₂, checked, rest⟩ := EStateM.run_bind_eq_ok.mp rest
  have intact := intact_of_integrityCheck_ok env checked
  rw [integrityCheck_run env intact] at checked
  cases checked
  -- the check of the affected rows passes, or `replan` would have failed
  dsimp only at rest
  split at rest
  · obtain ⟨⟨⟩, db₃, failed, -⟩ := EStateM.run_bind_eq_ok.mp rest
    rw [bail_run] at failed
    cases failed
  · obtain ⟨changed, db₃, planned, done⟩ := EStateM.run_bind_eq_ok.mp rest
    cases done
    exact ⟨{ db with con := result.con }, id, changed, found, tables₁, intact, planned⟩

/-- **After a successful `replan` of a week from the current one on, the tenant is recorded
unwilling and works no chore of that week**: no `ChoreLog` of the week of a known chore has the
tenant as worker, whether it was planned before or after the `replan`. -/
theorem replan_relieves {db db' : Db R} {tenant : String} {week : Int}
    (ran : (replan env tenant week).run db = .ok () db')
    (future : db.tables.thisWeek env.config ≤ week) :
    ∃ row ∈ db'.tables.tenant, row.name = capitalizeTenantName env tenant ∧
      db'.tables.UnwillingIn row week ∧
      ∀ log ∈ db'.tables.choreLog, log.week = week →
        (∃ chore ∈ db'.tables.chore, chore.id = log.choreId) → log.worker ≠ row.id := by
  obtain ⟨db₁, id, changed, found, tables₁, intact₁, planned⟩ := replan_ok env ran
  obtain ⟨inserted, -, tables'⟩ := updatePlan_ok env intact₁ planned
  have settled := updatePlan_settled env intact₁ planned
  have valid : db'.tables.Valid := db'.con.valid
  obtain ⟨row, member, named, rfl⟩ := Database.tenantId_spec found
  -- `replan` changes only `Unwilling` and `ChoreLog`
  have tenants : db'.tables.tenant = db.tables.tenant := by rw [tables', tables₁]
  have current : db'.tables.thisWeek env.config = db.tables.thisWeek env.config := by
    rw [tables', tables₁]
    rfl
  have recorded : db'.tables.UnwillingIn row week := by
    refine ⟨⟨row.id, week⟩, ?_, rfl, rfl⟩
    rw [tables', tables₁]
    exact List.mem_append_right _ (List.mem_singleton_self _)
  exact ⟨row, tenants ▸ member, named, recorded,
    settled.relieves valid (tenants ▸ member) recorded (current ▸ future)⟩

/-- Anna lives in room R, and the Dishes are created: she is planned for them in week 0. -/
def dishesRun : List Cli :=
  [⟨some (.tenant (some (.createRoom "R")))⟩,
    ⟨some (.tenant (some (.moveIn "Anna" none "R")))⟩,
    ⟨some (.chore (some (.create "Dishes" "wash up")))⟩]

/-- Replanning Anna's week 0 after that run takes the Dishes from her. -/
theorem replan_relieves_anna :
    let db := (runFromEmpty (asciiEnv sampleConfig) () dishesRun).store
    ∃ db', (replan (asciiEnv sampleConfig) "anna" 0).run db = .ok () db' ∧
      db.tables.thisWeek sampleConfig ≤ 0 ∧
      ∃ row ∈ db'.tables.tenant, row.name = capitalizeTenantName (asciiEnv sampleConfig) "anna" ∧
        db'.tables.UnwillingIn row 0 ∧
        ∀ log ∈ db'.tables.choreLog, log.week = 0 →
          (∃ chore ∈ db'.tables.chore, chore.id = log.choreId) → log.worker ≠ row.id := by
  intro db
  have succeeded : ((replan (asciiEnv sampleConfig) "anna" 0).run db).error? = none := by
    decide +kernel
  obtain ⟨⟨⟩, db', ran⟩ := EStateM.Result.exists_ok_of_error? succeeded
  have future : db.tables.thisWeek sampleConfig ≤ 0 := by decide +kernel
  exact ⟨db', ran, future, replan_relieves (asciiEnv sampleConfig) ran future⟩

/-! ### The `Unwilling` rows stay -/

section Kept

/-- Every `Unwilling` row of `db` is still one of `db'`. -/
def UnwillingKept (db db' : Db R) : Prop := db.tables.unwilling ⊆ db'.tables.unwilling

instance : Std.Refl (UnwillingKept (R := R)) := ⟨fun _ => List.Subset.refl _⟩

instance : IsTrans (Db R) UnwillingKept := ⟨fun _ _ _ first second => List.Subset.trans first second⟩

theorem UnwillingKept.of_writesOnly {writes : List Table} {db db' : Db R}
    (frame : WritesOnly writes db db') (unwritten : .unwilling ∉ writes) : UnwillingKept db db' := by
  rw [UnwillingKept, frame .unwilling unwritten]
  exact List.Subset.refl _

/-- `REPLACE INTO Unwilling` deletes only the row it then inserts again: an `Unwilling` row is
its key. -/
theorem replaceUnwilling_keepsUnwilling (tenant : String) (week : Int) :
    Respects UnwillingKept (execute (R := R) (·.replaceUnwilling tenant week)) := by
  intro db
  simp only [execute, EStateM.run_bind, EStateM.run_get]
  split
  · rename_i result replaced
    obtain ⟨id, -, tables⟩ := Database.replaceUnwilling_ok replaced
    intro row member
    show row ∈ result.con.tables.unwilling
    rw [tables]
    by_cases same : row = ⟨id, week⟩
    · exact List.mem_append_right _ (same ▸ List.mem_singleton_self _)
    · refine List.mem_append_left _ (List.mem_filter.mpr ⟨member, ?_⟩)
      obtain ⟨tenantId, week'⟩ := row
      simpa [UnwillingRow.mk.injEq, Decidable.imp_iff_not_or] using same
  · exact Std.Refl.refl db

theorem replan_keepsUnwilling (tenant : String) (week : Int) :
    Respects UnwillingKept (replan env tenant week) := by
  have plan : Respects UnwillingKept (updatePlan env) :=
    Respects.mono (updatePlan_writes env) fun _ _ frame => UnwillingKept.of_writesOnly frame (by decide)
  unfold replan
  refine .bind (replaceUnwilling_keepsUnwilling _ _) fun _ => .bind (integrityCheck_reads env) fun _ => ?_
  dsimp only
  refine .ite (.bind (bail_reads _) fun _ => ?_) ?_ <;> exact .bind plan fun _ => .pure _

/-- Only `replan` may write `Unwilling`. -/
theorem Cli.replan_of_unwilling_mem {cli : Cli} (written : .unwilling ∈ cli.writes) :
    ∃ tenant week year, cli.command = some (.replan tenant week year) := by
  unfold Cli.writes at written
  split at written
  all_goals first | exact ⟨_, _, _, ‹_›⟩ | simp at written

/-- Every command line keeps the `Unwilling` rows, whatever its outcome. -/
theorem runCli_keepsUnwilling (cli : Cli) : Respects UnwillingKept (runCli env cli) := by
  by_cases written : .unwilling ∈ cli.writes
  · obtain ⟨tenant, week, year, replanned⟩ := Cli.replan_of_unwilling_mem written
    obtain ⟨command⟩ := cli
    subst replanned
    exact .bind (weekOfCommand_reads env week year) fun week => replan_keepsUnwilling env tenant week
  · exact Respects.mono (runCli_writes env cli) fun _ _ frame => UnwillingKept.of_writesOnly frame written

variable {B : Type} (bot : PollableBot B)

/-- **No run of the main loop deletes an `Unwilling` row**, with any bot and any chat: once a
tenant is recorded unwilling for a week, by a `replan` that may itself have failed later, every
state after keeps that row. No command takes a `replan` back, and the weekly action does not
write `Unwilling`. -/
theorem runLoop_keeps_unwilling (parse : String → Except Error Cli) (events : List Event)
    (s : Db R × B) :
    s.1.tables.unwilling ⊆ ((runLoop env bot parse events).run s).store.1.tables.unwilling := by
  have each (call : Call) : Respects (OnDb (B := B) UnwillingKept) (handle env bot call) := by
    cases call with
    | command cli => exact report_respects (liftDb_respects (runCli_keepsUnwilling env cli))
    | weekly today =>
      exact Respects.mono (weeklyAction_writes env bot today) fun _ _ frame =>
        UnwillingKept.of_writesOnly frame (by decide)
  rw [runLoop_eq]
  exact Respects.forM each _ s

end Kept

/-! ### Busy tenants -/

namespace Tables

variable {t : Tables}

/-- With `try_exclude_busy_tenants`, the names a slot is drawn from are available, and not busy
unless every available tenant is busy. -/
theorem mem_availableTenantsFor_excluding {week : Int} {chore name : String}
    (member : name ∈ (t.availableTenantsFor true week chore).map (·.1)) :
    name ∈ (t.availableTenants week chore).map (·.1) ∧
      (name ∉ t.busyTenants week ∨
        ∀ other ∈ (t.availableTenants week chore).map (·.1), other ∈ t.busyTenants week) := by
  obtain ⟨entry, entry_member, rfl⟩ := List.mem_map.mp member
  dsimp only [availableTenantsFor] at entry_member
  split at entry_member
  · -- every available tenant is busy: all of them are drawn from
    rename_i allBusy
    refine ⟨List.mem_map_of_mem entry_member, .inr fun other other_member => ?_⟩
    obtain ⟨⟨other, score⟩, listed, rfl⟩ := List.mem_map.mp other_member
    have busy := List.filter_eq_nil_iff.mp (List.isEmpty_iff.mp allBusy) _ listed
    simpa using busy
  · obtain ⟨available, free⟩ := List.mem_filter.mp entry_member
    exact ⟨List.mem_map_of_mem available, .inl (by simpa using free)⟩

end Tables

/-- Each row planted slot by slot was planted, for one of the slots, on the tables with the rows
planted before it. -/
theorem Planned.planted_after {exclude : Bool} {t : Tables} {slots : List (Int × String)}
    {logs : List ChoreLogRow} (planned : Planned exclude t slots logs) :
    ∀ pre log post, logs = pre ++ log :: post → ∃ slot ∈ slots,
      Tables.Planted { t with choreLog := t.choreLog ++ pre } exclude slot.1 slot.2 log := by
  induction planned with
  | nil => exact fun pre log post split => absurd split.symm (by simp)
  | skip _ _ ih =>
    intro pre log post split
    obtain ⟨slot, member, planted⟩ := ih pre log post split
    exact ⟨slot, List.mem_cons_of_mem _ member, planted⟩
  | @plant t week chore first slots logs _ planted _ ih =>
    intro pre log post split
    cases pre with
    | nil =>
      -- the first row, planted on `t` itself
      obtain ⟨rfl, -⟩ := List.cons_eq_cons.mp split
      exact ⟨(week, chore), List.mem_cons_self, by simpa using planted⟩
    | cons first' pre =>
      obtain ⟨rfl, rest⟩ := List.cons_eq_cons.mp split
      obtain ⟨slot, member, planted'⟩ := ih pre log post rest
      refine ⟨slot, List.mem_cons_of_mem _ member, ?_⟩
      simpa [List.append_assoc] using planted'

/-- A successful `update_plan` ran on tables that pass `integrity_check`: its first query panics on
the others. -/
theorem intact_of_updatePlan_ok {db db' : Db R} {changed : Bool}
    (ok : (updatePlan env).run db = .ok changed db') : Integrity env db.tables := by
  by_contra broken
  rw [updatePlan_run_of_broken env broken] at ok
  cases ok

/-- **With `try_exclude_busy_tenants`, every row a successful `update_plan` inserts goes to an
available tenant who is not busy when it is drawn, unless every available tenant is.** The rows
are inserted after those `clean_plan` kept, one slot after the other; each is drawn on the tables
with the rows inserted before it, so a tenant who got a chore earlier in the same update counts as
busy. -/
theorem updatePlan_spares_busy {db db' : Db R} {changed : Bool}
    (excluding : env.config.tryExcludeBusyTenants = true)
    (ok : (updatePlan env).run db = .ok changed db') :
    ∃ inserted, db'.tables.choreLog = db.tables.cleanedLogs env.config ++ inserted ∧
      ∀ pre log post, inserted = pre ++ log :: post →
        let t : Tables := { db.tables with choreLog := db.tables.cleanedLogs env.config ++ pre }
        ∃ tenant ∈ t.tenant, tenant.id = log.worker ∧ ∃ chore ∈ t.chore, chore.id = log.choreId ∧
          tenant.name ∈ (t.availableTenants log.week chore.name).map (·.1) ∧
          (tenant.name ∉ t.busyTenants log.week ∨
            ∀ name ∈ (t.availableTenants log.week chore.name).map (·.1),
              name ∈ t.busyTenants log.week) := by
  obtain ⟨inserted, planned, tables'⟩ := updatePlan_ok env (intact_of_updatePlan_ok env ok) ok
  rw [excluding] at planned
  refine ⟨inserted, by rw [tables'], fun pre log post split => ?_⟩
  obtain ⟨slot, -, planted⟩ := planned.planted_after pre log post split
  obtain ⟨chore, chore_member, named, chore_id⟩ := planted.chore_mem
  obtain ⟨tenant, tenant_member, worker, drawn⟩ := planted.worker_mem
  rw [← planted.week_eq, ← named] at drawn
  exact ⟨tenant, tenant_member, worker, chore, chore_member, chore_id,
    Tables.mem_availableTenantsFor_excluding drawn⟩

/-- The sample configuration with `try_exclude_busy_tenants`. -/
def excludingConfig : Config := { sampleConfig with tryExcludeBusyTenants := true }

/-- Anna and Bob live in rooms R1 and R2; Anna has the Dishes of week 0, the current week, and the
Trash of that week is not planned yet. -/
def busyTables : Tables :=
  { Tables.empty with
    room := ["R1", "R2"]
    tenant := [⟨1, "Anna", none⟩, ⟨2, "Bob", none⟩]
    livesIn := [⟨1, "R1", 0, none⟩, ⟨2, "R2", 0, none⟩]
    chore := [⟨1, "Dishes", "wash up", true⟩, ⟨2, "Trash", "take out", true⟩]
    choreLog := [⟨1, 0, 1, false, none⟩]
    currentWeek := some 0 }

def busyDb : Database := ⟨busyTables, by constructor <;> decide⟩

/-- Anna is busy with the Dishes, so the Trash goes to Bob. -/
theorem updatePlan_spares_busy_anna :
    let run := (updatePlan (asciiEnv excludingConfig)).run ⟨busyDb, ()⟩
    run.store.tables.choreLog = [⟨1, 0, 1, false, none⟩, ⟨2, 0, 2, false, none⟩] ∧
      ∃ inserted, run.store.tables.choreLog = busyTables.cleanedLogs excludingConfig ++ inserted ∧
        ∀ pre log post, inserted = pre ++ log :: post →
          let t : Tables := { busyTables with choreLog := busyTables.cleanedLogs excludingConfig ++ pre }
          ∃ tenant ∈ t.tenant, tenant.id = log.worker ∧ ∃ chore ∈ t.chore, chore.id = log.choreId ∧
            tenant.name ∈ (t.availableTenants log.week chore.name).map (·.1) ∧
            (tenant.name ∉ t.busyTenants log.week ∨
              ∀ name ∈ (t.availableTenants log.week chore.name).map (·.1),
                name ∈ t.busyTenants log.week) := by
  intro run
  have succeeded : run.error? = none := by decide +kernel
  obtain ⟨changed, db', ran⟩ := EStateM.Result.exists_ok_of_error? succeeded
  have stored : run.store = db' := by
    rw [ran]
    rfl
  refine ⟨by decide +kernel, ?_⟩
  rw [stored]
  exact updatePlan_spares_busy (asciiEnv excludingConfig) rfl ran

end ChorePlanner
