/-
**Every command that succeeds keeps the plan settled.**

After `update_plan` the plan is `Settled` (`Proofs.Progress`): no `ChoreLog` from the current week
on has a worker who is not available, and no slot of the window with an available tenant is
empty. Most commands end in `update_plan`, and one that succeeds through it leaves a settled plan
whatever the tables were before (`Restores`). The others change nothing the plan depends on:
`create_room` writes only `Room`, `exemption create` links a new reason that no tenant holds yet,
and `move_in` returns before its `LivesIn` row only after setting a chat tag or adding a tenant
who lives nowhere.

* `Tables.SamePlan` — two tables with the same week, chores and plan, the same names for the
  plan's workers and the same available tenants; `SamePlan.settled` carries `Settled` over.
* one `_samePlan` lemma for each statement those commands run.
* `updatePlan_restores` — a successful `update_plan` leaves a settled plan.
* `runCli_keeps_settled` — **every command line that succeeds on tables with a settled plan
  leaves the plan settled.**
-/

import ChorePlanner.Proofs.Workers

set_option linter.unusedSectionVars false

namespace ChorePlanner

open EStateM

/-! ### What a settled plan reads -/

namespace Tables

/-- `t'` has the current week, the chores and the plan of `t`, every worker of the plan has in
`t'` a name it has in `t`, and the same tenants are available for every chore and week. -/
structure SamePlan (t t' : Tables) : Prop where
  currentWeek : t'.currentWeek = t.currentWeek
  chore : t'.chore = t.chore
  choreLog : t'.choreLog = t.choreLog
  worker : ∀ log ∈ t.choreLog, ∀ tenant ∈ t'.tenant, tenant.id = log.worker →
    ∃ old ∈ t.tenant, old.id = tenant.id ∧ old.name = tenant.name
  available : ∀ week chore name, name ∈ (t'.availableTenants week chore).map (·.1) ↔
    name ∈ (t.availableTenants week chore).map (·.1)

variable {t t' : Tables} {config : Config}

theorem SamePlan.weeksToPlan (same : t.SamePlan t') : t'.weeksToPlan config = t.weeksToPlan config := by
  unfold Tables.weeksToPlan unplannedChores
  rw [thisWeek_congr same.currentWeek, same.chore, same.choreLog]

theorem SamePlan.availableTenants_eq_nil (same : t.SamePlan t') (week : Int) (chore : String) :
    t'.availableTenants week chore = [] ↔ t.availableTenants week chore = [] := by
  rw [← @List.map_eq_nil_iff _ _ (·.1), ← @List.map_eq_nil_iff _ _ (·.1) (t.availableTenants week chore),
    List.eq_nil_iff_forall_not_mem, List.eq_nil_iff_forall_not_mem]
  exact forall_congr' fun name => not_congr (same.available week chore name)

/-- **Tables with the same plan are settled together**: a doomed row of `t'` would be doomed in
`t`, and its empty slots are those of `t`. -/
theorem SamePlan.settled (same : t.SamePlan t') (settled : t.Settled config) : t'.Settled config where
  none_doomed log member doomed := by
    rw [same.choreLog] at member
    obtain ⟨later, chore, chore_member, chore_id, tenant, tenant_member, worker, unlisted⟩ := doomed
    obtain ⟨old, old_member, same_id, same_name⟩ := same.worker log member tenant tenant_member worker
    refine settled.none_doomed log member ⟨thisWeek_congr same.currentWeek config ▸ later, chore,
      same.chore ▸ chore_member, chore_id, old, old_member, same_id.trans worker, ?_⟩
    rw [same_name, ← same.available]
    exact unlisted
  slots_empty slot member := by
    rw [same.weeksToPlan] at member
    exact (same.availableTenants_eq_nil slot.1 slot.2).mpr (settled.slots_empty slot member)

/-! ### Who is available, by tenant id -/

/-- The query reads a tenant's row only for its id. -/
theorem queryAvailable_congr {tenant tenant' : TenantRow} (same : tenant'.id = tenant.id)
    (chore : ChoreRow) (week : Int) :
    t.QueryAvailable tenant' chore week ↔ t.QueryAvailable tenant chore week := by
  obtain ⟨id, name, tag⟩ := tenant
  obtain ⟨id', name', tag'⟩ := tenant'
  subst same
  exact Iff.rfl

/-- A new `Tenant` table lists the same available names when every resident in it has the id
and the name of an old row, and every old row has a new one with its id and name. -/
theorem availableTenants_names_of_tenants {rows : List TenantRow}
    (forth : ∀ tenant ∈ rows, ∀ week, t.LivesInWeek tenant week →
      ∃ old ∈ t.tenant, old.id = tenant.id ∧ old.name = tenant.name)
    (back : ∀ old ∈ t.tenant, ∃ tenant ∈ rows, tenant.id = old.id ∧ tenant.name = old.name)
    (week : Int) (choreName name : String) :
    name ∈ (Tables.availableTenants { t with tenant := rows } week choreName).map (·.1) ↔
      name ∈ (t.availableTenants week choreName).map (·.1) := by
  rw [mem_availableTenants_names, mem_availableTenants_names]
  constructor
  · rintro ⟨tenant, member, rfl, chore, chore_member, named, available⟩
    obtain ⟨old, old_member, same_id, same_name⟩ := forth tenant member week available.1
    exact ⟨old, old_member, same_name, chore, chore_member, named,
      (queryAvailable_congr same_id chore week).mpr available⟩
  · rintro ⟨old, old_member, rfl, chore, chore_member, named, available⟩
    obtain ⟨tenant, member, same_id, same_name⟩ := back old old_member
    exact ⟨tenant, member, same_name, chore, chore_member, named,
      (queryAvailable_congr same_id chore week).mpr available⟩

end Tables

/-! ### The statements of the commands that do not update the plan -/

namespace Database

variable {con : Database} {result : Executed}

theorem insertRoom_samePlan {name : String} (ok : con.insertRoom name = .ok result) :
    con.tables.SamePlan result.con.tables := by
  unfold insertRoom at ok
  split at ok
  · cases ok
  · cases ok
    refine ⟨rfl, rfl, rfl, fun _ _ tenant member _ => ⟨tenant, member, rfl, rfl⟩, fun _ _ _ => ?_⟩
    rw [Tables.mem_availableTenants_names, Tables.mem_availableTenants_names]
    rfl

/-- The new reason gets an id no row of `ExemptionReason` had. -/
theorem insertExemptionReason_samePlan {reason : String}
    (ok : con.insertExemptionReason reason = .ok result) :
    con.tables.SamePlan result.con.tables ∧
      result.lastInsertRowid ∉ con.tables.exemptionReason.map (·.id) ∧
      result.con.tables.tenantExemption = con.tables.tenantExemption := by
  unfold insertExemptionReason at ok
  split at ok
  · cases ok
  · cases ok
    refine ⟨⟨rfl, rfl, rfl, fun _ _ tenant member _ => ⟨tenant, member, rfl, rfl⟩, fun _ _ _ => ?_⟩,
      Sql.nextRowid_not_mem _, rfl⟩
    rw [Tables.mem_availableTenants_names, Tables.mem_availableTenants_names]
    rfl

theorem updateTenantChatTag_samePlan {chatTag name : String}
    (ok : con.updateTenantChatTag chatTag name = .ok result) :
    con.tables.SamePlan result.con.tables := by
  unfold updateTenantChatTag at ok
  cases ok
  -- the rows keep their ids and names
  have kept : ∀ tenant ∈ Sql.update con.tables.tenant (·.name == name)
      (fun row => { row with chatTag := chatTag }), ∃ old ∈ con.tables.tenant,
        old.id = tenant.id ∧ old.name = tenant.name := by
    intro tenant member
    obtain ⟨old, old_member, rfl⟩ := List.mem_map.mp member
    exact ⟨old, old_member, by split <;> rfl, by split <;> rfl⟩
  refine ⟨rfl, rfl, rfl, fun _ _ tenant member _ => kept tenant member,
    Tables.availableTenants_names_of_tenants (fun tenant member _ _ => kept tenant member) ?_⟩
  intro old member
  refine ⟨if old.name == name then { old with chatTag := chatTag } else old,
    List.mem_map_of_mem member, ?_, ?_⟩ <;> split <;> rfl

/-- The new tenant lives nowhere and works no `ChoreLog`: its id is new. -/
theorem insertTenant_samePlan {name : String} {chatTag : Option String}
    (ok : con.insertTenant name chatTag = .ok result) : con.tables.SamePlan result.con.tables := by
  unfold insertTenant at ok
  split at ok
  · cases ok
  · cases ok
    have fresh := Sql.nextRowid_not_mem (con.tables.tenant.map (·.id))
    -- every row of the new table is old, or the new tenant, whose id no row refers to
    have old_or_new : ∀ tenant ∈ con.tables.tenant ++
        [⟨Sql.nextRowid (con.tables.tenant.map (·.id)), name, chatTag⟩],
        tenant.id ∈ con.tables.tenant.map (·.id) →
          ∃ old ∈ con.tables.tenant, old.id = tenant.id ∧ old.name = tenant.name := by
      intro tenant member known
      rcases List.mem_append.mp member with old | new
      · exact ⟨tenant, old, rfl, rfl⟩
      · rw [List.mem_singleton.mp new] at known
        exact absurd known fresh
    refine ⟨rfl, rfl, rfl, fun log member tenant tenant_member worker =>
      old_or_new tenant tenant_member (worker ▸ con.valid.choreLog_worker log member),
      Tables.availableTenants_names_of_tenants (fun tenant member _ lives => ?_)
        fun old member => ⟨old, List.mem_append_left _ member, rfl, rfl⟩⟩
    obtain ⟨livesIn, livesIn_member, resident, -⟩ := lives
    exact old_or_new tenant member (resident ▸ con.valid.livesIn_tenant livesIn livesIn_member)

/-- A link of a reason no tenant holds exempts nobody. -/
theorem insertChoreExemption_samePlan {chore : Option Nat} {reasonId : Nat}
    (unheld : ∀ exemption ∈ con.tables.tenantExemption, exemption.exemptionReasonId ≠ reasonId)
    (ok : con.insertChoreExemption chore (some reasonId) = .ok result) :
    con.tables.SamePlan result.con.tables ∧
      result.con.tables.tenantExemption = con.tables.tenantExemption := by
  cases chore with
  | none => cases ok
  | some choreId =>
    dsimp only [insertChoreExemption] at ok
    split at ok
    · cases ok
    split at ok
    · cases ok
      -- the new link names the new reason, which no exemption has
      have exempts : ∀ exemption ∈ con.tables.tenantExemption, ∀ id : Nat,
          Tables.ExemptsFrom { con.tables with
            choreExemption := con.tables.choreExemption ++ [⟨choreId, reasonId⟩] } exemption id ↔
          con.tables.ExemptsFrom exemption id := by
        intro exemption member id
        unfold Tables.ExemptsFrom
        simp only [List.mem_append, List.mem_singleton]
        constructor
        · rintro ⟨link, linked | rfl, same_reason, same_chore⟩
          · exact ⟨link, linked, same_reason, same_chore⟩
          · exact absurd same_reason (unheld exemption member)
        · rintro ⟨link, linked, same_reason, same_chore⟩
          exact ⟨link, .inl linked, same_reason, same_chore⟩
      refine ⟨⟨rfl, rfl, rfl, fun _ _ tenant member _ => ⟨tenant, member, rfl, rfl⟩,
        fun week chore name => ?_⟩, rfl⟩
      rw [Tables.mem_availableTenants_names, Tables.mem_availableTenants_names]
      refine exists_congr fun tenant => and_congr_right fun _ => and_congr_right fun _ =>
        exists_congr fun chore => and_congr_right fun _ => and_congr_right fun _ => ?_
      unfold Tables.QueryAvailable
      refine and_congr_right fun _ => and_congr_left fun _ => or_congr_right ?_
      exact exists_congr fun exemption => and_congr_right fun member =>
        and_congr_right fun _ => not_congr (exempts exemption member chore.id)
    · cases ok

end Database

/-! ### The methods -/

section Methods

variable {R : Type} (env : Env R)

/-- The plan of the tables is settled. -/
def PlanSettled (db : Db R) : Prop := db.tables.Settled env.config

/-- Reading keeps a settled plan, and so does a sequence of steps that each keep it. -/
theorem planSettled_closed :
    Closed (Agree Db.tables) (Guards (PlanSettled env) (fun _ : Failure => True)) :=
  Guards.closed fun db db' same settled => by
    unfold PlanSettled
    rw [show db'.tables = db.tables from same]
    exact settled

/-- A statement whose successful runs keep `P` guards it: a refused one changes nothing. -/
theorem execute_guards {P : Db R → Prop} {fatal : Failure → Prop} {statement : Database → Except Error Executed}
    (keeps : ∀ db result, statement db.con = .ok result → P db → P { db with con := result.con }) :
    Guards P fatal (execute statement) := by
  intro db holds
  cases ran : statement db.con with
  | ok result =>
    rw [execute_run_ok ran]
    exact .inl (keeps db result ran holds)
  | error e =>
    rw [execute_run_error ran]
    exact .inl holds

theorem execute_keeps_settled {statement : Database → Except Error Executed}
    (same : ∀ con result, statement con = .ok result → con.tables.SamePlan result.con.tables) :
    Guards (PlanSettled env) (fun _ : Failure => True) (execute statement) :=
  execute_guards fun db result ran settled => (same db.con result ran).settled settled

/-- **A successful `update_plan` leaves a settled plan**, whatever the tables before. -/
theorem updatePlan_restores :
    Restores (PlanSettled env) (fun _ : Failure => True) (updatePlan env) := by
  intro db
  cases ran : (updatePlan env).run db with
  | ok changed db' => exact .inl (updatePlan_settled env (intact_of_updatePlan_ok env ran) ran)
  | error e db' => exact .inr ⟨e, rfl, trivial⟩

/-- A method that ends in `update_plan` and reads after it leaves a settled plan. -/
theorem updatePlan_bind_restores {α : Type} {k : Bool → DbM R α}
    (reads : ∀ changed, Respects (Keeps (PlanSettled env)) (k changed)) :
    Restores (PlanSettled env) (fun _ : Failure => True) (updatePlan env >>= k) :=
  Restores.bind (updatePlan_restores env) fun changed => Guards.of_respects (reads changed)

/-! The methods that end in `update_plan`: whatever they wrote before, a success ran it last. -/

theorem replan_restores (tenant : String) (week : Int) :
    Restores (PlanSettled env) (fun _ : Failure => True) (replan env tenant week) := by
  unfold replan
  refine .after fun _ => .after fun _ => ?_
  dsimp only
  split
  · exact .after fun _ => updatePlan_bind_restores env fun _ => .pure _
  · exact updatePlan_bind_restores env fun _ => .pure _

/-- A last read, then `update_plan`. -/
theorem then_updatePlan_restores {α : Type} (x : DbM R α) :
    Restores (PlanSettled env) (fun _ : Failure => True) (x >>= fun _ => updatePlan env >>= fun _ => pure ()) :=
  .after fun _ => updatePlan_bind_restores env fun _ => .pure _

theorem moveOut_restores (tenant : String) :
    Restores (PlanSettled env) (fun _ : Failure => True) (moveOut env tenant) := by
  unfold moveOut
  dsimp only
  refine .after fun _ => ?_
  -- the room, or a failure; then undo a move-in of this week, or else end the stay
  split
  all_goals
    refine .after fun _ => .after fun _ => ?_
    split
    · refine .after fun _ => .after fun _ => .after fun _ => ?_
      split
      · exact .after fun _ => then_updatePlan_restores env _
      · exact then_updatePlan_restores env _
    · exact then_updatePlan_restores env _

theorem changeExemptionReason_restores (reason : String) (chores : List String) :
    Restores (PlanSettled env) (fun _ : Failure => True) (changeExemptionReason env reason chores) := by
  unfold changeExemptionReason
  dsimp only
  refine .after fun _ => ?_
  split
  · exact .after fun _ => .after fun _ => .after fun _ => .after fun _ => then_updatePlan_restores env _
  · exact .after fun _ => .after fun _ => .after fun _ => then_updatePlan_restores env _

/-- `grant_exemption` and `revoke_exemption` differ only in their guard and their statement. -/
theorem grantExemption_restores (reason tenant : String) :
    Restores (PlanSettled env) (fun _ : Failure => True) (grantExemption env reason tenant) := by
  unfold grantExemption
  dsimp only
  refine .after fun _ => ?_
  split
  · refine .after fun _ => .after fun _ => .after fun _ => .after fun _ => ?_
    split
    · exact .after fun _ => then_updatePlan_restores env _
    · exact then_updatePlan_restores env _
  · refine .after fun _ => .after fun _ => .after fun _ => ?_
    split
    · exact .after fun _ => then_updatePlan_restores env _
    · exact then_updatePlan_restores env _

theorem revokeExemption_restores (reason tenant : String) :
    Restores (PlanSettled env) (fun _ : Failure => True) (revokeExemption env reason tenant) := by
  unfold revokeExemption
  dsimp only
  refine .after fun _ => ?_
  split
  · refine .after fun _ => .after fun _ => .after fun _ => .after fun _ => ?_
    split
    · exact .after fun _ => then_updatePlan_restores env _
    · exact then_updatePlan_restores env _
  · refine .after fun _ => .after fun _ => .after fun _ => ?_
    split
    · exact .after fun _ => then_updatePlan_restores env _
    · exact then_updatePlan_restores env _

theorem createChore_restores (name description : String) :
    Restores (PlanSettled env) (fun _ : Failure => True) (createChore env name description) := by
  unfold createChore
  dsimp only
  refine .after fun _ => .after fun _ => ?_
  split
  on_goal 1 => refine .after fun _ => ?_
  all_goals
    refine updatePlan_bind_restores env fun _ => ?_
    exact .ite (listPlan_reads env) (.pure _)

theorem setChoreActiveState_restores (name : String) (activeState : Bool) :
    Restores (PlanSettled env) (fun _ : Failure => True) (setChoreActiveState env name activeState) := by
  unfold setChoreActiveState
  dsimp only
  refine .after fun _ => .after fun _ => ?_
  split
  on_goal 1 => refine .after fun _ => ?_
  all_goals
    refine updatePlan_bind_restores env fun _ => ?_
    exact .ite (listPlan_reads env) (.pure _)

/-! The methods that do not update the plan write nothing it reads. -/

theorem createRoom_guards (name : String) :
    Guards (PlanSettled env) (fun _ : Failure => True) (createRoom env name) := by
  have closed := planSettled_closed env
  unfold createRoom
  refine closed.bind (execute_keeps_settled env fun _ _ ok => Database.insertRoom_samePlan ok) fun _ =>
    closed.bind_neutral (integrityCheck_reads env) fun _ =>
      closed.ite (closed.bind_neutral (bail_reads _) fun _ => ?_) ?_
  all_goals exact closed.of_neutral (listTenants_reads env)

/-- `move_in` updates the plan after the `LivesIn` row; it returns before that only when the room
is taken or the tenant lives elsewhere, after a new chat tag or a new tenant. -/
theorem moveIn_guards (tenant : String) (tag : Option String) (room : String) :
    Guards (PlanSettled env) (fun _ : Failure => True) (moveIn env tenant tag room) := by
  have closed := planSettled_closed env
  unfold moveIn
  dsimp only
  refine closed.bind_neutral (getTenantId_reads env _) fun _ => closed.ite ?_ ?_
  -- a known tenant may get a new chat tag, an unknown one is inserted
  split
  refine closed.bind (execute_keeps_settled env fun _ _ ok => Database.updateTenantChatTag_samePlan ok)
    fun _ => closed.bind_neutral (integrityCheck_reads env) fun _ =>
      closed.ite (closed.bind_neutral (bail_reads _) fun _ => ?_) ?_
  on_goal 4 =>
    refine closed.bind (execute_keeps_settled env fun _ _ ok => Database.insertTenant_samePlan ok)
      fun _ => closed.bind_neutral (integrityCheck_reads env) fun _ =>
        closed.ite (closed.bind_neutral (bail_reads _) fun _ => ?_) ?_
  -- the room checks, then the `LivesIn` row and the plan update
  all_goals
    exact closed.bind_neutral (getRoomsTenant_reads env _) fun _ => closed.ite (closed.of_neutral (.pure _)) <|
      closed.bind_neutral (getTenantsRoom_reads env _) fun _ => closed.ite (closed.of_neutral (.pure _)) <|
        Restores.guards (.after fun _ => .after fun _ => .after fun _ => then_updatePlan_restores env _)

/-- No `TenantExemption` holds the reason. -/
def ReasonUnheld (reasonId : Nat) (db : Db R) : Prop :=
  ∀ exemption ∈ db.tables.tenantExemption, exemption.exemptionReasonId ≠ reasonId

/-- `exemption create` links only its new reason, which no tenant holds. -/
theorem createExemptionReason_guards (reason : String) (chores : List String) :
    Guards (PlanSettled env) (fun _ : Failure => True) (createExemptionReason env reason chores) := by
  intro db settled
  unfold createExemptionReason
  refine Result.guarded_bind (execute_keeps_settled env (fun _ _ ok => (Database.insertExemptionReason_samePlan ok).1) db settled)
    fun res db₁ ran settled₁ => ?_
  obtain ⟨inserted, rfl⟩ := execute_ok ran
  obtain ⟨-, fresh, exemptions⟩ := Database.insertExemptionReason_samePlan inserted
  have unheld : ReasonUnheld res.lastInsertRowid { db with con := res.con } := fun exemption member same =>
    fresh (same ▸ db.con.valid.tenantExemption_reason exemption (exemptions ▸ member))
  -- while the links are inserted, the reason stays unheld and the plan settled
  have closed : Closed (Agree Db.tables) (Guards (fun db : Db R =>
      PlanSettled env db ∧ ReasonUnheld res.lastInsertRowid db) (fun _ : Failure => True)) :=
    Guards.closed fun db db' same held => by
      unfold PlanSettled ReasonUnheld
      rw [show db'.tables = db.tables from same]
      exact held
  have linked : ∀ chore : String, Guards (fun db : Db R =>
      PlanSettled env db ∧ ReasonUnheld res.lastInsertRowid db) (fun _ : Failure => True)
      (execute fun con => con.insertChoreExemption (con.choreId chore) (some res.lastInsertRowid)) := by
    intro chore
    apply execute_guards
    intro db result ok held
    have kept := Database.insertChoreExemption_samePlan held.2 ok
    exact ⟨kept.1.settled held.1, fun exemption member => held.2 exemption (kept.2 ▸ member)⟩
  refine Guards.run_mono (P := fun db => PlanSettled env db ∧ ReasonUnheld res.lastInsertRowid db) ?_
    ⟨settled₁, unheld⟩ fun _ held => held.1
  refine closed.bind_neutral (integrityCheck_reads env) fun _ => ?_
  dsimp only
  refine closed.ite (closed.bind_neutral (bail_reads _) fun _ => ?_) ?_
  all_goals
    exact closed.bind (closed.forM (fun chore => closed.bind (linked chore) fun _ =>
      closed.bind_neutral (integrityCheck_reads env) fun _ => closed.of_neutral (.ite (bail_reads _) (.pure _))) _)
        fun _ => closed.of_neutral (listExemptions_reads env)

/-- Every command line keeps a settled plan settled, unless it fails: the reads, `createRoom`, a
new tenant or chat tag and the new exemption reason change nothing the plan reads, and every
other command ends in `update_plan`. -/
theorem runCli_keeps_settled (cli : Cli) : Guards (PlanSettled env) (fun _ : Failure => True) (runCli env cli) := by
  have closed := planSettled_closed env
  rcases cli with ⟨_ | command⟩
  · exact closed.of_neutral (.throw _)
  rcases command with ⟨tenant, week, year⟩ | ⟨week, year⟩ | (_ | command) | (_ | command) |
    (_ | command)
  · exact closed.bind_neutral (weekOfCommand_reads env week year) fun week =>
      Restores.guards (replan_restores env tenant week)
  · exact closed.of_neutral (.bind (weekOfCommand_reads env week year) fun _ => printReport_reads env)
  · exact closed.of_neutral (.throw _)
  · cases command with
    | list => exact closed.of_neutral (listTenants_reads env)
    | moveIn name tag room => exact moveIn_guards env name tag room
    | moveOut name => exact Restores.guards (moveOut_restores env name)
    | createRoom name => exact createRoom_guards env name
  · exact closed.of_neutral (.throw _)
  · cases command with
    | list => exact closed.of_neutral (listPlan_reads env)
    | create name description => exact Restores.guards (createChore_restores env name description)
    | deactivate name => exact Restores.guards (setChoreActiveState_restores env name false)
    | reactivate name => exact Restores.guards (setChoreActiveState_restores env name true)
  · exact closed.of_neutral (.throw _)
  · cases command with
    | list => exact closed.of_neutral (listExemptions_reads env)
    | create chores reason => exact createExemptionReason_guards env reason chores
    | change reason chores => exact Restores.guards (changeExemptionReason_restores env reason chores)
    | grant tenant reason => exact Restores.guards (grantExemption_restores env reason tenant)
    | revoke reason tenant => exact Restores.guards (revokeExemption_restores env reason tenant)

/-- **A command that succeeds keeps the plan settled**: from tables where no `ChoreLog` row is
doomed and no open slot has an available tenant, whatever the input. -/
theorem runCommand_success_settled (parse : String → Except Error Cli) (input : String)
    {db db' : Db R} (settled : db.tables.Settled env.config)
    (succeeded : (runCommand env parse input).run db = .ok () db') : db'.tables.Settled env.config :=
  (runCommand_guards env (runCli_keeps_settled env) parse input).of_run_ok settled succeeded

end Methods

/-- A parser that reads every input as `chore create Trash "take out"`. -/
def parseCreateTrash (_ : String) : Except Error Cli :=
  .ok ⟨some (.chore (some (.create "Trash" "take out")))⟩

/-- After Anna took the Dishes, a second chore is planned and the plan stays settled. -/
theorem runCommand_success_settled_trash :
    let db := (runFromEmpty (asciiEnv sampleConfig) () dishesRun).store
    ∃ db', (runCommand (asciiEnv sampleConfig) parseCreateTrash "chore create Trash").run db = .ok () db' ∧
      db.tables.Settled sampleConfig ∧ db'.tables.Settled sampleConfig := by
  intro db
  have succeeded : ((runCommand (asciiEnv sampleConfig) parseCreateTrash "chore create Trash").run db).error? = none := by
    decide +kernel
  obtain ⟨⟨⟩, db', ran⟩ := EStateM.Result.exists_ok_of_error? succeeded
  have settled : db.tables.Settled sampleConfig := ⟨by decide +kernel, by decide +kernel⟩
  exact ⟨db', ran, settled, runCommand_success_settled (asciiEnv sampleConfig) parseCreateTrash _ settled ran⟩

end ChorePlanner
