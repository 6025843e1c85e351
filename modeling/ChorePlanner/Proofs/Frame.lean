/-
**What each command may write: the frame of every statement and every method.**

No method runs in a transaction, so a failure leaves every statement before it committed. What
does hold is a frame: every outcome of a method, success or failure, leaves the tables outside a
fixed set as they were.

* `Table`, `Tables.Same` — the tables of the schema (`KeyValue` included) and "this table holds
  the same rows in both".
* `WritesOnly writes` — two states whose tables outside `writes` agree; it is reflexive and
  transitive, so the frame rules of `EStateM.Respects` apply to it.
* `Statement.Writes` — the tables a statement changes when it succeeds; one lemma per statement
  of `Model.Statements`, and `execute_writes` lifts it to `execute`.
* `Checked Good writes` — each statement that writes within `writes`, followed by
  `integrity_check`, keeps the property `Good` of programs. One `_closed` lemma per method: it
  has every property closed under sequencing (`EStateM.Closed`) that its checked statements keep,
  and that `update_plan` has where it ends in `update_plan`; `updatePlan_closed` for the plan
  update and `runCli_closed` for every command line. A frame is such a property when each
  statement keeps its relation (`Executes`, `Executes.checked`).
* `updatePlan_writes` — the plan update writes only `ChoreLog`.
* `Cli.writes` — the tables a command line may write, `runCli_writes`, and
  `runCommand_failure_writes_only`:
  **a failed command leaves every table outside its write set as it was**.
* `runCommand_success_intact` — **a command that succeeds leaves tables that pass
  `integrity_check`**, from tables that pass it; a failed one need not.
* `changeExemptionReason_failure_keeps_deletion` — inside the write set nothing is rolled back:
  a failed `exemption change` leaves the reason's `ChoreExemption` rows deleted.
-/

import ChorePlanner.Proofs.Runs

set_option linter.unusedSectionVars false

namespace ChorePlanner

open EStateM

/-! ### Tables and frames -/

/-- The tables of the schema; `keyValue` is the row `current_week` of `KeyValue`. -/
inductive Table where
  | room
  | tenant
  | livesIn
  | unwilling
  | chore
  | exemptionReason
  | tenantExemption
  | choreExemption
  | choreLog
  | rating
  | keyValue
  deriving DecidableEq, Repr

namespace Tables

/-- The table holds the same rows in `t'` as in `t`. -/
def Same (t t' : Tables) : Table → Prop
  | .room => t'.room = t.room
  | .tenant => t'.tenant = t.tenant
  | .livesIn => t'.livesIn = t.livesIn
  | .unwilling => t'.unwilling = t.unwilling
  | .chore => t'.chore = t.chore
  | .exemptionReason => t'.exemptionReason = t.exemptionReason
  | .tenantExemption => t'.tenantExemption = t.tenantExemption
  | .choreExemption => t'.choreExemption = t.choreExemption
  | .choreLog => t'.choreLog = t.choreLog
  | .rating => t'.rating = t.rating
  | .keyValue => t'.currentWeek = t.currentWeek

theorem same_refl (t : Tables) (table : Table) : t.Same t table := by
  cases table <;> exact rfl

theorem Same.trans {t t' t'' : Tables} {table : Table} (first : t.Same t' table)
    (second : t'.Same t'' table) : t.Same t'' table := by
  cases table <;> exact Eq.trans second first

end Tables

variable {R : Type}

/-- The tables outside `writes` are the same in `db'` as in `db`. -/
def WritesOnly (writes : List Table) (db db' : Db R) : Prop :=
  ∀ table ∉ writes, db.tables.Same db'.tables table

instance (writes : List Table) : Std.Refl (WritesOnly (R := R) writes) :=
  ⟨fun db _ _ => db.tables.same_refl _⟩

instance (writes : List Table) : IsTrans (Db R) (WritesOnly writes) :=
  ⟨fun _ _ _ first second table untouched => (first table untouched).trans (second table untouched)⟩

theorem WritesOnly.mono {writes writes' : List Table} {db db' : Db R} (sub : writes ⊆ writes')
    (frame : WritesOnly writes db db') : WritesOnly writes' db db' :=
  fun table untouched => frame table fun member => untouched (sub member)

/-- A method that writes at most `writes` writes at most any larger set. -/
theorem Respects.widen {α : Type} {writes writes' : List Table} {x : DbM R α}
    (frame : Respects (WritesOnly writes) x) (sub : writes ⊆ writes') :
    Respects (WritesOnly writes') x :=
  EStateM.Respects.mono frame fun _ _ => WritesOnly.mono sub

/-! ### Statements -/

/-- When the statement succeeds, it changes at most the tables `writes`. -/
def Statement.Writes (writes : List Table) (statement : Database → Except Error Executed) : Prop :=
  ∀ con result, statement con = .ok result → ∀ table ∉ writes, con.tables.Same result.con.tables table

theorem execute_writes {writes : List Table} {statement : Database → Except Error Executed}
    (writes_ok : Statement.Writes writes statement) :
    Respects (WritesOnly (R := R) writes) (execute statement) := by
  intro db
  simp only [execute, EStateM.run_bind, EStateM.run_get]
  split
  · rename_i result ran
    exact writes_ok db.con result ran
  · exact Std.Refl.refl db

section Statements

theorem insertRoom_writes (name : String) : Statement.Writes [.room] (·.insertRoom name) := by
  intro con result ran table untouched
  dsimp only [Database.insertRoom] at ran
  repeat' split at ran
  all_goals cases ran
  cases table <;> first | exact rfl | simp at untouched

theorem insertTenant_writes (name : String) (chatTag : Option String) : Statement.Writes [.tenant] (·.insertTenant name chatTag) := by
  intro con result ran table untouched
  dsimp only [Database.insertTenant] at ran
  repeat' split at ran
  all_goals cases ran
  cases table <;> first | exact rfl | simp at untouched

theorem updateTenantChatTag_writes (chatTag : String) (name : String) : Statement.Writes [.tenant] (·.updateTenantChatTag chatTag name) := by
  intro con result ran table untouched
  dsimp only [Database.updateTenantChatTag] at ran
  cases ran
  cases table <;> first | exact rfl | simp at untouched

theorem insertLivesIn_writes (tenant : String) (room : String) (week : Int) : Statement.Writes [.livesIn] (·.insertLivesIn tenant room week) := by
  intro con result ran table untouched
  dsimp only [Database.insertLivesIn] at ran
  repeat' split at ran
  all_goals cases ran
  cases table <;> first | exact rfl | simp at untouched

theorem deleteLivesIn_writes (tenant : String) (room : String) (week : Int) : Statement.Writes [.livesIn] (·.deleteLivesIn tenant room week) := by
  intro con result ran table untouched
  dsimp only [Database.deleteLivesIn] at ran
  cases ran
  cases table <;> first | exact rfl | simp at untouched

theorem updateLivesInMoveOut_writes (week : Int) (tenant : String) : Statement.Writes [.livesIn] (·.updateLivesInMoveOut week tenant) := by
  intro con result ran table untouched
  dsimp only [Database.updateLivesInMoveOut] at ran
  cases ran
  cases table <;> first | exact rfl | simp at untouched

theorem replaceUnwilling_writes (tenant : String) (week : Int) : Statement.Writes [.unwilling] (·.replaceUnwilling tenant week) := by
  intro con result ran table untouched
  dsimp only [Database.replaceUnwilling] at ran
  repeat' split at ran
  all_goals cases ran
  cases table <;> first | exact rfl | simp at untouched

theorem insertChore_writes (name : String) (description : String) : Statement.Writes [.chore] (·.insertChore name description) := by
  intro con result ran table untouched
  dsimp only [Database.insertChore] at ran
  repeat' split at ran
  all_goals cases ran
  cases table <;> first | exact rfl | simp at untouched

theorem updateChoreActive_writes (active : Bool) (name : String) : Statement.Writes [.chore] (·.updateChoreActive active name) := by
  intro con result ran table untouched
  dsimp only [Database.updateChoreActive] at ran
  cases ran
  cases table <;> first | exact rfl | simp at untouched

theorem insertExemptionReason_writes (reason : String) : Statement.Writes [.exemptionReason] (·.insertExemptionReason reason) := by
  intro con result ran table untouched
  dsimp only [Database.insertExemptionReason] at ran
  repeat' split at ran
  all_goals cases ran
  cases table <;> first | exact rfl | simp at untouched

theorem deleteChoreExemption_writes (reason : String) : Statement.Writes [.choreExemption] (·.deleteChoreExemption reason) := by
  intro con result ran table untouched
  dsimp only [Database.deleteChoreExemption] at ran
  cases ran
  cases table <;> first | exact rfl | simp at untouched

theorem insertTenantExemption_writes (tenant : String) (reason : String) (week : Int) : Statement.Writes [.tenantExemption] (·.insertTenantExemption tenant reason week) := by
  intro con result ran table untouched
  dsimp only [Database.insertTenantExemption] at ran
  repeat' split at ran
  all_goals cases ran
  cases table <;> first | exact rfl | simp at untouched

theorem updateTenantExemptionEnd_writes (week : Int) (tenant : String) (reason : String) : Statement.Writes [.tenantExemption] (·.updateTenantExemptionEnd week tenant reason) := by
  intro con result ran table untouched
  dsimp only [Database.updateTenantExemptionEnd] at ran
  cases ran
  cases table <;> first | exact rfl | simp at untouched

theorem deleteChoreLog_writes (chore : String) (week : Int) : Statement.Writes [.choreLog] (·.deleteChoreLog chore week) := by
  intro con result ran table untouched
  dsimp only [Database.deleteChoreLog] at ran
  repeat' split at ran
  all_goals cases ran
  cases table <;> first | exact rfl | simp at untouched

theorem insertChoreLog_writes (chore : String) (week : Int) (tenant : String) : Statement.Writes [.choreLog] (·.insertChoreLog chore week tenant) := by
  intro con result ran table untouched
  dsimp only [Database.insertChoreLog] at ran
  repeat' split at ran
  all_goals cases ran
  cases table <;> first | exact rfl | simp at untouched

theorem updateChoreLogPoll_writes (pollId : Int) (week : Int) (chore : String) : Statement.Writes [.choreLog] (·.updateChoreLogPoll pollId week chore) := by
  intro con result ran table untouched
  dsimp only [Database.updateChoreLogPoll] at ran
  repeat' split at ran
  all_goals cases ran
  cases table <;> first | exact rfl | simp at untouched

theorem updateChoreLogCompleted_writes (pollId : Int) : Statement.Writes [.choreLog] (·.updateChoreLogCompleted pollId) := by
  intro con result ran table untouched
  dsimp only [Database.updateChoreLogCompleted] at ran
  cases ran
  cases table <;> first | exact rfl | simp at untouched

theorem insertRating_writes (pollId : Int) (rating : Nat) : Statement.Writes [.rating] (·.insertRating pollId rating) := by
  intro con result ran table untouched
  dsimp only [Database.insertRating] at ran
  repeat' split at ran
  all_goals cases ran
  cases table <;> first | exact rfl | simp at untouched

theorem replaceCurrentWeek_writes (week : Int) : Statement.Writes [.keyValue] (·.replaceCurrentWeek week) := by
  intro con result ran table untouched
  dsimp only [Database.replaceCurrentWeek] at ran
  cases ran
  cases table <;> first | exact rfl | simp at untouched

/-- `insertChoreExemption` takes the chore and the reason as its subqueries computed them, on the
database it runs on. -/
theorem insertChoreExemption_writes (chore reason : Database → Option Nat) :
    Statement.Writes [.choreExemption] fun con => con.insertChoreExemption (chore con) (reason con) := by
  intro con result ran table untouched
  dsimp only [Database.insertChoreExemption] at ran
  repeat' split at ran
  all_goals cases ran
  cases table <;> first | exact rfl | simp at untouched

end Statements

/-! ### The reads

A read never sets the state, so it respects every reflexive and transitive relation. -/

variable (env : Env R)

section Reads

variable {r : Db R → Db R → Prop} [Std.Refl r] [IsTrans (Db R) r]

theorem getWeekInternal_reads : Respects r (getWeekInternal env) := by
  unfold getWeekInternal
  exact .bind .get fun _ => .ite (.pure _) (.throw _)

theorem integrityCheck_reads : Respects r (integrityCheck env) := by
  unfold integrityCheck
  refine .bind .get fun _ => ?_
  split
  · exact .pure _
  · exact .throw _

theorem bail_reads {α : Type} (message : String) : Respects r (bail message : DbM R α) :=
  .throw _

theorem getAllAvailableTenantsUnnormalized_reads (week : Int) (chore : String) :
    Respects r (getAllAvailableTenantsUnnormalized env week chore) := by
  unfold getAllAvailableTenantsUnnormalized
  exact .bind .get fun _ => .bind (integrityCheck_reads env) fun _ => .pure _

theorem getBusyTenants_reads (week : Int) : Respects r (getBusyTenants env week) := by
  unfold getBusyTenants
  exact .bind .get fun _ => .bind (integrityCheck_reads env) fun _ => .pure _

theorem getAvailableTenantsUnnormalized_reads (week : Int) (chore : String) :
    Respects r (getAvailableTenantsUnnormalized env week chore) := by
  unfold getAvailableTenantsUnnormalized
  exact .bind (getBusyTenants_reads env week) fun _ =>
    .bind (getAllAvailableTenantsUnnormalized_reads env week chore) fun _ => .ite (.pure _) (.pure _)

theorem getRoomsTenant_reads (room : String) : Respects r (getRoomsTenant env room) := by
  unfold getRoomsTenant
  refine .bind (getWeekInternal_reads env) fun _ => .bind .get fun _ =>
    .bind (integrityCheck_reads env) fun _ => ?_
  split
  · exact .pure _
  · exact .pure _
  · exact bail_reads _

theorem getTenantsRoom_reads (name : String) : Respects r (getTenantsRoom env name) := by
  unfold getTenantsRoom
  refine .bind (getWeekInternal_reads env) fun _ => .bind .get fun _ =>
    .bind (integrityCheck_reads env) fun _ => ?_
  split
  · exact .pure _
  · exact .pure _
  · exact bail_reads _

theorem getTenantId_reads (name : String) : Respects r (getTenantId env name) := by
  unfold getTenantId
  refine .bind .get fun _ => .bind (integrityCheck_reads env) fun _ => ?_
  split
  · exact .pure _
  · exact .pure _
  · exact bail_reads _

theorem listTenants_reads : Respects r (listTenants env) := by
  unfold listTenants
  exact .bind (getWeekInternal_reads env) fun _ => integrityCheck_reads env

theorem listPlan_reads : Respects r (listPlan env) := by
  unfold listPlan
  exact .bind (getWeekInternal_reads env) fun _ => .bind .get fun _ =>
    .bind (integrityCheck_reads env) fun _ => .forM (fun _ => integrityCheck_reads env) _

theorem getWeeksToPlan_reads : Respects r (getWeeksToPlan env) := by
  unfold getWeeksToPlan
  exact .foldlM (fun _ _ => .bind (getWeekInternal_reads env) fun _ => .bind .get fun _ =>
    .bind (integrityCheck_reads env) fun _ => .pure _) _ _

theorem isTenantExempt_reads (reason : String) (tenant : String) :
    Respects r (isTenantExempt env reason tenant) := by
  unfold isTenantExempt
  refine .bind (getWeekInternal_reads env) fun _ => .bind .get fun _ =>
    .bind (integrityCheck_reads env) fun _ => ?_
  split
  · exact .pure _
  · exact .pure _
  · exact bail_reads _

theorem listExemptions_reads : Respects r (listExemptions env) := by
  unfold listExemptions
  exact .bind (getWeekInternal_reads env) fun _ => integrityCheck_reads env

theorem printReport_reads : Respects r (printReport env) := by
  unfold printReport
  exact .bind (listPlan_reads env) fun _ => listTenants_reads env

theorem printNextWeekBanner_reads : Respects r (printNextWeekBanner env) := by
  unfold printNextWeekBanner
  exact .bind (getWeekInternal_reads env) fun _ => .bind (integrityCheck_reads env) fun _ =>
    .bind (getWeekInternal_reads env) fun _ => .pure _

theorem weekOfCommand_reads (week year : Int) : Respects r (weekOfCommand env week year) := by
  unfold weekOfCommand
  split
  · exact .pure _
  · exact .throw _

end Reads

/-! ### The writes

A method is reads, statements each followed by `integrity_check`, and, for some, `update_plan`.
Each lemma below proves a method has every property `Good` of programs that the reads have and
sequencing keeps (`EStateM.Closed`, with the programs that leave the tables alone as the neutral
ones), that each statement it runs keeps when `integrity_check` follows it (`Checked`), and that
`update_plan` has where the method ends in it. A frame `Respects r` is such a property when every
statement keeps `r` (`Executes.checked`); `WritesOnly` is one such relation. -/

/-- Every statement that, when it succeeds, writes only tables of `writes` keeps `r`, whatever
its outcome. -/
def Executes (r : Db R → Db R → Prop) (writes : List Table) : Prop :=
  ∀ {written : List Table} {statement : Database → Except Error Executed},
    Statement.Writes written statement → written ⊆ writes → Respects r (execute statement)

theorem Executes.writesOnly {writes writes' : List Table} (sub : writes ⊆ writes') :
    Executes (WritesOnly (R := R) writes') writes :=
  fun writes_ok written => Respects.widen (execute_writes writes_ok) (List.Subset.trans written sub)

/-- Every statement that writes within `writes`, followed by `integrity_check` and then by any
program with the property `Good`, has it. -/
def Checked (Good : ∀ {α : Type}, DbM R α → Prop) (writes : List Table) : Prop :=
  ∀ {written : List Table} {statement : Database → Except Error Executed} {β : Type}
    {k : Executed → DbM R β}, Statement.Writes written statement → written ⊆ writes →
      (∀ result, Good (k result)) →
        Good (execute statement >>= fun result => integrityCheck env >>= fun _ => k result)

/-- A frame whose statements keep `r` is checked: `integrity_check` only reads. -/
theorem Executes.checked {r : Db R → Db R → Prop} [Std.Refl r] [IsTrans (Db R) r]
    {writes : List Table} (exec : Executes r writes) : Checked env (Respects r) writes :=
  fun writes_ok sub rest =>
    .bind (exec writes_ok sub) fun result => .bind (integrityCheck_reads env) fun _ => rest result

/-- Tables left as they were keep every table outside any write set. -/
theorem WritesOnly.of_tables {writes : List Table} {db db' : Db R} (same : Agree Db.tables db db') :
    WritesOnly writes db db' := fun table _ => by
  rw [show db'.tables = db.tables from same]
  exact db.tables.same_refl table

/-- `choose_tenant` only advances the generator. -/
theorem chooseTenant_tables (tenants : List (String × ℚ)) :
    Respects (Agree Db.tables) (chooseTenant env tenants) := by
  intro db
  simp only [chooseTenant, EStateM.run_bind, EStateM.run_get]
  split
  · exact Std.Refl.refl db
  · simp only [EStateM.run_bind, EStateM.run_set]
    split <;> rfl

section Plan

variable {Good : ∀ {α : Type}, DbM R α → Prop} (closed : Closed (Agree Db.tables) Good)
  (checked : Checked env Good [.choreLog])
include closed checked

theorem cleanPlan_closed : Good (cleanPlan env) := by
  unfold cleanPlan
  refine closed.bind_neutral (getWeekInternal_reads env) fun _ => closed.bind_neutral .get fun _ =>
    closed.bind_neutral (integrityCheck_reads env) fun _ => closed.forM (fun slot => ?_) _
  obtain ⟨week, chore, tenant⟩ := slot
  refine closed.bind_neutral (getAllAvailableTenantsUnnormalized_reads env week chore) fun _ =>
    closed.ite ?_ (closed.of_neutral (.pure _))
  exact checked (deleteChoreLog_writes _ _) (List.Subset.refl _) fun _ =>
    closed.of_neutral (.ite (bail_reads _) (.pure _))

theorem planWeek_closed (week : Int) (chore : String) : Good (planWeek env week chore) := by
  unfold planWeek
  refine closed.bind_neutral (getAvailableTenantsUnnormalized_reads env week chore) fun _ =>
    closed.ite (closed.of_neutral (.pure _)) ?_
  refine closed.bind_neutral (chooseTenant_tables env _) fun drawn => ?_
  obtain ⟨tenant, _, _⟩ := drawn
  refine closed.bind_neutral .get fun _ => closed.ite (closed.bind_neutral (.throw _) fun _ => ?_) ?_
  -- the rest of `plan_week`, after the `Tenant` lookup
  all_goals
    exact closed.bind_neutral (integrityCheck_reads env) fun _ =>
      checked (insertChoreLog_writes _ _ _) (List.Subset.refl _) fun _ =>
        closed.of_neutral (.ite (.bind (bail_reads _) fun _ => .bind (getWeekInternal_reads env) fun _ => .pure _)
          (.bind (getWeekInternal_reads env) fun _ => .pure _))

theorem updatePlan_closed : Good (updatePlan env) := by
  unfold updatePlan
  refine closed.bind (cleanPlan_closed env closed checked) fun _ =>
    closed.bind_neutral (getWeeksToPlan_reads env) fun _ =>
      closed.bind (closed.forM (fun slot => ?_) _) fun _ =>
        closed.of_neutral (.ite (.pure _) (.bind (listPlan_reads env) fun _ => .pure _))
  obtain ⟨week, chore⟩ := slot
  exact planWeek_closed env closed checked week chore

end Plan

/-- The plan update writes only `ChoreLog`. -/
theorem updatePlan_writes : Respects (WritesOnly [.choreLog]) (updatePlan env) :=
  updatePlan_closed env (Respects.closed (r := WritesOnly [.choreLog]) fun _ _ => WritesOnly.of_tables)
    (Executes.checked env (Executes.writesOnly (List.Subset.refl _)))

section Methods

variable {Good : ∀ {α : Type}, DbM R α → Prop} (closed : Closed (Agree Db.tables) Good)
include closed

theorem undoMoveIn_closed (checked : Checked env Good [.livesIn]) (tenant room : String) :
    Good (undoMoveIn env tenant room) := by
  unfold undoMoveIn
  refine closed.bind_neutral (getWeekInternal_reads env) fun _ =>
    checked (deleteLivesIn_writes _ _ _) (List.Subset.refl _) fun _ => ?_
  split
  · exact closed.of_neutral (.pure _)
  · exact closed.of_neutral (.pure _)
  · exact closed.of_neutral (bail_reads _)

theorem createRoom_closed (checked : Checked env Good [.room]) (name : String) :
    Good (createRoom env name) := by
  unfold createRoom
  refine checked (insertRoom_writes _) (List.Subset.refl _) fun _ =>
    closed.ite (closed.bind_neutral (bail_reads _) fun _ => ?_) ?_
  all_goals exact closed.of_neutral (listTenants_reads env)

theorem createExemptionReason_closed (checked : Checked env Good [.exemptionReason, .choreExemption])
    (reason : String) (chores : List String) : Good (createExemptionReason env reason chores) := by
  unfold createExemptionReason
  refine checked (insertExemptionReason_writes _) (by simp) fun _ =>
    closed.ite (closed.bind_neutral (bail_reads _) fun _ => ?_) ?_
  all_goals
    exact closed.bind (closed.forM (fun _ => checked (insertChoreExemption_writes _ _) (by simp)
      fun _ => closed.of_neutral (.ite (bail_reads _) (.pure _))) _) fun _ =>
        closed.of_neutral (listExemptions_reads env)

variable (plan : Good (updatePlan env))
include plan

theorem moveIn_closed (checked : Checked env Good [.tenant, .livesIn]) (tenant : String)
    (tag : Option String) (room : String) : Good (moveIn env tenant tag room) := by
  unfold moveIn
  refine closed.bind_neutral (getTenantId_reads env _) fun _ => closed.ite ?_ ?_
  -- a known tenant gets the chat tag when one is given, a new tenant is inserted
  split
  refine checked (updateTenantChatTag_writes _ _) (by simp) fun _ =>
    closed.ite (closed.bind_neutral (bail_reads _) fun _ => ?_) ?_
  on_goal 4 =>
    refine checked (insertTenant_writes _ _) (by simp) fun _ =>
      closed.ite (closed.bind_neutral (bail_reads _) fun _ => ?_) ?_
  -- the shared rest: the two room checks, the `LivesIn` row and the plan update
  all_goals
    exact closed.bind_neutral (getRoomsTenant_reads env _) fun _ => closed.ite (closed.of_neutral (.pure _)) <|
      closed.bind_neutral (getTenantsRoom_reads env _) fun _ => closed.ite (closed.of_neutral (.pure _)) <|
        closed.bind_neutral (getWeekInternal_reads env) fun _ =>
          checked (insertLivesIn_writes _ _ _) (by simp) fun _ =>
            closed.bind_neutral (listTenants_reads env) fun _ => closed.bind plan fun _ =>
              closed.of_neutral (.pure _)

theorem moveOut_closed (checked : Checked env Good [.livesIn]) (tenant : String) :
    Good (moveOut env tenant) := by
  unfold moveOut
  refine closed.bind_neutral (getTenantsRoom_reads env _) fun _ => ?_
  split
  on_goal 1 => refine closed.bind_neutral (.pure _) fun _ => ?_
  on_goal 2 => refine closed.bind_neutral (bail_reads _) fun _ => ?_
  -- the room is known: undo a move-in of this week, or else end the stay this week
  all_goals
    refine closed.bind (undoMoveIn_closed env closed checked _ _) fun _ =>
      closed.ite (closed.bind_neutral (getWeekInternal_reads env) fun _ =>
        checked (updateLivesInMoveOut_writes _ _) (List.Subset.refl _) fun _ =>
          closed.ite (closed.bind_neutral (bail_reads _) fun _ => ?_) ?_) ?_
  all_goals
    exact closed.bind_neutral (listTenants_reads env) fun _ => closed.bind plan fun _ =>
      closed.of_neutral (.pure _)

theorem replan_closed (checked : Checked env Good [.unwilling]) (tenant : String) (week : Int) :
    Good (replan env tenant week) := by
  unfold replan
  refine checked (replaceUnwilling_writes _ _) (List.Subset.refl _) fun _ =>
    closed.ite (closed.bind_neutral (bail_reads _) fun _ => ?_) ?_
  all_goals exact closed.bind plan fun _ => closed.of_neutral (.pure _)

theorem changeExemptionReason_closed (checked : Checked env Good [.choreExemption]) (reason : String)
    (chores : List String) : Good (changeExemptionReason env reason chores) := by
  unfold changeExemptionReason
  refine closed.bind_neutral .get fun _ => closed.ite (closed.bind_neutral (bail_reads _) fun _ => ?_) ?_
  all_goals
    exact checked (deleteChoreExemption_writes _) (List.Subset.refl _) fun _ =>
      closed.bind (closed.forM (fun _ => checked (insertChoreExemption_writes _ _) (List.Subset.refl _)
        fun _ => closed.of_neutral (.ite (bail_reads _) (.pure _))) _) fun _ =>
          closed.bind_neutral (listExemptions_reads env) fun _ => closed.bind plan fun _ =>
            closed.of_neutral (.pure _)

/-- `grant_exemption` and `revoke_exemption` differ in their guard and in their statement on
`TenantExemption`. -/
theorem grantExemption_closed (checked : Checked env Good [.tenantExemption]) (reason : String)
    (tenant : String) : Good (grantExemption env reason tenant) := by
  unfold grantExemption
  refine closed.bind_neutral (isTenantExempt_reads env _ _) fun _ =>
    closed.ite (closed.bind_neutral (bail_reads _) fun _ => ?_) ?_
  all_goals
    refine closed.bind_neutral (getWeekInternal_reads env) fun _ =>
      checked (insertTenantExemption_writes _ _ _) (List.Subset.refl _) fun _ =>
        closed.ite (closed.bind_neutral (bail_reads _) fun _ => ?_) ?_
    all_goals
      exact closed.bind_neutral (listExemptions_reads env) fun _ => closed.bind plan fun _ =>
        closed.of_neutral (.pure _)

theorem revokeExemption_closed (checked : Checked env Good [.tenantExemption]) (reason : String)
    (tenant : String) : Good (revokeExemption env reason tenant) := by
  unfold revokeExemption
  refine closed.bind_neutral (isTenantExempt_reads env _ _) fun _ =>
    closed.ite (closed.bind_neutral (bail_reads _) fun _ => ?_) ?_
  all_goals
    refine closed.bind_neutral (getWeekInternal_reads env) fun _ =>
      checked (updateTenantExemptionEnd_writes _ _ _) (List.Subset.refl _) fun _ =>
        closed.ite (closed.bind_neutral (bail_reads _) fun _ => ?_) ?_
    all_goals
      exact closed.bind_neutral (listExemptions_reads env) fun _ => closed.bind plan fun _ =>
        closed.of_neutral (.pure _)

theorem createChore_closed (checked : Checked env Good [.chore]) (name description : String) :
    Good (createChore env name description) := by
  unfold createChore
  refine checked (insertChore_writes _ _) (List.Subset.refl _) fun _ =>
    closed.ite (closed.bind_neutral (bail_reads _) fun _ => ?_) ?_
  all_goals exact closed.bind plan fun _ => closed.of_neutral (.ite (listPlan_reads env) (.pure _))

theorem setChoreActiveState_closed (checked : Checked env Good [.chore]) (name : String)
    (activeState : Bool) : Good (setChoreActiveState env name activeState) := by
  unfold setChoreActiveState
  refine checked (updateChoreActive_writes _ _) (List.Subset.refl _) fun _ =>
    closed.ite (closed.bind_neutral (bail_reads _) fun _ => ?_) ?_
  all_goals exact closed.bind plan fun _ => closed.of_neutral (.ite (listPlan_reads env) (.pure _))

end Methods

/-! ### Commands -/

/-- The tables a command line may write: its own statements and, for the commands that end in
`update_plan`, `ChoreLog`. -/
def Cli.writes (cli : Cli) : List Table :=
  match cli.command with
  | some (.tenant (some (.moveIn _ _ _))) => [.tenant, .livesIn, .choreLog]
  | some (.tenant (some (.moveOut _))) => [.livesIn, .choreLog]
  | some (.tenant (some (.createRoom _))) => [.room]
  | some (.chore (some (.create _ _))) => [.chore, .choreLog]
  | some (.chore (some (.deactivate _))) => [.chore, .choreLog]
  | some (.chore (some (.reactivate _))) => [.chore, .choreLog]
  | some (.exemption (some (.create _ _))) => [.exemptionReason, .choreExemption]
  | some (.exemption (some (.change _ _))) => [.choreExemption, .choreLog]
  | some (.exemption (some (.grant _ _))) => [.tenantExemption, .choreLog]
  | some (.exemption (some (.revoke _ _))) => [.tenantExemption, .choreLog]
  | some (.replan _ _ _) => [.unwilling, .choreLog]
  | _ => []

/-- **Every command line has every closed property** that each statement it may run has when
`integrity_check` follows it, and that `update_plan` has for the commands that write
`ChoreLog`. -/
theorem runCli_closed {Good : ∀ {α : Type}, DbM R α → Prop} (closed : Closed (Agree Db.tables) Good)
    (cli : Cli) (checked : ∀ writes, .choreLog ∉ writes → writes ⊆ cli.writes → Checked env Good writes)
    (plan : .choreLog ∈ cli.writes → Good (updatePlan env)) : Good (runCli env cli) := by
  rcases cli with ⟨_ | command⟩
  · exact closed.of_neutral (.throw _)
  rcases command with ⟨tenant, week, year⟩ | ⟨week, year⟩ | (_ | command) | (_ | command) |
    (_ | command)
  · exact closed.bind_neutral (weekOfCommand_reads env week year) fun week =>
      replan_closed env closed (plan (by simp [Cli.writes])) (checked _ (by simp) (by simp [Cli.writes]))
        tenant week
  · exact closed.of_neutral (.bind (weekOfCommand_reads env week year) fun _ => printReport_reads env)
  · exact closed.of_neutral (.throw _)
  · cases command with
    | list => exact closed.of_neutral (listTenants_reads env)
    | moveIn name tag room =>
      exact moveIn_closed env closed (plan (by simp [Cli.writes]))
        (checked _ (by simp) (by simp [Cli.writes])) name tag room
    | moveOut name =>
      exact moveOut_closed env closed (plan (by simp [Cli.writes]))
        (checked _ (by simp) (by simp [Cli.writes])) name
    | createRoom name =>
      exact createRoom_closed env closed (checked _ (by simp) (by simp [Cli.writes])) name
  · exact closed.of_neutral (.throw _)
  · cases command with
    | list => exact closed.of_neutral (listPlan_reads env)
    | create name description =>
      exact createChore_closed env closed (plan (by simp [Cli.writes]))
        (checked _ (by simp) (by simp [Cli.writes])) name description
    | deactivate name =>
      exact setChoreActiveState_closed env closed (plan (by simp [Cli.writes]))
        (checked _ (by simp) (by simp [Cli.writes])) name false
    | reactivate name =>
      exact setChoreActiveState_closed env closed (plan (by simp [Cli.writes]))
        (checked _ (by simp) (by simp [Cli.writes])) name true
  · exact closed.of_neutral (.throw _)
  · cases command with
    | list => exact closed.of_neutral (listExemptions_reads env)
    | create chores reason =>
      exact createExemptionReason_closed env closed (checked _ (by simp) (by simp [Cli.writes]))
        reason chores
    | change reason chores =>
      exact changeExemptionReason_closed env closed (plan (by simp [Cli.writes]))
        (checked _ (by simp) (by simp [Cli.writes])) reason chores
    | grant tenant reason =>
      exact grantExemption_closed env closed (plan (by simp [Cli.writes]))
        (checked _ (by simp) (by simp [Cli.writes])) reason tenant
    | revoke reason tenant =>
      exact revokeExemption_closed env closed (plan (by simp [Cli.writes]))
        (checked _ (by simp) (by simp [Cli.writes])) reason tenant

/-- Every outcome of a command line changes at most the tables of `Cli.writes`. -/
theorem runCli_writes (cli : Cli) : Respects (WritesOnly cli.writes) (runCli env cli) :=
  runCli_closed env (Respects.closed (r := WritesOnly cli.writes) fun _ _ => WritesOnly.of_tables) cli
    (fun _ _ sub => Executes.checked env (Executes.writesOnly sub))
    fun member => Respects.widen (updatePlan_writes env) (List.cons_subset.mpr ⟨member, List.nil_subset _⟩)

/-- The tables the input may write: those of its command line, none when it does not parse. -/
def commandWrites (parse : String → Except Error Cli) (input : String) : List Table :=
  match parse input with
  | .ok cli => cli.writes
  | .error _ => []

/-- **A failed command changes only the tables it writes.** Whatever statement, check or panic
ended `run_command`, every table outside `commandWrites` holds the rows it held before. -/
theorem runCommand_failure_writes_only (parse : String → Except Error Cli) (input : String)
    (db : Db R) {e : Failure} {db' : Db R}
    (failed : (runCommand env parse input).run db = .error e db') :
    ∀ table ∉ commandWrites parse input, db.tables.Same db'.tables table := by
  have frame : Respects (WritesOnly (commandWrites parse input)) (runCommand env parse input) := by
    unfold runCommand commandWrites
    cases parse input with
    | ok cli => exact runCli_writes env cli
    | error e => exact .throw _
  have after := frame db
  rw [failed] at after
  exact after

/-- What every command line guards, every input does: one that does not parse fails at once. -/
theorem runCommand_guards {P : Db R → Prop} {fatal : Failure → Prop}
    (guards : ∀ cli, Guards P fatal (runCli env cli)) (parse : String → Except Error Cli) (input : String) :
    Guards P fatal (runCommand env parse input) := by
  unfold runCommand
  cases parse input with
  | ok cli => exact guards cli
  | error e => exact Guards.of_respects (.throw _)

/-! ### Commands that succeed pass `integrity_check`

Every statement a command runs is followed by `integrity_check`, and a refused statement changes
nothing; so a command that succeeds leaves tables that pass `integrity_check`, from tables that
pass it. A failed command need not: nothing is rolled back (`sharpS_moveIn_breaks_integrity`). -/

section Intact

/-- A refused statement changes nothing. -/
theorem execute_failsInPlace (statement : Database → Except Error Executed) :
    FailsInPlace (execute (R := R) statement) := by
  intro db e db' failed
  cases ran : statement db.con with
  | ok result =>
    rw [execute_run_ok ran] at failed
    cases failed
  | error e' =>
    rw [execute_run_error ran] at failed
    cases failed
    rfl

/-- `integrity_check` fails exactly where the tables fail it. -/
theorem integrityCheck_restores :
    Restores (fun db : Db R => Integrity env db.tables) (fun _ : Failure => True) (integrityCheck env) := by
  intro db
  cases violated : integrityViolation env db.tables with
  | none =>
    rw [integrityCheck_run env violated]
    exact .inl violated
  | some message =>
    rw [integrityCheck_run_of_violation env violated]
    exact .inr ⟨_, rfl, trivial⟩

/-- Keeping tables that pass `integrity_check` unless the run fails is closed under sequencing. -/
theorem guards_intact_closed :
    Closed (Agree Db.tables) (Guards (fun db : Db R => Integrity env db.tables) (fun _ : Failure => True)) :=
  Guards.closed fun db db' same intact => by
    rw [show db'.tables = db.tables from same]
    exact intact

/-- A statement followed by `integrity_check` keeps tables that pass it, unless the run fails. -/
theorem checked_intact (writes : List Table) :
    Checked env (Guards (fun db : Db R => Integrity env db.tables) (fun _ : Failure => True)) writes :=
  fun _ _ rest => Guards.bind_restores (execute_failsInPlace _) fun result =>
    Restores.bind (integrityCheck_restores env) fun _ => rest result

theorem runCli_guards_intact (cli : Cli) :
    Guards (fun db : Db R => Integrity env db.tables) (fun _ : Failure => True) (runCli env cli) :=
  runCli_closed env (guards_intact_closed env) cli (fun writes _ _ => checked_intact env writes)
    fun _ => updatePlan_closed env (guards_intact_closed env) (checked_intact env [.choreLog])

/-- **A command that succeeds leaves tables that pass `integrity_check`**, from tables that pass
it: whatever the input, every statement it ran was followed by a check that passed. -/
theorem runCommand_success_intact (parse : String → Except Error Cli) (input : String)
    {db db' : Db R} (intact : Integrity env db.tables)
    (succeeded : (runCommand env parse input).run db = .ok () db') : Integrity env db'.tables :=
  (runCommand_guards env (runCli_guards_intact env) parse input).of_run_ok intact succeeded

end Intact

/-! ### A failed exemption change -/

/-- The chore Dishes, and the reason Sick exempting from it. -/
def sickReasonRun : List Cli :=
  [⟨some (.chore (some (.create "Dishes" "wash up")))⟩,
    ⟨some (.exemption (some (.create ["Dishes"] "Sick")))⟩]

/-- The parse of the input `exemption change Sick Nope`. -/
def parseChangeToNope (_ : String) : Except Error Cli :=
  .ok ⟨some (.exemption (some (.change "Sick" ["Nope"])))⟩

theorem runCommand_failure_writes_only_sample :
    let setup := (runFromEmpty (asciiEnv sampleConfig) () sickReasonRun).store
    let outcome :=
      (runCommand (asciiEnv sampleConfig) parseChangeToNope "exemption change Sick Nope").run setup
    outcome.error? = some (.err (.sql (.notNull "ChoreExemption.chore_id"))) ∧
      ∀ table ∉ commandWrites parseChangeToNope "exemption change Sick Nope",
        setup.tables.Same outcome.store.tables table :=
  have failed : ((runCommand (asciiEnv sampleConfig) parseChangeToNope "exemption change Sick Nope").run
      (runFromEmpty (asciiEnv sampleConfig) () sickReasonRun).store).error? =
        some (.err (.sql (.notNull "ChoreExemption.chore_id"))) := by
    decide +kernel
  ⟨failed, runCommand_failure_writes_only (asciiEnv sampleConfig) parseChangeToNope
    "exemption change Sick Nope" _ (Result.eq_error_of_error? failed)⟩

/-- **A failed `exemption change` keeps its deletion.** After `sickReasonRun`, changing Sick to
the unknown chore Nope deletes Sick's `ChoreExemption` row, then fails on the `NOT NULL` chore of
the row it inserts; the row stays deleted. -/
theorem changeExemptionReason_failure_keeps_deletion :
    let setup := runFromEmpty (asciiEnv sampleConfig) () sickReasonRun
    let outcome :=
      (runCommand (asciiEnv sampleConfig) parseChangeToNope "exemption change Sick Nope").run
        setup.store
    setup.error? = none ∧ Integrity (asciiEnv sampleConfig) setup.store.tables ∧
      setup.store.tables.choreExemption = [⟨1, 1⟩] ∧
      outcome.error? = some (.err (.sql (.notNull "ChoreExemption.chore_id"))) ∧
      outcome.store.tables.choreExemption = [] := by
  decide +kernel

end ChorePlanner
