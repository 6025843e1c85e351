/-
**How every run of `update_plan` ends.**

`updatePlan_ok` says what a successful run did. Here, from any tables that pass
`integrity_check`, with a sampler as `rand` documents it and `gamma ∈ [0, 1]`, the run always ends
in one of two ways: it succeeds and leaves nothing to do (`Tables.Settled`), or `clean_plan` meets
a doomed `ChoreLog` that a `Rating` refers to, the foreign key of `Rating` refuses the `DELETE`,
and the run stops there (`Tables.Stuck`).

* `integrity_choreLog` — `integrity_check` reads no `Rating`, and of `ChoreLog` only whether a
  completed row lacks a poll id.
* `cleanLoop_settled`, `cleanLoop_blocked` — the loop of `clean_plan`, row by row of `ChoreLog`:
  every doomed row goes, up to the first `Blocked` one.
* `planWeek_run`, `planSlots_run` — planning slots without a `ChoreLog` never fails.
* `updatePlan_outcome` — **every run of `update_plan` ends `Settled` or `Stuck`**.
* `updatePlan_run_of_settled`, `updatePlan_run_of_stuck` — **from either end, `update_plan`
  changes nothing**.
-/

import ChorePlanner.Proofs.UpdatePlan

set_option linter.unusedSectionVars false

namespace ChorePlanner

variable {R : Type} (env : Env R)

/-! ### What `integrity_check` reads of `ChoreLog` -/

/-- The last test of `integrity_check`, the only one that reads `ChoreLog`: a completed row
without a poll id. -/
def unpolledCompleted (logs : List ChoreLogRow) : Bool :=
  logs.any fun row => row.completed && row.ratingPollId.isNone

theorem integrityViolation_choreLog (t : Tables) {logs : List ChoreLogRow} (ratings : List RatingRow)
    (same : unpolledCompleted logs = unpolledCompleted t.choreLog) :
    integrityViolation env { t with choreLog := logs, rating := ratings } =
      integrityViolation env t := by
  unfold integrityViolation
  dsimp only
  unfold unpolledCompleted at same
  rw [same]
  rfl

theorem unpolledCompleted_of_integrity {t : Tables} (intact : Integrity env t) :
    unpolledCompleted t.choreLog = false := by
  unfold Integrity integrityViolation at intact
  split_ifs at intact with c1 c2 c3 c4 c5 c6
  -- every earlier test that fails bails, whatever the tenants' names
  iterate 4 (split at intact <;> cases intact)
  exact Bool.eq_false_iff.mpr c6

/-- **Tables that pass `integrity_check` still do with other `ChoreLog` and `Rating` rows**, as
long as no completed row lacks a poll id. -/
theorem integrity_choreLog {t : Tables} (intact : Integrity env t) {logs : List ChoreLogRow}
    (ratings : List RatingRow) (polled : unpolledCompleted logs = false) :
    Integrity env { t with choreLog := logs, rating := ratings } := by
  unfold Integrity
  rw [integrityViolation_choreLog env t ratings
    (polled.trans (unpolledCompleted_of_integrity env intact).symm)]
  exact intact

theorem unpolledCompleted_sublist {logs logs' : List ChoreLogRow} (sub : logs.Sublist logs')
    (polled : unpolledCompleted logs' = false) : unpolledCompleted logs = false := by
  unfold unpolledCompleted at polled ⊢
  rw [List.any_eq_false] at polled ⊢
  exact fun log member => polled log (sub.subset member)

@[simp] theorem unpolledCompleted_append (logs : List ChoreLogRow) (log : ChoreLogRow) :
    unpolledCompleted (logs ++ [log]) =
      (unpolledCompleted logs || (log.completed && log.ratingPollId.isNone)) := by
  simp [unpolledCompleted, List.any_append]

/-! ### The two ends of a run -/

namespace Tables

variable (t : Tables) (config : Config)

/-- A `Rating` refers to the `ChoreLog`. -/
def Rated (log : ChoreLogRow) : Prop := ∃ rating ∈ t.rating, rating.choreLog = log.key

instance (log : ChoreLogRow) : Decidable (t.Rated log) :=
  inferInstanceAs (Decidable (∃ rating ∈ t.rating, _))

/-- A doomed `ChoreLog` that `clean_plan` cannot delete: a `Rating` refers to it. -/
def Blocked (log : ChoreLogRow) : Prop := t.Doomed config log ∧ t.Rated log

instance (log : ChoreLogRow) : Decidable (t.Blocked config log) :=
  inferInstanceAs (Decidable (_ ∧ _))

/-- Nothing left for `update_plan` to do: no doomed `ChoreLog`, and no slot of the window that a
tenant could fill. -/
structure Settled : Prop where
  none_doomed : ∀ log ∈ t.choreLog, ¬t.Doomed config log
  slots_empty : ∀ slot ∈ t.weeksToPlan config, t.availableTenants slot.1 slot.2 = []

/-- Where `clean_plan` stops: a blocked `ChoreLog`, after rows none of which is doomed. -/
def Stuck : Prop :=
  ∃ pre blocked post, t.choreLog = pre ++ blocked :: post ∧ (∀ log ∈ pre, ¬t.Doomed config log) ∧
    t.Blocked config blocked

/-- What a run of `update_plan` does to the tables: it changes only `ChoreLog`, keeps every row
that is not doomed, deletes no row a `Rating` refers to, and adds only rows neither completed nor
polled. -/
structure Replanned (t' : Tables) : Prop where
  only_choreLog : t' = { t with choreLog := t'.choreLog }
  kept : ∀ log ∈ t.choreLog, ¬t.Doomed config log → log ∈ t'.choreLog
  deleted_unrated : ∀ log ∈ t.choreLog, log ∉ t'.choreLog → ¬t.Rated log
  added_fresh : ∀ log ∈ t'.choreLog, log ∉ t.choreLog → log.completed = false ∧ log.ratingPollId = none

theorem Replanned.currentWeek {t t' : Tables} {config : Config} (replanned : t.Replanned config t') :
    t'.currentWeek = t.currentWeek := by
  rw [replanned.only_choreLog]

theorem Replanned.rating {t t' : Tables} {config : Config} (replanned : t.Replanned config t') :
    t'.rating = t.rating := by
  rw [replanned.only_choreLog]

/-- A `ChoreLog` of an existing chore whose existing worker is listed for it. -/
def Staffed (log : ChoreLogRow) : Prop :=
  ∃ chore ∈ t.chore, chore.id = log.choreId ∧ ∃ tenant ∈ t.tenant, tenant.id = log.worker ∧
    tenant.name ∈ (t.availableTenants log.week chore.name).map (·.1)

/-- The rows `future_chore_logs` returns for one `ChoreLog`. -/
def futureSlots (week : Int) (log : ChoreLogRow) : List (Int × String × String) :=
  (t.chore.filter (·.id == log.choreId)).flatMap fun chore =>
    (t.tenant.filter (·.id == log.worker)).filterMap fun tenant =>
      if week ≤ log.week then some (log.week, chore.name, tenant.name) else none

theorem futureChoreLogs_eq (week : Int) :
    t.futureChoreLogs week = t.choreLog.flatMap (t.futureSlots week) := rfl

variable {t}

/-- With unique ids, a `ChoreLog` gives `future_chore_logs` one row, of its chore and worker, or
none when it is before the week or either is missing. -/
theorem futureSlots_cases (valid : t.Valid) (week : Int) (log : ChoreLogRow) :
    (∃ chore ∈ t.chore, chore.id = log.choreId ∧ ∃ tenant ∈ t.tenant, tenant.id = log.worker ∧
      week ≤ log.week ∧ t.futureSlots week log = [(log.week, chore.name, tenant.name)]) ∨
    (t.futureSlots week log = [] ∧ ∀ chore ∈ t.chore, chore.id = log.choreId →
      ∀ tenant ∈ t.tenant, tenant.id = log.worker → ¬week ≤ log.week) := by
  unfold futureSlots
  rcases Sql.filter_key_eq valid.chore_key log.choreId with
    no_chore | ⟨chore, chore_member, chore_id, chore_eq⟩
  · refine .inr ⟨by rw [no_chore]; rfl, fun chore member same => ?_⟩
    have missing := List.filter_eq_nil_iff.mp no_chore chore member
    simp [same] at missing
  rcases Sql.filter_key_eq valid.tenant_key log.worker with
    no_tenant | ⟨tenant, tenant_member, worker, tenant_eq⟩
  · refine .inr ⟨by simp [chore_eq, no_tenant], fun _ _ _ tenant member same => ?_⟩
    have missing := List.filter_eq_nil_iff.mp no_tenant tenant member
    simp [same] at missing
  rw [chore_eq, tenant_eq]
  by_cases later : week ≤ log.week
  · exact .inl ⟨chore, chore_member, chore_id, tenant, tenant_member, worker, later, by simp [later]⟩
  · exact .inr ⟨by simp [later], fun _ _ _ _ _ _ => later⟩

/-- With unique ids, a `ChoreLog` of an existing chore and worker is doomed exactly when it is
from the current week on and its worker is not listed. -/
theorem doomed_iff (valid : t.Valid) {log : ChoreLogRow} {chore : ChoreRow}
    (chore_member : chore ∈ t.chore) (chore_id : chore.id = log.choreId) {tenant : TenantRow}
    (tenant_member : tenant ∈ t.tenant) (worker : tenant.id = log.worker) :
    t.Doomed config log ↔ t.thisWeek config ≤ log.week ∧
      tenant.name ∉ (t.availableTenants log.week chore.name).map (·.1) := by
  constructor
  · rintro ⟨later, chore', chore_member', chore_id', tenant', tenant_member', worker', unlisted⟩
    have same_chore : chore' = chore :=
      List.inj_on_of_nodup_map valid.chore_key chore_member' chore_member (chore_id'.trans chore_id.symm)
    have same_tenant : tenant' = tenant :=
      List.inj_on_of_nodup_map valid.tenant_key tenant_member' tenant_member (worker'.trans worker.symm)
    subst same_chore same_tenant
    exact ⟨later, unlisted⟩
  · rintro ⟨later, unlisted⟩
    exact ⟨later, chore, chore_member, chore_id, tenant, tenant_member, worker, unlisted⟩

/-- A staffed `ChoreLog` is not doomed. -/
theorem not_doomed_of_staffed (valid : t.Valid) {log : ChoreLogRow} (staffed : t.Staffed log) :
    ¬t.Doomed config log := by
  obtain ⟨chore, chore_member, chore_id, tenant, tenant_member, worker, listed⟩ := staffed
  rw [doomed_iff config valid chore_member chore_id tenant_member worker]
  exact fun doomed => doomed.2 listed

variable (t)

/-- **Whether a `ChoreLog` is doomed depends on no `ChoreLog` and no `Rating`.** -/
theorem doomed_frame (logs : List ChoreLogRow) (ratings : List RatingRow) (log : ChoreLogRow) :
    Tables.Doomed { t with choreLog := logs, rating := ratings } config log ↔ t.Doomed config log := by
  constructor
  · rintro ⟨later, chore, chore_member, chore_id, tenant, tenant_member, worker, unlisted⟩
    exact ⟨later, chore, chore_member, chore_id, tenant, tenant_member, worker,
      fun listed => unlisted ((t.availableTenants_names_frame logs ratings).mpr listed)⟩
  · rintro ⟨later, chore, chore_member, chore_id, tenant, tenant_member, worker, unlisted⟩
    exact ⟨later, chore, chore_member, chore_id, tenant, tenant_member, worker,
      fun listed => unlisted ((t.availableTenants_names_frame logs ratings).mp listed)⟩

theorem staffed_frame (logs : List ChoreLogRow) (ratings : List RatingRow) (log : ChoreLogRow) :
    Tables.Staffed { t with choreLog := logs, rating := ratings } log ↔ t.Staffed log := by
  constructor
  · rintro ⟨chore, chore_member, chore_id, tenant, tenant_member, worker, listed⟩
    exact ⟨chore, chore_member, chore_id, tenant, tenant_member, worker,
      (t.availableTenants_names_frame logs ratings).mp listed⟩
  · rintro ⟨chore, chore_member, chore_id, tenant, tenant_member, worker, listed⟩
    exact ⟨chore, chore_member, chore_id, tenant, tenant_member, worker,
      (t.availableTenants_names_frame logs ratings).mpr listed⟩

end Tables

/-! ### `clean_plan`, row by row -/

section Clean

/-- The body of `clean_plan`'s loop, for one row `(week, chore, tenant)` of `future_chore_logs`. -/
def cleanStep : Int × String × String → DbM R Unit := fun (week, chore, tenant) => do
  let availableTenantsUnnormalized ← getAllAvailableTenantsUnnormalized env week chore
  if !availableTenantsUnnormalized.any fun (availableTenant, _) => availableTenant == tenant then
    let affectedRows := (← execute (·.deleteChoreLog chore week)).rowsAffected
    integrityCheck env
    if affectedRows != 1 then bail s!"affected {affectedRows} rows"

/-- `clean_plan` is its loop over the rows of `future_chore_logs`, `ChoreLog` by `ChoreLog`. -/
theorem cleanPlan_run {db : Db R} (intact : Integrity env db.tables) :
    (cleanPlan env).run db =
      ((db.tables.choreLog.flatMap (db.tables.futureSlots (db.tables.thisWeek env.config))).forM
        (cleanStep env)).run db := by
  simp only [cleanPlan, EStateM.run_bind, getWeekInternal_run env intact, EStateM.run_get,
    integrityCheck_run env intact]
  rfl

variable {con : Database} {chore : ChoreRow} {log : ChoreLogRow}

/-- For a `ChoreLog` of an existing chore, the `DELETE` of its chore's name and its week selects
the rows of its key. -/
theorem deleteChoreLog_selects (chore_member : chore ∈ con.tables.chore)
    (chore_id : chore.id = log.choreId) (row : ChoreLogRow) :
    (some row.choreId == con.choreId chore.name && row.week == log.week) = (row.key == log.key) := by
  rw [Database.choreId, choreId_of_mem con.valid chore_member, chore_id, Bool.eq_iff_iff]
  simp [ChoreLogRow.key]

/-- Keys are unique: one row has the key of a row. -/
theorem countP_key_eq_one {t : Tables} (valid : t.Valid) (member : log ∈ t.choreLog) :
    (t.choreLog.countP fun row => row.key == log.key) = 1 := by
  rw [List.countP_eq_length_filter]
  rcases Sql.filter_key_eq valid.choreLog_key log.key with none | ⟨row, -, -, only⟩
  · have kept := List.filter_eq_nil_iff.mp none log member
    simp at kept
  · rw [only]
    rfl

/-- **The foreign key of `Rating` refuses to delete a rated `ChoreLog`.** -/
theorem deleteChoreLog_of_rated (chore_member : chore ∈ con.tables.chore)
    (chore_id : chore.id = log.choreId) (rated : con.tables.Rated log) :
    con.deleteChoreLog chore.name log.week = .error (.sql .foreignKey) := by
  obtain ⟨rating, rating_member, refers⟩ := rated
  cases ran : con.deleteChoreLog chore.name log.week with
  | error e =>
    dsimp only [Database.deleteChoreLog] at ran
    split at ran
    · cases ran
    · cases ran
      rfl
  | ok result =>
    -- the rows that stay all differ from the rated one in their key
    dsimp only [Database.deleteChoreLog] at ran
    split at ran
    · rename_i referenced
      obtain ⟨kept, kept_member, same_key⟩ := List.mem_map.mp (referenced rating rating_member)
      have stays := (List.mem_filter.mp kept_member).2
      rw [deleteChoreLog_selects chore_member chore_id, same_key, refers] at stays
      simp at stays
    · cases ran

/-- A `ChoreLog` no `Rating` refers to is deleted alone. -/
theorem deleteChoreLog_of_unrated (chore_member : chore ∈ con.tables.chore)
    (chore_id : chore.id = log.choreId) (member : log ∈ con.tables.choreLog)
    (unrated : ¬con.tables.Rated log) :
    ∃ result, con.deleteChoreLog chore.name log.week = .ok result ∧ result.rowsAffected = 1 ∧
      result.con.tables =
        { con.tables with choreLog := con.tables.choreLog.filter fun row => row.key != log.key } := by
  have selects := deleteChoreLog_selects chore_member chore_id
  cases ran : con.deleteChoreLog chore.name log.week with
  | error e =>
    -- every `Rating` refers to a row that stays
    dsimp only [Database.deleteChoreLog] at ran
    split at ran
    · cases ran
    · rename_i unreferenced
      refine absurd (fun rating rating_member => ?_) unreferenced
      obtain ⟨row, row_member, refers⟩ :=
        List.mem_map.mp (con.valid.rating_choreLog rating rating_member)
      have other : row.key ≠ log.key := fun same =>
        unrated ⟨rating, rating_member, refers.symm.trans same⟩
      exact List.mem_map.mpr ⟨row, List.mem_filter.mpr ⟨row_member, by simp [selects, other]⟩, refers⟩
  | ok result =>
    refine ⟨result, rfl, ?_, ?_⟩
    · dsimp only [Database.deleteChoreLog] at ran
      split at ran
      · cases ran
        show List.countP _ _ = 1
        simp only [selects]
        exact countP_key_eq_one con.valid member
      · cases ran
    · rw [deleteChoreLog_tables ran]
      simp only [selects]
      rfl

variable {s : Db R} (intact : Integrity env s.tables)
include intact

/-- A listed worker keeps the row. -/
theorem cleanStep_run_of_listed {week : Int} {name tenant : String}
    (listed : tenant ∈ (s.tables.availableTenants week name).map (·.1)) :
    (cleanStep env (week, name, tenant)).run s = .ok () s := by
  rw [← any_fst_beq_iff] at listed
  simp only [cleanStep, EStateM.run_bind, getAllAvailableTenantsUnnormalized_run env intact, listed,
    Bool.not_true, Bool.false_eq_true, if_false]
  rfl

/-- An unlisted worker's rated row stops the loop: the `DELETE` fails and changes nothing. -/
theorem cleanStep_run_of_rated (chore_member : chore ∈ s.tables.chore)
    (chore_id : chore.id = log.choreId) {tenant : String}
    (unlisted : tenant ∉ (s.tables.availableTenants log.week chore.name).map (·.1))
    (rated : s.tables.Rated log) :
    (cleanStep env (log.week, chore.name, tenant)).run s = .error (.err (.sql .foreignKey)) s := by
  have refused := @execute_run_error R s (fun con => con.deleteChoreLog chore.name log.week) _
    (deleteChoreLog_of_rated chore_member chore_id rated)
  rw [← any_fst_beq_iff, Bool.not_eq_true] at unlisted
  simp only [cleanStep, EStateM.run_bind, getAllAvailableTenantsUnnormalized_run env intact,
    unlisted, Bool.not_false, if_true, refused]

/-- An unlisted worker's unrated row is deleted, and the tables still pass `integrity_check`. -/
theorem cleanStep_run_of_unrated (chore_member : chore ∈ s.tables.chore)
    (chore_id : chore.id = log.choreId) (member : log ∈ s.tables.choreLog) {tenant : String}
    (unlisted : tenant ∉ (s.tables.availableTenants log.week chore.name).map (·.1))
    (unrated : ¬s.tables.Rated log) :
    ∃ s', (cleanStep env (log.week, chore.name, tenant)).run s = .ok () s' ∧ s'.rng = s.rng ∧
      Integrity env s'.tables ∧
      s'.tables = { s.tables with choreLog := s.tables.choreLog.filter fun row => row.key != log.key } := by
  obtain ⟨result, deleted, one, tables_eq⟩ :=
    deleteChoreLog_of_unrated chore_member chore_id member unrated
  have ran := @execute_run_ok R s (fun con => con.deleteChoreLog chore.name log.week) _ deleted
  have intact' : Integrity env ({ s with con := result.con } : Db R).tables := by
    show Integrity env result.con.tables
    rw [tables_eq]
    exact integrity_choreLog env intact _
      (unpolledCompleted_sublist List.filter_sublist (unpolledCompleted_of_integrity env intact))
  rw [← any_fst_beq_iff, Bool.not_eq_true] at unlisted
  refine ⟨{ s with con := result.con }, ?_, rfl, intact', tables_eq⟩
  simp only [cleanStep, EStateM.run_bind, getAllAvailableTenantsUnnormalized_run env intact,
    unlisted, Bool.not_false, if_true, ran, integrityCheck_run env intact', one,
    bne_self_eq_false, Bool.false_eq_true, if_false]
  rfl

end Clean

/-! ### The loop of `clean_plan` -/

section Loop

variable {t : Tables} (valid : t.Valid)
include valid

/-- **One `ChoreLog` of the loop**, in a state that holds `t` with other `ChoreLog` rows around it:
unless it is blocked, it stays when it is not doomed, and it alone is deleted when it is. -/
theorem cleanLog_run {pre post : List ChoreLogRow} {log : ChoreLogRow} {s : Db R}
    (tables_eq : s.tables = { t with choreLog := pre ++ log :: post })
    (intact : Integrity env s.tables) (unblocked : ¬t.Blocked env.config log) :
    (¬t.Doomed env.config log ∧
        ((t.futureSlots (t.thisWeek env.config) log).forM (cleanStep env)).run s = .ok () s) ∨
      (t.Doomed env.config log ∧ ∃ s',
        ((t.futureSlots (t.thisWeek env.config) log).forM (cleanStep env)).run s = .ok () s' ∧
        s'.rng = s.rng ∧ Integrity env s'.tables ∧ s'.tables = { t with choreLog := pre ++ post }) := by
  rcases t.futureSlots_cases valid (t.thisWeek env.config) log with
    ⟨chore, chore_member, chore_id, tenant, tenant_member, worker, later, slots_eq⟩ |
      ⟨slots_eq, no_slot⟩
  · rw [slots_eq]
    have chore_member' : chore ∈ s.tables.chore := by
      rw [tables_eq]
      exact chore_member
    have names : ∀ name, name ∈ (s.tables.availableTenants log.week chore.name).map (·.1) ↔
        name ∈ (t.availableTenants log.week chore.name).map (·.1) := fun name => by
      rw [tables_eq]
      exact t.availableTenants_names_frame _ _
    have doomed_iff := Tables.doomed_iff env.config valid chore_member chore_id tenant_member worker
    by_cases listed : tenant.name ∈ (t.availableTenants log.week chore.name).map (·.1)
    · -- a listed worker keeps the row
      refine .inl ⟨fun doomed => (doomed_iff.mp doomed).2 listed, ?_⟩
      exact EStateM.run_forM_eq_ok.mpr ⟨s, cleanStep_run_of_listed env intact ((names _).mpr listed), rfl⟩
    · -- otherwise the row is doomed, and unrated since it is not blocked
      have doomed := doomed_iff.mpr ⟨later, listed⟩
      have unrated : ¬s.tables.Rated log := by
        rw [tables_eq]
        exact fun rated => unblocked ⟨doomed, rated⟩
      have member : log ∈ s.tables.choreLog := by
        rw [tables_eq]
        simp
      have nodup : ((pre ++ log :: post).map (·.key)).Nodup := by
        have keys := s.con.valid.choreLog_key
        rwa [← Db.tables, tables_eq] at keys
      obtain ⟨s', ran, rng_eq, intact', tables'⟩ := cleanStep_run_of_unrated env intact chore_member'
        chore_id member (fun unlisted => listed ((names _).mp unlisted)) unrated
      refine .inr ⟨doomed, s', EStateM.run_forM_eq_ok.mpr ⟨s', ran, rfl⟩, rng_eq, intact', ?_⟩
      -- keys are unique, so deleting by the row's key deletes it alone
      rw [tables', tables_eq]
      dsimp only
      rw [Sql.filter_key_ne nodup]
  · rw [slots_eq]
    refine .inl ⟨fun doomed => ?_, rfl⟩
    obtain ⟨later, chore, chore_member, chore_id, tenant, tenant_member, worker, -⟩ := doomed
    exact no_slot chore chore_member chore_id tenant tenant_member worker later

/-- **A blocked `ChoreLog` stops the loop**, changing nothing. -/
theorem cleanLog_run_of_blocked {logs : List ChoreLogRow} {log : ChoreLogRow} {s : Db R}
    (tables_eq : s.tables = { t with choreLog := logs }) (intact : Integrity env s.tables)
    (blocked : t.Blocked env.config log) :
    ((t.futureSlots (t.thisWeek env.config) log).forM (cleanStep env)).run s =
      .error (.err (.sql .foreignKey)) s := by
  obtain ⟨doomed, rated⟩ := blocked
  rcases t.futureSlots_cases valid (t.thisWeek env.config) log with
    ⟨chore, chore_member, chore_id, tenant, tenant_member, worker, -, slots_eq⟩ | ⟨-, no_slot⟩
  · obtain ⟨-, unlisted⟩ :=
      (Tables.doomed_iff env.config valid chore_member chore_id tenant_member worker).mp doomed
    have chore_member' : chore ∈ s.tables.chore := by
      rw [tables_eq]
      exact chore_member
    have unlisted' : tenant.name ∉ (s.tables.availableTenants log.week chore.name).map (·.1) := by
      rw [tables_eq]
      exact fun listed => unlisted ((t.availableTenants_names_frame _ _).mp listed)
    have rated' : s.tables.Rated log := by
      rw [tables_eq]
      exact rated
    rw [slots_eq]
    exact EStateM.run_bind_of_error
      (cleanStep_run_of_rated env intact chore_member' chore_id unlisted' rated')
  · obtain ⟨later, chore, chore_member, chore_id, tenant, tenant_member, worker, -⟩ := doomed
    exact absurd later (no_slot chore chore_member chore_id tenant tenant_member worker)

/-- **The loop of `clean_plan` over rows none of which is blocked** deletes the doomed ones and
keeps the others. It runs over the rows `future_chore_logs` returned on the tables `t` it started
from, `ChoreLog` by `ChoreLog`; the state holds `t` with the rows `todo` still to be looked at
between the rows `pre` and `post`. -/
theorem cleanLoop_settled (todo : List ChoreLogRow) : ∀ (pre post : List ChoreLogRow) (s : Db R),
    s.tables = { t with choreLog := pre ++ todo ++ post } → Integrity env s.tables →
    (∀ log ∈ todo, ¬t.Blocked env.config log) →
    ∃ s', ((todo.flatMap (t.futureSlots (t.thisWeek env.config))).forM (cleanStep env)).run s =
        .ok () s' ∧ s'.rng = s.rng ∧ Integrity env s'.tables ∧
      s'.tables =
        { t with choreLog := pre ++ todo.filter (fun log => !decide (t.Doomed env.config log)) ++ post } := by
  induction todo with
  | nil =>
    intro pre post s tables_eq intact _
    exact ⟨s, rfl, rfl, intact, by simpa using tables_eq⟩
  | cons log todo ih =>
    intro pre post s tables_eq intact unblocked
    have rest : ∀ log' ∈ todo, ¬t.Blocked env.config log' :=
      fun log' member => unblocked log' (List.mem_cons_of_mem _ member)
    have around : s.tables = { t with choreLog := pre ++ log :: (todo ++ post) } := by
      rw [tables_eq]
      simp
    rw [List.flatMap_cons, EStateM.run_forM_append]
    rcases cleanLog_run env valid around intact (unblocked log List.mem_cons_self) with
      ⟨spared, kept⟩ | ⟨doomed, s₁, deleted, rng₁, intact₁, tables₁⟩
    · -- the row stays, among the rows looked at
      obtain ⟨s', ran, rng_eq, intact', tables'⟩ :=
        ih (pre ++ [log]) post s (by rw [tables_eq]; simp) intact rest
      refine ⟨s', by rw [EStateM.run_bind_of_ok kept]; exact ran, rng_eq, intact', ?_⟩
      rw [tables']
      simp [spared]
    · obtain ⟨s', ran, rng_eq, intact', tables'⟩ :=
        ih pre post s₁ (by rw [tables₁, List.append_assoc]) intact₁ rest
      refine ⟨s', by rw [EStateM.run_bind_of_ok deleted]; exact ran, rng_eq.trans rng₁, intact', ?_⟩
      rw [tables']
      simp [doomed]

/-- **The loop of `clean_plan` stops at the first blocked row**, with the doomed rows before it
deleted. -/
theorem cleanLoop_blocked {todo post : List ChoreLogRow} {blocked : ChoreLogRow} {s : Db R}
    (tables_eq : s.tables = { t with choreLog := todo ++ blocked :: post })
    (intact : Integrity env s.tables) (unblocked : ∀ log ∈ todo, ¬t.Blocked env.config log)
    (stop : t.Blocked env.config blocked) :
    ∃ s', (((todo ++ blocked :: post).flatMap (t.futureSlots (t.thisWeek env.config))).forM
        (cleanStep env)).run s = .error (.err (.sql .foreignKey)) s' ∧ s'.rng = s.rng ∧
      Integrity env s'.tables ∧ s'.tables =
        { t with choreLog := todo.filter (fun log => !decide (t.Doomed env.config log)) ++ blocked :: post } := by
  obtain ⟨s₁, ran, rng₁, intact₁, tables₁⟩ :=
    cleanLoop_settled env valid todo [] (blocked :: post) s (by rw [tables_eq]; simp) intact unblocked
  rw [List.nil_append] at tables₁
  refine ⟨s₁, ?_, rng₁, intact₁, tables₁⟩
  rw [List.flatMap_append, EStateM.run_forM_append, EStateM.run_bind_of_ok ran, List.flatMap_cons,
    EStateM.run_forM_append,
    EStateM.run_bind_of_error (cleanLog_run_of_blocked env valid tables₁ intact₁ stop)]

end Loop

/-! ### `clean_plan` -/

section CleanPlan

variable {db : Db R} (intact : Integrity env db.tables)
include intact

/-- **`clean_plan` without a blocked row deletes exactly the doomed rows.** -/
theorem cleanPlan_settled (unblocked : ∀ log ∈ db.tables.choreLog, ¬db.tables.Blocked env.config log) :
    ∃ db', (cleanPlan env).run db = .ok () db' ∧ db'.rng = db.rng ∧ Integrity env db'.tables ∧
      db'.tables = db.tables.cleaned env.config := by
  have valid : db.tables.Valid := db.con.valid
  obtain ⟨db', ran, rng_eq, intact', tables'⟩ :=
    cleanLoop_settled env valid db.tables.choreLog [] [] db (by simp) intact unblocked
  refine ⟨db', by rw [cleanPlan_run env intact]; exact ran, rng_eq, intact', ?_⟩
  rw [tables']
  simp [Tables.cleaned, Tables.cleanedLogs]

/-- **`clean_plan` stops at the first blocked row**, and fails with the foreign key error. -/
theorem cleanPlan_stuck {pre post : List ChoreLogRow} {blocked : ChoreLogRow}
    (split : db.tables.choreLog = pre ++ blocked :: post)
    (unblocked : ∀ log ∈ pre, ¬db.tables.Blocked env.config log)
    (stop : db.tables.Blocked env.config blocked) :
    ∃ db', (cleanPlan env).run db = .error (.err (.sql .foreignKey)) db' ∧ db'.rng = db.rng ∧
      Integrity env db'.tables ∧ db'.tables = { db.tables with
        choreLog := pre.filter (fun log => !decide (db.tables.Doomed env.config log)) ++ blocked :: post } := by
  have valid : db.tables.Valid := db.con.valid
  obtain ⟨db', ran, rng_eq, intact', tables'⟩ :=
    cleanLoop_blocked env valid (by rw [← split]) intact unblocked stop
  exact ⟨db', by rw [cleanPlan_run env intact, split]; exact ran, rng_eq, intact', tables'⟩

end CleanPlan

/-! ### Planning a slot -/

section Plan

namespace Tables

/-- No `ChoreLog` of the slot's chore and week. -/
def Unplanned (t : Tables) (slot : Int × String) : Prop :=
  ∀ log ∈ t.choreLog, ∀ chore ∈ t.chore, chore.name = slot.2 → log.key ≠ (chore.id, slot.1)

/-- The query's `ORDER BY score ASC`. -/
theorem availableTenants_sorted (t : Tables) (week : Int) (chore : String) :
    (t.availableTenants week chore).Pairwise fun a b => a.2 ≤ b.2 := by
  have : Std.Total fun a b : String × ℚ => a.2 ≤ b.2 := ⟨fun a b => le_total a.2 b.2⟩
  have : IsTrans (String × ℚ) fun a b => a.2 ≤ b.2 := ⟨fun _ _ _ => le_trans⟩
  exact List.pairwise_insertionSort _ _

theorem availableTenantsFor_sorted (t : Tables) (exclude : Bool) (week : Int) (chore : String) :
    (t.availableTenantsFor exclude week chore).Pairwise fun a b => a.2 ≤ b.2 := by
  dsimp only [availableTenantsFor]
  split
  · exact t.availableTenants_sorted week chore
  · exact (t.availableTenants_sorted week chore).filter _

variable {t : Tables} {config : Config}

/-- **`get_weeks_to_plan` lists each slot once**: a week's active chores without a `ChoreLog` come
from the anti-join, once each, and the weeks differ. -/
theorem weeksToPlan_nodup (valid : t.Valid) : (t.weeksToPlan config).Nodup := by
  refine List.nodup_flatMap.mpr ⟨fun i _ => ?_, ?_⟩
  · have names : (t.unplannedChores (t.thisWeek config + (i : Int))).Nodup := by
      refine Sql.nodup_map_leftJoin_none (fun row passes => ?_) valid.chore_name
      obtain ⟨chore, log⟩ := row
      simp only [Bool.and_eq_true, Option.isNone_iff_eq_none] at passes
      exact passes.2
    exact names.map fun _ _ same => (Prod.mk.inj same).2
  · refine List.pairwise_lt_range.imp fun {i j} below => ?_
    intro slot first second
    obtain ⟨chore, -, first_eq⟩ := List.mem_map.mp first
    obtain ⟨chore', -, second_eq⟩ := List.mem_map.mp second
    have same_week := congrArg Prod.fst (first_eq.trans second_eq.symm)
    simp only [add_right_inj, Nat.cast_inj] at same_week
    omega

/-- Every slot `get_weeks_to_plan` lists has no `ChoreLog`. -/
theorem weeksToPlan_unplanned (valid : t.Valid) :
    ∀ slot ∈ t.weeksToPlan config, t.Unplanned slot := by
  rintro ⟨week, name⟩ member log log_member row row_member row_name key
  obtain ⟨-, -, unplanned⟩ := (t.mem_weeksToPlan config).mp member
  obtain ⟨chore, chore_member, chore_name, -, free⟩ := t.mem_unplannedChores.mp unplanned
  have same : row = chore :=
    List.inj_on_of_nodup_map valid.chore_name row_member chore_member (row_name.trans chore_name.symm)
  subst same
  exact free log log_member (Prod.mk.inj key)

/-- Where the plan covers the window, no slot `get_weeks_to_plan` lists has an available tenant. -/
theorem slots_empty_of_planCovers (covers : t.PlanCovers config) :
    ∀ slot ∈ t.weeksToPlan config, t.availableTenants slot.1 slot.2 = [] := by
  rintro ⟨week, name⟩ member
  obtain ⟨later, earlier, unplanned⟩ := (t.mem_weeksToPlan config).mp member
  obtain ⟨chore, chore_member, rfl, active, free⟩ := t.mem_unplannedChores.mp unplanned
  by_contra nonempty
  obtain ⟨log, log_member, chore_id, week_eq⟩ :=
    (covers chore chore_member active week later earlier).mpr nonempty
  exact free log log_member ⟨chore_id, week_eq⟩

end Tables

/-- The `INSERT` of the `ChoreLog` of an existing chore and tenant into an empty slot succeeds. -/
theorem insertChoreLog_run {con : Database} {chore : String} {week : Int} {tenant : String}
    {choreId worker : Nat} (found_chore : con.choreId chore = some choreId)
    (found_tenant : con.tenantId tenant = some worker)
    (free : (choreId, week) ∉ con.tables.choreLog.map (·.key)) :
    ∃ result, con.insertChoreLog chore week tenant = .ok result ∧ result.rowsAffected = 1 ∧
      result.con.tables = { con.tables with
        choreLog := con.tables.choreLog ++ [⟨choreId, week, worker, false, none⟩] } := by
  dsimp only [Database.insertChoreLog]
  split
  · rename_i chore_missing
    rw [found_chore] at chore_missing
    cases chore_missing
  · rename_i tenant_missing
    rw [found_tenant] at tenant_missing
    cases tenant_missing
  · rename_i chore_found tenant_found
    rw [found_chore, Option.some.injEq] at chore_found
    rw [found_tenant, Option.some.injEq] at tenant_found
    subst chore_found tenant_found
    rw [dif_neg free]
    exact ⟨_, rfl, rfl, rfl⟩

variable (drawing : WeightedIndexSpec env) (gamma_nonneg : 0 ≤ env.config.gamma)
  (gamma_le_one : env.config.gamma ≤ 1)
include drawing gamma_nonneg gamma_le_one

/-- **Planning a slot without a `ChoreLog` never fails**: a drawn tenant is a listed one, so it
exists, and the slot's `INSERT` meets no row of its key. -/
theorem planWeek_run {s : Db R} (intact : Integrity env s.tables) {week : Int} {chore : String}
    (unplanned : s.tables.Unplanned (week, chore)) :
    ∃ s', (planWeek env week chore).run s = .ok () s' := by
  simp only [planWeek, EStateM.run_bind, getAvailableTenantsUnnormalized_run env intact,
    normalizeTenants_availableTenantsFor_isEmpty]
  split
  · exact ⟨s, rfl⟩
  · rename_i nonempty
    have available : s.tables.availableTenantsFor env.config.tryExcludeBusyTenants week chore ≠ [] := by
      rw [Ne, ← List.isEmpty_iff, s.tables.availableTenantsFor_isEmpty]
      exact nonempty
    obtain ⟨tenant, score, prob, rng, member, drawn⟩ := chooseTenant_run env drawing available
      (s.tables.availableTenantsFor_sorted _ week chore) gamma_nonneg gamma_le_one s
    -- the drawn tenant is listed, so it and the chore exist
    obtain ⟨entry, entry_member, named⟩ : ∃ entry ∈
        s.tables.availableTenantsFor env.config.tryExcludeBusyTenants week chore, entry.1 = tenant := by
      rw [← List.mem_map, ← normalizeTenants_names]
      exact List.mem_map_of_mem member
    have listed_names : tenant ∈ (s.tables.availableTenants week chore).map (·.1) := by
      rw [← named]
      exact List.mem_map_of_mem (s.tables.mem_availableTenants_of_mem_for entry_member)
    obtain ⟨row, row_member, row_name, choreRow, chore_member, chore_name, -⟩ :=
      s.tables.mem_availableTenants_names.mp listed_names
    obtain ⟨found, first⟩ : ∃ found, s.tables.tenant.find? (·.name == tenant) = some found :=
      Option.isSome_iff_exists.mp (List.find?_isSome.mpr ⟨row, row_member, by simp [row_name]⟩)
    have found_tenant : s.con.tenantId tenant = some found.id := by
      rw [Database.tenantId]
      exact congrArg (Option.map (·.id)) first
    have found_chore : s.con.choreId chore = some choreRow.id := by
      rw [← chore_name]
      exact choreId_of_mem s.con.valid chore_member
    have free : (choreRow.id, week) ∉ s.tables.choreLog.map (·.key) := fun taken => by
      obtain ⟨log, log_member, key⟩ := List.mem_map.mp taken
      exact unplanned log log_member choreRow chore_member chore_name key
    obtain ⟨result, inserted, one, tables_eq⟩ := insertChoreLog_run found_chore found_tenant free
    have ran := @execute_run_ok R { s with rng := rng }
      (fun con => con.insertChoreLog chore week tenant) _ inserted
    have intact' : Integrity env ({ s with rng := rng, con := result.con } : Db R).tables := by
      show Integrity env result.con.tables
      rw [tables_eq]
      have polled : unpolledCompleted s.con.tables.choreLog = false :=
        unpolledCompleted_of_integrity env intact
      exact integrity_choreLog env intact _ (by simp [polled])
    have listed : (s.tables.tenant.filter fun row => row.name == tenant).isEmpty = false :=
      List.isEmpty_eq_false_iff.mpr (List.ne_nil_of_mem (List.mem_filter.mpr ⟨row_member, by simp [row_name]⟩))
    refine ⟨{ s with rng := rng, con := result.con }, ?_⟩
    -- the draw only moved the generator
    have intact₁ : Integrity env ({ s with rng := rng } : Db R).tables := intact
    have listed₁ : (({ s with rng := rng } : Db R).tables.tenant.filter fun row =>
        row.name == tenant).isEmpty = false := listed
    simp only [EStateM.run_bind_of_ok drawn, EStateM.run_bind, EStateM.run_get, listed₁,
      Bool.false_eq_true, if_false, integrityCheck_run env intact₁, ran, integrityCheck_run env intact',
      one, bne_self_eq_false, getWeekInternal_run env intact']
    rfl

/-- **Planning distinct slots without a `ChoreLog` never fails**: a planted row takes its own
slot only. -/
theorem planSlots_run : ∀ (slots : List (Int × String)) (s : Db R), Integrity env s.tables →
    slots.Nodup → (∀ slot ∈ slots, s.tables.Unplanned slot) →
    ∃ s', (slots.forM fun slot => planWeek env slot.1 slot.2).run s = .ok () s'
  | [], s, _, _, _ => ⟨s, rfl⟩
  | (week, chore) :: slots, s, intact, nodup, unplanned => by
    obtain ⟨s₁, first⟩ :=
      planWeek_run env drawing gamma_nonneg gamma_le_one intact (unplanned _ List.mem_cons_self)
    obtain ⟨intact₁, outcome⟩ := planWeek_ok env intact first
    rw [List.nodup_cons] at nodup
    have unplanned₁ : ∀ slot ∈ slots, s₁.tables.Unplanned slot := by
      intro slot member log log_member row row_member row_name key
      have before := unplanned slot (List.mem_cons_of_mem _ member)
      rcases outcome with ⟨-, same⟩ | ⟨-, planted, planted_log, planted_eq⟩
      · rw [same] at log_member row_member
        exact before log log_member row row_member row_name key
      · rw [planted_eq] at log_member row_member
        rcases List.mem_append.mp log_member with old | new
        · exact before log old row row_member row_name key
        · -- the planted row is of the slot `(week, chore)`, which is not `slot`
          rw [List.mem_singleton] at new
          subst new
          obtain ⟨choreRow, choreRow_member, choreRow_name, choreRow_id⟩ := planted_log.chore_mem
          have same_chore : row = choreRow := List.inj_on_of_nodup_map s.con.valid.chore_key
            row_member choreRow_member ((congrArg Prod.fst key).symm.trans choreRow_id.symm)
          have same_week : slot.1 = week := (congrArg Prod.snd key).symm.trans planted_log.week_eq
          subst same_chore
          have same_slot : slot = (week, chore) :=
            Prod.ext same_week (row_name.symm.trans choreRow_name)
          exact nodup.1 (same_slot ▸ member)
    obtain ⟨s', rest⟩ := planSlots_run slots s₁ intact₁ nodup.2 unplanned₁
    exact ⟨s', EStateM.run_forM_eq_ok.mpr ⟨s₁, first, rest⟩⟩

end Plan

/-! ### How a run of `update_plan` ends -/

section Outcome

/-- Every row planted slot by slot is staffed: its worker was listed when it was planted, and
who is listed depends on no `ChoreLog`. -/
theorem Planned.staffed {exclude : Bool} {t : Tables} {slots : List (Int × String)}
    {logs : List ChoreLogRow} (planned : Planned exclude t slots logs) :
    ∀ log ∈ logs, t.Staffed log := by
  induction planned with
  | nil => exact fun log member => absurd member List.not_mem_nil
  | skip _ _ ih => exact ih
  | @plant t week chore log slots logs _ planted _ ih =>
    intro log' member
    rcases List.mem_cons.mp member with rfl | member
    · obtain ⟨row, row_member, row_name, row_id⟩ := planted.chore_mem
      obtain ⟨tenant, tenant_member, worker, listed⟩ := planted.worker_mem
      obtain ⟨entry, entry_member, named⟩ := List.mem_map.mp listed
      refine ⟨row, row_member, row_id, tenant, tenant_member, worker, ?_⟩
      rw [planted.week_eq, row_name, ← named]
      exact List.mem_map_of_mem (t.mem_availableTenants_of_mem_for entry_member)
    · exact (t.staffed_frame _ _ log').mp (ih log' member)

/-- **A successful `update_plan` ends `Settled`**: no kept row is doomed, no planted row is
doomed, and the plan covers the window. -/
theorem settled_of_planned {exclude : Bool} {t : Tables} {config : Config}
    {inserted : List ChoreLogRow} (valid : t.Valid)
    (planned : Planned exclude (t.cleaned config) ((t.cleaned config).weeksToPlan config) inserted) :
    Tables.Settled { t with choreLog := t.cleanedLogs config ++ inserted } config := by
  refine ⟨fun log member => ?_, Tables.slots_empty_of_planCovers (planCovers_of_planned valid planned)⟩
  rw [t.doomed_frame]
  rcases List.mem_append.mp member with kept | new
  · simpa using (List.mem_filter.mp kept).2
  · exact Tables.not_doomed_of_staffed config valid
      (((t.staffed_frame _ _ log).mp (planned.staffed log new)))

theorem mem_filter_undoomed {t : Tables} {config : Config} {logs : List ChoreLogRow}
    {log : ChoreLogRow} (member : log ∈ logs) (spared : ¬t.Doomed config log) :
    log ∈ logs.filter fun log => !decide (t.Doomed config log) :=
  List.mem_filter.mpr ⟨member, by simpa using spared⟩

/-- A successful `update_plan` replans: `clean_plan` deleted the doomed rows, none of them rated,
and the planted rows are new. -/
theorem replanned_of_planned {exclude : Bool} {t : Tables} {config : Config}
    {inserted : List ChoreLogRow} (unblocked : ∀ log ∈ t.choreLog, ¬t.Blocked config log)
    (planned : Planned exclude (t.cleaned config) ((t.cleaned config).weeksToPlan config) inserted) :
    t.Replanned config { t with choreLog := t.cleanedLogs config ++ inserted } where
  only_choreLog := rfl
  kept _ member spared := List.mem_append_left _ (mem_filter_undoomed member spared)
  deleted_unrated log member deleted rated := by
    have doomed : t.Doomed config log := by
      by_contra spared
      exact deleted (List.mem_append_left _ (mem_filter_undoomed member spared))
    exact unblocked log member ⟨doomed, rated⟩
  added_fresh log member new := by
    rcases List.mem_append.mp member with kept | planted
    · exact absurd (List.mem_filter.mp kept).1 new
    · obtain ⟨-, -, -, -, -, unfinished, no_poll⟩ := planned.sound log planted
      exact ⟨unfinished, no_poll⟩

/-- A stuck `update_plan` replans: of the rows before the blocked one, the doomed ones are
deleted, none of them rated, and nothing is added. -/
theorem replanned_of_stuck {t : Tables} {config : Config} {pre post : List ChoreLogRow}
    {blocked : ChoreLogRow} (split : t.choreLog = pre ++ blocked :: post)
    (unblocked : ∀ log ∈ pre, ¬t.Blocked config log) :
    t.Replanned config
      { t with choreLog := pre.filter (fun log => !decide (t.Doomed config log)) ++ blocked :: post } where
  only_choreLog := rfl
  kept log member spared := by
    rw [split] at member
    rcases List.mem_append.mp member with before | after
    · exact List.mem_append_left _ (mem_filter_undoomed before spared)
    · exact List.mem_append_right _ after
  deleted_unrated log member deleted rated := by
    rw [split] at member
    rcases List.mem_append.mp member with before | after
    · have doomed : t.Doomed config log := by
        by_contra spared
        exact deleted (List.mem_append_left _ (mem_filter_undoomed before spared))
      exact unblocked log before ⟨doomed, rated⟩
    · exact deleted (List.mem_append_right _ after)
  added_fresh log member new := by
    refine absurd ?_ new
    rw [split]
    rcases List.mem_append.mp member with before | after
    · exact List.mem_append_left _ (List.mem_filter.mp before).1
    · exact List.mem_append_right _ after

/-- Two states of `Db` with the same tables and generator are equal. -/
theorem Db.eq_of_tables {db db' : Db R} (tables_eq : db'.tables = db.tables)
    (rng_eq : db'.rng = db.rng) : db' = db := by
  obtain ⟨⟨t', valid'⟩, rng'⟩ := db'
  obtain ⟨⟨t, valid⟩, rng⟩ := db
  simp only [Db.tables_mk] at tables_eq
  subst tables_eq rng_eq
  rfl

variable (drawing : WeightedIndexSpec env) (gamma_nonneg : 0 ≤ env.config.gamma)
  (gamma_le_one : env.config.gamma ≤ 1)
include drawing gamma_nonneg gamma_le_one

/-- **Every run of `update_plan` ends `Settled` or `Stuck`.** From tables that pass
`integrity_check`, with a sampler as `rand` documents it and `gamma ∈ [0, 1]`: when no doomed row
is rated, `clean_plan` deletes the doomed rows and every empty slot is planned, and the run
succeeds with nothing left to do; otherwise `clean_plan` fails at the first blocked row with the
foreign key error. Either way only `ChoreLog` changes, and the tables still pass
`integrity_check`. -/
theorem updatePlan_outcome {db : Db R} (intact : Integrity env db.tables) :
    (∃ changed db', (updatePlan env).run db = .ok changed db' ∧ Integrity env db'.tables ∧
        db.tables.Replanned env.config db'.tables ∧ db'.tables.Settled env.config) ∨
      (∃ db', (updatePlan env).run db = .error (.err (.sql .foreignKey)) db' ∧
        Integrity env db'.tables ∧ db.tables.Replanned env.config db'.tables ∧
        db'.tables.Stuck env.config) := by
  have valid : db.tables.Valid := db.con.valid
  cases found : db.tables.choreLog.find? fun log => decide (db.tables.Blocked env.config log) with
  | none =>
    -- nothing blocks `clean_plan`, and every slot it leaves empty is planned
    have unblocked : ∀ log ∈ db.tables.choreLog, ¬db.tables.Blocked env.config log :=
      fun log member => by simpa using List.find?_eq_none.mp found log member
    obtain ⟨db₁, cleaned, -, intact₁, tables₁⟩ := cleanPlan_settled env intact unblocked
    have valid₁ : db₁.tables.Valid := db₁.con.valid
    obtain ⟨db₂, planned⟩ := planSlots_run env drawing gamma_nonneg gamma_le_one _ db₁ intact₁
      (Tables.weeksToPlan_nodup valid₁) (Tables.weeksToPlan_unplanned valid₁)
    obtain ⟨intact₂, -⟩ := planSlots_ok env _ intact₁ planned
    have ran : ∃ changed, (updatePlan env).run db = .ok changed db₂ := by
      unfold updatePlan
      rw [EStateM.run_bind_of_ok cleaned, EStateM.run_bind_of_ok (getWeeksToPlan_run env intact₁),
        EStateM.run_bind_of_ok planned]
      split
      · exact ⟨false, rfl⟩
      · rw [EStateM.run_bind_of_ok (listPlan_run env intact₂)]
        exact ⟨true, rfl⟩
    obtain ⟨changed, ran⟩ := ran
    obtain ⟨inserted, plan, tables₂⟩ := updatePlan_ok env intact ran
    refine .inl ⟨changed, db₂, ran, intact₂, ?_, ?_⟩
    · rw [tables₂]
      exact replanned_of_planned unblocked plan
    · rw [tables₂]
      exact settled_of_planned valid plan
  | some blocked =>
    -- `clean_plan` stops at the first blocked row
    obtain ⟨stop, pre, post, split, unblocked⟩ := List.find?_eq_some_iff_append.mp found
    have unblocked' : ∀ log ∈ pre, ¬db.tables.Blocked env.config log :=
      fun log member => by simpa using unblocked log member
    obtain ⟨db', failed, -, intact', tables'⟩ := cleanPlan_stuck env intact split unblocked'
      (by simpa using stop)
    refine .inr ⟨db', by unfold updatePlan; exact EStateM.run_bind_of_error failed, intact',
      by rw [tables']; exact replanned_of_stuck split unblocked', _, blocked, post, by rw [tables'],
      fun log member => ?_, ?_⟩
    · rw [tables', db.tables.doomed_frame]
      simpa using (List.mem_filter.mp member).2
    · rw [tables']
      have blocked_now : db.tables.Blocked env.config blocked := by simpa using stop
      exact ⟨(db.tables.doomed_frame _ _ _ _).mpr blocked_now.1, blocked_now.2⟩

end Outcome

/-! ### `update_plan` at either end -/

section Quiet

variable {db : Db R} (intact : Integrity env db.tables)
include intact

/-- A slot without an available tenant is left as it is. -/
theorem planWeek_run_of_empty {week : Int} {chore : String}
    (empty : db.tables.availableTenants week chore = []) :
    (planWeek env week chore).run db = .ok () db := by
  simp only [planWeek, EStateM.run_bind, getAvailableTenantsUnnormalized_run env intact,
    normalizeTenants_availableTenantsFor_isEmpty, empty, List.isEmpty_nil, if_true]
  rfl

/-- **From a settled state, `update_plan` changes nothing**: no row is doomed, so `clean_plan`
deletes none, and no slot has an available tenant, so nothing is drawn. -/
theorem updatePlan_run_of_settled (settled : db.tables.Settled env.config) :
    ∃ changed, (updatePlan env).run db = .ok changed db := by
  obtain ⟨db₁, cleaned, rng₁, -, tables₁⟩ :=
    cleanPlan_settled env intact fun log member blocked => settled.none_doomed log member blocked.1
  have kept : db.tables.cleanedLogs env.config = db.tables.choreLog :=
    List.filter_eq_self.mpr fun log member => by simp [settled.none_doomed log member]
  rw [Db.eq_of_tables (by rw [tables₁, Tables.cleaned, kept]) rng₁] at cleaned
  have planned := EStateM.run_forM_of_pure (db.tables.weeksToPlan env.config)
    fun slot member => planWeek_run_of_empty env intact (settled.slots_empty slot member)
  unfold updatePlan
  rw [EStateM.run_bind_of_ok cleaned, EStateM.run_bind_of_ok (getWeeksToPlan_run env intact),
    EStateM.run_bind_of_ok planned]
  split
  · exact ⟨false, rfl⟩
  · rw [EStateM.run_bind_of_ok (listPlan_run env intact)]
    exact ⟨true, rfl⟩

/-- **From a stuck state, `update_plan` changes nothing**: `clean_plan` meets the blocked row
before any doomed one and fails there. -/
theorem updatePlan_run_of_stuck (stuck : db.tables.Stuck env.config) :
    (updatePlan env).run db = .error (.err (.sql .foreignKey)) db := by
  obtain ⟨pre, blocked, post, split, spared, stop⟩ := stuck
  obtain ⟨db', failed, rng', -, tables'⟩ :=
    cleanPlan_stuck env intact split (fun log member blocked => spared log member blocked.1) stop
  have kept : pre.filter (fun log => !decide (db.tables.Doomed env.config log)) = pre :=
    List.filter_eq_self.mpr fun log member => by simp [spared log member]
  rw [Db.eq_of_tables (by rw [tables', kept, ← split]) rng'] at failed
  unfold updatePlan
  exact EStateM.run_bind_of_error failed

end Quiet

end ChorePlanner
