/-
**The weekly action is idempotent within a week.**

`weekly_action` sets the week, updates the plan and, when the week changed, stops last week's
polls, creates this week's and prints the banner. Run a second time on the same day, the week no
longer changes, so only `update_plan` runs, and it finds nothing to do.

* `Tables.Quiet` — `Settled` or `Stuck`: how every run of `update_plan` ends, and where it changes
  nothing (`Proofs.Progress`).
* `ChoreLogRow.assignment`, `Tables.KeepsPlan` — what a rating round changes of the plan: the poll
  columns of `ChoreLog`, row by row, and new `Rating` rows. `KeepsPlan.quiet` carries a quiet
  state over it.
* `stopRatingPolls_keepsPlan`, `createRatingPolls_keepsPlan` — the frames of the two rounds, from
  one lemma per statement and the frame rules of `EStateM.Respects`, lifted to the bot's state.
  `weeklyAction_respects` — after `set_week` the weekly action writes only `ChoreLog` and
  `Rating`, so `weeklyAction_writes`: it writes only `KeyValue`, `ChoreLog` and `Rating`.
* `setWeek_run` — `set_week` outside debug mode writes the week and says whether it changed;
  `setWeek_run_debug` — in debug mode it writes the week after the current one.
* `weeklyAction_quiet`, `weeklyAction_run_of_quiet` — the first weekly action of a week leaves a
  quiet state with the week set; from such a state it changes nothing.
* `weeklyAction_idempotent` — **running the weekly action twice on one day leaves the database,
  the generator and the bot as running it once**, and so does running `update_plan` twice.
-/

import ChorePlanner.Proofs.Progress

set_option linter.unusedSectionVars false

namespace ChorePlanner

open EStateM

/-! ### What a rating round keeps -/

/-- The chore, week and worker of a `ChoreLog`: what a rating round never changes. -/
def ChoreLogRow.assignment (log : ChoreLogRow) : Nat × Int × Nat := (log.choreId, log.week, log.worker)

theorem ChoreLogRow.key_eq_of_assignment {log log' : ChoreLogRow}
    (same : log.assignment = log'.assignment) : log.key = log'.key := by
  simp only [assignment, Prod.mk.injEq] at same
  simp [key, same.1, same.2.1]

namespace Tables

/-- The states `update_plan` leaves, and then does not change. -/
def Quiet (t : Tables) (config : Config) : Prop := t.Settled config ∨ t.Stuck config

/-- `t'` differs from `t` only in the poll columns of `ChoreLog`, row by row, and in more
`Rating` rows. -/
def KeepsPlan (t t' : Tables) : Prop :=
  ∃ logs ratings, t' = { t with choreLog := logs, rating := ratings } ∧
    logs.map (·.assignment) = t.choreLog.map (·.assignment) ∧ ∀ rating ∈ t.rating, rating ∈ ratings

theorem KeepsPlan.refl (t : Tables) : t.KeepsPlan t :=
  ⟨t.choreLog, t.rating, rfl, rfl, fun _ member => member⟩

theorem KeepsPlan.trans {t t' t'' : Tables} (first : t.KeepsPlan t') (second : t'.KeepsPlan t'') :
    t.KeepsPlan t'' := by
  obtain ⟨logs, ratings, rfl, same, grown⟩ := first
  obtain ⟨logs', ratings', rfl, same', grown'⟩ := second
  exact ⟨logs', ratings', rfl, same'.trans same, fun rating member => grown' rating (grown rating member)⟩

variable {t : Tables} {config : Config}

/-- Whether a `ChoreLog` is doomed depends only on its chore, week and worker. -/
theorem doomed_congr {log log' : ChoreLogRow} (same : log.assignment = log'.assignment) :
    t.Doomed config log ↔ t.Doomed config log' := by
  simp only [ChoreLogRow.assignment, Prod.mk.injEq] at same
  obtain ⟨chore_id, week, worker⟩ := same
  unfold Doomed
  rw [chore_id, week, worker]

/-- A row of a kept plan has a row of the same assignment in the old one. -/
theorem exists_assignment_of_mem {logs : List ChoreLogRow}
    (same : logs.map (·.assignment) = t.choreLog.map (·.assignment)) {log : ChoreLogRow}
    (member : log ∈ logs) : ∃ old ∈ t.choreLog, old.assignment = log.assignment := by
  have assigned := List.mem_map_of_mem (f := (·.assignment)) member
  rw [same] at assigned
  exact List.mem_map.mp assigned

/-- The slots `get_weeks_to_plan` lists depend on `ChoreLog` only through its keys. -/
theorem mem_weeksToPlan_frame {logs : List ChoreLogRow} {ratings : List RatingRow}
    (keys : logs.map (·.key) = t.choreLog.map (·.key)) (slot : Int × String) :
    slot ∈ Tables.weeksToPlan { t with choreLog := logs, rating := ratings } config ↔
      slot ∈ t.weeksToPlan config := by
  obtain ⟨week, name⟩ := slot
  have free : ∀ (rows : List ChoreLogRow) (id : Nat),
      (∀ log ∈ rows, ¬(log.choreId = id ∧ log.week = week)) ↔ (id, week) ∉ rows.map (·.key) :=
    fun rows id => by simp [ChoreLogRow.key]
  rw [Tables.mem_weeksToPlan, t.mem_weeksToPlan config, Tables.mem_unplannedChores,
    t.mem_unplannedChores]
  simp only [free, keys]
  rfl

/-- **A rating round keeps a settled state settled**: no row became doomed, and no slot appeared. -/
theorem KeepsPlan.settled {t' : Tables} (kept : t.KeepsPlan t') (settled : t.Settled config) :
    t'.Settled config := by
  obtain ⟨logs, ratings, rfl, same, -⟩ := kept
  have keys : logs.map (·.key) = t.choreLog.map (·.key) := by
    have viaAssignment := congrArg (List.map fun a : Nat × Int × Nat => (a.1, a.2.1)) same
    simpa [List.map_map, Function.comp_def, ChoreLogRow.assignment, ChoreLogRow.key] using viaAssignment
  refine ⟨fun log member => ?_, fun slot member => ?_⟩
  · obtain ⟨old, old_member, assigned⟩ := exists_assignment_of_mem same member
    rw [t.doomed_frame, ← doomed_congr assigned]
    exact settled.none_doomed old old_member
  · exact (availableTenants_eq_nil_frame t logs slot.1 slot.2).mpr
      (settled.slots_empty slot ((mem_weeksToPlan_frame keys slot).mp member))

/-- **A rating round keeps a stuck state stuck**: the rows keep their order, the blocked row stays
doomed, and its `Rating` stays. -/
theorem KeepsPlan.stuck {t' : Tables} (kept : t.KeepsPlan t') (stuck : t.Stuck config) :
    t'.Stuck config := by
  obtain ⟨logs, ratings, rfl, same, grown⟩ := kept
  obtain ⟨pre, blocked, post, split, spared, doomed, rating, rating_member, refers⟩ := stuck
  rw [split, List.map_append, List.map_cons] at same
  obtain ⟨pre', rest, logs_eq, pre_eq, rest_eq⟩ := List.map_eq_append_iff.mp same
  obtain ⟨blocked', post', rfl, assigned, -⟩ := List.map_eq_cons_iff.mp rest_eq
  refine ⟨pre', blocked', post', logs_eq, fun log member => ?_, ?_, rating, grown rating rating_member,
    refers.trans (ChoreLogRow.key_eq_of_assignment assigned).symm⟩
  · have assigned_member : log.assignment ∈ pre.map (·.assignment) := by
      rw [← pre_eq]
      exact List.mem_map_of_mem member
    obtain ⟨old, old_member, old_assigned⟩ := List.mem_map.mp assigned_member
    rw [t.doomed_frame, ← doomed_congr old_assigned]
    exact spared old old_member
  · rw [t.doomed_frame, doomed_congr assigned]
    exact doomed

theorem KeepsPlan.currentWeek {t' : Tables} (kept : t.KeepsPlan t') : t'.currentWeek = t.currentWeek := by
  obtain ⟨logs, ratings, rfl, -, -⟩ := kept
  rfl

theorem KeepsPlan.quiet {t' : Tables} (kept : t.KeepsPlan t') (quiet : t.Quiet config) :
    t'.Quiet config := by
  rcases quiet with settled | stuck
  · exact .inl (kept.settled settled)
  · exact .inr (kept.stuck stuck)

end Tables

/-! ### The frames of a rating round -/

section Frames

variable {R B : Type} (env : Env R) (bot : PollableBot B)

/-- The plan of `db` is kept in `db'`. -/
def PlanKept (db db' : Db R) : Prop := db.tables.KeepsPlan db'.tables

instance : Std.Refl (PlanKept (R := R)) := ⟨fun db => Tables.KeepsPlan.refl db.tables⟩

instance : IsTrans (Db R) PlanKept := ⟨fun _ _ _ first second => first.trans second⟩

/-- A relation of `Db` states, on the `Db` part of the bot's states. -/
def OnDb (r : Db R → Db R → Prop) (s s' : Db R × B) : Prop := r s.1 s'.1

instance {r : Db R → Db R → Prop} [Std.Refl r] : Std.Refl (OnDb (B := B) r) :=
  ⟨fun s => Std.Refl.refl s.1⟩

instance {r : Db R → Db R → Prop} [IsTrans (Db R) r] : IsTrans (Db R × B) (OnDb r) :=
  ⟨fun _ _ _ first second => @IsTrans.trans _ r _ _ _ _ first second⟩

/-- When the statement succeeds, it keeps the plan. -/
def Statement.KeepsPlan (statement : Database → Except Error Executed) : Prop :=
  ∀ con result, statement con = .ok result → con.tables.KeepsPlan result.con.tables

theorem updateChoreLogPoll_keepsPlan (pollId week : Int) (chore : String) :
    Statement.KeepsPlan (·.updateChoreLogPoll pollId week chore) := by
  intro con result ran
  dsimp only [Database.updateChoreLogPoll] at ran
  split at ran
  · cases ran
    exact ⟨_, con.tables.rating, rfl, Sql.map_update fun _ => rfl, fun _ member => member⟩
  · cases ran

theorem updateChoreLogCompleted_keepsPlan (pollId : Int) :
    Statement.KeepsPlan (·.updateChoreLogCompleted pollId) := by
  intro con result ran
  dsimp only [Database.updateChoreLogCompleted] at ran
  cases ran
  exact ⟨_, con.tables.rating, rfl, Sql.map_update fun _ => rfl, fun _ member => member⟩

theorem insertRating_keepsPlan (pollId : Int) (rating : Nat) :
    Statement.KeepsPlan (·.insertRating pollId rating) := by
  intro con result ran
  dsimp only [Database.insertRating] at ran
  split at ran
  · cases ran
  · cases ran
    exact ⟨con.tables.choreLog, _, rfl, rfl, fun _ member => List.mem_append_left _ member⟩

theorem execute_keepsPlan {statement : Database → Except Error Executed}
    (keeps : Statement.KeepsPlan statement) : Respects PlanKept (execute (R := R) statement) := by
  intro db
  simp only [execute, EStateM.run_bind, EStateM.run_get]
  split
  · rename_i result ran
    exact keeps db.con result ran
  · exact Std.Refl.refl db

theorem liftDb_run_ok {α : Type} {x : DbM R α} {db db' : Db R} {a : α} (ran : x.run db = .ok a db')
    (b : B) : (liftDb x).run (db, b) = .ok a (db', b) := by
  show liftDb x (db, b) = _
  unfold liftDb
  dsimp only
  rw [ran]

theorem liftDb_run_error {α : Type} {x : DbM R α} {db db' : Db R} {e : Failure}
    (ran : x.run db = .error e db') (b : B) : (liftDb x).run (db, b) = .error e (db', b) := by
  show liftDb x (db, b) = _
  unfold liftDb
  dsimp only
  rw [ran]

variable {r : Db R → Db R → Prop} [Std.Refl r] [IsTrans (Db R) r]

/-- A method of `Db` run inside `BotM` keeps its frame on the `Db` part. -/
theorem liftDb_respects {α : Type} {x : DbM R α} (frame : Respects r x) :
    Respects (OnDb r) (liftDb x : BotM R B α) := by
  rintro ⟨db, b⟩
  have step := frame db
  cases ran : x.run db with
  | ok a db' =>
    rw [ran] at step
    show r db ((liftDb x).run (db, b)).store.1
    rw [liftDb_run_ok ran]
    exact step
  | error e db' =>
    rw [ran] at step
    show r db ((liftDb x).run (db, b)).store.1
    rw [liftDb_run_error ran]
    exact step

theorem sendPoll_respects (question : String) (options : List String) :
    Respects (OnDb (B := B) r) (sendPoll bot question options) := by
  rintro ⟨db, b⟩
  show r db (sendPoll (R := R) bot question options (db, b)).store.1
  unfold sendPoll
  dsimp only
  split <;> exact Std.Refl.refl db

theorem stopPoll_respects (pollId : Int) : Respects (OnDb (B := B) r) (stopPoll bot pollId) := by
  rintro ⟨db, b⟩
  show r db (stopPoll (R := R) bot pollId (db, b)).store.1
  unfold stopPoll
  dsimp only
  split <;> exact Std.Refl.refl db

/-- Reporting a result leaves the store where the call left it. -/
theorem report_store {α : Type} (x : BotM R B α) (s : Db R × B) :
    ((report x).run s).store = (x.run s).store := by
  show (report x s).store = (x s).store
  unfold report
  cases x s with
  | ok _ _ => rfl
  | error e _ => cases e <;> rfl

theorem report_respects {α : Type} {r' : Db R × B → Db R × B → Prop} {x : BotM R B α}
    (frame : Respects r' x) : Respects r' (report x) := fun s => by
  rw [report_store]
  exact frame s

theorem report_run_ok {α : Type} {x : BotM R B α} {s s' : Db R × B} {a : α}
    (ran : x.run s = .ok a s') : (report x).run s = .ok () s' := by
  show report x s = _
  unfold report
  rw [show x s = .ok a s' from ran]

theorem report_run_err {α : Type} {x : BotM R B α} {s s' : Db R × B} {e : Error}
    (ran : x.run s = .error (.err e) s') : (report x).run s = .ok () s' := by
  show report x s = _
  unfold report
  rw [show x s = .error (.err e) s' from ran]

theorem checkAffected_reads (affectedRows : Nat) : Respects r (checkAffected affectedRows : DbM R Unit) := by
  unfold checkAffected
  exact .ite (bail_reads _) (.pure _)

/-- Stopping the polls keeps every relation that stopping each poll keeps: the rest only reads. -/
theorem stopRatingPolls_respects
    (stopped : ∀ pollId, Respects (OnDb (B := B) r) (stopRatingPoll env bot pollId)) :
    Respects (OnDb r) (stopRatingPolls env bot) := by
  unfold stopRatingPolls
  exact .bind (liftDb_respects (getWeekInternal_reads env)) fun _ => .bind .get fun _ =>
    .bind (liftDb_respects (integrityCheck_reads env)) fun _ => .forM stopped _

/-- Creating the polls keeps every relation that writing a poll id keeps: sending a poll changes
only the bot, and the rest only reads. -/
theorem createRatingPolls_respects
    (polled : ∀ pollId week chore, Respects r (execute (R := R) (·.updateChoreLogPoll pollId week chore))) :
    Respects (OnDb (B := B) r) (createRatingPolls env bot) := by
  unfold createRatingPolls
  refine .bind (liftDb_respects (getWeekInternal_reads env)) fun _ => .bind .get fun _ =>
    .bind (liftDb_respects (integrityCheck_reads env)) fun _ => .forM (fun entry => ?_) _
  obtain ⟨chore, tenant⟩ := entry
  exact .bind (sendPoll_respects bot _ _) fun _ =>
    .bind (liftDb_respects (polled _ _ _)) fun _ =>
      .bind (liftDb_respects (integrityCheck_reads env)) fun _ => liftDb_respects (checkAffected_reads _)

/-- Storing one option's votes only adds `Rating` rows. -/
theorem insertRatings_keepsPlan (pollId : Int) (rating count : Nat) :
    Respects PlanKept (insertRatings env pollId rating count) := by
  unfold insertRatings
  exact .forM (fun _ => .bind (execute_keepsPlan (insertRating_keepsPlan _ _)) fun _ =>
    .bind (integrityCheck_reads env) fun _ => checkAffected_reads _) _

/-- **Stopping the polls keeps the plan**: it adds `Rating` rows and marks rows completed. -/
theorem stopRatingPolls_keepsPlan :
    Respects (OnDb (B := B) PlanKept) (stopRatingPolls env bot) := by
  refine stopRatingPolls_respects env bot fun pollId => ?_
  unfold stopRatingPoll
  refine .bind (stopPoll_respects bot pollId) fun results =>
    .bind (.forM (fun entry => ?_) results) fun _ => ?_
  · refine .bind (liftDb_respects ?_) fun rating => liftDb_respects (insertRatings_keepsPlan env _ _ _)
    split
    · exact .pure _
    · exact .throw _
  · exact .bind (liftDb_respects (execute_keepsPlan (updateChoreLogCompleted_keepsPlan _))) fun _ =>
      .bind (liftDb_respects (integrityCheck_reads env)) fun _ => liftDb_respects (checkAffected_reads _)

/-- **Creating the polls keeps the plan**: it only writes poll ids. -/
theorem createRatingPolls_keepsPlan :
    Respects (OnDb (B := B) PlanKept) (createRatingPolls env bot) :=
  createRatingPolls_respects env bot fun _ _ _ => execute_keepsPlan (updateChoreLogPoll_keepsPlan _ _ _)

/-! The tables each part writes, whatever its outcome. -/

theorem setWeekInternal_writes (week : Int) :
    Respects (WritesOnly [.keyValue]) (setWeekInternal env week) := by
  intro db
  simp only [setWeekInternal, EStateM.run_bind, EStateM.run_get]
  split
  · exact Std.Refl.refl db
  · rename_i result ran
    -- the new week is written before the checks that may panic
    have frame : WritesOnly [.keyValue] db { db with con := result.con } :=
      replaceCurrentWeek_writes week db.con result ran
    simp only [EStateM.run_bind, EStateM.run_set]
    split_ifs <;> exact frame

theorem setWeek_writes (week : Int) : Respects (WritesOnly [.keyValue]) (setWeek env week) := by
  unfold setWeek
  refine .bind (getWeekInternal_reads env) fun _ => ?_
  dsimp only
  refine .ite ?_ ?_ <;>
    exact .bind (setWeekInternal_writes env _) fun _ => .bind (getWeekInternal_reads env) fun _ => .pure _

theorem insertRatings_writes (pollId : Int) (rating count : Nat) :
    Respects (WritesOnly [.rating]) (insertRatings env pollId rating count) := by
  unfold insertRatings
  exact .forM (fun _ => .bind (execute_writes (insertRating_writes _ _)) fun _ =>
    .bind (integrityCheck_reads env) fun _ => checkAffected_reads _) _

theorem stopRatingPoll_writes (pollId : Int) :
    Respects (OnDb (B := B) (WritesOnly [.choreLog, .rating])) (stopRatingPoll env bot pollId) := by
  unfold stopRatingPoll
  refine .bind (stopPoll_respects bot pollId) fun results =>
    .bind (.forM (fun entry => ?_) results) fun _ => ?_
  · refine .bind (liftDb_respects ?_) fun rating =>
      liftDb_respects (Respects.widen (insertRatings_writes env _ _ _) (by decide))
    split
    · exact .pure _
    · exact .throw _
  · exact .bind (liftDb_respects (Respects.widen (execute_writes (updateChoreLogCompleted_writes pollId)) (by decide)))
      fun _ => .bind (liftDb_respects (integrityCheck_reads env)) fun _ => liftDb_respects (checkAffected_reads _)

/-- The weekly action keeps every relation that `set_week` keeps and that tables equal outside
`ChoreLog` and `Rating` are in, whatever its outcome: after the week, it writes only the plan, the
polls' columns and their votes. -/
theorem weeklyAction_respects {r : Db R → Db R → Prop} [Std.Refl r] [IsTrans (Db R) r] (today : Int)
    (week : Respects r (setWeek env (Week.ofDate today)))
    (rest : ∀ db db', WritesOnly [.choreLog, .rating] db db' → r db db') :
    Respects (OnDb (B := B) r) (weeklyAction env bot today) := by
  have plan : Respects (OnDb (B := B) r) (report (liftDb (updatePlan env))) :=
    report_respects (liftDb_respects (Respects.mono (updatePlan_writes env) fun db db' frame =>
      rest db db' (WritesOnly.mono (by decide) frame)))
  unfold weeklyAction
  refine .bind (liftDb_respects week) fun _ => .ite ?_ ?_
  · exact .bind plan fun _ => .pure _
  · refine .bind plan fun _ => .bind (report_respects (stopRatingPolls_respects env bot fun pollId =>
      Respects.mono (stopRatingPoll_writes env bot pollId) fun _ _ => rest _ _)) fun _ =>
        .bind (report_respects (createRatingPolls_respects env bot fun _ _ _ =>
          Respects.mono (execute_writes (updateChoreLogPoll_writes _ _ _)) fun db db' frame =>
            rest db db' (WritesOnly.mono (by decide) frame))) fun _ =>
            report_respects (liftDb_respects (printNextWeekBanner_reads env))

/-- **The weekly action writes only `KeyValue`, `ChoreLog` and `Rating`**, whatever its outcome:
the week, the plan, the polls' columns and their votes. -/
theorem weeklyAction_writes (today : Int) :
    Respects (OnDb (B := B) (WritesOnly [.keyValue, .choreLog, .rating])) (weeklyAction env bot today) :=
  weeklyAction_respects env bot today (Respects.widen (setWeek_writes env _) (by decide))
    fun _ _ => WritesOnly.mono (by decide)

end Frames

/-! ### Runs of the weekly action -/

section Runs

variable {R B : Type} (env : Env R) (bot : PollableBot B)

theorem integrity_currentWeek {t : Tables} (intact : Integrity env t) (week : Option Int) :
    Integrity env { t with currentWeek := week } := by
  unfold Integrity integrityViolation at *
  exact intact

theorem printNextWeekBanner_run {db : Db R} (intact : Integrity env db.tables) :
    (printNextWeekBanner env).run db = .ok () db := by
  simp only [printNextWeekBanner, EStateM.run_bind, getWeekInternal_run env intact,
    integrityCheck_run env intact]
  rfl

/-- `set_week_internal` writes the week into `KeyValue`. -/
theorem setWeekInternal_run {db : Db R} (intact : Integrity env db.tables) (week : Int) :
    (setWeekInternal env week).run db =
      .ok () { db with con := ⟨{ db.tables with currentWeek := some week }, db.con.valid.withCurrentWeek _⟩ } := by
  simp only [setWeekInternal, EStateM.run_bind, EStateM.run_get, Database.replaceCurrentWeek,
    EStateM.run_set]
  rw [if_pos]
  · rfl
  · exact integrity_currentWeek env intact _

/-- **`set_week` outside debug mode writes the week and says whether it changed.** -/
theorem setWeek_run {db : Db R} (intact : Integrity env db.tables) (release : env.config.debug = false)
    (week : Int) :
    ∃ db', (setWeek env week).run db = .ok (db.tables.thisWeek env.config != week) db' ∧
      db'.tables = { db.tables with currentWeek := some week } ∧ db'.rng = db.rng := by
  let db' : Db R :=
    { db with con := ⟨{ db.tables with currentWeek := some week }, db.con.valid.withCurrentWeek _⟩ }
  have written : (setWeekInternal env week).run db = .ok () db' := setWeekInternal_run env intact week
  have intact' : Integrity env db'.tables := integrity_currentWeek env intact _
  refine ⟨db', ?_, rfl, rfl⟩
  simp only [setWeek, EStateM.run_bind, getWeekInternal_run env intact, release, Bool.false_eq_true,
    if_false, written, getWeekInternal_run env intact']
  rfl

/-- **`set_week` in debug mode writes the week after the current one**, whatever the date. -/
theorem setWeek_run_debug {db : Db R} (intact : Integrity env db.tables) (debug : env.config.debug = true)
    (week : Int) :
    ∃ db', (setWeek env week).run db = .ok true db' ∧
      db'.tables = { db.tables with currentWeek := some (db.tables.thisWeek env.config + 1) } ∧
      db'.rng = db.rng := by
  let db' : Db R := { db with
    con := ⟨{ db.tables with currentWeek := some (db.tables.thisWeek env.config + 1) },
      db.con.valid.withCurrentWeek _⟩ }
  have written : (setWeekInternal env (db.tables.thisWeek env.config + 1)).run db = .ok () db' :=
    setWeekInternal_run env intact _
  have intact' : Integrity env db'.tables := integrity_currentWeek env intact _
  refine ⟨db', ?_, rfl, rfl⟩
  simp only [setWeek, EStateM.run_bind, getWeekInternal_run env intact, debug, if_true, written,
    getWeekInternal_run env intact']
  show EStateM.Result.ok (db.tables.thisWeek env.config != db.tables.thisWeek env.config + 1) _ = _
  rw [bne_iff_ne.mpr (by omega)]

theorem updatePlan_run_of_broken {db : Db R} (broken : ¬Integrity env db.tables) :
    (updatePlan env).run db = .error .panic db :=
  run_bind_of_error (run_bind_of_error (getWeekInternal_run_of_not env broken))

/-- From a state that fails `integrity_check`, the weekly action panics in its first query. -/
theorem weeklyAction_run_of_broken (today : Int) {s : Db R × B} (broken : ¬Integrity env s.1.tables) :
    (weeklyAction env bot today).run s = .error .panic s := by
  have failed : (setWeek env (Week.ofDate today)).run s.1 = .error .panic s.1 :=
    run_bind_of_error (getWeekInternal_run_of_not env broken)
  exact run_bind_of_error (liftDb_run_error failed s.2)

/-- **`update_plan` is idempotent**: its second run leaves the store where the first left it. -/
theorem updatePlan_run_twice (drawing : WeightedIndexSpec env) (gamma_nonneg : 0 ≤ env.config.gamma)
    (gamma_le_one : env.config.gamma ≤ 1) (db : Db R) :
    ((updatePlan env).run ((updatePlan env).run db).store).store = ((updatePlan env).run db).store := by
  rcases em (Integrity env db.tables) with intact | broken
  · rcases updatePlan_outcome env drawing gamma_nonneg gamma_le_one intact with
      ⟨changed, db', ran, intact', -, settled⟩ | ⟨db', ran, intact', -, stuck⟩
    · obtain ⟨changed', again⟩ := updatePlan_run_of_settled env intact' settled
      rw [ran, Result.store_ok, again, Result.store_ok]
    · rw [ran, Result.store_error, updatePlan_run_of_stuck env intact' stuck, Result.store_error]
  · rw [updatePlan_run_of_broken env broken, Result.store_error, updatePlan_run_of_broken env broken,
      Result.store_error]

/-- Running `update_plan` inside the weekly action: its outcome is reported, and the state it leaves
is quiet. -/
theorem report_updatePlan_quiet (drawing : WeightedIndexSpec env) (gamma_nonneg : 0 ≤ env.config.gamma)
    (gamma_le_one : env.config.gamma ≤ 1) {db : Db R} (intact : Integrity env db.tables) (b : B) :
    ∃ db', (report (liftDb (updatePlan env))).run (db, b) = .ok () (db', b) ∧
      db'.tables.Quiet env.config ∧ db'.tables.currentWeek = db.tables.currentWeek := by
  rcases updatePlan_outcome env drawing gamma_nonneg gamma_le_one intact with
    ⟨changed, db', ran, -, replanned, settled⟩ | ⟨db', ran, -, replanned, stuck⟩
  · exact ⟨db', report_run_ok (liftDb_run_ok ran b), .inl settled, replanned.currentWeek⟩
  · exact ⟨db', report_run_err (liftDb_run_error ran b), .inr stuck, replanned.currentWeek⟩

/-- The rounds of a new week, after the plan is updated, keep the plan. -/
theorem newWeekRounds_keepsPlan :
    Respects (OnDb (B := B) PlanKept) (do
      report (stopRatingPolls env bot)
      report (createRatingPolls env bot)
      report (liftDb (printNextWeekBanner env))) :=
  .bind (report_respects (stopRatingPolls_keepsPlan env bot)) fun _ =>
    .bind (report_respects (createRatingPolls_keepsPlan env bot)) fun _ =>
      report_respects (liftDb_respects (printNextWeekBanner_reads env))

/-- **The first weekly action of a week leaves a quiet state with the week set**, whether the
week changed or not. -/
theorem weeklyAction_quiet (drawing : WeightedIndexSpec env) (gamma_nonneg : 0 ≤ env.config.gamma)
    (gamma_le_one : env.config.gamma ≤ 1) (release : env.config.debug = false) (today : Int)
    {s : Db R × B} (intact : Integrity env s.1.tables) :
    Tables.Quiet ((weeklyAction env bot today).run s).store.1.tables env.config ∧
      ((weeklyAction env bot today).run s).store.1.tables.currentWeek = some (Week.ofDate today) := by
  obtain ⟨db, b⟩ := s
  obtain ⟨db₁, set, tables₁, -⟩ := setWeek_run env intact release (Week.ofDate today)
  have intact₁ : Integrity env db₁.tables := by
    rw [tables₁]
    exact integrity_currentWeek env intact _
  obtain ⟨db₂, planned, quiet, week₂⟩ :=
    report_updatePlan_quiet env drawing gamma_nonneg gamma_le_one intact₁ b
  rw [tables₁] at week₂
  rw [weeklyAction, run_bind_of_ok (liftDb_run_ok set b)]
  split
  · -- the week did not change: only the plan is updated
    rw [run_bind_of_ok planned]
    exact ⟨quiet, week₂⟩
  · rw [run_bind_of_ok planned]
    have kept := newWeekRounds_keepsPlan env bot (db₂, b)
    exact ⟨kept.quiet quiet, kept.currentWeek.trans week₂⟩

/-- **From a quiet state with the week set, the weekly action of that week changes nothing**:
`set_week` finds the week unchanged, and `update_plan` finds nothing to do. -/
theorem weeklyAction_run_of_quiet (release : env.config.debug = false) (today : Int) {s : Db R × B}
    (intact : Integrity env s.1.tables) (quiet : s.1.tables.Quiet env.config)
    (current : s.1.tables.currentWeek = some (Week.ofDate today)) :
    ((weeklyAction env bot today).run s).store = s := by
  obtain ⟨db, b⟩ := s
  obtain ⟨db₁, set, tables₁, rng₁⟩ := setWeek_run env intact release (Week.ofDate today)
  have unchanged : (db.tables.thisWeek env.config != Week.ofDate today) = false := by
    simp [Tables.thisWeek, current]
  rw [Db.eq_of_tables (by rw [tables₁, ← current]) rng₁, unchanged] at set
  have planned : (report (liftDb (updatePlan env))).run (db, b) = .ok () (db, b) := by
    rcases quiet with settled | stuck
    · obtain ⟨changed, ran⟩ := updatePlan_run_of_settled env intact settled
      exact report_run_ok (liftDb_run_ok ran b)
    · exact report_run_err (liftDb_run_error (updatePlan_run_of_stuck env intact stuck) b)
  rw [weeklyAction, run_bind_of_ok (liftDb_run_ok set b), Bool.not_false, if_pos rfl,
    run_bind_of_ok planned]
  rfl

end Runs

/-! ### Idempotence -/

section Idempotent

variable {R B : Type} (env : Env R) (bot : PollableBot B)

/-- **The weekly action is idempotent within a week.** Outside debug mode, a second weekly action on
the same day leaves the database, the generator and the bot as the first one left them; and a
second `update_plan` leaves the store as the first one left it. -/
theorem weeklyAction_idempotent (drawing : WeightedIndexSpec env) (gamma_nonneg : 0 ≤ env.config.gamma)
    (gamma_le_one : env.config.gamma ≤ 1) (release : env.config.debug = false) (today : Int)
    (s : Db R × B) :
    ((weeklyAction env bot today).run ((weeklyAction env bot today).run s).store).store =
        ((weeklyAction env bot today).run s).store ∧
      ((updatePlan env).run ((updatePlan env).run s.1).store).store =
        ((updatePlan env).run s.1).store := by
  refine ⟨?_, updatePlan_run_twice env drawing gamma_nonneg gamma_le_one s.1⟩
  rcases em (Integrity env s.1.tables) with intact | broken
  · -- the first run ends quiet with the week set; the second finds it so, unless the rounds broke
    -- the integrity, and then it panics at once
    obtain ⟨quiet, current⟩ :=
      weeklyAction_quiet env bot drawing gamma_nonneg gamma_le_one release today intact
    rcases em (Integrity env ((weeklyAction env bot today).run s).store.1.tables) with intact' | broken'
    · exact weeklyAction_run_of_quiet env bot release today intact' quiet current
    · rw [weeklyAction_run_of_broken env bot today broken', Result.store_error]
  · rw [weeklyAction_run_of_broken env bot today broken, Result.store_error,
      weeklyAction_run_of_broken env bot today broken, Result.store_error]

/-- A bot that numbers its polls from its state and reports no votes. -/
def countingBot : PollableBot Int where
  sendPoll _ _ next := .ok (next, next + 1)
  stopPoll _ next := .ok ([], next)

theorem weeklyAction_idempotent_countingBot :
    let s : Db Unit × Int := (⟨unknownChoreDb, ()⟩, 0)
    ((weeklyAction (asciiEnv sampleConfig) countingBot 0).run
        ((weeklyAction (asciiEnv sampleConfig) countingBot 0).run s).store).store =
        ((weeklyAction (asciiEnv sampleConfig) countingBot 0).run s).store ∧
      ((updatePlan (asciiEnv sampleConfig)).run ((updatePlan (asciiEnv sampleConfig)).run s.1).store).store =
        ((updatePlan (asciiEnv sampleConfig)).run s.1).store :=
  weeklyAction_idempotent (asciiEnv sampleConfig) countingBot (asciiEnv_weightedIndex sampleConfig)
    (by norm_num [asciiEnv, sampleConfig]) (by norm_num [asciiEnv, sampleConfig]) rfl 0 _

end Idempotent

end ChorePlanner
