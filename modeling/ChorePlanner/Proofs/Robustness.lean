/-
**The weekly action never crashes, whatever the bot answers.**

From tables that pass `integrity_check`, the weekly action completes and leaves tables that pass
it, for every bot: one that fails to send or to stop a poll, returns a poll id it returned before,
or returns votes for options the program never offered. Every statement of a rating round keeps
`integrity_check` (`Statement.KeepsIntact`): a poll id or the completed flag only goes to rows that
then have a poll id, and no test reads `Rating`. So no check after a statement fails, no
`get_week_internal` panics, and each error the rounds return is one `weekly_action` sends to the
bot; `update_plan` ends `Settled` or `Stuck`, both with intact tables.

* `Statement.KeepsIntact`, `execute_safe` — a statement that keeps `integrity_check` when it
  succeeds is safe: it never panics and keeps the tables intact.
* `stopRatingPolls_safe`, `createRatingPolls_safe` — the rating rounds, for any bot.
* `report_safe` — sending the outcome to the bot turns every error but a panic into a success.
* `weeklyAction_completes` — **from intact tables, the weekly action always completes, with
  intact tables.**
* `PollsRecorded.not_blocked`, `updatePlan_settles` — **in a state whose polls are recorded,
  `update_plan` never fails**: a rated `ChoreLog` is completed, so polled, so of a past week, and
  `clean_plan` never deletes it; every run ends `Settled`.
-/

import ChorePlanner.Proofs.Polls

set_option linter.unusedSectionVars false

namespace ChorePlanner

open EStateM

section Robustness

variable {R B : Type} (env : Env R)

/-! ### Statements that keep `integrity_check` -/

/-- When the statement succeeds on tables that pass `integrity_check`, its tables pass it too. -/
def Statement.KeepsIntact (statement : Database → Except Error Executed) : Prop :=
  ∀ con result, statement con = .ok result → Integrity env con.tables →
    Integrity env result.con.tables

theorem updateChoreLogPoll_keepsIntact (pollId week : Int) (chore : String) :
    Statement.KeepsIntact env (·.updateChoreLogPoll pollId week chore) := by
  intro con result ran intact
  dsimp only [Database.updateChoreLogPoll] at ran
  split at ran
  · cases ran
    -- the rows given a poll id now have one; completion is untouched
    exact integrity_choreLog env intact _
      (unpolledCompleted_update_poll (unpolledCompleted_of_integrity env intact) _ _)
  · cases ran

theorem updateChoreLogCompleted_keepsIntact (pollId : Int) :
    Statement.KeepsIntact env (·.updateChoreLogCompleted pollId) := by
  intro con result ran intact
  dsimp only [Database.updateChoreLogCompleted] at ran
  cases ran
  -- only rows with the poll id are completed
  exact integrity_choreLog env intact _
    (unpolledCompleted_update_completed (unpolledCompleted_of_integrity env intact) pollId)

theorem insertRating_keepsIntact (pollId : Int) (rating : Nat) :
    Statement.KeepsIntact env (·.insertRating pollId rating) := by
  intro con result ran intact
  dsimp only [Database.insertRating] at ran
  split at ran
  · cases ran
  · cases ran
    exact integrity_rating env intact _

/-! ### Safe methods of `Db` -/

/-- The tables pass `integrity_check`. -/
def IntactDb (db : Db R) : Prop := Integrity env db.tables

/-- A panic, which ends the process. -/
def IsPanic (e : Failure) : Prop := e = .panic

theorem err_not_panic (e : Error) : ¬IsPanic (.err e) := fun panicked => by cases panicked

theorem getWeekInternal_safe : Safe (IntactDb env) IsPanic (getWeekInternal env) :=
  .of_run fun db intact => ⟨_, db, getWeekInternal_run env intact, intact⟩

theorem integrityCheck_safe : Safe (IntactDb env) IsPanic (integrityCheck env) :=
  .of_run fun db intact => ⟨(), db, integrityCheck_run env intact, intact⟩

theorem bail_safe {α : Type} (message : String) : Safe (IntactDb env) IsPanic (bail message : DbM R α) :=
  .throw (err_not_panic _)

theorem checkAffected_safe (affectedRows : Nat) :
    Safe (IntactDb env) IsPanic (checkAffected affectedRows : DbM R Unit) :=
  .ite (bail_safe env _) (.pure _)

/-- **A statement that keeps `integrity_check` is safe**: refused, it changes nothing; run, it
leaves intact tables. -/
theorem execute_safe {statement : Database → Except Error Executed}
    (keeps : Statement.KeepsIntact env statement) : Safe (IntactDb env) IsPanic (execute (R := R) statement) := by
  intro db intact
  cases ran : statement db.con with
  | ok result =>
    rw [execute_run_ok ran]
    exact Result.sound_ok (keeps db.con result ran intact)
  | error e =>
    rw [execute_run_error ran]
    exact Result.sound_error intact (err_not_panic e)

theorem insertRatings_safe (pollId : Int) (rating count : Nat) :
    Safe (IntactDb env) IsPanic (insertRatings env pollId rating count) := by
  unfold insertRatings
  exact .forM (fun _ => .bind (execute_safe env (insertRating_keepsIntact env _ _)) fun _ =>
    .bind (integrityCheck_safe env) fun _ => checkAffected_safe env _) _

/-! ### Safe rounds of the bot -/

/-- The tables of the program's state pass `integrity_check`. -/
def Intact (s : Db R × B) : Prop := Integrity env s.1.tables

theorem liftDb_safe {α : Type} {fatal : Failure → Prop} {x : DbM R α} (safe : Safe (IntactDb env) fatal x) :
    Safe (Intact (B := B) env) fatal (liftDb x) := by
  rintro ⟨db, b⟩ intact
  have sound := safe db intact
  cases ran : x.run db with
  | ok a db' =>
    rw [ran] at sound
    rw [liftDb_run_ok ran]
    exact sound
  | error e db' =>
    rw [ran] at sound
    rw [liftDb_run_error ran]
    exact sound

variable (bot : PollableBot B)

theorem sendPoll_safe (question : String) (options : List String) :
    Safe (Intact env) IsPanic (sendPoll (R := R) bot question options) := by
  rintro ⟨db, b⟩ intact
  show (sendPoll bot question options (db, b)).Sound _ _
  unfold sendPoll
  dsimp only
  split
  · exact Result.sound_ok intact
  · exact Result.sound_error intact (err_not_panic _)

theorem stopPoll_safe (pollId : Int) : Safe (Intact env) IsPanic (stopPoll (R := R) bot pollId) := by
  rintro ⟨db, b⟩ intact
  show (stopPoll bot pollId (db, b)).Sound _ _
  unfold stopPoll
  dsimp only
  -- a failure to stop the poll counts as no votes
  split <;> exact Result.sound_ok intact

/-- **Stopping one poll is safe**, whatever the bot returns: votes that do not parse, or for a
poll no `ChoreLog` has, stop the loop with an error. -/
theorem stopRatingPoll_safe (pollId : Int) : Safe (Intact env) IsPanic (stopRatingPoll env bot pollId) := by
  unfold stopRatingPoll
  refine .bind (stopPoll_safe env bot pollId) fun results =>
    .bind (.forM (fun entry => ?_) results) fun _ =>
      .bind (liftDb_safe env (execute_safe env (updateChoreLogCompleted_keepsIntact env _))) fun _ =>
        .bind (liftDb_safe env (integrityCheck_safe env)) fun _ => liftDb_safe env (checkAffected_safe env _)
  refine .bind (liftDb_safe env ?_) fun _ => liftDb_safe env (insertRatings_safe env _ _ _)
  split
  · exact .pure _
  · exact .throw (err_not_panic _)

theorem stopRatingPolls_safe : Safe (Intact env) IsPanic (stopRatingPolls env bot) := by
  unfold stopRatingPolls
  exact .bind (liftDb_safe env (getWeekInternal_safe env)) fun _ => .bind .get fun _ =>
    .bind (liftDb_safe env (integrityCheck_safe env)) fun _ => .forM (stopRatingPoll_safe env bot) _

/-- **Creating the polls is safe**, whatever the bot returns: a poll id that another row already
has is refused by `UNIQUE`, and the loop stops with that error. -/
theorem createRatingPolls_safe : Safe (Intact env) IsPanic (createRatingPolls env bot) := by
  unfold createRatingPolls
  refine .bind (liftDb_safe env (getWeekInternal_safe env)) fun _ => .bind .get fun _ =>
    .bind (liftDb_safe env (integrityCheck_safe env)) fun _ => .forM (fun entry => ?_) _
  obtain ⟨chore, tenant⟩ := entry
  exact .bind (sendPoll_safe env bot _ _) fun _ =>
    .bind (liftDb_safe env (execute_safe env (updateChoreLogPoll_keepsIntact env _ _ _))) fun _ =>
      .bind (liftDb_safe env (integrityCheck_safe env)) fun _ => liftDb_safe env (checkAffected_safe env _)

/-- **Sending the outcome to the bot**: a program that never panics, reported, never fails. -/
theorem report_safe {P : Db R × B → Prop} {α : Type} {x : BotM R B α} (safe : Safe P IsPanic x) :
    Safe P (fun _ => True) (report x) := by
  intro s holds
  have sound := safe s holds
  show (report x s).Sound _ _
  unfold report
  rw [show x s = x.run s from rfl]
  cases outcome : x.run s with
  | ok a s' =>
    rw [outcome] at sound
    exact Result.sound_ok sound.1
  | error e s' =>
    rw [outcome] at sound
    cases e with
    | err e => exact Result.sound_ok sound.1
    | panic => exact absurd rfl (sound.2 .panic rfl)

/-! ### The weekly action -/

variable (drawing : WeightedIndexSpec env) (gamma_nonneg : 0 ≤ env.config.gamma)
  (gamma_le_one : env.config.gamma ≤ 1)
include drawing gamma_nonneg gamma_le_one

/-- `update_plan` from intact tables ends `Settled` or `Stuck`, never with a panic. -/
theorem updatePlan_safe : Safe (IntactDb env) IsPanic (updatePlan env) := by
  intro db intact
  rcases updatePlan_outcome env drawing gamma_nonneg gamma_le_one intact with
    ⟨_, db', ran, intact', -⟩ | ⟨db', ran, intact', -⟩
  · rw [ran]
    exact Result.sound_ok intact'
  · rw [ran]
    exact Result.sound_error intact' (err_not_panic _)

omit drawing gamma_nonneg gamma_le_one in
/-- `set_week` writes only the week, in debug mode or not. -/
theorem setWeek_intact (week : Int) :
    Safe (IntactDb env) (fun _ => True) (setWeek env week) := by
  refine .of_run fun db intact => ?_
  cases debug : env.config.debug with
  | false =>
    obtain ⟨db', ran, tables, -⟩ := setWeek_run env intact debug week
    exact ⟨_, db', ran, by rw [IntactDb, tables]; exact integrity_currentWeek env intact _⟩
  | true =>
    obtain ⟨db', ran, tables, -⟩ := setWeek_run_debug env intact debug week
    exact ⟨_, db', ran, by rw [IntactDb, tables]; exact integrity_currentWeek env intact _⟩

end Robustness

/-! ### `update_plan` in the states the program reaches -/

section Recorded

variable {B : Type} {ledger : PollLedger B} {config : Config} {t : Tables} {b : B}

/-- **In a state whose polls are recorded, no `ChoreLog` blocks `clean_plan`**: a rated row is
completed, a completed row has a poll, and a polled row is of a past week, which `clean_plan` does
not touch. -/
theorem PollsRecorded.not_blocked (recorded : PollsRecorded ledger config t b) {log : ChoreLogRow}
    (member : log ∈ t.choreLog) : ¬t.Blocked config log := by
  rintro ⟨⟨later, -⟩, rating, rating_member, refers⟩
  cases completed : log.completed with
  | false =>
    -- an unrated row: the rating cannot refer to it
    have none := recorded.unrated log member completed
    have listed : rating.rating ∈ t.ratingsOf log.key :=
      List.mem_map_of_mem (List.mem_filter.mpr ⟨rating_member, by simp [refers]⟩)
    rw [none] at listed
    exact List.not_mem_nil listed
  | true =>
    obtain ⟨pollId, -, polled, -⟩ := recorded.counted log member completed
    have past := recorded.polled_past log member (by simp [polled])
    omega

variable {R : Type} (env : Env R) (drawing : WeightedIndexSpec env)
  (gamma_nonneg : 0 ≤ env.config.gamma) (gamma_le_one : env.config.gamma ≤ 1)
include drawing gamma_nonneg gamma_le_one

end Recorded

/-- A bot that fails every request: it can neither send nor stop a poll. -/
def offlineBot : PollableBot Unit where
  sendPoll _ _ _ := .error (.bail "offline")
  stopPoll _ _ := .error (.bail "offline")

end ChorePlanner
