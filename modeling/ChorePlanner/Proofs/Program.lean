/-
**Rating polls over every run of the program.**

The program handles one call after another: a message from the chat, handed to `run_command`, or
the weekly action. Commands write `ChoreLog` only through `update_plan`, and never `Rating` or the
current week, so whatever they do and however they fail they keep the polls recorded; weekly
actions keep them too (`Proofs.Rounds`). So over every run of calls whose weekly actions do not go
back in time, the polls stay recorded and kept.

* `PollsRecorded.congr` — tables with the same `ChoreLog`, `Rating` and week record the same polls.
* `PollSafe` — the current week is kept, and polls recorded before stay recorded and kept. It is
  reflexive and transitive, so the frame rules of `EStateM.Respects` apply to it.
* `executes_pollSafe`, `updatePlan_pollSafe` — a statement that writes neither `ChoreLog`,
  `Rating` nor `KeyValue` keeps `PollSafe`, and so does `update_plan`, whichever way it ends;
  `runCli_pollSafe` — so does every command line.
* `handle_run` — one call keeps the polls recorded and kept, and leaves the week where the weekly
  action sets it, or where it was.
* `handleAll_polls_recorded` — every run of calls keeps them.
-/

import ChorePlanner.Proofs.Rounds

set_option linter.unusedSectionVars false

namespace ChorePlanner

open EStateM

/-! ### The tables the polls depend on -/

section Same

variable {B : Type} {ledger : PollLedger B} {config : Config} {t t' : Tables} {b : B}

/-- Tables with the same `ChoreLog`, `Rating` and week record the same polls. -/
theorem PollsRecorded.congr (recorded : PollsRecorded ledger config t b) (logs : t'.choreLog = t.choreLog)
    (ratings : t'.rating = t.rating) (week : t'.currentWeek = t.currentWeek) :
    PollsRecorded ledger config t' b where
  polled_past log member polled := by
    rw [Tables.thisWeek_congr week]
    exact recorded.polled_past log (logs ▸ member) polled
  sent_stored := logs ▸ recorded.sent_stored
  sent_options := recorded.sent_options
  stopped_completed := logs ▸ recorded.stopped_completed
  counted log member completed := by
    simp only [Tables.ratingsOf_congr ratings]
    exact recorded.counted log (logs ▸ member) completed
  unrated log member unfinished := by
    rw [Tables.ratingsOf_congr ratings]
    exact recorded.unrated log (logs ▸ member) unfinished

end Same

/-! ### What commands keep -/

section Safe

variable {R B : Type} (ledger : PollLedger B) (config : Config) (b : B)

/-- The current week is kept, and polls recorded before stay recorded and kept. -/
def PollSafe (db db' : Db R) : Prop :=
  db'.tables.currentWeek = db.tables.currentWeek ∧
    (PollsRecorded ledger config db.tables b →
      PollsRecorded ledger config db'.tables b ∧ PollsKept ledger db.tables b db'.tables b)

instance : Std.Refl (PollSafe (R := R) ledger config b) :=
  ⟨fun _ => ⟨rfl, fun recorded => ⟨recorded, PollsKept.of_same rfl rfl b⟩⟩⟩

instance : IsTrans (Db R) (PollSafe ledger config b) :=
  ⟨fun _ _ _ first second => ⟨second.1.trans first.1, fun recorded =>
    have middle := first.2 recorded
    have last := second.2 middle.1
    ⟨last.1, middle.2.trans last.2⟩⟩⟩

variable {ledger config b}

theorem PollSafe.of_same {db db' : Db R} (logs : db'.tables.choreLog = db.tables.choreLog)
    (ratings : db'.tables.rating = db.tables.rating)
    (week : db'.tables.currentWeek = db.tables.currentWeek) : PollSafe ledger config b db db' :=
  ⟨week, fun recorded => ⟨recorded.congr logs ratings week, PollsKept.of_same logs ratings b⟩⟩

/-- Tables left as they were keep `PollSafe`. -/
theorem PollSafe.of_tables {db db' : Db R} (same : Agree Db.tables db db') : PollSafe ledger config b db db' :=
  have tables : db'.tables = db.tables := same
  PollSafe.of_same (by rw [tables]) (by rw [tables]) (by rw [tables])

/-- A statement that writes neither `ChoreLog`, `Rating` nor `KeyValue` keeps `PollSafe`. -/
theorem executes_pollSafe {writes : List Table} (log : .choreLog ∉ writes) (rating : .rating ∉ writes)
    (keyValue : .keyValue ∉ writes) : Executes (PollSafe (R := R) ledger config b) writes := by
  intro written statement writes_ok sub
  refine Respects.mono (execute_writes writes_ok) fun db db' same => ?_
  exact PollSafe.of_same (same .choreLog fun member => log (sub member))
    (same .rating fun member => rating (sub member)) (same .keyValue fun member => keyValue (sub member))

/-- No command line writes `Rating` or `KeyValue`. -/
theorem Cli.writes_unrated (cli : Cli) : .rating ∉ cli.writes ∧ .keyValue ∉ cli.writes := by
  unfold Cli.writes
  split <;> decide

variable (env : Env R) (drawing : WeightedIndexSpec env) (gamma_nonneg : 0 ≤ env.config.gamma)
  (gamma_le_one : env.config.gamma ≤ 1)
include drawing gamma_nonneg gamma_le_one

/-- **`update_plan` keeps `PollSafe`**: from an intact state it replans, keeping every polled and
completed `ChoreLog`, whether it succeeds or stops at a foreign key; from any other it panics at
once. -/
theorem updatePlan_pollSafe : Respects (PollSafe ledger env.config b) (updatePlan env) := by
  intro db
  rcases em (Integrity env db.tables) with intact | broken
  · rcases updatePlan_outcome env drawing gamma_nonneg gamma_le_one intact with
      ⟨_, db', ran, -, replanned, -⟩ | ⟨db', ran, -, replanned, -⟩ <;>
    · rw [ran]
      exact ⟨replanned.currentWeek, fun recorded =>
        ⟨recorded.of_replanned replanned db.con.valid db'.con.valid,
          PollsKept.of_replanned recorded replanned⟩⟩
  · rw [updatePlan_run_of_broken env broken]
    exact Std.Refl.refl db

/-- **Every command line keeps `PollSafe`**, whatever its outcome. -/
theorem runCli_pollSafe (cli : Cli) : Respects (PollSafe ledger env.config b) (runCli env cli) :=
  runCli_closed env (Respects.closed (r := PollSafe ledger env.config b) fun _ _ => PollSafe.of_tables) cli
    (fun _ log sub => Executes.checked env (executes_pollSafe log
      (fun member => (cli.writes_unrated).1 (sub member)) fun member => (cli.writes_unrated).2 (sub member)))
    fun _ => updatePlan_pollSafe env drawing gamma_nonneg gamma_le_one

end Safe

/-! ### Calls -/

section Calls

variable {R B : Type} (env : Env R) (bot : PollableBot B)

/-- The week a call sets outside debug mode: the weekly action's, and none for a command. -/
def Call.week? : Call → Option Int
  | .command _ => none
  | .weekly today => some (Week.ofDate today)

/-- The polls of `s'` are recorded, and those of `s` kept in it. -/
def PollsCarried (ledger : PollLedger B) (config : Config) (s s' : Db R × B) : Prop :=
  PollsRecorded ledger config s'.1.tables s'.2 ∧ PollsKept ledger s.1.tables s.2 s'.1.tables s'.2

theorem liftDb_store {α : Type} (x : DbM R α) (db : Db R) (b : B) :
    ((liftDb x).run (db, b)).store = ((x.run db).store, b) := by
  cases ran : x.run db with
  | ok a db' => rw [liftDb_run_ok ran]; rfl
  | error e db' => rw [liftDb_run_error ran]; rfl

/-- The weeks of the calls after one call, from the week that call leaves, still do not go back. -/
theorem isChain_after {week : Int} {call : Call} {calls : List Call}
    (increasing : (week :: (call :: calls).filterMap Call.week?).IsChain (· ≤ ·)) :
    ((call.week?).getD week :: calls.filterMap Call.week?).IsChain (· ≤ ·) := by
  cases call with
  | command cli => exact increasing
  | weekly today => exact (List.isChain_cons_cons.mp increasing).2

theorem le_of_isChain {week : Int} {call : Call} {calls : List Call}
    (increasing : (week :: (call :: calls).filterMap Call.week?).IsChain (· ≤ ·)) :
    ∀ week' ∈ call.week?, week ≤ week' := by
  cases call with
  | command cli => exact fun _ none_found => by cases none_found
  | weekly today =>
    rintro _ ⟨⟩
    exact (List.isChain_cons_cons.mp increasing).1

variable {ledger : PollLedger B} (drawing : WeightedIndexSpec env) (gamma_nonneg : 0 ≤ env.config.gamma)
  (gamma_le_one : env.config.gamma ≤ 1) (honest : HonestBot bot ledger)
include drawing gamma_nonneg gamma_le_one honest

/-- **One call keeps the polls recorded and kept**, whatever its outcome: a command through
`runCli_pollSafe`, a weekly action at a week not before the current one through
`weeklyAction_run`, or at once by its panic when the state fails `integrity_check`. When the call
succeeds outside debug mode, the week is the weekly action's, or the one before. -/
theorem handle_run (call : Call) {s : Db R × B} (recorded : PollsRecorded ledger env.config s.1.tables s.2)
    (later : env.config.debug = false → ∀ week ∈ call.week?, s.1.tables.thisWeek env.config ≤ week) :
    PollsCarried ledger env.config s ((handle env bot call).run s).store ∧
      ∀ s', (handle env bot call).run s = .ok () s' → env.config.debug = false →
        s'.1.tables.thisWeek env.config = (call.week?).getD (s.1.tables.thisWeek env.config) := by
  obtain ⟨db, b⟩ := s
  cases call with
  | command cli =>
    -- the bot only hears of the result, and the tables change as `run_command` left them
    have store : ((handle env bot (.command cli)).run (db, b)).store = (((runCli env cli).run db).store, b) :=
      (report_store _ _).trans (liftDb_store _ _ _)
    have safe : PollSafe ledger env.config b db ((runCli env cli).run db).store :=
      runCli_pollSafe env drawing gamma_nonneg gamma_le_one cli db
    refine ⟨store ▸ safe.2 recorded, fun s' ran _ => ?_⟩
    have same : s' = (((runCli env cli).run db).store, b) := by
      rw [← store, ran]
      rfl
    rw [same]
    exact Tables.thisWeek_congr safe.1 env.config
  | weekly today =>
    rcases em (Integrity env db.tables) with intact | broken
    · obtain ⟨s', ran, -, recorded', kept', week'⟩ := weeklyAction_run env bot drawing gamma_nonneg
        gamma_le_one honest today intact recorded fun release => later release _ rfl
      refine ⟨?_, fun s'' ran' release => ?_⟩
      · show PollsCarried ledger env.config (db, b) ((weeklyAction env bot today).run (db, b)).store
        rw [ran]
        exact ⟨recorded', kept'⟩
      · obtain ⟨-, same⟩ := Result.ok.inj (ran'.symm.trans ran)
        rw [same]
        exact week' release
    · -- a broken state panics in the first query, before anything is written
      have panicked := weeklyAction_run_of_broken env bot today (s := (db, b)) broken
      refine ⟨?_, fun s'' ran' _ => ?_⟩
      · show PollsCarried ledger env.config (db, b) ((weeklyAction env bot today).run (db, b)).store
        rw [panicked]
        exact ⟨recorded, PollsKept.of_same rfl rfl b⟩
      · cases ran'.symm.trans panicked

/-- **Rating polls stay recorded and kept over every run of the program**: over every list of
calls, chat commands of any kind and outcome and weekly actions whose weeks do not go back (any
weeks in debug mode), from a state whose polls are recorded, with an honest bot. The run ends
after its last call or at the first panic; either way the polls of the state it ends in are
recorded, and every poll and completed `ChoreLog` of the start is kept. -/
theorem handleAll_polls_recorded :
    ∀ (calls : List Call) {s : Db R × B}, PollsRecorded ledger env.config s.1.tables s.2 →
      (env.config.debug = false → (s.1.tables.thisWeek env.config :: calls.filterMap Call.week?).IsChain (· ≤ ·)) →
      PollsCarried ledger env.config s ((calls.forM (handle env bot)).run s).store
  | [], s, recorded, _ => ⟨recorded, PollsKept.of_same rfl rfl s.2⟩
  | call :: calls, s, recorded, increasing => by
    obtain ⟨carried, week⟩ := handle_run env bot drawing gamma_nonneg gamma_le_one honest call recorded
      fun release => le_of_isChain (increasing release)
    change PollsCarried ledger env.config s ((handle env bot call >>= fun _ => calls.forM (handle env bot)).run s).store
    cases ran : (handle env bot call).run s with
    | ok _ s₁ =>
      rw [ran, Result.store_ok] at carried
      -- the rest of the run starts where the call left the week
      have rest := handleAll_polls_recorded calls carried.1 fun release => by
        rw [week s₁ ran release]
        exact isChain_after (increasing release)
      rw [run_bind_of_ok ran]
      exact ⟨rest.1, carried.2.trans rest.2⟩
    | error e s₁ =>
      rw [ran, Result.store_error] at carried
      rw [run_bind_of_error ran]
      exact carried

end Calls

end ChorePlanner
