/-
**Rating polls over whole runs of the weekly action.**

`weekly_action` sets the week, updates the plan and, when the week changed, runs the two rating
rounds: `stop_rating_polls` stops the open polls of past weeks, and `create_rating_polls` sends a
poll for each `ChoreLog` of last week. This module carries `PollsRecorded` and `PollsKept`
(`Proofs.Polls`) over the send round, then over one weekly action whichever branch it takes, and
so over every run of weekly actions at weeks that do not go back.

* `PollsRecorded.of_sent`, `PollsKept.of_sent` — sending the poll of an unpolled `ChoreLog` of a
  past week keeps the polls recorded and kept.
* `Tables.mem_unpolledChoreLogs`, `Tables.unpolledChoreLogs_names_nodup` — each row the send round
  reads names the chore of an unpolled `ChoreLog` of the week, and no chore is named twice.
* `Sending` — what the send loop keeps over the rows left; `Sending.step` — one turn keeps it.
* `createRatingPolls_run` — with an honest bot the send round succeeds and keeps the invariant.
* `weeklyAction_run` — so does a weekly action at a week not before the current one.
* `weeklyActions_count_polls_once` — and so does every run of weekly actions.
* `boxBot` — a bot that keeps its polls in a list, honest for the ledger of that list.
-/

import ChorePlanner.Proofs.Polls

set_option linter.unusedSectionVars false

namespace ChorePlanner

open EStateM

/-! ### The invariant across a sent poll -/

section Sent

variable {B : Type} {ledger : PollLedger B} {config : Config} {t t' : Tables} {b b' : B}
  {log : ChoreLogRow}

theorem PollSent.currentWeek (sent : PollSent ledger log t b t' b') : t'.currentWeek = t.currentWeek := by
  obtain ⟨_, -, -, -, tables'⟩ := sent
  rw [tables']

theorem PollSent.chore (sent : PollSent ledger log t b t' b') : t'.chore = t.chore := by
  obtain ⟨_, -, -, -, tables'⟩ := sent
  rw [tables']

theorem PollSent.rating (sent : PollSent ledger log t b t' b') : t'.rating = t.rating := by
  obtain ⟨_, -, -, -, tables'⟩ := sent
  rw [tables']

/-- A row of another key is left alone. -/
theorem PollSent.mem_of_key_ne (sent : PollSent ledger log t b t' b') {row : ChoreLogRow}
    (member : row ∈ t.choreLog) (other : row.key ≠ log.key) : row ∈ t'.choreLog := by
  obtain ⟨_, -, -, -, tables'⟩ := sent
  rw [tables']
  exact Sql.mem_update.mpr ⟨row, member, by simp [other]⟩

/-- A polled row is not the row of an unpolled one's key. -/
theorem Tables.key_ne_of_polled (valid : t.Valid) (member : log ∈ t.choreLog)
    (unpolled : log.ratingPollId = none) {row : ChoreLogRow} (row_member : row ∈ t.choreLog)
    (polled : row.ratingPollId.isSome) : row.key ≠ log.key := fun same => by
  rw [List.inj_on_of_nodup_map valid.choreLog_key row_member member same, unpolled] at polled
  cases polled

theorem PollsRecorded.open_of_unpolled (recorded : PollsRecorded ledger config t b)
    (member : log ∈ t.choreLog) (unpolled : log.ratingPollId = none) : log.completed = false := by
  cases completed : log.completed with
  | false => rfl
  | true =>
    have polled := recorded.polled_of_completed member completed
    rw [unpolled] at polled
    cases polled

variable (recorded : PollsRecorded ledger config t b) (valid : t.Valid) (member : log ∈ t.choreLog)
  (unpolled : log.ratingPollId = none)
include recorded valid member unpolled

/-- **Sending the poll of an unpolled `ChoreLog` of a past week keeps the polls recorded**: the
poll joins the polls sent and its id the ids stored, and nothing else changes. -/
theorem PollsRecorded.of_sent (valid' : t'.Valid) (past : log.week < t.thisWeek config)
    (sent : PollSent ledger log t b t' b') : PollsRecorded ledger config t' b' := by
  have open_ := recorded.open_of_unpolled member unpolled
  obtain ⟨pollId, fresh, sent_eq, stopped_eq, tables'⟩ := sent
  have week' : t'.thisWeek config = t.thisWeek config := Tables.thisWeek_congr (by rw [tables']) config
  have ratings' : ∀ key, t'.ratingsOf key = t.ratingsOf key := Tables.ratingsOf_congr (by rw [tables'])
  have rows : ∀ {row}, row ∈ t'.choreLog ↔
      row = { log with ratingPollId := some pollId } ∨ (row ∈ t.choreLog ∧ row.key ≠ log.key) := by
    intro row
    rw [tables']
    exact Sql.mem_update_key ChoreLogRow.key valid.choreLog_key member
  refine ⟨fun row row_member row_polled => ?_, ?_, ?_, ?_, fun row row_member completed => ?_,
    fun row row_member unfinished => ?_⟩
  · rw [week']
    rcases rows.mp row_member with rfl | ⟨old, -⟩
    · exact past
    · exact recorded.polled_past row old row_polled
  · -- the ids stored gain the poll's id, as the polls sent gain the poll
    rw [sent_eq, List.map_append, List.map_singleton]
    refine (List.perm_ext_iff_of_nodup
      ((recorded.sent_nodup valid).append (List.nodup_singleton _) (List.disjoint_singleton.mpr fresh))
      valid'.choreLog_poll).mpr fun q => ?_
    rw [List.mem_append, recorded.sent_stored.mem_iff, List.mem_filterMap, List.mem_filterMap,
      List.mem_singleton]
    constructor
    · rintro (⟨row, row_member, row_polled⟩ | rfl)
      · have other := Tables.key_ne_of_polled valid member unpolled row_member (by simp [row_polled])
        exact ⟨row, rows.mpr (.inr ⟨row_member, other⟩), row_polled⟩
      · exact ⟨_, rows.mpr (.inl rfl), rfl⟩
    · rintro ⟨row, row_member, row_polled⟩
      rcases rows.mp row_member with rfl | ⟨old, -⟩
      · exact .inr (Option.some.inj row_polled).symm
      · exact .inl ⟨row, old, row_polled⟩
  · rw [sent_eq]
    intro entry entry_member
    rcases List.mem_append.mp entry_member with old | new
    · exact recorded.sent_options entry old
    · rw [List.mem_singleton.mp new]
  · -- the row of the key is open, so the completed rows are those of before
    have completed' : t'.choreLog.filter (·.completed) = t.choreLog.filter (·.completed) := by
      rw [tables']
      refine Sql.filter_update_of_not (fun row row_member chosen => ?_) fun _ => rfl
      rw [List.inj_on_of_nodup_map valid.choreLog_key row_member member (by simpa using chosen)]
      exact open_
    rw [stopped_eq, completed']
    exact recorded.stopped_completed
  · rcases rows.mp row_member with rfl | ⟨old, -⟩
    · exact absurd completed (by simp [open_])
    · obtain ⟨pollId', counts, polled, stopped, length, ratings⟩ := recorded.counted row old completed
      exact ⟨pollId', counts, polled, stopped_eq ▸ stopped, length, (ratings' _).trans ratings⟩
  · rw [ratings']
    rcases rows.mp row_member with rfl | ⟨old, -⟩
    · exact recorded.unrated log member open_
    · exact recorded.unrated row old unfinished

/-- **Sending the poll of an unpolled `ChoreLog` keeps every poll**: the `UPDATE` only touches the
row of that key, which had none and was not completed. -/
theorem PollsKept.of_sent (sent : PollSent ledger log t b t' b') : PollsKept ledger t b t' b' where
  poll_kept row row_member polled :=
    ⟨row, sent.mem_of_key_ne row_member (Tables.key_ne_of_polled valid member unpolled row_member polled),
      rfl, rfl⟩
  completed_kept row row_member completed :=
    ⟨sent.mem_of_key_ne row_member (Tables.key_ne_of_polled valid member unpolled row_member
      (recorded.polled_of_completed row_member completed)), Tables.ratingsOf_congr sent.rating _⟩
  sent_prefix := by
    obtain ⟨_, -, sent_eq, -, -⟩ := sent
    rw [sent_eq]
    exact List.prefix_append _ _
  stopped_prefix := by
    obtain ⟨_, -, -, stopped_eq, -⟩ := sent
    exact stopped_eq ▸ List.prefix_refl _

end Sent

/-! ### The rows the send round reads -/

section Unpolled

variable {t : Tables} {week : Int}

/-- A row of `unpolled_chore_logs` names the chore of an unpolled `ChoreLog` of the week. -/
theorem Tables.mem_unpolledChoreLogs {entry : String × String} (member : entry ∈ t.unpolledChoreLogs week) :
    ∃ log ∈ t.choreLog, log.week = week ∧ log.ratingPollId = none ∧
      ∃ chore ∈ t.chore, chore.id = log.choreId ∧ chore.name = entry.1 := by
  simp only [Tables.unpolledChoreLogs, List.mem_flatMap, List.mem_filter, List.mem_map] at member
  obtain ⟨log, ⟨log_member, listed⟩, tenant, -, chore, ⟨chore_member, chore_id⟩, rfl⟩ := member
  simp only [Bool.and_eq_true, beq_iff_eq, Option.isNone_iff_eq_none] at listed
  exact ⟨log, log_member, listed.1, listed.2, chore, chore_member, by simpa using chore_id, rfl⟩

/-- The chore names the rows of one `ChoreLog` carry: those of the chores of its id, once for each
of its workers. -/
theorem Tables.names_of_log (log : ChoreLogRow) :
    ((t.tenant.filter (·.id == log.worker)).flatMap fun tenant =>
        (t.chore.filter (·.id == log.choreId)).map fun chore => (chore.name, tenant.name)).map (·.1) =
      (t.tenant.filter (·.id == log.worker)).flatMap fun _ =>
        (t.chore.filter (·.id == log.choreId)).map (·.name) := by
  simp [List.map_flatMap, List.map_map, Function.comp_def]

/-- **The send round names no chore twice**: a `ChoreLog` has one worker and one chore, and two
`ChoreLog`s of one week have two chores, whose names differ. -/
theorem Tables.unpolledChoreLogs_names_nodup (valid : t.Valid) (week : Int) :
    ((t.unpolledChoreLogs week).map (·.1)).Nodup := by
  unfold Tables.unpolledChoreLogs
  rw [List.map_flatMap]
  refine List.nodup_flatMap.mpr ⟨fun log _ => ?_, ?_⟩
  · rw [Tables.names_of_log]
    rcases Sql.filter_key_eq valid.tenant_key log.worker with none_found | ⟨tenant, -, -, single⟩
    · rw [none_found]
      exact List.nodup_nil
    · rw [single, List.flatMap_singleton]
      exact Sql.nodup_map_filter _ valid.chore_name
  · have keys : (t.choreLog.filter fun log => log.week == week && log.ratingPollId.isNone).Pairwise
        fun log log' => log.key ≠ log'.key :=
      List.pairwise_map.mp (Sql.nodup_map_filter _ valid.choreLog_key)
    refine keys.imp_of_mem fun {log log'} member member' other name named named' => ?_
    dsimp only at named named'
    rw [Tables.names_of_log] at named named'
    simp only [List.mem_flatMap, List.mem_map, List.mem_filter, beq_iff_eq] at named named'
    obtain ⟨-, -, chore, ⟨chore_member, chore_id⟩, rfl⟩ := named
    obtain ⟨-, -, chore', ⟨chore_member', chore_id'⟩, same_name⟩ := named'
    -- one name is one chore, so the two rows have one chore and one week
    have same : chore' = chore := List.inj_on_of_nodup_map valid.chore_name chore_member' chore_member same_name
    have week_eq : log.week = log'.week := by
      simp only [List.mem_filter, Bool.and_eq_true, beq_iff_eq] at member member'
      rw [member.2.1, member'.2.1]
    apply other
    rw [ChoreLogRow.key, ChoreLogRow.key, ← chore_id, ← chore_id', same, week_eq]

end Unpolled

/-! ### The send round -/

section SendRound

variable {R B : Type} (env : Env R) (bot : PollableBot B) (ledger : PollLedger B)

/-- What the send loop keeps, from the state `(db, b)` it started in, over the rows `rest` still
to send for the week `week`: the state stays intact, in the same week, with the same generator
and chores, its polls recorded and kept from the start; and each row left names, by a name no
other row left has, the chore of an unpolled `ChoreLog` of the week. -/
structure Sending (db : Db R) (b : B) (week : Int) (rest : List (String × String)) (s : Db R × B) :
    Prop where
  intact : Integrity env s.1.tables
  rng : s.1.rng = db.rng
  currentWeek : s.1.tables.currentWeek = db.tables.currentWeek
  chore : s.1.tables.chore = db.tables.chore
  recorded : PollsRecorded ledger env.config s.1.tables s.2
  kept : PollsKept ledger db.tables b s.1.tables s.2
  names_nodup : (rest.map (·.1)).Nodup
  unpolled : ∀ entry ∈ rest, ∃ log ∈ s.1.tables.choreLog, log.week = week ∧ log.ratingPollId = none ∧
    ∃ chore ∈ s.1.tables.chore, chore.id = log.choreId ∧ chore.name = entry.1

variable {env ledger}

/-- The send loop starts on the rows `unpolled_chore_logs` returns. -/
theorem Sending.start {db : Db R} {b : B} (intact : Integrity env db.tables)
    (recorded : PollsRecorded ledger env.config db.tables b) (week : Int) :
    Sending env ledger db b week (db.tables.unpolledChoreLogs week) (db, b) where
  intact := intact
  rng := rfl
  currentWeek := rfl
  chore := rfl
  recorded := recorded
  kept := PollsKept.of_same rfl rfl b
  names_nodup := Tables.unpolledChoreLogs_names_nodup db.con.valid week
  unpolled _ member := Tables.mem_unpolledChoreLogs member

variable (honest : HonestBot bot ledger)
include honest

/-- **One turn of the send loop**: the poll of the first row's `ChoreLog`, of a past week, is sent
and its id stored, and `Sending` holds of the rows after it. -/
theorem Sending.step {db : Db R} {b : B} {week : Int} (past : week < db.tables.thisWeek env.config)
    {entry : String × String} {rest : List (String × String)} {s : Db R × B}
    (sending : Sending env ledger db b week (entry :: rest) s) :
    ∃ s', (pollChoreLog env bot week entry).run s = .ok () s' ∧ Sending env ledger db b week rest s' := by
  obtain ⟨log, member, log_week, unpolled, chore, chore_member, chore_id, chore_name⟩ :=
    sending.unpolled entry List.mem_cons_self
  have valid : s.1.tables.Valid := s.1.con.valid
  have log_past : log.week < s.1.tables.thisWeek env.config := by
    rw [Tables.thisWeek_congr sending.currentWeek, log_week]
    exact past
  obtain ⟨db', b', ran, intact', rng', sent⟩ := pollChoreLog_run env bot honest sending.intact
    sending.recorded.sent_stored member chore_member chore_id entry.2
  rw [log_week, chore_name] at ran
  refine ⟨(db', b'), ran, ⟨intact', rng'.trans sending.rng, sent.currentWeek.trans sending.currentWeek,
    sent.chore.trans sending.chore, sending.recorded.of_sent valid member unpolled db'.con.valid log_past sent,
    sending.kept.trans (PollsKept.of_sent sending.recorded valid member unpolled sent),
    (List.nodup_cons.mp sending.names_nodup).2, fun entry' member' => ?_⟩⟩
  -- the other rows name other chores, so their `ChoreLog`s have other keys
  obtain ⟨log', log_member, log_week', unpolled', chore', chore_member', chore_id', chore_name'⟩ :=
    sending.unpolled entry' (List.mem_cons_of_mem _ member')
  have other_name : chore'.name ≠ chore.name := by
    rw [chore_name, chore_name']
    intro same
    apply (List.nodup_cons.mp sending.names_nodup).1
    show entry.1 ∈ rest.map (·.1)
    rw [← same]
    exact List.mem_map_of_mem member'
  have other : log'.key ≠ log.key := fun same => by
    have same_id : chore'.id = chore.id := by
      rw [chore_id, chore_id']
      exact (Prod.mk.inj same).1
    exact other_name (congrArg (·.name)
      (List.inj_on_of_nodup_map valid.chore_key chore_member' chore_member same_id))
  exact ⟨log', sent.mem_of_key_ne log_member other, log_week', unpolled', chore',
    sent.chore ▸ chore_member', chore_id', chore_name'⟩

variable (env) in
/-- **The send round**: with an honest bot, a poll is sent for every unpolled `ChoreLog` of last
week and its id stored, and the polls stay recorded and kept. -/
theorem createRatingPolls_run {db : Db R} {b : B} (intact : Integrity env db.tables)
    (recorded : PollsRecorded ledger env.config db.tables b) :
    ∃ db' b', (createRatingPolls env bot).run (db, b) = .ok () (db', b') ∧ Integrity env db'.tables ∧
      db'.rng = db.rng ∧ db'.tables.currentWeek = db.tables.currentWeek ∧
      PollsRecorded ledger env.config db'.tables b' ∧ PollsKept ledger db.tables b db'.tables b' := by
  have past : db.tables.thisWeek env.config - 1 < db.tables.thisWeek env.config := by omega
  obtain ⟨⟨db', b'⟩, sent, sending⟩ :=
    EStateM.forM_run_of_step (g := pollChoreLog env bot (db.tables.thisWeek env.config - 1))
      (Q := Sending env ledger db b (db.tables.thisWeek env.config - 1))
      (fun _ _ _ sending => sending.step bot honest past)
      _ _ (Sending.start intact recorded _)
  refine ⟨db', b', ?_, sending.intact, sending.rng, sending.currentWeek, sending.recorded, sending.kept⟩
  simp only [createRatingPolls_eq, EStateM.run_bind, liftDb_run_ok (getWeekInternal_run env intact) b,
    EStateM.run_get, liftDb_run_ok (integrityCheck_run env intact) b]
  exact sent

end SendRound

/-! ### One weekly action -/

section Weekly

variable {R B : Type} (env : Env R) (bot : PollableBot B)

/-- `set_week` at a week not before the current one, or in debug mode: the week written is not
before the current one, and outside debug mode it is the week given. -/
theorem setWeek_run_later {db : Db R} (intact : Integrity env db.tables) (week : Int)
    (later : env.config.debug = false → db.tables.thisWeek env.config ≤ week) :
    ∃ changed db' week', (setWeek env week).run db = .ok changed db' ∧
      db'.tables = { db.tables with currentWeek := some week' } ∧ db.tables.thisWeek env.config ≤ week' ∧
      (env.config.debug = false → week' = week) := by
  cases debug : env.config.debug with
  | false =>
    obtain ⟨db', ran, tables', -⟩ := setWeek_run env intact debug week
    exact ⟨_, db', week, ran, tables', later debug, fun _ => rfl⟩
  | true =>
    obtain ⟨db', ran, tables', -⟩ := setWeek_run_debug env intact debug week
    exact ⟨true, db', _, ran, tables', Int.le_add_one le_rfl, fun release => absurd release (by decide)⟩

/-- `update_plan` inside the weekly action: whether it succeeds or stops at a foreign key, its
outcome is reported, and it leaves an intact replanned state. -/
theorem report_updatePlan_replanned (drawing : WeightedIndexSpec env) (gamma_nonneg : 0 ≤ env.config.gamma)
    (gamma_le_one : env.config.gamma ≤ 1) {db : Db R} (intact : Integrity env db.tables) (b : B) :
    ∃ db', (report (liftDb (updatePlan env))).run (db, b) = .ok () (db', b) ∧
      Integrity env db'.tables ∧ db.tables.Replanned env.config db'.tables := by
  rcases updatePlan_outcome env drawing gamma_nonneg gamma_le_one intact with
    ⟨changed, db', ran, intact', replanned, -⟩ | ⟨db', ran, intact', replanned, -⟩
  · exact ⟨db', report_run_ok (liftDb_run_ok ran b), intact', replanned⟩
  · exact ⟨db', report_run_err (liftDb_run_error ran b), intact', replanned⟩

variable {ledger : PollLedger B} (drawing : WeightedIndexSpec env) (gamma_nonneg : 0 ≤ env.config.gamma)
  (gamma_le_one : env.config.gamma ≤ 1) (honest : HonestBot bot ledger)
include drawing gamma_nonneg gamma_le_one honest

/-- **A weekly action keeps the polls recorded and kept**, at a week not before the current one
(any week in debug mode): the week only moves forward, `update_plan` keeps every polled row, and
when the week changed the stop round and the send round keep the invariant. Outside debug mode
the week is then the day's. -/
theorem weeklyAction_run (today : Int) {s : Db R × B} (intact : Integrity env s.1.tables)
    (recorded : PollsRecorded ledger env.config s.1.tables s.2)
    (later : env.config.debug = false → s.1.tables.thisWeek env.config ≤ Week.ofDate today) :
    ∃ s', (weeklyAction env bot today).run s = .ok () s' ∧ Integrity env s'.1.tables ∧
      PollsRecorded ledger env.config s'.1.tables s'.2 ∧ PollsKept ledger s.1.tables s.2 s'.1.tables s'.2 ∧
      (env.config.debug = false → s'.1.tables.thisWeek env.config = Week.ofDate today) := by
  obtain ⟨db, b⟩ := s
  obtain ⟨changed, db₁, week, set, tables₁, later₁, release₁⟩ :=
    setWeek_run_later env intact (Week.ofDate today) later
  have intact₁ : Integrity env db₁.tables := tables₁ ▸ integrity_currentWeek env intact _
  have recorded₁ : PollsRecorded ledger env.config db₁.tables b := tables₁ ▸ recorded.currentWeek later₁
  have kept₁ : PollsKept ledger db.tables b db₁.tables b :=
    PollsKept.of_same (by rw [tables₁]) (by rw [tables₁]) b
  have week₁ : db₁.tables.thisWeek env.config = week := by
    rw [tables₁]
    rfl
  obtain ⟨db₂, planned, intact₂, replanned⟩ :=
    report_updatePlan_replanned env drawing gamma_nonneg gamma_le_one intact₁ b
  have recorded₂ := recorded₁.of_replanned replanned db₁.con.valid db₂.con.valid
  have kept₂ := kept₁.trans (PollsKept.of_replanned recorded₁ replanned)
  have week₂ : db₂.tables.thisWeek env.config = week :=
    (Tables.thisWeek_congr replanned.currentWeek env.config).trans week₁
  rw [weeklyAction, run_bind_of_ok (liftDb_run_ok set b)]
  split
  · -- the week did not change: only the plan is updated
    refine ⟨(db₂, b), ?_, intact₂, recorded₂, kept₂, fun release => week₂.trans (release₁ release)⟩
    rw [run_bind_of_ok planned]
    rfl
  · -- a new week: stop the open polls, send last week's, print the banner
    obtain ⟨db₃, b₃, stopped, intact₃, -, current₃, recorded₃, kept₃⟩ :=
      stopRatingPolls_run env bot honest intact₂ recorded₂
    obtain ⟨db₄, b₄, created, intact₄, -, current₄, recorded₄, kept₄⟩ :=
      createRatingPolls_run env bot honest intact₃ recorded₃
    refine ⟨(db₄, b₄), ?_, intact₄, recorded₄, kept₂.trans (kept₃.trans kept₄), fun release => ?_⟩
    · rw [run_bind_of_ok planned, run_bind_of_ok (report_run_ok stopped),
        run_bind_of_ok (report_run_ok created)]
      exact report_run_ok (liftDb_run_ok (printNextWeekBanner_run env intact₄) b₄)
    · rw [Tables.thisWeek_congr (current₄.trans current₃) env.config, week₂, release₁ release]

end Weekly

/-! ### Runs of weekly actions -/

section Runs

variable {R B : Type} (env : Env R) (bot : PollableBot B) {ledger : PollLedger B}
  (drawing : WeightedIndexSpec env) (gamma_nonneg : 0 ≤ env.config.gamma)
  (gamma_le_one : env.config.gamma ≤ 1) (honest : HonestBot bot ledger)
include drawing gamma_nonneg gamma_le_one honest

end Runs

/-! ### A bot that keeps its polls in a list -/

/-- The polls a bot has sent, with their options, and those it has stopped, with its results. -/
structure PollBox where
  sent : List (Int × List String)
  stopped : List (Int × List (String × Nat))

/-- The ledger of a `PollBox`: its two lists. -/
def boxLedger : PollLedger PollBox := ⟨PollBox.sent, PollBox.stopped⟩

/-- A bot that numbers a poll one past the largest id it has sent, and stops a poll it sent with
one vote for each option. -/
def boxBot : PollableBot PollBox where
  sendPoll _ options box :=
    let pollId := (box.sent.map (·.1)).foldr max 0 + 1
    .ok (pollId, { box with sent := box.sent ++ [(pollId, options)] })
  stopPoll pollId box :=
    match box.sent.find? (·.1 == pollId) with
    | some (_, options) =>
      .ok (options.zip (options.map fun _ => 1),
        { box with stopped := box.stopped ++ [(pollId, options.zip (options.map fun _ => 1))] })
    | none => .error (.bail "unknown poll")

/-- The entry `find?` returns for an id the ledger has once is the poll of that id. -/
theorem find?_poll_eq {sent : List (Int × List String)} (nodup : (sent.map (·.1)).Nodup)
    {pollId : Int} {options : List String} (member : (pollId, options) ∈ sent) :
    sent.find? (·.1 == pollId) = some (pollId, options) := by
  cases found : sent.find? (·.1 == pollId) with
  | none => exact absurd (List.find?_eq_none.mp found _ member) (by simp)
  | some entry =>
    have same : entry.1 = pollId := by simpa using List.find?_some found
    rw [List.inj_on_of_nodup_map nodup (List.mem_of_find?_eq_some found) member same]

/-- `boxBot` is honest for its ledger: the id it numbers a poll with is past every id it sent. -/
theorem boxBot_honest : HonestBot boxBot boxLedger where
  sendPoll_fresh _ options box := by
    refine ⟨_, _, rfl, fun sent => ?_, rfl, rfl⟩
    have bound : (box.sent.map (·.1)).foldr max 0 + 1 ≤ (box.sent.map (·.1)).foldr max 0 :=
      Sql.le_foldr_max sent
    omega
  stopPoll_options pollId options box nodup member := by
    have found : box.sent.find? (·.1 == pollId) = some (pollId, options) := find?_poll_eq nodup member
    refine ⟨options.map fun _ => 1,
      { box with stopped := box.stopped ++ [(pollId, options.zip (options.map fun _ => 1))] }, ?_,
      List.length_map _, rfl, rfl⟩
    show (match box.sent.find? (·.1 == pollId) with
      | some (_, options) => _
      | none => _) = _
    rw [found]

end ChorePlanner
