/-
**Rating polls are created once per `ChoreLog` and counted once.**

`create_rating_polls` sends a poll for each `ChoreLog` of last week that has none and stores its id;
`stop_rating_polls` stops every open poll of a past week, stores one `Rating` per vote and marks the
`ChoreLog` completed. The bot is outside `src/`: `HonestBot` says what a run assumes of it, over a
`PollLedger` of the polls it has sent and stopped.

* `PollsRecorded` — the invariant: polls are of past weeks; the polls sent are the poll ids stored,
  each on one `ChoreLog`; the polls stopped are those of the completed `ChoreLog`s; a completed
  `ChoreLog`'s `Rating`s are its poll's votes, and an open one has none.
* `PollsKept` — what a later state keeps of an earlier one: every poll id stays on its `ChoreLog`,
  every completed `ChoreLog` stays with its `Rating`s, and the ledger only grows.
* `PollsRecorded.of_unpolled` — a state without polls, completed rows or `Rating`s, with a bot
  that has sent nothing, has its polls recorded; `PollsRecorded.rating_bounds` — every `Rating`
  of a recorded state is from 1 to 5.
* `PollsRecorded.of_replanned` — `update_plan` keeps the invariant: it only touches future rows.
* `stopRatingPoll_run` — stopping one poll stores its votes (`Storing`, the loop over the results,
  each option's `Rating`s appended as `RatingsAdded` says) and marks its `ChoreLog` (`PollStopped`).
* `PollsRecorded.of_stopped` — stopping one poll keeps the invariant; `Stopping` is what the stop
  loop keeps (`Stopping.step`), and `stopRatingPolls_run` the whole stop round.
* `pollChoreLog_run` — sending the poll of one `ChoreLog` (`PollSent`); the send round is carried
  through in `Proofs.Rounds`.
-/

import ChorePlanner.Proofs.Weekly

set_option linter.unusedSectionVars false

namespace ChorePlanner

open EStateM

/-! ### The bot and its ledger -/

/-- What a bot's state records of its polls: those it has sent, with their options, and those it
has stopped, with the results it returned. -/
structure PollLedger (B : Type) where
  sent : B → List (Int × List String)
  stopped : B → List (Int × List (String × Nat))

/-- A bot that keeps its word: `send_poll` returns an id it never returned before, and `stop_poll`
of a poll it sent returns that poll's options, each with its number of votes. -/
structure HonestBot {B : Type} (bot : PollableBot B) (ledger : PollLedger B) : Prop where
  sendPoll_fresh : ∀ question options b, ∃ pollId b',
    bot.sendPoll question options b = .ok (pollId, b') ∧ pollId ∉ (ledger.sent b).map (·.1) ∧
      ledger.sent b' = ledger.sent b ++ [(pollId, options)] ∧ ledger.stopped b' = ledger.stopped b
  stopPoll_options : ∀ pollId options b, ((ledger.sent b).map (·.1)).Nodup →
    (pollId, options) ∈ ledger.sent b → ∃ counts b',
      bot.stopPoll pollId b = .ok (options.zip counts, b') ∧ counts.length = options.length ∧
      ledger.sent b' = ledger.sent b ∧
      ledger.stopped b' = ledger.stopped b ++ [(pollId, options.zip counts)]

/-! ### Ratings -/

/-- The `Rating`s of a `ChoreLog`, in the order they were inserted. -/
def Tables.ratingsOf (t : Tables) (key : Nat × Int) : List Nat :=
  (t.rating.filter (·.choreLog == key)).map (·.rating)

/-- The rating an option of a rating poll stands for: its leading number, as
`stop_rating_polls` parses it. -/
def optionRating (option : String) : Nat :=
  match parseRating option with
  | .ok rating => rating
  | .error _ => 0

/-- The `Rating`s the vote counts of a poll with `RATING_OPTIONS` give: each option's rating,
once per vote. -/
def votes (counts : List Nat) : List Nat :=
  (ratingOptions.zip counts).flatMap fun (option, count) => List.replicate count (optionRating option)

/-- Every option of `RATING_OPTIONS` parses, to the rating it stands for. -/
theorem parseRating_ratingOptions :
    ∀ option ∈ ratingOptions, parseRating option = .ok (optionRating option) := by
  decide

/-- **Every vote is stored as a rating from 1 to 5.** -/
theorem mem_votes {counts : List Nat} {rating : Nat} (member : rating ∈ votes counts) :
    1 ≤ rating ∧ rating ≤ 5 := by
  obtain ⟨⟨option, count⟩, entry_member, copy⟩ := List.mem_flatMap.mp member
  rw [List.eq_of_mem_replicate copy]
  have bounds : ∀ option ∈ ratingOptions, 1 ≤ optionRating option ∧ optionRating option ≤ 5 := by
    decide
  exact bounds option (List.of_mem_zip entry_member).1

theorem Tables.ratingsOf_congr {t t' : Tables} (rating_eq : t'.rating = t.rating) (key : Nat × Int) :
    t'.ratingsOf key = t.ratingsOf key := by
  unfold ratingsOf
  rw [rating_eq]

theorem Tables.ratingsOf_append {t t' : Tables} {added : List RatingRow}
    (rating_eq : t'.rating = t.rating ++ added) (key : Nat × Int) :
    t'.ratingsOf key = t.ratingsOf key ++ (added.filter (·.choreLog == key)).map (·.rating) := by
  unfold ratingsOf
  rw [rating_eq, List.filter_append, List.map_append]

/-- A key no `Rating` refers to has none. -/
theorem Tables.ratingsOf_eq_nil {t : Tables} {key : Nat × Int}
    (unrated : ∀ rating ∈ t.rating, rating.choreLog ≠ key) : t.ratingsOf key = [] := by
  unfold ratingsOf
  rw [List.filter_eq_nil_iff.mpr fun rating member => by simpa using unrated rating member,
    List.map_nil]

/-- Tables with one current week have one week. -/
theorem Tables.thisWeek_congr {t t' : Tables} (same : t'.currentWeek = t.currentWeek) (config : Config) :
    t'.thisWeek config = t.thisWeek config := by
  unfold thisWeek
  rw [same]

/-! ### The invariant and what later states keep -/

section Invariant

variable {B : Type} (ledger : PollLedger B) (config : Config)

/-- **The polls a state records.** Polls are of past weeks. The polls the bot sent are the poll
ids stored in `ChoreLog`, each once, all with `RATING_OPTIONS`. The polls it stopped are those of
the completed `ChoreLog`s. A completed `ChoreLog` has a poll, and its `Rating`s are the votes the
bot returned for it; a `ChoreLog` not completed has none. -/
structure PollsRecorded (t : Tables) (b : B) : Prop where
  polled_past : ∀ log ∈ t.choreLog, log.ratingPollId.isSome → log.week < t.thisWeek config
  sent_stored : ((ledger.sent b).map (·.1)).Perm (t.choreLog.filterMap (·.ratingPollId))
  sent_options : ∀ entry ∈ ledger.sent b, entry.2 = ratingOptions
  stopped_completed :
    ((ledger.stopped b).map (·.1)).Perm ((t.choreLog.filter (·.completed)).filterMap (·.ratingPollId))
  counted : ∀ log ∈ t.choreLog, log.completed = true → ∃ pollId counts,
    log.ratingPollId = some pollId ∧ (pollId, ratingOptions.zip counts) ∈ ledger.stopped b ∧
      counts.length = ratingOptions.length ∧ t.ratingsOf log.key = votes counts
  unrated : ∀ log ∈ t.choreLog, log.completed = false → t.ratingsOf log.key = []

/-- **What a later state keeps of an earlier one's polls.** Every poll id stays on the `ChoreLog`
of its key; every completed `ChoreLog` stays, with its `Rating`s; the bot's ledger only grows. -/
structure PollsKept (t : Tables) (b : B) (t' : Tables) (b' : B) : Prop where
  poll_kept : ∀ log ∈ t.choreLog, log.ratingPollId.isSome →
    ∃ log' ∈ t'.choreLog, log'.key = log.key ∧ log'.ratingPollId = log.ratingPollId
  completed_kept : ∀ log ∈ t.choreLog, log.completed = true →
    log ∈ t'.choreLog ∧ t'.ratingsOf log.key = t.ratingsOf log.key
  sent_prefix : ledger.sent b <+: ledger.sent b'
  stopped_prefix : ledger.stopped b <+: ledger.stopped b'

variable {ledger config}

/-- A state without polls, completed `ChoreLog`s or `Rating`s, with a bot that has sent no poll,
has its polls recorded: the freshly migrated database, and every state commands reach from it. -/
theorem PollsRecorded.of_unpolled {t : Tables} {b : B}
    (unpolled : ∀ log ∈ t.choreLog, log.ratingPollId = none ∧ log.completed = false)
    (unrated : t.rating = []) (sent : ledger.sent b = []) (stopped : ledger.stopped b = []) :
    PollsRecorded ledger config t b where
  polled_past log member polled := by
    rw [(unpolled log member).1] at polled
    cases polled
  sent_stored := by
    rw [sent, List.filterMap_eq_nil_iff.mpr fun log member => (unpolled log member).1]
    exact List.Perm.refl _
  sent_options entry member := by
    rw [sent] at member
    cases member
  stopped_completed := by
    rw [stopped, List.filter_eq_nil_iff.mpr fun log member => by simp [(unpolled log member).2]]
    exact List.Perm.refl _
  counted log member completed := by
    rw [(unpolled log member).2] at completed
    cases completed
  unrated _ _ _ := Tables.ratingsOf_eq_nil fun rating member => by
    rw [unrated] at member
    cases member

/-- Tables with the same `ChoreLog` and `Rating` keep every poll. -/
theorem PollsKept.of_same {t t' : Tables} (logs_eq : t'.choreLog = t.choreLog)
    (rating_eq : t'.rating = t.rating) (b : B) : PollsKept ledger t b t' b where
  poll_kept log member _ := ⟨log, logs_eq ▸ member, rfl, rfl⟩
  completed_kept _ member _ := ⟨logs_eq ▸ member, Tables.ratingsOf_congr rating_eq _⟩
  sent_prefix := List.prefix_refl _
  stopped_prefix := List.prefix_refl _

theorem PollsKept.trans {t₁ t₂ t₃ : Tables} {b₁ b₂ b₃ : B} (first : PollsKept ledger t₁ b₁ t₂ b₂)
    (second : PollsKept ledger t₂ b₂ t₃ b₃) : PollsKept ledger t₁ b₁ t₃ b₃ where
  poll_kept log member polled := by
    obtain ⟨log₂, member₂, key₂, poll₂⟩ := first.poll_kept log member polled
    obtain ⟨log₃, member₃, key₃, poll₃⟩ := second.poll_kept log₂ member₂ (poll₂ ▸ polled)
    exact ⟨log₃, member₃, key₃.trans key₂, poll₃.trans poll₂⟩
  completed_kept log member completed := by
    obtain ⟨member₂, ratings₂⟩ := first.completed_kept log member completed
    obtain ⟨member₃, ratings₃⟩ := second.completed_kept log member₂ completed
    exact ⟨member₃, ratings₃.trans ratings₂⟩
  sent_prefix := first.sent_prefix.trans second.sent_prefix
  stopped_prefix := first.stopped_prefix.trans second.stopped_prefix

/-! ### `update_plan` -/

section Replanned

variable {t t' : Tables}

theorem Tables.Replanned.old_of_polled (replanned : t.Replanned config t') {log : ChoreLogRow}
    (member : log ∈ t'.choreLog) (polled : log.ratingPollId.isSome) : log ∈ t.choreLog := by
  by_contra new
  have fresh := (replanned.added_fresh log member new).2
  simp [fresh] at polled

theorem Tables.Replanned.old_of_completed (replanned : t.Replanned config t') {log : ChoreLogRow}
    (member : log ∈ t'.choreLog) (completed : log.completed = true) : log ∈ t.choreLog := by
  by_contra new
  have fresh := (replanned.added_fresh log member new).1
  simp [fresh] at completed

/-- A row `update_plan` adds has no `Rating`: one would refer to a row of the same key, which is
either the added row itself or a deleted one, and `update_plan` deletes no rated row. -/
theorem Tables.Replanned.unrated_of_added (replanned : t.Replanned config t') (valid : t.Valid)
    (valid' : t'.Valid) {log : ChoreLogRow} (member : log ∈ t'.choreLog) (new : log ∉ t.choreLog) : t'.ratingsOf log.key = [] := by
  rw [Tables.ratingsOf_congr replanned.rating]
  refine Tables.ratingsOf_eq_nil fun rating rating_member refers => ?_
  obtain ⟨old, old_member, old_key⟩ := List.mem_map.mp (valid.rating_choreLog rating rating_member)
  by_cases kept : old ∈ t'.choreLog
  · have same : old = log :=
      List.inj_on_of_nodup_map valid'.choreLog_key kept member (old_key.trans refers)
    exact new (same ▸ old_member)
  · exact replanned.deleted_unrated old old_member kept ⟨rating, rating_member, old_key.symm⟩

end Replanned

variable {t : Tables} {b : B} (recorded : PollsRecorded ledger config t b)
include recorded

theorem PollsRecorded.polled_of_completed {log : ChoreLogRow} (member : log ∈ t.choreLog)
    (completed : log.completed = true) : log.ratingPollId.isSome := by
  obtain ⟨pollId, -, polled, -⟩ := recorded.counted log member completed
  simp [polled]

/-- **A completed `ChoreLog` has a poll, of a week before the current one.** -/
theorem PollsRecorded.completed_past {log : ChoreLogRow} (member : log ∈ t.choreLog)
    (completed : log.completed = true) :
    log.ratingPollId.isSome ∧ log.week < t.thisWeek config :=
  have polled := recorded.polled_of_completed member completed
  ⟨polled, recorded.polled_past log member polled⟩

/-- **Every `Rating` is from 1 to 5**: a completed `ChoreLog`'s are the votes of its poll, each
an option's leading number, and an open one has none. -/
theorem PollsRecorded.rating_bounds {log : ChoreLogRow} (member : log ∈ t.choreLog) {rating : Nat}
    (rated : rating ∈ t.ratingsOf log.key) : 1 ≤ rating ∧ rating ≤ 5 := by
  cases completed : log.completed with
  | true =>
    obtain ⟨_, counts, -, -, -, ratings⟩ := recorded.counted log member completed
    rw [ratings] at rated
    exact mem_votes rated
  | false =>
    rw [recorded.unrated log member completed] at rated
    cases rated

theorem PollsRecorded.sent_nodup (valid : t.Valid) : ((ledger.sent b).map (·.1)).Nodup :=
  recorded.sent_stored.nodup_iff.mpr valid.choreLog_poll

/-- A stored poll was sent with `RATING_OPTIONS`. -/
theorem PollsRecorded.sent_of_polled {log : ChoreLogRow} (member : log ∈ t.choreLog)
    {pollId : Int} (polled : log.ratingPollId = some pollId) : (pollId, ratingOptions) ∈ ledger.sent b := by
  have stored : pollId ∈ (ledger.sent b).map (·.1) :=
    recorded.sent_stored.symm.subset (List.mem_filterMap.mpr ⟨log, member, polled⟩)
  obtain ⟨entry, entry_member, entry_id⟩ := List.mem_map.mp stored
  rw [← entry_id, ← recorded.sent_options entry entry_member]
  exact entry_member

/-- A later week keeps the polls recorded. -/
theorem PollsRecorded.currentWeek {week : Int} (later : t.thisWeek config ≤ week) :
    PollsRecorded ledger config { t with currentWeek := some week } b where
  polled_past log member polled := lt_of_lt_of_le (recorded.polled_past log member polled) later
  sent_stored := recorded.sent_stored
  sent_options := recorded.sent_options
  stopped_completed := recorded.stopped_completed
  counted := recorded.counted
  unrated := recorded.unrated

section Replanned

variable {t' : Tables} (replanned : t.Replanned config t')
include replanned

/-- A polled row is of a past week, so not doomed, so `update_plan` keeps it. -/
theorem PollsRecorded.kept_of_polled {log : ChoreLogRow} (member : log ∈ t.choreLog)
    (polled : log.ratingPollId.isSome) : log ∈ t'.choreLog :=
  replanned.kept log member fun doomed =>
    absurd doomed.1 (not_le.mpr (recorded.polled_past log member polled))

/-- **`update_plan` keeps the polls recorded**: it deletes only future rows, which have no poll
and no `Rating`, and adds only rows without either. -/
theorem PollsRecorded.of_replanned (valid : t.Valid) (valid' : t'.Valid) :
    PollsRecorded ledger config t' b where
  polled_past log member polled := by
    rw [Tables.thisWeek_congr replanned.currentWeek config]
    exact recorded.polled_past log (replanned.old_of_polled member polled) polled
  sent_stored := recorded.sent_stored.trans
    (Sql.filterMap_perm valid.choreLog_poll valid'.choreLog_poll
      (fun _ member polled => recorded.kept_of_polled replanned member polled)
      (fun _ member polled => replanned.old_of_polled member polled))
  sent_options := recorded.sent_options
  stopped_completed := recorded.stopped_completed.trans
    (Sql.filterMap_perm (((List.filter_sublist).filterMap _).nodup valid.choreLog_poll)
      (((List.filter_sublist).filterMap _).nodup valid'.choreLog_poll)
      (fun log member polled => by
        obtain ⟨old, completed⟩ := List.mem_filter.mp member
        exact List.mem_filter.mpr ⟨recorded.kept_of_polled replanned old
          (recorded.polled_of_completed old completed), completed⟩)
      (fun log member _ => by
        obtain ⟨added, completed⟩ := List.mem_filter.mp member
        exact List.mem_filter.mpr ⟨replanned.old_of_completed added completed, completed⟩))
  counted log member completed := by
    obtain ⟨pollId, counts, polled, stopped, length, ratings⟩ :=
      recorded.counted log (replanned.old_of_completed member completed) completed
    exact ⟨pollId, counts, polled, stopped, length,
      (Tables.ratingsOf_congr replanned.rating _).trans ratings⟩
  unrated log member unfinished := by
    by_cases old : log ∈ t.choreLog
    · exact (Tables.ratingsOf_congr replanned.rating _).trans (recorded.unrated log old unfinished)
    · exact replanned.unrated_of_added valid valid' member old

/-- `update_plan` keeps every poll: the rows it keeps are the polled and completed ones. -/
theorem PollsKept.of_replanned : PollsKept ledger t b t' b where
  poll_kept log member polled := ⟨log, recorded.kept_of_polled replanned member polled, rfl, rfl⟩
  completed_kept _ member completed :=
    ⟨recorded.kept_of_polled replanned member (recorded.polled_of_completed member completed),
      Tables.ratingsOf_congr replanned.rating _⟩
  sent_prefix := List.prefix_refl _
  stopped_prefix := List.prefix_refl _

end Replanned

end Invariant

/-! ### Stopping one poll -/

section Stop

variable {R B : Type} (env : Env R) (bot : PollableBot B)

/-- One `Rating` of a vote: the body of the loop of `insertRatings`. -/
def insertOneRating (pollId : Int) (rating : Nat) : DbM R Unit := do
  let affectedRows := (← execute (·.insertRating pollId rating)).rowsAffected
  integrityCheck env
  checkAffected affectedRows

theorem insertRatings_eq (pollId : Int) (rating count : Nat) :
    insertRatings env pollId rating count =
      (List.range count).forM fun _ => insertOneRating env pollId rating := rfl

/-- The votes of one option: the body of the loop over a stopped poll's results. -/
def storeVotes (pollId : Int) : String × Nat → BotM R B PUnit := fun (ratingStr, count) => do
  let rating ← liftDb (match parseRating ratingStr with
    | .ok rating => pure rating
    | .error e => throw (.err e))
  liftDb (insertRatings env pollId rating count)

theorem stopRatingPoll_eq (pollId : Int) : stopRatingPoll env bot pollId = (do
    let results ← stopPoll bot pollId
    results.forM (storeVotes env pollId)
    let affectedRows := (← liftDb (execute (·.updateChoreLogCompleted pollId))).rowsAffected
    liftDb (integrityCheck env)
    liftDb (checkAffected affectedRows)) := rfl

theorem stopPoll_run_ok {db : Db R} {b b' : B} {pollId : Int} {results : List (String × Nat)}
    (stopped : bot.stopPoll pollId b = .ok (results, b')) :
    (stopPoll bot pollId).run (db, b) = .ok results (db, b') := by
  show stopPoll bot pollId (db, b) = _
  unfold stopPoll
  dsimp only
  rw [stopped]

theorem checkAffected_one (db : Db R) : (checkAffected 1 : DbM R Unit).run db = .ok () db := rfl

/-- The `ChoreLog` of a poll id is the one row that has it. -/
theorem choreLogOfPoll_eq {con : Database} {log : ChoreLogRow} (member : log ∈ con.tables.choreLog)
    {pollId : Int} (polled : log.ratingPollId = some pollId) : con.choreLogOfPoll pollId = some log := by
  cases found : con.choreLogOfPoll pollId with
  | none =>
    unfold Database.choreLogOfPoll at found
    have missed := List.find?_eq_none.mp found log member
    simp [polled] at missed
  | some row =>
    obtain ⟨row_member, row_polled⟩ := Database.choreLogOfPoll_mem found
    rw [Sql.eq_of_filterMap_nodup con.valid.choreLog_poll row_member member row_polled polled]

/-- `integrity_check` reads no `Rating`. -/
theorem integrity_rating {t : Tables} (intact : Integrity env t) (ratings : List RatingRow) :
    Integrity env { t with rating := ratings } :=
  integrity_choreLog env intact ratings (unpolledCompleted_of_integrity env intact)

theorem insertRating_ok {con : Database} {pollId : Int} {log : ChoreLogRow}
    (found : con.choreLogOfPoll pollId = some log) (rating : Nat) :
    ∃ result id, con.insertRating pollId rating = .ok result ∧ result.rowsAffected = 1 ∧
      result.con.tables =
        { con.tables with rating := con.tables.rating ++ [⟨id, log.choreId, log.week, rating⟩] } := by
  dsimp only [Database.insertRating]
  split
  · rename_i missing
    rw [found] at missing
    cases missing
  · rename_i row found'
    rw [found, Option.some.injEq] at found'
    subst found'
    exact ⟨_, _, rfl, rfl, rfl⟩

/-- `s` is `db` with the `Rating`s `added` appended, each of the `ChoreLog` `log`. -/
structure RatingsAdded (db : Db R) (log : ChoreLogRow) (added : List RatingRow) (s : Db R) : Prop where
  tables : s.tables = { db.tables with rating := db.tables.rating ++ added }
  keys : ∀ row ∈ added, row.choreLog = log.key

theorem RatingsAdded.nil (db : Db R) (log : ChoreLogRow) : RatingsAdded db log [] db where
  tables := by simp
  keys _ member := by cases member

theorem RatingsAdded.append {db s s' : Db R} {log : ChoreLogRow} {added added' : List RatingRow}
    (first : RatingsAdded db log added s) (second : RatingsAdded s log added' s') :
    RatingsAdded db log (added ++ added') s' where
  tables := by
    rw [second.tables, first.tables]
    simp
  keys row member := by
    rcases List.mem_append.mp member with old | new
    · exact first.keys row old
    · exact second.keys row new

/-- Appending `Rating`s leaves every poll's `ChoreLog` where it was. -/
theorem RatingsAdded.choreLogOfPoll {db s : Db R} {log : ChoreLogRow} {added : List RatingRow}
    (adds : RatingsAdded db log added s) (pollId : Int) :
    s.con.choreLogOfPoll pollId = db.con.choreLogOfPoll pollId := by
  unfold Database.choreLogOfPoll
  rw [show s.con.tables = _ from adds.tables]
  rfl

/-- One vote: a `Rating` of the polled `ChoreLog` is inserted. -/
theorem insertOneRating_run {db : Db R} (intact : Integrity env db.tables) {pollId : Int}
    {log : ChoreLogRow} (found : db.con.choreLogOfPoll pollId = some log) (rating : Nat) :
    ∃ db' id, (insertOneRating env pollId rating).run db = .ok () db' ∧ db'.rng = db.rng ∧
      Integrity env db'.tables ∧ RatingsAdded db log [⟨id, log.choreId, log.week, rating⟩] db' := by
  obtain ⟨result, id, inserted, affected, tables'⟩ := insertRating_ok found rating
  have intact' : Integrity env ({ db with con := result.con } : Db R).tables := by
    show Integrity env result.con.tables
    rw [tables']
    exact integrity_rating env intact _
  refine ⟨{ db with con := result.con }, id, ?_, rfl, intact', tables', fun row member => ?_⟩
  · simp only [insertOneRating, EStateM.run_bind,
      @execute_run_ok R db (fun con => con.insertRating pollId rating) _ inserted,
      integrityCheck_run env intact', affected, checkAffected_one]
  · rw [List.mem_singleton.mp member]
    rfl

/-- **Storing one option's votes** inserts `count` `Rating`s of the polled `ChoreLog`, each with
the option's rating. -/
theorem insertRatings_run {db : Db R} (intact : Integrity env db.tables) {pollId : Int}
    {log : ChoreLogRow} (found : db.con.choreLogOfPoll pollId = some log) (rating count : Nat) :
    ∃ db', (insertRatings env pollId rating count).run db = .ok () db' ∧ db'.rng = db.rng ∧
      Integrity env db'.tables ∧
      ∃ added, RatingsAdded db log added db' ∧ added.map (·.rating) = List.replicate count rating := by
  -- the `Rating`s stored so far and the votes still to store make up all of them
  obtain ⟨db', ran, intact', rng', added, adds, values⟩ :=
    EStateM.forM_run_of_step (g := fun _ => insertOneRating env pollId rating)
      (Q := fun rest s => Integrity env s.tables ∧ s.rng = db.rng ∧
        ∃ added, RatingsAdded db log added s ∧
          added.map (·.rating) ++ List.replicate rest.length rating = List.replicate count rating)
      (fun _ cs s ⟨intact_s, rng_s, added, adds, values⟩ => by
        obtain ⟨s', id, ran, rng', intact', added'⟩ :=
          insertOneRating_run env intact_s ((adds.choreLogOfPoll pollId).trans found) rating
        refine ⟨s', ran, intact', rng'.trans rng_s, _, adds.append added', ?_⟩
        simpa [List.replicate_succ] using values)
      (List.range count) db ⟨intact, rfl, [], RatingsAdded.nil db log, by simp⟩
  exact ⟨db', ran, rng', intact', added, adds, by simpa using values⟩

/-- What the loop over a stopped poll's results keeps, from the state `db` it started in, with the
bot in the state `b` the stop left, over the results `rest` still to store: the state stays
intact, with the same generator; each option left is one of `RATING_OPTIONS`; and the `Rating`s
added so far, all of the poll's `ChoreLog`, followed by the votes left, are the poll's votes. -/
structure Storing (db : Db R) (b : B) (log : ChoreLogRow) (counts : List Nat)
    (rest : List (String × Nat)) (s : Db R × B) : Prop where
  bot : s.2 = b
  intact : Integrity env s.1.tables
  rng : s.1.rng = db.rng
  options : ∀ entry ∈ rest, entry.1 ∈ ratingOptions
  stored : ∃ added, RatingsAdded db log added s.1 ∧
    added.map (·.rating) ++ rest.flatMap (fun entry => List.replicate entry.2 (optionRating entry.1)) =
      votes counts

variable {env} in
/-- The loop starts on the results the bot returned for `RATING_OPTIONS`. -/
theorem Storing.start {db : Db R} (intact : Integrity env db.tables) (b : B) (log : ChoreLogRow)
    (counts : List Nat) : Storing env db b log counts (ratingOptions.zip counts) (db, b) where
  bot := rfl
  intact := intact
  rng := rfl
  options _ member := (List.of_mem_zip member).1
  stored := ⟨[], RatingsAdded.nil db log, by simp [votes]⟩

variable {env} in
/-- **One turn of the loop**: the first option parses, its votes are stored as `Rating`s of the
poll's `ChoreLog`, and `Storing` holds of the results after it. -/
theorem Storing.step {db : Db R} {b : B} {log : ChoreLogRow} {counts : List Nat} {pollId : Int}
    (found : db.con.choreLogOfPoll pollId = some log) {entry : String × Nat} {rest : List (String × Nat)}
    {s : Db R × B} (storing : Storing env db b log counts (entry :: rest) s) :
    ∃ s', (storeVotes env pollId entry).run s = .ok () s' ∧ Storing env db b log counts rest s' := by
  obtain ⟨option, count⟩ := entry
  obtain ⟨db_s, b_s⟩ := s
  obtain ⟨added, adds, values⟩ := storing.stored
  have parsed := parseRating_ratingOptions option (storing.options _ List.mem_cons_self)
  obtain ⟨db', ran, rng', intact', added', adds', values'⟩ :=
    insertRatings_run env storing.intact ((adds.choreLogOfPoll pollId).trans found) (optionRating option) count
  refine ⟨(db', b_s), ?_, ⟨storing.bot, intact', rng'.trans storing.rng,
    fun entry member => storing.options entry (List.mem_cons_of_mem _ member), _, adds.append adds', ?_⟩⟩
  · unfold storeVotes
    dsimp only
    rw [parsed]
    exact run_bind_of_ok (liftDb_run_ok rfl b_s) |>.trans (liftDb_run_ok ran b_s)
  · rw [List.map_append, values', List.append_assoc]
    simpa using values

theorem updateChoreLogCompleted_ok (con : Database) (pollId : Int) :
    ∃ result, con.updateChoreLogCompleted pollId = .ok result ∧
      result.rowsAffected = con.tables.choreLog.countP (·.ratingPollId == some pollId) ∧
      result.con.tables = { con.tables with
        choreLog := Sql.update con.tables.choreLog (·.ratingPollId == some pollId)
          fun row => { row with completed := true } } :=
  ⟨_, rfl, rfl, rfl⟩

/-- Poll ids are unique: one `ChoreLog` has the poll id of a `ChoreLog`. -/
theorem countP_poll_eq_one {logs : List ChoreLogRow} (nodup : (logs.filterMap (·.ratingPollId)).Nodup)
    {log : ChoreLogRow} (member : log ∈ logs) {pollId : Int} (polled : log.ratingPollId = some pollId) :
    logs.countP (·.ratingPollId == some pollId) = 1 := by
  rw [← List.count_filterMap]
  exact List.count_eq_one_of_mem nodup (List.mem_filterMap.mpr ⟨log, member, polled⟩)

/-- Marking the rows of a poll completed leaves no completed row without a poll. -/
theorem unpolledCompleted_update_completed {logs : List ChoreLogRow}
    (polled : unpolledCompleted logs = false) (pollId : Int) :
    unpolledCompleted (Sql.update logs (·.ratingPollId == some pollId)
      fun row => { row with completed := true }) = false := by
  unfold unpolledCompleted at polled ⊢
  rw [List.any_eq_false] at polled ⊢
  intro row member
  obtain ⟨old, old_member, rfl⟩ := Sql.mem_update.mp member
  split
  · rename_i chosen
    simp only [beq_iff_eq] at chosen
    simp [chosen]
  · exact polled old old_member

/-- What stopping the poll of a `ChoreLog` does: the bot returns votes for `RATING_OPTIONS` and
records the poll stopped, one `Rating` of the `ChoreLog` per vote is appended, and the `ChoreLog` is
marked completed. -/
def PollStopped (ledger : PollLedger B) (log : ChoreLogRow) (pollId : Int) (t : Tables) (b : B)
    (t' : Tables) (b' : B) : Prop :=
  ∃ counts added, counts.length = ratingOptions.length ∧ ledger.sent b' = ledger.sent b ∧
    ledger.stopped b' = ledger.stopped b ++ [(pollId, ratingOptions.zip counts)] ∧
    t' = { t with
      choreLog := Sql.update t.choreLog (·.ratingPollId == some pollId)
        fun row => { row with completed := true },
      rating := t.rating ++ added } ∧
    (∀ row ∈ added, row.choreLog = log.key) ∧ added.map (·.rating) = votes counts

/-- **Stopping one open poll** of an honest bot succeeds, with the effect `PollStopped`. -/
theorem stopRatingPoll_run {ledger : PollLedger B} (honest : HonestBot bot ledger) {db : Db R}
    {b : B} (intact : Integrity env db.tables) (sent_nodup : ((ledger.sent b).map (·.1)).Nodup)
    {log : ChoreLogRow} (member : log ∈ db.tables.choreLog) {pollId : Int}
    (polled : log.ratingPollId = some pollId) (sent : (pollId, ratingOptions) ∈ ledger.sent b) :
    ∃ db' b', (stopRatingPoll env bot pollId).run (db, b) = .ok () (db', b') ∧
      Integrity env db'.tables ∧ db'.rng = db.rng ∧
      PollStopped ledger log pollId db.tables b db'.tables b' := by
  obtain ⟨counts, b', stopped, length, sent_eq, stopped_eq⟩ :=
    honest.stopPoll_options pollId ratingOptions b sent_nodup sent
  have found : db.con.choreLogOfPoll pollId = some log := choreLogOfPoll_eq member polled
  obtain ⟨⟨db₁, b₁⟩, stored, storing⟩ :=
    EStateM.forM_run_of_step (g := storeVotes env pollId) (Q := Storing env db b' log counts)
      (fun _ _ _ storing => storing.step found) _ _ (Storing.start intact b' log counts)
  obtain ⟨bot₁, intact₁, rng₁, -, added, adds, values⟩ := storing
  dsimp only at bot₁
  subst b₁
  -- the `ChoreLog` of the poll is marked completed
  have member₁ : log ∈ db₁.tables.choreLog := by
    rw [adds.tables]
    exact member
  obtain ⟨result, marked, affected, tables'⟩ := updateChoreLogCompleted_ok db₁.con pollId
  have intact' : Integrity env ({ db₁ with con := result.con } : Db R).tables := by
    show Integrity env result.con.tables
    rw [tables']
    exact integrity_choreLog env intact₁ _
      (unpolledCompleted_update_completed (unpolledCompleted_of_integrity env intact₁) pollId)
  have one : result.rowsAffected = 1 :=
    affected.trans (countP_poll_eq_one db₁.con.valid.choreLog_poll member₁ polled)
  refine ⟨{ db₁ with con := result.con }, b', ?_, intact', rng₁, counts, added, length, sent_eq,
    stopped_eq, ?_, adds.keys, by simpa using values⟩
  · rw [stopRatingPoll_eq, run_bind_of_ok (stopPoll_run_ok bot stopped), run_bind_of_ok stored,
      run_bind_of_ok (liftDb_run_ok
        (@execute_run_ok R db₁ (fun con => con.updateChoreLogCompleted pollId) _ marked) b'),
      run_bind_of_ok (liftDb_run_ok (integrityCheck_run env intact') b'), one]
    exact liftDb_run_ok (checkAffected_one _) b'
  · show result.con.tables = _
    rw [tables', show db₁.con.tables = _ from adds.tables]

end Stop

/-! ### The invariant across a stopped poll -/

section Stopped

variable {B : Type} {ledger : PollLedger B} {config : Config} {t t' : Tables} {b b' : B}

/-- Two rows of a table are one row when they have one key. -/
theorem Tables.key_ne_of_ne (valid : t.Valid) {log log' : ChoreLogRow} (member : log ∈ t.choreLog)
    (member' : log' ∈ t.choreLog) (ne : log' ≠ log) : log'.key ≠ log.key :=
  fun same => ne (List.inj_on_of_nodup_map valid.choreLog_key member' member same)

/-- `Rating`s appended for one `ChoreLog` leave those of every other key alone. -/
theorem Tables.ratingsOf_append_of_ne {added : List RatingRow} {key key' : Nat × Int}
    (keys : ∀ row ∈ added, row.choreLog = key) (rating_eq : t'.rating = t.rating ++ added)
    (ne : key' ≠ key) : t'.ratingsOf key' = t.ratingsOf key' := by
  rw [Tables.ratingsOf_append rating_eq,
    List.filter_eq_nil_iff.mpr fun row member => by simp [keys row member, Ne.symm ne], List.map_nil,
    List.append_nil]

theorem Tables.ratingsOf_append_self {added : List RatingRow} {key : Nat × Int}
    (keys : ∀ row ∈ added, row.choreLog = key) (rating_eq : t'.rating = t.rating ++ added) :
    t'.ratingsOf key = t.ratingsOf key ++ added.map (·.rating) := by
  rw [Tables.ratingsOf_append rating_eq, List.filter_eq_self.mpr fun row member => by simp [keys row member]]

theorem PollStopped.currentWeek {log : ChoreLogRow} {pollId : Int}
    (stopped : PollStopped ledger log pollId t b t' b') : t'.currentWeek = t.currentWeek := by
  obtain ⟨_, added, -, -, -, tables', -⟩ := stopped
  rw [tables']

/-- A row of another poll is left alone. -/
theorem PollStopped.mem_of_unchosen {log row : ChoreLogRow} {pollId : Int}
    (stopped : PollStopped ledger log pollId t b t' b') (member : row ∈ t.choreLog)
    (unchosen : row.ratingPollId ≠ some pollId) : row ∈ t'.choreLog := by
  obtain ⟨_, added, -, -, -, tables', -⟩ := stopped
  rw [tables']
  exact Sql.mem_update.mpr ⟨row, member, by simp [unchosen]⟩

/-- The rows after the stop: the poll's own row, marked completed, and the rows of other polls. -/
theorem PollStopped.mem_iff {log : ChoreLogRow} {pollId : Int}
    (stopped : PollStopped ledger log pollId t b t' b') (valid : t.Valid) (member : log ∈ t.choreLog)
    (polled : log.ratingPollId = some pollId) (row : ChoreLogRow) :
    row ∈ t'.choreLog ↔
      row = { log with completed := true } ∨ (row ∈ t.choreLog ∧ row.ratingPollId ≠ some pollId) := by
  obtain ⟨_, added, -, -, -, tables', -⟩ := stopped
  -- poll ids are unique, so the `UPDATE` chooses the poll's row only
  have only : ∀ z ∈ t.choreLog, (z.ratingPollId == some pollId) = true → z = log :=
    fun z z_member chosen => Sql.eq_of_filterMap_nodup valid.choreLog_poll z_member member
      (by simpa using chosen) polled
  rw [tables']
  refine (Sql.mem_update_unique member (by simp [polled]) only).trans ?_
  simp only [beq_eq_false_iff_ne]

variable (recorded : PollsRecorded ledger config t b) (valid : t.Valid) {log : ChoreLogRow}
  (member : log ∈ t.choreLog) {pollId : Int} (polled : log.ratingPollId = some pollId)
  (open_ : log.completed = false) (stopped : PollStopped ledger log pollId t b t' b')
include recorded valid member polled open_ stopped

/-- **Stopping a poll keeps the polls recorded**: the poll joins the stopped ones, its `ChoreLog`
becomes completed with the votes as its `Rating`s, and no other `ChoreLog` changes. -/
theorem PollsRecorded.of_stopped : PollsRecorded ledger config t' b' := by
  have rows := stopped.mem_iff valid member polled
  obtain ⟨counts, added, length, sent_eq, stopped_eq, tables', keys, values⟩ := stopped
  have ratings' : t'.rating = t.rating ++ added := by rw [tables']
  have week' : t'.thisWeek config = t.thisWeek config := Tables.thisWeek_congr (by rw [tables']) config
  have only : ∀ row ∈ t.choreLog, row.ratingPollId = some pollId → row = log :=
    fun row row_member chosen => Sql.eq_of_filterMap_nodup valid.choreLog_poll row_member member chosen polled
  have others : ∀ row ∈ t.choreLog, row.ratingPollId ≠ some pollId →
      t'.ratingsOf row.key = t.ratingsOf row.key :=
    fun row row_member unchosen => Tables.ratingsOf_append_of_ne keys ratings'
      (Tables.key_ne_of_ne valid member row_member fun same => unchosen (same ▸ polled))
  have polls' : t'.choreLog.filterMap (·.ratingPollId) = t.choreLog.filterMap (·.ratingPollId) := by
    rw [tables']
    exact Sql.filterMap_update fun _ => rfl
  refine ⟨fun row row_member row_polled => ?_, ?_, ?_, ?_, fun row row_member completed => ?_,
    fun row row_member unfinished => ?_⟩
  · -- polls are of past weeks
    rw [week']
    rcases (rows row).mp row_member with rfl | ⟨old, -⟩
    · exact recorded.polled_past log member row_polled
    · exact recorded.polled_past row old row_polled
  · rw [sent_eq, polls']
    exact recorded.sent_stored
  · rw [sent_eq]
    exact recorded.sent_options
  · -- the stopped polls gain the poll, and the completed rows gain its row
    have stopped_nodup : ((ledger.stopped b).map (·.1)).Nodup :=
      recorded.stopped_completed.nodup_iff.mpr (((List.filter_sublist).filterMap _).nodup valid.choreLog_poll)
    have fresh : pollId ∉ (ledger.stopped b).map (·.1) := fun stopped_before => by
      obtain ⟨row, row_member, row_polled⟩ :=
        List.mem_filterMap.mp (recorded.stopped_completed.subset stopped_before)
      obtain ⟨row_member, completed⟩ := List.mem_filter.mp row_member
      rw [only row row_member row_polled, open_] at completed
      cases completed
    have completed_nodup : ((t'.choreLog.filter (·.completed)).filterMap (·.ratingPollId)).Nodup :=
      ((List.filter_sublist).filterMap _).nodup (polls' ▸ valid.choreLog_poll)
    rw [stopped_eq, List.map_append]
    refine (List.perm_ext_iff_of_nodup
      (stopped_nodup.append (List.nodup_singleton _) (List.disjoint_singleton.mpr fresh))
      completed_nodup).mpr fun q => ?_
    rw [List.mem_append, recorded.stopped_completed.mem_iff]
    simp only [List.mem_filterMap, List.mem_filter, List.mem_singleton]
    constructor
    · rintro (⟨row, ⟨row_member, completed⟩, row_polled⟩ | rfl)
      · -- a row completed before is not the poll's row, which was open
        have unchosen : row.ratingPollId ≠ some pollId := fun chosen => by
          rw [only row row_member chosen, open_] at completed
          cases completed
        exact ⟨row, ⟨(rows row).mpr (.inr ⟨row_member, unchosen⟩), completed⟩, row_polled⟩
      · exact ⟨_, ⟨(rows _).mpr (.inl rfl), rfl⟩, polled⟩
    · rintro ⟨row, ⟨row_member, completed⟩, row_polled⟩
      rcases (rows row).mp row_member with rfl | ⟨old, -⟩
      · exact .inr (Option.some.inj (row_polled.symm.trans polled))
      · exact .inl ⟨row, ⟨old, completed⟩, row_polled⟩
  · -- a completed row: the stopped one, or one completed before
    rcases (rows row).mp row_member with rfl | ⟨old, unchosen⟩
    · refine ⟨pollId, counts, polled, ?_, length, ?_⟩
      · rw [stopped_eq]
        exact List.mem_append_right _ (List.mem_singleton_self _)
      · show t'.ratingsOf log.key = votes counts
        rw [Tables.ratingsOf_append_self keys ratings', recorded.unrated log member open_, ← values]
        rfl
    · obtain ⟨pollId', counts', old_polled, old_stopped, old_length, old_ratings⟩ :=
        recorded.counted row old completed
      refine ⟨pollId', counts', old_polled, ?_, old_length, ?_⟩
      · rw [stopped_eq]
        exact List.mem_append_left _ old_stopped
      · rw [others row old unchosen]
        exact old_ratings
  · -- a row not completed is none of the rows the `UPDATE` marks
    rcases (rows row).mp row_member with rfl | ⟨old, unchosen⟩
    · cases unfinished
    · rw [others row old unchosen]
      exact recorded.unrated row old unfinished

/-- **Stopping a poll keeps every poll**: it only adds the stopped poll's `Rating`s and marks its
`ChoreLog`, which was not completed. -/
theorem PollsKept.of_stopped : PollsKept ledger t b t' b' := by
  have rows := stopped.mem_iff valid member polled
  obtain ⟨counts, added, -, sent_eq, stopped_eq, tables', keys, -⟩ := stopped
  have logs' : t'.choreLog = Sql.update t.choreLog (·.ratingPollId == some pollId)
      fun row => { row with completed := true } := by rw [tables']
  have ratings' : t'.rating = t.rating ++ added := by rw [tables']
  refine ⟨fun row row_member _ => ?_, fun row row_member completed => ?_, ?_, ?_⟩
  · refine ⟨_, logs' ▸ Sql.mem_update.mpr ⟨row, row_member, rfl⟩, ?_⟩
    rcases Sql.update_image (·.ratingPollId == some pollId) (fun row => { row with completed := true })
      row with ⟨-, image⟩ | ⟨-, image⟩ <;> rw [image] <;> exact ⟨rfl, rfl⟩
  · -- a completed row is not the row of the open poll, so the `UPDATE` passes it by
    have ne : row ≠ log := fun same => by rw [same, open_] at completed; cases completed
    have unchosen : row.ratingPollId ≠ some pollId := fun chosen =>
      ne (Sql.eq_of_filterMap_nodup valid.choreLog_poll row_member member chosen polled)
    exact ⟨(rows row).mpr (.inr ⟨row_member, unchosen⟩),
      Tables.ratingsOf_append_of_ne keys ratings' (Tables.key_ne_of_ne valid member row_member ne)⟩
  · exact sent_eq ▸ List.prefix_refl _
  · rw [stopped_eq]
    exact List.prefix_append _ _

end Stopped

/-! ### The stop round -/

section StopRound

variable {R B : Type} (env : Env R) (bot : PollableBot B) (ledger : PollLedger B)

/-- What the stop loop keeps, from the state `(db, b)` it started in, over the poll ids `rest`
still to stop: the state stays intact, in the same week, with the same generator, its polls
recorded and kept from the start; and the ids left are distinct, each the poll of a `ChoreLog`
not completed. -/
structure Stopping (db : Db R) (b : B) (rest : List Int) (s : Db R × B) : Prop where
  intact : Integrity env s.1.tables
  rng : s.1.rng = db.rng
  currentWeek : s.1.tables.currentWeek = db.tables.currentWeek
  recorded : PollsRecorded ledger env.config s.1.tables s.2
  kept : PollsKept ledger db.tables b s.1.tables s.2
  nodup : rest.Nodup
  open_ : ∀ pollId ∈ rest, ∃ log ∈ s.1.tables.choreLog, log.ratingPollId = some pollId ∧
    log.completed = false

variable {env ledger}

/-- The stop loop starts on the polls `stop_rating_polls` selects: those of the `ChoreLog`s not
completed. -/
theorem Stopping.start {db : Db R} {b : B} (intact : Integrity env db.tables)
    (recorded : PollsRecorded ledger env.config db.tables b) (week : Int) :
    Stopping env ledger db b (db.tables.openPolls week) (db, b) where
  intact := intact
  rng := rfl
  currentWeek := rfl
  recorded := recorded
  kept := PollsKept.of_same rfl rfl b
  nodup := ((List.filter_sublist).filterMap _).nodup db.con.valid.choreLog_poll
  open_ pollId member := by
    obtain ⟨log, log_member, polled⟩ := List.mem_filterMap.mp member
    obtain ⟨log_member, listed⟩ := List.mem_filter.mp log_member
    have unfinished : (!log.completed) = true := (Bool.and_eq_true _ _ ▸ listed).1
    exact ⟨log, log_member, polled, by simpa using unfinished⟩

variable (honest : HonestBot bot ledger)
include honest

/-- **One turn of the stop loop**: the first poll is stopped, its votes stored and its `ChoreLog`
completed, and `Stopping` holds of the polls after it, which stay open. -/
theorem Stopping.step {db : Db R} {b : B} {pollId : Int} {rest : List Int} {s : Db R × B}
    (stopping : Stopping env ledger db b (pollId :: rest) s) :
    ∃ s', (stopRatingPoll env bot pollId).run s = .ok () s' ∧ Stopping env ledger db b rest s' := by
  obtain ⟨log, member, polled, unfinished⟩ := stopping.open_ pollId List.mem_cons_self
  have valid : s.1.tables.Valid := s.1.con.valid
  obtain ⟨db', b', ran, intact', rng', stopped⟩ := stopRatingPoll_run env bot honest stopping.intact
    (stopping.recorded.sent_nodup valid) member polled (stopping.recorded.sent_of_polled member polled)
  refine ⟨(db', b'), ran, ⟨intact', rng'.trans stopping.rng, stopped.currentWeek.trans stopping.currentWeek,
    stopping.recorded.of_stopped valid member polled unfinished stopped,
    stopping.kept.trans (PollsKept.of_stopped stopping.recorded valid member polled unfinished stopped),
    (List.nodup_cons.mp stopping.nodup).2, fun pollId' member' => ?_⟩⟩
  -- the other polls stay open
  obtain ⟨log', log_member, polled', unfinished'⟩ := stopping.open_ pollId' (List.mem_cons_of_mem _ member')
  have ne : pollId' ≠ pollId := fun same => (List.nodup_cons.mp stopping.nodup).1 (same ▸ member')
  refine ⟨log', stopped.mem_of_unchosen log_member ?_, polled', unfinished'⟩
  rw [polled']
  exact fun same => ne (Option.some.inj same)

variable (env) in
/-- **The stop round**: every open poll of a past week is stopped, its votes are stored and its
`ChoreLog` completed, and the polls stay recorded and kept. -/
theorem stopRatingPolls_run {db : Db R} {b : B} (intact : Integrity env db.tables)
    (recorded : PollsRecorded ledger env.config db.tables b) :
    ∃ db' b', (stopRatingPolls env bot).run (db, b) = .ok () (db', b') ∧ Integrity env db'.tables ∧
      db'.rng = db.rng ∧ db'.tables.currentWeek = db.tables.currentWeek ∧
      PollsRecorded ledger env.config db'.tables b' ∧ PollsKept ledger db.tables b db'.tables b' := by
  obtain ⟨⟨db', b'⟩, stopped, stopping⟩ :=
    EStateM.forM_run_of_step (g := stopRatingPoll env bot) (Q := Stopping env ledger db b)
      (fun _ _ _ stopping => stopping.step bot honest)
      _ _ (Stopping.start intact recorded (db.tables.thisWeek env.config))
  refine ⟨db', b', ?_, stopping.intact, stopping.rng, stopping.currentWeek, stopping.recorded,
    stopping.kept⟩
  simp only [stopRatingPolls, EStateM.run_bind, liftDb_run_ok (getWeekInternal_run env intact) b,
    EStateM.run_get, liftDb_run_ok (integrityCheck_run env intact) b]
  exact stopped

end StopRound

/-! ### Sending one poll -/

section Send

variable {R B : Type} (env : Env R) (bot : PollableBot B)

/-- The body of the loop of `createRatingPolls`: send the poll of one `ChoreLog` of the week and
store its id. -/
def pollChoreLog (week : Int) : String × String → BotM R B PUnit := fun (chore, tenant) => do
  let id ← sendPoll bot (ratingQuestion env tenant chore week) ratingOptions
  let affectedRows := (← liftDb (execute (·.updateChoreLogPoll id week chore))).rowsAffected
  liftDb (integrityCheck env)
  liftDb (checkAffected affectedRows)

theorem createRatingPolls_eq : createRatingPolls env bot = (do
    let week := (← liftDb (getWeekInternal env)) - 1
    let rows := (← get).1.tables.unpolledChoreLogs week
    liftDb (integrityCheck env)
    rows.forM (pollChoreLog env bot week)) := rfl

theorem sendPoll_run_ok {db : Db R} {b b' : B} {question : String} {options : List String}
    {pollId : Int} (sent : bot.sendPoll question options b = .ok (pollId, b')) :
    (sendPoll bot question options).run (db, b) = .ok pollId (db, b') := by
  show sendPoll bot question options (db, b) = _
  unfold sendPoll
  dsimp only
  rw [sent]

/-- Setting a poll id leaves no completed row without one. -/
theorem unpolledCompleted_update_poll {logs : List ChoreLogRow}
    (polled : unpolledCompleted logs = false) (p : ChoreLogRow → Bool) (pollId : Int) :
    unpolledCompleted (Sql.update logs p fun row => { row with ratingPollId := some pollId }) = false := by
  unfold unpolledCompleted at polled ⊢
  rw [List.any_eq_false] at polled ⊢
  intro row member
  obtain ⟨old, old_member, rfl⟩ := Sql.mem_update.mp member
  rcases Sql.update_image p (fun row => { row with ratingPollId := some pollId }) old with
    ⟨-, image⟩ | ⟨-, image⟩ <;> rw [image]
  · simp
  · exact polled old old_member

/-- The rows of a chore and a week are the rows of one key. -/
theorem chosen_eq_key (log : ChoreLogRow) :
    (fun row : ChoreLogRow => row.week == log.week && some row.choreId == some log.choreId) =
      (·.key == log.key) := by
  funext row
  rw [Bool.eq_iff_iff]
  simp [ChoreLogRow.key, and_comm]

/-- Setting the poll id of the `ChoreLog` of a chore and week: one row, and a fresh id keeps poll
ids unique. -/
theorem updateChoreLogPoll_ok {con : Database} {log : ChoreLogRow} (member : log ∈ con.tables.choreLog)
    {chore : ChoreRow} (chore_member : chore ∈ con.tables.chore) (chore_id : chore.id = log.choreId)
    {pollId : Int} (fresh : pollId ∉ con.tables.choreLog.filterMap (·.ratingPollId)) :
    ∃ result, con.updateChoreLogPoll pollId log.week chore.name = .ok result ∧
      result.rowsAffected = 1 ∧ result.con.tables = { con.tables with
        choreLog := Sql.update con.tables.choreLog (·.key == log.key)
          fun row => { row with ratingPollId := some pollId } } := by
  have found : con.choreId chore.name = some log.choreId := by
    rw [← chore_id]
    exact choreId_of_mem con.valid chore_member
  have one : con.tables.choreLog.countP (·.key == log.key) = 1 := countP_key_eq_one con.valid member
  have unique : ((Sql.update con.tables.choreLog (·.key == log.key)
      fun row => { row with ratingPollId := some pollId }).filterMap (·.ratingPollId)).Nodup :=
    Sql.nodup_filterMap_update (f := (·.ratingPollId)) (fun _ => rfl) con.valid.choreLog_poll fresh one.le
  -- the statement chooses its rows by the chore's name; they are the rows of the key
  have chosen : (fun row : ChoreLogRow => row.week == log.week && some row.choreId ==
      con.choreId chore.name) = (·.key == log.key) := by
    rw [found, chosen_eq_key]
  dsimp only [Database.updateChoreLogPoll]
  rw [dif_pos (chosen ▸ unique)]
  refine ⟨_, rfl, ?_, ?_⟩ <;> dsimp only <;> rw [chosen]
  exact one

/-- What sending the poll of a `ChoreLog` does: the bot returns a fresh id and records the poll
with `RATING_OPTIONS`, and the id is stored on the `ChoreLog`. -/
def PollSent (ledger : PollLedger B) (log : ChoreLogRow) (t : Tables) (b : B) (t' : Tables) (b' : B) :
    Prop :=
  ∃ pollId, pollId ∉ (ledger.sent b).map (·.1) ∧
    ledger.sent b' = ledger.sent b ++ [(pollId, ratingOptions)] ∧ ledger.stopped b' = ledger.stopped b ∧
    t' = { t with
      choreLog := Sql.update t.choreLog (·.key == log.key) fun row => { row with ratingPollId := some pollId } }

/-- **Sending the poll of a `ChoreLog`** to an honest bot succeeds, with the effect `PollSent`. -/
theorem pollChoreLog_run {ledger : PollLedger B} (honest : HonestBot bot ledger) {db : Db R} {b : B}
    (intact : Integrity env db.tables)
    (stored : ((ledger.sent b).map (·.1)).Perm (db.tables.choreLog.filterMap (·.ratingPollId)))
    {log : ChoreLogRow} (member : log ∈ db.tables.choreLog) {chore : ChoreRow}
    (chore_member : chore ∈ db.tables.chore) (chore_id : chore.id = log.choreId) (tenant : String) :
    ∃ db' b', (pollChoreLog env bot log.week (chore.name, tenant)).run (db, b) = .ok () (db', b') ∧
      Integrity env db'.tables ∧ db'.rng = db.rng ∧ PollSent ledger log db.tables b db'.tables b' := by
  obtain ⟨pollId, b', sent, fresh, sent_eq, stopped_eq⟩ :=
    honest.sendPoll_fresh (ratingQuestion env tenant chore.name log.week) ratingOptions b
  obtain ⟨result, updated, affected, tables'⟩ :=
    updateChoreLogPoll_ok member chore_member chore_id fun stored_now => fresh (stored.symm.subset stored_now)
  have intact' : Integrity env ({ db with con := result.con } : Db R).tables := by
    show Integrity env result.con.tables
    rw [tables']
    exact integrity_choreLog env intact _
      (unpolledCompleted_update_poll (unpolledCompleted_of_integrity env intact) _ pollId)
  refine ⟨{ db with con := result.con }, b', ?_, intact', rfl, pollId, fresh, sent_eq, stopped_eq, tables'⟩
  unfold pollChoreLog
  dsimp only
  rw [run_bind_of_ok (sendPoll_run_ok bot sent),
    run_bind_of_ok (liftDb_run_ok
      (@execute_run_ok R db (fun con => con.updateChoreLogPoll pollId log.week chore.name) _ updated) b'),
    run_bind_of_ok (liftDb_run_ok (integrityCheck_run env intact') b'), affected]
  exact liftDb_run_ok (checkAffected_one _) b'

end Send

end ChorePlanner
