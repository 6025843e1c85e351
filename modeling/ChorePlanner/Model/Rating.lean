/-
**Rating polls: `src/db/rating.rs` and the `PollableBot` of `src/bot.rs`.**

The bot is a state of its own next to the `Db`; `BotM` runs over both, and `liftDb` runs a method
of `Db` inside it.

* `createRatingPolls` — one poll per `ChoreLog` of last week that has none yet, its id written to
  the `ChoreLog`.
* `stopRatingPolls` — for every open poll of a past week: stop it (a failure to stop counts as a
  poll with no votes), insert one `Rating` per vote with the option's leading number, and mark the
  `ChoreLog` completed.
-/

import ChorePlanner.Model.Plan
import ChorePlanner.Model.Week

namespace ChorePlanner

/-- `RATING_OPTIONS`. -/
def ratingOptions : List String :=
  ["1  😢  You didn't do anything.", "2  👎  Barely noticeable.", "3  😮  Acceptable.",
    "4  👍  Well done.", "5  ❤️  Perfect!"]

/-- A `PollableBot` with state `B`: `send_poll(question, options)` returns the new poll's id, and
`stop_poll(poll_id)` each option of the poll with the number of votes for it. -/
structure PollableBot (B : Type) where
  sendPoll : String → List String → B → Except Error (Int × B)
  stopPoll : Int → B → Except Error (List (String × Nat) × B)

/-- A function that uses the bot as well as the `Db`. -/
abbrev BotM (R B : Type) := EStateM Failure (Db R × B)

section Bot

variable {R B : Type}

/-- A method of `Db` run inside `BotM`: the bot is left as it is. -/
def liftDb {α : Type} (x : DbM R α) : BotM R B α := fun (db, bot) =>
  match x.run db with
  | .ok a db' => .ok a (db', bot)
  | .error e db' => .error e (db', bot)

/-- `bot.send_poll(question, options).await?`. -/
def sendPoll (bot : PollableBot B) (question : String) (options : List String) : BotM R B Int :=
  fun (db, state) =>
    match bot.sendPoll question options state with
    | .ok (id, state') => .ok id (db, state')
    | .error e => .error (.err e) (db, state)

/-- `bot.stop_poll(poll_id).await.unwrap_or_else(|e| { eprintln!(..); vec![] })`. -/
def stopPoll (bot : PollableBot B) (pollId : Int) : BotM R B (List (String × Nat)) :=
  fun (db, state) =>
    match bot.stopPoll pollId state with
    | .ok (results, state') => .ok results (db, state')
    | .error _ => .ok [] (db, state)

end Bot

/-! ### Parsing a rating -/

/-- The value of a string of ASCII digits. -/
def digitsValue (digits : List Char) : Nat :=
  digits.foldl (fun value c => 10 * value + (c.toNat - '0'.toNat)) 0

/-- `str::parse::<u32>`: an optional `+` and at least one ASCII digit, with a value below
`2 ^ 32`. -/
def parseU32 (s : List Char) : Except Error Nat :=
  let digits := match s with
    | '+' :: rest => rest
    | _ => s
  if digits.isEmpty then .error (.parseInt "cannot parse integer from empty string")
  else if !digits.all Char.isDigit then .error (.parseInt "invalid digit found in string")
  else if digitsValue digits < 2 ^ 32 then .ok (digitsValue digits)
  else .error (.parseInt "number too large to fit in target type")

/-- `rating_str.split(' ').next().context("failed to parse rating_str")?.parse::<u32>()?`. -/
def parseRating (ratingStr : String) : Except Error Nat :=
  match splitSpace ratingStr.toList with
  | [] => .error (.bail "failed to parse rating_str")
  | first :: _ => parseU32 first

/-! ### The queries -/

namespace Tables

variable (t : Tables)

/-- `SELECT Chore.name, Tenant.name FROM ChoreLog JOIN Tenant ON Tenant.id = ChoreLog.worker JOIN
Chore ON Chore.id = ChoreLog.chore_id WHERE ChoreLog.week = ?1 AND ChoreLog.rating_poll_id IS
NULL`. -/
def unpolledChoreLogs (week : Int) : List (String × String) :=
  (t.choreLog.filter fun log => log.week == week && log.ratingPollId.isNone).flatMap fun log =>
    (t.tenant.filter (·.id == log.worker)).flatMap fun tenant =>
      (t.chore.filter (·.id == log.choreId)).map fun chore => (chore.name, tenant.name)

/-- `SELECT ChoreLog.rating_poll_id FROM ChoreLog WHERE ChoreLog.completed = 0 AND
ChoreLog.rating_poll_id IS NOT NULL AND ChoreLog.week < ?1`. -/
def openPolls (week : Int) : List Int :=
  (t.choreLog.filter fun log => !log.completed && decide (log.week < week)).filterMap
    (·.ratingPollId)

end Tables

/-! ### The two steps of a weekly rating round -/

variable {R B : Type} (env : Env R) (bot : PollableBot B)

/-- The question of a rating poll. -/
def ratingQuestion (tenant : String) (chore : String) (week : Int) : String :=
  "How well did " ++ tenant ++ " do the " ++ chore ++ " on " ++ Week.display env week ++ "?"

/-- `affected_rows != 1` after a statement of `rating.rs`. -/
def checkAffected (affectedRows : Nat) : DbM R Unit :=
  if affectedRows != 1 then bail s!"affected {affectedRows} rows" else pure ()

/-- `create_rating_polls`. -/
def createRatingPolls : BotM R B Unit := do
  let week := (← liftDb (getWeekInternal env)) - 1
  let rows := (← get).1.tables.unpolledChoreLogs week
  liftDb (integrityCheck env)
  rows.forM fun (chore, tenant) => do
    let id ← sendPoll bot (ratingQuestion env tenant chore week) ratingOptions
    let affectedRows := (← liftDb (execute (·.updateChoreLogPoll id week chore))).rowsAffected
    liftDb (integrityCheck env)
    liftDb (checkAffected affectedRows)

/-- Store one option's votes: `count` `Rating` rows for the poll. -/
def insertRatings (pollId : Int) (rating : Nat) (count : Nat) : DbM R Unit :=
  (List.range count).forM fun _ => do
    let affectedRows := (← execute (·.insertRating pollId rating)).rowsAffected
    integrityCheck env
    checkAffected affectedRows

/-- The body of `stop_rating_polls`' loop for one poll. -/
def stopRatingPoll (pollId : Int) : BotM R B Unit := do
  let results ← stopPoll bot pollId
  results.forM fun (ratingStr, count) => do
    let rating ← liftDb (match parseRating ratingStr with
      | .ok rating => pure rating
      | .error e => throw (.err e))
    liftDb (insertRatings env pollId rating count)
  let affectedRows := (← liftDb (execute (·.updateChoreLogCompleted pollId))).rowsAffected
  liftDb (integrityCheck env)
  liftDb (checkAffected affectedRows)

/-- `stop_rating_polls`. -/
def stopRatingPolls : BotM R B Unit := do
  let week ← liftDb (getWeekInternal env)
  let pollIds := (← get).1.tables.openPolls week
  liftDb (integrityCheck env)
  pollIds.forM (stopRatingPoll env bot)

end ChorePlanner
