/-
**Commands and the weekly action: `src/command.rs` and `Db::set_week` of `src/db.rs`.**

* `Cli`, `MainCommand` and the subcommand types — the `clap` command tree. `runCli` dispatches a
  parsed command line as `run_command` does; `runCommand` first parses the input with the
  `shellwords` and `clap` parser it is given, whose errors (help pages included) are returned.
* `setWeek` — write the new current week, or the next one in debug mode, and say whether the
  week changed.
* `weeklyAction` — set the week, update the plan and, when the week changed, stop last week's
  polls, create this week's and print the banner. Errors are sent to the bot; a panic ends the
  process.
* `handle` — one call of the program: a command from the chat, whose result goes to the bot, or
  a weekly action.
-/

import ChorePlanner.Model.Chore
import ChorePlanner.Model.Exemption
import ChorePlanner.Model.Rating

namespace ChorePlanner

/-! ### The command line -/

/-- `TenantCommand`. -/
inductive TenantCommand where
  | list
  | moveIn (name : String) (tag : Option String) (room : String)
  | moveOut (name : String)
  | createRoom (name : String)
  deriving DecidableEq, Repr

/-- `ChoreCommand`. -/
inductive ChoreCommand where
  | list
  | create (name : String) (description : String)
  | deactivate (name : String)
  | reactivate (name : String)
  deriving DecidableEq, Repr

/-- `ExemptionCommand`. -/
inductive ExemptionCommand where
  | list
  | create (chores : List String) (reason : String)
  | change (reason : String) (chores : List String)
  | grant (tenant : String) (reason : String)
  | revoke (reason : String) (tenant : String)
  deriving DecidableEq, Repr

/-- `MainCommand`. `clap` only accepts weeks in `1..54`. -/
inductive MainCommand where
  | replan (tenant : String) (week : Int) (year : Int)
  | report (week : Int) (year : Int)
  | tenant (command : Option TenantCommand)
  | chore (command : Option ChoreCommand)
  | exemption (command : Option ExemptionCommand)
  deriving DecidableEq, Repr

/-- `Cli`. -/
structure Cli where
  command : Option MainCommand
  deriving DecidableEq, Repr

variable {R : Type} (env : Env R)

/-- `Week::new(*week as u32, *year)?`. -/
def weekOfCommand (week : Int) (year : Int) : DbM R Int :=
  match Week.new env week.toNat year with
  | .ok week => pure week
  | .error e => throw (.err e)

/-- The `match &cli.command` of `run_command`. -/
def runCli (cli : Cli) : DbM R Unit :=
  match cli.command with
  | some (.tenant command) => match command with
    | some .list => listTenants env
    | some (.moveIn name tag room) => moveIn env name tag room
    | some (.moveOut name) => moveOut env name
    | some (.createRoom name) => createRoom env name
    | none => throw .panic
  | some (.chore command) => match command with
    | some .list => listPlan env
    | some (.create name description) => createChore env name description
    | some (.deactivate name) => setChoreActiveState env name false
    | some (.reactivate name) => setChoreActiveState env name true
    | none => throw .panic
  | some (.exemption command) => match command with
    | some .list => listExemptions env
    | some (.create chores reason) => createExemptionReason env reason chores
    | some (.change reason chores) => changeExemptionReason env reason chores
    | some (.grant tenant reason) => grantExemption env reason tenant
    | some (.revoke reason tenant) => revokeExemption env reason tenant
    | none => throw .panic
  | some (.replan tenant week year) => do replan env tenant (← weekOfCommand env week year)
  | some (.report week year) => do
    let _ ← weekOfCommand env week year
    printReport env
  | none => throw .panic

/-- `run_command` with the parser `shellwords::split` followed by `Cli::try_parse_from`. -/
def runCommand (parse : String → Except Error Cli) (input : String) : DbM R Unit :=
  match parse input with
  | .ok cli => runCli env cli
  | .error e => throw (.err e)

/-! ### The weekly action -/

/-- `Db::set_week`. -/
def setWeek (week : Int) : DbM R Bool := do
  let oldWeek ← getWeekInternal env
  if env.config.debug then setWeekInternal env (oldWeek + 1)
  else setWeekInternal env week
  let newWeek ← getWeekInternal env
  pure (oldWeek != newWeek)

section Weekly

variable {B : Type} (bot : PollableBot B)

/-- `bot.send_msg(result)`, and `if let Err(e) = result { eprintln!(..) }`: an error is reported,
not returned, while a panic still ends the process. -/
def report {α : Type} (x : BotM R B α) : BotM R B Unit := fun s =>
  match x s with
  | .ok _ s' => .ok () s'
  | .error (.err _) s' => .ok () s'
  | .error .panic s' => .error .panic s'

/-- `weekly_action`, on the day it runs. -/
def weeklyAction (today : Int) : BotM R B Unit := do
  let weekChanged ← liftDb (setWeek env (Week.ofDate today))
  if !weekChanged then
    -- the database might have been changed by hand
    report (liftDb (updatePlan env))
    return
  report (liftDb (updatePlan env))
  report (stopRatingPolls env bot)
  report (createRatingPolls env bot)
  report (liftDb (printNextWeekBanner env))

/-- One call of the program: a command (with the bot's name for the replan hints, which are not
modelled) or a weekly action. -/
inductive Call where
  | command (cli : Cli)
  | weekly (today : Int)
  deriving DecidableEq, Repr

/-- Handle one call: `handle_next_msg` sends the result of `run_command` to the bot. -/
def handle : Call → BotM R B Unit
  | .command cli => report (liftDb (runCli env cli))
  | .weekly today => weeklyAction env bot today

end Weekly

end ChorePlanner
