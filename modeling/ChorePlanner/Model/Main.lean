/-
**The main loop: `run_loop` of `src/main.rs`.**

`run_loop` waits for whichever comes first: SIGINT or SIGTERM, which end the loop; SIGHUP, which
runs the weekly action on the day it arrives; or the bot's next message, which `handle_next_msg`
runs as a command when there is one. The events are a list, in the order in which they win the
`tokio::select!`. `bot.shutdown()` after the loop only closes the connection and is not modelled.
-/

import ChorePlanner.Model.Command

namespace ChorePlanner

/-- What wins the `tokio::select!` of `run_loop`. -/
inductive Event where
  | sigint
  | sigterm
  /-- SIGHUP, on the day it arrives. -/
  | sighup (today : Int)
  /-- `bot.next_msg()` returned. -/
  | message (msg : Option String)
  deriving DecidableEq, Repr

section Main

variable {R B : Type} (env : Env R) (bot : PollableBot B) (parse : String → Except Error Cli)

/-- `handle_next_msg`: `bot.send_msg(run_command(db, msg, ..))`. -/
def handleNextMsg (msg : String) : BotM R B Unit := report (liftDb (runCommand env parse msg))

/-- `run_loop`, until the events run out or a signal ends it. -/
def runLoop : List Event → BotM R B Unit
  | [] => pure ()
  | .sigint :: _ => pure ()
  | .sigterm :: _ => pure ()
  | .sighup today :: events => do
    weeklyAction env bot today
    runLoop events
  | .message msg :: events => do
    if let some msg := msg then handleNextMsg env parse msg
    runLoop events

end Main

end ChorePlanner
