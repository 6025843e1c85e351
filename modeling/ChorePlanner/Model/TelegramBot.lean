/-
**Reading Telegram updates: `src/telegram_bot.rs`.**

The Telegram bot long-polls for updates and hands the program the text of each new message meant
for it (`parse_update`):

* an update whose id is at most the last id received is old and ignored;
* else its id becomes the last id received, and a message of the bot's chat whose text, with
  leading whitespace trimmed and lower-cased, starts with the bot's user name `"@" + username`
  is handed over as it was sent; every other update is ignored.

`next_msg` takes the next item of the update stream: an update goes to `parse_update`, an error
is ignored. `str::trim_start` and `str::to_lowercase`, Rust's Unicode mappings, are parameters
(`TextOps`). Sending (`send_msg`, polls) goes through the Telegram API and is not modelled.
-/

import Mathlib.Order.Basic

namespace ChorePlanner

/-- `str::trim_start` and `str::to_lowercase`. -/
structure TextOps where
  trimStart : String → String
  toLowercase : String → String

/-- What `parse_update` reads of `update.kind`. -/
inductive UpdateKind where
  /-- `UpdateKind::Message(msg)`: the id of `msg.chat` and `msg.text()`. -/
  | message (chatId : Int) (text : Option String)
  /-- Every other kind of update. -/
  | other
  deriving DecidableEq, Repr

/-- `teloxide::types::Update`: its `UpdateId` and its kind. -/
structure Update where
  id : Nat
  kind : UpdateKind
  deriving DecidableEq, Repr

/-- The fields of `TelegramBot` that `parse_update` reads and writes. -/
structure TelegramBot where
  chatId : Int
  botUsername : String
  /-- `None` when no update has been received yet. -/
  lastIdReceived : Option Nat
  deriving DecidableEq, Repr

namespace TelegramBot

/-- `update.id <= last_id_received`, for the last id received if there is one. -/
def isOld (bot : TelegramBot) (update : Update) : Bool :=
  match bot.lastIdReceived with
  | some lastIdReceived => decide (update.id ≤ lastIdReceived)
  | none => false

/-- The `match update.kind` of `parse_update`: the text to hand over, if any. -/
def messageText (ops : TextOps) (bot : TelegramBot) : UpdateKind → Option String
  | .message chatId text =>
    if chatId ≠ bot.chatId then none
    else
      match text with
      | some text =>
        -- ignore messages not meant for this bot
        if (ops.toLowercase (ops.trimStart text)).startsWith bot.botUsername then some text
        else none
      | none => none
  | .other => none

/-- `parse_update`: the text handed over, and the bot after the update. -/
def parseUpdate (ops : TextOps) (bot : TelegramBot) (update : Update) :
    Option String × TelegramBot :=
  if bot.isOld update then (none, bot)
  else
    let bot := { bot with lastIdReceived := some update.id }
    (bot.messageText ops update.kind, bot)

/-- `next_msg` on the next item of the update stream: an update, or the error getting one. -/
def nextMsg (ops : TextOps) (bot : TelegramBot) : Except String Update → Option String × TelegramBot
  | .ok update => bot.parseUpdate ops update
  | .error _ => (none, bot)

/-- `next_msg` called on item after item of the stream, as `run_loop` does: what each call
returns, and the bot at the end. -/
def nextMsgs (ops : TextOps) : TelegramBot → List (Except String Update) → List (Option String) × TelegramBot
  | bot, [] => ([], bot)
  | bot, item :: items =>
    let step := bot.nextMsg ops item
    let rest := nextMsgs ops step.2 items
    (step.1 :: rest.1, rest.2)

end TelegramBot

end ChorePlanner
