/-
**The Signal bot: `src/signal_bot.rs`.**

The bot talks JSON-RPC to a signal-cli daemon (`signal_cli_interface.rs`, framed by
`Model.StreamCodec`).

* `parseUpdate` — an update of the `receive` subscription is handed over when it is a sent
  message (a `syncMessage` when the bot's own account wrote it, else a `dataMessage`) to the
  bot's account, not written by that account unless `allow_message_from_self`, mentioning the
  account by number or name, in the bot's group. Its first word, the mention, becomes the
  display name.
* `sendRawStr`, `sendMonoStr` — signal-cli's `send` to the group, and the check of its reply.
* `sendMsg` — a reply goes out page by page (`paginate_str` at 2000 bytes), each page trimmed,
  blank pages skipped, failures ignored; the tags are not sent.
* `toPollableBot` — a poll is a monospace message of the question and the options; stopping a
  poll always fails.

The JSON values are the records `serde` reads from them: an update that does not deserialize is
`none`. signal-cli is a parameter (`SignalCli`); the pauses between messages are not modelled.
-/

import ChorePlanner.Model.Paginate
import ChorePlanner.Model.Rating
import ChorePlanner.Model.Reply
import Mathlib.Data.List.DropRight

namespace ChorePlanner

/-- The fields of `SignalBot` besides the connection. -/
structure SignalBot where
  groupId : String
  accountName : String
  displayName : String
  allowMessageFromSelf : Bool
  deriving DecidableEq, Repr

namespace SignalBot

/-! ### Receiving -/

/-- `Mention`. -/
structure Mention where
  name : Option String
  number : Option String
  deriving DecidableEq, Repr

/-- `SentMessage`, with the `group_id` of its `group_info`. -/
structure SentMessage where
  groupId : String
  message : String
  mentions : List Mention
  deriving DecidableEq, Repr

/-- `Envelope`, with the `sent_message` of its `sync_message`. -/
structure Envelope where
  sourceNumber : String
  syncMessage : Option SentMessage
  dataMessage : Option SentMessage
  deriving DecidableEq, Repr

/-- `Update`. -/
structure Update where
  account : String
  envelope : Envelope
  deriving DecidableEq, Repr

variable (bot : SignalBot)

/-- `m.number == Some(self.account_name.clone()) || m.name == Some(self.account_name.clone())`. -/
def mentionsAccount (m : Mention) : Bool :=
  m.number == some bot.accountName || m.name == some bot.accountName

/-- `match sent_message.message.find(" ")`: the display name in place of everything before the
first space, or alone when there is none. -/
def replaceMention (message : String) : String :=
  match message.toList.findIdx? (· == ' ') with
  | some pos => String.ofList (bot.displayName.toList ++ message.toList.drop pos)
  | none => bot.displayName

/-- `parse_update`, after `serde_json::from_value::<Update>`. -/
def parseUpdate : Option Update → Option String
  | none => none
  | some update =>
    -- a message the bot's own account sent is a `syncMessage`
    let sentMessage := match update.envelope.syncMessage with
      | some sentMessage => some sentMessage
      | none => update.envelope.dataMessage
    match sentMessage with
    | none => none
    | some sentMessage =>
      if update.account != bot.accountName then none
      else if !bot.allowMessageFromSelf && update.envelope.sourceNumber == bot.accountName then none
      else if !sentMessage.mentions.any bot.mentionsAccount then none
      else if sentMessage.groupId != bot.groupId then none
      else some (bot.replaceMention sentMessage.message)

/-- `next_msg`: the next item of the subscription, `none` when it has ended, an error, or the
update. -/
def nextMsg : Option (Except String (Option Update)) → Option String
  | some (.ok update) => bot.parseUpdate update
  | some (.error _) => none
  | none => none

/-! ### Sending -/

/-- `SendReturn`: the `type` of each of `results`, and the `timestamp`. -/
structure SendReturn where
  results : List String
  timestamp : Int
  deriving DecidableEq, Repr

/-- signal-cli's `send`, as the bot calls it: to the groups `groupIds`, the message and its
`textStyle`. It returns the reply, `none` when that is not a `SendReturn`. -/
structure SignalCli (σ : Type) where
  send : (groupIds : List String) → (message : String) → (textStyle : List String) → σ →
    Except Error (Option SendReturn × σ)

variable {σ : Type} (cli : SignalCli σ)

/-- `send_raw_str`. The `{send_return:#?}` after the message of its `bail!` is not modelled. -/
def sendRawStr (msg : String) (format : List String) (s : σ) : Except Error (Int × σ) := do
  let (result, s) ← cli.send [bot.groupId] msg format s
  match result with
  | none => .error (.bail "Sending Message failed")
  | some sendReturn =>
    if sendReturn.results.all (· == "SUCCESS") then pure (sendReturn.timestamp, s)
    else .error (.bail "send_return isn't all success: ")

/-- `send_mono_str`: the whole message in monospace. -/
def sendMonoStr (msg : String) : σ → Except Error (Int × σ) :=
  bot.sendRawStr cli msg ["0:" ++ toString msg.utf8ByteSize ++ ":MONOSPACE"]

/-- `char::is_whitespace`: Unicode's `White_Space`. -/
def isWhitespace (c : Char) : Bool :=
  let n := c.toNat
  (0x09 ≤ n && n ≤ 0x0D) || n == 0x20 || n == 0x85 || n == 0xA0 || n == 0x1680 ||
    (0x2000 ≤ n && n ≤ 0x200A) || n == 0x2028 || n == 0x2029 || n == 0x202F || n == 0x205F ||
    n == 0x3000

/-- `str::trim`. -/
def trim (s : String) : String :=
  String.ofList ((s.toList.dropWhile isWhitespace).rdropWhile isWhitespace)

/-- `MSG_LIMIT` of `send_msg`. -/
def msgLimit : Nat := 2000

/-- One page of `send_msg`: a blank page is skipped, the others sent trimmed, and a failure to
send only printed. -/
def sendPage (s : σ) (page : String) : σ :=
  let trimmed := trim page
  if trimmed.isEmpty then s
  else match bot.sendMonoStr cli trimmed s with
    | .ok (_, s') => s'
    | .error _ => s

/-- `send_msg`; an error is sent as its text, `display`. -/
def sendMsg (display : Error → String) (msg : Except Error ReplyMsg) (s : σ) : σ :=
  let msg := match msg with
    | .ok msg => msg
    | .error e => ReplyMsg.fromMono (display e)
  (paginateStr msg.monoMsg msgLimit).foldl (bot.sendPage cli) s

/-- `impl PollableBot for SignalBot`. -/
def toPollableBot : PollableBot σ where
  sendPoll question options := bot.sendMonoStr cli (question ++ "\n\n" ++ "\n".intercalate options)
  stopPoll _ _ := .error (.bail "stopping polls isn't implemented for Signal")

end SignalBot

end ChorePlanner
