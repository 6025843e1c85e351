/-
**What the Telegram bot hands over along a stream of updates.**

One call of `next_msg` either leaves the bot as it is (an error, or an old update) or sets the
last id received to the id of a newer update (`nextMsg_cases`); the chat and the user name never
change. Over a whole stream:

* `nextMsgs_handed_increasing` — the updates whose text is handed over have strictly increasing
  ids, all after the last id received at the start: no update is handed over twice, and none out
  of order. The invariant is that every update handed over later is newer than the last id
  received now (`Newer`).
* `nextMsgs_hands_over_fresh` — an update newer than all before it, that is a message of the
  bot's chat addressed to it, is handed over by the call that reads it: the id filter drops only
  updates that are not new.
* `nextMsgs_ignores_all_of_upper` — the text is lower-cased before it is compared with the user
  name, but the user name is not: a bot whose user name holds an upper-case letter hands over
  nothing, whatever the stream.
-/

import ChorePlanner.Lib.Text
import ChorePlanner.Model.TelegramBot

namespace ChorePlanner

namespace TelegramBot

/-- An id after `last`, the last id received, if any. -/
def Newer (last : Option Nat) (id : Nat) : Prop := ∀ l ∈ last, l < id

theorem Newer.none (id : Nat) : Newer none id := by simp [Newer]

@[simp] theorem newer_some {l id : Nat} : Newer (some l) id ↔ l < id := by simp [Newer]

theorem Newer.trans {last : Option Nat} {a b : Nat} (newer : Newer last a) (lt : a < b) :
    Newer last b :=
  fun l member => Nat.lt_trans (newer l member) lt

theorem isOld_eq_false_iff {bot : TelegramBot} {update : Update} :
    bot.isOld update = false ↔ Newer bot.lastIdReceived update.id := by
  unfold isOld
  cases bot.lastIdReceived <;> simp [Newer.none]

variable (ops : TextOps)

/-- **One call of `next_msg`**: the bot stays as it is, or takes the id of a newer update and
hands over what its kind says. -/
theorem nextMsg_cases (bot : TelegramBot) (item : Except String Update) :
    bot.nextMsg ops item = (none, bot) ∨
      ∃ update, item = .ok update ∧ Newer bot.lastIdReceived update.id ∧
        bot.nextMsg ops item =
          (messageText ops { bot with lastIdReceived := some update.id } update.kind,
            { bot with lastIdReceived := some update.id }) := by
  cases item with
  | error _ => exact .inl rfl
  | ok update =>
    by_cases old : bot.isOld update
    · exact .inl (by simp [nextMsg, parseUpdate, old])
    · refine .inr ⟨update, rfl, isOld_eq_false_iff.mp (by simpa using old), ?_⟩
      simp [nextMsg, parseUpdate, old]

/-- Two states of one bot: the same chat and user name, whatever the last id received. -/
def SameBot (bot bot' : TelegramBot) : Prop :=
  bot'.chatId = bot.chatId ∧ bot'.botUsername = bot.botUsername

theorem SameBot.trans {bot bot' bot'' : TelegramBot} (first : SameBot bot bot')
    (second : SameBot bot' bot'') : SameBot bot bot'' :=
  ⟨second.1.trans first.1, second.2.trans first.2⟩

theorem nextMsg_sameBot (bot : TelegramBot) (item : Except String Update) :
    SameBot bot (bot.nextMsg ops item).2 := by
  rcases nextMsg_cases ops bot item with same | ⟨update, -, -, step⟩ <;> simp [SameBot, *]

/-- What is newer than the last id received after a call was newer before it. -/
theorem Newer.of_nextMsg {bot : TelegramBot} {item : Except String Update} {id : Nat}
    (newer : Newer (bot.nextMsg ops item).2.lastIdReceived id) : Newer bot.lastIdReceived id := by
  rcases nextMsg_cases ops bot item with same | ⟨update, -, fresh, step⟩
  · rwa [same] at newer
  · rw [step] at newer
    exact fresh.trans (newer_some.mp newer)

/-- A call that hands over a text took it from a newer update, whose id is now the last. -/
theorem nextMsg_some {bot : TelegramBot} {item : Except String Update} {text : String}
    (some : (bot.nextMsg ops item).1 = some text) :
    ∃ update, item = .ok update ∧ Newer bot.lastIdReceived update.id ∧
      (bot.nextMsg ops item).2.lastIdReceived = update.id := by
  rcases nextMsg_cases ops bot item with same | ⟨update, rfl, fresh, step⟩
  · simp [same] at some
  · exact ⟨update, rfl, fresh, by simp [step]⟩

/-! ## Runs -/

/-- The updates of a run whose text `next_msg` handed over, with the text. -/
def handed (items : List (Except String Update)) (outs : List (Option String)) :
    List (Update × String) :=
  (items.zip outs).filterMap fun pair =>
    match pair with
    | (.ok update, some text) => some (update, text)
    | _ => none

@[simp] theorem handed_ok_some (update : Update) (text : String)
    (items : List (Except String Update)) (outs : List (Option String)) :
    handed (.ok update :: items) (some text :: outs) = (update, text) :: handed items outs := rfl

@[simp] theorem handed_none (item : Except String Update) (items : List (Except String Update))
    (outs : List (Option String)) : handed (item :: items) (none :: outs) = handed items outs := by
  cases item <;> rfl

theorem nextMsgs_cons (bot : TelegramBot) (item : Except String Update)
    (items : List (Except String Update)) :
    bot.nextMsgs ops (item :: items) =
      ((bot.nextMsg ops item).1 :: ((bot.nextMsg ops item).2.nextMsgs ops items).1,
        ((bot.nextMsg ops item).2.nextMsgs ops items).2) := rfl

/-- A stream read in two parts: the second part starts from the bot the first leaves. -/
theorem nextMsgs_append (bot : TelegramBot) (items items' : List (Except String Update)) :
    bot.nextMsgs ops (items ++ items') =
      ((bot.nextMsgs ops items).1 ++ ((bot.nextMsgs ops items).2.nextMsgs ops items').1,
        ((bot.nextMsgs ops items).2.nextMsgs ops items').2) := by
  induction items generalizing bot with
  | nil => rfl
  | cons item items ih => simp [nextMsgs_cons, ih]

theorem length_nextMsgs (bot : TelegramBot) (items : List (Except String Update)) :
    (bot.nextMsgs ops items).1.length = items.length := by
  induction items generalizing bot with
  | nil => rfl
  | cons item items ih => simp [nextMsgs_cons, ih]

/-- A run changes the last id received only. -/
theorem nextMsgs_sameBot (bot : TelegramBot) (items : List (Except String Update)) :
    SameBot bot (bot.nextMsgs ops items).2 := by
  induction items generalizing bot with
  | nil => exact ⟨rfl, rfl⟩
  | cons item items ih =>
    rw [nextMsgs_cons]
    exact (nextMsg_sameBot ops bot item).trans (ih _)

/-- `messageText` reads the chat and the user name of the bot, not the last id received. -/
theorem messageText_congr {bot bot' : TelegramBot} (same : SameBot bot bot') (kind : UpdateKind) :
    messageText ops bot' kind = messageText ops bot kind := by
  simp [messageText, same.1, same.2]

/-- **No update is handed over twice, nor out of order.** Along any stream of updates and
errors, the updates whose text `next_msg` hands over have strictly increasing ids, all after the
last id received at the start. -/
theorem nextMsgs_handed_increasing (bot : TelegramBot) (items : List (Except String Update)) :
    (handed items (bot.nextMsgs ops items).1).Pairwise (fun a b => a.1.id < b.1.id) ∧
      ∀ a ∈ handed items (bot.nextMsgs ops items).1, Newer bot.lastIdReceived a.1.id := by
  induction items generalizing bot with
  | nil => simp [nextMsgs, handed]
  | cons item items ih =>
    -- the invariant: what is handed over later is newer than the last id received now
    obtain ⟨increasing, newer⟩ := ih (bot.nextMsg ops item).2
    rw [nextMsgs_cons]
    cases out : (bot.nextMsg ops item).1 with
    | none =>
      rw [handed_none]
      exact ⟨increasing, fun a member => (newer a member).of_nextMsg ops⟩
    | some text =>
      obtain ⟨update, rfl, fresh, last⟩ := nextMsg_some ops out
      rw [handed_ok_some]
      rw [last] at newer
      refine ⟨List.pairwise_cons.mpr ⟨fun a member => newer_some.mp (newer a member), increasing⟩,
        ?_⟩
      rintro a (_ | ⟨_, member⟩)
      · exact fresh
      · exact fresh.trans (newer_some.mp (newer a member))

/-- An update of the stream newer than all before it finds the last id received below its id. -/
theorem Newer.nextMsgs {bot : TelegramBot} {update : Update} (fresh : Newer bot.lastIdReceived update.id)
    (before : List (Except String Update)) (newest : ∀ u, .ok u ∈ before → u.id < update.id) :
    Newer (bot.nextMsgs ops before).2.lastIdReceived update.id := by
  induction before generalizing bot with
  | nil => exact fresh
  | cons item before ih =>
    apply ih _ fun u member => newest u (List.mem_cons_of_mem _ member)
    rcases nextMsg_cases ops bot item with same | ⟨u, rfl, -, step⟩
    · rwa [same]
    · rw [step]
      exact newer_some.mpr (newest u List.mem_cons_self)

/-- **Every new message meant for the bot is handed over.** An update newer than every update
before it in the stream, and than the last id received at the start, whose kind is a message of
the bot's chat addressed to it, has its text handed over by the call that reads it. -/
theorem nextMsgs_hands_over_fresh (bot : TelegramBot) (before after : List (Except String Update))
    (update : Update) (fresh : Newer bot.lastIdReceived update.id)
    (newest : ∀ u, .ok u ∈ before → u.id < update.id) {text : String}
    (meant : bot.messageText ops update.kind = some text) :
    (bot.nextMsgs ops (before ++ .ok update :: after)).1[before.length]? = some (some text) := by
  have newer := Newer.nextMsgs ops fresh before newest
  -- the call on `update` finds it new, and the bot's chat and user name as at the start
  have notOld : (bot.nextMsgs ops before).2.isOld update = false := isOld_eq_false_iff.mpr newer
  have same : messageText ops { (bot.nextMsgs ops before).2 with lastIdReceived := some update.id }
      update.kind = messageText ops bot update.kind :=
    messageText_congr ops ((nextMsgs_sameBot ops bot before).trans ⟨rfl, rfl⟩) _
  rw [nextMsgs_append, nextMsgs_cons, List.getElem?_append_right (by simp [length_nextMsgs])]
  simp [length_nextMsgs, nextMsg, parseUpdate, notOld, same, meant]

/-- Rust's mappings on ASCII text: leading whitespace dropped, letters lower-cased. -/
def asciiTextOps : TextOps :=
  ⟨fun s => String.ofList (s.toList.dropWhile Char.isWhitespace), fun s => s.map Char.toLower⟩

theorem asciiTextOps_lowers : ∀ s, ∀ c ∈ (asciiTextOps.toLowercase s).toList, c.isUpper = false := by
  intro s c member
  simp only [asciiTextOps, String.toList_map, List.mem_map] at member
  obtain ⟨d, -, rfl⟩ := member
  exact Char.isUpper_toLower

/-- The bot of chat 7 with the user name `@chorebot`. -/
def choreBot : TelegramBot := ⟨7, "@chorebot", none⟩

theorem nextMsgs_hands_over_fresh_sample :
    Newer choreBot.lastIdReceived 2 ∧
      (∀ u : Update, .ok u ∈ ([.ok ⟨1, .other⟩] : List (Except String Update)) → u.id < 2) ∧
      choreBot.messageText asciiTextOps (.message 7 (some " @ChoreBot tenant list")) =
        some " @ChoreBot tenant list" ∧
      (choreBot.nextMsgs asciiTextOps
        [.ok ⟨1, .other⟩, .ok ⟨2, .message 7 (some " @ChoreBot tenant list")⟩, .ok ⟨2, .other⟩]).1[1]? =
        some (some " @ChoreBot tenant list") := by
  have addressed : (asciiTextOps.toLowercase (asciiTextOps.trimStart " @ChoreBot tenant list")).startsWith
      choreBot.botUsername = true := by
    rw [String.startsWith_string_iff]
    simp only [asciiTextOps, choreBot, String.toList_map, String.toList_ofList]
    decide
  have meant : choreBot.messageText asciiTextOps (.message 7 (some " @ChoreBot tenant list")) =
      some " @ChoreBot tenant list" := by
    simp only [messageText]
    rw [if_neg (show ¬ ((7 : Int) ≠ choreBot.chatId) by decide), if_pos addressed]
  have newest : ∀ u : Update, .ok u ∈ ([.ok ⟨1, .other⟩] : List (Except String Update)) → u.id < 2 := by
    simp
  exact ⟨Newer.none 2, newest, meant,
    nextMsgs_hands_over_fresh asciiTextOps choreBot [.ok ⟨1, .other⟩] [.ok ⟨2, .other⟩]
      ⟨2, .message 7 (some " @ChoreBot tenant list")⟩ (Newer.none 2) newest meant⟩

/-- **A user name with an upper-case letter matches no text.** `parse_update` lower-cases the
text before it compares it with `"@" + username`, but not the user name: when the user name
holds an upper-case letter, no message is ever handed over. -/
theorem nextMsgs_ignores_all_of_upper
    (lowers : ∀ s, ∀ c ∈ (ops.toLowercase s).toList, c.isUpper = false) {bot : TelegramBot}
    (upper : ∃ c ∈ bot.botUsername.toList, c.isUpper = true) (items : List (Except String Update)) :
    (bot.nextMsgs ops items).1 = items.map fun _ => none := by
  -- one call hands over nothing, and keeps the user name
  have never : ∀ bot' : TelegramBot, bot'.botUsername = bot.botUsername →
      ∀ kind, messageText ops bot' kind = none := by
    intro bot' name kind
    obtain ⟨c, member, isUpper⟩ := upper
    cases kind with
    | other => rfl
    | message chatId text =>
      simp only [messageText]
      split_ifs with chat
      · rfl
      · cases text with
        | none => rfl
        | some text =>
          dsimp only
          rw [if_neg]
          rw [String.startsWith_string_iff, name]
          intro pre
          simp [lowers _ c (pre.subset member)] at isUpper
  -- the run: every call meets a bot with the same user name
  suffices run : ∀ bot' : TelegramBot, bot'.botUsername = bot.botUsername →
      (bot'.nextMsgs ops items).1 = items.map fun _ => none from run bot rfl
  induction items with
  | nil => exact fun _ _ => rfl
  | cons item items ih =>
    intro bot' name
    have first : (bot'.nextMsg ops item).1 = none := by
      rcases nextMsg_cases ops bot' item with same | ⟨update, -, -, step⟩
      · rw [same]
      · rw [step]
        exact never _ name _
    rw [nextMsgs_cons, List.map_cons, first, ih _ ((nextMsg_sameBot ops bot' item).2.trans name)]

theorem nextMsgs_ignores_all_of_upper_sample :
    (∀ s, ∀ c ∈ (asciiTextOps.toLowercase s).toList, c.isUpper = false) ∧
      (∃ c ∈ "@ChoreBot".toList, c.isUpper = true) ∧
      ((⟨7, "@ChoreBot", none⟩ : TelegramBot).nextMsgs asciiTextOps
        [.ok ⟨1, .message 7 (some "@ChoreBot tenant list")⟩]).1 = [none] :=
  ⟨asciiTextOps_lowers, ⟨'C', by decide, rfl⟩,
    nextMsgs_ignores_all_of_upper asciiTextOps asciiTextOps_lowers ⟨'C', by decide, rfl⟩ _⟩

end TelegramBot

end ChorePlanner
