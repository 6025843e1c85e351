/-
**The Signal bot: what it hands over, and the ratings it never stores.**

* `replaceMention_toList`, `parseUpdate_eq_some` — the updates handed over, each as the display
  name followed by the sent text from its first space on.
* `stopPoll_signal` — signal-cli cannot stop a poll, so through the Signal bot every poll is
  stopped with no votes, and `stop_rating_polls` only marks the polls' `ChoreLog`s completed.
* `RatingsKept` — the relation "same `Rating` rows" on the program's states; `set_week`,
  `update_plan`, creating polls and every command line keep it.
* `runLoop_signal_keeps_ratings` — **with the Signal bot, no run of the main loop changes the
  `Rating` table**, whatever the chat says and whenever the signals come.
-/

import ChorePlanner.Model.SignalBot
import ChorePlanner.Proofs.Main

namespace ChorePlanner

open EStateM

/-! ### Receiving -/

namespace SignalBot

variable (bot : SignalBot)

/-- `replace_range(0..pos, &self.display_name)` at the first space keeps the text from that space
on. -/
theorem replaceMention_toList (message : String) :
    (bot.replaceMention message).toList =
      bot.displayName.toList ++ message.toList.dropWhile (· != ' ') := by
  unfold replaceMention
  split
  · rename_i pos found
    have first : message.toList.findIdx (· == ' ') = pos :=
      (List.findIdx?_eq_some_iff_findIdx_eq.mp found).2
    rw [String.toList_ofList, List.dropWhile_eq_drop_findIdx_not]
    congr 2
    simp only [bne, Bool.not_not]
    exact first.symm
  · rename_i spaceless
    have none_left : message.toList.dropWhile (· != ' ') = [] := by
      rw [List.dropWhile_eq_nil_iff]
      intro c member
      simpa [bne] using List.findIdx?_eq_none_iff.mp spaceless c member
    rw [none_left, List.append_nil]

/-- **The updates handed over**: a sent message (the `syncMessage` when there is one) to the bot's
account, not from that account unless this is allowed, mentioning the account, in the bot's
group; its mention becomes the display name. -/
theorem parseUpdate_eq_some {update : Update} {msg : String} :
    bot.parseUpdate (some update) = some msg ↔
      ∃ sent, update.envelope.syncMessage.or update.envelope.dataMessage = some sent ∧
        update.account = bot.accountName ∧
        (bot.allowMessageFromSelf = false → update.envelope.sourceNumber ≠ bot.accountName) ∧
        (∃ m ∈ sent.mentions, bot.mentionsAccount m = true) ∧ sent.groupId = bot.groupId ∧
        bot.replaceMention sent.message = msg := by
  unfold parseUpdate
  dsimp only
  cases synced : update.envelope.syncMessage with
  | some sent => simp
  | none =>
    cases update.envelope.dataMessage with
    | none => simp
    | some sent => simp

end SignalBot

/-! ### The ratings -/

section Ratings

variable {R B : Type}

/-- The `Rating` rows are the same. -/
def RatingsKept : Db R × B → Db R × B → Prop := OnDb (Agree fun db : Db R => db.tables.rating)

instance : Std.Refl (RatingsKept (R := R) (B := B)) := inferInstanceAs (Std.Refl (OnDb _))

instance : IsTrans (Db R × B) RatingsKept := inferInstanceAs (IsTrans _ (OnDb _))

/-- A method of `Db` that writes outside `Rating` keeps the ratings. -/
theorem liftDb_ratingsKept {α : Type} {x : DbM R α} {writes : List Table}
    (frame : Respects (WritesOnly writes) x) (unrated : .rating ∉ writes) :
    Respects (RatingsKept (B := B)) (liftDb x) :=
  liftDb_respects (frame.mono fun _ _ same => same .rating unrated)

variable (env : Env R)

theorem setWeek_keeps_ratings (week : Int) :
    Respects (Agree fun db : Db R => db.tables.rating) (setWeek env week) :=
  Respects.mono (setWeek_writes env week) fun _ _ frame => frame .rating (by decide)

theorem createRatingPolls_keeps_ratings (bot : PollableBot B) :
    Respects (RatingsKept (B := B)) (createRatingPolls env bot) :=
  createRatingPolls_respects env bot fun _ _ _ =>
    (execute_writes (updateChoreLogPoll_writes _ _ _)).mono fun _ _ same => same .rating (by decide)

/-- Every command line keeps the ratings, whatever its outcome. -/
theorem handleCommand_keeps_ratings (bot : PollableBot B) (cli : Cli) :
    Respects (RatingsKept (B := B)) (handle env bot (.command cli)) :=
  report_respects (liftDb_ratingsKept (runCli_writes env cli) cli.writes_unrated.1)

variable {σ : Type} (bot : SignalBot) (cli : SignalBot.SignalCli σ)

/-- Stopping a poll through the Signal bot fails, and `stop_rating_polls` takes it as a poll with no
votes. -/
theorem stopPoll_signal (pollId : Int) :
    (stopPoll (bot.toPollableBot cli) pollId : BotM R σ _) = pure [] := by
  funext s
  obtain ⟨db, state⟩ := s
  rfl

/-- With no votes, stopping a poll only marks its `ChoreLog` completed. -/
theorem stopRatingPoll_signal_keeps_ratings (pollId : Int) :
    Respects (RatingsKept (B := σ)) (stopRatingPoll env (bot.toPollableBot cli) pollId) := by
  unfold stopRatingPoll
  rw [stopPoll_signal, pure_bind]
  -- no votes: nothing to insert
  exact .bind (.pure _) fun _ => .bind (liftDb_ratingsKept (execute_writes (updateChoreLogCompleted_writes pollId)) (by decide))
    fun _ => .bind (liftDb_respects (integrityCheck_reads env)) fun _ => liftDb_respects (checkAffected_reads _)

/-- The weekly action with the Signal bot keeps the ratings, whatever its outcome. -/
theorem weeklyAction_signal_keeps_ratings (today : Int) :
    Respects (RatingsKept (B := σ)) (weeklyAction env (bot.toPollableBot cli) today) := by
  have plan : Respects (RatingsKept (B := σ)) (report (liftDb (updatePlan env))) :=
    report_respects (liftDb_ratingsKept (updatePlan_writes env) (by decide))
  unfold weeklyAction
  refine .bind (liftDb_respects (setWeek_keeps_ratings env _)) fun _ => .ite ?_ ?_
  · -- the week did not change: only the plan is updated
    exact .bind plan fun _ => .pure _
  · exact .bind plan fun _ =>
      .bind (report_respects (stopRatingPolls_respects env _ (stopRatingPoll_signal_keeps_ratings env bot cli)))
        fun _ => .bind (report_respects (createRatingPolls_keeps_ratings env _)) fun _ =>
          report_respects (liftDb_respects (printNextWeekBanner_reads env))

/-- **With the Signal bot, no run of the main loop changes the `Rating` table**: for every list of
signals and messages, whatever the messages say and whether they parse, from any state, also one
that fails `integrity_check`. Signal polls are never stopped with their votes, so the weekly
action stores none, and no command writes `Rating`. -/
theorem runLoop_signal_keeps_ratings (parse : String → Except Error Cli) (events : List Event)
    (s : Db R × σ) :
    ((runLoop env (bot.toPollableBot cli) parse events).run s).store.1.tables.rating =
      s.1.tables.rating := by
  have each (call : Call) : Respects (RatingsKept (B := σ)) (handle env (bot.toPollableBot cli) call) := by
    cases call with
    | command command => exact handleCommand_keeps_ratings env _ command
    | weekly today => exact weeklyAction_signal_keeps_ratings env bot cli today
  rw [runLoop_eq]
  exact Respects.forM each _ s

end Ratings

end ChorePlanner
