/-
**The replies of the bot: `ReplyMsg` of `src/bot.rs`.**

A reply is a text to send in monospace font and a set of chat tags. The commands build their
replies by adding those of the methods they call (`list_tenants + update_plan`); `+=` joins two
non-empty texts with three blank lines between them and takes the union of the tags.
-/

import Mathlib.Data.Finset.Basic

namespace ChorePlanner

/-- `ReplyMsg`: `mono_msg` and the `HashSet` of `tags`. -/
structure ReplyMsg where
  monoMsg : String
  tags : Finset String
  deriving DecidableEq

namespace ReplyMsg

/-- `ReplyMsg::new()`. -/
def new : ReplyMsg := ⟨"", ∅⟩

/-- `ReplyMsg::from_mono(mono_msg)`. -/
def fromMono (monoMsg : String) : ReplyMsg := ⟨monoMsg, ∅⟩

/-- `add_assign`: the separator only between two non-empty texts. -/
def addAssign (self rhs : ReplyMsg) : ReplyMsg where
  monoMsg :=
    (if !self.monoMsg.isEmpty && !rhs.monoMsg.isEmpty then self.monoMsg ++ "\n\n\n\n"
      else self.monoMsg) ++ rhs.monoMsg
  tags := self.tags ∪ rhs.tags

/-- `impl Add for ReplyMsg`: `self += rhs; self`. -/
instance : Add ReplyMsg := ⟨addAssign⟩

end ReplyMsg

end ChorePlanner
