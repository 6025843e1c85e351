/-
**Adding replies: `ReplyMsg` is a monoid.**

`+` puts three blank lines between two non-empty texts and unites the tags. `ReplyMsg::new()` is
neutral on both sides and `+` is associative, so the way a command groups the replies it adds
does not change what it sends.

* `joinMono` — the text of a sum from the two texts; `joinMono_assoc`: an empty text drops out
  on either side, and three non-empty ones get a separator between each two.
* `instance : AddMonoid ReplyMsg`, with `ReplyMsg.new` as zero.
* `monoMsg_sum` — **the text of a sum of replies is their non-empty texts, in order, joined by
  `"\n\n\n\n"`**; `tags_sum` — its tags are the union of theirs.
-/

import ChorePlanner.Model.Reply
import Mathlib.Algebra.BigOperators.Group.List.Basic

namespace ChorePlanner

namespace ReplyMsg

attribute [ext] ReplyMsg

/-! ### The texts -/

/-- The separator `+=` puts between two non-empty texts. -/
def separator : String := "\n\n\n\n"

/-- The text `+=` leaves: `rhs` after `self`, with the separator when both are non-empty. -/
def joinMono (self rhs : String) : String :=
  (if !self.isEmpty && !rhs.isEmpty then self ++ separator else self) ++ rhs

variable {x y z : String}

@[simp] theorem joinMono_empty_left : joinMono "" y = y := by
  simp [joinMono, String.empty_append]

@[simp] theorem joinMono_empty_right : joinMono x "" = x := by
  simp [joinMono, String.append_empty]

theorem joinMono_of_ne (left : x ≠ "") (right : y ≠ "") : joinMono x y = x ++ separator ++ y := by
  simp [joinMono, String.isEmpty_eq_false_iff.mpr left, String.isEmpty_eq_false_iff.mpr right]

theorem joinMono_ne_empty (left : x ≠ "") (right : y ≠ "") : joinMono x y ≠ "" := by
  rw [joinMono_of_ne left right, Ne, String.append_eq_empty_iff, String.append_eq_empty_iff]
  exact fun empty => left empty.1.1

theorem joinMono_assoc (x y z : String) : joinMono (joinMono x y) z = joinMono x (joinMono y z) := by
  -- an empty text drops out on either side
  by_cases left : x = ""
  · simp [left]
  by_cases middle : y = ""
  · simp [middle]
  by_cases right : z = ""
  · simp [right]
  rw [joinMono_of_ne (joinMono_ne_empty left middle) right, joinMono_of_ne left middle,
    joinMono_of_ne left (joinMono_ne_empty middle right), joinMono_of_ne middle right]
  simp only [String.append_assoc]

/-- A list of texts that starts with a non-empty one joins to a non-empty text. -/
theorem intercalate_ne_empty (first : x ≠ "") (rest : List String) :
    separator.intercalate (x :: rest) ≠ "" := by
  cases rest with
  | nil => rwa [String.intercalate_singleton]
  | cons y rest =>
    rw [String.intercalate_cons_cons, Ne, String.append_eq_empty_iff, String.append_eq_empty_iff]
    exact fun empty => first empty.1.1

/-- Adding a text in front of joined non-empty texts joins it in front of them, unless it is
empty. -/
theorem joinMono_intercalate (x : String) {texts : List String} (nonEmpty : ∀ t ∈ texts, t ≠ "") :
    joinMono x (separator.intercalate texts) =
      separator.intercalate (if (x != "") = true then x :: texts else texts) := by
  by_cases empty : x = ""
  · simp [empty]
  rw [if_pos (bne_iff_ne.mpr empty)]
  cases texts with
  | nil => simp
  | cons first rest =>
    rw [joinMono_of_ne empty (intercalate_ne_empty (nonEmpty first (List.mem_cons_self ..)) rest),
      String.intercalate_cons_of_ne_nil (List.cons_ne_nil _ _)]

/-! ### The monoid -/

variable {a b : ReplyMsg}

@[simp] theorem monoMsg_add : (a + b).monoMsg = joinMono a.monoMsg b.monoMsg := rfl

@[simp] theorem tags_add : (a + b).tags = a.tags ∪ b.tags := rfl

instance : Zero ReplyMsg := ⟨new⟩

@[simp] theorem monoMsg_zero : (0 : ReplyMsg).monoMsg = "" := rfl

@[simp] theorem tags_zero : (0 : ReplyMsg).tags = ∅ := rfl

instance : AddMonoid ReplyMsg where
  add_assoc a b c := by
    ext1
    · simp only [monoMsg_add, joinMono_assoc]
    · simp only [tags_add, Finset.union_assoc]
  zero_add a := by ext1 <;> simp
  add_zero a := by ext1 <;> simp
  nsmul := nsmulRec

/-- **The text of a sum of replies is their non-empty texts, in order, joined by three blank
lines; its tags are the union of theirs.** -/
theorem monoMsg_sum (replies : List ReplyMsg) :
    replies.sum.monoMsg = separator.intercalate ((replies.map (·.monoMsg)).filter (· != "")) ∧
      replies.sum.tags = (replies.map (·.tags)).foldr (· ∪ ·) ∅ := by
  induction replies with
  | nil => exact ⟨rfl, rfl⟩
  | cons reply replies ih =>
    obtain ⟨texts, tags⟩ := ih
    refine ⟨?_, by simp [tags]⟩
    have nonEmpty : ∀ t ∈ (replies.map (·.monoMsg)).filter (· != ""), t ≠ "" :=
      fun t member => bne_iff_ne.mp (List.mem_filter.mp member).2
    rw [List.sum_cons, monoMsg_add, texts, joinMono_intercalate _ nonEmpty, List.map_cons,
      List.filter_cons]

end ReplyMsg

end ChorePlanner
