/-
**`paginate_str` loses nothing but over-long lines.**

The loop keeps one invariant, `Paged`, over the lines read so far: every page fits, the pages
joined with newlines are the lines that fit joined with newlines, there is a page as soon as one
line fits, and every page is full: the first line of the page after it would not have fitted on
it.

* `firstLine` — the text of a page before its first newline; `firstLine_append_newline` — a
  page keeps its first line when lines are appended to it.
* `Paged.appendLine`, `Paged.openPage` — the two ways a line lands on the pages keep `Paged`;
  `Paged.step` — so does every turn of the loop, for a line without a newline.
* `paged_foldl` — the whole loop from no page.
* `paginateStr_spec` — every page fits, the pages join to the lines that fit, and the packing is
  greedy.
-/

import ChorePlanner.Model.Paginate
import Mathlib.Data.List.Chain
import Mathlib.Data.List.Induction
import Mathlib.Data.List.Infix

namespace ChorePlanner

/-! ### Lines -/

theorem splitLines_ne_nil (text : String) : splitLines text ≠ [] := by
  rw [splitLines, Ne, List.map_eq_nil_iff, List.splitOn_eq_splitOnP]
  exact List.splitOnP_ne_nil _ text.toList

/-- A newline splits the text into the lines before it and the lines after it. -/
theorem splitLines_append_newline (before after : String) :
    splitLines (before.push '\n' ++ after) = splitLines before ++ splitLines after := by
  rw [splitLines, String.toList_append, String.toList_push, List.append_assoc, List.singleton_append,
    List.splitOn_eq_splitOnP, List.splitOnP_append_cons _ _ (by decide), List.map_append]
  rfl

theorem no_newline_of_mem_splitLines {text line : String} (member : line ∈ splitLines text) :
    '\n' ∉ line.toList := by
  obtain ⟨part, part_member, rfl⟩ := List.mem_map.mp member
  rw [List.splitOn_eq_splitOnP] at part_member
  rw [String.toList_ofList]
  intro newline
  simpa using List.not_of_mem_splitOnP part_member '\n' newline

theorem splitLines_of_no_newline {line : String} (single : '\n' ∉ line.toList) :
    splitLines line = [line] := by
  rw [splitLines, List.splitOn_eq_splitOnP, List.splitOnP_eq_singleton, List.map_singleton,
    String.ofList_toList]
  intro c member
  simpa using fun newline : c = '\n' => single (newline ▸ member)

/-- The first line of a page: the first part of `page.split('\n')`. -/
def firstLine (page : String) : String := ((splitLines page).head?).getD ""

theorem firstLine_append_newline (before after : String) :
    firstLine (before.push '\n' ++ after) = firstLine before := by
  rw [firstLine, splitLines_append_newline, List.head?_append_of_ne_nil _ (splitLines_ne_nil before)]
  rfl

theorem firstLine_of_no_newline {line : String} (single : '\n' ∉ line.toList) : firstLine line = line := by
  rw [firstLine, splitLines_of_no_newline single]
  rfl

/-! ### The loop -/

section Loop

variable (messageLimit : Nat)

/-- What the pages are after some lines: each fits; joined with newlines they are the lines that
fit alone, joined with newlines; there is a page once a line fits; and each page is full, the
first line of the next one not fitting after it. -/
structure Paged (lines pages : List String) : Prop where
  fits : ∀ page ∈ pages, page.utf8ByteSize ≤ messageLimit
  joined : "\n".intercalate pages = "\n".intercalate (lines.filter (·.utf8ByteSize ≤ messageLimit))
  empty_iff : pages = [] ↔ lines.filter (·.utf8ByteSize ≤ messageLimit) = []
  greedy : pages.IsChain fun page next => messageLimit < page.utf8ByteSize + 1 + (firstLine next).utf8ByteSize

variable {messageLimit}

theorem paged_nil : Paged messageLimit [] [] where
  fits _ member := absurd member List.not_mem_nil
  joined := rfl
  empty_iff := Iff.rfl
  greedy := List.IsChain.nil

/-- A line that fits alone is kept by the filter. -/
theorem filter_append_fitting (lines : List String) {line : String}
    (fit : line.utf8ByteSize ≤ messageLimit) :
    (lines ++ [line]).filter (·.utf8ByteSize ≤ messageLimit) =
      lines.filter (·.utf8ByteSize ≤ messageLimit) ++ [line] := by
  simp [List.filter_append, fit]

variable {lines pages : List String} (paged : Paged messageLimit lines pages) {line : String}
include paged

/-- **Appending a line to the last page** keeps `Paged`: the page grows by the newline and the
line, and keeps its first line. -/
theorem Paged.appendLine {last : String} (is_last : pages.getLast? = some last)
    (fit : last.utf8ByteSize + 1 + line.utf8ByteSize ≤ messageLimit) :
    Paged messageLimit (lines ++ [line]) (pages.dropLast ++ [last.push '\n' ++ line]) := by
  have pages_eq : pages.dropLast ++ [last] = pages := List.dropLast_append_getLast? last is_last
  have filtered := filter_append_fitting lines (show line.utf8ByteSize ≤ messageLimit by omega)
  have kept : lines.filter (·.utf8ByteSize ≤ messageLimit) ≠ [] := fun empty =>
    List.cons_ne_nil last [] (by simpa [paged.empty_iff.mpr empty] using is_last.symm)
  have size : (last.push '\n' ++ line).utf8ByteSize = last.utf8ByteSize + 1 + line.utf8ByteSize := by
    rw [String.utf8ByteSize_append, String.utf8ByteSize_push]
    rfl
  refine ⟨?_, ?_, ?_, ?_⟩
  · intro page member
    rcases List.mem_append.mp member with member | member
    · exact paged.fits page (List.mem_of_mem_dropLast member)
    · rw [List.mem_singleton.mp member, size]
      exact fit
  · rw [filtered, String.intercalate_append_singleton kept, ← paged.joined, String.push_eq_append,
      show String.singleton '\n' = "\n" from rfl, String.intercalate_append_last, pages_eq]
  · simp [filtered]
  · -- the grown page is still last, and keeps the first line its predecessor was compared with
    have greedy := paged.greedy
    rw [← pages_eq, List.isChain_append] at greedy
    rw [List.isChain_append]
    refine ⟨greedy.1, List.isChain_singleton _, fun previous previous_last next next_head => ?_⟩
    rw [List.head?_singleton, Option.mem_some_iff] at next_head
    rw [← next_head, firstLine_append_newline]
    exact greedy.2.2 previous previous_last last rfl

/-- **Opening a page** with a line without a newline keeps `Paged`, when the line does not fit
after the last page. -/
theorem Paged.openPage (single : '\n' ∉ line.toList)
    (full : ∀ last ∈ pages.getLast?, messageLimit < last.utf8ByteSize + 1 + line.utf8ByteSize) :
    Paged messageLimit (lines ++ [line]) (openPage messageLimit pages line) := by
  unfold ChorePlanner.openPage
  by_cases fit : line.utf8ByteSize ≤ messageLimit
  · rw [if_pos fit]
    have filtered := filter_append_fitting lines fit
    refine ⟨?_, ?_, ?_, ?_⟩
    · intro page member
      rcases List.mem_append.mp member with member | member
      · exact paged.fits page member
      · rw [List.mem_singleton.mp member]
        exact fit
    · rw [filtered]
      by_cases empty : pages = []
      · rw [empty, paged.empty_iff.mp empty]
      · have kept : lines.filter (·.utf8ByteSize ≤ messageLimit) ≠ [] := mt paged.empty_iff.mpr empty
        rw [String.intercalate_append_singleton empty, String.intercalate_append_singleton kept,
          paged.joined]
    · simp [filtered]
    · -- the new page opens with the line itself
      rw [List.isChain_append]
      refine ⟨paged.greedy, List.isChain_singleton _, fun last is_last next next_head => ?_⟩
      rw [List.head?_singleton, Option.mem_some_iff] at next_head
      rw [← next_head, firstLine_of_no_newline single]
      exact full last is_last
  · -- a line that fits nowhere is dropped
    rw [if_neg fit]
    have filtered : (lines ++ [line]).filter (·.utf8ByteSize ≤ messageLimit) =
        lines.filter (·.utf8ByteSize ≤ messageLimit) := by
      simp [List.filter_append, fit]
    exact ⟨paged.fits, filtered ▸ paged.joined, filtered ▸ paged.empty_iff, paged.greedy⟩

/-- **One turn of the loop keeps `Paged`**, for a line without a newline. -/
theorem Paged.step (single : '\n' ∉ line.toList) :
    Paged messageLimit (lines ++ [line]) (paginateStep messageLimit pages line) := by
  unfold paginateStep
  split
  · rename_i last is_last
    by_cases fit : last.utf8ByteSize + 1 + line.utf8ByteSize ≤ messageLimit
    · rw [if_pos fit]
      exact paged.appendLine is_last fit
    · rw [if_neg fit]
      refine paged.openPage single fun other other_last => ?_
      rw [is_last, Option.mem_some_iff] at other_last
      rw [← other_last]
      omega
  · rename_i no_last
    exact paged.openPage single fun other other_last => by simp [no_last] at other_last

omit paged in
/-- **The whole loop keeps `Paged`**, from no page, over lines without newlines. -/
theorem paged_foldl (lines : List String) (singles : ∀ line ∈ lines, '\n' ∉ line.toList) :
    Paged messageLimit lines (lines.foldl (paginateStep messageLimit) []) := by
  induction lines using List.reverseRecOn with
  | nil => exact paged_nil
  | append_singleton lines line ih =>
    have paged := ih fun line' member => singles line' (List.mem_append_left _ member)
    rw [List.foldl_append, List.foldl_cons, List.foldl_nil]
    exact paged.step (singles line (List.mem_append_right _ List.mem_cons_self))

end Loop

/-- **`paginate_str` loses nothing but over-long lines.** Every page is at most `message_limit`
bytes; the pages joined with newlines are the lines of the message that fit, joined with
newlines; and the packing is greedy: the first line of each page would not have fitted after the
page before it. -/
theorem paginateStr_spec (msg : String) (messageLimit : Nat) :
    (∀ page ∈ paginateStr msg messageLimit, page.utf8ByteSize ≤ messageLimit) ∧
      "\n".intercalate (paginateStr msg messageLimit) =
        "\n".intercalate ((splitLines msg).filter (·.utf8ByteSize ≤ messageLimit)) ∧
      (paginateStr msg messageLimit).IsChain fun page next =>
        messageLimit < page.utf8ByteSize + 1 + (firstLine next).utf8ByteSize := by
  have paged := @paged_foldl messageLimit (splitLines msg)
    fun _ member => no_newline_of_mem_splitLines member
  exact ⟨paged.fits, paged.joined, paged.greedy⟩

end ChorePlanner
