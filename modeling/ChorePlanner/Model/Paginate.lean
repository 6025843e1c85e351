/-
**Splitting a message into pages: `src/paginate.rs`.**

The bot sends a long reply as several messages, each at most `message_limit` bytes.

* `splitLines` — `msg.split('\n')`: the text between the newlines, with an empty line between
  two adjacent newlines and at either end.
* `paginateStep` — one turn of the loop of `paginate_str`: append the line to the last page when
  it fits there with its newline; else open a page with it when it fits alone (`openPage`); else
  drop it (the source prints an error to stderr, which is not modelled).
* `paginateStr` — `paginate_str`, the loop over the lines from no page.

Lengths are `str::len`, the length in bytes of the UTF-8 encoding: `String.utf8ByteSize`.
-/

import ChorePlanner.Lib.Text

namespace ChorePlanner

/-- `msg.split('\n')`. -/
def splitLines (msg : String) : List String :=
  (msg.toList.splitOn '\n').map String.ofList

/-- `if line.len() <= message_limit { paged_mono.push(line.to_string()) }`: open a page with the
line when it fits alone, else drop it. -/
def openPage (messageLimit : Nat) (pagedMono : List String) (line : String) : List String :=
  if line.utf8ByteSize ≤ messageLimit then pagedMono ++ [line] else pagedMono

/-- The body of `for line in lines`: `last_paged_mono.push('\n'); last_paged_mono.push_str(line)`
when `last_paged_mono.len() + 1 + line.len() <= message_limit`, else `openPage`. -/
def paginateStep (messageLimit : Nat) (pagedMono : List String) (line : String) : List String :=
  match pagedMono.getLast? with
  | some lastPagedMono =>
    if lastPagedMono.utf8ByteSize + 1 + line.utf8ByteSize ≤ messageLimit then
      pagedMono.dropLast ++ [lastPagedMono.push '\n' ++ line]
    else openPage messageLimit pagedMono line
  | none => openPage messageLimit pagedMono line

/-- `paginate_str(msg, message_limit)`. -/
def paginateStr (msg : String) (messageLimit : Nat) : List String :=
  (splitLines msg).foldl (paginateStep messageLimit) []

end ChorePlanner
