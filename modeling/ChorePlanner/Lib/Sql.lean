/-
**Bag semantics of the SQL the planner's queries are written in.**

A table is a list of rows and a query result is a list too: rows keep their multiplicity, which is
what a `JOIN` against a table with several matching rows produces. The module gives the three
pieces of SQLite semantics the planner's views and queries rest on, for any row types.

* `leftJoin` — `L LEFT JOIN R ON c`: every left row once with each matching right row, or once
  with `NULL` when nothing matches. `mem_leftJoin_some` and `mem_leftJoin_none` are its two
  membership laws; the second is the anti-join idiom `... WHERE R.key IS NULL`.
* `sub`, `mul`, `div`, `sum`, `coalesce` — arithmetic on nullable numbers: `NULL` propagates,
  `x / 0` is `NULL`, `SUM` skips `NULL`s and is `NULL` on no values, `COALESCE` replaces `NULL`.
  `coalesce_sum` turns `COALESCE(SUM(e), 0)` into the sum of the non-`NULL` values.
* `covers` — `start <= w AND (stop IS NULL OR stop > w)`: the half-open span `[start, stop)` with
  an optional end, and `overlaps`, the test two such spans are compared with.
* `update`, `nextRowid` — `UPDATE T SET ... WHERE p` and the rowid `INSERT` gives a row, with the
  laws that keep a key column unique: `nodup_map_append`, `nodup_map_filter`, `map_update`; and
  `mem_update_unique`, the rows after an `UPDATE` that chooses one row, such as the row of one key
  (`mem_update_key`).
* `length_filter_le_one`, `length_flatMap_le_one` — a selection, and a join, that can match only
  one row returns at most one.
-/

import Mathlib.Algebra.BigOperators.Group.List.Basic
import Mathlib.Algebra.Order.Field.Rat
import Mathlib.Data.List.Nodup

namespace Sql

variable {α β : Type}

/-! ### `LEFT JOIN` -/

/-- One left row against the right rows it matched: paired with each, or with `NULL` when there
is none. -/
def pad (a : α) : List β → List (α × Option β)
  | [] => [(a, none)]
  | b :: bs => (b :: bs).map fun b => (a, some b)

/-- `xs LEFT JOIN ys ON on`: each left row with every right row it matches, in the right table's
order, or with `NULL` when it matches none. -/
def leftJoin (xs : List α) (ys : List β) (on : α → β → Bool) : List (α × Option β) :=
  xs.flatMap fun a => pad a (ys.filter (on a))

theorem mem_pad_some {a a' : α} {b : β} {bs : List β} :
    (a', some b) ∈ pad a bs ↔ a' = a ∧ b ∈ bs := by
  cases bs with
  | nil => simp [pad]
  | cons c cs =>
    simp only [pad, List.mem_map, Prod.mk.injEq, Option.some.injEq]
    constructor
    · rintro ⟨b', member, rfl, rfl⟩
      exact ⟨rfl, member⟩
    · rintro ⟨rfl, member⟩
      exact ⟨b, member, rfl, rfl⟩

theorem mem_pad_none {a a' : α} {bs : List β} : (a', none) ∈ pad a bs ↔ a' = a ∧ bs = [] := by
  cases bs with
  | nil => simp [pad]
  | cons c cs => simp [pad]

theorem mem_leftJoin_some {xs : List α} {ys : List β} {on : α → β → Bool} {a : α} {b : β} :
    (a, some b) ∈ leftJoin xs ys on ↔ a ∈ xs ∧ b ∈ ys ∧ on a b = true := by
  simp only [leftJoin, List.mem_flatMap, mem_pad_some, List.mem_filter]
  constructor
  · rintro ⟨a', member, rfl, right, matched⟩
    exact ⟨member, right, matched⟩
  · rintro ⟨member, right, matched⟩
    exact ⟨a, member, rfl, right, matched⟩

/-- **The anti-join idiom**: a left row is paired with `NULL` exactly when no right row
matches it. -/
theorem mem_leftJoin_none {xs : List α} {ys : List β} {on : α → β → Bool} {a : α} :
    (a, none) ∈ leftJoin xs ys on ↔ a ∈ xs ∧ ∀ b ∈ ys, on a b = false := by
  simp only [leftJoin, List.mem_flatMap, mem_pad_none, List.filter_eq_nil_iff,
    Bool.not_eq_true]
  constructor
  · rintro ⟨a', member, rfl, none⟩
    exact ⟨member, none⟩
  · rintro ⟨member, none⟩
    exact ⟨a, member, rfl, none⟩

theorem fst_of_mem_leftJoin {xs : List α} {ys : List β} {on : α → β → Bool} {row : α × Option β}
    (member : row ∈ leftJoin xs ys on) : row.1 ∈ xs := by
  obtain ⟨a, b⟩ := row
  cases b with
  | none => exact (mem_leftJoin_none.mp member).1
  | some b => exact (mem_leftJoin_some.mp member).1

/-- A left row paired with `NULL` appears once: over a left table whose key column is unique, the
rows of the anti-join keep it unique. -/
theorem nodup_map_leftJoin_none {γ : Type} {key : α → γ} {xs : List α} {ys : List β}
    {on : α → β → Bool} {p : α × Option β → Bool} (only_none : ∀ row, p row = true → row.2 = none)
    (nodup : (xs.map key).Nodup) :
    (((leftJoin xs ys on).filter p).map fun row => key row.1).Nodup := by
  induction xs with
  | nil => simp [leftJoin]
  | cons a xs ih =>
    rw [List.map_cons, List.nodup_cons] at nodup
    -- the rows of `a` that pass `p` are at most `(a, none)`
    have padded : ((pad a (ys.filter (on a))).filter p).Sublist [(a, none)] := by
      cases ys.filter (on a) with
      | nil => exact List.filter_sublist
      | cons b bs =>
        rw [List.filter_eq_nil_iff.mpr fun row member passes => ?_]
        · exact List.nil_sublist _
        · obtain ⟨b', -, rfl⟩ := List.mem_map.mp member
          cases only_none _ passes
    have rest : ∀ row ∈ (leftJoin xs ys on).filter p, key row.1 ≠ key a := fun row member same =>
      nodup.1 (same ▸ List.mem_map_of_mem (fst_of_mem_leftJoin (List.mem_of_mem_filter member)))
    simp only [leftJoin, List.flatMap_cons, List.filter_append, List.map_append] at ih ⊢
    refine List.Nodup.append ((padded.map _).nodup (List.nodup_singleton _)) (ih nodup.2) ?_
    intro k first second
    obtain ⟨row, member, rfl⟩ := List.mem_map.mp first
    obtain ⟨row', member', same⟩ := List.mem_map.mp second
    have is_a : row = (a, none) := List.mem_singleton.mp (padded.subset member)
    subst is_a
    exact rest row' (by simpa [leftJoin] using member') same

/-- On a table whose key column is unique, selecting one key gives no row or exactly one. -/
theorem filter_key_eq {key : α → β} [BEq β] [LawfulBEq β] {xs : List α} (nodup : (xs.map key).Nodup)
    (k : β) :
    xs.filter (fun x => key x == k) = [] ∨ ∃ x ∈ xs, key x = k ∧ xs.filter (fun x => key x == k) = [x] := by
  induction xs with
  | nil => exact .inl rfl
  | cons y ys ih =>
    rw [List.map_cons, List.nodup_cons] at nodup
    by_cases hit : key y = k
    · -- no other row has the key
      have others : ys.filter (fun x => key x == k) = [] :=
        List.filter_eq_nil_iff.mpr fun x member same =>
          nodup.1 (hit ▸ (beq_iff_eq.mp same) ▸ List.mem_map_of_mem member)
      exact .inr ⟨y, List.mem_cons_self, hit, by simp [hit, others]⟩
    · rw [List.filter_cons_of_neg (by simpa using hit)]
      rcases ih nodup.2 with none | ⟨x, member, found, only⟩
      · exact .inl none
      · exact .inr ⟨x, List.mem_cons_of_mem _ member, found, only⟩

/-- Deleting by the key of one row of a table whose keys are unique deletes that row alone. -/
theorem filter_key_ne {key : α → β} [BEq β] [LawfulBEq β] {xs ys : List α} {x : α}
    (nodup : ((xs ++ x :: ys).map key).Nodup) :
    (xs ++ x :: ys).filter (fun y => key y != key x) = xs ++ ys := by
  rw [List.map_append, List.map_cons, List.nodup_middle, List.nodup_cons, ← List.map_append] at nodup
  have others : ∀ y ∈ xs ++ ys, (key y != key x) = true := fun y member => by
    have differs : key y ≠ key x := fun same => nodup.1 (same ▸ List.mem_map_of_mem member)
    simpa using differs
  rw [List.filter_append, List.filter_cons_of_neg (by simp), ← List.filter_append,
    List.filter_eq_self.mpr others]

/-! ### Queries that return at most one row -/

/-- A selection from a table without duplicate rows returns at most one row when any two rows it
selects are equal. -/
theorem length_filter_le_one {xs : List α} {p : α → Bool} (nodup : xs.Nodup)
    (unique : ∀ x ∈ xs, ∀ y ∈ xs, p x = true → p y = true → x = y) : (xs.filter p).length ≤ 1 := by
  rcases selected : xs.filter p with _ | ⟨x, _ | ⟨y, rest⟩⟩
  · simp
  · simp
  · -- two selected rows would be equal, and distinct
    have distinct : (x :: y :: rest).Nodup := selected ▸ nodup.filter p
    have first := List.mem_filter.mp (selected ▸ List.mem_cons_self : x ∈ xs.filter p)
    have second := List.mem_filter.mp
      (selected ▸ List.mem_cons_of_mem x List.mem_cons_self : y ∈ xs.filter p)
    have same : x = y := unique x first.1 y second.1 first.2 second.2
    exact absurd (same ▸ List.mem_cons_self) (List.nodup_cons.mp distinct).1

/-- A join returns at most one row when its first table gives at most one row and each of these
joins at most one. -/
theorem length_flatMap_le_one {xs : List α} {f : α → List β} (first : xs.length ≤ 1)
    (each : ∀ x ∈ xs, (f x).length ≤ 1) : (xs.flatMap f).length ≤ 1 := by
  rcases xs with _ | ⟨x, _ | ⟨y, rest⟩⟩
  · simp
  · simpa using each x List.mem_cons_self
  · simp at first

/-! ### Nullable arithmetic -/

/-- `x - y`; `NULL` if either side is. -/
def sub (x y : Option ℚ) : Option ℚ := x.bind fun a => y.map fun b => a - b

/-- `x * y`; `NULL` if either side is. -/
def mul (x y : Option ℚ) : Option ℚ := x.bind fun a => y.map fun b => a * b

/-- `x / y`; `NULL` if either side is, and SQLite's `NULL` for a division by zero. -/
def div (x y : Option ℚ) : Option ℚ :=
  x.bind fun a => y.bind fun b => if b = 0 then none else some (a / b)

/-- `SUM(e)`: the sum of the non-`NULL` values, `NULL` when there is none. -/
def sum (xs : List (Option ℚ)) : Option ℚ :=
  match xs.filterMap id with
  | [] => none
  | v :: vs => some (v :: vs).sum

/-- `COALESCE(x, d)`. -/
def coalesce (x : Option ℚ) (d : ℚ) : ℚ := x.getD d

@[simp] theorem sub_some (a b : ℚ) : sub (some a) (some b) = some (a - b) := rfl

@[simp] theorem mul_some (a b : ℚ) : mul (some a) (some b) = some (a * b) := rfl

@[simp] theorem sub_none (y : Option ℚ) : sub none y = none := rfl

@[simp] theorem sub_none_right (x : Option ℚ) : sub x none = none := by
  cases x <;> rfl

@[simp] theorem div_zero (x : Option ℚ) : div x (some 0) = none := by
  cases x <;> simp [div]

theorem div_some {a b : ℚ} (nonzero : b ≠ 0) : div (some a) (some b) = some (a / b) := by
  simp [div, nonzero]

/-- **`COALESCE(SUM(e), 0)` is the sum of the non-`NULL` values.** -/
theorem coalesce_sum (xs : List (Option ℚ)) : coalesce (sum xs) 0 = (xs.filterMap id).sum := by
  unfold coalesce sum
  split
  · rename_i empty
    rw [empty]
    rfl
  · rename_i v vs values
    rw [values]
    rfl

/-! ### Spans with an optional end -/

/-- `start <= w AND (stop IS NULL OR stop > w)`: the week `w` lies in `[start, stop)`. -/
def covers (start : Int) (stop : Option Int) (w : Int) : Bool :=
  decide (start ≤ w) && match stop with
    | none => true
    | some e => decide (w < e)

/-- `(A.stop IS NULL OR A.stop > B.start) AND (B.stop IS NULL OR A.start < B.stop)`: the test
two spans `A = [start, stop)` and `B` are compared with. -/
def overlaps (a b : Int × Option Int) : Bool :=
  (match a.2 with
    | none => true
    | some e => decide (b.1 < e)) &&
  (match b.2 with
    | none => true
    | some e => decide (a.1 < e))

theorem covers_iff {start w : Int} {stop : Option Int} :
    covers start stop w = true ↔ start ≤ w ∧ ∀ e ∈ stop, w < e := by
  unfold covers
  cases stop <;> simp

@[simp] theorem covers_none {start w : Int} : covers start none w = (decide (start ≤ w)) := by
  simp [covers]

/-- A span covering a week covers every week from its start up to it. -/
theorem covers_of_le {start w v : Int} {stop : Option Int} (started : start ≤ w) (later : w ≤ v)
    (covering : covers start stop v = true) : covers start stop w = true := by
  rw [covers_iff] at covering ⊢
  exact ⟨started, fun e member => lt_of_le_of_lt later (covering.2 e member)⟩

/-- Ending a span at a week it covers only shrinks it. -/
theorem covers_of_end {start week v : Int} {stop : Option Int} (covering : covers start stop week = true)
    (ended : covers start (some week) v = true) : covers start stop v = true := by
  rw [covers_iff] at covering ended ⊢
  exact ⟨ended.1, fun e member => lt_trans (ended.2 week rfl) (covering.2 e member)⟩

/-! ### Keys under `INSERT`, `DELETE` and `UPDATE` -/

/-- `UPDATE T SET ... WHERE p`: the rows satisfying `p` are replaced by `g` of themselves. -/
def update (xs : List α) (p : α → Bool) (g : α → α) : List α :=
  xs.map fun x => if p x then g x else x

/-- The rowid SQLite gives an inserted row when none is given: one more than the largest. -/
def nextRowid (ids : List Nat) : Nat := ids.foldr max 0 + 1

theorem le_foldr_max {γ : Type} [LinearOrder γ] {ids : List γ} {id init : γ} (member : id ∈ ids) :
    id ≤ ids.foldr max init := by
  induction ids with
  | nil => cases member
  | cons head tail ih =>
    rw [List.foldr_cons]
    rcases List.mem_cons.mp member with rfl | member
    · exact le_max_left _ _
    · exact le_trans (ih member) (le_max_right _ _)

theorem nextRowid_not_mem (ids : List Nat) : nextRowid ids ∉ ids := by
  intro member
  have bound : nextRowid ids ≤ ids.foldr max 0 := le_foldr_max member
  unfold nextRowid at bound
  omega

/-- An `UPDATE` that leaves a column alone leaves that column alone. -/
theorem map_update {f : α → β} {xs : List α} {p : α → Bool} {g : α → α}
    (keep : ∀ x, f (g x) = f x) : (update xs p g).map f = xs.map f := by
  unfold update
  rw [List.map_map]
  apply List.map_congr_left
  intro x _
  by_cases chosen : p x = true
  · simp [chosen, keep]
  · simp [chosen]

theorem mem_update {xs : List α} {p : α → Bool} {g : α → α} {y : α} :
    y ∈ update xs p g ↔ ∃ x ∈ xs, (if p x then g x else x) = y := by
  unfold update
  rw [List.mem_map]

/-- An `INSERT` of a fresh key keeps the key column unique. -/
theorem nodup_map_append {f : α → β} {xs : List α} {a : α} (nodup : (xs.map f).Nodup)
    (fresh : f a ∉ xs.map f) : ((xs ++ [a]).map f).Nodup := by
  rw [List.map_append, List.map_singleton]
  exact List.Nodup.append nodup (List.nodup_singleton _)
    (List.disjoint_singleton.mpr fresh)

/-- A `DELETE` keeps the key column unique. -/
theorem nodup_map_filter {f : α → β} {xs : List α} (p : α → Bool) (nodup : (xs.map f).Nodup) :
    ((xs.filter p).map f).Nodup :=
  ((List.filter_sublist : (xs.filter p).Sublist xs).map f).nodup nodup

theorem mem_map_of_mem_filter {f : α → β} {xs : List α} {p : α → Bool} {b : β}
    (member : b ∈ (xs.filter p).map f) : b ∈ xs.map f :=
  ((List.filter_sublist : (xs.filter p).Sublist xs).map f).subset member

/-- An `UPDATE` of rows that fail a test, leaving the tested column alone, keeps the rows that pass
it. -/
theorem filter_update_of_not {xs : List α} {p q : α → Bool} {g : α → α}
    (disjoint : ∀ x ∈ xs, p x = true → q x = false) (keep : ∀ x, q (g x) = q x) :
    (update xs p g).filter q = xs.filter q := by
  induction xs with
  | nil => rfl
  | cons x xs ih =>
    have rest := ih fun y member => disjoint y (List.mem_cons_of_mem x member)
    show ((if p x then g x else x) :: update xs p g).filter q = (x :: xs).filter q
    by_cases chosen : p x = true
    · have failed := disjoint x List.mem_cons_self chosen
      rw [if_pos chosen, List.filter_cons_of_neg (by rw [keep, failed]; simp),
        List.filter_cons_of_neg (by simp [failed]), rest]
    · rw [if_neg chosen, List.filter_cons, List.filter_cons, rest]

/-- The image of a row under an `UPDATE`: changed when the row is chosen, itself otherwise. -/
theorem update_image (p : α → Bool) (g : α → α) (x : α) :
    (p x = true ∧ (if p x then g x else x) = g x) ∨ (p x = false ∧ (if p x then g x else x) = x) := by
  cases chosen : p x
  · exact .inr ⟨rfl, rfl⟩
  · exact .inl ⟨rfl, rfl⟩

/-- An `UPDATE` whose `WHERE` holds of one row `x` only: that row is replaced, and the rows it
does not choose stay. -/
theorem mem_update_unique {xs : List α} {p : α → Bool} {x : α} (member : x ∈ xs) (chosen : p x = true)
    (only : ∀ z ∈ xs, p z = true → z = x) {g : α → α} {y : α} :
    y ∈ update xs p g ↔ y = g x ∨ (y ∈ xs ∧ p y = false) := by
  constructor
  · intro updated
    obtain ⟨z, z_member, rfl⟩ := mem_update.mp updated
    rcases update_image p g z with ⟨z_chosen, image⟩ | ⟨unchosen, image⟩ <;> rw [image]
    · exact .inl (congrArg g (only z z_member z_chosen))
    · exact .inr ⟨z_member, unchosen⟩
  · rintro (rfl | ⟨y_member, unchosen⟩)
    · exact mem_update.mpr ⟨x, member, by rw [if_pos chosen]⟩
    · exact mem_update.mpr ⟨y, y_member, by rw [if_neg (by simp [unchosen])]⟩

/-- An `UPDATE` of the row of one key, in a table whose key is unique: that row is replaced, and
the rows of every other key stay. -/
theorem mem_update_key [BEq β] [LawfulBEq β] (key : α → β) {xs : List α} (nodup : (xs.map key).Nodup)
    {x : α} (member : x ∈ xs) {g : α → α} {y : α} :
    y ∈ update xs (fun z => key z == key x) g ↔ y = g x ∨ (y ∈ xs ∧ key y ≠ key x) := by
  have only : ∀ z ∈ xs, (key z == key x) = true → z = x := fun z z_member chosen =>
    List.inj_on_of_nodup_map nodup z_member member (by simpa using chosen)
  rw [mem_update_unique member (by simp) only]
  simp only [beq_eq_false_iff_ne]

/-- An `UPDATE` that leaves a nullable column alone leaves its values alone. -/
theorem filterMap_update {f : α → Option β} {xs : List α} {p : α → Bool} {g : α → α}
    (keep : ∀ x, f (g x) = f x) : (update xs p g).filterMap f = xs.filterMap f := by
  unfold update
  rw [List.filterMap_map]
  refine List.filterMap_congr fun x _ => ?_
  by_cases chosen : p x = true <;> simp [chosen, keep]

/-- Two lists with the same rows among those with a value in a column, unique in both, list the
same values there. -/
theorem filterMap_perm {f : α → Option β} {xs ys : List α} (nodup_xs : (xs.filterMap f).Nodup)
    (nodup_ys : (ys.filterMap f).Nodup) (forth : ∀ x ∈ xs, (f x).isSome → x ∈ ys)
    (back : ∀ y ∈ ys, (f y).isSome → y ∈ xs) : (xs.filterMap f).Perm (ys.filterMap f) := by
  refine (List.perm_ext_iff_of_nodup nodup_xs nodup_ys).mpr fun b => ?_
  simp only [List.mem_filterMap]
  constructor
  · rintro ⟨x, member, found⟩
    exact ⟨x, forth x member (by simp [found]), found⟩
  · rintro ⟨y, member, found⟩
    exact ⟨y, back y member (by simp [found]), found⟩

/-- In a column unique where it has a value, one row has each value. -/
theorem eq_of_filterMap_nodup {f : α → Option β} {xs : List α} (nodup : (xs.filterMap f).Nodup)
    {x y : α} (x_member : x ∈ xs) (y_member : y ∈ xs) {b : β} (fx : f x = some b)
    (fy : f y = some b) : x = y := by
  induction xs with
  | nil => cases x_member
  | cons z zs ih =>
    have tail := ((List.sublist_cons_self z zs).filterMap f).nodup nodup
    -- the head's value is in no row of the tail
    have fresh : ∀ w ∈ zs, f z = some b → f w = some b → False := fun w member fz fw => by
      rw [List.filterMap_cons_some fz] at nodup
      exact (List.nodup_cons.mp nodup).1 (List.mem_filterMap.mpr ⟨w, member, fw⟩)
    rcases List.mem_cons.mp x_member with rfl | x_tail <;>
      rcases List.mem_cons.mp y_member with rfl | y_tail
    · rfl
    · exact (fresh y y_tail fx fy).elim
    · exact (fresh x x_tail fy fx).elim
    · exact ih tail x_tail y_tail

/-- An `UPDATE` of no chosen row changes nothing. -/
theorem update_of_unchosen {xs : List α} {p : α → Bool} {g : α → α}
    (unchosen : ∀ x ∈ xs, p x = false) : update xs p g = xs := by
  unfold update
  rw [List.map_congr_left (g := id) fun x member => by simp [unchosen x member], List.map_id]

/-- An `UPDATE` of at most one row that sets a fresh value in a nullable column unique where it has
a value keeps it unique. -/
theorem nodup_filterMap_update {f : α → Option β} {p : α → Bool} {g : α → α} {b : β}
    (set : ∀ x, f (g x) = some b) :
    ∀ {xs : List α}, (xs.filterMap f).Nodup → b ∉ xs.filterMap f → xs.countP p ≤ 1 →
      ((update xs p g).filterMap f).Nodup
  | [], _, _, _ => List.nodup_nil
  | x :: xs, nodup, fresh, one => by
    have tail_nodup := ((List.sublist_cons_self x xs).filterMap f).nodup nodup
    have tail_fresh : b ∉ xs.filterMap f :=
      fun member => fresh (((List.sublist_cons_self x xs).filterMap f).subset member)
    show (((if p x then g x else x) :: update xs p g).filterMap f).Nodup
    by_cases chosen : p x = true
    · -- no other row is chosen, so the rest is unchanged
      rw [List.countP_cons_of_pos chosen] at one
      have rest : update xs p g = xs := update_of_unchosen fun y member => by
        have none_chosen : xs.countP p = 0 := by omega
        simpa using List.countP_eq_zero.mp none_chosen y member
      rw [if_pos chosen, List.filterMap_cons_some (set x), rest]
      exact List.nodup_cons.mpr ⟨tail_fresh, tail_nodup⟩
    · rw [List.countP_cons_of_neg chosen] at one
      have ih := nodup_filterMap_update set tail_nodup tail_fresh one
      rw [if_neg chosen]
      cases fx : f x with
      | none =>
        rw [List.filterMap_cons_none fx]
        exact ih
      | some c =>
        rw [List.filterMap_cons_some fx]
        refine List.nodup_cons.mpr ⟨fun member => ?_, ih⟩
        -- the value of `x` is neither the new value nor that of another row
        obtain ⟨y, y_member, fy⟩ := List.mem_filterMap.mp member
        obtain ⟨z, z_member, rfl⟩ := mem_update.mp y_member
        rcases update_image p g z with ⟨-, image⟩ | ⟨-, image⟩ <;> rw [image] at fy
        · rw [set z, Option.some.injEq] at fy
          subst fy
          exact fresh (List.mem_filterMap.mpr ⟨x, List.mem_cons_self, fx⟩)
        · rw [List.filterMap_cons_some fx] at nodup
          exact (List.nodup_cons.mp nodup).1 (List.mem_filterMap.mpr ⟨z, z_member, fy⟩)

end Sql
