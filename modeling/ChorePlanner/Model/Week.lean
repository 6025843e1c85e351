/-
**Weeks: `src/week.rs`.**

A `Week` is its `db_week`, the number of weeks since the Monday of ISO week 1 of 1970; dates are
days counted from 1970-01-01.

* `Week.ofDate` — `impl From<NaiveDate> for Week`: `(date - epoch_week).num_weeks()`, which
  truncates toward zero.
* `Week.new` — the Monday of an ISO week and year, through `chrono`'s calendar.
* `Week.isoWeek` — `Week::iso_week`, the ISO week and year of the week's Monday.
* `Week.display` — `impl Display for Week`.
-/

import ChorePlanner.Model.Schema

namespace ChorePlanner

namespace Week

/-- `epoch_week`, `NaiveDate::from_isoywd_opt(1970, 1, Weekday::Mon)`: 1969-12-29. -/
def epochWeek : Int := -3

/-- `Week::from(date)`. -/
def ofDate (date : Int) : Int := (date - epochWeek).tdiv 7

variable {R : Type} (env : Env R)

/-- `Week::new(week, year)`. -/
def new (week : Nat) (year : Int) : Except Error Int :=
  match env.fromIsoywd year week with
  | some date => .ok (ofDate date)
  | none => .error (.bail "invalid week or year")

/-- `Week::iso_week`: the ISO week of `epoch_week + TimeDelta::weeks(db_week)`, as its week number
and year. -/
def isoWeek (week : Int) : Nat × Int := env.isoWeek (epochWeek + 7 * week)

/-- `impl Display for Week`: the ISO week number and year of `epoch_week + TimeDelta::weeks(db_week)`. -/
def display (week : Int) : String :=
  let (isoWeek, year) := env.isoWeek (epochWeek + 7 * week)
  toString isoWeek ++ "/" ++ toString year

end Week

end ChorePlanner
