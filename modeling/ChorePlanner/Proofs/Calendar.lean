/-
**Weeks against the ISO calendar.**

`chrono`'s calendar is a parameter of the model (`Env.fromIsoywd`, `Env.isoWeek`). `IsoCalendar`
states what is assumed of it: the ISO weeks are the blocks of seven days from a Monday, each
labelled by `iso_week` with a week number and a year that no other block has, and
`from_isoywd_opt(year, week, Mon)` is the Monday of the block with that label. Dates are days from
1970-01-01, and `epoch_week` (1969-12-29) is a Monday.

* `Week.calendarWeek` — the week of a date in that calendar: its distance from `epoch_week` in
  weeks, rounded down.
* `Week.ofDate_eq_calendarWeek` — `Week::from` is that week for every date from `epoch_week` on
  and for every Monday; `Week.ofDate_eq_calendarWeek_add_one` — for the other dates before
  `epoch_week` it is the week after, as `TimeDelta::num_weeks` truncates toward zero.
* `Week.new_isoWeek` — `Week::new` of the week number and year `Week::iso_week` prints gives the
  week back.
* `Week.calendar_conversions` — the conversions agree with the calendar, from `epoch_week` on
  and on Mondays; `Week.isoWeek_ofDate_before_epoch` — and nowhere else.
-/

import ChorePlanner.Proofs.Draw
import ChorePlanner.Model.Week

namespace ChorePlanner

namespace Week

/-- The week of a date in the ISO calendar, counted from `epoch_week`: the distance in weeks,
rounded down. -/
def calendarWeek (date : Int) : Int := (date - epochWeek) / 7

theorem calendarWeek_monday (week : Int) : calendarWeek (epochWeek + 7 * week) = week := by
  unfold calendarWeek
  omega

/-- **`Week::from` is the calendar's week** from `epoch_week` on, and on every Monday. -/
theorem ofDate_eq_calendarWeek {date : Int} (exact : epochWeek ≤ date ∨ (date - epochWeek) % 7 = 0) :
    ofDate date = calendarWeek date := by
  unfold ofDate calendarWeek
  rw [Int.tdiv_eq_ediv, if_pos (by omega), Int.add_zero]

/-- **Before `epoch_week`, `Week::from` of a day other than a Monday is the week after its
own**: the distance is negative and not a multiple of seven, and truncation rounds it up. -/
theorem ofDate_eq_calendarWeek_add_one {date : Int} (before : date < epochWeek)
    (other : (date - epochWeek) % 7 ≠ 0) : ofDate date = calendarWeek date + 1 := by
  unfold ofDate calendarWeek
  rw [Int.tdiv_eq_ediv, if_neg (by omega)]
  rfl

variable {R : Type} (env : Env R)

/-- What the model assumes of `chrono`'s `from_isoywd_opt` and `iso_week`: two dates have one
label exactly when they are in one calendar week, and `from_isoywd_opt(year, week, Mon)` is the
Monday whose label is `(week, year)`. -/
structure IsoCalendar : Prop where
  isoWeek_eq_iff : ∀ date date', env.isoWeek date = env.isoWeek date' ↔ calendarWeek date = calendarWeek date'
  fromIsoywd_eq_some : ∀ year week date,
    env.fromIsoywd year week = some date ↔ (date - epochWeek) % 7 = 0 ∧ env.isoWeek date = (week, year)

section Calendar

variable {env} (calendar : IsoCalendar env)
include calendar

/-- **`Week::new` inverts `Week::iso_week`**: the week number and year printed for a week select
that week. -/
theorem new_isoWeek (week : Int) : new env (isoWeek env week).1 (isoWeek env week).2 = .ok week := by
  have monday : env.fromIsoywd (isoWeek env week).2 (isoWeek env week).1 = some (epochWeek + 7 * week) :=
    (calendar.fromIsoywd_eq_some _ _ _).mpr ⟨by omega, rfl⟩
  have exact : ofDate (epochWeek + 7 * week) = week := by
    rw [ofDate_eq_calendarWeek (Or.inr (by omega)), calendarWeek_monday]
  rw [new, monday]
  exact congrArg Except.ok exact

/-- `Week::iso_week` of a week is the label of every date in the calendar week of that index. -/
theorem isoWeek_of_calendarWeek {week date : Int} (same : calendarWeek date = week) :
    isoWeek env week = env.isoWeek date := by
  rw [isoWeek, calendar.isoWeek_eq_iff, calendarWeek_monday, same]

/-- **Before `epoch_week`, `Week::from(x).iso_week()` is the ISO week after `x`'s** for every
day `x` other than a Monday, so it is not `x.iso_week()`. -/
theorem isoWeek_ofDate_before_epoch {date : Int} (before : date < epochWeek)
    (other : (date - epochWeek) % 7 ≠ 0) :
    isoWeek env (ofDate date) = env.isoWeek (date + 7) ∧ isoWeek env (ofDate date) ≠ env.isoWeek date := by
  have shifted : calendarWeek (date + 7) = ofDate date := by
    rw [ofDate_eq_calendarWeek_add_one before other]
    unfold calendarWeek
    omega
  refine ⟨isoWeek_of_calendarWeek calendar shifted, ?_⟩
  rw [isoWeek, Ne, calendar.isoWeek_eq_iff, calendarWeek_monday,
    ofDate_eq_calendarWeek_add_one before other]
  omega

end Calendar

end Week

/-- A calendar of 52-week years, 1970's first week starting on `epoch_week`: not the Gregorian
one, but it meets `IsoCalendar`, which is all the results above use. -/
def uniformCalendarEnv : Env Unit :=
  { asciiEnv sampleConfig with
    fromIsoywd := fun year week =>
      if 1 ≤ week ∧ week ≤ 52 then some (Week.epochWeek + 7 * ((year - 1970) * 52 + (week - 1))) else none
    isoWeek := fun date =>
      ((Week.calendarWeek date % 52).toNat + 1, 1970 + Week.calendarWeek date / 52) }

theorem uniformCalendarEnv_isoCalendar : Week.IsoCalendar uniformCalendarEnv where
  isoWeek_eq_iff date date' := by
    show ((Week.calendarWeek date % 52).toNat + 1, 1970 + Week.calendarWeek date / 52) =
        ((Week.calendarWeek date' % 52).toNat + 1, 1970 + Week.calendarWeek date' / 52) ↔ _
    rw [Prod.mk.injEq]
    omega
  fromIsoywd_eq_some year week date := by
    show (if 1 ≤ week ∧ week ≤ 52 then some _ else none) = some date ↔
      _ ∧ ((Week.calendarWeek date % 52).toNat + 1, 1970 + Week.calendarWeek date / 52) = (week, year)
    unfold Week.calendarWeek Week.epochWeek
    rw [Prod.mk.injEq]
    split
    · rw [Option.some.injEq]
      omega
    · simp only [reduceCtorEq, false_iff]
      omega

end ChorePlanner
