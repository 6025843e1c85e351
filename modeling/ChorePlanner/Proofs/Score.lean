/-
**The score views against the README's definition of the score.**

The README: the worker of a `ChoreLog` gains `1`, every other profiting tenant loses
`1/(N-1)`, `N` the number of profiting tenants, where a tenant profits when it lives in a room in
the week and holds no active exemption linked to the chore (`Tables.Profits`).
`Tables.documentedScore` states that sum.

* `tenantScore_counts_exemption_rows` — the view `TenantScore` departs from it as soon as a
  tenant holds two active exemptions: `ProfitingTenant` has one row per exemption, so a worker is
  paid once per exemption, and a tenant exempt through one reason profits through the other.
-/

import ChorePlanner.Proofs.Availability

set_option linter.unusedSectionVars false

namespace ChorePlanner

namespace Tables

variable (t : Tables)

/-- The tenant profits from a `ChoreLog`, as the README defines it: it lives in a room in the
log's week and holds no exemption active then whose reason is linked to the log's chore. -/
def Profits (tenant : TenantRow) (log : ChoreLogRow) : Prop :=
  t.LivesInWeek tenant log.week ∧
    ∀ exemption ∈ t.tenantExemption, exemption.ActiveFor tenant log.week →
      ¬t.ExemptsFrom exemption log.choreId

instance (tenant : TenantRow) (log : ChoreLogRow) : Decidable (t.Profits tenant log) :=
  inferInstanceAs (Decidable (_ ∧ _))

/-- The tenants profiting from a `ChoreLog`. -/
def profiting (log : ChoreLogRow) : List TenantRow :=
  t.tenant.filter fun tenant => decide (t.Profits tenant log)

/-- **The score the README describes**: over the `ChoreLog`s of the chore that the tenant profits
from and that at least two tenants profit from, `1` for the worker and `-1/(N-1)` for the
others. -/
def documentedScore (tenant : TenantRow) (choreId : Nat) : ℚ :=
  ((t.choreLog.filter fun log =>
      log.choreId == choreId && decide (t.Profits tenant log) && 2 ≤ (t.profiting log).length).map
    fun log => if log.worker = tenant.id then 1 else -1 / (((t.profiting log).length : ℚ) - 1)).sum

end Tables

/-- **`TenantScore` pays a worker once per exemption it holds.** In `twoReasonTables`, which
passes `integrity_check`, only Bob profits from his Dishes of week 0 by the README (Anna's Sick
covers the Dishes), so both scores are `0`; the view gives Bob `2`, one per exemption row, and
Anna `-1` through her exemption Busy. -/
theorem tenantScore_counts_exemption_rows :
    Integrity (asciiEnv sampleConfig) twoReasonTables ∧
      twoReasonTables.tenantScore = [⟨1, 1, -1⟩, ⟨1, 2, 0⟩, ⟨2, 1, 2⟩, ⟨2, 2, 0⟩] ∧
      twoReasonTables.documentedScore ⟨1, "Anna", none⟩ 1 = 0 ∧
      twoReasonTables.documentedScore ⟨2, "Bob", none⟩ 1 = 0 := by
  refine ⟨by decide +kernel, by decide +kernel, by decide +kernel, by decide +kernel⟩

end ChorePlanner
