/-
**What the availability query of `get_all_available_tenants_unnormalized` keeps.**

The query is meant to list the tenants *eligible* for a chore in a week (`Tables.Eligible`):
living in a room, holding no active exemption whose reason is linked to the chore, and not
unwilling. Its `LEFT JOIN TenantExemption` makes one row per active exemption, and its
`WHERE ChoreExemption.chore_id IS NULL` drops only the rows of exemptions linked to the chore, so
what it keeps is a tenant living in a room and not unwilling that holds no active exemption at
all, or **some** active exemption not linked to the chore (`Tables.QueryAvailable`).

* `mem_availableRows` — the rows of the query are exactly the tenants and chores in
  `QueryAvailable`, each with its `TenantScore`.
* `mem_availableTenants_names` — a name is listed iff a tenant of that name is `QueryAvailable`;
  so the listed names depend on no `ChoreLog` and no `Rating` (`availableTenants_names_frame`).
* `queryAvailable_iff_eligible` — for a tenant with at most one active exemption the query is
  exact.
* `availableTenants_lists_ineligible_twice` — with two active exemptions it is not: an exempt
  tenant is listed and an eligible one is listed twice.
-/

import ChorePlanner.Proofs.Methods
import ChorePlanner.Proofs.Draw

set_option linter.unusedSectionVars false

namespace ChorePlanner

/-- The exemption belongs to the tenant and is active in the week. -/
def TenantExemptionRow.ActiveFor (exemption : TenantExemptionRow) (tenant : TenantRow)
    (week : Int) : Prop :=
  exemption.tenantId = tenant.id ∧ Sql.covers exemption.startWeek exemption.endWeek week = true

instance (exemption : TenantExemptionRow) (tenant : TenantRow) (week : Int) :
    Decidable (exemption.ActiveFor tenant week) :=
  inferInstanceAs (Decidable (_ ∧ _))

namespace Tables

variable (t : Tables)

/-! ### Eligibility, meant and computed -/

/-- The tenant lives in a room in the week: one of its `LivesIn` rows covers the week. -/
def LivesInWeek (tenant : TenantRow) (week : Int) : Prop :=
  ∃ livesIn ∈ t.livesIn, livesIn.tenantId = tenant.id ∧
    Sql.covers livesIn.moveInWeek livesIn.moveOutWeek week = true

/-- The exemption's reason is linked to the chore by a `ChoreExemption`. -/
def ExemptsFrom (exemption : TenantExemptionRow) (choreId : Nat) : Prop :=
  ∃ link ∈ t.choreExemption, exemption.exemptionReasonId = link.exemptionReasonId ∧
    link.choreId = choreId

/-- The tenant has an `Unwilling` row for the week. -/
def UnwillingIn (tenant : TenantRow) (week : Int) : Prop :=
  ∃ row ∈ t.unwilling, row.tenantId = tenant.id ∧ row.week = week

/-- **Eligible** for a chore in a week: living in a room, no active exemption whose reason is
linked to the chore, not unwilling. -/
def Eligible (tenant : TenantRow) (choreId : Nat) (week : Int) : Prop :=
  t.LivesInWeek tenant week ∧
    (∀ exemption ∈ t.tenantExemption, exemption.ActiveFor tenant week →
      ¬t.ExemptsFrom exemption choreId) ∧
    ¬t.UnwillingIn tenant week

/-- What the query keeps of a tenant and a chore: living in a room, not unwilling, and no active
exemption at all or some active exemption not linked to the chore. -/
def QueryAvailable (tenant : TenantRow) (chore : ChoreRow) (week : Int) : Prop :=
  t.LivesInWeek tenant week ∧
    ((∀ exemption ∈ t.tenantExemption, ¬exemption.ActiveFor tenant week) ∨
      ∃ exemption ∈ t.tenantExemption, exemption.ActiveFor tenant week ∧
        ¬t.ExemptsFrom exemption chore.id) ∧
    ¬t.UnwillingIn tenant week

instance (tenant : TenantRow) (week : Int) : Decidable (t.LivesInWeek tenant week) :=
  inferInstanceAs (Decidable (∃ livesIn ∈ t.livesIn, _))

instance (exemption : TenantExemptionRow) (choreId : Nat) :
    Decidable (t.ExemptsFrom exemption choreId) :=
  inferInstanceAs (Decidable (∃ link ∈ t.choreExemption, _))

instance (tenant : TenantRow) (week : Int) : Decidable (t.UnwillingIn tenant week) :=
  inferInstanceAs (Decidable (∃ row ∈ t.unwilling, _))

instance (tenant : TenantRow) (choreId : Nat) (week : Int) :
    Decidable (t.Eligible tenant choreId week) :=
  inferInstanceAs (Decidable (_ ∧ _))

instance (tenant : TenantRow) (chore : ChoreRow) (week : Int) :
    Decidable (t.QueryAvailable tenant chore week) :=
  inferInstanceAs (Decidable (_ ∧ _))

/-- **The query is exact for a tenant with at most one active exemption.** -/
theorem queryAvailable_iff_eligible {tenant : TenantRow} {chore : ChoreRow} {week : Int}
    (single : ∀ e ∈ t.tenantExemption, ∀ e' ∈ t.tenantExemption,
      e.ActiveFor tenant week → e'.ActiveFor tenant week → e = e') :
    t.QueryAvailable tenant chore week ↔ t.Eligible tenant chore.id week := by
  constructor
  · rintro ⟨lives, none_active | ⟨e, member, active, free⟩, willing⟩
    · exact ⟨lives, fun e member active => absurd active (none_active e member), willing⟩
    · -- the one active exemption is not linked to the chore, so none is
      refine ⟨lives, fun e' member' active' => ?_, willing⟩
      rw [single e' member' e member active' active]
      exact free
  · rintro ⟨lives, none_linked, willing⟩
    refine ⟨lives, ?_, willing⟩
    by_cases some_active : ∃ e ∈ t.tenantExemption, e.ActiveFor tenant week
    · obtain ⟨e, member, active⟩ := some_active
      exact .inr ⟨e, member, active, none_linked e member active⟩
    · push Not at some_active
      exact .inl some_active

/-! ### The rows of the query -/

theorem mem_tenantScore {score : TenantScoreRow} :
    score ∈ t.tenantScore ↔ ∃ tenant ∈ t.tenant, ∃ chore ∈ t.chore,
      score = ⟨tenant.id, chore.id, t.score tenant.id chore.id⟩ := by
  simp only [tenantScore, List.mem_flatMap, List.mem_map]
  constructor
  · rintro ⟨tenant, member, chore, chore_member, rfl⟩
    exact ⟨tenant, member, chore, chore_member, rfl⟩
  · rintro ⟨tenant, member, chore, chore_member, rfl⟩
    exact ⟨tenant, member, chore, chore_member, rfl⟩

theorem mem_residentScores {week : Int} {tenant : TenantRow} {chore : ChoreRow}
    {score : TenantScoreRow} :
    (tenant, chore, score) ∈ t.residentScores week ↔
      tenant ∈ t.tenant ∧ chore ∈ t.chore ∧ score ∈ t.tenantScore ∧ tenant.id = score.tenantId ∧
        chore.id = score.choreId ∧ t.LivesInWeek tenant week := by
  simp only [residentScores, List.mem_flatMap, List.mem_filter, List.mem_map, Bool.and_eq_true,
    beq_iff_eq, LivesInWeek]
  constructor
  · rintro ⟨tenant', member, chore', chore_member, score', ⟨score_member, same_tenant, same_chore⟩,
      livesIn, ⟨livesIn_member, lives_tenant, covering⟩, same⟩
    simp only [Prod.mk.injEq] at same
    obtain ⟨rfl, rfl, rfl⟩ := same
    exact ⟨member, chore_member, score_member, same_tenant, same_chore, livesIn, livesIn_member,
      lives_tenant.symm, covering⟩
  · rintro ⟨member, chore_member, score_member, same_tenant, same_chore, livesIn, livesIn_member,
      lives_tenant, covering⟩
    exact ⟨tenant, member, chore, chore_member, score, ⟨score_member, same_tenant, same_chore⟩,
      livesIn, ⟨livesIn_member, lives_tenant.symm, covering⟩, rfl⟩

/-- A resident row without an exemption: the tenant has no active exemption. -/
theorem mem_residentExemptions_none {week : Int} {resident : TenantRow × ChoreRow × TenantScoreRow} :
    (resident, none) ∈ t.residentExemptions week ↔
      resident ∈ t.residentScores week ∧
        ∀ exemption ∈ t.tenantExemption, ¬exemption.ActiveFor resident.1 week := by
  obtain ⟨tenant, chore, score⟩ := resident
  simp [residentExemptions, Sql.mem_leftJoin_none, TenantExemptionRow.ActiveFor]

theorem mem_residentExemptions_some {week : Int} {resident : TenantRow × ChoreRow × TenantScoreRow}
    {exemption : TenantExemptionRow} :
    (resident, some exemption) ∈ t.residentExemptions week ↔
      resident ∈ t.residentScores week ∧ exemption ∈ t.tenantExemption ∧
        exemption.ActiveFor resident.1 week := by
  obtain ⟨tenant, chore, score⟩ := resident
  simp [residentExemptions, Sql.mem_leftJoin_some, TenantExemptionRow.ActiveFor]

/-- A row that survives `ChoreExemption.chore_id IS NULL`: no exemption, or one not linked to the
chore. -/
theorem mem_residentChoreExemptions_none {week : Int}
    {row : (TenantRow × ChoreRow × TenantScoreRow) × Option TenantExemptionRow} :
    (row, none) ∈ t.residentChoreExemptions week ↔
      row ∈ t.residentExemptions week ∧ ∀ exemption, row.2 = some exemption →
        ¬t.ExemptsFrom exemption row.1.2.1.id := by
  obtain ⟨⟨tenant, chore, score⟩, exemption⟩ := row
  cases exemption with
  | none => simp [residentChoreExemptions, Sql.mem_leftJoin_none]
  | some exemption =>
    simp [residentChoreExemptions, Sql.mem_leftJoin_none, ExemptsFrom]

/-- The anti-join on `Unwilling`: the tenant is willing that week exactly when no row of
`Unwilling` joins on the tenant and the week. -/
theorem not_unwillingIn_iff {tenant : TenantRow} {week : Int} :
    ¬t.UnwillingIn tenant week ↔
      ∀ row ∈ t.unwilling, (row.tenantId == tenant.id && row.week == week) = false := by
  constructor
  · intro willing row row_member
    simp only [Bool.and_eq_false_iff, beq_eq_false_iff_ne]
    by_contra both
    push Not at both
    exact willing ⟨row, row_member, both.1, both.2⟩
  · rintro no_unwilling ⟨row, row_member, same_tenant, same_week⟩
    have joined := no_unwilling row row_member
    simp [same_tenant, same_week] at joined

/-- **The rows of the query** are the tenants and chores of the name asked for that are
`QueryAvailable`, each with its score. -/
theorem mem_availableRows {week : Int} {choreName name : String} {s : ℚ} :
    (name, s) ∈ t.availableRows week choreName ↔
      ∃ tenant ∈ t.tenant, ∃ chore ∈ t.chore, ∃ score ∈ t.tenantScore,
        tenant.id = score.tenantId ∧ chore.id = score.choreId ∧ tenant.name = name ∧
          chore.name = choreName ∧ score.score = s ∧ t.QueryAvailable tenant chore week := by
  simp only [availableRows, List.mem_map, List.mem_filter]
  constructor
  · rintro ⟨⟨⟨⟨⟨tenant, chore, score⟩, exemption⟩, link⟩, unwilling⟩, ⟨member, kept⟩, same⟩
    simp only [Bool.and_eq_true, Option.isNone_iff_eq_none, beq_iff_eq] at kept
    obtain ⟨⟨rfl, rfl⟩, named⟩ := kept
    simp only [Prod.mk.injEq] at same
    obtain ⟨rfl, rfl⟩ := same
    obtain ⟨linked, no_unwilling⟩ := Sql.mem_leftJoin_none.mp member
    obtain ⟨resident, not_linked⟩ := (t.mem_residentChoreExemptions_none).mp linked
    have willing : ¬t.UnwillingIn tenant week := t.not_unwillingIn_iff.mpr no_unwilling
    -- the exemption column: none at all, or one not linked to the chore
    cases exemption with
    | none =>
      obtain ⟨scored, none_active⟩ := (t.mem_residentExemptions_none).mp resident
      obtain ⟨member, chore_member, score_member, same_tenant, same_chore, lives⟩ :=
        (t.mem_residentScores).mp scored
      exact ⟨tenant, member, chore, chore_member, score, score_member, same_tenant, same_chore, rfl,
        named, rfl, lives, .inl none_active, willing⟩
    | some exemption =>
      obtain ⟨scored, exemption_member, active⟩ := (t.mem_residentExemptions_some).mp resident
      obtain ⟨member, chore_member, score_member, same_tenant, same_chore, lives⟩ :=
        (t.mem_residentScores).mp scored
      exact ⟨tenant, member, chore, chore_member, score, score_member, same_tenant, same_chore, rfl,
        named, rfl, lives, .inr ⟨exemption, exemption_member, active, not_linked exemption rfl⟩,
        willing⟩
  · rintro ⟨tenant, member, chore, chore_member, score, score_member, same_tenant, same_chore, rfl,
      rfl, rfl, lives, exempt, willing⟩
    have scored : (tenant, chore, score) ∈ t.residentScores week :=
      (t.mem_residentScores).mpr ⟨member, chore_member, score_member, same_tenant, same_chore, lives⟩
    have no_unwilling := t.not_unwillingIn_iff.mp willing
    -- pick the exemption column the query keeps
    rcases exempt with none_active | ⟨exemption, exemption_member, active, free⟩
    · refine ⟨((((tenant, chore, score), none), none), none), ⟨?_, by simp⟩, rfl⟩
      refine Sql.mem_leftJoin_none.mpr ⟨?_, no_unwilling⟩
      refine (t.mem_residentChoreExemptions_none).mpr ⟨?_, fun _ absurd => by cases absurd⟩
      exact (t.mem_residentExemptions_none).mpr ⟨scored, none_active⟩
    · refine ⟨((((tenant, chore, score), some exemption), none), none), ⟨?_, by simp⟩, rfl⟩
      refine Sql.mem_leftJoin_none.mpr ⟨?_, no_unwilling⟩
      refine (t.mem_residentChoreExemptions_none).mpr ⟨?_, fun _ same => ?_⟩
      · exact (t.mem_residentExemptions_some).mpr ⟨scored, exemption_member, active⟩
      · cases same
        exact free

/-- **The names the query lists** are those of the `QueryAvailable` tenants. -/
theorem mem_availableTenants_names {week : Int} {choreName name : String} :
    name ∈ (t.availableTenants week choreName).map (·.1) ↔
      ∃ tenant ∈ t.tenant, tenant.name = name ∧ ∃ chore ∈ t.chore, chore.name = choreName ∧
        t.QueryAvailable tenant chore week := by
  simp only [availableTenants, List.mem_map, (List.perm_insertionSort _ _).mem_iff]
  constructor
  · rintro ⟨⟨name', s⟩, member, rfl⟩
    obtain ⟨tenant, tenant_member, chore, chore_member, -, -, -, -, rfl, named, -, available⟩ :=
      t.mem_availableRows.mp member
    exact ⟨tenant, tenant_member, rfl, chore, chore_member, named, available⟩
  · rintro ⟨tenant, member, rfl, chore, chore_member, named, available⟩
    -- every tenant has a score row for every chore
    have scored : (⟨tenant.id, chore.id, t.score tenant.id chore.id⟩ : TenantScoreRow) ∈ t.tenantScore :=
      t.mem_tenantScore.mpr ⟨tenant, member, chore, chore_member, rfl⟩
    refine ⟨(tenant.name, t.score tenant.id chore.id), t.mem_availableRows.mpr ⟨tenant, member, chore,
      chore_member, _, scored, rfl, rfl, rfl, named, ?_, available⟩, rfl⟩
    -- the score column of the row; `rfl` would unfold `score` before reducing the projection
    dsimp only

/-- **Which names are listed depends on no `ChoreLog` and no `Rating`**: only the scores, and so
the order, do. -/
theorem availableTenants_names_frame (logs : List ChoreLogRow) (ratings : List RatingRow)
    {week : Int} {choreName name : String} :
    name ∈ (Tables.availableTenants { t with choreLog := logs, rating := ratings } week
      choreName).map (·.1) ↔
      name ∈ (t.availableTenants week choreName).map (·.1) := by
  rw [mem_availableTenants_names, mem_availableTenants_names]
  rfl

/-- Leaving out busy tenants keeps a sub-list of the available ones. -/
theorem mem_availableTenants_of_mem_for {exclude : Bool} {week : Int} {choreName : String}
    {entry : String × ℚ} (member : entry ∈ t.availableTenantsFor exclude week choreName) :
    entry ∈ t.availableTenants week choreName := by
  dsimp only [availableTenantsFor] at member
  split at member
  · exact member
  · exact (List.mem_filter.mp member).1

/-- Leaving out busy tenants never leaves none when some are available. -/
theorem availableTenantsFor_isEmpty (exclude : Bool) (week : Int) (choreName : String) :
    (t.availableTenantsFor exclude week choreName).isEmpty =
      (t.availableTenants week choreName).isEmpty := by
  dsimp only [availableTenantsFor]
  split
  · rfl
  · rename_i nonempty
    rw [Bool.not_eq_true] at nonempty
    rw [nonempty, eq_comm, List.isEmpty_eq_false_iff]
    intro empty
    simp [empty] at nonempty

end Tables

/-! ### Two active exemptions -/

/-- Anna and Bob, each in a room from week 0, with the chores Dishes and Trash. The reason Sick
exempts from the Dishes, Busy and Away from the Trash; Anna holds Sick and Busy, Bob Busy and
Away, all from week 0. Bob did the Dishes in week 0. -/
def twoReasonTables : Tables where
  room := ["R1", "R2"]
  tenant := [⟨1, "Anna", none⟩, ⟨2, "Bob", none⟩]
  livesIn := [⟨1, "R1", 0, none⟩, ⟨2, "R2", 0, none⟩]
  unwilling := []
  chore := [⟨1, "Dishes", "", true⟩, ⟨2, "Trash", "", true⟩]
  exemptionReason := [⟨1, "Sick"⟩, ⟨2, "Busy"⟩, ⟨3, "Away"⟩]
  tenantExemption := [⟨1, 1, 0, none⟩, ⟨1, 2, 0, none⟩, ⟨2, 2, 0, none⟩, ⟨2, 3, 0, none⟩]
  choreExemption := [⟨1, 1⟩, ⟨2, 2⟩, ⟨2, 3⟩]
  choreLog := [⟨1, 0, 2, false, none⟩]
  rating := []
  currentWeek := some 1

/-- `twoReasonTables` as a database: it satisfies every constraint of the schema. -/
def twoReasonDb : Database := ⟨twoReasonTables, by constructor <;> decide⟩

/-- **The query lists an exempt tenant, and an eligible one twice.** On a database that passes
`integrity_check`, `get_all_available_tenants_unnormalized(1, "Dishes")` returns Anna, whose
exemption Sick covers the Dishes, through the row of her other exemption Busy, and Bob once per
exemption. -/
theorem availableTenants_lists_ineligible_twice :
    Integrity (asciiEnv sampleConfig) twoReasonTables ∧
      (getAllAvailableTenantsUnnormalized (asciiEnv sampleConfig) 1 "Dishes").run ⟨twoReasonDb, ()⟩ =
        .ok [("Anna", -1), ("Bob", 2), ("Bob", 2)] ⟨twoReasonDb, ()⟩ ∧
      ¬twoReasonTables.Eligible ⟨1, "Anna", none⟩ 1 1 ∧ twoReasonTables.Eligible ⟨2, "Bob", none⟩ 1 1 := by
  have intact : Integrity (asciiEnv sampleConfig) (Db.tables ⟨twoReasonDb, ()⟩) := by decide +kernel
  have rows : (Db.tables ⟨twoReasonDb, ()⟩).availableTenants 1 "Dishes" =
      [("Anna", -1), ("Bob", 2), ("Bob", 2)] := by
    decide +kernel
  refine ⟨intact, ?_, by decide, by decide⟩
  rw [getAllAvailableTenantsUnnormalized_run _ intact, rows]

end ChorePlanner
