/-
**The draw of a tenant: `normalize_tenants`, `calc_tenant_distribution` and `choose_tenant`.**

* `normalizeTenants_eq` — normalizing adds minus the mean to every score; the scores then sum to
  zero (`normalizeTenants_sum`) and keep their order (`normalizeTenants_sorted`).
* `calcTenantDistribution_eq_map` — a tenant's weight is `tenantWeight` of its score alone.
* `calcTenantDistribution_fair` — **the weights form a fair distribution** (`FairWeights`): over a
  non-empty list sorted by score and `gamma ∈ [0, 1]`, one weight per tenant, all nonnegative,
  summing to one, antitone in the score; never changed by the clamp, uniform at `gamma = 1`, and
  accepted by `WeightedIndex::new`.
* `chooseTenant_mem` — a successful draw returns one of the tenants it was given.
-/

import ChorePlanner.Model.Plan
import ChorePlanner.Lib.Weights

set_option linter.unusedSectionVars false

namespace ChorePlanner

/-- What `rand` documents of `WeightedIndex::new(weights)?.sample(rng)`: `new` accepts every
non-empty list of nonnegative weights with a positive total, and a sample is the index of a
positive weight. -/
structure WeightedIndexSpec {R : Type} (env : Env R) : Prop where
  accepts : ∀ weights rng, weights ≠ [] → (∀ w ∈ weights, 0 ≤ w) → 0 < weights.sum →
    ∃ index rng', env.weightedIndex weights rng = .ok (index, rng')
  positive : ∀ weights rng index rng', env.weightedIndex weights rng = .ok (index, rng') →
    ∃ w, weights[index]? = some w ∧ 0 < w

/-- A sampler that draws the first index of a positive weight, and refuses what
`WeightedIndex::new` refuses. -/
def firstPositive (weights : List ℚ) (rng : Unit) : Except Error (Nat × Unit) :=
  if weights ≠ [] ∧ (∀ w ∈ weights, 0 ≤ w) ∧ 0 < weights.sum then
    .ok (weights.findIdx (0 < ·), rng)
  else .error .weights

/-- Weights with a positive total have a positive one. -/
theorem exists_pos_of_sum_pos {weights : List ℚ} (total : 0 < weights.sum) :
    ∃ w ∈ weights, 0 < w := by
  by_contra none_pos
  simp only [not_exists, not_and, not_lt] at none_pos
  have zero : weights.sum ≤ 0 := by simpa using List.sum_le_card_nsmul weights 0 none_pos
  linarith

theorem firstPositive_spec {weights : List ℚ} {rng index : Unit} {drawn : Nat}
    (ok : firstPositive weights rng = .ok (drawn, index)) :
    ∃ w, weights[drawn]? = some w ∧ 0 < w := by
  unfold firstPositive at ok
  split at ok
  · rename_i valid
    cases ok
    obtain ⟨w, member, positive⟩ := exists_pos_of_sum_pos valid.2.2
    have found : weights.findIdx (0 < ·) < weights.length :=
      List.findIdx_lt_length_of_exists ⟨w, member, by simpa using positive⟩
    refine ⟨weights[weights.findIdx (0 < ·)], List.getElem?_eq_getElem found, ?_⟩
    simpa using List.findIdx_getElem (w := found)
  · cases ok

/-- An outside world for concrete runs: ASCII case mappings (Unicode's on ASCII names), the
first-positive sampler, and a calendar that knows no week (no run below names one). -/
def asciiEnv (config : Config) : Env Unit where
  config := config
  toUppercase c := [c.toUpper]
  toLowercase s := s.map Char.toLower
  weightedIndex := firstPositive
  fromIsoywd _ _ := none
  isoWeek _ := (1, 1970)

/-- The configuration of the concrete runs: planning one week ahead, `gamma = 1/2`, busy tenants
not excluded, debug mode off, and week 0 until a weekly action sets one. -/
def sampleConfig : Config := ⟨0, 1, 1 / 2, false, false⟩

theorem asciiEnv_weightedIndex (config : Config) : WeightedIndexSpec (asciiEnv config) where
  accepts weights rng nonempty nonneg total := by
    refine ⟨weights.findIdx (0 < ·), rng, ?_⟩
    simp only [asciiEnv, firstPositive]
    rw [if_pos ⟨nonempty, nonneg, total⟩]
  positive _ _ _ _ ok := firstPositive_spec ok

/-- What makes the weights of a draw fair: one per tenant, nonnegative, summing to one, and never
more for a higher score. -/
structure FairWeights (tenants : List (String × ℚ)) (weights : List ℚ) : Prop where
  length_eq : weights.length = tenants.length
  nonneg : ∀ w ∈ weights, 0 ≤ w
  sum_eq_one : weights.sum = 1
  antitone : ∀ p ∈ tenants.zip weights, ∀ q ∈ tenants.zip weights, p.1.2 ≤ q.1.2 → q.2 ≤ p.2

/-- Equal scores get equal weights. -/
theorem FairWeights.eq_of_score_eq {tenants : List (String × ℚ)} {weights : List ℚ}
    (fair : FairWeights tenants weights) {p q : (String × ℚ) × ℚ} (p_member : p ∈ tenants.zip weights)
    (q_member : q ∈ tenants.zip weights) (same : p.1.2 = q.1.2) : p.2 = q.2 :=
  le_antisymm (fair.antitone q q_member p p_member same.symm.le)
    (fair.antitone p p_member q q_member same.le)

/-- `calc_tenant_distribution` without the clamp `max(.., 0)` of its second branch. -/
def rawDistribution (gamma : ℚ) (tenants : List (String × ℚ)) : List ℚ :=
  let n : ℚ := tenants.length
  match tenants.getLast? with
  | none => []
  | some (_, xn) =>
    if |xn| < eps then tenants.map fun _ => 1 / n
    else tenants.map fun (_, score) => 1 / n - (1 - gamma) / (n * xn) * score

/-- The weight `calc_tenant_distribution` gives to the score `y` of one of `n` tenants whose last
score is `xn`. -/
def tenantWeight (gamma n xn y : ℚ) : ℚ :=
  if |xn| < eps then 1 / n else max (1 / n - (1 - gamma) / (n * xn) * y) 0

theorem eps_pos : 0 < eps := by
  unfold eps
  norm_num

/-- A pair of a list zipped with its own image is an entry and its image. -/
theorem snd_of_mem_zip_map {α β : Type} {xs : List α} {f : α → β} {p : α × β}
    (member : p ∈ xs.zip (xs.map f)) : p.2 = f p.1 := by
  induction xs with
  | nil => simp at member
  | cons x xs ih =>
    rw [List.map_cons, List.zip_cons_cons, List.mem_cons] at member
    rcases member with rfl | tail
    · rfl
    · exact ih tail

/-! ### `normalize_tenants` -/

section Normalize

variable (tenants : List (String × ℚ))

/-- What `normalize_tenants` adds to every score: minus the mean. -/
def meanShift : ℚ := -(tenants.map (·.2)).sum / tenants.length

theorem normalizeTenants_eq :
    normalizeTenants tenants = tenants.map fun entry => (entry.1, entry.2 + meanShift tenants) := by
  unfold normalizeTenants meanShift
  rw [Weights.foldl_add_eq_sum, zero_add]

@[simp] theorem normalizeTenants_length : (normalizeTenants tenants).length = tenants.length := by
  simp [normalizeTenants_eq]

@[simp] theorem normalizeTenants_names :
    (normalizeTenants tenants).map (·.1) = tenants.map (·.1) := by
  simp [normalizeTenants_eq]

theorem normalizeTenants_scores :
    (normalizeTenants tenants).map (·.2) = (tenants.map (·.2)).map (· + meanShift tenants) := by
  simp [normalizeTenants_eq]

/-- The normalized scores sum to zero. -/
theorem normalizeTenants_sum : ((normalizeTenants tenants).map (·.2)).sum = 0 := by
  have shift : meanShift tenants = -(tenants.map (·.2)).sum / (tenants.map (·.2)).length := by
    rw [meanShift, List.length_map]
  rw [normalizeTenants_scores, shift]
  exact Weights.sum_shift_mean _

variable {tenants}

/-- Normalizing keeps the list sorted by score. -/
theorem normalizeTenants_sorted (sorted : tenants.Pairwise fun a b => a.2 ≤ b.2) :
    (normalizeTenants tenants).Pairwise fun a b => a.2 ≤ b.2 := by
  rw [normalizeTenants_eq, List.pairwise_map]
  exact sorted.imp fun below => (add_le_add_iff_right _).mpr below

end Normalize

/-! ### `calc_tenant_distribution` -/

section Distribution

variable {gamma n xn : ℚ}

theorem calcTenantDistribution_eq_map {tenants : List (String × ℚ)} {last : String}
    (found : tenants.getLast? = some (last, xn)) :
    calcTenantDistribution gamma tenants =
      tenants.map fun entry => tenantWeight gamma tenants.length xn entry.2 := by
  unfold calcTenantDistribution tenantWeight
  rw [found]
  by_cases near_zero : |xn| < eps <;> simp [near_zero]

theorem rawDistribution_eq_map {tenants : List (String × ℚ)} {last : String}
    (found : tenants.getLast? = some (last, xn)) :
    rawDistribution gamma tenants =
      tenants.map fun entry =>
        if |xn| < eps then 1 / (tenants.length : ℚ)
        else 1 / (tenants.length : ℚ) - (1 - gamma) / (tenants.length * xn) * entry.2 := by
  unfold rawDistribution
  rw [found]
  by_cases near_zero : |xn| < eps <;> simp [near_zero]

/-- Away from zero, a nonnegative last score is at least `eps`. -/
theorem eps_le_of_not_near_zero (nonneg : 0 ≤ xn) (far : ¬|xn| < eps) : eps ≤ xn := by
  rw [abs_of_nonneg nonneg] at far
  exact not_lt.mp far

/-- The slope `(1 - gamma) / (n * xn)` is nonnegative. -/
theorem slope_nonneg (gamma_le_one : gamma ≤ 1) (n_nonneg : 0 ≤ n) (nonneg : 0 ≤ xn) :
    0 ≤ (1 - gamma) / (n * xn) :=
  div_nonneg (by linarith) (mul_nonneg n_nonneg nonneg)

/-- **Weights are antitone in the score.** -/
theorem tenantWeight_antitone (gamma_le_one : gamma ≤ 1) (n_nonneg : 0 ≤ n) (nonneg : 0 ≤ xn)
    {y y' : ℚ} (below : y ≤ y') : tenantWeight gamma n xn y' ≤ tenantWeight gamma n xn y := by
  unfold tenantWeight
  split_ifs with near_zero
  · exact le_rfl
  · have scaled := mul_le_mul_of_nonneg_left below (slope_nonneg gamma_le_one n_nonneg nonneg)
    exact max_le_max (by linarith) le_rfl

/-- For a score at most the last one, the clamp changes nothing: the weight is at least
`gamma / n`. -/
theorem tenantWeight_unclamped (gamma_nonneg : 0 ≤ gamma) (gamma_le_one : gamma ≤ 1)
    (n_pos : 0 < n) (nonneg : 0 ≤ xn) (far : ¬|xn| < eps) {y : ℚ} (below : y ≤ xn) :
    tenantWeight gamma n xn y = 1 / n - (1 - gamma) / (n * xn) * y := by
  have xn_pos : 0 < xn := lt_of_lt_of_le eps_pos (eps_le_of_not_near_zero nonneg far)
  have at_max : (1 - gamma) / (n * xn) * xn = (1 - gamma) / n := by
    field_simp
  have at_max_nonneg : 0 ≤ 1 / n - (1 - gamma) / (n * xn) * xn := by
    rw [at_max, ← sub_div]
    exact div_nonneg (by linarith) n_pos.le
  have unclamped : 0 ≤ 1 / n - (1 - gamma) / (n * xn) * y :=
    Weights.affine_nonneg (slope_nonneg gamma_le_one n_pos.le nonneg) below at_max_nonneg
  rw [tenantWeight, if_neg far, max_eq_left unclamped]

/-- At `gamma = 1` every weight is `1 / n`. -/
theorem tenantWeight_gamma_one (n_nonneg : 0 ≤ n) (y : ℚ) : tenantWeight 1 n xn y = 1 / n := by
  unfold tenantWeight
  split_ifs
  · rfl
  · simpa using n_nonneg

end Distribution

/-! ### The weights of a draw -/

section Fair

variable {tenants : List (String × ℚ)} {gamma : ℚ} (nonempty : tenants ≠ [])
  (sorted : tenants.Pairwise fun a b => a.2 ≤ b.2)
include nonempty sorted

/-- The last normalized score `xn` is the largest, and nonnegative since the normalized scores
sum to zero. -/
theorem normalizeTenants_last :
    ∃ last xn, (normalizeTenants tenants).getLast? = some (last, xn) ∧ 0 ≤ xn ∧
      ∀ entry ∈ normalizeTenants tenants, entry.2 ≤ xn := by
  have normalized_nonempty : normalizeTenants tenants ≠ [] := by
    rw [← List.length_pos_iff, normalizeTenants_length]
    exact List.length_pos_iff.mpr nonempty
  have bound := Weights.le_getLast_of_pairwise (normalizeTenants_sorted sorted) normalized_nonempty
  refine ⟨_, _, List.getLast?_eq_some_getLast normalized_nonempty, ?_, bound⟩
  refine Weights.nonneg_of_sum_eq_zero (normalizeTenants_sum tenants)
    (by simpa using normalized_nonempty) fun y member => ?_
  obtain ⟨entry, entry_member, rfl⟩ := List.mem_map.mp member
  exact bound entry entry_member

variable (gamma_nonneg : 0 ≤ gamma) (gamma_le_one : gamma ≤ 1)
include gamma_nonneg gamma_le_one

/-- **The clamp changes nothing**: every weight is its unclamped value. -/
theorem calcTenantDistribution_eq_raw :
    calcTenantDistribution gamma (normalizeTenants tenants) =
      rawDistribution gamma (normalizeTenants tenants) := by
  obtain ⟨last, xn, found, xn_nonneg, bound⟩ := normalizeTenants_last nonempty sorted
  have n_pos : (0 : ℚ) < (normalizeTenants tenants).length := by
    rw [normalizeTenants_length]
    exact Nat.cast_pos.mpr (List.length_pos_iff.mpr nonempty)
  rw [calcTenantDistribution_eq_map found, rawDistribution_eq_map found]
  refine List.map_congr_left fun entry member => ?_
  by_cases near_zero : |xn| < eps
  · simp [tenantWeight, near_zero]
  · rw [if_neg near_zero]
    exact tenantWeight_unclamped gamma_nonneg gamma_le_one n_pos xn_nonneg near_zero
      (bound entry member)

/-- **The weights are fair**: one per tenant, nonnegative, summing to one, antitone in the
score. -/
theorem calcTenantDistribution_fairWeights :
    FairWeights tenants (calcTenantDistribution gamma (normalizeTenants tenants)) := by
  obtain ⟨last, xn, found, xn_nonneg, -⟩ := normalizeTenants_last nonempty sorted
  have n_pos : (0 : ℚ) < tenants.length := Nat.cast_pos.mpr (List.length_pos_iff.mpr nonempty)
  have weights_eq : calcTenantDistribution gamma (normalizeTenants tenants) =
      (normalizeTenants tenants).map fun entry => tenantWeight gamma tenants.length xn entry.2 := by
    rw [calcTenantDistribution_eq_map found, normalizeTenants_length]
  refine ⟨by simp [weights_eq], fun w member => ?_, ?_, fun p p_member q q_member below => ?_⟩
  · -- a weight is `1 / n` or clamped at zero
    rw [weights_eq, List.mem_map] at member
    obtain ⟨entry, -, rfl⟩ := member
    unfold tenantWeight
    split_ifs
    · exact div_nonneg zero_le_one n_pos.le
    · exact le_max_right _ _
  · -- the unclamped weights are affine in zero-sum scores
    rw [calcTenantDistribution_eq_raw nonempty sorted gamma_nonneg gamma_le_one,
      rawDistribution_eq_map found, normalizeTenants_length]
    by_cases near_zero : |xn| < eps
    · simp only [near_zero, if_true]
      rw [← normalizeTenants_length tenants]
      exact Weights.sum_map_inv_length _ (by simpa [← List.length_pos_iff] using nonempty)
    · simp only [near_zero, if_false]
      have as_scores : ((normalizeTenants tenants).map fun entry =>
            1 / (tenants.length : ℚ) - (1 - gamma) / (tenants.length * xn) * entry.2) =
          ((normalizeTenants tenants).map (·.2)).map fun y =>
            1 / (tenants.length : ℚ) - (1 - gamma) / (tenants.length * xn) * y := by
        rw [List.map_map]
        rfl
      rw [as_scores, Weights.sum_map_affine, List.length_map, normalizeTenants_length,
        normalizeTenants_sum, mul_zero, sub_zero]
      field_simp
  · -- a weight is a decreasing function of the tenant's own score
    have of_tenants : calcTenantDistribution gamma (normalizeTenants tenants) =
        tenants.map fun entry =>
          tenantWeight gamma tenants.length xn (entry.2 + meanShift tenants) := by
      rw [weights_eq, normalizeTenants_eq, List.map_map]
      rfl
    rw [of_tenants] at p_member q_member
    rw [snd_of_mem_zip_map p_member, snd_of_mem_zip_map q_member]
    exact tenantWeight_antitone gamma_le_one n_pos.le xn_nonneg ((add_le_add_iff_right _).mpr below)

end Fair

/-- **The weights form a fair probability distribution.** For a non-empty list sorted by score and
`gamma ∈ [0, 1]`, the weights `calc_tenant_distribution(normalize_tenants(list))` are fair, equal
to their unclamped values, `1 / n` each at `gamma = 1`, and `WeightedIndex::new` accepts them. -/
theorem calcTenantDistribution_fair {R : Type} (env : Env R) (drawing : WeightedIndexSpec env)
    {tenants : List (String × ℚ)} {gamma : ℚ} (nonempty : tenants ≠ [])
    (sorted : tenants.Pairwise fun a b => a.2 ≤ b.2) (gamma_nonneg : 0 ≤ gamma)
    (gamma_le_one : gamma ≤ 1) :
    let weights := calcTenantDistribution gamma (normalizeTenants tenants)
    FairWeights tenants weights ∧ weights = rawDistribution gamma (normalizeTenants tenants) ∧
      (gamma = 1 → weights = tenants.map fun _ => 1 / (tenants.length : ℚ)) ∧
      ∀ rng, ∃ index rng', env.weightedIndex weights rng = .ok (index, rng') := by
  intro weights
  have fair := calcTenantDistribution_fairWeights nonempty sorted gamma_nonneg gamma_le_one
  refine ⟨fair, calcTenantDistribution_eq_raw nonempty sorted gamma_nonneg gamma_le_one,
    fun gamma_one => ?_, fun rng => ?_⟩
  · -- at `gamma = 1` the slope is zero
    obtain ⟨last, xn, found, -, -⟩ := normalizeTenants_last nonempty sorted
    have n_nonneg : (0 : ℚ) ≤ tenants.length := Nat.cast_nonneg _
    show calcTenantDistribution gamma (normalizeTenants tenants) = _
    rw [calcTenantDistribution_eq_map found, normalizeTenants_length, normalizeTenants_eq,
      List.map_map, gamma_one]
    simp only [Function.comp_def, tenantWeight_gamma_one n_nonneg]
  · have weights_nonempty : weights ≠ [] := by
      rw [← List.length_pos_iff, fair.length_eq]
      exact List.length_pos_iff.mpr nonempty
    exact drawing.accepts weights rng weights_nonempty fair.nonneg (by rw [fair.sum_eq_one]; norm_num)

/-- Two tenants with the scores `-1` and `2`, at `gamma = 1/2`. -/
theorem calcTenantDistribution_fair_pair :
    let tenants : List (String × ℚ) := [("Anna", -1), ("Bob", 2)]
    let weights := calcTenantDistribution (1 / 2) (normalizeTenants tenants)
    FairWeights tenants weights ∧ weights = rawDistribution (1 / 2) (normalizeTenants tenants) ∧
      ((1 / 2 : ℚ) = 1 → weights = tenants.map fun _ => 1 / (tenants.length : ℚ)) ∧
      ∀ rng, ∃ index rng',
        (asciiEnv sampleConfig).weightedIndex weights rng = .ok (index, rng') :=
  calcTenantDistribution_fair (asciiEnv sampleConfig)
    (asciiEnv_weightedIndex _) (by decide) (by decide +kernel) (by norm_num) (by norm_num)

/-! ### `choose_tenant` -/

section Choose

variable {R : Type} (env : Env R)

/-- **A draw returns one of the tenants.** `choose_tenant` panics unless the index it draws lies
in the list, so when it returns, the tenant is one of those it was given, and only the generator
has moved. -/
theorem chooseTenant_mem {tenants : List (String × ℚ)} {db db' : Db R} {tenant : String}
    {score prob : ℚ} (ok : (chooseTenant env tenants).run db = .ok (tenant, score, prob) db') :
    (tenant, score) ∈ tenants ∧ db'.con = db.con := by
  simp only [chooseTenant, EStateM.run_bind, EStateM.run_get] at ok
  split at ok
  · cases ok
  · -- the drawn index must hit both the tenants and their weights, or `choose_tenant` panics
    split at ok
    · rename_i found _
      cases ok
      exact ⟨List.mem_of_getElem? found, rfl⟩
    · cases ok

/-- **A draw over available tenants always succeeds.** With a sampler as `rand` documents it and
`gamma ∈ [0, 1]`, `WeightedIndex::new` accepts the weights and the drawn index lies in the list, so
`choose_tenant` returns one of the tenants and only advances the generator. -/
theorem chooseTenant_run (drawing : WeightedIndexSpec env) {tenants : List (String × ℚ)}
    (nonempty : tenants ≠ []) (sorted : tenants.Pairwise fun a b => a.2 ≤ b.2)
    (gamma_nonneg : 0 ≤ env.config.gamma) (gamma_le_one : env.config.gamma ≤ 1) (db : Db R) :
    ∃ tenant score prob rng, (tenant, score) ∈ normalizeTenants tenants ∧
      (chooseTenant env (normalizeTenants tenants)).run db =
        .ok (tenant, score, prob) { db with rng := rng } := by
  have fair := calcTenantDistribution_fairWeights nonempty sorted gamma_nonneg gamma_le_one
  have weights_nonempty : calcTenantDistribution env.config.gamma (normalizeTenants tenants) ≠ [] := by
    rw [← List.length_pos_iff, fair.length_eq]
    exact List.length_pos_iff.mpr nonempty
  obtain ⟨index, rng, drawn⟩ := drawing.accepts _ db.rng weights_nonempty fair.nonneg
    (by rw [fair.sum_eq_one]; norm_num)
  obtain ⟨w, found_weight, -⟩ := drawing.positive _ _ _ _ drawn
  -- the index hits a weight, and there is one weight per tenant
  have in_range : index < (normalizeTenants tenants).length := by
    rw [normalizeTenants_length, ← fair.length_eq]
    exact (List.getElem?_eq_some_iff.mp found_weight).1
  obtain ⟨⟨tenant, score⟩, found_tenant⟩ : ∃ entry, (normalizeTenants tenants)[index]? = some entry :=
    ⟨_, List.getElem?_eq_getElem in_range⟩
  refine ⟨tenant, score, w, rng, List.mem_of_getElem? found_tenant, ?_⟩
  simp only [chooseTenant, EStateM.run_bind, EStateM.run_get, drawn, EStateM.run_set, found_tenant,
    found_weight]
  rfl

end Choose

end ChorePlanner
