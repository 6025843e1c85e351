/-
**The tenant-name normaliser: when it is a projection, and when it is not.**

`capitalize_tenant_name` splits a name at every space, upper-cases each part's first character,
lower-cases the rest, and joins the parts with spaces. Whether what it returns is a fixed point of
it depends only on the case mappings it is given.

* `splitSpace_eq_splitOn` — the split is `List.splitOn ' '`, so a join of parts without spaces
  splits back into those parts.
* `SimpleCase` — every character other than a space upper-cases to one character, not a space,
  that is its own upper case; lower-casing is idempotent and makes no space. The ASCII mappings
  are such (`asciiEnv_simpleCase`).
* `capitalizeTenantName_idempotent` — under `SimpleCase` the normaliser is idempotent.
* `capitalizeTenantName_sharpS_not_idempotent` — under Unicode's mappings it is not: `ß`
  becomes `SS`, and `SS` becomes `Ss`.
-/

import ChorePlanner.Proofs.Runs
import ChorePlanner.Lib.Text

namespace ChorePlanner

/-! ### Splitting at spaces -/

theorem splitSpace_eq_splitOn : ∀ cs : List Char, splitSpace cs = cs.splitOn ' '
  | [] => rfl
  | c :: cs => by
    rw [List.splitOn, List.splitOnP_cons_eq_if_modifyHead, ← List.splitOn, ← splitSpace_eq_splitOn cs]
    by_cases space : c = ' '
    · simp [splitSpace, space]
    · -- a split is never empty, so the character joins its first part
      obtain ⟨part, parts, split⟩ := List.exists_cons_of_ne_nil (List.splitOnP_ne_nil _ cs)
      rw [← List.splitOn, ← splitSpace_eq_splitOn cs] at split
      simp [splitSpace, space, split]

theorem splitSpace_ne_nil (cs : List Char) : splitSpace cs ≠ [] := by
  rw [splitSpace_eq_splitOn]
  exact List.splitOnP_ne_nil _ cs

theorem not_mem_of_mem_splitSpace {cs part : List Char} (member : part ∈ splitSpace cs) :
    ' ' ∉ part := by
  rw [splitSpace_eq_splitOn, List.splitOn_eq_splitOnP] at member
  intro space
  simpa using List.not_of_mem_splitOnP member ' ' space

/-- Splitting a join of parts without spaces gives the parts. -/
theorem splitSpace_intercalate {parts : List String} (spaceless : ∀ part ∈ parts, ' ' ∉ part.toList)
    (nonempty : parts ≠ []) :
    splitSpace (" ".intercalate parts).toList = parts.map (·.toList) := by
  rw [String.toList_intercalate, show " ".toList = [' '] from rfl, splitSpace_eq_splitOn]
  apply List.splitOn_intercalate
  · simpa using spaceless
  · simpa using nonempty

/-! ### Case mappings under which the normaliser is a projection -/

variable {R : Type} (env : Env R)

/-- Case mappings that keep the length of a first letter: each character other than a space
upper-cases to one character, no space, that is its own upper case; lower-casing is idempotent
and makes no space. -/
structure SimpleCase : Prop where
  upper_single : ∀ c, c ≠ ' ' → ∃ u, env.toUppercase c = [u] ∧ u ≠ ' ' ∧ env.toUppercase u = [u]
  lower_idem : ∀ s, env.toLowercase (env.toLowercase s) = env.toLowercase s
  lower_spaceless : ∀ s, ' ' ∉ s.toList → ' ' ∉ (env.toLowercase s).toList

section Simple

variable {env} (simple : SimpleCase env)
include simple

theorem capitalizePart_spaceless {part : List Char} (spaceless : ' ' ∉ part) :
    ' ' ∉ (capitalizePart env part).toList := by
  cases part with
  | nil => exact List.not_mem_nil
  | cons first rest =>
    obtain ⟨upper, upper_eq, upper_other, -⟩ := simple.upper_single first
      (Ne.symm (List.ne_of_not_mem_cons spaceless))
    have rest_spaceless : ' ' ∉ (String.ofList rest).toList := by
      rw [String.toList_ofList]
      exact List.not_mem_of_not_mem_cons spaceless
    rw [capitalizePart, upper_eq, String.toList_append, String.toList_ofList, List.singleton_append,
      List.mem_cons, not_or]
    exact ⟨Ne.symm upper_other, simple.lower_spaceless _ rest_spaceless⟩

/-- A normalized part without spaces is its own normal form. -/
theorem capitalizePart_capitalizePart {part : List Char} (spaceless : ' ' ∉ part) :
    capitalizePart env (capitalizePart env part).toList = capitalizePart env part := by
  cases part with
  | nil => rfl
  | cons first rest =>
    obtain ⟨upper, upper_eq, -, upper_fixed⟩ := simple.upper_single first
      (Ne.symm (List.ne_of_not_mem_cons spaceless))
    rw [capitalizePart, upper_eq, String.toList_append, String.toList_ofList, List.singleton_append,
      capitalizePart, upper_fixed, String.ofList_toList, simple.lower_idem]

/-- **Under `SimpleCase`, `capitalize_tenant_name` is idempotent.** -/
theorem capitalizeTenantName_idempotent (name : String) :
    capitalizeTenantName env (capitalizeTenantName env name) = capitalizeTenantName env name := by
  have spaceless : ∀ part ∈ splitSpace name.toList, ' ' ∉ part := fun _ member => not_mem_of_mem_splitSpace member
  -- the normal form splits back into the normalized parts
  have resplit : splitSpace (capitalizeTenantName env name).toList =
      (splitSpace name.toList).map fun part => (capitalizePart env part).toList := by
    rw [capitalizeTenantName, splitSpace_intercalate, List.map_map]
    · rfl
    · simpa using fun part member => capitalizePart_spaceless simple (spaceless part member)
    · simpa using splitSpace_ne_nil _
  rw [capitalizeTenantName, resplit, List.map_map, capitalizeTenantName]
  congr 1
  exact List.map_congr_left fun part member => capitalizePart_capitalizePart simple (spaceless part member)

end Simple

/-- The ASCII case mappings of `asciiEnv` are simple. -/
theorem asciiEnv_simpleCase (config : Config) : SimpleCase (asciiEnv config) where
  upper_single c other := ⟨c.toUpper, rfl, Char.toUpper_ne_space other, by
    show [c.toUpper.toUpper] = [c.toUpper]
    rw [Char.toUpper_toUpper]⟩
  lower_idem s := String.lowerAscii_idem s
  lower_spaceless s spaceless := by
    show ' ' ∉ (s.map Char.toLower).toList
    rw [String.toList_map, List.mem_map]
    rintro ⟨c, member, lowered⟩
    by_cases space : c = ' '
    · exact spaceless (space ▸ member)
    · exact Char.toLower_ne_space space lowered

theorem capitalizeTenantName_idempotent_ascii :
    capitalizeTenantName (asciiEnv sampleConfig) (capitalizeTenantName (asciiEnv sampleConfig) "aNNA  mARIA ") =
      capitalizeTenantName (asciiEnv sampleConfig) "aNNA  mARIA " :=
  capitalizeTenantName_idempotent (asciiEnv_simpleCase sampleConfig) "aNNA  mARIA "

/-! ### Unicode's mappings -/

/-- **Under Unicode's mappings `capitalize_tenant_name` is not idempotent**: `ß` upper-cases to
`SS`, so the name `ß` normalizes to `SS`, which normalizes to `Ss`. -/
theorem capitalizeTenantName_sharpS_not_idempotent (upper_sharpS : env.toUppercase 'ß' = ['S', 'S'])
    (upper_S : env.toUppercase 'S' = ['S']) (lower_empty : env.toLowercase "" = "")
    (lower_S : env.toLowercase "S" = "s") :
    capitalizeTenantName env (capitalizeTenantName env "ß") ≠ capitalizeTenantName env "ß" := by
  rw [capitalizeTenantName_sharpS env upper_sharpS lower_empty, capitalizeTenantName_SS env upper_S lower_S]
  decide

theorem capitalizeTenantName_sharpS_not_idempotent_sample :
    capitalizeTenantName (sharpSEnv sampleConfig) (capitalizeTenantName (sharpSEnv sampleConfig) "ß") ≠
      capitalizeTenantName (sharpSEnv sampleConfig) "ß" :=
  capitalizeTenantName_sharpS_not_idempotent (sharpSEnv sampleConfig) (by decide) (by decide)
    (sharpSEnv_toLowercase_empty _) (sharpSEnv_toLowercase_S _)

end ChorePlanner
