/-
**Text: ASCII case mappings and lines.**

Facts about characters and strings that a program handling names and messages relies on, for any
such program.

* `Char.toUpper_toUpper`, `Char.toLower_toLower` — the ASCII case mappings of `Char` are
  idempotent; `Char.toUpper_ne_space`, `Char.toLower_ne_space` — and make no space;
  `Char.isUpper_toLower` — lower-casing leaves no upper-case letter.
* `String.lowerAscii_idem` — lower-casing a string twice is lower-casing it once.
* `List.not_of_mem_splitOnP` — no part of a split holds a separator.
* `String.intercalate_append_singleton`, `String.intercalate_append_last` — joining one more
  part, or extending the last part by the separator and a tail, appends the separator and the
  tail.
-/

import Mathlib.Data.List.Basic

namespace Char

variable (c : Char)

theorem toUpper_toUpper : c.toUpper.toUpper = c.toUpper := by
  unfold Char.toUpper
  by_cases lower : 'a'.val ≤ c.val ∧ c.val ≤ 'z'.val
  · -- a lower-case letter goes down by 32, below `'a'`
    rw [dif_pos lower, dif_neg]
    have a : 'a'.val.toNat = 97 := rfl
    have z : 'z'.val.toNat = 122 := rfl
    have A : 'A'.val.toNat = 65 := rfl
    simp only [UInt32.le_iff_toNat_le, UInt32.toNat_add, UInt32.toNat_sub, a, z, A] at lower ⊢
    omega
  · rw [dif_neg lower, dif_neg lower]

theorem toLower_toLower : c.toLower.toLower = c.toLower := by
  unfold Char.toLower
  by_cases upper : c.val ≥ 'A'.val ∧ c.val ≤ 'Z'.val
  · -- an upper-case letter goes up by 32, above `'Z'`
    rw [dif_pos upper, dif_neg]
    have a : 'a'.val.toNat = 97 := rfl
    have Z : 'Z'.val.toNat = 90 := rfl
    have A : 'A'.val.toNat = 65 := rfl
    simp only [ge_iff_le, UInt32.le_iff_toNat_le, UInt32.toNat_add, UInt32.toNat_sub, a, Z, A]
      at upper ⊢
    omega
  · rw [dif_neg upper, dif_neg upper]

variable {c}

theorem toUpper_ne_space (other : c ≠ ' ') : c.toUpper ≠ ' ' := by
  unfold Char.toUpper
  split
  · rename_i lower
    intro space
    have code := congrArg (fun c : Char => c.val.toNat) space
    have a : 'a'.val.toNat = 97 := rfl
    have z : 'z'.val.toNat = 122 := rfl
    have A : 'A'.val.toNat = 65 := rfl
    have blank : ' '.val.toNat = 32 := rfl
    simp only [UInt32.le_iff_toNat_le, UInt32.toNat_add, UInt32.toNat_sub, a, z, A, blank]
      at lower code
    omega
  · exact other

/-- A lower-cased character is no upper-case letter. -/
theorem isUpper_toLower : c.toLower.isUpper = false := by
  have a : 'a'.val.toNat = 97 := rfl
  have Z : 'Z'.val.toNat = 90 := rfl
  have A : 'A'.val.toNat = 65 := rfl
  unfold Char.toLower Char.isUpper
  split
  · rename_i upper
    simp only [ge_iff_le, UInt32.le_iff_toNat_le, UInt32.toNat_add, UInt32.toNat_sub, a, Z, A]
      at upper ⊢
    simp only [decide_eq_false_iff_not]
    omega
  · rename_i other
    simpa using other

theorem toLower_ne_space (other : c ≠ ' ') : c.toLower ≠ ' ' := by
  unfold Char.toLower
  split
  · rename_i upper
    intro space
    have code := congrArg (fun c : Char => c.val.toNat) space
    have a : 'a'.val.toNat = 97 := rfl
    have Z : 'Z'.val.toNat = 90 := rfl
    have A : 'A'.val.toNat = 65 := rfl
    have blank : ' '.val.toNat = 32 := rfl
    simp only [ge_iff_le, UInt32.le_iff_toNat_le, UInt32.toNat_add, UInt32.toNat_sub, a, Z, A,
      blank] at upper code
    omega
  · exact other

end Char

namespace List

variable {α : Type} {p : α → Bool}

/-- No part of a split holds a separator. -/
theorem not_of_mem_splitOnP : ∀ {xs part : List α}, part ∈ xs.splitOnP p → ∀ x ∈ part, p x = false
  | [], part, member => by
    rw [splitOnP_nil, mem_singleton] at member
    rw [member]
    exact fun _ absent => absurd absent not_mem_nil
  | x :: xs, part, member => by
    rw [splitOnP_cons_eq_if_modifyHead] at member
    by_cases separator : p x = true
    · rw [if_pos separator] at member
      rcases mem_cons.mp member with rfl | member
      · exact fun _ absent => absurd absent not_mem_nil
      · exact not_of_mem_splitOnP member
    · -- `x` joins the first part of the rest
      obtain ⟨first, parts, split⟩ := exists_cons_of_ne_nil (splitOnP_ne_nil p xs)
      rw [if_neg separator, split, modifyHead_cons] at member
      have first_clean : ∀ y ∈ first, p y = false := not_of_mem_splitOnP (split ▸ mem_cons_self)
      rcases mem_cons.mp member with rfl | member
      · intro y y_member
        rcases mem_cons.mp y_member with rfl | y_member
        · exact eq_false_of_ne_true separator
        · exact first_clean y y_member
      · exact not_of_mem_splitOnP (split ▸ mem_cons_of_mem _ member)

end List

namespace String

theorem lowerAscii_idem (s : String) : (s.map Char.toLower).map Char.toLower = s.map Char.toLower := by
  rw [← String.toList_inj, String.toList_map, String.toList_map, List.map_map]
  exact List.map_congr_left fun c _ => Char.toLower_toLower c

theorem intercalate_append_singleton {sep : String} {parts : List String} (nonempty : parts ≠ [])
    (part : String) :
    sep.intercalate (parts ++ [part]) = sep.intercalate parts ++ sep ++ part := by
  rw [String.intercalate_append_of_ne_nil nonempty (List.cons_ne_nil _ _),
    String.intercalate_singleton]

/-- Extending the last part by the separator and a tail appends them to the join. -/
theorem intercalate_append_last (sep : String) (init : List String) (last tail : String) :
    sep.intercalate (init ++ [last ++ sep ++ tail]) = sep.intercalate (init ++ [last]) ++ sep ++ tail := by
  cases init with
  | nil => simp only [List.nil_append, String.intercalate_singleton]
  | cons first rest =>
    rw [intercalate_append_singleton (List.cons_ne_nil _ _),
      intercalate_append_singleton (List.cons_ne_nil _ _)]
    simp only [String.append_assoc]

end String
