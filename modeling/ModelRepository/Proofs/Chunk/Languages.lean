import Mathlib.Data.String.Basic
import ModelRepository.Chunk
import ModelRepository.Proofs.Grouping

/-! Which languages a chunk declares when it declares what its instances use.
They depend on the pointers of the instances only, neither on the order of the instances nor on how
often a language is used.
-/

namespace ModelRepository

open Std

/-- The order of languages looks at the versions of one key only. -/
theorem Language.compare_eq_lt_iff (a b : Language)
    : compare a b = .lt ↔ a.key < b.key ∨ a.key = b.key ∧ a.version < b.version := by
  change (compare a.key b.key).then (compare a.version b.version) = .lt ↔ _
  rw [Ordering.then_eq_lt, compare_lt_iff_lt, compare_lt_iff_lt, Std.compare_eq_iff_eq]

variable (instances : List Instance)

theorem mem_usedLanguages_iff (language : Language)
    : language ∈ usedLanguages instances
      ↔ ∃ node ∈ instances, ∃ pointer ∈ node.pointers, pointer.languageRelease = some language := by
  simp [usedLanguages, mem_foldl_insert_iff]

/-- Used languages are listed in ascending order, so none is listed twice. -/
theorem usedLanguages_ascending
    : (usedLanguages instances).Pairwise fun a b =>
        a.key < b.key ∨ a.key = b.key ∧ a.version < b.version :=
  ExtTreeSet.ordered_toList.imp (Language.compare_eq_lt_iff _ _).mp

variable {instances}

/-- Instances in another order use the same languages, in the same order. -/
theorem usedLanguages_perm {others : List Instance} (permuted : instances.Perm others)
    : usedLanguages instances = usedLanguages others := by
  refine congrArg ExtTreeSet.toList (ExtTreeSet.ext_mem fun language => ?_)
  rw [mem_foldl_insert_iff, mem_foldl_insert_iff]
  exact or_congr_right (permuted.flatMap_right _).mem_iff

end ModelRepository
