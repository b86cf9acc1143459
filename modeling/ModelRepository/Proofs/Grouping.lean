import ModelRepository.Grouping
import Std.Data.ExtTreeSet

/-! Sets that are filled from lists, and maps that are filled from lists of pairs, with one value
or one group under each key.
-/

namespace ModelRepository

open Std

variable {κ ν : Type} [Ord κ] [TransOrd κ]

-----------------------------------------------------------------------------------------
-- Sets
-----------------------------------------------------------------------------------------

/-- A list is no shorter than the set that is filled from it, by induction on the list. -/
theorem size_foldl_insert_le (keys : List κ) (set : ExtTreeSet κ)
    : (keys.foldl ExtTreeSet.insert set).size ≤ set.size + keys.length := by
  induction keys generalizing set with
  | nil => exact Nat.le_refl _
  | cons head tail ih =>
      have behind := ih (set.insert head)
      have first := ExtTreeSet.size_insert_le (t := set) (k := head)
      rw [List.foldl_cons, List.length_cons]
      omega

variable [LawfulEqOrd κ]

/-- Inserting listed keys adds exactly these, by induction on the list. -/
theorem mem_foldl_insert_iff (keys : List κ) (set : ExtTreeSet κ) (key : κ)
    : key ∈ keys.foldl ExtTreeSet.insert set ↔ key ∈ set ∨ key ∈ keys := by
  induction keys generalizing set with
  | nil => simp
  | cons head tail ih =>
      rw [List.foldl_cons, ih, ExtTreeSet.mem_insert, Std.compare_eq_iff_eq, List.mem_cons]
      grind

theorem nodup_toList (set : ExtTreeSet κ) : set.toList.Nodup :=
  ExtTreeSet.ordered_toList.imp fun before same => by simp [same] at before

/-- A set that is filled from a list without repetitions lists the same keys again. -/
theorem toList_foldl_insert_perm {keys : List κ} (unique : keys.Nodup)
    : (keys.foldl ExtTreeSet.insert (∅ : ExtTreeSet κ)).toList.Perm keys :=
  (List.perm_ext_iff_of_nodup (nodup_toList _) unique).mpr fun key => by
    simp [mem_foldl_insert_iff]

/-- A set is filled again from its own list. -/
theorem foldl_insert_toList (set : ExtTreeSet κ) : set.toList.foldl ExtTreeSet.insert ∅ = set :=
  ExtTreeSet.ext_mem fun key => by simp [mem_foldl_insert_iff]

-----------------------------------------------------------------------------------------
-- Maps
-----------------------------------------------------------------------------------------

variable [DecidableEq κ]

theorem getElem?_insert_eq_ite (values : ExtTreeMap κ ν) (key other : κ) (value : ν)
    : (values.insert key value)[other]? = if other = key then some value else values[other]? := by
  simp only [ExtTreeMap.getElem?_insert, LawfulEqCmp.compare_eq_iff_eq, @eq_comm _ other key]

theorem getElem?_erase_eq_ite (values : ExtTreeMap κ ν) (key other : κ)
    : (values.erase key)[other]? = if other = key then none else values[other]? := by
  simp only [ExtTreeMap.getElem?_erase, LawfulEqCmp.compare_eq_iff_eq, @eq_comm _ other key]

/-- A key has a group exactly when it occurs, and the group holds its values in order. Witness:
induction on the pairs, each of which joins the group of its key in front.
-/
theorem getElem?_group (pairs : List (κ × ν)) (key : κ)
    : (group pairs)[key]?
      = if key ∈ pairs.map Prod.fst then some ((pairs.filter (·.1 = key)).map Prod.snd)
        else none := by
  unfold group
  induction pairs with
  | nil => simp
  | cons head tail ih =>
      rw [List.foldr_cons, ExtTreeMap.getElem?_insert, ExtTreeMap.getD_eq_getD_getElem?]
      by_cases same : head.1 = key
      · subst same
        rw [ih]
        by_cases known : head.1 ∈ tail.map Prod.fst
        · simp [known]
        · have alone : tail.filter (·.1 = head.1) = [] := by
            rw [List.filter_eq_nil_iff]
            intro pair member equal
            exact known (List.mem_map.mpr ⟨pair, member, by simpa using equal⟩)
          simp [known, alone]
      · have occurs : key ∈ (head :: tail).map Prod.fst ↔ key ∈ tail.map Prod.fst := by
          simp [Ne.symm same]
        simp only [occurs]
        simp [ih, same]

/-- Among entries of which no two put different values under one key, each one counts. -/
theorem getElem?_foldl_insert_eq_some_iff (start : ExtTreeMap κ ν) (entries : List (κ × ν))
    (functional
      : ∀ key left right, (key, left) ∈ entries → (key, right) ∈ entries → left = right)
    (key : κ) (value : ν)
    : (entries.foldl (fun values entry => values.insert entry.1 entry.2) start)[key]? = some value
      ↔ (key, value) ∈ entries ∨ key ∉ entries.map Prod.fst ∧ start[key]? = some value := by
  induction entries generalizing start with
  | nil => simp
  | cons head tail ih =>
      have functionalTail := fun key left right inLeft inRight =>
        functional key left right (List.mem_cons_of_mem _ inLeft) (List.mem_cons_of_mem _ inRight)
      obtain ⟨headKey, headValue⟩ := head
      rw [List.foldl_cons, ih _ functionalTail, getElem?_insert_eq_ite]
      have known : key ∈ tail.map Prod.fst ↔ ∃ other, (key, other) ∈ tail := by simp
      simp only [List.mem_cons, Prod.mk.injEq, List.map_cons, known]
      by_cases same : headKey = key
      · subst same
        have alone (other : ν) (member : (headKey, other) ∈ tail) : other = headValue :=
          functional headKey other headValue (List.mem_cons_of_mem _ member) List.mem_cons_self
        grind
      · grind

theorem mem_getD_group_iff (pairs : List (κ × ν)) (key : κ) (value : ν)
    : value ∈ (group pairs).getD key [] ↔ (key, value) ∈ pairs := by
  rw [ExtTreeMap.getD_eq_getD_getElem?, getElem?_group]
  by_cases known : key ∈ pairs.map Prod.fst
  · simp [known]
  · have absent : (key, value) ∉ pairs := fun member => known (List.mem_map_of_mem member)
    simp [known, absent]

end ModelRepository
