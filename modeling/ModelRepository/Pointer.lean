import Std.Data.ExtTreeMap
import Std.Data.ExtTreeSet

/-! Pointers into a language definition and the order in which they are listed.
Every part of a pointer may be absent; an absent part comes after every present one, and the
order decides equality, so a map keyed by pointers finds exactly the pointer it was given.
-/

namespace ModelRepository

open Std

/-- Orders optional text with the absent value last. -/
def compareAbsentLast : Option String → Option String → Ordering
  | some a, some b => compare a b
  | some _, none => .lt
  | none, some _ => .gt
  | none, none => .eq

/-- Exchanging the texts turns the order around, by the same law of texts. -/
theorem compareAbsentLast_swap (a b : Option String)
    : (compareAbsentLast a b).swap = compareAbsentLast b a := by
  cases a <;> cases b <;> simp [compareAbsentLast]
  exact OrientedCmp.eq_swap.symm

/-- The order is transitive, by cases on what is absent. -/
theorem compareAbsentLast_isLE_trans (a b c : Option String)
    (hab : (compareAbsentLast a b).isLE) (hbc : (compareAbsentLast b c).isLE)
    : (compareAbsentLast a c).isLE := by
  cases a <;> cases b <;> cases c <;> simp_all [compareAbsentLast]
  exact TransCmp.isLE_trans hab hbc

/-- Only equal texts have the same place, and the absent value has one of its own. -/
theorem compareAbsentLast_eq_iff (a b : Option String)
    : compareAbsentLast a b = .eq ↔ a = b := by
  cases a <;> cases b <;> simp [compareAbsentLast]

instance : TransCmp compareAbsentLast where
  eq_swap := (compareAbsentLast_swap _ _).symm
  isLE_trans := compareAbsentLast_isLE_trans _ _ _

instance : LawfulEqCmp compareAbsentLast where
  eq_of_compare h := (compareAbsentLast_eq_iff _ _).mp h

/-- Ordering by one optional part is transitive, by the order of the parts. -/
theorem transCmp_absentLast_on {α : Type} (part : α → Option String)
    : TransCmp (fun a b => compareAbsentLast (part a) (part b)) where
  eq_swap := (compareAbsentLast_swap _ _).symm
  isLE_trans := compareAbsentLast_isLE_trans _ _ _

/-- A release of a language, as a chunk declares it. -/
structure Language where
  key : String
  version : String
  deriving DecidableEq, Inhabited

namespace Language

/-- Languages are listed by key and then by version. -/
instance : Ord Language :=
  ⟨compareLex (compareOn Language.key) (compareOn Language.version)⟩

instance : TransOrd Language :=
  inferInstanceAs (TransCmp (compareLex (compareOn Language.key) (compareOn Language.version)))

instance : LawfulEqOrd Language where
  eq_of_compare {a b} h := by
    have h : (compare a.key b.key).then (compare a.version b.version) = .eq := h
    rw [Ordering.then_eq_eq, Std.compare_eq_iff_eq, Std.compare_eq_iff_eq] at h
    cases a
    cases b
    simp_all

end Language

/-- A pointer to a classifier or a feature of a language. -/
structure Pointer where
  language : Option String
  version : Option String
  key : Option String
  deriving DecidableEq, Inhabited

namespace Pointer

/-- The pointer whose three parts are all present. -/
def complete (language version key : String) : Pointer :=
  ⟨some language, some version, some key⟩

/-- The language release that the pointer points into, when it names both parts of it. -/
def languageRelease (pointer : Pointer) : Option Language :=
  match pointer.language, pointer.version with
  | some key, some version => some ⟨key, version⟩
  | _, _ => none

/-- Pointers are listed by language, then by version, then by key. -/
def order : Pointer → Pointer → Ordering :=
  compareLex (fun a b => compareAbsentLast a.language b.language)
    (compareLex (fun a b => compareAbsentLast a.version b.version)
      (fun a b => compareAbsentLast a.key b.key))

/-- Only equal pointers have the same place in the order, by cases on both. -/
theorem order_eq_iff (a b : Pointer) : order a b = .eq ↔ a = b := by
  cases a
  cases b
  simp [order, compareLex, Ordering.then_eq_eq]

instance : Ord Pointer := ⟨order⟩

instance : TransOrd Pointer :=
  have := transCmp_absentLast_on Pointer.language
  have := transCmp_absentLast_on Pointer.version
  have := transCmp_absentLast_on Pointer.key
  inferInstanceAs (TransCmp (compareLex _ (compareLex _ _)))

instance : LawfulEqOrd Pointer where
  eq_of_compare h := (order_eq_iff _ _).mp h

/-- The text form of a pointer; a question mark stands for an absent part. -/
def display (pointer : Pointer) : String :=
  pointer.language.getD "?" ++ "@" ++ pointer.version.getD "?" ++ ":" ++ pointer.key.getD "?"

end Pointer

end ModelRepository
