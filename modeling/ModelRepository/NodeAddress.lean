import Std.Data.ExtTreeMap
import Std.Data.ExtTreeSet

/-! The address of a node on a server: the repository and the identifier within it. -/

namespace ModelRepository

/-- Addresses are listed by repository and then by identifier. -/
structure NodeAddress where
  repository : String
  id : String
  deriving DecidableEq, Inhabited

namespace NodeAddress

instance : Ord NodeAddress :=
  ⟨compareLex (compareOn NodeAddress.repository) (compareOn NodeAddress.id)⟩

instance : Std.TransOrd NodeAddress :=
  inferInstanceAs (Std.TransCmp
    (compareLex (compareOn NodeAddress.repository) (compareOn NodeAddress.id)))

instance : Std.LawfulEqOrd NodeAddress where
  eq_of_compare {a b} h := by
    have h : (compare a.repository b.repository).then (compare a.id b.id) = .eq := h
    rw [Ordering.then_eq_eq, Std.compare_eq_iff_eq, Std.compare_eq_iff_eq] at h
    cases a
    cases b
    simp_all

end NodeAddress

end ModelRepository
