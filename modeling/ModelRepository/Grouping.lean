import Std.Data.ExtTreeMap

/-! Gathering values under keys.
Keys come out in ascending order and the values of a key keep the order in which they came in.
-/

namespace ModelRepository

/-- The values of every key, in order. -/
def group {κ ν : Type} [Ord κ] [Std.TransOrd κ] (pairs : List (κ × ν))
    : Std.ExtTreeMap κ (List ν) :=
  pairs.foldr (fun pair groups => groups.insert pair.1 (pair.2 :: groups.getD pair.1 [])) ∅

end ModelRepository
