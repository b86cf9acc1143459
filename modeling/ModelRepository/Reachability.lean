import ModelRepository.Index

/-! What a set of roots holds in place, directly or through owners.
`Reaches` states the relation; `reachable` computes it with a visited set, so that shared
children and cycles neither repeat work nor keep the walk from ending.
-/

namespace ModelRepository

/-- An indexed identifier is reached when it is a root or an owner that is reached lists it. -/
inductive Reaches (index : Index) (roots : IdSet) : String → Prop
  | root {id : String} : id ∈ roots → id ∈ index → Reaches index roots id
  | owned {owner id : String} :
      Reaches index roots owner → id ∈ index.ownedIds owner → id ∈ index → Reaches index roots id

/-- Extends `visited` by everything indexed that the pending identifiers reach outside it. -/
def reachFrom (index : Index) (visited : IdSet) : List String → IdSet
  | [] => visited
  | id :: pending =>
      if _seen : visited.contains id then
        reachFrom index visited pending
      else
        match _found : index[id]? with
        | none => reachFrom index visited pending
        | some node => reachFrom index (visited.insert id) (node.ownedIds ++ pending)
termination_by pending => (index.remaining visited.contains, pending.length)
decreasing_by
  · exact Prod.Lex.right _ (by simp)
  · exact Prod.Lex.right _ (by simp)
  · apply Prod.Lex.left
    refine index.remaining_lt id ?_ (Bool.eq_false_iff.mpr _seen) (by simp) ?_
    · exact Std.ExtTreeMap.mem_iff_isSome_getElem?.mpr (by simp [_found])
    · intro other member
      simp only [Std.ExtTreeSet.contains_insert, Bool.or_eq_true]
      exact Or.inr member

/-- The identifiers that `roots` reach in `index`. -/
def reachable (index : Index) (roots : IdSet) : IdSet :=
  reachFrom index ∅ roots.toList

end ModelRepository
