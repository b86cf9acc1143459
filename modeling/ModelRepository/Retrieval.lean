import ModelRepository.Chunk
import ModelRepository.Index

/-! Collecting the subtrees under a list of roots.
The walk is first in, first out. A containment edge costs one step, an annotation edge costs
none, and a node is visited again only when it is reached with strictly fewer steps than before,
so that the walk ends on every index and still finds all that lies within the limit.
-/

namespace ModelRepository

/-- How many containment edges a retrieval may follow from a root. -/
inductive Depth where
  | atMost (steps : Nat)
  | unbounded
  deriving DecidableEq, Inhabited

namespace Depth

/-- The number that stands for an unbounded depth. -/
def unboundedNumber : Nat := 18446744073709551615

/-- The depth that a number stands for. -/
def ofNat (number : Nat) : Depth :=
  if number = unboundedNumber then unbounded else atMost number

/-- The number that stands for a depth. -/
def toNat : Depth → Nat
  | atMost steps => steps
  | unbounded => unboundedNumber

/-- The steps used once a containment edge has been followed after `used` steps; nothing when
the limit is used up. Without a limit no edge costs anything. -/
def afterChild? (depth : Depth) (used : Nat) : Option Nat :=
  match depth with
  | atMost steps => if used < steps then some (used + 1) else none
  | unbounded => some used

end Depth

/-- The fewest steps with which each identifier has been visited so far. -/
abbrev Visits := Std.ExtTreeMap String Nat

namespace Retrieval

/-- What waits behind a visited node: its annotations and, within the limit, its children. -/
def successors (depth : Depth) (node : Instance) (used : Nat) : List (String × Nat) :=
  node.annotations.map (·, used)
    ++ match depth.afterChild? used with
      | some next => node.childIds.map (·, next)
      | none => []

/-- The sum of the steps with which the indexed identifiers have been visited. -/
def effort (index : Index) (visits : Visits) : Nat :=
  index.keys.foldr (fun id others => (visits[id]?).getD 0 + others) 0

/-- A visit with fewer steps than before lowers the effort, by its summand alone. -/
theorem effort_insert_lt (index : Index) (visits : Visits) {id : String} {earlier used : Nat}
    (indexed : id ∈ index) (seen : visits[id]? = some earlier) (fewer : used < earlier)
    : effort index (visits.insert id used) < effort index visits := by
  have listed : id ∈ index.keys := Std.ExtTreeMap.mem_keys.mpr indexed
  unfold effort
  generalize index.keys = keys at listed
  have pointwise : ∀ other : String,
      ((visits.insert id used)[other]?).getD 0 ≤ (visits[other]?).getD 0 := by
    intro other
    rw [Std.ExtTreeMap.getElem?_insert]
    split
    · rename_i same
      rw [Std.compare_eq_iff_eq] at same
      subst same
      simp [seen]
      omega
    · exact Nat.le_refl _
  have whole : ∀ tail : List String,
      tail.foldr (fun other others => ((visits.insert id used)[other]?).getD 0 + others) 0
        ≤ tail.foldr (fun other others => (visits[other]?).getD 0 + others) 0 := by
    intro tail
    induction tail with
    | nil => simp
    | cons head tail ih =>
        have := pointwise head
        simp only [List.foldr_cons]
        omega
  induction keys with
  | nil => simp at listed
  | cons head tail ih =>
      simp only [List.foldr_cons]
      rcases List.mem_cons.mp listed with rfl | inTail
      · have := whole tail
        have := Std.ExtTreeMap.getElem?_insert_self (t := visits) (k := id) (v := used)
        simp only [this, seen, Option.getD_some]
        omega
      · have := pointwise head
        have := ih inTail
        omega

/-- Visits the waiting identifiers in order. `front` waits first, `back` holds what joined later
in reverse, and `found` holds the collected instances, latest first. -/
def walk (index : Index) (depth : Depth) (visits : Visits) (found : List Instance)
    : List (String × Nat) → List (String × Nat) → List Instance
  | [], [] => found.reverse
  | [], last :: back => walk index depth visits found (last :: back).reverse []
  | (id, used) :: front, back =>
      match _stored : index[id]? with
      | none => walk index depth visits found front back
      | some node =>
          match _seen : visits[id]? with
          | none =>
              walk index depth (visits.insert id used) (node :: found) front
                ((successors depth node used).reverse ++ back)
          | some earlier =>
              if used < earlier then
                walk index depth (visits.insert id used) found front
                  ((successors depth node used).reverse ++ back)
              else
                walk index depth visits found front back
termination_by front back =>
  (index.remaining (visits.contains ·), effort index visits, front.length + 2 * back.length)
decreasing_by
  · apply Prod.Lex.right
    apply Prod.Lex.right
    simp
  · apply Prod.Lex.right
    apply Prod.Lex.right
    simp
  · apply Prod.Lex.left
    refine index.remaining_lt id ?_ ?_ (by simp) ?_
    · exact Std.ExtTreeMap.mem_iff_isSome_getElem?.mpr (by simp [_stored])
    · simp [Std.ExtTreeMap.contains_eq_isSome_getElem?, _seen]
    · intro other member
      simp only [Std.ExtTreeMap.contains_insert, Bool.or_eq_true]
      exact Or.inr member
  · have same : index.remaining (visits.insert id used).contains
        = index.remaining visits.contains := by
      apply Nat.le_antisymm
      · exact index.remaining_le fun other member => by
          simp only [Std.ExtTreeMap.contains_insert, Bool.or_eq_true]
          exact Or.inr member
      · refine index.remaining_le fun other member => ?_
        rw [Std.ExtTreeMap.contains_insert, Bool.or_eq_true] at member
        rcases member with same | member
        · rw [beq_iff_eq, Std.compare_eq_iff_eq] at same
          subst same
          simp [Std.ExtTreeMap.contains_eq_isSome_getElem?, _seen]
        · exact member
    rw [same]
    apply Prod.Lex.right
    apply Prod.Lex.left
    exact effort_insert_lt index visits
      (Std.ExtTreeMap.mem_iff_isSome_getElem?.mpr (by simp [_stored])) _seen ‹_›
  · apply Prod.Lex.right
    apply Prod.Lex.right
    simp

/-- The instances within `depth` of the requested identifiers, each once, in visiting order. -/
def collect (index : Index) (ids : List String) (depth : Depth) : List Instance :=
  walk index depth ∅ [] (ids.map (·, 0)) []

/-- The requested identifiers that are not indexed, in request order with repetitions. -/
def unknown (index : Index) (ids : List String) : List String :=
  ids.filter fun id => !index.contains id

end Retrieval

/-- What a retrieval does about requested identifiers that are not indexed. -/
inductive UnknownPolicy where
  | failFast
  | report
  deriving DecidableEq, Inhabited

/-- The answer of a retrieval. -/
structure Retrieved where
  chunk : Chunk
  unknown : List String
  deriving DecidableEq, Inhabited

end ModelRepository
