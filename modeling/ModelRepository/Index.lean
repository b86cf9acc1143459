import ModelRepository.Instance

/-! The index of a repository, from identifiers to instances.
Indexes and identifier sets are ordered and extensional: two of them are equal when they answer
every lookup alike. Walks over an index end because each step visits an indexed identifier for
the first time; `remaining` counts the identifiers still ahead.
-/

namespace ModelRepository

/-- A set of identifiers, listed in ascending order. -/
abbrev IdSet := Std.ExtTreeSet String

/-- The instances of a repository by identifier, listed in ascending order. -/
abbrev Index := Std.ExtTreeMap String Instance

/-- The set of the listed identifiers. -/
def IdSet.ofIds (ids : List String) : IdSet :=
  ids.foldl Std.ExtTreeSet.insert ∅

namespace Index

/-- Puts every instance under its own identifier; a later instance replaces an earlier one. -/
def put (index : Index) (instances : List Instance) : Index :=
  instances.foldl (fun index node => index.insert node.id node) index

/-- The index of `instances`. -/
def ofInstances (instances : List Instance) : Index :=
  put ∅ instances

/-- The identifiers that `id` owns; none when it is not indexed. -/
def ownedIds (index : Index) (id : String) : List String :=
  match index[id]? with
  | some node => node.ownedIds
  | none => []

/-- The parent that `id` records; none when it is not indexed. -/
def parentOf? (index : Index) (id : String) : Option String :=
  index[id]?.bind Instance.parent

/-- The number of indexed identifiers that a walk has not done yet. -/
def remaining (index : Index) (done : String → Bool) : Nat :=
  index.keys.countP fun id => !done id

/-- Doing one more indexed identifier leaves fewer, by induction on the keys. -/
theorem remaining_lt (index : Index) {before after : String → Bool} (id : String)
    (indexed : id ∈ index) (fresh : before id = false) (done : after id = true)
    (grows : ∀ other, before other = true → after other = true)
    : index.remaining after < index.remaining before := by
  have listed : id ∈ index.keys := Std.ExtTreeMap.mem_keys.mpr indexed
  unfold remaining
  generalize index.keys = keys at listed
  have shrinks : ∀ other, (!after other) = true → (!before other) = true := by
    intro other
    have := grows other
    revert this
    cases before other <;> cases after other <;> simp
  induction keys with
  | nil => simp at listed
  | cons head tail ih =>
      have whole := List.countP_mono_left (l := tail) (fun other _ => shrinks other)
      rcases List.mem_cons.mp listed with rfl | inTail
      · simp only [List.countP_cons, fresh, done]
        simp
        omega
      · have step := ih inTail
        have kept := shrinks head
        simp only [List.countP_cons]
        split
        · rw [if_pos (kept ‹_›)]
          omega
        · split <;> omega

/-- Doing identifiers never adds any, by the same counts. -/
theorem remaining_le (index : Index) {before after : String → Bool}
    (grows : ∀ other, before other = true → after other = true)
    : index.remaining after ≤ index.remaining before := by
  refine List.countP_mono_left fun other _ => ?_
  have := grows other
  revert this
  cases before other <;> cases after other <;> simp

end Index

end ModelRepository
