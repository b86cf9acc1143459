import ModelRepository.Proofs.Binary.RoundTrip

/-! Values that take fewer bytes than a word can count.
Every layout spends at least one byte on a value, so neither the texts nor the lists inside a value
are longer than its bytes. What was written to a file of a bounded size therefore has sizes that
are words, whatever it is, and is read back from that file.
-/

namespace ModelRepository

namespace Binary

/-- Every value takes a byte or more in front of what follows it, and those that take fewer bytes
than a word can count fit.
-/
structure Layout.Sized {α : Type} (layout : Layout α) (fits : α → Prop) : Prop where
  length_lt_write : ∀ value rest, rest.length < (layout.write value rest).length
  fits_of_length : ∀ value rest, (layout.write value rest).length < UInt64.size → fits value

-----------------------------------------------------------------------------------------
-- Numbers and runs of items
-----------------------------------------------------------------------------------------

/-- A number takes at least one byte, by induction on its groups. -/
theorem length_lt_writeNumber (number : Nat) (rest : Bytes)
    : rest.length < (writeNumber number rest).length := by
  induction number using writeNumber.induct with
  | case1 number small =>
      rw [writeNumber, if_pos small]
      exact Nat.lt_succ_self _
  | case2 number large ih =>
      rw [writeNumber, if_neg large]
      exact Nat.lt_succ_of_lt ih

/-- A number takes no more bytes than there are groups for it, by induction on these groups. -/
theorem length_writeNumber_le {lastGroup : Nat} (bound : lastGroup < 128) (groups : Nat)
    {number : Nat} (fits : number < capacity lastGroup groups) (rest : Bytes)
    : (writeNumber number rest).length ≤ groups + 1 + rest.length := by
  induction groups generalizing number with
  | zero =>
      have small : number < 128 := Nat.lt_of_lt_of_le fits bound
      rw [writeNumber, if_pos small, List.length_cons]
      omega
  | succ groups ih =>
      rw [writeNumber]
      split
      · rw [List.length_cons]
        omega
      · have shorter : number / 128 < capacity lastGroup groups := by
          rw [capacity] at fits
          omega
        have behind := ih shorter
        rw [List.length_cons]
        omega

variable {α β : Type} {first : Layout α} {second : Layout β} {fits : α → Prop}
  {secondFits : β → Prop}

/-- Items take at least one byte each, by induction on the list. -/
theorem length_le_foldr_write (sized : first.Sized fits) (values : List α) (rest : Bytes)
    : values.length + rest.length ≤ (values.foldr first.write rest).length := by
  induction values with
  | nil => simp
  | cons value tail ih =>
      have head := sized.length_lt_write value (tail.foldr first.write rest)
      rw [List.foldr_cons, List.length_cons]
      omega

/-- Items fit when all their bytes together are few, by induction on the list. -/
theorem fits_of_length_foldr_write (sized : first.Sized fits) {values : List α} {rest : Bytes}
    (few : (values.foldr first.write rest).length < UInt64.size)
    : ∀ value ∈ values, fits value := by
  induction values with
  | nil => exact List.forall_mem_nil _
  | cons value tail ih =>
      have behind := sized.length_lt_write value (tail.foldr first.write rest)
      exact List.forall_mem_cons.mpr
        ⟨sized.fits_of_length value _ few, ih (Nat.lt_trans behind few)⟩

-----------------------------------------------------------------------------------------
-- Layouts
-----------------------------------------------------------------------------------------

namespace Layout

theorem Sized.pair (left : first.Sized fits) (right : second.Sized secondFits)
    : (pair first second).Sized fun value => fits value.1 ∧ secondFits value.2 := by
  refine ⟨?_, ?_⟩
  · rintro ⟨a, b⟩ rest
    exact Nat.lt_trans (right.length_lt_write b rest) (left.length_lt_write a _)
  · rintro ⟨a, b⟩ rest few
    have behind := left.length_lt_write a (second.write b rest)
    exact ⟨left.fits_of_length a _ few, right.fits_of_length b rest (Nat.lt_trans behind few)⟩

theorem Sized.via (sized : first.Sized fits) (toForm : β → α) (ofForm : α → β)
    : (first.via toForm ofForm).Sized fun value => fits (toForm value) :=
  ⟨fun value rest => sized.length_lt_write (toForm value) rest,
    fun value rest few => sized.fits_of_length (toForm value) rest few⟩

theorem word64_sized : word64.Sized fun _ => True :=
  ⟨fun value rest => length_lt_writeNumber value.toNat rest, fun _ _ _ => trivial⟩

theorem alternative_sized (number : α → Nat) (ofNumber? : Nat → Option α)
    : (alternative number ofNumber?).Sized fun _ => True :=
  ⟨fun value rest => length_lt_writeNumber (number value) rest, fun _ _ _ => trivial⟩

theorem text_sized : text.Sized TextFits := by
  have longer (value : String) (rest : Bytes)
      : value.utf8ByteSize + rest.length < (text.write value rest).length := by
    have counted := length_lt_writeNumber value.utf8ByteSize (value.toUTF8.data.toList ++ rest)
    have size : value.toUTF8.data.toList.length = value.utf8ByteSize := rfl
    rwa [List.length_append, size] at counted
  refine ⟨fun value rest => ?_, fun value rest few => ?_⟩
  · exact Nat.lt_of_le_of_lt (Nat.le_add_left _ _) (longer value rest)
  · exact Nat.lt_trans (Nat.lt_of_le_of_lt (Nat.le_add_right _ _) (longer value rest)) few

theorem Sized.list (sized : first.Sized fits) : (list first).Sized (ListFits fits) := by
  refine ⟨fun values rest => ?_, fun values rest few => ?_⟩
  all_goals
    have items := length_le_foldr_write sized values rest
    have counted := length_lt_writeNumber values.length (values.foldr first.write rest)
  · exact Nat.lt_of_le_of_lt (Nat.le_trans (Nat.le_add_left _ _) items) counted
  · have fewer := Nat.lt_trans counted few
    exact ⟨Nat.lt_of_le_of_lt (Nat.le_trans (Nat.le_add_right _ _) items) fewer,
      fits_of_length_foldr_write sized fewer⟩

theorem Sized.optional (sized : first.Sized fits)
    : (optional first).Sized (OptionFits fits) := by
  refine ⟨fun value rest => ?_, fun value rest few => ?_⟩
  · cases value with
    | none => exact Nat.lt_succ_self _
    | some present => exact Nat.lt_succ_of_lt (sized.length_lt_write present rest)
  · cases value with
    | none => exact fun _ absent => nomatch absent
    | some present =>
        rintro _ ⟨⟩
        exact sized.fits_of_length present rest (Nat.lt_of_succ_lt few)

theorem Sized.congr {fitsToo : α → Prop} (sized : first.Sized fits)
    (same : ∀ value, fits value ↔ fitsToo value)
    : first.Sized fitsToo :=
  ⟨sized.length_lt_write,
    fun value rest few => (same value).mp (sized.fits_of_length value rest few)⟩

end Layout

-----------------------------------------------------------------------------------------
-- Records
-----------------------------------------------------------------------------------------

open Layout

theorem pointer_sized : pointer.Sized Pointer.Fits :=
  (text_sized.optional.pair (text_sized.optional.pair text_sized.optional)).via _ _

theorem property_sized : property.Sized Property.Fits :=
  (pointer_sized.pair text_sized.optional).via _ _

theorem containment_sized : containment.Sized Containment.Fits :=
  (pointer_sized.pair text_sized.list).via _ _

theorem target_sized : target.Sized Target.Fits :=
  (text_sized.optional.pair text_sized.optional).via _ _

theorem reference_sized : reference.Sized Reference.Fits :=
  (pointer_sized.pair target_sized.list).via _ _

theorem node_sized : node.Sized Instance.Fits :=
  (text_sized.pair (pointer_sized.pair (text_sized.optional.pair
    (property_sized.list.pair (containment_sized.list.pair
      (reference_sized.list.pair (text_sized.list.pair text_sized.optional))))))).via _ _

theorem configuration_sized : configuration.Sized Configuration.Fits :=
  ((text_sized.pair ((alternative_sized _ _).pair (alternative_sized _ _))).via _ _).congr
    fun _ => by simp [Configuration.Fits]

theorem snapshot_sized : snapshot.Sized Snapshot.Fits :=
  ((configuration_sized.pair (text_sized.list.pair (node_sized.list.pair
    (word64_sized.pair word64_sized)))).via _ _).congr
    fun _ => by simp [Snapshot.Fits]

end Binary

end ModelRepository
