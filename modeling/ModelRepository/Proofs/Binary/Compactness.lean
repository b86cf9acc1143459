import ModelRepository.Proofs.Binary.RoundTrip
import Mathlib.Data.List.Flatten
import Mathlib.Data.List.Perm.Subperm

/-! No bytes say a value in less space than those that are written for it.
A reader puts up with numbers that are padded with empty groups, and so with lengths and markers of
alternatives that are. A writer pads nothing, so whatever is read takes up no more space when it is
written again. The parts of a value are written side by side, and a list with fewer items takes up
less.
-/

namespace ModelRepository

namespace Binary

/-- A value is written in front of anything in the same way, in no more bytes than it can be read
from.
-/
structure Layout.Compact {α : Type} (layout : Layout α) : Prop where
  write_eq : ∀ value rest, layout.write value rest = layout.encode value ++ rest
  length_le
    : ∀ bytes value rest,
        layout.read bytes = .ok (value, rest)
        → (layout.encode value).length + rest.length ≤ bytes.length

-----------------------------------------------------------------------------------------
-- Numbers
-----------------------------------------------------------------------------------------

/-- A number is written in front of anything in the same way, by induction on its groups. -/
theorem writeNumber_eq (number : Nat) (rest : Bytes)
    : writeNumber number rest = writeNumber number [] ++ rest := by
  induction number using writeNumber.induct with
  | case1 number small =>
      rw [writeNumber, if_pos small, writeNumber, if_pos small]
      rfl
  | case2 number large ih =>
      rw [writeNumber, if_neg large, ih, writeNumber.eq_def number [], if_neg large]
      rfl

/-- The groups above the lowest one take at most one byte less. -/
theorem length_writeNumber_le_succ (number : Nat)
    : (writeNumber number []).length ≤ (writeNumber (number / 128) []).length + 1 := by
  rw [writeNumber]
  split
  · exact Nat.le_add_left 1 _
  · exact Nat.le_refl _

/-- A smaller number takes no more bytes, by induction on the groups of the larger one. -/
theorem length_writeNumber_mono {number other : Nat} (le : number ≤ other)
    : (writeNumber number []).length ≤ (writeNumber other []).length := by
  induction other using writeNumber.induct generalizing number with
  | case1 other small =>
      rw [writeNumber, if_pos (Nat.lt_of_le_of_lt le small), writeNumber, if_pos small]
      exact Nat.le_refl _
  | case2 other large ih =>
      calc (writeNumber number []).length
          ≤ (writeNumber (number / 128) []).length + 1 := length_writeNumber_le_succ number
        _ ≤ (writeNumber (other / 128) []).length + 1 :=
          Nat.add_le_add_right (ih (Nat.div_le_div_right le)) 1
        _ = (writeNumber other []).length := by
          rw [writeNumber.eq_def other, if_neg large, List.length_cons]

/-- The groups that were read make up a number that takes no more bytes than they do, padding or
not. By induction on the groups allowed.
-/
theorem length_le_of_readGroups {lastGroup groups scale value number : Nat} {bytes rest : Bytes}
    (done : readGroups lastGroup groups scale value bytes = .ok (number, rest))
    : ∃ digits,
        number = value + digits * scale
        ∧ (writeNumber digits []).length + rest.length ≤ bytes.length := by
  induction groups generalizing scale value bytes with
  | zero => cases done
  | succ groups ih =>
      cases bytes with
      | nil => cases done
      | cons byte tail =>
          rw [readGroups] at done
          split at done
          · rename_i small
            split at done
            · cases done
            · cases done
              refine ⟨byte.toNat, by rw [Nat.mod_eq_of_lt small], ?_⟩
              rw [writeNumber, if_pos small, List.length_cons, List.length_cons, List.length_nil]
              omega
          · obtain ⟨digits, rfl, behind⟩ := ih done
            have low : (byte.toNat % 128 + digits * 128) % 128 = byte.toNat % 128 := by omega
            have high : (byte.toNat % 128 + digits * 128) / 128 = digits := by omega
            have groups := add_groups (byte.toNat % 128 + digits * 128) scale value
            have longer := length_writeNumber_le_succ (byte.toNat % 128 + digits * 128)
            rw [low, high] at groups
            rw [high] at longer
            refine ⟨byte.toNat % 128 + digits * 128, groups, ?_⟩
            rw [List.length_cons]
            omega

theorem length_le_of_readNumber {width : Width} {number : Nat} {bytes rest : Bytes}
    (done : readNumber width bytes = .ok (number, rest))
    : (writeNumber number []).length + rest.length ≤ bytes.length := by
  obtain ⟨digits, rfl, length⟩ := length_le_of_readGroups done
  rwa [Nat.zero_add, Nat.mul_one]

-----------------------------------------------------------------------------------------
-- Runs of bytes and items
-----------------------------------------------------------------------------------------

/-- What is taken and what is left make up what was there, by induction on the number of bytes. -/
theorem append_of_takeBytes {taken bytes found rest : Bytes} {count : Nat}
    (done : takeBytes taken count bytes = .ok (found, rest))
    : found ++ rest = taken.reverse ++ bytes := by
  induction count generalizing taken bytes with
  | zero =>
      rw [takeBytes] at done
      cases done
      rfl
  | succ count ih =>
      cases bytes with
      | nil => cases done
      | cons byte tail => simpa using ih done

variable {α β : Type} {first : Layout α} {second : Layout β}

/-- Items are written side by side, by induction on the list. -/
theorem foldr_write_eq (compact : first.Compact) (values : List α) (rest : Bytes)
    : values.foldr first.write rest = values.flatMap first.encode ++ rest := by
  induction values with
  | nil => rfl
  | cons value tail ih => rw [List.foldr_cons, ih, compact.write_eq, List.flatMap_cons,
      List.append_assoc]

/-- The items that were read take no more bytes when they are written again, by induction on their
number.
-/
theorem length_le_of_readItems (compact : first.Compact) {items found : List α} {count : Nat}
    {bytes rest : Bytes} (done : readItems first.read items count bytes = .ok (found, rest))
    : ∃ values,
        found = items.reverse ++ values
        ∧ values.length = count
        ∧ (values.flatMap first.encode).length + rest.length ≤ bytes.length := by
  induction count generalizing items bytes with
  | zero =>
      cases done
      exact ⟨[], by simp⟩
  | succ count ih =>
      rw [readItems] at done
      split at done
      · cases done
      · rename_i item behind read
        obtain ⟨values, rfl, length, fewer⟩ := ih done
        have head := compact.length_le _ _ _ read
        refine ⟨item :: values, by simp, by simp [length], ?_⟩
        rw [List.flatMap_cons, List.length_append]
        omega

-----------------------------------------------------------------------------------------
-- Layouts
-----------------------------------------------------------------------------------------

namespace Layout

theorem word64_compact : word64.Compact := by
  refine ⟨fun value rest => writeNumber_eq value.toNat rest, fun bytes value rest done => ?_⟩
  simp only [word64, Reading.andThen_eq_ok_iff, Except.ok.injEq] at done
  obtain ⟨number, remaining, counted, same⟩ := done
  cases same
  have word : (UInt64.ofNat number).toNat = number :=
    UInt64.toNat_ofNat_of_lt' (lt_of_readNumber_word64 counted)
  have written : word64.encode (UInt64.ofNat number) = writeNumber number [] :=
    congrArg (writeNumber · []) word
  rw [written]
  exact length_le_of_readNumber counted

theorem text_compact : text.Compact := by
  have written (value : String) (rest : Bytes)
      : text.write value rest
        = writeNumber value.utf8ByteSize [] ++ value.toUTF8.data.toList ++ rest :=
    (writeNumber_eq _ _).trans (List.append_assoc _ _ _).symm
  refine ⟨fun value rest => ?_, fun bytes value rest done => ?_⟩
  · rw [encode, written, written, List.append_nil]
  · simp only [text, Reading.andThen_eq_ok_iff] at done
    obtain ⟨count, behind, counted, encoded, remaining, taken, decoded⟩ := done
    split at decoded
    · rename_i found valid
      cases decoded
      have same := toUTF8_of_fromUTF8? valid
      have size : value.utf8ByteSize = encoded.length := by
        rw [← same]
        rfl
      have number := length_le_of_readNumber counted
      have all := congrArg List.length (append_of_takeBytes taken)
      have length := length_of_takeBytes taken
      simp only [List.length_append, List.length_reverse, List.length_nil, Nat.zero_add]
        at all length
      rw [encode, written, same, size, length, List.append_nil, List.length_append, length]
      omega
    · cases decoded

theorem encode_pair (compact : first.Compact) (a : α) (b : β)
    : (pair first second).encode (a, b) = first.encode a ++ second.encode b :=
  compact.write_eq a _

theorem Compact.pair (left : first.Compact) (right : second.Compact)
    : (pair first second).Compact := by
  refine ⟨?_, ?_⟩
  · rintro ⟨a, b⟩ rest
    rw [encode_pair left, List.append_assoc, ← right.write_eq, ← left.write_eq]
    rfl
  · rintro bytes value rest done
    simp only [Layout.pair, Reading.andThen_eq_ok_iff, Except.ok.injEq] at done
    obtain ⟨a, behind, readA, b, remaining, readB, same⟩ := done
    cases same
    have front := left.length_le _ _ _ readA
    have back := right.length_le _ _ _ readB
    rw [encode_pair left, List.length_append]
    omega

theorem Compact.via (compact : first.Compact) {toForm : β → α} {ofForm : α → β}
    (forth : ∀ form, toForm (ofForm form) = form)
    : (first.via toForm ofForm).Compact := by
  refine ⟨fun value rest => compact.write_eq (toForm value) rest,
    fun bytes value rest done => ?_⟩
  simp only [Layout.via, Reading.andThen_eq_ok_iff, Except.ok.injEq] at done
  obtain ⟨form, remaining, read, same⟩ := done
  cases same
  have length := compact.length_le _ _ _ read
  rwa [← forth form] at length

theorem write_list (compact : first.Compact) (values : List α) (rest : Bytes)
    : (list first).write values rest
      = writeNumber values.length [] ++ values.flatMap first.encode ++ rest := by
  have counted : (list first).write values rest
      = writeNumber values.length [] ++ values.foldr first.write rest :=
    writeNumber_eq _ _
  rw [counted, foldr_write_eq compact, List.append_assoc]

theorem encode_list (compact : first.Compact) (values : List α)
    : (list first).encode values
      = writeNumber values.length [] ++ values.flatMap first.encode := by
  have written := write_list compact values []
  rwa [List.append_nil] at written

theorem Compact.list (compact : first.Compact) : (list first).Compact := by
  refine ⟨fun values rest => ?_, fun bytes values rest done => ?_⟩
  · rw [encode_list compact, write_list compact]
  · simp only [Layout.list, Reading.andThen_eq_ok_iff] at done
    obtain ⟨count, behind, counted, items⟩ := done
    obtain ⟨found, same, length, fewer⟩ := length_le_of_readItems compact items
    rw [List.reverse_nil, List.nil_append] at same
    have number := length_le_of_readNumber counted
    rw [same, encode_list compact, length, List.length_append]
    omega

/-- A list with some of the items of another one takes no more bytes, in whatever order. -/
theorem length_encode_list_le (compact : first.Compact) {values others : List α}
    (part : values.Subperm others)
    : ((list first).encode values).length ≤ ((list first).encode others).length := by
  obtain ⟨reordered, same, kept⟩ := part
  have items : (values.flatMap first.encode).length ≤ (others.flatMap first.encode).length := by
    rw [← (same.flatMap_right first.encode).length_eq]
    exact (kept.flatMap first.encode).length_le
  have counts : values.length ≤ others.length := same.length_eq ▸ kept.length_le
  rw [encode_list compact, encode_list compact, List.length_append, List.length_append]
  exact Nat.add_le_add (length_writeNumber_mono counts) items

theorem Compact.optional (compact : first.Compact) : (optional first).Compact := by
  refine ⟨fun value rest => ?_, fun bytes value rest done => ?_⟩
  · cases value with
    | none => rfl
    | some present => exact congrArg (List.cons 1) (compact.write_eq present rest)
  · cases bytes with
    | nil => cases done
    | cons marker tail =>
        simp only [Layout.optional] at done
        split at done
        · cases done
          rw [List.length_cons, Nat.add_comm]
          exact Nat.le_refl _
        · split at done
          · simp only [Reading.andThen_eq_ok_iff, Except.ok.injEq] at done
            obtain ⟨present, remaining, read, same⟩ := done
            cases same
            have length := compact.length_le _ _ _ read
            have marked : ((Layout.optional first).encode (some present)).length
                = (first.encode present).length + 1 := rfl
            rw [marked, List.length_cons]
            omega
          · cases done

/-- A choice is compact if each alternative has the number that it is found by. -/
theorem alternative_compact {number : α → Nat} {ofNumber? : Nat → Option α}
    (forth : ∀ index value, ofNumber? index = some value → number value = index)
    : (alternative number ofNumber?).Compact := by
  refine ⟨fun value rest => writeNumber_eq (number value) rest, fun bytes value rest done => ?_⟩
  simp only [alternative, Reading.andThen_eq_ok_iff] at done
  obtain ⟨index, remaining, counted, named⟩ := done
  split at named
  · rename_i found known
    cases named
    have written : (alternative number ofNumber?).encode value = writeNumber index [] :=
      congrArg (writeNumber · []) (forth index value known)
    rw [written]
    exact length_le_of_readNumber counted
  · cases named

/-- What was decoded takes no more bytes when it is encoded again. -/
theorem Compact.length_encode_le_of_decode (compact : first.Compact) {bytes : Bytes} {value : α}
    (done : first.decode bytes = .ok value)
    : (first.encode value).length ≤ bytes.length := by
  unfold decode at done
  split at done
  · cases done
  · rename_i found rest read
    cases done
    exact Nat.le_trans (Nat.le_add_right _ _) (compact.length_le _ _ _ read)

end Layout

-----------------------------------------------------------------------------------------
-- Records
-----------------------------------------------------------------------------------------

open Layout

theorem pointer_compact : pointer.Compact :=
  (text_compact.optional.pair (text_compact.optional.pair text_compact.optional)).via
    fun _ => rfl

theorem property_compact : property.Compact :=
  (pointer_compact.pair text_compact.optional).via fun _ => rfl

theorem containment_compact : containment.Compact :=
  (pointer_compact.pair text_compact.list).via fun _ => rfl

theorem target_compact : target.Compact :=
  (text_compact.optional.pair text_compact.optional).via fun _ => rfl

theorem reference_compact : reference.Compact :=
  (pointer_compact.pair target_compact.list).via fun _ => rfl

theorem node_compact : node.Compact :=
  (text_compact.pair (pointer_compact.pair (text_compact.optional.pair
    (property_compact.list.pair (containment_compact.list.pair
      (reference_compact.list.pair (text_compact.list.pair text_compact.optional))))))).via
    fun _ => rfl

theorem formatVersion_compact : formatVersion.Compact := by
  refine alternative_compact fun index version named => ?_
  match index with
  | 0 | 1 =>
      cases named
      rfl
  | _ + 2 => cases named

theorem history_compact : history.Compact := by
  refine alternative_compact fun index history named => ?_
  match index with
  | 0 | 1 =>
      cases named
      rfl
  | _ + 2 => cases named

theorem configuration_compact : configuration.Compact :=
  (text_compact.pair (formatVersion_compact.pair history_compact)).via fun _ => rfl

theorem snapshot_compact : snapshot.Compact :=
  (configuration_compact.pair (text_compact.list.pair (node_compact.list.pair
    (word64_compact.pair word64_compact)))).via fun _ => rfl

end Binary

end ModelRepository
