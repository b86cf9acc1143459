import ModelRepository.Proofs.Binary.RoundTrip

/-! The bytes of a value tell where the value ends.
A reader that has found a value would have found it in front of anything else too, and in the bytes
of a value it finds nothing but that value, whether or not the value fits. So the bytes of a value
do not go on from those of another one, and no part in front of them can be read.
-/

namespace ModelRepository

namespace Binary

/-- What is read does not depend on what follows it, and what is read from the bytes of a value is
that value.
-/
structure Layout.Delimited {α : Type} (layout : Layout α) : Prop where
  read_append
    : ∀ bytes value rest more,
        layout.read bytes = .ok (value, rest)
        → layout.read (bytes ++ more) = .ok (value, rest ++ more)
  eq_of_read_write
    : ∀ value rest found behind,
        layout.read (layout.write value rest) = .ok (found, behind) → found = value ∧ behind = rest

-----------------------------------------------------------------------------------------
-- Numbers
-----------------------------------------------------------------------------------------

/-- The groups of a number are read in front of anything, by induction on the groups allowed. -/
theorem readGroups_append {lastGroup groups scale value number : Nat} {bytes rest : Bytes}
    (done : readGroups lastGroup groups scale value bytes = .ok (number, rest)) (more : Bytes)
    : readGroups lastGroup groups scale value (bytes ++ more) = .ok (number, rest ++ more) := by
  induction groups generalizing scale value bytes with
  | zero => cases done
  | succ groups ih =>
      cases bytes with
      | nil => cases done
      | cons byte tail =>
          rw [List.cons_append]
          rw [readGroups] at done ⊢
          split at done
          · rename_i small
            rw [if_pos small]
            split at done
            · cases done
            · rename_i within
              cases done
              rw [if_neg within]
          · rename_i large
            rw [if_neg large]
            exact ih done

/-- Reading the groups of a number finds that number, if it finds any. By induction on the groups
allowed: where they run out, the number is cut short and refused.
-/
theorem eq_of_readGroups_writeNumber {lastGroup groups scale value number found : Nat}
    {rest behind : Bytes}
    (done : readGroups lastGroup groups scale value (writeNumber number rest) = .ok (found, behind))
    : found = value + number * scale ∧ behind = rest := by
  induction groups generalizing number scale value with
  | zero => cases done
  | succ groups ih =>
      rw [writeNumber] at done
      by_cases small : number < 128
      · rw [if_pos small, readGroups] at done
        simp only [toNat_ofNat_of_small small, if_pos small, Nat.mod_eq_of_lt small] at done
        split at done
        · cases done
        · cases done
          exact ⟨rfl, rfl⟩
      · have low : (number % 128 + 128) % 128 = number % 128 := by omega
        have more : ¬ number % 128 + 128 < 128 := by omega
        rw [if_neg small, readGroups] at done
        simp only [toNat_ofNat_group, low, if_neg more] at done
        obtain ⟨rfl, rfl⟩ := ih done
        exact ⟨add_groups number scale value, rfl⟩

theorem readNumber_append {width : Width} {number : Nat} {bytes rest : Bytes}
    (done : readNumber width bytes = .ok (number, rest)) (more : Bytes)
    : readNumber width (bytes ++ more) = .ok (number, rest ++ more) :=
  readGroups_append done more

theorem eq_of_readNumber_writeNumber {width : Width} {number found : Nat} {rest behind : Bytes}
    (done : readNumber width (writeNumber number rest) = .ok (found, behind))
    : found = number ∧ behind = rest := by
  simpa using eq_of_readGroups_writeNumber done

-----------------------------------------------------------------------------------------
-- Runs of bytes and items
-----------------------------------------------------------------------------------------

/-- A run of bytes is taken in front of anything, by induction on their number. -/
theorem takeBytes_extend {taken bytes found rest : Bytes} {count : Nat}
    (done : takeBytes taken count bytes = .ok (found, rest)) (more : Bytes)
    : takeBytes taken count (bytes ++ more) = .ok (found, rest ++ more) := by
  induction count generalizing taken bytes with
  | zero =>
      rw [takeBytes] at done ⊢
      cases done
      rfl
  | succ count ih =>
      cases bytes with
      | nil => cases done
      | cons byte tail => exact ih done

variable {α β : Type} {first : Layout α} {second : Layout β}

/-- Items are read in front of anything, by induction on their number. -/
theorem readItems_append (delimited : first.Delimited) {items found : List α} {count : Nat}
    {bytes rest : Bytes} (done : readItems first.read items count bytes = .ok (found, rest))
    (more : Bytes)
    : readItems first.read items count (bytes ++ more) = .ok (found, rest ++ more) := by
  induction count generalizing items bytes with
  | zero =>
      cases done
      rfl
  | succ count ih =>
      rw [readItems] at done ⊢
      split at done
      · cases done
      · rename_i item behind read
        simp only [delimited.read_append _ _ _ more read]
        exact ih done

/-- Reading as many items as were written finds these, by induction on the list. -/
theorem eq_of_readItems_foldr_write (delimited : first.Delimited) {values items found : List α}
    {rest behind : Bytes}
    (done : readItems first.read items values.length (values.foldr first.write rest)
      = .ok (found, behind))
    : found = items.reverse ++ values ∧ behind = rest := by
  induction values generalizing items with
  | nil =>
      cases done
      simp
  | cons value tail ih =>
      rw [List.length_cons, List.foldr_cons, readItems] at done
      split at done
      · cases done
      · rename_i item remaining read
        obtain ⟨rfl, rfl⟩ := delimited.eq_of_read_write _ _ _ _ read
        simpa using ih done

-----------------------------------------------------------------------------------------
-- Layouts
-----------------------------------------------------------------------------------------

namespace Layout

theorem word64_delimited : word64.Delimited := by
  refine ⟨fun bytes value rest more done => ?_, fun value rest found behind done => ?_⟩
  · simp only [word64, Reading.andThen_eq_ok_iff, Except.ok.injEq] at done ⊢
    obtain ⟨number, remaining, counted, same⟩ := done
    cases same
    exact ⟨number, rest ++ more, readNumber_append counted more, rfl⟩
  · simp only [word64, Reading.andThen_eq_ok_iff, Except.ok.injEq] at done
    obtain ⟨number, remaining, counted, same⟩ := done
    obtain ⟨rfl, rfl⟩ := eq_of_readNumber_writeNumber counted
    cases same
    simp

theorem text_delimited : text.Delimited := by
  refine ⟨fun bytes value rest more done => ?_, fun value rest found behind done => ?_⟩
  · simp only [text, Reading.andThen_eq_ok_iff] at done ⊢
    obtain ⟨count, tail, counted, encoded, remaining, taken, decoded⟩ := done
    refine ⟨count, tail ++ more, readNumber_append counted more, encoded, remaining ++ more,
      takeBytes_extend taken more, ?_⟩
    split at decoded
    · cases decoded
      rfl
    · cases decoded
  · simp only [text, Reading.andThen_eq_ok_iff] at done
    obtain ⟨count, tail, counted, encoded, remaining, taken, decoded⟩ := done
    obtain ⟨rfl, rfl⟩ := eq_of_readNumber_writeNumber counted
    cases (takeBytes_append [] value.toUTF8.data.toList rest).symm.trans taken
    rw [List.reverse_nil, List.nil_append, fromUTF8?_toUTF8] at decoded
    cases decoded
    exact ⟨rfl, rfl⟩

theorem Delimited.pair (left : first.Delimited) (right : second.Delimited)
    : (pair first second).Delimited := by
  refine ⟨fun bytes value rest more done => ?_, fun value rest found behind done => ?_⟩
  · simp only [Layout.pair, Reading.andThen_eq_ok_iff, Except.ok.injEq] at done ⊢
    obtain ⟨a, tail, readA, b, remaining, readB, same⟩ := done
    cases same
    exact ⟨a, tail ++ more, left.read_append _ _ _ more readA, b, rest ++ more,
      right.read_append _ _ _ more readB, rfl⟩
  · simp only [Layout.pair, Reading.andThen_eq_ok_iff, Except.ok.injEq] at done
    obtain ⟨a, tail, readA, b, remaining, readB, same⟩ := done
    obtain ⟨rfl, rfl⟩ := left.eq_of_read_write _ _ _ _ readA
    obtain ⟨rfl, rfl⟩ := right.eq_of_read_write _ _ _ _ readB
    cases same
    exact ⟨rfl, rfl⟩

theorem Delimited.via (delimited : first.Delimited) {toForm : β → α} {ofForm : α → β}
    (back : ∀ value, ofForm (toForm value) = value)
    : (first.via toForm ofForm).Delimited := by
  refine ⟨fun bytes value rest more done => ?_, fun value rest found behind done => ?_⟩
  · simp only [Layout.via, Reading.andThen_eq_ok_iff, Except.ok.injEq] at done ⊢
    obtain ⟨form, remaining, read, same⟩ := done
    cases same
    exact ⟨form, rest ++ more, delimited.read_append _ _ _ more read, rfl⟩
  · simp only [Layout.via, Reading.andThen_eq_ok_iff, Except.ok.injEq] at done
    obtain ⟨form, remaining, read, same⟩ := done
    obtain ⟨rfl, rfl⟩ := delimited.eq_of_read_write _ _ _ _ read
    cases same
    exact ⟨back value, rfl⟩

theorem Delimited.list (delimited : first.Delimited) : (list first).Delimited := by
  refine ⟨fun bytes value rest more done => ?_, fun value rest found behind done => ?_⟩
  · simp only [Layout.list, Reading.andThen_eq_ok_iff] at done ⊢
    obtain ⟨count, tail, counted, items⟩ := done
    exact ⟨count, tail ++ more, readNumber_append counted more,
      readItems_append delimited items more⟩
  · simp only [Layout.list, Reading.andThen_eq_ok_iff] at done
    obtain ⟨count, tail, counted, items⟩ := done
    obtain ⟨rfl, rfl⟩ := eq_of_readNumber_writeNumber counted
    simpa using eq_of_readItems_foldr_write delimited items

theorem Delimited.optional (delimited : first.Delimited) : (optional first).Delimited := by
  refine ⟨fun bytes value rest more done => ?_, fun value rest found behind done => ?_⟩
  · cases bytes with
    | nil => cases done
    | cons marker tail =>
        rw [List.cons_append]
        simp only [Layout.optional] at done ⊢
        split at done
        · rename_i absent
          cases done
          rw [if_pos absent]
        · rename_i present
          rw [if_neg present]
          split at done
          · rename_i one
            rw [if_pos one]
            simp only [Reading.andThen_eq_ok_iff, Except.ok.injEq] at done ⊢
            obtain ⟨value, remaining, read, same⟩ := done
            cases same
            exact ⟨value, rest ++ more, delimited.read_append _ _ _ more read, rfl⟩
          · cases done
  · cases value with
    | none =>
        cases done
        exact ⟨rfl, rfl⟩
    | some present =>
        have read : (first.read (first.write present rest)).andThen
            (fun present rest => .ok (some present, rest)) = .ok (found, behind) := done
        simp only [Reading.andThen_eq_ok_iff, Except.ok.injEq] at read
        obtain ⟨value, remaining, read, same⟩ := read
        obtain ⟨rfl, rfl⟩ := delimited.eq_of_read_write _ _ _ _ read
        cases same
        exact ⟨rfl, rfl⟩

/-- A choice is delimited if its numbers lead back to the alternatives. -/
theorem alternative_delimited {number : α → Nat} {ofNumber? : Nat → Option α}
    (back : ∀ value, ofNumber? (number value) = some value)
    : (alternative number ofNumber?).Delimited := by
  refine ⟨fun bytes value rest more done => ?_, fun value rest found behind done => ?_⟩
  · simp only [alternative, Reading.andThen_eq_ok_iff] at done ⊢
    obtain ⟨index, remaining, counted, named⟩ := done
    refine ⟨index, remaining ++ more, readNumber_append counted more, ?_⟩
    split at named
    · cases named
      rfl
    · cases named
  · simp only [alternative, Reading.andThen_eq_ok_iff] at done
    obtain ⟨index, remaining, counted, named⟩ := done
    obtain ⟨rfl, rfl⟩ := eq_of_readNumber_writeNumber counted
    rw [back] at named
    cases named
    exact ⟨rfl, rfl⟩

/-- Bytes that can be read are no proper part in front of the bytes of a value. -/
theorem Delimited.eq_nil_of_decode (delimited : first.Delimited) {value found : α}
    {cut more : Bytes} (whole : cut ++ more = first.encode value)
    (done : first.decode cut = .ok found)
    : more = [] := by
  unfold decode at done
  split at done
  · cases done
  · rename_i held rest read
    have extended := delimited.read_append cut held rest more read
    rw [whole] at extended
    obtain ⟨-, nothing⟩ := delimited.eq_of_read_write _ _ _ _ extended
    exact (List.append_eq_nil_iff.mp nothing).2

end Layout

-----------------------------------------------------------------------------------------
-- Records
-----------------------------------------------------------------------------------------

open Layout

theorem pointer_delimited : pointer.Delimited :=
  (text_delimited.optional.pair (text_delimited.optional.pair text_delimited.optional)).via
    fun _ => rfl

theorem property_delimited : property.Delimited :=
  (pointer_delimited.pair text_delimited.optional).via fun _ => rfl

theorem containment_delimited : containment.Delimited :=
  (pointer_delimited.pair text_delimited.list).via fun _ => rfl

theorem target_delimited : target.Delimited :=
  (text_delimited.optional.pair text_delimited.optional).via fun _ => rfl

theorem reference_delimited : reference.Delimited :=
  (pointer_delimited.pair target_delimited.list).via fun _ => rfl

theorem node_delimited : node.Delimited :=
  (text_delimited.pair (pointer_delimited.pair (text_delimited.optional.pair
    (property_delimited.list.pair (containment_delimited.list.pair
      (reference_delimited.list.pair (text_delimited.list.pair text_delimited.optional))))))).via
    fun _ => rfl

theorem formatVersion_delimited : formatVersion.Delimited :=
  alternative_delimited fun version => by cases version <;> rfl

theorem history_delimited : history.Delimited :=
  alternative_delimited fun history => by cases history <;> rfl

theorem language_delimited : language.Delimited :=
  (text_delimited.pair text_delimited).via fun _ => rfl

theorem chunk_delimited : chunk.Delimited :=
  (formatVersion_delimited.pair (language_delimited.list.pair node_delimited.list)).via
    fun _ => rfl

theorem configuration_delimited : configuration.Delimited :=
  (text_delimited.pair (formatVersion_delimited.pair history_delimited)).via fun _ => rfl

theorem snapshot_delimited : snapshot.Delimited :=
  (configuration_delimited.pair (text_delimited.list.pair (node_delimited.list.pair
    (word64_delimited.pair word64_delimited)))).via fun _ => rfl

end Binary

end ModelRepository
