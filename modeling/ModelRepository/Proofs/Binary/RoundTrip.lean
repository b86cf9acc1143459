import ModelRepository.Binary.Records
import ModelRepository.Tables

/-! Values come back from the bytes that they are written to.
A layout is faithful to the values whose sizes it can write down: each of them is read back in
front of whatever follows, and nothing else is ever read. Faithful parts make faithful compounds,
so the records are settled field by field.
-/

namespace ModelRepository

-----------------------------------------------------------------------------------------
-- Values whose sizes fit in a word
-----------------------------------------------------------------------------------------

namespace Binary

/-- A text whose number of bytes is a word. -/
def TextFits (text : String) : Prop :=
  text.utf8ByteSize < UInt64.size

/-- A list whose length is a word and whose items fit. -/
def ListFits {α : Type} (itemFits : α → Prop) (values : List α) : Prop :=
  values.length < UInt64.size ∧ ∀ value ∈ values, itemFits value

/-- A value that fits if it is present. -/
def OptionFits {α : Type} (valueFits : α → Prop) (value : Option α) : Prop :=
  ∀ present ∈ value, valueFits present

instance (text : String) : Decidable (TextFits text) :=
  inferInstanceAs (Decidable (_ < _))

instance {α : Type} (itemFits : α → Prop) [DecidablePred itemFits] (values : List α)
    : Decidable (ListFits itemFits values) :=
  inferInstanceAs (Decidable (_ ∧ _))

instance {α : Type} (valueFits : α → Prop) [DecidablePred valueFits] (value : Option α)
    : Decidable (OptionFits valueFits value) :=
  inferInstanceAs (Decidable (∀ present ∈ value, valueFits present))

end Binary

open Binary

def Pointer.Fits (pointer : Pointer) : Prop :=
  OptionFits TextFits pointer.language
  ∧ OptionFits TextFits pointer.version
  ∧ OptionFits TextFits pointer.key

instance : DecidablePred Pointer.Fits :=
  fun _ => inferInstanceAs (Decidable (_ ∧ _))

def Property.Fits (property : Property) : Prop :=
  property.pointer.Fits ∧ OptionFits TextFits property.value

instance : DecidablePred Property.Fits :=
  fun _ => inferInstanceAs (Decidable (_ ∧ _))

def Containment.Fits (containment : Containment) : Prop :=
  containment.pointer.Fits ∧ ListFits TextFits containment.children

instance : DecidablePred Containment.Fits :=
  fun _ => inferInstanceAs (Decidable (_ ∧ _))

def Target.Fits (target : Target) : Prop :=
  OptionFits TextFits target.id ∧ OptionFits TextFits target.resolveInfo

instance : DecidablePred Target.Fits :=
  fun _ => inferInstanceAs (Decidable (_ ∧ _))

def Reference.Fits (reference : Reference) : Prop :=
  reference.pointer.Fits ∧ ListFits Target.Fits reference.targets

instance : DecidablePred Reference.Fits :=
  fun _ => inferInstanceAs (Decidable (_ ∧ _))

/-- An instance of which all texts and lists have sizes that are words, as on any machine that can
hold it.
-/
def Instance.Fits (node : Instance) : Prop :=
  TextFits node.id
  ∧ node.classifier.Fits
  ∧ OptionFits TextFits node.parent
  ∧ ListFits Property.Fits node.properties
  ∧ ListFits Containment.Fits node.containments
  ∧ ListFits Reference.Fits node.references
  ∧ ListFits TextFits node.annotations
  ∧ OptionFits TextFits node.annotated

instance : DecidablePred Instance.Fits :=
  fun _ => inferInstanceAs (Decidable (_ ∧ _))

def Language.Fits (language : Language) : Prop :=
  TextFits language.key ∧ TextFits language.version

instance : DecidablePred Language.Fits :=
  fun _ => inferInstanceAs (Decidable (_ ∧ _))

/-- A chunk of which all texts and lists have sizes that are words, as on any machine that can
hold it.
-/
def Chunk.Fits (chunk : Chunk) : Prop :=
  ListFits Language.Fits chunk.languages ∧ ListFits Instance.Fits chunk.instances

instance : DecidablePred Chunk.Fits :=
  fun _ => inferInstanceAs (Decidable (_ ∧ _))

def Configuration.Fits (configuration : Configuration) : Prop :=
  TextFits configuration.name

instance : DecidablePred Configuration.Fits :=
  fun configuration => inferInstanceAs (Decidable (TextFits configuration.name))

def Snapshot.Fits (snapshot : Snapshot) : Prop :=
  snapshot.configuration.Fits
  ∧ ListFits TextFits snapshot.partitions
  ∧ ListFits Instance.Fits snapshot.nodes

namespace Binary

/-- Every value that fits is read back in front of whatever follows it, and whatever is read
fits.
-/
structure Layout.Faithful {α : Type} (layout : Layout α) (fits : α → Prop) : Prop where
  read_write
    : ∀ value rest, fits value → layout.read (layout.write value rest) = .ok (value, rest)
  fits_of_read : ∀ bytes value rest, layout.read bytes = .ok (value, rest) → fits value

-----------------------------------------------------------------------------------------
-- Numbers
-----------------------------------------------------------------------------------------

theorem Reading.andThen_eq_ok_iff {α β : Type} (reading : Reading α)
    (next : α → Bytes → Reading β) (result : β × Bytes)
    : reading.andThen next = .ok result
      ↔ ∃ value rest, reading = .ok (value, rest) ∧ next value rest = .ok result := by
  cases reading with
  | error fault => simp [Reading.andThen]
  | ok found =>
      obtain ⟨value, rest⟩ := found
      simp [Reading.andThen, and_assoc]

/-- How many numbers there are room for in a last group up to `lastGroup` behind other groups. -/
def capacity (lastGroup : Nat) : Nat → Nat
  | 0 => lastGroup + 1
  | groups + 1 => 128 * capacity lastGroup groups

theorem capacity_pos (lastGroup groups : Nat) : 0 < capacity lastGroup groups := by
  induction groups with
  | zero => exact Nat.succ_pos lastGroup
  | succ groups ih => exact Nat.mul_pos (by decide) ih

/-- A number is its lowest group and all the others. -/
theorem add_groups (number scale value : Nat)
    : value + number % 128 * scale + number / 128 * (scale * 128) = value + number * scale := by
  have split : number = number % 128 + number / 128 * 128 := by omega
  calc value + number % 128 * scale + number / 128 * (scale * 128)
      = value + (number % 128 + number / 128 * 128) * scale := by
        rw [Nat.add_mul, Nat.add_assoc]
        ac_rfl
    _ = value + number * scale := by rw [← split]

/-- The byte of the last group of a number. -/
theorem toNat_ofNat_of_small {number : Nat} (small : number < 128)
    : (UInt8.ofNat number).toNat = number := by
  rw [UInt8.toNat_ofNat']
  omega

/-- The byte of a group that others follow has its top bit set. -/
theorem toNat_ofNat_group (number : Nat)
    : (UInt8.ofNat (number % 128 + 128)).toNat = number % 128 + 128 := by
  rw [UInt8.toNat_ofNat']
  omega

/-- A number that fits in the groups still allowed is read back, by induction on these groups. -/
theorem readGroups_writeNumber {lastGroup : Nat} (bound : lastGroup < 128) (groups : Nat)
    {number : Nat} (fits : number < capacity lastGroup groups) (scale value : Nat) (rest : Bytes)
    : readGroups lastGroup (groups + 1) scale value (writeNumber number rest)
      = .ok (value + number * scale, rest) := by
  induction groups generalizing number scale value with
  | zero =>
      have small : number < 128 := Nat.lt_of_lt_of_le fits bound
      have last : ¬ lastGroup < number := Nat.not_lt.mpr (Nat.le_of_lt_succ fits)
      rw [writeNumber, if_pos small]
      simp [readGroups, toNat_ofNat_of_small small, small, last, Nat.mod_eq_of_lt small]
  | succ groups ih =>
      rw [writeNumber]
      by_cases small : number < 128
      · simp [readGroups, toNat_ofNat_of_small small, small, Nat.mod_eq_of_lt small]
      · have shorter : number / 128 < capacity lastGroup groups := by
          rw [capacity] at fits
          omega
        have low : (number % 128 + 128) % 128 = number % 128 := by omega
        have more : ¬ number % 128 + 128 < 128 := by omega
        rw [if_neg small, readGroups]
        simp only [toNat_ofNat_group, low, more, if_false]
        rw [ih shorter, add_groups]

theorem mul_add_le_mul_of_lt (scale : Nat) {digit room : Nat} (less : digit < room)
    : digit * scale + scale ≤ scale * room := by
  have scaled := Nat.mul_le_mul_left scale less
  rwa [Nat.mul_succ, Nat.mul_comm scale digit] at scaled

/-- What is read is smaller than the groups allow, by induction on the groups: each one adds a
multiple of its scale that is less than the scale of the next one.
-/
theorem le_of_readGroups {lastGroup groups scale value number : Nat} {bytes rest : Bytes}
    (done : readGroups lastGroup (groups + 1) scale value bytes = .ok (number, rest))
    : number + scale ≤ value + scale * capacity lastGroup groups := by
  induction groups generalizing scale value bytes with
  | zero =>
      cases bytes with
      | nil => cases done
      | cons byte tail =>
          rw [readGroups] at done
          split at done
          · rename_i small
            split at done
            · cases done
            · rename_i within
              simp only [true_and] at within
              cases done
              have last := mul_add_le_mul_of_lt scale (Nat.lt_succ_of_le (Nat.le_of_not_lt within))
              rw [Nat.mod_eq_of_lt small, capacity, Nat.add_assoc]
              exact Nat.add_le_add_left last value
          · cases done
  | succ groups ih =>
      cases bytes with
      | nil => cases done
      | cons byte tail =>
          have positive := capacity_pos lastGroup groups
          rw [readGroups] at done
          split at done
          · rename_i small
            simp only [Nat.add_one_ne_zero, false_and, if_false] at done
            cases done
            have last : byte.toNat < 128 * capacity lastGroup groups := by omega
            rw [Nat.mod_eq_of_lt small, capacity, Nat.add_assoc]
            exact Nat.add_le_add_left (mul_add_le_mul_of_lt scale last) value
          · have behind := ih done
            have digit := mul_add_le_mul_of_lt scale (Nat.mod_lt byte.toNat (by decide : 0 < 128))
            rw [Nat.mul_assoc] at behind
            rw [capacity]
            omega

theorem readNumber_word64_writeNumber {number : Nat} (fits : number < UInt64.size) (rest : Bytes)
    : readNumber .word64 (writeNumber number rest) = .ok (number, rest) := by
  have read := readGroups_writeNumber (by decide : 1 < 128) 9 fits 1 0 rest
  rwa [Nat.zero_add, Nat.mul_one] at read

theorem readNumber_word32_writeNumber {number : Nat} (fits : number < UInt32.size) (rest : Bytes)
    : readNumber .word32 (writeNumber number rest) = .ok (number, rest) := by
  have read := readGroups_writeNumber (by decide : 15 < 128) 4 fits 1 0 rest
  rwa [Nat.zero_add, Nat.mul_one] at read

theorem lt_of_readNumber_word64 {number : Nat} {bytes rest : Bytes}
    (done : readNumber .word64 bytes = .ok (number, rest))
    : number < UInt64.size := by
  have bound : number + 1 ≤ 0 + 1 * capacity 1 9 := le_of_readGroups done
  rwa [Nat.zero_add, Nat.one_mul] at bound

-----------------------------------------------------------------------------------------
-- Runs of bytes and items
-----------------------------------------------------------------------------------------

theorem takeBytes_append (taken bytes rest : Bytes)
    : takeBytes taken bytes.length (bytes ++ rest) = .ok (taken.reverse ++ bytes, rest) := by
  induction bytes generalizing taken with
  | nil => simp [takeBytes]
  | cons byte tail ih => simp [takeBytes, ih]

theorem length_of_takeBytes {taken bytes found rest : Bytes} {count : Nat}
    (done : takeBytes taken count bytes = .ok (found, rest))
    : found.length = taken.length + count := by
  induction count generalizing taken bytes with
  | zero =>
      rw [takeBytes] at done
      cases done
      simp
  | succ count ih =>
      cases bytes with
      | nil => cases done
      | cons byte tail =>
          rw [ih done, List.length_cons]
          omega

variable {α β : Type} {first : Layout α} {second : Layout β} {fits : α → Prop}
  {secondFits : β → Prop}

theorem readItems_foldr_write (faithful : first.Faithful fits) {values : List α}
    (all : ∀ value ∈ values, fits value) (items : List α) (rest : Bytes)
    : readItems first.read items values.length (values.foldr first.write rest)
      = .ok (items.reverse ++ values, rest) := by
  induction values generalizing items with
  | nil => simp [readItems]
  | cons value tail ih =>
      have head := faithful.read_write value (tail.foldr first.write rest)
        (all value List.mem_cons_self)
      simp [readItems, head, ih fun other member => all other (List.mem_cons_of_mem value member)]

theorem fits_of_readItems (faithful : first.Faithful fits) {items found : List α} {count : Nat}
    {bytes rest : Bytes} (before : ∀ value ∈ items, fits value)
    (done : readItems first.read items count bytes = .ok (found, rest))
    : found.length = items.length + count ∧ ∀ value ∈ found, fits value := by
  induction count generalizing items bytes with
  | zero =>
      cases done
      simpa using before
  | succ count ih =>
      rw [readItems] at done
      split at done
      · cases done
      · rename_i item behind read
        have joined : ∀ value ∈ item :: items, fits value :=
          List.forall_mem_cons.mpr ⟨faithful.fits_of_read _ _ _ read, before⟩
        obtain ⟨length, all⟩ := ih joined done
        refine ⟨?_, all⟩
        rw [length, List.length_cons]
        omega

-----------------------------------------------------------------------------------------
-- Layouts
-----------------------------------------------------------------------------------------

namespace Layout

theorem Faithful.pair (left : first.Faithful fits) (right : second.Faithful secondFits)
    : (pair first second).Faithful fun value => fits value.1 ∧ secondFits value.2 := by
  refine ⟨?_, ?_⟩
  · rintro ⟨a, b⟩ rest ⟨aFits, bFits⟩
    simp [Layout.pair, Reading.andThen, left.read_write _ _ aFits, right.read_write _ _ bFits]
  · intro bytes value rest done
    simp only [Layout.pair, Reading.andThen_eq_ok_iff, Except.ok.injEq] at done
    obtain ⟨a, behind, readA, b, remaining, readB, same⟩ := done
    cases same
    exact ⟨left.fits_of_read _ _ _ readA, right.fits_of_read _ _ _ readB⟩

/-- A type that is laid out in the form of another one fits when its form does. -/
theorem Faithful.via (faithful : first.Faithful fits) {toForm : β → α} {ofForm : α → β}
    (back : ∀ value, ofForm (toForm value) = value) (forth : ∀ form, toForm (ofForm form) = form)
    : (first.via toForm ofForm).Faithful fun value => fits (toForm value) := by
  refine ⟨?_, ?_⟩
  · intro value rest formFits
    simp [Layout.via, Reading.andThen, faithful.read_write _ _ formFits, back]
  · intro bytes value rest done
    simp only [Layout.via, Reading.andThen_eq_ok_iff, Except.ok.injEq] at done
    obtain ⟨form, remaining, read, same⟩ := done
    cases same
    rw [forth]
    exact faithful.fits_of_read _ _ _ read

theorem byte_faithful : byte.Faithful fun _ => True :=
  ⟨fun _ _ _ => rfl, fun _ _ _ _ => trivial⟩

theorem word64_faithful : word64.Faithful fun _ => True := by
  refine ⟨?_, fun _ _ _ _ => trivial⟩
  intro value rest _
  simp [word64, Reading.andThen, readNumber_word64_writeNumber value.toNat_lt]

theorem fromUTF8?_toUTF8 (value : String)
    : String.fromUTF8? ⟨value.toUTF8.data.toList.toArray⟩ = some value := by
  simp [String.fromUTF8?, String.fromUTF8, value.isValidUTF8]

/-- Bytes that are read as a text are the bytes of that text. -/
theorem toUTF8_of_fromUTF8? {encoded : Bytes} {value : String}
    (valid : String.fromUTF8? ⟨encoded.toArray⟩ = some value)
    : value.toUTF8.data.toList = encoded := by
  unfold String.fromUTF8? at valid
  split at valid
  · cases valid
    rfl
  · cases valid

theorem text_faithful : text.Faithful TextFits := by
  refine ⟨?_, ?_⟩
  · intro value rest fits
    have bytes : takeBytes [] value.utf8ByteSize (value.toUTF8.data.toList ++ rest)
        = .ok (value.toUTF8.data.toList, rest) :=
      takeBytes_append [] value.toUTF8.data.toList rest
    simp only [text, Reading.andThen, readNumber_word64_writeNumber fits, bytes, fromUTF8?_toUTF8]
  · intro bytes value rest done
    simp only [text, Reading.andThen_eq_ok_iff] at done
    obtain ⟨count, behind, counted, encoded, remaining, taken, decoded⟩ := done
    split at decoded
    · rename_i found valid
      cases decoded
      have size : value.utf8ByteSize = encoded.length :=
        congrArg List.length (toUTF8_of_fromUTF8? valid)
      have length := length_of_takeBytes taken
      have bound := lt_of_readNumber_word64 counted
      rw [TextFits, size, length]
      simpa using bound
    · cases decoded

theorem Faithful.list (faithful : first.Faithful fits) : (list first).Faithful (ListFits fits) := by
  refine ⟨?_, ?_⟩
  · rintro values rest ⟨length, all⟩
    simp [Layout.list, Reading.andThen, readNumber_word64_writeNumber length,
      readItems_foldr_write faithful all]
  · intro bytes values rest done
    simp only [Layout.list, Reading.andThen_eq_ok_iff] at done
    obtain ⟨count, behind, counted, items⟩ := done
    obtain ⟨length, all⟩ := fits_of_readItems faithful (List.forall_mem_nil _) items
    have bound := lt_of_readNumber_word64 counted
    refine ⟨?_, all⟩
    simpa [length] using bound

theorem Faithful.optional (faithful : first.Faithful fits)
    : (optional first).Faithful (OptionFits fits) := by
  refine ⟨?_, ?_⟩
  · intro value rest presentFits
    cases value with
    | none => simp [Layout.optional]
    | some present =>
        simp [Layout.optional, Reading.andThen, faithful.read_write _ _ (presentFits present rfl)]
  · intro bytes value rest done
    cases bytes with
    | nil => cases done
    | cons marker tail =>
        simp only [Layout.optional] at done
        split at done
        · cases done
          exact fun _ absent => nomatch absent
        · split at done
          · simp only [Reading.andThen_eq_ok_iff, Except.ok.injEq] at done
            obtain ⟨present, remaining, read, same⟩ := done
            cases same
            rintro _ ⟨⟩
            exact faithful.fits_of_read _ _ _ read
          · cases done

/-- A choice is faithful if its numbers are words of 32 bits that lead back to the alternatives. -/
theorem alternative_faithful {number : α → Nat} {ofNumber? : Nat → Option α}
    (small : ∀ value, number value < UInt32.size)
    (back : ∀ value, ofNumber? (number value) = some value)
    : (alternative number ofNumber?).Faithful fun _ => True := by
  refine ⟨?_, fun _ _ _ _ => trivial⟩
  intro value rest _
  simp [alternative, Reading.andThen, readNumber_word32_writeNumber (small value), back]

/-- What fits may be told in another way. -/
theorem Faithful.congr {fitsToo : α → Prop} (faithful : first.Faithful fits)
    (same : ∀ value, fits value ↔ fitsToo value)
    : first.Faithful fitsToo :=
  ⟨fun value rest valueFits => faithful.read_write value rest ((same value).mpr valueFits),
    fun bytes value rest done => (same value).mp (faithful.fits_of_read bytes value rest done)⟩

/-- A value that fits is read back from its own bytes. -/
theorem Faithful.decode_encode (faithful : first.Faithful fits) {value : α} (valueFits : fits value)
    : first.decode (first.encode value) = .ok value := by
  simp [decode, encode, faithful.read_write value [] valueFits]

/-- Values that fit have different bytes, since reading them tells them apart. -/
theorem Faithful.encode_inj (faithful : first.Faithful fits) {left right : α}
    (leftFits : fits left) (rightFits : fits right)
    : first.encode left = first.encode right ↔ left = right := by
  refine ⟨fun same => ?_, fun same => same ▸ rfl⟩
  have decoded := faithful.decode_encode leftFits
  rw [same, faithful.decode_encode rightFits] at decoded
  exact (Except.ok.inj decoded).symm

theorem Faithful.fits_of_decode (faithful : first.Faithful fits) {bytes : Bytes} {value : α}
    (done : first.decode bytes = .ok value)
    : fits value := by
  unfold decode at done
  split at done
  · cases done
  · rename_i read
    cases done
    exact faithful.fits_of_read _ _ _ read

end Layout

-----------------------------------------------------------------------------------------
-- Records
-----------------------------------------------------------------------------------------

open Layout

theorem pointer_faithful : pointer.Faithful Pointer.Fits :=
  .via (.pair (.optional text_faithful) (.pair (.optional text_faithful) (.optional text_faithful)))
    (fun _ => rfl) (fun _ => rfl)

theorem property_faithful : property.Faithful Property.Fits :=
  .via (.pair pointer_faithful (.optional text_faithful)) (fun _ => rfl) (fun _ => rfl)

theorem containment_faithful : containment.Faithful Containment.Fits :=
  .via (.pair pointer_faithful (.list text_faithful)) (fun _ => rfl) (fun _ => rfl)

theorem target_faithful : target.Faithful Target.Fits :=
  .via (.pair (.optional text_faithful) (.optional text_faithful)) (fun _ => rfl) (fun _ => rfl)

theorem reference_faithful : reference.Faithful Reference.Fits :=
  .via (.pair pointer_faithful (.list target_faithful)) (fun _ => rfl) (fun _ => rfl)

theorem node_faithful : node.Faithful Instance.Fits :=
  .via (.pair text_faithful (.pair pointer_faithful (.pair (.optional text_faithful)
      (.pair (.list property_faithful) (.pair (.list containment_faithful)
        (.pair (.list reference_faithful) (.pair (.list text_faithful)
          (.optional text_faithful))))))))
    (fun _ => rfl) (fun _ => rfl)

theorem formatVersion_faithful : formatVersion.Faithful fun _ => True :=
  alternative_faithful (fun version => by cases version <;> decide)
    (fun version => by cases version <;> rfl)

theorem history_faithful : history.Faithful fun _ => True :=
  alternative_faithful (fun history => by cases history <;> decide)
    (fun history => by cases history <;> rfl)

theorem language_faithful : language.Faithful Language.Fits :=
  .via (.pair text_faithful text_faithful) (fun _ => rfl) (fun _ => rfl)

theorem chunk_faithful : chunk.Faithful Chunk.Fits :=
  .congr
    (.via (.pair formatVersion_faithful (.pair (.list language_faithful) (.list node_faithful)))
      (fun _ => rfl) (fun _ => rfl))
    fun _ => by simp [Chunk.Fits]

theorem configuration_faithful : configuration.Faithful Configuration.Fits :=
  .congr
    (.via (.pair text_faithful (.pair formatVersion_faithful history_faithful))
      (fun _ => rfl) (fun _ => rfl))
    fun _ => by simp [Configuration.Fits]

theorem record_faithful : Record.layout.Faithful fun record => record.configuration.Fits :=
  .congr
    (.via (.pair configuration_faithful (.pair word64_faithful word64_faithful))
      (fun _ => rfl) (fun _ => rfl))
    fun _ => by simp

theorem snapshot_faithful : snapshot.Faithful Snapshot.Fits :=
  .congr
    (.via (.pair configuration_faithful (.pair (.list text_faithful) (.pair (.list node_faithful)
        (.pair word64_faithful word64_faithful))))
      (fun _ => rfl) (fun _ => rfl))
    fun _ => by simp [Snapshot.Fits]

end Binary

end ModelRepository
