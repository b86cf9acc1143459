import Mathlib.Data.Nat.Prime.Basic
import Mathlib.Dynamics.PeriodicPts.Defs
import ModelRepository.Digest.Checksum

/-! What the checksum tells apart.
Positions and the length are mixed in beside the bytes, so they cancel out between bytes of one
length, and two checksums differ by what the differences of the bytes blend to. Each difference is
turned by five bits for each byte behind it. Hence a byte that is replaced always shows, and two
bytes that are exchanged show unless their distance is a multiple of 64, as a word has then been
turned back to where it was.
-/

namespace ModelRepository.Digest

open Binary (Bytes)
open Function (IsPeriodicPt)

-----------------------------------------------------------------------------------------
-- Turning words
-----------------------------------------------------------------------------------------

/-- The word, turned by the five bits that it moves on with each byte. -/
def turn (word : UInt64) : UInt64 :=
  rotateLeft word 5

section Turning

variable {word other : UInt64} {byte : UInt8} {place count : Nat}

theorem toBitVec_turn (word : UInt64) : (turn word).toBitVec = word.toBitVec.rotateLeft 5 :=
  rfl

theorem eq_of_getLsbD_eq
    (same : ∀ place < 64, word.toBitVec.getLsbD place = other.toBitVec.getLsbD place)
    : word = other :=
  UInt64.toBitVec_inj.mp (BitVec.eq_of_getLsbD_eq same)

theorem turn_xor (word other : UInt64) : turn (word ^^^ other) = turn word ^^^ turn other := by
  refine eq_of_getLsbD_eq fun place inside => ?_
  simp only [UInt64.toBitVec_xor, toBitVec_turn, BitVec.getLsbD_xor, BitVec.getLsbD_rotateLeft,
    Bool.cond_eq_ite]
  split
  · rfl
  · simp only [inside, decide_true, Bool.true_and]

/-- Each bit moves on by five places, and from the last places to the first ones. -/
theorem getLsbD_turn (word : UInt64) (inside : place < 64)
    : (turn word).toBitVec.getLsbD ((place + 5) % 64) = word.toBitVec.getLsbD place := by
  rw [toBitVec_turn, BitVec.getLsbD_rotateLeft, Bool.cond_eq_ite]
  by_cases low : place < 59
  · rw [if_neg (by simp; omega), decide_eq_true (by omega), Bool.true_and]
    congr 1
    omega
  · rw [if_pos (by simp; omega)]
    congr 1
    omega

theorem getLsbD_iterate_turn (word : UInt64) (count : Nat) (inside : place < 64)
    : (turn^[count] word).toBitVec.getLsbD ((place + 5 * count) % 64)
      = word.toBitVec.getLsbD place := by
  induction count with
  | zero => rw [Nat.mul_zero, Nat.add_zero, Nat.mod_eq_of_lt inside, Function.iterate_zero_apply]
  | succ count ih =>
      have moved : (place + 5 * (count + 1)) % 64 = ((place + 5 * count) % 64 + 5) % 64 := by omega
      rw [Function.iterate_succ_apply', moved, getLsbD_turn _ (Nat.mod_lt _ (by decide)), ih]

/-- After 64 turns each bit is back in its place. -/
theorem isPeriodicPt_turn (word : UInt64) : IsPeriodicPt turn 64 word := by
  refine eq_of_getLsbD_eq fun place inside => ?_
  have back : (place + 5 * 64) % 64 = place := by omega
  rw [← getLsbD_iterate_turn word 64 inside, back]

theorem turn_injective : Function.Injective turn := by
  have undone : Function.LeftInverse turn^[63] turn := isPeriodicPt_turn
  exact undone.injective

theorem turn_zero : turn 0 = 0 :=
  rfl

theorem iterate_turn_zero (count : Nat) : turn^[count] 0 = 0 :=
  Function.iterate_fixed turn_zero count

theorem iterate_turn_eq_zero_iff (count : Nat) (word : UInt64)
    : turn^[count] word = 0 ↔ word = 0 := by
  have same := (turn_injective.iterate count).eq_iff (a := word) (b := 0)
  rwa [iterate_turn_zero] at same

/-- A byte fills the lowest places of a word only. -/
theorem getLsbD_toUInt64 (byte : UInt8) (above : 8 ≤ place)
    : byte.toUInt64.toBitVec.getLsbD place = false := by
  rw [UInt8.toBitVec_toUInt64, BitVec.getLsbD_setWidth, BitVec.getLsbD_of_ge _ _ above,
    Bool.and_false]

/-- Half a round takes the bits of a byte to places that no byte fills. -/
theorem not_isPeriodicPt_turn (nonzero : byte ≠ 0)
    : ¬ IsPeriodicPt turn 32 byte.toUInt64 := by
  intro periodic
  have blank : byte.toUInt64 = 0 := by
    refine eq_of_getLsbD_eq fun place inside => ?_
    by_cases low : place < 8
    · have opposite : (place + 5 * 32) % 64 = place + 32 := by omega
      have moved := getLsbD_iterate_turn byte.toUInt64 32 inside
      rw [opposite, periodic.eq, getLsbD_toUInt64 byte (by omega)] at moved
      rw [← moved]
      simp
    · rw [getLsbD_toUInt64 byte (Nat.not_lt.mp low)]
      simp
  exact nonzero (UInt8.toUInt64_inj.mp blank)

/-- A byte is turned back to its place by whole rounds only: other turns would add up to half a
round.
-/
theorem isPeriodicPt_turn_iff (nonzero : byte ≠ 0)
    : IsPeriodicPt turn count byte.toUInt64 ↔ 64 ∣ count := by
  refine ⟨fun periodic => ?_, fun whole => (isPeriodicPt_turn _).trans_dvd whole⟩
  obtain ⟨power, bound, common⟩ :=
    (Nat.dvd_prime_pow Nat.prime_two).mp (Nat.gcd_dvd_right count (2 ^ 6))
  have together : IsPeriodicPt turn (2 ^ power) byte.toUInt64 :=
    common ▸ periodic.gcd (isPeriodicPt_turn byte.toUInt64)
  by_cases whole : power = 6
  · have divides := Nat.gcd_dvd_left count (2 ^ 6)
    rwa [common, whole] at divides
  · have half : 2 ^ power ∣ 2 ^ 5 := Nat.pow_dvd_pow 2 (by omega)
    exact (not_isPeriodicPt_turn nonzero (together.trans_dvd half)).elim

end Turning

-----------------------------------------------------------------------------------------
-- Differences
-----------------------------------------------------------------------------------------

/-- Mixes the differences of bytes into that of two states. -/
def blend (state : UInt64) (differences : Bytes) : UInt64 :=
  differences.foldl (fun state byte => turn state ^^^ byte.toUInt64) state

section Differences

variable {bytes others : Bytes}

theorem blend_append (state : UInt64) (front back : Bytes)
    : blend state (front ++ back) = blend (blend state front) back :=
  List.foldl_append

/-- Equal bytes only turn a difference that is there already, by induction on them. -/
theorem blend_self (state : UInt64) (bytes : Bytes)
    : blend state (List.zipWith (· ^^^ ·) bytes bytes) = turn^[bytes.length] state := by
  induction bytes generalizing state with
  | nil => rfl
  | cons byte bytes ih =>
      have same : turn state ^^^ (byte ^^^ byte).toUInt64 = turn state := by
        rw [UInt8.xor_self]
        exact UInt64.xor_zero
      rw [List.zipWith_cons_cons, blend, List.foldl_cons, same, List.length_cons,
        Function.iterate_succ_apply]
      exact ih (turn state)

theorem xor_xor_cancel (left right common : UInt64)
    : (left ^^^ common) ^^^ (right ^^^ common) = left ^^^ right := by
  calc (left ^^^ common) ^^^ (right ^^^ common)
      = (left ^^^ right) ^^^ (common ^^^ common) := by ac_rfl
    _ = left ^^^ right := by rw [UInt64.xor_self, UInt64.xor_zero]

/-- Between bytes of one length, what is mixed in besides cancels out. By induction on both. -/
theorem mixBytes_xor_mixBytes (state other position : UInt64)
    (length : bytes.length = others.length)
    : mixBytes state position bytes ^^^ mixBytes other position others
      = blend (state ^^^ other) (List.zipWith (· ^^^ ·) bytes others) := by
  induction bytes generalizing others state other position with
  | nil =>
      cases others with
      | nil => exact xor_xor_cancel state other _
      | cons => cases length
  | cons byte bytes ih =>
      cases others with
      | nil => cases length
      | cons second others =>
          have step : turn state ^^^ byte.toUInt64 ^^^ (turn other ^^^ second.toUInt64)
              = turn (state ^^^ other) ^^^ (byte ^^^ second).toUInt64 := by
            rw [turn_xor, UInt8.toUInt64_xor]
            ac_rfl
          have behind := ih (turn state ^^^ byte.toUInt64 ^^^ rotateLeft position 29)
            (turn other ^^^ second.toUInt64 ^^^ rotateLeft position 29) (position + 1)
            (Nat.succ.inj length)
          rw [xor_xor_cancel, step] at behind
          exact behind

theorem checksum_eq_iff (length : bytes.length = others.length)
    : checksum bytes = checksum others
      ↔ blend 0 (List.zipWith (· ^^^ ·) bytes others) = 0 := by
  have difference := mixBytes_xor_mixBytes 0 0 0 length
  rw [UInt64.xor_self] at difference
  rw [← difference, UInt64.xor_eq_zero_iff]
  rfl

theorem blend_zipWith_cons (state : UInt64) (byte other : UInt8) (bytes others : Bytes)
    : blend state (List.zipWith (· ^^^ ·) (byte :: bytes) (other :: others))
      = blend (turn state ^^^ (byte ^^^ other).toUInt64)
          (List.zipWith (· ^^^ ·) bytes others) :=
  rfl

theorem blend_zipWith_append (state : UInt64) (front bytes others : Bytes)
    : blend state (List.zipWith (· ^^^ ·) (front ++ bytes) (front ++ others))
      = blend (turn^[front.length] state) (List.zipWith (· ^^^ ·) bytes others) := by
  rw [List.zipWith_append rfl, blend_append, blend_self]

end Differences

-----------------------------------------------------------------------------------------
-- Bytes that are replaced and bytes that are exchanged
-----------------------------------------------------------------------------------------

/-- One byte is replaced by another one. -/
inductive Replaced : Bytes → Bytes → Prop
  | in_place (front back : Bytes) {byte other : UInt8} (differs : byte ≠ other)
    : Replaced (front ++ byte :: back) (front ++ other :: back)

/-- Two unequal bytes change places that are `gap` bytes apart. -/
inductive Exchanged (gap : Nat) : Bytes → Bytes → Prop
  | in_places (front middle back : Bytes) {byte other : UInt8} (differs : byte ≠ other)
    (apart : middle.length + 1 = gap)
    : Exchanged gap (front ++ byte :: (middle ++ other :: back))
        (front ++ other :: (middle ++ byte :: back))

section Changes

variable {bytes changed : Bytes} {gap position : Nat} {byte other : UInt8}

theorem exists_append_of_getElem? (found : bytes[position]? = some byte)
    : ∃ front back, bytes = front ++ byte :: back ∧ front.length = position := by
  obtain ⟨inside, rfl⟩ := List.getElem?_eq_some_iff.mp found
  refine ⟨bytes.take position, bytes.drop (position + 1), ?_, ?_⟩
  · rw [← List.drop_eq_getElem_cons inside, List.take_append_drop]
  · exact List.length_take_of_le (Nat.le_of_lt inside)

theorem Replaced.of_set (found : bytes[position]? = some byte) (differs : byte ≠ other)
    : Replaced bytes (bytes.set position other) := by
  obtain ⟨front, back, rfl, rfl⟩ := exists_append_of_getElem? found
  rw [List.set_append_right _ _ (Nat.le_refl _), Nat.sub_self, List.set_cons_zero]
  exact .in_place front back differs

theorem Exchanged.of_set (first : bytes[position]? = some byte)
    (second : bytes[position + (gap + 1)]? = some other) (differs : byte ≠ other)
    : Exchanged (gap + 1) bytes ((bytes.set position other).set (position + (gap + 1)) byte) := by
  obtain ⟨front, rest, rfl, rfl⟩ := exists_append_of_getElem? first
  rw [List.getElem?_append_right (Nat.le_add_right _ _), Nat.add_sub_cancel_left,
    List.getElem?_cons_succ] at second
  obtain ⟨middle, back, rfl, rfl⟩ := exists_append_of_getElem? second
  rw [List.set_append_right _ _ (Nat.le_refl _), List.set_append_right _ _ (Nat.le_add_right _ _),
    Nat.sub_self, Nat.add_sub_cancel_left, List.set_cons_zero, List.set_cons_succ,
    List.set_append_right _ _ (Nat.le_refl _), Nat.sub_self, List.set_cons_zero]
  exact .in_places front middle back differs rfl

/-- Bytes of one length that differ in one position only have that one byte replaced. -/
theorem Replaced.of_existsUnique (length : bytes.length = changed.length)
    (once : ∃! position : Nat, bytes[position]? ≠ changed[position]?)
    : Replaced bytes changed := by
  obtain ⟨position, differs, only⟩ := once
  have same {other : Nat} (elsewhere : other ≠ position)
      : bytes[other]? = changed[other]? :=
    by_contra fun differsToo => elsewhere (only other differsToo)
  have inside : position < bytes.length := by
    by_contra outside
    have outsideToo : ¬ position < changed.length := length ▸ outside
    exact differs (by rw [List.getElem?_eq_none (Nat.not_lt.mp outside),
      List.getElem?_eq_none (Nat.not_lt.mp outsideToo)])
  have insideToo : position < changed.length := length ▸ inside
  have front : bytes.take position = changed.take position := by
    refine List.ext_getElem? fun other => ?_
    rw [List.getElem?_take, List.getElem?_take]
    split
    · exact same (by omega)
    · rfl
  have back : bytes.drop (position + 1) = changed.drop (position + 1) := by
    refine List.ext_getElem? fun other => ?_
    rw [List.getElem?_drop, List.getElem?_drop]
    exact same (by omega)
  have whole := List.take_append_drop position bytes
  have wholeToo := List.take_append_drop position changed
  rw [List.drop_eq_getElem_cons inside] at whole
  rw [List.drop_eq_getElem_cons insideToo, ← front, ← back] at wholeToo
  rw [← whole, ← wholeToo]
  refine .in_place _ _ fun equal => differs ?_
  rw [List.getElem?_eq_getElem inside, List.getElem?_eq_getElem insideToo, equal]

/-- A byte that is replaced always shows: its difference is turned to the end and does not vanish.
-/
theorem Replaced.checksum_ne (replaced : Replaced bytes changed)
    : checksum bytes ≠ checksum changed := by
  obtain ⟨front, back, differs⟩ := replaced
  rw [ne_eq, checksum_eq_iff (by simp), blend_zipWith_append, blend_zipWith_cons, blend_self,
    iterate_turn_zero, iterate_turn_eq_zero_iff, turn_zero, UInt64.zero_xor]
  exact fun nothing => differs (UInt8.xor_eq_zero_iff.mp (UInt8.toUInt64_inj.mp nothing))

/-- Two bytes that are exchanged differ by the same, and the two differences cancel out exactly if
the first one has come round to its place when it meets the second one.
-/
theorem Exchanged.checksum_eq_iff (exchanged : Exchanged gap bytes changed)
    : checksum bytes = checksum changed ↔ 64 ∣ gap := by
  obtain ⟨front, middle, back, differs, rfl⟩ := exchanged
  rename_i byte other
  have nonzero : byte ^^^ other ≠ 0 := fun nothing => differs (UInt8.xor_eq_zero_iff.mp nothing)
  rw [Digest.checksum_eq_iff (by simp), blend_zipWith_append, blend_zipWith_cons,
    blend_zipWith_append, blend_zipWith_cons, blend_self, iterate_turn_zero,
    iterate_turn_eq_zero_iff, turn_zero, UInt64.zero_xor, UInt8.xor_comm other byte,
    UInt64.xor_eq_zero_iff, ← Function.iterate_succ_apply' turn]
  exact isPeriodicPt_turn_iff nonzero

end Changes

end ModelRepository.Digest
