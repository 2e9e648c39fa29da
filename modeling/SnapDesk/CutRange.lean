import SnapDesk.NumberValue

/-! # The range of a cut

Both cuts compare `from + size` with the length of the number, and the sum is a
`size_t`.  As long as it does not wrap around, a cut outside the number is rejected, a
cut inside erases nothing but what is there, and that is all (`cutByte_checked_iff`,
`cutBit_checked_iff`).  A script can write a bound as `-1`, and then the sum may wrap to
one that passes. -/
namespace SnapDesk
namespace BigNumber

/-- The cut throws where it is out of range, and then leaves the number; where it does not
throw, what it erases is there. -/
structure Checked (cut : Method BigNumber Unit) (x : BigNumber) (outOfRange : Prop) : Prop where
  throws : (∃ e y, cut.run x = .error e y ∧ e.isException = true) ↔ outOfRange
  unchanged : ∀ e y, cut.run x = .error e y → e.isException = true → y = x
  inside : ∀ y, cut.run x ≠ .error .undefinedBehaviour y

/-- What both cuts throw. -/
def cutOutOfRange : Failure := .invalidArgument (lit "cut out of range")

section
variable {cut : Method BigNumber Unit} {x : BigNumber}

theorem Checked.of_error {outOfRange : Prop} (h : cut.run x = .error cutOutOfRange x)
    (hout : outOfRange) :
    Checked cut x outOfRange where
  throws := iff_of_true ⟨_, _, h, rfl⟩ hout
  unchanged := by
    intro e y hrun _
    rw [h] at hrun
    cases hrun
    rfl
  inside := by
    intro y hrun
    rw [h] at hrun
    cases hrun

theorem Checked.of_ok {outOfRange : Prop} {y : BigNumber} (h : cut.run x = .ok () y)
    (hin : ¬ outOfRange) :
    Checked cut x outOfRange where
  throws := by
    refine iff_of_false ?_ hin
    rintro ⟨e, z, hrun, -⟩
    rw [h] at hrun
    cases hrun
  unchanged := by
    intro e z hrun
    rw [h] at hrun
    cases hrun
  inside := by
    intro z hrun
    rw [h] at hrun
    cases hrun

/-- Where nothing is thrown, no cut is out of range. -/
theorem Checked.not_outOfRange {outOfRange : Prop} (h : Checked cut x outOfRange)
    (hrun : ∀ e y, cut.run x = .error e y → e = .undefinedBehaviour) : ¬ outOfRange := by
  intro hout
  obtain ⟨e, y, herror, hexception⟩ := h.throws.mpr hout
  rw [hrun e y herror] at hexception
  cases hexception

/-- **When a cut is checked** that compares the sum of its bounds, as far as it does not wrap
around, with the size of the number: always but where it wraps to a sum inside. -/
theorem checked_iff {first size bound : Nat} (hbound : bound < 2 ^ 64)
    (hrejects : bound < add64 first size → cut.run x = .error cutOutOfRange x)
    (hpasses : add64 first size ≤ bound →
      ∀ e y, cut.run x = .error e y → e = .undefinedBehaviour)
    (hok : first + size < 2 ^ 64 → first + size ≤ bound → ∃ y, cut.run x = .ok () y) :
    Checked cut x (bound < first + size) ↔
      first + size < 2 ^ 64 ∨ bound < first + size - 2 ^ 64 := by
  by_cases hwrap : first + size < 2 ^ 64
  · refine iff_of_true ?_ (.inl hwrap)
    have hadd : add64 first size = first + size := add64_eq hwrap
    by_cases hout : bound < first + size
    · exact .of_error (hrejects (by omega)) hout
    · obtain ⟨y, hrun⟩ := hok hwrap (Nat.le_of_not_lt hout)
      exact .of_ok hrun hout
  · have hadd : add64 first size = first + size - 2 ^ 64 := if_neg hwrap
    constructor
    · intro h
      by_contra hin
      rw [not_or] at hin
      -- the wrapped sum passes, so nothing is thrown, but the cut is out of range
      exact h.not_outOfRange (hpasses (by omega)) (by omega)
    · rintro (h | h)
      · exact absurd h hwrap
      · exact .of_error (hrejects (by omega)) (by omega)

end

/-! ### Bytes -/

section
variable {x : BigNumber} {first size : Nat}

theorem throwIfNull_ok (hx : x.isNull = false) : x.throwIfNull = .ok () := by
  rw [throwIfNull, hx]
  rfl

theorem eraseRange_error {v : List UInt8} {i j : Nat} {e : Failure}
    (h : eraseRange v i j = .error e) :
    e = .undefinedBehaviour := by
  unfold eraseRange at h
  split at h
  · cases h
  · exact (Except.error.inj h).symm

theorem cutByte_rejects (hx : x.isNull = false) (h : x.number.length < add64 first size) :
    (cutByte first size).run x = .error cutOutOfRange x := by
  rw [cutByte, Method.run_bind_ok (Method.run_get _), throwIfNull_ok hx,
    Method.run_bind_ok (Method.run_lift_ok _ _), if_pos h]
  rfl

/-- A range that passes the test is erased, whether it is there or not. -/
theorem cutByte_passes (hx : x.isNull = false) (h : add64 first size ≤ x.number.length)
    {e : Failure}
    {y : BigNumber} (hrun : (cutByte first size).run x = .error e y) : e = .undefinedBehaviour := by
  rw [cutByte, Method.run_bind_ok (Method.run_get _), throwIfNull_ok hx,
    Method.run_bind_ok (Method.run_lift_ok _ _), if_neg (by omega)] at hrun
  split at hrun
  · cases hrun
  · cases hfirst : eraseRange x.number 0 (x.number.length - add64 first size) with
    | error e' =>
      rw [hfirst, Method.run_bind_error (Method.run_lift_error _ _)] at hrun
      cases hrun
      exact eraseRange_error hfirst
    | ok number =>
      rw [hfirst, Method.run_bind_ok (Method.run_lift_ok _ _)] at hrun
      cases hsecond : eraseRange number size number.length with
      | error e' =>
        rw [hsecond, Method.run_bind_error (Method.run_lift_error _ _)] at hrun
        cases hrun
        exact eraseRange_error hsecond
      | ok number' =>
        rw [hsecond, Method.run_bind_ok (Method.run_lift_ok _ _)] at hrun
        cases hrun

theorem cutByte_zero (hx : x.isNull = false) (h : add64 first 0 ≤ x.number.length) :
    (cutByte first 0).run x = .ok () { x with isNull := true } := by
  rw [cutByte, Method.run_bind_ok (Method.run_get _), throwIfNull_ok hx,
    Method.run_bind_ok (Method.run_lift_ok _ _), if_neg (by omega), if_pos rfl]
  rfl

/-- **A byte cut is checked** unless its bounds wrap around to a sum inside the number. -/
theorem cutByte_checked_iff (hx : x.isNull = false) (hlength : 8 * x.number.length < 2 ^ 64) :
    Checked (cutByte first size) x (x.number.length < first + size) ↔
      first + size < 2 ^ 64 ∨ x.number.length < first + size - 2 ^ 64 := by
  refine checked_iff (by omega) (cutByte_rejects hx) (fun h e y => cutByte_passes hx h)
    fun hwrap hin => ?_
  have hx' : x = ofVector x.number := by rw [ofVector, ← hx]
  rcases Nat.eq_zero_or_pos size with rfl | hsize
  · exact ⟨_, cutByte_zero hx (by rwa [add64_eq hwrap])⟩
  · have hrun := cutByte_ok hsize hin hwrap
    rw [← hx'] at hrun
    exact ⟨_, hrun⟩

end

/-! ### Bits -/

section
variable {x : BigNumber} {first size : Nat}

theorem cutBit_rejects (hx : x.isNull = false) (h : 8 * x.number.length < add64 first size) :
    (cutBit first size).run x = .error cutOutOfRange x := by
  rw [cutBit, Method.run_bind_ok (Method.run_get _), throwIfNull_ok hx,
    Method.run_bind_ok (Method.run_lift_ok _ _)]
  exact congrArg (EStateM.run · x) (if_pos (by omega))

/-- The number of bytes and their position, as `cut_bit` computes them, add up to the end of
the cut, wrapped around or not. -/
theorem add64_byteSize (hfirst : first < 2 ^ 64) (hsize : size < 2 ^ 64) :
    add64 ((first - first % 8) / 8)
        (add64 (sub64 ((add64 first size - add64 first size % 8) / 8) ((first - first % 8) / 8))
          (if 0 < add64 first size % 8 then 1 else 0)) =
      (add64 first size + 7) / 8 := by
  have hlast : add64 first size < 2 ^ 64 := by
    rw [add64]
    split <;> omega
  generalize add64 first size = last at hlast
  rw [add64, add64, sub64]
  split_ifs <;> omega

theorem shiftDown_error {before after : Nat} {number : List UInt8} {e : Failure}
    (h : shiftDown before after number = .error e) : e = .undefinedBehaviour := by
  -- a bit that is cleared may lie outside the number or outside its first byte
  have hclear (count i : Nat) (v : List UInt8)
      (he : clearBits count i v = .error e) : e = .undefinedBehaviour := by
    induction count generalizing i v with
    | zero => cases he
    | succ count ih =>
      cases v with
      | nil =>
        simp only [clearBits, ite_self] at he
        cases he
        rfl
      | cons block rest =>
        simp only [clearBits] at he
        split at he
        · cases he
          rfl
        · exact ih _ _ he
  cases hnumber : clearBits before 0 number with
  | error e' =>
    rw [shiftDown, hnumber] at h
    cases h
    exact hclear _ _ _ hnumber
  | ok number' =>
    rw [shiftDown, hnumber, ok_bind] at h
    split at h
    · exact eraseRange_error h
    · cases h

/-- A range that passes the test is cut, whether it is there or not. -/
theorem cutBit_passes (hx : x.isNull = false) (hfirst : first < 2 ^ 64) (hsize : size < 2 ^ 64)
    (h : add64 first size ≤ 8 * x.number.length) {e : Failure}
    {y : BigNumber} (hrun : (cutBit first size).run x = .error e y) : e = .undefinedBehaviour := by
  have hend := add64_byteSize hfirst hsize
  rw [cutBit, Method.run_bind_ok (Method.run_get _), throwIfNull_ok hx,
    Method.run_bind_ok (Method.run_lift_ok _ _)] at hrun
  simp only [if_neg (Nat.not_lt.mpr (Nat.mul_comm 8 _ ▸ h))] at hrun
  -- the bytes are cut first, and their bounds pass the test of the bytes too
  rcases Method.run_bind_eq_error hrun with hcut | ⟨_, z, -, hrest⟩
  · exact cutByte_passes hx (by omega) hcut
  · rw [Method.run_bind_ok (Method.run_get _)] at hrest
    split at hrest
    · cases hrest
    · rcases Method.run_bind_eq_error hrest with hshift | ⟨number, z', -, hset⟩
      · exact shiftDown_error (Method.run_lift_eq_error hshift)
      · cases hset

/-- Cutting no bits from the beginning of a byte on makes the number null. -/
theorem cutBit_zero_aligned (hx : x.isNull = false) (h : first ≤ 8 * x.number.length)
    (h64 : first < 2 ^ 64) (haligned : first % 8 = 0) :
    (cutBit first 0).run x = .ok () { x with isNull := true } := by
  have hadd : add64 first 0 = first := add64_eq h64
  have hsize : add64 (sub64 ((first - first % 8) / 8) ((first - first % 8) / 8))
      (if 0 < first % 8 then 1 else 0) = 0 := by
    rw [sub64_eq (Nat.le_refl _), Nat.sub_self, if_neg (by omega)]
    rfl
  have hcut : (cutByte ((first - first % 8) / 8) 0).run x = .ok () { x with isNull := true } :=
    cutByte_zero hx (by rw [add64_eq (by omega)]; omega)
  rw [cutBit, Method.run_bind_ok (Method.run_get _), throwIfNull_ok hx,
    Method.run_bind_ok (Method.run_lift_ok _ _)]
  simp only [hadd, hsize, if_neg (Nat.not_lt.mpr (Nat.mul_comm 8 _ ▸ h))]
  rw [Method.run_bind_ok hcut]
  rfl

/-- Cutting no bits from the middle of a byte on leaves a number without bytes. -/
theorem cutBit_zero_unaligned (hx : x.isNull = false) (h : first ≤ 8 * x.number.length)
    (h64 : first < 2 ^ 64) (hunaligned : first % 8 ≠ 0) :
    (cutBit first 0).run x = .ok () (ofVector []) := by
  have hx' : x = ofVector x.number := by rw [ofVector, ← hx]
  have hadd : add64 first 0 = first := add64_eq h64
  have hsize : add64 (sub64 ((first - first % 8) / 8) ((first - first % 8) / 8))
      (if 0 < first % 8 then 1 else 0) = 1 := by
    rw [sub64_eq (Nat.le_refl _), Nat.sub_self, if_pos (Nat.pos_of_ne_zero hunaligned)]
    rfl
  -- one byte is left, whose bits are cleared and shifted out before it is taken away
  obtain ⟨b, hb⟩ : ∃ b,
      (x.number.drop (x.number.length - ((first - first % 8) / 8 + 1))).take 1 = [b] := by
    refine List.length_eq_one_iff.mp ?_
    rw [List.length_take, List.length_drop]
    omega
  have hcut : (cutByte ((first - first % 8) / 8) 1).run x = .ok () (ofVector [b]) := by
    rw [← hb, hx']
    exact cutByte_ok (by decide) (by omega) (by omega)
  have hbefore : sub64 (sub64 (1 * 8) 0) (first % 8) = 8 - first % 8 := by
    rw [sub64_eq (Nat.zero_le _), sub64_eq (by omega)]
  obtain ⟨b', hclear, -⟩ : ∃ b' : UInt8, clearBits (8 - first % 8) 0 [b] = .ok [b'] ∧
      b'.toNat = b.toNat % 2 ^ (8 - (0 + (8 - first % 8))) :=
    clearBits_value (by omega) b.toNat_lt
  have hrounds : ((shiftRound false)^[first % 8] [b']).length = 1 := (shiftRounds_value _ _).1
  have hdown : shiftDown (8 - first % 8) (first % 8) [b] = .ok [] := by
    rw [shiftDown, hclear, ok_bind, add64_eq (by omega), if_pos (by omega), eraseRange,
      if_pos (by omega), List.take_zero, List.nil_append, List.drop_eq_nil_of_le (by omega)]
  rw [cutBit, Method.run_bind_ok (Method.run_get _), throwIfNull_ok hx,
    Method.run_bind_ok (Method.run_lift_ok _ _)]
  simp only [hadd, hsize, if_neg (Nat.not_lt.mpr (Nat.mul_comm 8 _ ▸ h))]
  rw [Method.run_bind_ok hcut, Method.run_bind_ok (Method.run_get _)]
  simp only [ofVector_isNull, ofVector_number, List.length_singleton, hbefore, hdown,
    Bool.false_eq_true, if_false]
  rfl

/-- Cutting no bits leaves nothing, or no number. -/
theorem cutBit_zero (hx : x.isNull = false) (h : first ≤ 8 * x.number.length)
    (h64 : first < 2 ^ 64) : ∃ y, (cutBit first 0).run x = .ok () y := by
  by_cases haligned : first % 8 = 0
  · exact ⟨_, cutBit_zero_aligned hx h h64 haligned⟩
  · exact ⟨_, cutBit_zero_unaligned hx h h64 haligned⟩

/-- **A bit cut is checked** unless its bounds wrap around to a sum inside the number. -/
theorem cutBit_checked_iff (hx : x.isNull = false) (hlength : 8 * x.number.length < 2 ^ 64)
    (hfirst : first < 2 ^ 64) (hsize : size < 2 ^ 64) :
    Checked (cutBit first size) x (8 * x.number.length < first + size) ↔
      first + size < 2 ^ 64 ∨ 8 * x.number.length < first + size - 2 ^ 64 := by
  refine checked_iff hlength (cutBit_rejects hx) (fun h e y => cutBit_passes hx hfirst hsize h)
    fun hwrap hin => ?_
  rcases Nat.eq_zero_or_pos size with rfl | hpos
  · exact cutBit_zero hx hin hfirst
  · obtain ⟨y, hrun, -⟩ := cutBit_value hx hpos hin hwrap
    exact ⟨y, hrun⟩

end

/-- **When the cuts are checked**, for bounds of 64 bits: a sum that wraps around has to be
outside the number all the same. -/
theorem cuts_checked_iff {x : BigNumber} (hx : x.isNull = false)
    (hlength : 8 * x.number.length < 2 ^ 64) (first size : UInt64) :
    (Checked (cutByte first.toNat size.toNat) x (x.number.length < first.toNat + size.toNat) ↔
      first.toNat + size.toNat < 2 ^ 64 ∨ x.number.length < first.toNat + size.toNat - 2 ^ 64) ∧
    (Checked (cutBit first.toNat size.toNat) x (8 * x.number.length < first.toNat + size.toNat) ↔
      first.toNat + size.toNat < 2 ^ 64 ∨
        8 * x.number.length < first.toNat + size.toNat - 2 ^ 64) :=
  ⟨cutByte_checked_iff hx hlength, cutBit_checked_iff hx hlength first.toNat_lt size.toNat_lt⟩

/-- A cut of two bytes from the last position of all. -/
theorem cuts_checked_iff_wraps :
    ¬ Checked (cutByte (2 ^ 64 - 1) 2) (ofVector [1, 2, 3]) (3 < 2 ^ 64 - 1 + 2) ∧
      ¬ Checked (cutBit (2 ^ 64 - 1) 2) (ofVector [1, 2, 3]) (8 * 3 < 2 ^ 64 - 1 + 2) := by
  obtain ⟨hbyte, hbit⟩ := cuts_checked_iff (x := ofVector [1, 2, 3]) rfl (by decide) (-1) 2
  exact ⟨fun h => absurd (hbyte.mp h) (by decide), fun h => absurd (hbit.mp h) (by decide)⟩

/-- **A cut out of range may pass**: with `-1` as its first bound the test lets it through, and
a range that is not there is erased. -/
theorem not_cuts_checked :
    ¬ ∀ (x : BigNumber) (first size : UInt64), x.isNull = false →
      Checked (cutByte first.toNat size.toNat) x (x.number.length < first.toNat + size.toNat) ∧
        Checked (cutBit first.toNat size.toNat) x (8 * x.number.length < first.toNat + size.toNat) := by
  intro hall
  obtain ⟨hbyte, -⟩ := hall (ofVector [1, 2, 3]) (-1) 2 rfl
  exact hbyte.inside (ofVector [1, 2, 3]) rfl

end BigNumber
end SnapDesk
