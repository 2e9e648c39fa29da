import Mathlib.Data.Nat.Bitwise
import Mathlib.Data.Nat.Digits.Defs
import SnapDesk.BigNumber

/-! # The value of a number

The bytes of a `BigNumber` are the digits of its value, the most significant
first.  Taking bytes off its end divides the value, dropping bytes off its front
reduces it, and every loop of `cut_bit` does one of these to the bits: clearing
the first bits reduces the value, and a round of the shifting loop halves it.

`cutBit_value` puts them together: a cut inside the number keeps exactly the bits
that were asked for, in as few bytes as they need.

`to_size_t` adds the value up, but each term in the arithmetic of an `int`, so it is right
for small numbers only (`sizeExact_iff`). -/
namespace SnapDesk
namespace BigNumber

/-- The digits of a number, the least significant first. -/
def digits (number : List UInt8) : List Nat := number.reverse.map UInt8.toNat

/-- The unsigned value of a number, the most significant byte first. -/
def value (number : List UInt8) : Nat := Nat.ofDigits 256 (digits number)

theorem digits_lt (number : List UInt8) : ∀ d ∈ digits number, d < 256 := by
  intro d hd
  obtain ⟨b, -, rfl⟩ := List.mem_map.mp hd
  exact b.toNat_lt

@[simp] theorem length_digits (number : List UInt8) : (digits number).length = number.length := by
  simp [digits]

theorem value_lt (number : List UInt8) : value number < 256 ^ number.length := by
  have hlt := Nat.ofDigits_lt_base_pow_length (by decide : 1 < 256) (digits_lt number)
  rwa [length_digits] at hlt

theorem value_cons (b : UInt8) (number : List UInt8) :
    value (b :: number) = b.toNat * 256 ^ number.length + value number := by
  have hdigits : digits (b :: number) = digits number ++ [b.toNat] := by simp [digits]
  rw [value, hdigits, Nat.ofDigits_append, Nat.ofDigits_singleton, length_digits, value]
  ring

/-- Dropping bytes off the front reduces the value. -/
theorem value_drop (number : List UInt8) (k : Nat) :
    value (number.drop k) = value number % 256 ^ (number.length - k) := by
  have hdigits : digits (number.drop k) = (digits number).take (number.length - k) := by
    rw [digits, digits, ← List.map_take, List.reverse_drop]
  rw [value, value, hdigits,
    Nat.ofDigits_mod_pow_eq_ofDigits_take _ (by decide) _ (digits_lt number)]

/-- Taking bytes off the end divides the value. -/
theorem value_take (number : List UInt8) (k : Nat) :
    value (number.take k) = value number / 256 ^ (number.length - k) := by
  have hdigits : digits (number.take k) = (digits number).drop (number.length - k) := by
    rw [digits, digits, ← List.map_drop, List.reverse_take]
  rw [value, value, hdigits,
    Nat.ofDigits_div_pow_eq_ofDigits_drop _ (by decide) _ (digits_lt number)]

/-- The length and the value are all there is to a number. -/
theorem eq_of_value_eq {number number' : List UInt8} (hlength : number.length = number'.length)
    (hvalue : value number = value number') : number = number' := by
  have hdigits : digits number = digits number' :=
    Nat.ofDigits_inj_of_len_eq (by decide : 1 < 256) (by simpa using hlength) (digits_lt number)
      (digits_lt number') hvalue
  have hreverse : number.reverse = number'.reverse :=
    List.map_injective_iff.mpr (fun _ _ => UInt8.toNat_inj.mp) hdigits
  exact List.reverse_injective hreverse

/-! ### The loops of `cut_bit` -/

set_option maxRecDepth 4000 in
/-- Clearing a bit of a byte whose bits before it are clear. -/
theorem toNat_clearBit {i : Nat} (hi : i < 8) {b : UInt8} (hb : b.toNat < 2 ^ (8 - i)) :
    (clearBit i b).toNat = b.toNat % 2 ^ (7 - i) := by
  have hall : ∀ i < 8, ∀ n < 256, n < 2 ^ (8 - i) →
      (clearBit i (UInt8.ofNat n)).toNat = n % 2 ^ (7 - i) := by decide +kernel
  have hbyte := hall i hi b.toNat b.toNat_lt hb
  rwa [UInt8.ofNat_toNat] at hbyte

/-- Clearing the first bits of the first byte reduces the value. -/
theorem clearBits_value {count i : Nat} (hcount : i + count < 8) {b : UInt8} {rest : List UInt8}
    (hb : b.toNat < 2 ^ (8 - i)) :
    ∃ b' : UInt8, clearBits count i (b :: rest) = .ok (b' :: rest) ∧
      b'.toNat = b.toNat % 2 ^ (8 - (i + count)) := by
  induction count generalizing i b with
  | zero => exact ⟨b, rfl, (Nat.mod_eq_of_lt hb).symm⟩
  | succ count ih =>
    have hclear := toNat_clearBit (show i < 8 by omega) hb
    have hlt : (clearBit i b).toNat < 2 ^ (8 - (i + 1)) := by
      rw [hclear, show 8 - (i + 1) = 7 - i by omega]
      exact Nat.mod_lt _ (Nat.two_pow_pos _)
    obtain ⟨b', hb', hvalue⟩ := ih (by omega) hlt
    refine ⟨b', ?_, ?_⟩
    · rw [clearBits, if_neg (by omega)]
      exact hb'
    · rw [hvalue, hclear, Nat.mod_mod_of_dvd _ (Nat.pow_dvd_pow 2 (by omega)),
        show i + 1 + count = i + (count + 1) by omega]

set_option maxRecDepth 4000 in
/-- A byte that moves right takes in the bit before it. -/
theorem toNat_shiftBit (previousValue : Bool) :
    ∀ b : UInt8, (shiftBit previousValue b).toNat = (previousValue.toNat * 256 + b.toNat) / 2 := by
  cases previousValue with
  | false => exact byte_forall (by decide)
  | true => exact byte_forall (by decide)

set_option maxRecDepth 4000 in
theorem toNat_mod_two : ∀ b : UInt8, (decide (b % 2 = 1)).toNat = b.toNat % 2 :=
  byte_forall (by decide)

theorem length_shiftRound (previousValue : Bool) (number : List UInt8) :
    (shiftRound previousValue number).length = number.length := by
  induction number generalizing previousValue with
  | nil => rfl
  | cons b rest ih => rw [shiftRound, List.length_cons, ih, List.length_cons]

/-- A round of the shifting loop halves the value. -/
theorem shiftRound_value (previousValue : Bool) (number : List UInt8) :
    value (shiftRound previousValue number) =
      (previousValue.toNat * 256 ^ number.length + value number) / 2 := by
  induction number generalizing previousValue with
  | nil => cases previousValue <;> rfl
  | cons b rest ih =>
    have hsplit : previousValue.toNat * 256 + b.toNat =
        2 * ((previousValue.toNat * 256 + b.toNat) / 2) + b.toNat % 2 := by omega
    rw [shiftRound, value_cons, value_cons, ih, length_shiftRound, toNat_shiftBit, toNat_mod_two]
    calc (previousValue.toNat * 256 + b.toNat) / 2 * 256 ^ rest.length +
            (b.toNat % 2 * 256 ^ rest.length + value rest) / 2
        = (2 * ((previousValue.toNat * 256 + b.toNat) / 2 * 256 ^ rest.length) +
            (b.toNat % 2 * 256 ^ rest.length + value rest)) / 2 := by omega
      _ = ((2 * ((previousValue.toNat * 256 + b.toNat) / 2) + b.toNat % 2) * 256 ^ rest.length +
            value rest) / 2 := by ring_nf
      _ = ((previousValue.toNat * 256 + b.toNat) * 256 ^ rest.length + value rest) / 2 := by
          rw [← hsplit]
      _ = _ := by rw [List.length_cons]; ring_nf

/-- The rounds together divide it. -/
theorem shiftRounds_value (count : Nat) (number : List UInt8) :
    ((shiftRound false)^[count] number).length = number.length ∧
      value ((shiftRound false)^[count] number) = value number / 2 ^ count := by
  induction count with
  | zero => exact ⟨rfl, (Nat.div_one _).symm⟩
  | succ count ih =>
    rw [Function.iterate_succ_apply', length_shiftRound, shiftRound_value, ih.2]
    refine ⟨ih.1, ?_⟩
    rw [Bool.toNat_false, Nat.zero_mul, Nat.zero_add, Nat.div_div_eq_div_mul, Nat.pow_succ]

theorem two_pow_eight_mul (n : Nat) : 256 ^ n = 2 ^ (8 * n) := by rw [Nat.pow_mul]

/-- A first byte without its first bits. -/
theorem value_cons_mod {b b' : UInt8} (rest : List UInt8) {k : Nat}
    (h : b'.toNat = b.toNat % 2 ^ k) :
    value (b' :: rest) = value (b :: rest) % 2 ^ (8 * rest.length + k) := by
  have hlt := value_lt rest
  have hpos : 0 < 256 ^ rest.length := Nat.pow_pos (by decide)
  rw [value_cons, value_cons, h, Nat.pow_add, ← two_pow_eight_mul, Nat.mod_mul,
    Nat.mul_comm b.toNat, Nat.mul_add_mod, Nat.mod_eq_of_lt hlt, Nat.mul_add_div hpos,
    Nat.div_eq_of_lt hlt, Nat.add_zero, Nat.mul_comm, Nat.add_comm]

/-- **The end of `cut_bit`**: the bits before the cut are cleared, those after it
shifted out, and a first byte without a bit of the cut is taken away. -/
theorem shiftDown_value {bytes : List UInt8} {before after size : Nat} (hbefore : before < 8)
    (hafter : after < 8) (hlength : bytes.length * 8 = before + size + after) (hsize : 0 < size) :
    ∃ number, shiftDown before after bytes = .ok number ∧ number.length = (size + 7) / 8 ∧
      value number = value bytes / 2 ^ after % 2 ^ size := by
  match bytes with
  | [] =>
    rw [List.length_nil] at hlength
    omega
  | b :: rest =>
    rw [List.length_cons] at hlength
    obtain ⟨b', hclear, hb'⟩ : ∃ b' : UInt8, clearBits before 0 (b :: rest) = .ok (b' :: rest) ∧
        b'.toNat = b.toNat % 2 ^ (8 - (0 + before)) :=
      clearBits_value (by omega) b.toNat_lt
    obtain ⟨hrounds, hvalue⟩ := shiftRounds_value after (b' :: rest)
    rw [List.length_cons] at hrounds
    -- what the loops leave is the cut, with a byte too many or not
    have hcut : value ((shiftRound false)^[after] (b' :: rest)) =
        value (b :: rest) / 2 ^ after % 2 ^ size := by
      rw [hvalue, value_cons_mod rest hb',
        show 8 * rest.length + (8 - (0 + before)) = after + size by omega, Nat.pow_add,
        Nat.mod_mul_right_div_self]
    have hadd : add64 before after = before + after := add64_eq (by omega)
    by_cases hbyte : 8 ≤ before + after
    · refine ⟨((shiftRound false)^[after] (b' :: rest)).drop 1, ?_, ?_, ?_⟩
      · rw [shiftDown, hclear, ok_bind, hadd, if_pos hbyte, eraseRange, if_pos (by omega)]
        rfl
      · rw [List.length_drop, hrounds]
        omega
      · have hlt : value (b :: rest) / 2 ^ after % 2 ^ size < 256 ^ rest.length := by
          refine Nat.lt_of_lt_of_le (Nat.mod_lt _ (Nat.two_pow_pos size)) ?_
          rw [two_pow_eight_mul]
          exact Nat.pow_le_pow_right (by decide) (by omega)
        rw [value_drop, hrounds, Nat.add_sub_cancel, hcut, Nat.mod_eq_of_lt hlt]
    · refine ⟨(shiftRound false)^[after] (b' :: rest), ?_, ?_, hcut⟩
      · rw [shiftDown, hclear, ok_bind, hadd, if_neg hbyte]
        rfl
      · rw [hrounds]
        omega

/-- The bytes that hold a cut are its bits, among others. -/
theorem cutBytes_value {number : List UInt8} {first size : Nat}
    (h : first + size ≤ 8 * number.length) :
    value (cutBytes number first size) / 2 ^ (first % 8) % 2 ^ size =
      value number >>> first % 2 ^ size := by
  have hlength : (number.drop (number.length - (first + size + 7) / 8)).length =
      (first + size + 7) / 8 := by
    rw [List.length_drop]
    omega
  have hfirst : 8 * (first / 8) + first % 8 = first := Nat.div_add_mod first 8
  -- the bytes after the cut divide, those before it reduce
  have hbytes : value (cutBytes number first size) =
      value number % 2 ^ (8 * ((first + size + 7) / 8)) / 2 ^ (8 * (first / 8)) := by
    rw [cutBytes, value_take, value_drop, hlength, two_pow_eight_mul, two_pow_eight_mul,
      Nat.sub_sub_self (by omega), Nat.sub_sub_self (by omega)]
  have hwide : 8 * ((first + size + 7) / 8) =
      first + (8 * ((first + size + 7) / 8) - first) := by omega
  rw [hbytes, Nat.div_div_eq_div_mul, ← Nat.pow_add, hfirst, hwide, Nat.pow_add,
    Nat.mod_mul_right_div_self, Nat.mod_mod_of_dvd _ (Nat.pow_dvd_pow 2 (by omega)),
    Nat.shiftRight_eq_div_pow]

/-- **`cut_bit` extracts exactly the bits asked for.** -/
theorem cutBit_value {n : BigNumber} (hn : n.isNull = false) {first size : Nat} (hsize : 1 ≤ size)
    (h : first + size ≤ 8 * n.number.length) (h64 : first + size < 2 ^ 64) :
    ∃ n', (cutBit first size).run n = .ok () n' ∧ n'.isNull = false ∧
      n'.number.length = (size + 7) / 8 ∧ value n'.number = value n.number >>> first % 2 ^ size := by
  have hn' : n = ofVector n.number := by rw [ofVector, ← hn]
  have hlength : (cutBytes n.number first size).length * 8 =
      (((first + size + 7) / 8 - first / 8) * 8 - size - first % 8) + size + first % 8 := by
    rw [cutBytes, List.length_take, List.length_drop]
    omega
  obtain ⟨bytes, hdown, hbytes, hvalue⟩ := shiftDown_value (by omega) (Nat.mod_lt first (by decide))
    hlength hsize
  refine ⟨ofVector bytes, ?_, rfl, hbytes, hvalue.trans (cutBytes_value h)⟩
  rw [hn']
  exact cutBit_eq hsize (by omega) h64 hdown

/-- Bits 4 to 12 of a number of three bytes. -/
theorem cutBit_value_nine :
    ∃ n', (cutBit 4 9).run (ofVector [0x12, 0x34, 0x56]) = .ok () n' ∧ n'.isNull = false ∧
      n'.number.length = (9 + 7) / 8 ∧ value n'.number = value [0x12, 0x34, 0x56] >>> 4 % 2 ^ 9 :=
  cutBit_value rfl (by decide) (by decide) (by decide)

/-! ### `to_size_t` -/

/-- The number of at most eight bytes is its value, and a longer one is rejected. -/
def SizeExact (n : BigNumber) : Prop :=
  (n.number.length ≤ 8 → n.toSizeT = .ok (value n.number)) ∧
    (8 < n.number.length → ∃ e, n.toSizeT = .error e ∧ e.isException = true)

/-- The terms add up to the value as long as no shift leaves the positive range of an
`int`. -/
theorem shiftedSum_ok {number : List UInt8} (hlength : number.length ≤ 4)
    (hvalue : value number < 2 ^ 31) {output : Nat} (houtput : output + value number < 2 ^ 64) :
    shiftedSum output number = .ok (output + value number) := by
  induction number generalizing output with
  | nil => rfl
  | cons b rest ih =>
    rw [List.length_cons] at hlength
    rw [value_cons, two_pow_eight_mul] at hvalue houtput
    have hterm : promotedShift b (8 * rest.length) = .ok (b.toNat * 2 ^ (8 * rest.length)) := by
      rw [promotedShift, if_neg (by omega), if_pos (by omega)]
    rw [shiftedSum, hterm, ok_bind, add64_eq (by omega), ih (by omega) (by omega) (by omega),
      value_cons, two_pow_eight_mul, Nat.add_assoc]

/-- From five bytes on the first shift is too wide for an `int`. -/
theorem shiftedSum_wide {b : UInt8} {rest : List UInt8} (hlength : 4 ≤ rest.length)
    (output : Nat) : shiftedSum output (b :: rest) = .error .undefinedBehaviour := by
  rw [shiftedSum, promotedShift, if_pos (.inl (by omega))]
  rfl

/-- Of four bytes with a large value the first becomes negative, and is sign-extended. -/
theorem shiftedSum_signed {number : List UInt8} (hlength : number.length = 4)
    (hvalue : 2 ^ 31 ≤ value number) :
    shiftedSum 0 number = .ok (value number + (2 ^ 64 - 2 ^ 32)) := by
  obtain ⟨b, rest, rfl⟩ := List.exists_cons_of_length_eq_add_one hlength
  have hrest : rest.length = 3 := by simpa using hlength
  have hshift : 8 * rest.length = 24 := by omega
  have hpow : (256 : Nat) ^ 3 = 2 ^ 24 := (two_pow_eight_mul 3)
  have hlt := value_lt rest
  have hbound := b.toNat_lt
  rw [hrest, hpow] at hlt
  rw [value_cons, hrest, hpow] at hvalue ⊢
  -- the other bytes are below 2 ^ 24, so the first one has its top bit set
  have htop : 128 ≤ b.toNat := by
    by_contra hlow
    have hsmall : b.toNat * 2 ^ 24 ≤ 127 * 2 ^ 24 := Nat.mul_le_mul_right _ (by omega)
    omega
  have hbyte : 128 * 2 ^ 24 ≤ b.toNat * 2 ^ 24 := Nat.mul_le_mul_right _ htop
  have hlarge : b.toNat * 2 ^ 24 ≤ 255 * 2 ^ 24 := Nat.mul_le_mul_right _ (by omega)
  obtain ⟨term, hterm⟩ : ∃ term, b.toNat * 2 ^ 24 = term := ⟨_, rfl⟩
  rw [hterm] at hvalue hbyte hlarge ⊢
  have hshifted : promotedShift b (8 * rest.length) = .ok (term + (2 ^ 64 - 2 ^ 32)) := by
    rw [hshift, promotedShift, hterm, if_neg (by omega), if_neg (by omega)]
  have hadd : add64 0 (term + (2 ^ 64 - 2 ^ 32)) = term + (2 ^ 64 - 2 ^ 32) := by
    rw [add64_eq (by omega), Nat.zero_add]
  rw [shiftedSum, hshifted, ok_bind, hadd, shiftedSum_ok (by omega) (by omega) (by omega),
    Nat.add_right_comm]

/-- **`to_size_t` is exact** for the numbers that are rejected, and for those of at most four
bytes with a value below 2 ^ 31. -/
theorem sizeExact_iff {n : BigNumber} (hn : n.isNull = false) :
    SizeExact n ↔ 8 < n.number.length ∨ (n.number.length ≤ 4 ∧ value n.number < 2 ^ 31) := by
  have hrun (hle : n.number.length ≤ 8) : n.toSizeT = shiftedSum 0 n.number := by
    rw [toSizeT, throwIfNull, hn, if_neg Bool.false_ne_true, ok_bind, if_neg (by omega)]
  constructor
  · rintro ⟨hexact, -⟩
    by_contra hnot
    obtain ⟨hle, hlarge⟩ := not_or.mp hnot
    have hsum := hexact (by omega)
    rw [hrun (by omega)] at hsum
    by_cases hwide : 4 < n.number.length
    · have hpos : 0 < n.number.length := by omega
      obtain ⟨b, rest, hcons⟩ := List.exists_cons_of_ne_nil (List.ne_nil_of_length_pos hpos)
      rw [hcons, List.length_cons] at hwide
      rw [hcons, shiftedSum_wide (by omega)] at hsum
      cases hsum
    · by_cases hfour : n.number.length = 4
      · rw [shiftedSum_signed hfour (by omega)] at hsum
        have hvalue := Except.ok.inj hsum
        omega
      · have hlt := value_lt n.number
        have hpow : 256 ^ n.number.length ≤ 256 ^ 3 := Nat.pow_le_pow_right (by decide) (by omega)
        omega
  · rintro (hlong | ⟨hle, hvalue⟩)
    · refine ⟨fun hle => by omega, fun _ =>
        ⟨.invalidArgument (lit "number too big to fit in size_t"), ?_, rfl⟩⟩
      rw [toSizeT, throwIfNull, hn, if_neg Bool.false_ne_true, ok_bind, if_pos hlong]
    · refine ⟨fun h => ?_, fun h => by omega⟩
      rw [hrun h, shiftedSum_ok hle hvalue (by omega), Nat.zero_add]

/-- The largest number that is exact. -/
theorem sizeExact_iff_largest : SizeExact (ofVector [0x7F, 0xFF, 0xFF, 0xFF]) ↔
    8 < [0x7F, (0xFF : UInt8), 0xFF, 0xFF].length ∨
      ([0x7F, (0xFF : UInt8), 0xFF, 0xFF].length ≤ 4 ∧
        value [0x7F, 0xFF, 0xFF, 0xFF] < 2 ^ 31) :=
  sizeExact_iff (n := ofVector [0x7F, 0xFF, 0xFF, 0xFF]) rfl

/-- **`to_size_t` may be off**: four bytes are sign-extended, and of five the first is shifted
too far. -/
theorem not_sizeExact :
    ¬ (∀ n : BigNumber, n.isNull = false → SizeExact n) ∧
      (ofVector [0x80, 0, 0, 0]).toSizeT = .ok (2 ^ 64 - 2 ^ 31) ∧
      (ofVector [0, 0, 0, 0, 1]).toSizeT = .error .undefinedBehaviour := by
  have hfour : (ofVector [0x80, 0, 0, 0]).toSizeT = .ok (2 ^ 64 - 2 ^ 31) := by decide +kernel
  refine ⟨fun hall => ?_, hfour, rfl⟩
  have hexact := (hall (ofVector [0x80, 0, 0, 0]) rfl).1 (by decide)
  have hlt : value [0x80, 0, 0, 0] < 256 ^ 4 := value_lt _
  rw [hfour, Except.ok.injEq, ofVector_number] at hexact
  rw [← hexact] at hlt
  exact absurd hlt (by decide)

end BigNumber
end SnapDesk
