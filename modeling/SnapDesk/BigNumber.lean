import Mathlib.Logic.Function.Iterate
import SnapDesk.Bytes

/-! # Numbers of any length

`big_number.cpp`.  A number is a vector of bytes, most significant first, or
null.  A pointer into a buffer is the list of bytes from there to the end of its
allocation: reading past that list is a step without meaning, and so is erasing
a range that is not inside a vector. -/
namespace SnapDesk

/-- Reading `buffer[i]`. -/
def readByte (buffer : List UInt8) (i : Nat) : Except Failure UInt8 :=
  match buffer[i]? with
  | some b => .ok b
  | none => .error .undefinedBehaviour

/-- Reading `buffer[i], …, buffer[i + count - 1]`, upwards. -/
def readUp (buffer : List UInt8) : Nat → Nat → Except Failure (List UInt8)
  | _, 0 => .ok []
  | i, count + 1 => do
      let b ← readByte buffer i
      let bs ← readUp buffer (i + 1) count
      return b :: bs

/-- Reading `buffer[count - 1], …, buffer[0]`, downwards. -/
def readDown (buffer : List UInt8) : Nat → Except Failure (List UInt8)
  | 0 => .ok []
  | i + 1 => do
      let b ← readByte buffer i
      let bs ← readDown buffer i
      return b :: bs

/-- `vector::erase` of the positions from `i` up to `j`. -/
def eraseRange (v : List UInt8) (i j : Nat) : Except Failure (List UInt8) :=
  if i ≤ j ∧ j ≤ v.length then .ok (v.take i ++ v.drop j) else .error .undefinedBehaviour

/-- `Big_number`. -/
structure BigNumber where
  number : List UInt8
  isNull : Bool
  deriving DecidableEq, Repr

namespace BigNumber

/-- The value of a declaration without initialiser. -/
def default : BigNumber := ⟨[], false⟩

def null : BigNumber := ⟨[], true⟩

/-- Assignment from a vector. -/
def ofVector (number : List UInt8) : BigNumber := ⟨number, false⟩

def throwIfNull (n : BigNumber) : Except Failure Unit :=
  if n.isNull then .error (.invalidArgument (lit "use of null number")) else .ok ()

def hexString (n : BigNumber) : Except Failure Str := do
  n.throwIfNull
  return n.number.flatMap hexByte

/-- The byte is printed into a C string and that string is appended, so a zero
byte adds nothing. -/
def charString (n : BigNumber) : Except Failure Str := do
  n.throwIfNull
  return n.number.flatMap fun byte => cStr [byte]

/-- `number[i] << k`: the byte is promoted to a 32-bit `int`, and the result is
converted to `size_t` by sign extension. -/
def promotedShift (byte : UInt8) (k : Nat) : Except Failure Nat :=
  let v := byte.toNat * 2 ^ k
  if 32 ≤ k ∨ 2 ^ 32 ≤ v then .error .undefinedBehaviour
  else .ok (if v < 2 ^ 31 then v else v + (2 ^ 64 - 2 ^ 32))

/-- The summing loop of `to_size_t`, from the byte at the head of the list on. -/
def shiftedSum (output : Nat) : List UInt8 → Except Failure Nat
  | [] => .ok output
  | byte :: rest => do
      let term ← promotedShift byte (8 * rest.length)
      shiftedSum (add64 output term) rest

def toSizeT (n : BigNumber) : Except Failure Nat := do
  n.throwIfNull
  if 8 < n.number.length then .error (.invalidArgument (lit "number too big to fit in size_t"))
  else shiftedSum 0 n.number

def cutByte (first size : Nat) : Method BigNumber Unit := do
  let n ← get
  n.throwIfNull
  if n.number.length < add64 first size then throw (.invalidArgument (lit "cut out of range"))
  else if size = 0 then set { n with isNull := true }
  else do
    let number ← eraseRange n.number 0 (n.number.length - add64 first size)
    let number ← eraseRange number size number.length
    set { n with number := number }

/-- `block & ~(1 << (7 - i))`. -/
def clearBit (i : Nat) (block : UInt8) : UInt8 := block &&& ~~~(1 <<< UInt8.ofNat (7 - i))

/-- `block >> 1` with the last bit of the byte before it in front. -/
def shiftBit (previousValue : Bool) (block : UInt8) : UInt8 :=
  if previousValue then (block >>> 1) ||| 0x80 else (block >>> 1) &&& 0x7F

/-- The loop of `cut_bit` that clears the bits before the cut, `count` of them
from number `i` on. -/
def clearBits : Nat → Nat → List UInt8 → Except Failure (List UInt8)
  | 0, _, number => .ok number
  | count + 1, i, number =>
      if 7 < i then .error .undefinedBehaviour
      else match number with
        | [] => .error .undefinedBehaviour
        | block :: rest => clearBits count (i + 1) (clearBit i block :: rest)

/-- One round of the shifting loop of `cut_bit`: every byte moves right by one
bit and takes the last bit of the byte before it. -/
def shiftRound (previousValue : Bool) : List UInt8 → List UInt8
  | [] => []
  | block :: rest => shiftBit previousValue block :: shiftRound (block % 2 = 1) rest

/-- The last part of `cut_bit`, on the bytes that hold the cut. -/
def shiftDown (bitsToRemoveBefore bitsToRemoveAfter : Nat) (number : List UInt8) :
    Except Failure (List UInt8) := do
  let number ← clearBits bitsToRemoveBefore 0 number
  let number := (shiftRound false)^[bitsToRemoveAfter] number
  if 8 ≤ add64 bitsToRemoveBefore bitsToRemoveAfter then eraseRange number 0 1
  else return number

def cutBit (first size : Nat) : Method BigNumber Unit := do
  let n ← get
  n.throwIfNull
  let last := add64 first size
  if n.number.length * 8 < last then throw (.invalidArgument (lit "cut out of range"))
  else do
    let byteFrom := (first - first % 8) / 8
    let byteSize := add64 (sub64 ((last - last % 8) / 8) byteFrom) (if 0 < last % 8 then 1 else 0)
    cutByte byteFrom byteSize
    let n ← get
    if n.isNull then return ()
    else do
      -- The first byte and the last may hold bits that were not asked for
      let bitsToRemoveAfter := first % 8
      let bitsToRemoveBefore := sub64 (sub64 (n.number.length * 8) size) bitsToRemoveAfter
      let number ← shiftDown bitsToRemoveBefore bitsToRemoveAfter n.number
      set { n with number := number }

def copy (n : BigNumber) : BigNumber := if n.isNull then null else ofVector n.number

/-- The bytes as they stand in the buffer. -/
def fromBufferInv (buffer : List UInt8) (bufferSize numberSize : Nat) :
    Except Failure BigNumber := do
  if bufferSize < numberSize then
    .error (.invalidArgument (lit "given buffer smaller that number size"))
  else
    let number ← readUp buffer 0 numberSize
    return ofVector number

/-- How often the loop of `from_buffer` runs: its counter is an `int`. -/
def countdown (numberSize : Nat) : Nat :=
  let i := sub64 numberSize 1 % 2 ^ 32
  if i < 2 ^ 31 then i + 1 else 0

/-- The bytes of the buffer from the last to the first. -/
def fromBuffer (buffer : List UInt8) (bufferSize numberSize : Nat) :
    Except Failure BigNumber := do
  if bufferSize < numberSize then
    .error (.invalidArgument (lit "given buffer smaller that number size"))
  else
    let number ← readDown buffer (countdown numberSize)
    return ofVector number

/-- The loop of `from_hex_string`.  After an odd last character the terminator
of the C string is read; the byte that `sprintf` writes behind its two-byte
buffer is taken as harmless. -/
def hexPairs : Str → Except Failure (List UInt8)
  | [] => .ok []
  | [c] => do
      let byte ← stoul (cStr [c, 0]) 16
      return [UInt8.ofNat byte]
  | c :: d :: rest => do
      let byte ← stoul (cStr [c, d]) 16
      let number ← hexPairs rest
      return UInt8.ofNat byte :: number

def fromHexString (s : Str) : Except Failure BigNumber := do
  if s = [] then return null
  else
    let number ← hexPairs s
    return ofVector number

/-! ### Reading numbers from a buffer -/

theorem readUp_eq {buffer : List UInt8} {i count : Nat} (h : i + count ≤ buffer.length) :
    readUp buffer i count = .ok ((buffer.drop i).take count) := by
  induction count generalizing i with
  | zero => simp [readUp]
  | succ count ih =>
    have hi : i < buffer.length := by omega
    rw [readUp, readByte, List.getElem?_eq_getElem hi, ih (by omega),
      List.drop_eq_getElem_cons hi]
    rfl

theorem readDown_eq {buffer : List UInt8} {count : Nat} (h : count ≤ buffer.length) :
    readDown buffer count = .ok (buffer.take count).reverse := by
  induction count with
  | zero => simp [readDown]
  | succ i ih =>
    have hi : i < buffer.length := by omega
    rw [readDown, readByte, List.getElem?_eq_getElem hi, ih (by omega),
      List.take_succ_eq_append_getElem hi,
      List.reverse_append]
    rfl

/-- A byte is read only where the allocation has one. -/
theorem readDown_outside {buffer : List UInt8} {count : Nat} (h : buffer.length < count) :
    readDown buffer count = .error .undefinedBehaviour := by
  cases count with
  | zero => simp at h
  | succ i =>
    rw [readDown, readByte, List.getElem?_eq_none (by omega)]
    rfl

theorem countdown_eq {numberSize : Nat} (h0 : 0 < numberSize) (h : numberSize ≤ 2 ^ 31) :
    countdown numberSize = numberSize := by
  have hsub : sub64 numberSize 1 = numberSize - 1 := sub64_eq h0
  rw [countdown, hsub, Nat.mod_eq_of_lt (by omega), if_pos (by omega)]
  omega

theorem fromBuffer_short {buffer : List UInt8} {bufferSize numberSize : Nat}
    (h : bufferSize < numberSize) :
    fromBuffer buffer bufferSize numberSize =
      .error (.invalidArgument (lit "given buffer smaller that number size")) := by
  rw [fromBuffer, if_pos h]

theorem fromBuffer_ok {buffer : List UInt8} {bufferSize numberSize : Nat}
    (h : numberSize ≤ bufferSize) (h0 : 0 < numberSize) (hi : numberSize ≤ 2 ^ 31)
    (hb : numberSize ≤ buffer.length) :
    fromBuffer buffer bufferSize numberSize = .ok (ofVector (buffer.take numberSize).reverse) := by
  rw [fromBuffer, if_neg (by omega), countdown_eq h0 hi, readDown_eq hb]
  rfl

theorem fromBuffer_outside {buffer : List UInt8} {bufferSize numberSize : Nat}
    (h : numberSize ≤ bufferSize) (h0 : 0 < numberSize) (hi : numberSize ≤ 2 ^ 31)
    (hb : buffer.length < numberSize) :
    fromBuffer buffer bufferSize numberSize = .error .undefinedBehaviour := by
  rw [fromBuffer, if_neg (by omega), countdown_eq h0 hi, readDown_outside hb]
  rfl

theorem fromBufferInv_ok {buffer : List UInt8} {bufferSize numberSize : Nat}
    (h : numberSize ≤ bufferSize) (hb : numberSize ≤ buffer.length) :
    fromBufferInv buffer bufferSize numberSize = .ok (ofVector (buffer.take numberSize)) := by
  rw [fromBufferInv, if_neg (by omega), readUp_eq (by omega), List.drop_zero]
  rfl

/-! ### How much is read -/

theorem length_readDown {buffer number : List UInt8} {count : Nat}
    (h : readDown buffer count = .ok number) :
    number.length = count := by
  induction count generalizing number with
  | zero =>
    cases h
    rfl
  | succ i ih =>
    obtain ⟨b, -, h⟩ := bind_eq_ok h
    obtain ⟨bs, hbs, h⟩ := bind_eq_ok h
    cases h
    rw [List.length_cons, ih hbs]

theorem length_readUp {buffer number : List UInt8} {i count : Nat}
    (h : readUp buffer i count = .ok number) :
    number.length = count := by
  induction count generalizing i number with
  | zero =>
    cases h
    rfl
  | succ count ih =>
    obtain ⟨b, -, h⟩ := bind_eq_ok h
    obtain ⟨bs, hbs, h⟩ := bind_eq_ok h
    cases h
    rw [List.length_cons, ih hbs]

theorem fromBuffer_eq_ok {buffer : List UInt8} {bufferSize numberSize : Nat} {x : BigNumber}
    (h : fromBuffer buffer bufferSize numberSize = .ok x) :
    x.isNull = false ∧ x.number.length = countdown numberSize := by
  unfold fromBuffer at h
  split at h
  · cases h
  · obtain ⟨number, hnumber, h⟩ := bind_eq_ok h
    cases h
    exact ⟨rfl, length_readDown hnumber⟩

theorem length_fromBuffer {buffer : List UInt8} {bufferSize numberSize : Nat} {x : BigNumber}
    (h0 : 0 < numberSize) (hi : numberSize ≤ 2 ^ 31)
    (h : fromBuffer buffer bufferSize numberSize = .ok x) : x.number.length = numberSize := by
  rw [(fromBuffer_eq_ok h).2, countdown_eq h0 hi]

theorem fromBufferInv_eq_ok {buffer : List UInt8} {bufferSize numberSize : Nat} {x : BigNumber}
    (h : fromBufferInv buffer bufferSize numberSize = .ok x) :
    x.isNull = false ∧ x.number.length = numberSize := by
  unfold fromBufferInv at h
  split at h
  · cases h
  · obtain ⟨number, hnumber, h⟩ := bind_eq_ok h
    cases h
    exact ⟨rfl, length_readUp hnumber⟩

/-! ### More of the buffer changes nothing that was read -/

theorem readByte_extends {buffer buffer' : List UInt8} (h : buffer <+: buffer') (i : Nat) :
    Extends (readByte buffer i) (readByte buffer' i) := by
  unfold readByte
  by_cases hi : i < buffer.length
  · have hi' : i < buffer'.length := Nat.lt_of_lt_of_le hi h.length_le
    right
    rw [List.getElem?_eq_getElem hi, List.getElem?_eq_getElem hi', h.getElem hi]
  · left
    rw [List.getElem?_eq_none (Nat.le_of_not_lt hi)]

theorem readUp_extends {buffer buffer' : List UInt8} (h : buffer <+: buffer') (i count : Nat) :
    Extends (readUp buffer i count) (readUp buffer' i count) := by
  induction count generalizing i with
  | zero => exact .refl _
  | succ count ih =>
    exact (readByte_extends h i).bind fun _ => (ih (i + 1)).bind fun _ => .refl _

theorem readDown_extends {buffer buffer' : List UInt8} (h : buffer <+: buffer') (count : Nat) :
    Extends (readDown buffer count) (readDown buffer' count) := by
  induction count with
  | zero => exact .refl _
  | succ count ih => exact (readByte_extends h count).bind fun _ => ih.bind fun _ => .refl _

theorem fromBuffer_extends {buffer buffer' : List UInt8} (h : buffer <+: buffer')
    (bufferSize numberSize : Nat) :
    Extends (fromBuffer buffer bufferSize numberSize) (fromBuffer buffer' bufferSize numberSize) :=
  .ite (.refl _) ((readDown_extends h _).bind fun _ => .refl _)

theorem fromBufferInv_extends {buffer buffer' : List UInt8} (h : buffer <+: buffer')
    (bufferSize numberSize : Nat) :
    Extends (fromBufferInv buffer bufferSize numberSize)
      (fromBufferInv buffer' bufferSize numberSize) :=
  .ite (.refl _) ((readUp_extends h _ _).bind fun _ => .refl _)

/-! ### Text -/

theorem charString_eq {n : BigNumber} (h : n.isNull = false) :
    n.charString = .ok (n.number.filter (· ≠ 0)) := by
  have hbyte : ∀ bytes : List UInt8,
      (bytes.flatMap fun byte => cStr [byte]) = bytes.filter (· ≠ 0) := by
    intro bytes
    induction bytes with
    | nil => rfl
    | cons b bytes ih =>
      rw [List.flatMap_cons, ih]
      by_cases hb : b = 0 <;> simp [cStr, hb]
  rw [charString, throwIfNull, h, ← hbyte]
  rfl

/-- A zero byte ends a C string, so there is none in the text. -/
theorem zero_notMem_charString {n : BigNumber} {s : List UInt8} (h : n.charString = .ok s) :
    0 ∉ s := by
  by_cases hnull : n.isNull = true
  · rw [charString, throwIfNull, if_pos hnull] at h
    cases h
  · rw [charString_eq (Bool.eq_false_iff.mpr hnull)] at h
    cases h
    simp

theorem hexString_eq {n : BigNumber} (h : n.isNull = false) :
    n.hexString = .ok (n.number.flatMap hexByte) := by
  rw [hexString, throwIfNull, h]
  rfl

/-! ### Cutting inside the number -/

@[simp] theorem ofVector_number (number : List UInt8) : (ofVector number).number = number := rfl

@[simp] theorem ofVector_isNull (number : List UInt8) : (ofVector number).isNull = false := rfl

@[simp] theorem throwIfNull_ofVector (number : List UInt8) :
    (ofVector number).throwIfNull = .ok () := rfl

theorem cutByte_ok {number : List UInt8} {first size : Nat} (hs : 0 < size)
    (h : first + size ≤ number.length) (h64 : first + size < 2 ^ 64) :
    (cutByte first size).run (ofVector number) =
      .ok () (ofVector ((number.drop (number.length - (first + size))).take size)) := by
  have hadd : add64 first size = first + size := add64_eq h64
  have herase : eraseRange number 0 (number.length - (first + size)) =
      .ok (number.drop (number.length - (first + size))) := by
    rw [eraseRange, if_pos (by omega), List.take_zero, List.nil_append]
  have herase' : ∀ v : List UInt8, size ≤ v.length →
      eraseRange v size v.length = .ok (v.take size) := by
    intro v hv
    rw [eraseRange, if_pos ⟨hv, Nat.le_refl _⟩, List.drop_length, List.append_nil]
  rw [cutByte, Method.run_bind_ok (Method.run_get _), throwIfNull_ofVector,
    Method.run_bind_ok (Method.run_lift_ok _ _)]
  simp only [ofVector_number, ofVector_isNull, hadd]
  rw [if_neg (by omega), if_neg (by omega), herase, Method.run_bind_ok (Method.run_lift_ok _ _),
    herase' _ (by rw [List.length_drop]; omega), Method.run_bind_ok (Method.run_lift_ok _ _),
    Method.run_set]
  rfl

/-- The bytes that hold the bits of a cut. -/
def cutBytes (number : List UInt8) (first size : Nat) : List UInt8 :=
  (number.drop (number.length - (first + size + 7) / 8)).take ((first + size + 7) / 8 - first / 8)

/-- Inside the number and without wrapping, a bit cut is a byte cut followed by
clearing the bits before the cut and shifting out those after it. -/
theorem cutBit_eq {number bytes : List UInt8} {first size : Nat} (hs : 0 < size)
    (h : first + size ≤ number.length * 8) (h64 : first + size < 2 ^ 64)
    (hbytes : shiftDown (((first + size + 7) / 8 - first / 8) * 8 - size - first % 8) (first % 8)
      (cutBytes number first size) = .ok bytes) :
    (cutBit first size).run (ofVector number) = .ok () (ofVector bytes) := by
  have hadd : add64 first size = first + size := add64_eq h64
  have hfrom : (first - first % 8) / 8 = first / 8 := by omega
  have hsize : add64 (sub64 ((first + size - (first + size) % 8) / 8) (first / 8))
      (if 0 < (first + size) % 8 then 1 else 0) = (first + size + 7) / 8 - first / 8 := by
    rw [sub64_eq (by omega), add64_eq (by split <;> omega)]
    split <;> omega
  have hsum : first / 8 + ((first + size + 7) / 8 - first / 8) = (first + size + 7) / 8 := by omega
  have hcut : (cutByte (first / 8) ((first + size + 7) / 8 - first / 8)).run (ofVector number) =
      .ok () (ofVector (cutBytes number first size)) := by
    rw [cutByte_ok (by omega) (by omega) (by omega), hsum, cutBytes]
  have hlen : (cutBytes number first size).length = (first + size + 7) / 8 - first / 8 := by
    rw [cutBytes, List.length_take, List.length_drop]
    omega
  have hbefore : sub64 (sub64 ((cutBytes number first size).length * 8) size) (first % 8) =
      ((first + size + 7) / 8 - first / 8) * 8 - size - first % 8 := by
    have hinner : sub64 (((first + size + 7) / 8 - first / 8) * 8) size =
        ((first + size + 7) / 8 - first / 8) * 8 - size := sub64_eq (by omega)
    rw [hlen, hinner, sub64_eq (by omega)]
  rw [cutBit, Method.run_bind_ok (Method.run_get _), throwIfNull_ofVector,
    Method.run_bind_ok (Method.run_lift_ok _ _)]
  simp only [ofVector_number, hadd, hfrom, hsize]
  rw [if_neg (by omega), Method.run_bind_ok hcut, Method.run_bind_ok (Method.run_get _)]
  simp only [ofVector_number, ofVector_isNull, Bool.false_eq_true, if_false, hbefore, hbytes]
  rfl

/-! ### The cuts of a two-byte number that select a body -/

set_option maxRecDepth 4000 in
/-- Bits 2 and 3 of the last byte. -/
theorem cutBit_two_two (b₁ b₀ : UInt8) :
    (cutBit 2 2).run (ofVector [b₁, b₀]) = .ok () (ofVector [(b₀ >>> 2) &&& 3]) := by
  have key : ∀ b : UInt8, shiftBit false (shiftBit false
      (clearBit 3 (clearBit 2 (clearBit 1 (clearBit 0 b))))) = (b >>> 2) &&& 3 :=
    byte_forall (by decide)
  exact cutBit_eq (by decide) (by simp) (by decide) (by rw [← key b₀]; rfl)

set_option maxRecDepth 4000 in
/-- Bits 4 to 7 of the last byte. -/
theorem cutBit_four_four (b₁ b₀ : UInt8) :
    (cutBit 4 4).run (ofVector [b₁, b₀]) = .ok () (ofVector [b₀ >>> 4]) := by
  have key : ∀ b : UInt8, shiftBit false (shiftBit false (shiftBit false (shiftBit false b))) =
      b >>> 4 := byte_forall (by decide)
  exact cutBit_eq (by decide) (by simp) (by decide) (by rw [← key b₀]; rfl)

theorem toSizeT_byte (b : UInt8) : toSizeT (ofVector [b]) = .ok b.toNat := by
  have hlt := b.toNat_lt
  have hterm : promotedShift b 0 = .ok b.toNat := by
    rw [promotedShift, if_neg (by omega), if_pos (by omega), Nat.pow_zero, Nat.mul_one]
  show shiftedSum 0 [b] = _
  rw [shiftedSum, List.length_nil, Nat.mul_zero, hterm]
  show Except.ok (add64 0 b.toNat) = _
  rw [add64_eq (by omega), Nat.zero_add]

end BigNumber
end SnapDesk
