import Mathlib.Algebra.GroupWithZero.Nat
import SnapDesk.BigNumber

/-! # The beacon device

`my_module.h`, the same in both drivers.  The driver publishes a beacon by
copying it into a global buffer; the first of several overlapping opens copies
that buffer into the container of the device, and every read copies from there.

Sizes and counters are `size_t`, so the arithmetic is that of 64 bits.  An index
outside an array has no meaning; `Sound` is the invariant that keeps the module
away from it. -/
namespace SnapDesk
open BigNumber

/-- `BEACON_MAX_SIZE`, the size of both arrays. -/
def beaconMaxSize : Nat := 2346

/-- Writing `buffer[i]`. -/
def writeByte (buffer : List UInt8) (i : Nat) (b : UInt8) : Except Failure (List UInt8) :=
  if i < buffer.length then .ok (buffer.set i b) else .error .undefinedBehaviour

/-- `to[i] = from[i]` for `count` indices from `i` on. -/
def copyBytes (target source : List UInt8) : Nat → Nat → Except Failure (List UInt8)
  | _, 0 => .ok target
  | i, count + 1 => do
      let b ← readByte source i
      let target ← writeByte target i b
      copyBytes target source (i + 1) count

/-- The loop copies a slice. -/
theorem copyBytes_eq {target source : List UInt8} {i count : Nat} (hs : i + count ≤ source.length)
    (ht : i + count ≤ target.length) :
    copyBytes target source i count =
      .ok (target.take i ++ ((source.drop i).take count ++ target.drop (i + count))) := by
  induction count generalizing target i with
  | zero => simp [copyBytes]
  | succ count ih =>
    have hi : i < source.length := by omega
    rw [copyBytes, readByte, List.getElem?_eq_getElem hi, ok_bind, writeByte, if_pos (by omega),
      ok_bind, ih (by omega) (by rw [List.length_set]; omega), List.drop_eq_getElem_cons hi,
      List.take_succ_cons]
    have htake : (target.set i source[i]).take (i + 1) = target.take i ++ [source[i]] := by
      rw [List.take_set, List.take_succ_eq_append_getElem (by omega),
        List.set_append_right _ _ (by rw [List.length_take]; omega)]
      simp [Nat.min_eq_left (show i ≤ target.length by omega)]
    have hdrop : (target.set i source[i]).drop (i + 1 + count) = target.drop (i + (count + 1)) := by
      rw [List.drop_set_of_lt (by omega)]
      congr 1
      omega
    rw [htake, hdrop, List.append_assoc, List.singleton_append, List.cons_append]

/-- `my_cdev_container`, without its `cdev`. -/
structure Container where
  loadedFrame : List UInt8
  frameSize : Nat
  openCount : Nat

/-- The static data of the module, with its one container. -/
structure Module where
  buffer : List UInt8
  frameSize : Nat
  container : Container

/-- What `my_read` returns, copies to the user and leaves in `*offset`. -/
structure ReadResult where
  ret : Int
  copied : List UInt8
  offset : Nat

namespace Module

def fillBuffer (target : List UInt8) (targetSize : Nat) (source : List UInt8) (sourceSize : Nat) :
    Except Failure (List UInt8) :=
  copyBytes target source 0 (min targetSize sourceSize)

def myOpen (m : Module) : Except Failure Module :=
  if m.container.openCount < 1 then do
    let loadedFrame ← fillBuffer m.container.loadedFrame beaconMaxSize m.buffer m.frameSize
    return { m with container := ⟨loadedFrame, m.frameSize, add64 m.container.openCount 1⟩ }
  else .ok { m with container := { m.container with openCount := add64 m.container.openCount 1 } }

def myRelease (m : Module) : Module :=
  { m with container := { m.container with openCount := sub64 m.container.openCount 1 } }

/-- The user buffer takes what it is given. -/
def myRead (m : Module) (bufferSize offset : Nat) : Except Failure ReadResult :=
  let len := min (sub64 m.container.frameSize offset) bufferSize
  -- As a `ssize_t` the length may be negative
  if 2 ^ 63 ≤ len then .ok ⟨-1, [], offset⟩
  else if m.container.loadedFrame.length < len then .error .undefinedBehaviour
  else .ok ⟨len, m.container.loadedFrame.take len, add64 offset len⟩

/-- `update_beacon`, `my_update_beacon` in the other driver. -/
def updateBeacon (m : Module) (beaconBody : List UInt8) (remainingLen : Nat) :
    Except Failure Module := do
  let buffer ← copyBytes m.buffer beaconBody 0 remainingLen
  return { m with buffer := buffer, frameSize := min remainingLen beaconMaxSize }

/-- The global buffer holds a beacon. -/
def Published (m : Module) (b : List UInt8) : Prop := m.frameSize = b.length ∧ b <+: m.buffer

/-- The container holds a beacon. -/
def Loaded (m : Module) (b : List UInt8) : Prop :=
  m.container.frameSize = b.length ∧ b <+: m.container.loadedFrame

theorem Published.take_eq {m : Module} {b : List UInt8} (h : m.Published b) :
    m.buffer.take m.frameSize = b := by
  rw [h.1]
  exact (List.prefix_iff_eq_take.mp h.2).symm

/-- The arrays have their size and hold as much as they say. -/
structure Sound (m : Module) : Prop where
  buffer_length : m.buffer.length = beaconMaxSize
  loadedFrame_length : m.container.loadedFrame.length = beaconMaxSize
  frameSize_le : m.frameSize ≤ beaconMaxSize

/-! ### What each call does -/

theorem updateBeacon_ok {m : Module} (hbuffer : m.buffer.length = beaconMaxSize) {b : List UInt8}
    (hb : b.length ≤ beaconMaxSize) :
    m.updateBeacon b b.length =
      .ok { m with buffer := b ++ m.buffer.drop b.length, frameSize := b.length } := by
  have hcopy : copyBytes m.buffer b 0 b.length = .ok (b ++ m.buffer.drop b.length) := by
    rw [copyBytes_eq (by omega) (by rw [hbuffer]; omega)]
    simp
  rw [updateBeacon, hcopy, ok_bind, Nat.min_eq_left hb]
  rfl

/-- The first open loads the global buffer. -/
theorem myOpen_first {m : Module} (hm : m.Sound) (h : m.container.openCount = 0) :
    m.myOpen = .ok { m with container :=
      ⟨m.buffer.take m.frameSize ++ m.container.loadedFrame.drop m.frameSize, m.frameSize, 1⟩ } := by
  have hcopy : copyBytes m.container.loadedFrame m.buffer 0 (min beaconMaxSize m.frameSize) =
      .ok (m.buffer.take m.frameSize ++ m.container.loadedFrame.drop m.frameSize) := by
    have hle := hm.frameSize_le
    rw [Nat.min_eq_right hle, copyBytes_eq (by rw [hm.buffer_length]; omega)
      (by rw [hm.loadedFrame_length]; omega)]
    simp
  rw [myOpen, if_pos (by omega), fillBuffer, hcopy, h]
  rfl

/-- A later open only counts. -/
theorem myOpen_later {m : Module} (h : 1 ≤ m.container.openCount) :
    m.myOpen =
      .ok { m with container :=
        { m.container with openCount := add64 m.container.openCount 1 } } := by
  rw [myOpen, if_neg (by omega)]

section Release
variable {m : Module} {b : List UInt8}

@[simp] theorem myRelease_loadedFrame :
    m.myRelease.container.loadedFrame = m.container.loadedFrame := by dsimp only [myRelease]

@[simp] theorem myRelease_frameSize :
    m.myRelease.container.frameSize = m.container.frameSize := by dsimp only [myRelease]

theorem Sound.myRelease (hm : m.Sound) : m.myRelease.Sound := by
  refine ⟨?_, ?_, ?_⟩
  · exact hm.buffer_length
  · rw [myRelease_loadedFrame]
    exact hm.loadedFrame_length
  · exact hm.frameSize_le

theorem Loaded.myRelease (hm : m.Loaded b) : m.myRelease.Loaded b := by
  rw [Loaded, myRelease_loadedFrame, myRelease_frameSize]
  exact hm

end Release

/-- A read within the frame copies from the start of the frame, not from the
offset. -/
theorem myRead_ok {m : Module} {b : List UInt8} (hm : m.Loaded b) (hb : b.length ≤ beaconMaxSize)
    {offset : Nat} (ho : offset ≤ b.length) (bufferSize : Nat) :
    m.myRead bufferSize offset =
      .ok ⟨(min (b.length - offset) bufferSize : Nat), b.take (min (b.length - offset) bufferSize),
        offset + min (b.length - offset) bufferSize⟩ := by
  obtain ⟨hsize, rest, hrest⟩ := hm
  rw [beaconMaxSize] at hb
  have hlen : (b ++ rest).length = b.length + rest.length := List.length_append
  rw [myRead, hsize, sub64_eq ho, ← hrest, if_neg (by omega), if_neg (by omega),
    List.take_append_of_le_length (by omega), add64_eq (by omega)]

/-! ### One handle, read in pieces -/

/-- Reads on one handle, one after the other, with the given request sizes. -/
def myReads (m : Module) : Nat → List Nat → Except Failure (List ReadResult)
  | _, [] => .ok []
  | offset, bufferSize :: sizes => do
      let r ← m.myRead bufferSize offset
      let rs ← myReads m r.offset sizes
      return r :: rs

/-- What reads on one handle copy of a frame, after they have asked for some bytes of it:
each time a beginning of the frame, as long as what is left. -/
def beginnings (b : List UInt8) : Nat → List Nat → List (List UInt8)
  | _, [] => []
  | asked, bufferSize :: sizes =>
      b.take (min (b.length - asked) bufferSize) :: beginnings b (asked + bufferSize) sizes

theorem beginnings_snoc (b : List UInt8) (asked : Nat) (sizes : List Nat) (bufferSize : Nat) :
    beginnings b asked (sizes ++ [bufferSize]) =
      beginnings b asked sizes ++ [b.take (min (b.length - (asked + sizes.sum)) bufferSize)] := by
  induction sizes generalizing asked with
  | nil => rfl
  | cons first sizes ih =>
    rw [List.cons_append, beginnings, beginnings, ih, List.sum_cons, ← Nat.add_assoc,
      List.cons_append]

/-- A first read that asks for the whole frame gets it, and leaves nothing. -/
theorem beginnings_whole {b : List UInt8} {bufferSize : Nat} (h : b.length ≤ bufferSize)
    (sizes : List Nat) :
    beginnings b 0 (bufferSize :: sizes) = b :: List.replicate sizes.length [] := by
  have hnothing (asked : Nat) (hasked : b.length ≤ asked) :
      beginnings b asked sizes = List.replicate sizes.length [] := by
    induction sizes generalizing asked with
    | nil => rfl
    | cons first sizes ih =>
      rw [beginnings, ih _ (by omega), Nat.sub_eq_zero_of_le hasked, Nat.zero_min, List.take_zero]
      rfl
  rw [beginnings, hnothing _ (by omega), Nat.sub_zero, Nat.min_eq_left h, List.take_length]

/-- Where the requests cut the frame for the `i`-th time. -/
def cutAt (requests : Nat → Nat) : Nat → Nat
  | 0 => 0
  | i + 1 => requests 0 + cutAt (fun j => requests (j + 1)) i

/-- Every piece that the requests cut the frame into, from an offset on, is also
a beginning of the frame. -/
def PiecesBegin (b : List UInt8) (offset : Nat) (requests : Nat → Nat) : Prop :=
  ∀ i, (b.drop (offset + cutAt requests i)).take (requests i) <+: b

/-- The first piece and the others. -/
theorem piecesBegin_succ (b : List UInt8) (offset : Nat) (requests : Nat → Nat) :
    PiecesBegin b offset requests ↔ (b.drop offset).take (requests 0) <+: b ∧
      PiecesBegin b (offset + min (b.length - offset) (requests 0)) fun j => requests (j + 1) := by
  have hdrop : ∀ x, b.drop (offset + (requests 0 + x)) =
      b.drop (offset + min (b.length - offset) (requests 0) + x) := by
    intro x
    rcases Nat.le_total (requests 0) (b.length - offset) with h | h
    · rw [Nat.min_eq_right h, Nat.add_assoc]
    · rw [List.drop_eq_nil_of_le (by omega), List.drop_eq_nil_of_le (by omega)]
  constructor
  · intro h
    exact ⟨h 0, fun i => by have := h (i + 1); rwa [cutAt, hdrop] at this⟩
  · rintro ⟨h0, h⟩ (_ | i)
    · exact h0
    · rw [cutAt, hdrop]
      exact h i

/-- From any offset within the frame, reads end, and what they return up to then
is the rest of the frame exactly if the pieces begin the frame.  The induction is
on the bytes that are left. -/
theorem myReads_rest {m : Module} {b : List UInt8} (hm : m.Loaded b)
    (hb : b.length ≤ beaconMaxSize) {left : Nat} (offset : Nat) (hleft : b.length = offset + left)
    (requests : Nat → Nat) (hpos : ∀ i, 1 ≤ requests i) :
    ∃ n rs last, m.myReads offset ((List.range (n + 1)).map requests) = .ok (rs ++ [last]) ∧
      (∀ r ∈ rs, r.ret ≠ 0) ∧ last.ret = 0 ∧
      (rs.flatMap (·.copied) = b.drop offset ↔ PiecesBegin b offset requests) := by
  induction left using Nat.strong_induction_on generalizing offset requests with
  | _ left ih =>
    -- the first request, and the others from where it ends
    have hread := myRead_ok hm hb (show offset ≤ b.length by omega) (requests 0)
    have hrange : ∀ n, (List.range (n + 1)).map requests =
        requests 0 :: (List.range n).map fun j => requests (j + 1) := by
      intro n
      rw [List.range_succ_eq_map, List.map_cons, List.map_map]
      rfl
    rcases Nat.eq_zero_or_pos left with h0 | hpos0
    · have hmin : min (b.length - offset) (requests 0) = 0 := by omega
      rw [hmin] at hread
      refine ⟨0, [], _, by rw [hrange, myReads, hread]; rfl, by simp, rfl, ?_⟩
      have hnil : ∀ i, b.drop (offset + cutAt requests i) = [] := fun i =>
        List.drop_eq_nil_of_le (by omega)
      simp [PiecesBegin, hnil, List.drop_eq_nil_of_le (show b.length ≤ offset by omega)]
    · have hone := hpos 0
      set len := min (b.length - offset) (requests 0) with hlen
      obtain ⟨n, rs, last, hrs, hne, hlast, hiff⟩ := ih (left - len) (by omega) (offset + len)
        (by omega) (fun j => requests (j + 1)) fun i => hpos (i + 1)
      refine ⟨n + 1, _ :: rs, last, by rw [hrange, myReads, hread, ok_bind, hrs]; rfl, ?_, hlast, ?_⟩
      · intro r hr
        rcases List.mem_cons.mp hr with rfl | hr
        · show ((len : Nat) : Int) ≠ 0
          omega
        · exact hne r hr
      · have htake : (b.drop offset).take (requests 0) = (b.drop offset).take len :=
          List.take_eq_take_iff.mpr (by rw [List.length_drop]; omega)
        have hlength : ((b.drop offset).take len).length = len := by
          rw [List.length_take, List.length_drop]
          omega
        have hpiece : (b.drop offset).take (requests 0) <+: b ↔
            b.take len = (b.drop offset).take len := by
          rw [htake, List.prefix_iff_eq_take, hlength, eq_comm]
        -- the piece that is asked for is not the one that is copied
        have hsplit : b.drop offset = (b.drop offset).take len ++ b.drop (offset + len) := by
          rw [← List.drop_drop, List.take_append_drop]
        rw [List.flatMap_cons, piecesBegin_succ, hpiece, ← hiff]
        constructor
        · intro h
          rw [hsplit] at h
          exact List.append_inj h (by rw [hlength, List.length_take]; omega)
        · rintro ⟨h₁, h₂⟩
          show b.take len ++ _ = _
          rw [h₁, h₂, ← hsplit]

/-- **Reading in pieces yields the frame** exactly if every piece is also a
beginning of the frame. -/
theorem myReads_yield_iff {m : Module} {b : List UInt8} (hm : m.Loaded b)
    (hb : b.length ≤ beaconMaxSize) {requests : Nat → Nat} (hpos : ∀ i, 1 ≤ requests i) :
    ∃ n rs last, m.myReads 0 ((List.range (n + 1)).map requests) = .ok (rs ++ [last]) ∧
      (∀ r ∈ rs, r.ret ≠ 0) ∧ last.ret = 0 ∧
      (rs.flatMap (·.copied) = b ↔ PiecesBegin b 0 requests) :=
  myReads_rest hm hb 0 (Nat.zero_add _).symm requests hpos

/-- A module with the frame 5, 5, 5 in its container. -/
def threeFives : Module :=
  ⟨List.replicate beaconMaxSize 0, 0, ⟨List.replicate 3 5 ++ List.replicate 2343 0, 3, 1⟩⟩

/-- Two bytes are asked for, and then one at a time: that frame has the pieces of its
beginning. -/
theorem myReads_yield_fives : ∃ n rs last,
    threeFives.myReads 0 ((List.range (n + 1)).map fun i => if i = 0 then 2 else 1) =
      .ok (rs ++ [last]) ∧
    (∀ r ∈ rs, r.ret ≠ 0) ∧ last.ret = 0 ∧ rs.flatMap (·.copied) = [5, 5, 5] := by
  have hpieces : PiecesBegin (List.replicate 3 5) 0 fun i => if i = 0 then 2 else 1 := by
    intro i
    rw [List.drop_replicate, List.take_replicate]
    refine List.prefix_replicate_iff.mpr ⟨?_, by rw [List.length_replicate]⟩
    rw [List.length_replicate]
    omega
  have hloaded : threeFives.Loaded (List.replicate 3 5) := ⟨rfl, List.prefix_append _ _⟩
  obtain ⟨n, rs, last, hreads, hne, hlast, hiff⟩ := myReads_yield_iff hloaded (by decide)
    fun i : Nat => show 1 ≤ if i = 0 then 2 else 1 by split <;> decide
  exact ⟨n, rs, last, hreads, hne, hlast, hiff.mpr hpieces⟩

/-- A module with the frame 1, 2 in its container. -/
def twoBytes : Module :=
  ⟨List.replicate beaconMaxSize 0, 0, ⟨1 :: 2 :: List.replicate 2344 0, 2, 1⟩⟩

theorem twoBytes_loaded : twoBytes.Loaded [1, 2] := ⟨rfl, List.replicate 2344 0, rfl⟩

/-- Byte by byte, that frame reads 1, 1. -/
theorem myReads_bytewise : twoBytes.Loaded [1, 2] ∧
    ∃ rs last, twoBytes.myReads 0 [1, 1, 1] = .ok (rs ++ [last]) ∧ (∀ r ∈ rs, r.ret ≠ 0) ∧
      last.ret = 0 ∧ rs.flatMap (·.copied) ≠ [1, 2] := by
  have hread : ∀ offset, offset ≤ 2 → twoBytes.myRead 1 offset =
      .ok ⟨(min (2 - offset) 1 : Nat), [1, 2].take (min (2 - offset) 1),
        offset + min (2 - offset) 1⟩ := fun offset ho =>
    myRead_ok twoBytes_loaded (by decide) ho 1
  refine ⟨twoBytes_loaded, [⟨1, [1], 1⟩, ⟨1, [1], 2⟩], ⟨0, [], 2⟩, ?_, by decide, rfl, by decide⟩
  rw [myReads, hread 0 (by decide), ok_bind, myReads, hread _ (by decide), ok_bind, myReads,
    hread _ (by decide), ok_bind]
  rfl

end Module
end SnapDesk
