import SnapDesk.Device

/-! # The bounds of the beacon device

What a single call may reach.  `my_read` takes the smaller of the request and of what
is left of the frame, but what is left is a difference of 64 bits: behind the end of the
frame it wraps around, and a positional read is given whatever it asks for
(`readsInside_iff`).  `update_beacon` bounds the size that it stores and not the loop that
copies, so a packet longer than the buffer is written past its end
(`publishesInside_iff`). -/
namespace SnapDesk
namespace Module

/-! ### Reading -/

/-- The range of `loaded_frame` that `my_read` gives to `copy_to_user`, if it comes to it:
where it starts and how long it is. -/
def copiedRange (m : Module) (bufferSize offset : Nat) : Option (Nat × Nat) :=
  let len := min (sub64 m.container.frameSize offset) bufferSize
  if 2 ^ 63 ≤ len then none else some (0, len)

/-- A read returns what is left of the frame, up to the request, and the range that it
copies ends inside the frame. -/
def ReadsInside (m : Module) (bufferSize offset : Nat) : Prop :=
  ∃ r, m.myRead bufferSize offset = .ok r ∧
    r.ret = (if offset < m.container.frameSize then min bufferSize (m.container.frameSize - offset)
      else 0 : Nat) ∧
    ∀ start len, m.copiedRange bufferSize offset = some (start, len) →
      start + len ≤ m.container.frameSize

section
variable {m : Module} {offset : Nat}

theorem copiedRange_eq_some {bufferSize start len : Nat}
    (h : m.copiedRange bufferSize offset = some (start, len)) :
    start = 0 ∧ len = min (sub64 m.container.frameSize offset) bufferSize ∧ len < 2 ^ 63 := by
  unfold copiedRange at h
  simp only at h
  split_ifs at h with hnegative
  cases h
  exact ⟨rfl, rfl, Nat.lt_of_not_le hnegative⟩

/-- The user buffer gets that range. -/
theorem myRead_copied {bufferSize : Nat} {r : ReadResult} (hr : m.myRead bufferSize offset = .ok r)
    {start len : Nat} (hrange : m.copiedRange bufferSize offset = some (start, len)) :
    r.copied = (m.container.loadedFrame.drop start).take len ∧ r.ret = len := by
  obtain ⟨rfl, rfl, hlen⟩ := copiedRange_eq_some hrange
  simp only [myRead, if_neg (Nat.not_le_of_lt hlen)] at hr
  split_ifs at hr with houtside
  cases hr
  exact ⟨rfl, rfl⟩

/-- Up to the end of the frame the difference does not wrap around. -/
theorem readsInside_of_le (hlength : m.container.loadedFrame.length = beaconMaxSize)
    (hsize : m.container.frameSize ≤ beaconMaxSize) (hoffset : offset ≤ m.container.frameSize)
    (bufferSize : Nat) : m.ReadsInside bufferSize offset := by
  have hframe : (m.container.loadedFrame.take m.container.frameSize).length =
      m.container.frameSize := by
    rw [List.length_take, hlength, Nat.min_eq_left hsize]
  have hload : m.Loaded (m.container.loadedFrame.take m.container.frameSize) :=
    ⟨hframe.symm, List.take_prefix _ _⟩
  have hret : min (m.container.frameSize - offset) bufferSize =
      if offset < m.container.frameSize then min bufferSize (m.container.frameSize - offset)
      else 0 := by
    split <;> omega
  have hread := myRead_ok hload (by omega) (show offset ≤ _ by omega) bufferSize
  refine ⟨_, hread, by rw [hframe, hret], fun start len hrange => ?_⟩
  obtain ⟨rfl, rfl, -⟩ := copiedRange_eq_some hrange
  rw [sub64_eq hoffset]
  omega

/-- Behind the end of the frame a read is given what it asks for, or fails. -/
theorem myRead_behind (hoffset : m.container.frameSize < offset) (h63 : offset < 2 ^ 63)
    {bufferSize : Nat} {r : ReadResult} (hr : m.myRead bufferSize offset = .ok r) :
    r.ret = bufferSize ∨ r.ret = -1 := by
  have hwrap : sub64 m.container.frameSize offset = m.container.frameSize + 2 ^ 64 - offset :=
    sub64_wraps hoffset
  simp only [myRead, hwrap] at hr
  split_ifs at hr with hnegative houtside
  · cases hr
    exact .inr rfl
  · cases hr
    left
    -- the difference is at least 2 ^ 63, so a length below that is the request
    have hlen : min (m.container.frameSize + 2 ^ 64 - offset) bufferSize = bufferSize := by omega
    rw [hlen]

/-- A request for nothing is given nothing. -/
theorem myRead_zero (offset : Nat) : m.myRead 0 offset = .ok ⟨0, [], add64 offset 0⟩ := by
  have hlen : min (sub64 m.container.frameSize offset) 0 = 0 := Nat.min_zero _
  rw [myRead, hlen, if_neg (by omega), if_neg (Nat.not_lt_zero _), List.take_zero]
  rfl

/-- **A read stays inside the frame** exactly if it does not begin behind its end, or asks
for nothing. -/
theorem readsInside_iff (hlength : m.container.loadedFrame.length = beaconMaxSize)
    (hsize : m.container.frameSize ≤ beaconMaxSize) (h63 : offset < 2 ^ 63) (bufferSize : Nat) :
    m.ReadsInside bufferSize offset ↔ offset ≤ m.container.frameSize ∨ bufferSize = 0 := by
  constructor
  · rintro ⟨r, hr, hret, -⟩
    by_contra hout
    obtain ⟨hbehind, hrequest⟩ := not_or.mp hout
    rw [if_neg (by omega)] at hret
    rcases myRead_behind (Nat.lt_of_not_le hbehind) h63 hr with h | h <;> omega
  · rintro (hoffset | rfl)
    · exact readsInside_of_le hlength hsize hoffset bufferSize
    · refine ⟨_, myRead_zero offset, ?_, fun start len hrange => ?_⟩
      · rw [Nat.zero_min, ite_self]
        rfl
      · obtain ⟨rfl, rfl, -⟩ := copiedRange_eq_some hrange
        rw [Nat.min_zero]
        exact Nat.zero_le _

end

theorem twoBytes_length : twoBytes.container.loadedFrame.length = beaconMaxSize := by
  rw [twoBytes, List.length_cons, List.length_cons, List.length_replicate, beaconMaxSize]

/-- A frame of two bytes, read from its end on and from behind it. -/
theorem readsInside_iff_two :
    (twoBytes.ReadsInside 4 2 ↔ 2 ≤ 2 ∨ 4 = 0) ∧ (twoBytes.ReadsInside 4 3 ↔ 3 ≤ 2 ∨ 4 = 0) :=
  ⟨readsInside_iff twoBytes_length (by decide) (by decide) 4,
    readsInside_iff twoBytes_length (by decide) (by decide) 4⟩

/-- **A read may go on behind the end of the frame**: at position 3 of two bytes it does not
return 0. -/
theorem not_readsInside :
    ¬ ∀ (m : Module) (bufferSize offset : Nat),
      m.container.loadedFrame.length = beaconMaxSize → m.container.frameSize ≤ beaconMaxSize →
      offset < 2 ^ 63 → m.ReadsInside bufferSize offset := by
  intro hall
  obtain ⟨r, hr, hret, -⟩ := hall twoBytes 1 3 twoBytes_length (by decide) (by decide)
  rw [if_neg (by decide)] at hret
  rcases myRead_behind (by decide) (by decide) hr with h | h <;> omega

/-! ### Publishing -/

/-- A packet is published inside the buffer, as far as the buffer holds it. -/
def PublishesInside (m : Module) (packet : List UInt8) : Prop :=
  ∃ m', m.updateBeacon packet packet.length = .ok m' ∧ m'.buffer.length = beaconMaxSize ∧
    m'.frameSize = min packet.length beaconMaxSize ∧
    m'.buffer.take m'.frameSize = packet.take m'.frameSize

/-- The loop stops at the first index outside of the target. -/
theorem copyBytes_outside {target source : List UInt8} {i count : Nat} (hi : i ≤ target.length)
    (h : target.length < i + count) :
    copyBytes target source i count = .error .undefinedBehaviour := by
  induction count generalizing target i with
  | zero => omega
  | succ count ih =>
    cases hread : readByte source i with
    | error e =>
      rw [copyBytes, hread]
      unfold readByte at hread
      split at hread
      · cases hread
      · cases hread
        rfl
    | ok b =>
      rw [copyBytes, hread, ok_bind]
      by_cases hlt : i < target.length
      · rw [writeByte, if_pos hlt, ok_bind]
        refine ih ?_ ?_
        · rw [List.length_set]
          exact hlt
        · rw [List.length_set]
          omega
      · rw [writeByte, if_neg hlt]
        rfl

/-- A packet that is longer than the buffer is written past its end. -/
theorem updateBeacon_outside {m : Module} (hbuffer : m.buffer.length = beaconMaxSize)
    {packet : List UInt8} (h : beaconMaxSize < packet.length) :
    m.updateBeacon packet packet.length = .error .undefinedBehaviour := by
  rw [updateBeacon, copyBytes_outside (Nat.zero_le _) (by omega)]
  rfl

/-- **A packet is published inside the buffer** exactly if it is not longer than the buffer. -/
theorem publishesInside_iff {m : Module} (hbuffer : m.buffer.length = beaconMaxSize)
    (packet : List UInt8) : m.PublishesInside packet ↔ packet.length ≤ beaconMaxSize := by
  constructor
  · rintro ⟨m', hrun, -⟩
    by_contra hlong
    rw [updateBeacon_outside hbuffer (by omega)] at hrun
    cases hrun
  · intro hlength
    refine ⟨_, updateBeacon_ok hbuffer hlength, ?_, (Nat.min_eq_left hlength).symm, ?_⟩
    · rw [List.length_append, List.length_drop]
      omega
    · rw [List.take_left, List.take_length]

/-- A packet of three bytes. -/
theorem publishesInside_iff_three :
    twoBytes.PublishesInside [0x80, 0, 0] ↔ [0x80, (0 : UInt8), 0].length ≤ beaconMaxSize :=
  publishesInside_iff (by rw [twoBytes, List.length_replicate]) [0x80, 0, 0]

/-- **A long packet leaves the buffer**: one byte more than a management frame should have is
written behind the end of the buffer. -/
theorem not_publishesInside :
    ¬ ∀ (m : Module) (packet : List UInt8), m.buffer.length = beaconMaxSize →
      10 ≤ packet.length → packet.length < 2 ^ 16 → m.PublishesInside packet := by
  intro hall
  have hlength : (0x80 :: List.replicate beaconMaxSize (0 : UInt8)).length = beaconMaxSize + 1 := by
    rw [List.length_cons, List.length_replicate]
  have hbuffer : twoBytes.buffer.length = beaconMaxSize := by rw [twoBytes, List.length_replicate]
  obtain ⟨m', hrun, -⟩ := hall twoBytes (0x80 :: List.replicate beaconMaxSize 0) hbuffer
    (by rw [hlength]; decide) (by rw [hlength]; decide)
  rw [updateBeacon_outside hbuffer (by omega)] at hrun
  cases hrun

end Module
end SnapDesk
