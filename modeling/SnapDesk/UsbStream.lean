import SnapDesk.Bytes
import SnapDesk.Transition

/-! # The stream of packets from the device

`ath9k_hif_usb_rx_stream` (`hif_usb.c`).  The firmware sends its packets as one stream, each
with its length and a tag in front and padded to four bytes, and cuts the stream into
transfers of at most `MAX_RX_BUF_SIZE` bytes.  A packet that does not end in its transfer is
kept (`remainSkb`) until the next one comes.

The loop is memory safe for whatever the transfers hold, but for one thing: a packet may
announce so many bytes that more are missing than a transfer has room for, and these are
copied all the same (`rxStream_defined_iff`).  What the firmware sends arrives as it was
sent, however the stream is cut (`rxStreams_sent`). -/
namespace SnapDesk
open Transition

/-- `MAX_RX_BUF_SIZE`. -/
def maxRxBufSize : Nat := 16384

/-- `MAX_PKT_NUM_IN_TRANSFER`. -/
def maxPktNumInTransfer : Nat := 10

/-- `ATH_USB_RX_STREAM_MODE_TAG`. -/
def rxStreamModeTag : Nat := 0x4e00

/-- A completed transfer: the memory that was allocated for it, of which the first bytes
have been received. -/
structure Transfer where
  memory : List UInt8
  len : Nat
  memory_length : memory.length = maxRxBufSize
  len_le : len ≤ maxRxBufSize

/-- The packet that has not been received as a whole: how long it is to be, and the bytes
that are there. -/
structure RemainSkb where
  size : Nat
  data : List UInt8
  deriving DecidableEq

/-- The fields of `struct hif_device_usb` that the stream is put together with. -/
structure HifDevice where
  remainSkb : Option RemainSkb
  rxRemainLen : Nat
  rxTransferLen : Nat
  rxPadLen : Nat
  deriving DecidableEq

/-- The device after its allocation. -/
def HifDevice.fresh : HifDevice := ⟨none, 0, 0, 0⟩

/-- `ath9k_hif_usb_free_rx_remain_skb`. -/
def HifDevice.freeRxRemainSkb (hif : HifDevice) : HifDevice :=
  match hif.remainSkb with
  | some _ => { hif with remainSkb := none, rxRemainLen := 0 }
  | none => hif

/-- The loop over a transfer: `skb_pool` and `index`. -/
structure Streaming where
  hif : HifDevice
  skbPool : List (List UInt8)
  index : Nat

namespace Transfer

/-- Bytes of the memory, where it has them. -/
def read (skb : Transfer) (index count : Nat) : Except Failure (List UInt8) :=
  if index + count ≤ skb.memory.length then .ok ((skb.memory.drop index).take count)
  else .error .undefinedBehaviour

/-- What was received. -/
def received (skb : Transfer) : List UInt8 := skb.memory.take skb.len

end Transfer

/-- `get_unaligned_le16`. -/
def getUnalignedLe16 (bytes : List UInt8) (i : Nat) : Nat :=
  ((bytes[i]?).getD 0).toNat + 256 * ((bytes[i + 1]?).getD 0).toNat

/-- `pad_len`. -/
def padLen (pktLen : Nat) : Nat :=
  let padLen := 4 - pktLen % 4
  if padLen = 4 then 0 else padLen

/-- The packet that is left over from the transfer before. -/
def HifDevice.takeRemain (hif : HifDevice) (skb : Transfer) : Except Failure Streaming :=
  if hif.rxRemainLen = 0 then .ok ⟨hif, [], 0⟩
  else
    match hif.remainSkb with
    | none => .ok ⟨hif, [], hif.rxRemainLen⟩
    | some remainSkb =>
      let rxRemainLen := hif.rxRemainLen - hif.rxPadLen
      -- a length below zero is an enormous one, and `skb_put` stops at the end of the buffer
      if hif.rxRemainLen < hif.rxPadLen then .error .undefinedBehaviour
      else if remainSkb.size < hif.rxTransferLen + rxRemainLen then .error .undefinedBehaviour
      else
        match skb.read 0 rxRemainLen with
        | .error e => .error e
        | .ok bytes =>
          .ok ⟨{ hif with remainSkb := none, rxRemainLen := 0 },
            [remainSkb.data.take hif.rxTransferLen ++ bytes], hif.rxRemainLen⟩

/-- The loop.  It returns the packets that are handed to `ath9k_htc_rx_msg`; `alloc` says
whether memory is found for the packet at an index. -/
def Streaming.loop (alloc : Nat → Bool) (skb : Transfer) (s : Streaming) :
    Except Failure (HifDevice × List (List UInt8)) :=
  if s.index < skb.len then
    match skb.read s.index 4 with
    | .error e => .error e
    | .ok header =>
      let pktLen := getUnalignedLe16 header 0
      let pktTag := getUnalignedLe16 header 2
      -- the packets of the pool are dropped with the transfer
      if pktTag ≠ rxStreamModeTag then .ok (s.hif, [])
      else if 2 * maxRxBufSize < pktLen then .ok (s.hif, [])
      else
        let chkIdx := s.index
        let index := s.index + 4 + pktLen + padLen pktLen
        if maxRxBufSize < index then
          if alloc chkIdx = false then .ok (s.hif, s.skbPool)
          else if maxRxBufSize < chkIdx + 4 then .error .undefinedBehaviour
          else
            let rxTransferLen := maxRxBufSize - chkIdx - 4
            if pktLen < rxTransferLen then .error .undefinedBehaviour
            else
              match skb.read (chkIdx + 4) rxTransferLen with
              | .error e => .error e
              | .ok bytes =>
                Streaming.loop alloc skb
                  ⟨⟨some ⟨pktLen, bytes⟩, index - maxRxBufSize, rxTransferLen, padLen pktLen⟩,
                    s.skbPool, index⟩
        else if s.skbPool.length = maxPktNumInTransfer then .ok (s.hif, s.skbPool)
        else if alloc chkIdx = false then .ok (s.hif, s.skbPool)
        else
          match skb.read (chkIdx + 4) pktLen with
          | .error e => .error e
          | .ok packet => Streaming.loop alloc skb ⟨s.hif, s.skbPool ++ [packet], index⟩
  else .ok (s.hif, s.skbPool)
termination_by skb.len - s.index

/-- `ath9k_hif_usb_rx_stream`. -/
def HifDevice.rxStream (alloc : Nat → Bool) (skb : Transfer) (hif : HifDevice) :
    Except Failure (HifDevice × List (List UInt8)) :=
  match hif.takeRemain skb with
  | .error e => .error e
  | .ok s => s.loop alloc skb

/-- Transfers, one after the other, with memory for all packets. -/
def HifDevice.rxStreams (hif : HifDevice) : List Transfer →
    Except Failure (HifDevice × List (List UInt8))
  | [] => .ok (hif, [])
  | skb :: skbs =>
    match hif.rxStream (fun _ => true) skb with
    | .error e => .error e
    | .ok r =>
      match r.1.rxStreams skbs with
      | .error e => .error e
      | .ok r' => .ok (r'.1, r.2 ++ r'.2)

/-! ### Memory -/

/-- The bytes of the next transfer that belong to the packet that is kept. -/
def HifDevice.missing (hif : HifDevice) : Nat :=
  match hif.remainSkb with
  | none => 0
  | some _ => hif.rxRemainLen - hif.rxPadLen

/-- What is kept fits together: the stream stands at a multiple of four, and what is there
and what is missing make up the packet. -/
def HifDevice.Carried (hif : HifDevice) : Prop :=
  match hif.remainSkb with
  | none => hif.rxRemainLen = 0
  | some remainSkb => hif.rxRemainLen % 4 = 0 ∧ hif.rxPadLen < 4 ∧ hif.rxPadLen < hif.rxRemainLen ∧
      remainSkb.size = hif.rxTransferLen + (hif.rxRemainLen - hif.rxPadLen) ∧
      remainSkb.data.length = hif.rxTransferLen ∧ remainSkb.size ≤ 2 * maxRxBufSize

theorem padLen_lt (pktLen : Nat) : padLen pktLen < 4 := by
  rw [padLen]
  split <;> omega

theorem padLen_aligned (pktLen : Nat) : (pktLen + padLen pktLen) % 4 = 0 := by
  rw [padLen]
  split <;> omega

section
variable {hif : HifDevice} {skb : Transfer} {alloc : Nat → Bool}

theorem Transfer.read_ok {index count : Nat} (h : index + count ≤ maxRxBufSize) :
    skb.read index count = .ok ((skb.memory.drop index).take count) := by
  rw [read, skb.memory_length, if_pos h]

theorem Transfer.read_outside {index count : Nat} (h : maxRxBufSize < index + count) :
    skb.read index count = .error .undefinedBehaviour := by
  rw [read, skb.memory_length, if_neg (by omega)]

/-- The loop stays inside its memory, and keeps what it has not received fitting. -/
theorem Streaming.loop_ok {s : Streaming} (hindex : s.index % 4 = 0) (hcarried : s.hif.Carried)
    (hpool : s.skbPool.length ≤ maxPktNumInTransfer) :
    ∃ r, s.loop alloc skb = .ok r ∧ r.1.Carried ∧ r.2.length ≤ maxPktNumInTransfer := by
  have hmax : maxRxBufSize = 16384 := rfl
  have hlen := skb.len_le
  fun_induction Streaming.loop alloc skb s with
  | case1 s hlt e hread =>
    rw [Transfer.read_ok (by omega)] at hread
    cases hread
  | case2 => exact ⟨_, rfl, hcarried, Nat.zero_le _⟩
  | case3 => exact ⟨_, rfl, hcarried, Nat.zero_le _⟩
  | case4 => exact ⟨_, rfl, hcarried, hpool⟩
  | case5 => omega
  | case6 s hlt header hread pktLen pktTag htag hsize chkIdx index hover halloc hchk transferLen hshort =>
    have haligned := padLen_aligned pktLen
    have hpad := padLen_lt pktLen
    omega
  | case7 s hlt header hread pktLen pktTag htag hsize chkIdx index hover halloc hchk transferLen hlong e hread' =>
    rw [Transfer.read_ok (by omega)] at hread'
    cases hread'
  | case8 s hlt header hread pktLen pktTag htag hsize chkIdx index hover halloc hchk transferLen hlong bytes hread' ih =>
    have haligned := padLen_aligned pktLen
    have hpad := padLen_lt pktLen
    rw [Transfer.read_ok (by omega)] at hread'
    cases hread'
    have hindex' : index % 4 = 0 := by omega
    have hremain : (index - maxRxBufSize) % 4 = 0 := by omega
    have hpadded : padLen pktLen < index - maxRxBufSize := by omega
    have hpacket : pktLen = transferLen + (index - maxRxBufSize - padLen pktLen) := by omega
    have hdata : ((skb.memory.drop (chkIdx + 4)).take transferLen).length = transferLen := by
      rw [List.length_take, List.length_drop, skb.memory_length]
      omega
    exact ih hindex' ⟨hremain, hpad, hpadded, hpacket, hdata, not_lt.mp hsize⟩ hpool
  | case9 => exact ⟨_, rfl, hcarried, hpool⟩
  | case10 => exact ⟨_, rfl, hcarried, hpool⟩
  | case11 s hlt header hread pktLen pktTag htag hsize chkIdx index hover hfull halloc e hread' =>
    rw [Transfer.read_ok (by omega)] at hread'
    cases hread'
  | case12 s hlt header hread pktLen pktTag htag hsize chkIdx index hover hfull halloc packet hread' ih =>
    have haligned := padLen_aligned pktLen
    have hindex' : index % 4 = 0 := by omega
    refine ih hindex' hcarried ?_
    rw [List.length_append, List.length_singleton]
    omega
  | case13 => exact ⟨_, rfl, hcarried, hpool⟩

theorem HifDevice.carried_fresh : HifDevice.fresh.Carried := rfl

theorem HifDevice.Carried.freeRxRemainSkb (h : hif.Carried) : hif.freeRxRemainSkb.Carried := by
  unfold HifDevice.freeRxRemainSkb
  split
  · exact rfl
  · exact h

/-- What is left over is taken from the transfer, if the transfer has room for it. -/
theorem HifDevice.Carried.takeRemain (h : hif.Carried) (skb : Transfer) :
    (hif.missing ≤ maxRxBufSize → ∃ s, hif.takeRemain skb = .ok s ∧ s.index % 4 = 0 ∧
      s.hif.Carried ∧ s.skbPool.length ≤ maxPktNumInTransfer) ∧
    (maxRxBufSize < hif.missing → hif.takeRemain skb = .error .undefinedBehaviour) := by
  unfold HifDevice.missing HifDevice.takeRemain
  unfold HifDevice.Carried at h
  cases hremain : hif.remainSkb with
  | none =>
    rw [hremain] at h
    refine ⟨fun _ => ⟨_, if_pos h, rfl, ?_, Nat.zero_le _⟩, fun hlt => absurd hlt (Nat.not_lt_zero _)⟩
    rw [HifDevice.Carried, hremain]
    exact h
  | some remainSkb =>
    rw [hremain] at h
    obtain ⟨haligned, -, hpad, hsize, -, -⟩ := h
    dsimp only
    rw [if_neg (by omega), if_neg (by omega), if_neg (by omega)]
    constructor
    · intro hle
      rw [Transfer.read_ok (by omega)]
      exact ⟨_, rfl, haligned, rfl, show 1 ≤ 10 by decide⟩
    · intro hlt
      rw [Transfer.read_outside (by omega)]

/-- A transfer either stays inside its memory and leaves what it has not received fitting,
or the packet that is kept misses more than a transfer can hold. -/
theorem HifDevice.Carried.rxStream (h : hif.Carried) (alloc : Nat → Bool) (skb : Transfer) :
    (hif.missing ≤ maxRxBufSize → ∃ r, hif.rxStream alloc skb = .ok r ∧ r.1.Carried ∧
      r.2.length ≤ maxPktNumInTransfer) ∧
    (maxRxBufSize < hif.missing → hif.rxStream alloc skb = .error .undefinedBehaviour) := by
  obtain ⟨hinside, houtside⟩ := h.takeRemain skb
  unfold HifDevice.rxStream
  constructor
  · intro hle
    obtain ⟨s, hs, hindex, hcarried, hpool⟩ := hinside hle
    rw [hs]
    exact Streaming.loop_ok hindex hcarried hpool
  · intro hlt
    rw [houtside hlt]

end

/-- What happens to the stream. -/
inductive StreamEvent where
  | transfer (alloc : Nat → Bool) (skb : Transfer) (packets : List (List UInt8))
  | freed

/-- A transfer is taken apart, or the transfers are cancelled. -/
inductive HifDevice.Step : HifDevice → StreamEvent → HifDevice → Prop
  | transfer {hif hif' : HifDevice} {alloc : Nat → Bool} {skb : Transfer}
      {packets : List (List UInt8)} (h : hif.rxStream alloc skb = .ok (hif', packets)) :
      Step hif (.transfer alloc skb packets) hif'
  | freed {hif : HifDevice} : Step hif .freed hif.freeRxRemainSkb

theorem HifDevice.carried_of_run {hif : HifDevice} {events : List StreamEvent}
    (hrun : Run HifDevice.Step .fresh events hif) : hif.Carried := by
  refine Run.invariant (fun s e t hs hstep => ?_) hrun carried_fresh
  cases hstep with
  | @transfer hif' alloc skb _ h =>
    obtain ⟨hinside, houtside⟩ := hs.rxStream alloc skb
    by_cases hle : s.missing ≤ maxRxBufSize
    · obtain ⟨r, hr, hcarried, -⟩ := hinside hle
      rw [hr] at h
      cases h
      exact hcarried
    · rw [houtside (by omega)] at h
      cases h
  | freed => exact hs.freeRxRemainSkb

/-- **The loop stays inside its memory**, whatever the transfers hold, whether memory is
found or not and whenever they are cancelled, exactly if the packet that is kept does not
miss more bytes than a transfer has room for.  It hands on at most ten packets. -/
theorem HifDevice.rxStream_defined_iff {hif : HifDevice} {events : List StreamEvent}
    (hrun : Run HifDevice.Step .fresh events hif) (alloc : Nat → Bool) (skb : Transfer) :
    (∃ r, hif.rxStream alloc skb = .ok r ∧ r.2.length ≤ maxPktNumInTransfer) ↔
      hif.missing ≤ maxRxBufSize := by
  obtain ⟨hinside, houtside⟩ := (carried_of_run hrun).rxStream alloc skb
  constructor
  · rintro ⟨r, hr, -⟩
    by_contra hlt
    rw [houtside (by omega)] at hr
    cases hr
  · intro hle
    obtain ⟨r, hr, -, hlength⟩ := hinside hle
    exact ⟨r, hr, hlength⟩

/-- A transfer that begins with a packet of the greatest length. -/
def oversized : Transfer where
  memory := [0x00, 0x80, 0x00, 0x4e] ++ List.replicate 16380 0
  len := maxRxBufSize
  memory_length := by rw [List.length_append, List.length_replicate]; rfl
  len_le := Nat.le_refl _

/-- Four bytes more are missing than the next transfer has room for. -/
theorem rxStream_oversized : HifDevice.fresh.rxStream (fun _ => true) oversized =
    .ok (⟨some ⟨32768, List.replicate 16380 0⟩, 16388, 16380, 0⟩, []) := by
  have hmax : maxRxBufSize = 16384 := rfl
  have hbytes : oversized.memory = [0x00, 0x80, 0x00, 0x4e] ++ List.replicate 16380 0 := rfl
  have hheader : oversized.read 0 4 = .ok [0x00, 0x80, 0x00, 0x4e] := by
    rw [Transfer.read_ok (by omega), List.drop_zero, hbytes]
    exact congrArg Except.ok (List.take_left' rfl)
  have hdata : oversized.read (0 + 4) (maxRxBufSize - 0 - 4) = .ok (List.replicate 16380 0) := by
    have hbehind : oversized.memory.drop (0 + 4) = List.replicate 16380 0 := List.drop_left' rfl
    rw [Transfer.read_ok (by omega), hbehind, hmax]
    exact congrArg Except.ok (List.take_of_length_le (by rw [List.length_replicate]))
  have hlen : getUnalignedLe16 [0x00, 0x80, 0x00, 0x4e] 0 = 32768 := by decide +kernel
  have htag : getUnalignedLe16 [0x00, 0x80, 0x00, 0x4e] 2 = rxStreamModeTag := by decide +kernel
  have hstart : HifDevice.fresh.takeRemain oversized = .ok ⟨.fresh, [], 0⟩ := rfl
  rw [HifDevice.rxStream, hstart]
  simp only
  rw [Streaming.loop]
  simp only [hheader, hlen, htag, hdata]
  rw [if_pos (by decide +kernel), if_neg (not_not_intro rfl), if_neg (by decide +kernel),
    if_pos (by decide +kernel), if_neg (by decide), if_neg (by decide +kernel),
    if_neg (by decide +kernel), Streaming.loop, if_neg (by decide +kernel)]
  rfl

theorem rxStream_defined_iff_oversized : ∃ hif, HifDevice.fresh.rxStream (fun _ => true) oversized =
    .ok (hif, []) ∧ ¬ ∃ r, hif.rxStream (fun _ => true) oversized = .ok r ∧
      r.2.length ≤ maxPktNumInTransfer := by
  refine ⟨_, rxStream_oversized, ?_⟩
  have hrun : Run HifDevice.Step .fresh [.transfer (fun _ => true) oversized []] _ :=
    (Run.nil _).snoc (.transfer rxStream_oversized)
  rw [HifDevice.rxStream_defined_iff hrun]
  decide +kernel

/-! ### What the firmware sends -/

/-- A packet as the firmware sends it. -/
structure Packet where
  payload : List UInt8
  padding : List UInt8
  padding_length : padding.length = padLen payload.length
  length_le : payload.length ≤ 2 * maxRxBufSize

namespace Packet

/-- The length and the tag. -/
def header (p : Packet) : List UInt8 :=
  [UInt8.ofNat (p.payload.length % 256), UInt8.ofNat (p.payload.length / 256), 0x00, 0x4e]

/-- The packet in the stream. -/
def wire (p : Packet) : List UInt8 := p.header ++ (p.payload ++ p.padding)

theorem length_wire (p : Packet) : p.wire.length = 4 + p.payload.length + padLen p.payload.length := by
  rw [wire, List.length_append, List.length_append, p.padding_length, Nat.add_assoc]
  rfl

theorem length_wire_aligned (p : Packet) : p.wire.length % 4 = 0 := by
  have haligned := padLen_aligned p.payload.length
  rw [p.length_wire]
  omega

theorem length_flatMap_aligned (ps : List Packet) : (ps.flatMap wire).length % 4 = 0 := by
  induction ps with
  | nil => rfl
  | cons p ps ih =>
    have hwire := p.length_wire_aligned
    rw [List.flatMap_cons, List.length_append]
    omega

theorem header_len (p : Packet) : getUnalignedLe16 p.header 0 = p.payload.length := by
  have hle := p.length_le
  rw [maxRxBufSize] at hle
  simp only [getUnalignedLe16, header, List.getElem?_cons_zero, List.getElem?_cons_succ,
    Option.getD_some, UInt8.toNat_ofNat']
  omega

theorem header_tag (p : Packet) : getUnalignedLe16 p.header 2 = rxStreamModeTag := by
  simp only [getUnalignedLe16, header, List.getElem?_cons_zero, List.getElem?_cons_succ,
    Option.getD_some]
  decide

theorem take_wire {p : Packet} {n : Nat} (hn : 4 ≤ n) (rest : List UInt8) :
    (p.wire.take n ++ rest).take 4 = p.header := by
  have hheader : 4 = p.header.length := rfl
  rw [List.take_append_of_le_length, List.take_take, Nat.min_eq_left hn, wire, hheader,
    List.take_left]
  rw [List.length_take, p.length_wire]
  omega

end Packet

/-- A packet of which the stream has transferred some bytes, with its header and not all of
them. -/
structure Pending where
  packet : Packet
  sent : Nat
  header_le : 4 ≤ sent
  sent_lt : sent < packet.wire.length

/-- What is still to be transferred of a packet, if of any. -/
def restOf : Option Pending → List UInt8
  | none => []
  | some p => p.packet.wire.drop p.sent

/-- Transfers that carry some packets, from what is pending before to what is pending behind.
A transfer that ends inside a packet is full, and none brings more than ten packets to their
end. -/
inductive Sent : Option Pending → List Transfer → List Packet → Option Pending → Prop
  | nil (pending : Option Pending) : Sent pending [] [] pending
  | whole {pending last : Option Pending} {skb : Transfer} {skbs : List Transfer}
      {ps ds : List Packet} (hreceived : skb.received = restOf pending ++ ps.flatMap Packet.wire)
      (hcount : pending.toList.length + ps.length ≤ maxPktNumInTransfer)
      (h : Sent none skbs ds last) :
      Sent pending (skb :: skbs) ((pending.map Pending.packet).toList ++ (ps ++ ds)) last
  | spilled {pending last : Option Pending} {skb : Transfer} {skbs : List Transfer}
      {ps ds : List Packet} {next : Pending} (hfull : skb.len = maxRxBufSize)
      (hreceived : skb.received =
        restOf pending ++ (ps.flatMap Packet.wire ++ next.packet.wire.take next.sent))
      (hcount : pending.toList.length + ps.length ≤ maxPktNumInTransfer)
      (h : Sent (some next) skbs ds last) :
      Sent pending (skb :: skbs) ((pending.map Pending.packet).toList ++ (ps ++ ds)) last

/-- What the device keeps of the packet that is pending. -/
def HifDevice.Keeps (hif : HifDevice) : Option Pending → Prop
  | none => hif.remainSkb = none ∧ hif.rxRemainLen = 0
  | some p => hif = ⟨some ⟨p.packet.payload.length, p.packet.payload.take (p.sent - 4)⟩,
      p.packet.wire.length - p.sent, p.sent - 4, padLen p.packet.payload.length⟩ ∧ p.sent % 4 = 0

section
variable {hif : HifDevice} {skb : Transfer} {pool : List (List UInt8)} {index : Nat}

/-- The turn for a packet that ends in its transfer. -/
theorem Streaming.loop_whole {p : Packet} {rest : List UInt8}
    (hbytes : skb.memory.drop index = p.wire ++ rest) (hlt : index < skb.len)
    (hend : index + p.wire.length ≤ maxRxBufSize) (hpool : pool.length < maxPktNumInTransfer) :
    Streaming.loop (fun _ => true) skb ⟨hif, pool, index⟩ =
      Streaming.loop (fun _ => true) skb
        ⟨hif, pool ++ [p.payload], index + p.wire.length⟩ := by
  have hwire := p.length_wire
  have hheader : (skb.memory.drop index).take 4 = p.header := by
    rw [hbytes, ← List.take_length (l := p.wire)]
    exact Packet.take_wire (by omega) rest
  have hpacket : (skb.memory.drop (index + 4)).take p.payload.length = p.payload := by
    have hfour : 4 = p.header.length := rfl
    rw [← List.drop_drop, hbytes, Packet.wire, List.append_assoc, hfour, List.drop_left,
      List.append_assoc, List.take_left]
  rw [Streaming.loop]
  simp only
  rw [if_pos hlt, Transfer.read_ok (by omega), hheader]
  simp only [p.header_len, p.header_tag]
  rw [if_neg (not_not_intro rfl), if_neg (not_lt.mpr p.length_le), if_neg (by omega),
    if_neg (by omega), if_neg (by decide), Transfer.read_ok (by omega), hpacket]
  simp only
  congr 2
  omega

/-- The turn for a packet that does not end in its transfer. -/
theorem Streaming.loop_spilled {p : Pending} (hbytes : skb.memory.drop index = p.packet.wire.take p.sent)
    (hfull : skb.len = maxRxBufSize) (hindex : index + p.sent = maxRxBufSize)
    (haligned : index % 4 = 0) :
    ∃ hif', Streaming.loop (fun _ => true) skb ⟨hif, pool, index⟩ = .ok (hif', pool) ∧
      hif'.Keeps (some p) := by
  have hmax : maxRxBufSize = 16384 := rfl
  have hwire := p.packet.length_wire
  have hfour := p.header_le
  have hlt := p.sent_lt
  have hwhole := p.packet.length_wire_aligned
  have hpad := padLen_lt p.packet.payload.length
  have hheader : (skb.memory.drop index).take 4 = p.packet.header := by
    rw [hbytes, ← List.append_nil (p.packet.wire.take p.sent)]
    exact Packet.take_wire hfour []
  have hpart : (skb.memory.drop (index + 4)).take (maxRxBufSize - index - 4) =
      p.packet.payload.take (p.sent - 4) := by
    have hbehind : p.packet.wire.drop 4 = p.packet.payload ++ p.packet.padding :=
      List.drop_left' rfl
    have hcount : maxRxBufSize - index - 4 = p.sent - 4 := by omega
    rw [← List.drop_drop, hbytes, List.drop_take, hbehind, hcount, List.take_take, Nat.min_self,
      List.take_append_of_le_length (by omega)]
  have hkeeps : HifDevice.Keeps ⟨some ⟨p.packet.payload.length, p.packet.payload.take (p.sent - 4)⟩,
      index + 4 + p.packet.payload.length + padLen p.packet.payload.length - maxRxBufSize,
      maxRxBufSize - index - 4, padLen p.packet.payload.length⟩ (some p) := by
    have hremain : index + 4 + p.packet.payload.length + padLen p.packet.payload.length -
        maxRxBufSize = p.packet.wire.length - p.sent := by omega
    have htransfer : maxRxBufSize - index - 4 = p.sent - 4 := by omega
    rw [hremain, htransfer]
    exact ⟨rfl, by omega⟩
  rw [Streaming.loop]
  simp only
  rw [if_pos (by omega), Transfer.read_ok (by omega), hheader]
  simp only [p.packet.header_len, p.packet.header_tag]
  rw [if_neg (not_not_intro rfl), if_neg (not_lt.mpr p.packet.length_le), if_pos (by omega),
    if_neg (by decide), if_neg (by omega), if_neg (by omega), Transfer.read_ok (by omega), hpart]
  simp only
  rw [Streaming.loop, if_neg (by simp only; omega)]
  exact ⟨_, rfl, hkeeps⟩

/-- The turns for packets that end in their transfer. -/
theorem Streaming.loop_flatMap {ps : List Packet} {rest : List UInt8}
    (hbytes : skb.memory.drop index = ps.flatMap Packet.wire ++ rest)
    (hend : index + (ps.flatMap Packet.wire).length ≤ skb.len)
    (hpool : pool.length + ps.length ≤ maxPktNumInTransfer) :
    Streaming.loop (fun _ => true) skb ⟨hif, pool, index⟩ =
      Streaming.loop (fun _ => true) skb
        ⟨hif, pool ++ ps.map Packet.payload, index + (ps.flatMap Packet.wire).length⟩ := by
  induction ps generalizing index pool with
  | nil => simp
  | cons p ps ih =>
    have hlen := skb.len_le
    have hwire := p.length_wire
    rw [List.flatMap_cons, List.append_assoc] at hbytes
    rw [List.flatMap_cons, List.length_append] at hend
    rw [List.length_cons] at hpool
    have hnext : skb.memory.drop (index + p.wire.length) = ps.flatMap Packet.wire ++ rest := by
      rw [← List.drop_drop, hbytes, List.drop_left]
    rw [loop_whole hbytes (by omega) (by omega) (by omega), ih hnext (by omega) (by
      rw [List.length_append, List.length_singleton]
      omega), List.map_cons, List.append_assoc, List.flatMap_cons, List.length_append,
      Nat.add_assoc]
    rfl

/-- The packet that is pending comes to its end. -/
theorem HifDevice.Keeps.takeRemain {pending : Option Pending} {bytes : List UInt8}
    (h : hif.Keeps pending) (hreceived : skb.received = restOf pending ++ bytes) :
    ∃ hif', hif.takeRemain skb = .ok ⟨hif', pending.toList.map fun p => p.packet.payload,
      (restOf pending).length⟩ ∧ hif'.Keeps none := by
  cases pending with
  | none =>
    refine ⟨hif, ?_, h⟩
    rw [HifDevice.takeRemain, if_pos h.2]
    rfl
  | some p =>
    obtain ⟨rfl, haligned⟩ := h
    have hwire := p.packet.length_wire
    have hwhole := p.packet.length_wire_aligned
    have hpad := padLen_lt p.packet.payload.length
    have hfour := p.header_le
    have hlt := p.sent_lt
    have hlen := skb.len_le
    have hrest : (restOf (some p)).length = p.packet.wire.length - p.sent := List.length_drop
    have hparts : restOf (some p) = p.packet.payload.drop (p.sent - 4) ++ p.packet.padding := by
      have hbehind : p.packet.wire.drop 4 = p.packet.payload ++ p.packet.padding :=
        List.drop_left' rfl
      obtain ⟨k, hk⟩ : ∃ k, p.sent = 4 + k := ⟨p.sent - 4, by omega⟩
      rw [restOf, hk, Nat.add_sub_cancel_left, ← List.drop_drop, hbehind,
        List.drop_append_of_le_length (by omega)]
    have hcount : p.packet.wire.length - p.sent - padLen p.packet.payload.length =
        (p.packet.payload.drop (p.sent - 4)).length := by
      rw [List.length_drop]
      omega
    have hinside : (restOf (some p)).length ≤ skb.len := by
      have hlength := congrArg List.length hreceived
      rw [Transfer.received, List.length_take, List.length_append] at hlength
      omega
    have hbytes : (skb.memory.drop 0).take (p.packet.payload.drop (p.sent - 4)).length =
        p.packet.payload.drop (p.sent - 4) := by
      have hle : (p.packet.payload.drop (p.sent - 4)).length ≤ skb.len := by
        rw [← hcount]
        omega
      rw [List.drop_zero, ← Nat.min_eq_left hle, ← List.take_take, ← Transfer.received, hreceived,
        hparts, List.append_assoc, List.take_left]
    rw [HifDevice.takeRemain, if_neg (by simp only; omega)]
    simp only
    rw [if_neg (by omega), if_neg (by omega), Transfer.read_ok (by omega), hcount, hbytes, hrest]
    simp only [List.take_take, Nat.min_self, List.take_append_drop]
    exact ⟨_, rfl, rfl, rfl⟩

theorem HifDevice.Keeps.length_restOf {pending : Option Pending} (h : hif.Keeps pending) :
    (restOf pending).length % 4 = 0 := by
  cases pending with
  | none => rfl
  | some p =>
    obtain ⟨-, haligned⟩ := h
    have hwhole := p.packet.length_wire_aligned
    rw [restOf, List.length_drop]
    omega

/-- What stands behind the bytes that have been received is what the memory held. -/
theorem Transfer.memory_eq {bytes : List UInt8} (h : skb.received = bytes) :
    skb.memory = bytes ++ skb.memory.drop skb.len := by
  rw [← h, received, List.take_append_drop]

theorem Transfer.length_received : skb.received.length = skb.len := by
  have hle := skb.len_le
  rw [received, List.length_take, skb.memory_length, Nat.min_eq_left hle]

/-- A transfer that ends with a packet. -/
theorem HifDevice.Keeps.rxStream_whole {pending : Option Pending} {ps : List Packet}
    (h : hif.Keeps pending) (hreceived : skb.received = restOf pending ++ ps.flatMap Packet.wire)
    (hcount : pending.toList.length + ps.length ≤ maxPktNumInTransfer) :
    ∃ hif', hif.rxStream (fun _ => true) skb =
        .ok (hif', ((pending.map Pending.packet).toList ++ ps).map Packet.payload) ∧
      hif'.Keeps none := by
  obtain ⟨hif', htake, hkeeps⟩ := h.takeRemain hreceived
  have hlength := congrArg List.length hreceived
  rw [Transfer.length_received, List.length_append] at hlength
  have hbytes : skb.memory.drop (restOf pending).length =
      ps.flatMap Packet.wire ++ skb.memory.drop skb.len := by
    conv_lhs => rw [Transfer.memory_eq hreceived, List.append_assoc, List.drop_left]
  rw [HifDevice.rxStream, htake]
  simp only
  rw [Streaming.loop_flatMap hbytes (by omega) (by rw [List.length_map]; exact hcount),
    Streaming.loop, if_neg (by simp only; omega)]
  refine ⟨hif', ?_, hkeeps⟩
  cases pending <;> simp

/-- A transfer that ends inside a packet. -/
theorem HifDevice.Keeps.rxStream_spilled {pending : Option Pending} {ps : List Packet}
    {next : Pending} (h : hif.Keeps pending) (hfull : skb.len = maxRxBufSize)
    (hreceived : skb.received =
      restOf pending ++ (ps.flatMap Packet.wire ++ next.packet.wire.take next.sent))
    (hcount : pending.toList.length + ps.length ≤ maxPktNumInTransfer) :
    ∃ hif', hif.rxStream (fun _ => true) skb =
        .ok (hif', ((pending.map Pending.packet).toList ++ ps).map Packet.payload) ∧
      hif'.Keeps (some next) := by
  obtain ⟨hif', htake, hkeeps⟩ := h.takeRemain hreceived
  have hlength := congrArg List.length hreceived
  have hsent := next.sent_lt
  rw [Transfer.length_received, List.length_append, List.length_append, List.length_take,
    Nat.min_eq_left hsent.le] at hlength
  have hnothing : skb.memory.drop skb.len = [] :=
    List.drop_eq_nil_of_le (by rw [skb.memory_length, hfull])
  have hbytes : skb.memory.drop (restOf pending).length =
      ps.flatMap Packet.wire ++ next.packet.wire.take next.sent := by
    conv_lhs => rw [Transfer.memory_eq hreceived, hnothing, List.append_nil, List.drop_left]
  have hbehind : skb.memory.drop ((restOf pending).length + (ps.flatMap Packet.wire).length) =
      next.packet.wire.take next.sent := by
    rw [← List.drop_drop, hbytes, List.drop_left]
  have haligned : ((restOf pending).length + (ps.flatMap Packet.wire).length) % 4 = 0 := by
    have hrest := h.length_restOf
    have hps := Packet.length_flatMap_aligned ps
    omega
  obtain ⟨hif'', hloop, hkeeps'⟩ : ∃ hif'', Streaming.loop (fun _ => true) skb
      ⟨hif', (pending.toList.map fun p => p.packet.payload) ++ ps.map Packet.payload,
        (restOf pending).length + (ps.flatMap Packet.wire).length⟩ =
      .ok (hif'', (pending.toList.map fun p => p.packet.payload) ++ ps.map Packet.payload) ∧
        hif''.Keeps (some next) :=
    Streaming.loop_spilled hbehind hfull (by omega) haligned
  rw [HifDevice.rxStream, htake]
  simp only
  rw [Streaming.loop_flatMap hbytes (by omega) (by rw [List.length_map]; exact hcount), hloop]
  refine ⟨hif'', ?_, hkeeps'⟩
  cases pending <;> simp

end

/-- The transfers bring what they carry. -/
theorem HifDevice.Keeps.rxStreams {pending last : Option Pending} {skbs : List Transfer}
    {ds : List Packet} (hsent : Sent pending skbs ds last) {hif : HifDevice}
    (h : hif.Keeps pending) :
    ∃ hif', hif.rxStreams skbs = .ok (hif', ds.map Packet.payload) ∧ hif'.Keeps last := by
  induction hsent generalizing hif with
  | nil => exact ⟨hif, rfl, h⟩
  | whole hreceived hcount _ ih =>
    obtain ⟨hif₁, hfirst, hkeeps⟩ := h.rxStream_whole hreceived hcount
    obtain ⟨hif₂, hrest, hlast⟩ := ih hkeeps
    refine ⟨hif₂, ?_, hlast⟩
    rw [HifDevice.rxStreams, hfirst]
    simp only [hrest]
    rw [← List.map_append, List.append_assoc]
  | spilled hfull hreceived hcount _ ih =>
    obtain ⟨hif₁, hfirst, hkeeps⟩ := h.rxStream_spilled hfull hreceived hcount
    obtain ⟨hif₂, hrest, hlast⟩ := ih hkeeps
    refine ⟨hif₂, ?_, hlast⟩
    rw [HifDevice.rxStreams, hfirst]
    simp only [hrest]
    rw [← List.map_append, List.append_assoc]

/-- **What the firmware sends arrives**: from the start on, packets are handed on as they
were sent and in order, however the stream is cut into transfers, and what is kept at the end
is what is pending. -/
theorem HifDevice.rxStreams_sent {last : Option Pending} {skbs : List Transfer}
    {ds : List Packet} (hsent : Sent none skbs ds last) :
    ∃ hif, HifDevice.fresh.rxStreams skbs = .ok (hif, ds.map Packet.payload) ∧ hif.Keeps last :=
  Keeps.rxStreams hsent ⟨rfl, rfl⟩

/-- A packet of one byte more than is left in a transfer. -/
def longPacket : Packet where
  payload := List.replicate 16384 7
  padding := []
  padding_length := by rw [List.length_replicate]; rfl
  length_le := by rw [List.length_replicate]; exact Nat.le_mul_of_pos_left _ (by decide)

theorem length_longPacket : longPacket.wire.length = 16388 := by
  rw [longPacket.length_wire, longPacket, List.length_replicate]
  rfl

/-- Its first transfer. -/
def longFirst : Transfer where
  memory := longPacket.wire.take 16384
  len := maxRxBufSize
  memory_length := by rw [List.length_take, length_longPacket]; rfl
  len_le := Nat.le_refl _

/-- Its second transfer. -/
def longSecond : Transfer where
  memory := longPacket.wire.drop 16384 ++ List.replicate 16380 0
  len := 4
  memory_length := by
    rw [List.length_append, List.length_drop, length_longPacket, List.length_replicate]; rfl
  len_le := by decide

/-- The packet between the transfers. -/
def longPending : Pending where
  packet := longPacket
  sent := 16384
  header_le := by decide
  sent_lt := by rw [length_longPacket]; decide

theorem sent_long : Sent none [longFirst, longSecond] [longPacket] none := by
  have hfirst : longFirst.received = restOf none ++
      (List.flatMap Packet.wire [] ++ longPending.packet.wire.take longPending.sent) := by
    simp only [Transfer.received, longFirst, longPending, restOf, List.flatMap_nil, List.nil_append,
      maxRxBufSize, List.take_take, Nat.min_self]
  have hrest : (longPacket.wire.drop 16384).length = 4 := by
    rw [List.length_drop, length_longPacket]
  have hsecond : longSecond.received =
      restOf (some longPending) ++ List.flatMap Packet.wire [] := by
    simp only [Transfer.received, longSecond, longPending, restOf, List.flatMap_nil, List.append_nil]
    rw [← hrest, List.take_left]
  have hwhole : Sent (some longPending) [longSecond] [longPacket] none :=
    .whole hsecond (by decide) (.nil none)
  exact .spilled rfl hfirst (by decide) hwhole

/-- A packet that is cut into two transfers. -/
theorem rxStreams_sent_long : ∃ hif', HifDevice.fresh.rxStreams [longFirst, longSecond] =
    .ok (hif', [List.replicate 16384 7]) ∧ hif'.Keeps none :=
  HifDevice.rxStreams_sent sent_long

end SnapDesk
