import SnapDesk.Reception

/-! # Received buffers of the other driver

`recvbuf2recvframe` (`usb_ops_linux.c`) and `rtl8188e_query_rx_desc_status`
(`rtl8188e_rxdesc.c`).  A transfer of this device is an aggregate: packets one behind the
other, each with a descriptor of 24 bytes that says how long it is, rounded up to what the
device aggregates by.  The hook stands behind the tests of the descriptor.

What is handed on are disjoint pieces of the transfer in their order, each with a descriptor
that announces no error (`recvbuf2recvframe_carries`); and an aggregate comes apart into the
packets that it was made of (`recvbuf2recvframe_aggregate`).  Unlike the rounding to 128
bytes the one to four lets the loop read a descriptor behind a full buffer
(`recvbuf2recvframe_outside`). -/
namespace SnapDesk

/-- `RXDESC_SIZE`. -/
def rxdescSize : Nat := 24

/-- `MAX_RECVBUF_SZ`. -/
def maxRecvbufSz : Nat := 15360

/-- What a packet of the device is. -/
inductive RptType where
  | normalRx
  | txReport1
  | txReport2
  | hisReport
  deriving DecidableEq

/-- `struct rx_pkt_attrib`, as far as the loop reads it. -/
structure RxPktAttrib where
  crcErr : Bool
  icvErr : Bool
  pktRptType : RptType
  pktLen : Nat
  drvinfoSz : Nat
  shiftSz : Nat
  deriving DecidableEq

/-- `le32_to_cpu`. -/
def le32ToCpu (bytes : List UInt8) (i : Nat) : Nat :=
  ((bytes[i]?).getD 0).toNat + 256 * (((bytes[i + 1]?).getD 0).toNat +
    256 * (((bytes[i + 2]?).getD 0).toNat + 256 * ((bytes[i + 3]?).getD 0).toNat))

/-- `rtl8188e_query_rx_desc_status`. -/
def queryRxDescStatus (prxstat : List UInt8) : RxPktAttrib :=
  let rxdw0 := le32ToCpu prxstat 0
  let rxdw3 := le32ToCpu prxstat 12
  let crcErr := rxdw0 / 2 ^ 14 % 2 == 1
  match rxdw3 / 2 ^ 14 % 4 with
  | 0 => ⟨crcErr, rxdw0 / 2 ^ 15 % 2 == 1, .normalRx, rxdw0 % 2 ^ 14, rxdw0 / 2 ^ 16 % 16 * 8,
      rxdw0 / 2 ^ 24 % 4⟩
  | 1 => ⟨crcErr, false, .txReport1, 8, 0, 0⟩
  | 2 => ⟨crcErr, false, .txReport2, rxdw0 % 2 ^ 10, 0, 0⟩
  | _ => ⟨crcErr, false, .hisReport, rxdw0 % 2 ^ 14, 0, 0⟩

/-- `pkt_cnt`, as a descriptor says it. -/
def pktCntOf (prxstat : List UInt8) : Nat := le32ToCpu prxstat 8 / 2 ^ 16 % 256

/-- `rxagg_mode`. -/
inductive RxAggMode where
  | disable
  | dma
  | usb
  | mix
  deriving DecidableEq

/-- `_RND4` and `_RND128`. -/
def rnd (r sz : Nat) : Nat := (sz / r + if sz % r = 0 then 0 else 1) * r

/-- The way from one packet to the next. -/
def RxAggMode.advance (mode : RxAggMode) (pktOffset : Nat) : Nat :=
  match mode with
  | dma | mix => rnd 128 pktOffset % 2 ^ 16
  | usb => rnd 4 pktOffset % 2 ^ 16
  | disable => pktOffset

/-- `pkt_offset` before it is rounded. -/
def RxPktAttrib.pktOffset (pattrib : RxPktAttrib) : Nat :=
  rxdescSize + pattrib.drvinfoSz + pattrib.shiftSz + pattrib.pktLen

/-- A buffer whose transfer has been completed: `usb_read_port_complete` passes over others. -/
structure RecvBuf where
  memory : List UInt8
  transferLen : Nat
  memory_length : maxRecvbufSz ≤ memory.length
  le_transferLen : rxdescSize ≤ transferLen
  transferLen_le : transferLen ≤ maxRecvbufSz

namespace RecvBuf

/-- Bytes of the memory. -/
def slice (buf : RecvBuf) (index count : Nat) : List UInt8 := (buf.memory.drop index).take count

/-- Bytes of the memory, where it has them. -/
def read (buf : RecvBuf) (index count : Nat) : Except Failure (List UInt8) :=
  if index + count ≤ buf.memory.length then .ok (buf.slice index count)
  else .error .undefinedBehaviour

end RecvBuf

/-- `union recv_frame`, as far as the hook and what follows it get it. -/
structure RecvFrame where
  pktRptType : RptType
  rxData : List UInt8
  deriving DecidableEq

/-- The loop between two packets. -/
structure Receiving where
  pos : Nat
  transferLen : Nat
  pktCnt : Nat
  frames : List RecvFrame

theorem queryRxDescStatus_bounds (prxstat : List UInt8) :
    (queryRxDescStatus prxstat).pktLen < 2 ^ 14 ∧ (queryRxDescStatus prxstat).drvinfoSz ≤ 120 ∧
      (queryRxDescStatus prxstat).shiftSz ≤ 3 := by
  unfold queryRxDescStatus
  generalize le32ToCpu prxstat 0 = rxdw0
  simp only
  split <;> simp only <;> refine ⟨?_, ?_, ?_⟩ <;> omega

theorem le_rnd {r : Nat} (hr : 0 < r) (sz : Nat) : sz ≤ rnd r sz ∧ rnd r sz < sz + r := by
  have hdiv := Nat.div_add_mod sz r
  have hmod := Nat.mod_lt sz hr
  unfold rnd
  rw [Nat.add_mul, Nat.mul_comm]
  split <;> omega

/-- The way to the next packet is no shorter than the packet. -/
theorem RxAggMode.le_advance (mode : RxAggMode) (prxstat : List UInt8) :
    (queryRxDescStatus prxstat).pktOffset ≤ mode.advance (queryRxDescStatus prxstat).pktOffset := by
  obtain ⟨hlen, hdrvinfo, hshift⟩ := queryRxDescStatus_bounds prxstat
  have hoffset : (queryRxDescStatus prxstat).pktOffset < 2 ^ 16 - 128 := by
    rw [RxPktAttrib.pktOffset, rxdescSize]
    omega
  generalize (queryRxDescStatus prxstat).pktOffset = pktOffset at hoffset
  have h128 := le_rnd (r := 128) (by decide) pktOffset
  have h4 := le_rnd (r := 4) (by decide) pktOffset
  cases mode with
  | disable => exact Nat.le_refl _
  | usb => rw [advance, Nat.mod_eq_of_lt (by omega)]; exact h4.1
  | dma => rw [advance, Nat.mod_eq_of_lt (by omega)]; exact h128.1
  | mix => rw [advance, Nat.mod_eq_of_lt (by omega)]; exact h128.1

/-- The loop.  `alloc` and `copy` say whether there is a frame, and memory for the packet, at
a position. -/
def Receiving.loop (mode : RxAggMode) (mpMode : Bool) (alloc copy : Nat → Bool) (buf : RecvBuf)
    (s : Receiving) : Except Failure (List RecvFrame) :=
  if alloc s.pos = false then .ok s.frames
  else
    match buf.read s.pos rxdescSize with
    | .error e => .error e
    | .ok prxstat =>
      let pattrib := queryRxDescStatus prxstat
      if mpMode = false ∧ (pattrib.crcErr = true ∨ pattrib.icvErr = true) then .ok s.frames
      else if pattrib.pktLen = 0 ∨ s.transferLen < pattrib.pktOffset then .ok s.frames
      else if copy s.pos = false then .ok s.frames
      else
        match buf.read (s.pos + pattrib.shiftSz + pattrib.drvinfoSz + rxdescSize) pattrib.pktLen with
        | .error e => .error e
        | .ok rxData =>
          let frames := s.frames ++ [⟨pattrib.pktRptType, rxData⟩]
          let pktOffset := mode.advance pattrib.pktOffset
          -- the count is of 16 bits
          let pktCnt := (s.pktCnt + (2 ^ 16 - 1)) % 2 ^ 16
          if s.transferLen ≤ pktOffset then .ok frames
          else
            let pktCnt := if pktCnt = 0 then pktCntOf prxstat else pktCnt
            if pktCnt = 0 then .ok frames
            else
              Receiving.loop mode mpMode alloc copy buf
                ⟨s.pos + pktOffset, s.transferLen - pktOffset, pktCnt, frames⟩
termination_by s.transferLen
decreasing_by
  have hadvance := mode.le_advance prxstat
  have hpos : rxdescSize ≤ (queryRxDescStatus prxstat).pktOffset := by
    rw [RxPktAttrib.pktOffset]
    omega
  rw [rxdescSize] at hpos
  omega

/-- `recvbuf2recvframe`. -/
def RecvBuf.recvbuf2recvframe (mode : RxAggMode) (mpMode : Bool) (alloc copy : Nat → Bool)
    (buf : RecvBuf) : Except Failure (List RecvFrame) :=
  match buf.read 0 rxdescSize with
  | .error e => .error e
  | .ok prxstat =>
    Receiving.loop mode mpMode alloc copy buf ⟨0, buf.transferLen, pktCntOf prxstat, []⟩

/-! ### What is handed on -/

/-- A frame is the packet of a descriptor inside the transfer, which announces no error where
errors matter. -/
structure RecvBuf.Describes (buf : RecvBuf) (mpMode : Bool) (pos : Nat) (f : RecvFrame) : Prop where
  clean : mpMode = false → (queryRxDescStatus (buf.slice pos rxdescSize)).crcErr = false ∧
    (queryRxDescStatus (buf.slice pos rxdescSize)).icvErr = false
  pktRptType : (queryRxDescStatus (buf.slice pos rxdescSize)).pktRptType = f.pktRptType
  pktLen_pos : (queryRxDescStatus (buf.slice pos rxdescSize)).pktLen ≠ 0
  inside : pos + (queryRxDescStatus (buf.slice pos rxdescSize)).pktOffset ≤ buf.transferLen
  rxData : f.rxData = buf.slice (pos + (queryRxDescStatus (buf.slice pos rxdescSize)).shiftSz +
    (queryRxDescStatus (buf.slice pos rxdescSize)).drvinfoSz + rxdescSize)
      (queryRxDescStatus (buf.slice pos rxdescSize)).pktLen

/-- Frames that lie one behind the other, from a position on. -/
inductive RecvBuf.Carries (buf : RecvBuf) (mpMode : Bool) : Nat → List RecvFrame → Prop
  | nil (pos : Nat) : Carries buf mpMode pos []
  | cons {pos start : Nat} {f : RecvFrame} {frames : List RecvFrame} (hpos : pos ≤ start)
      (h : buf.Describes mpMode start f)
      (hrest : Carries buf mpMode
        (start + (queryRxDescStatus (buf.slice start rxdescSize)).pktOffset) frames) :
      Carries buf mpMode pos (f :: frames)

section
variable {mode : RxAggMode} {mpMode : Bool} {alloc copy : Nat → Bool} {buf : RecvBuf}

theorem RecvBuf.Carries.mono {pos pos' : Nat} {frames : List RecvFrame} (hle : pos' ≤ pos)
    (h : buf.Carries mpMode pos frames) : buf.Carries mpMode pos' frames := by
  cases h with
  | nil => exact .nil pos'
  | cons hpos hf hrest => exact .cons (hle.trans hpos) hf hrest

theorem RecvBuf.Carries.describes {pos : Nat} {frames : List RecvFrame} {f : RecvFrame}
    (h : buf.Carries mpMode pos frames) (hf : f ∈ frames) :
    ∃ start, buf.Describes mpMode start f := by
  induction h with
  | nil => exact absurd hf List.not_mem_nil
  | cons _ hfirst _ ih =>
    rcases List.mem_cons.mp hf with rfl | hf
    · exact ⟨_, hfirst⟩
    · exact ih hf

theorem RecvBuf.read_ok {index count : Nat} (h : index + count ≤ buf.memory.length) :
    buf.read index count = .ok (buf.slice index count) := if_pos h

theorem RecvBuf.eq_of_read {index count : Nat} {bytes : List UInt8}
    (h : buf.read index count = .ok bytes) : bytes = buf.slice index count := by
  rw [read] at h
  split at h
  · exact (Except.ok.inj h).symm
  · cases h

/-- Where a descriptor can always be read: at every position that the rounding leads to, or
with room behind the transfer. -/
def RecvBuf.Roomy (buf : RecvBuf) (mode : RxAggMode) : Prop :=
  mode = .dma ∨ mode = .mix ∨ buf.transferLen + 23 ≤ buf.memory.length

/-- The position of the loop, which what is left reaches to the end from. -/
structure Receiving.Stands (s : Receiving) (mode : RxAggMode) (buf : RecvBuf) : Prop where
  total : s.pos + s.transferLen = buf.transferLen
  transferLen_pos : 0 < s.transferLen
  aligned : mode = .dma ∨ mode = .mix → s.pos % 128 = 0

theorem Receiving.Stands.room {s : Receiving} (h : s.Stands mode buf) (hroomy : buf.Roomy mode) :
    s.pos + rxdescSize ≤ buf.memory.length := by
  have htotal := h.total
  have hpos := h.transferLen_pos
  have hle := buf.transferLen_le
  have hmemory := buf.memory_length
  rw [maxRecvbufSz] at hle hmemory
  rw [rxdescSize]
  rcases hroomy with hdma | hmix | hroom
  · have haligned := h.aligned (.inl hdma)
    omega
  · have haligned := h.aligned (.inr hmix)
    omega
  · omega

theorem RxAggMode.advance_aligned (hmode : mode = .dma ∨ mode = .mix) (pktOffset : Nat) :
    mode.advance pktOffset % 128 = 0 := by
  rcases hmode with rfl | rfl
  · rw [advance, rnd]
    omega
  · rw [advance, rnd]
    omega

/-- The position behind a packet that is not the last one. -/
theorem Receiving.Stands.next {s : Receiving} (h : s.Stands mode buf) (pktOffset : Nat)
    (hlt : mode.advance pktOffset < s.transferLen) (pktCnt : Nat) (frames : List RecvFrame) :
    Receiving.Stands ⟨s.pos + mode.advance pktOffset, s.transferLen - mode.advance pktOffset,
      pktCnt, frames⟩ mode buf where
  total := by
    have htotal := h.total
    change s.pos + mode.advance pktOffset + (s.transferLen - mode.advance pktOffset) =
      buf.transferLen
    omega
  transferLen_pos := Nat.sub_pos_of_lt hlt
  aligned := fun hmode => by
    have haligned := h.aligned hmode
    have hadvance := RxAggMode.advance_aligned hmode pktOffset
    change (s.pos + mode.advance pktOffset) % 128 = 0
    omega

/-- The packet of a descriptor that the loop does not stop at. -/
theorem Receiving.Stands.describes {s : Receiving} (h : s.Stands mode buf)
    {prxstat rxData : List UInt8} (hdesc : buf.read s.pos rxdescSize = .ok prxstat)
    (hclean : ¬ (mpMode = false ∧ ((queryRxDescStatus prxstat).crcErr = true ∨
      (queryRxDescStatus prxstat).icvErr = true)))
    (hsize : ¬ ((queryRxDescStatus prxstat).pktLen = 0 ∨
      s.transferLen < (queryRxDescStatus prxstat).pktOffset))
    (hdata : buf.read (s.pos + (queryRxDescStatus prxstat).shiftSz +
      (queryRxDescStatus prxstat).drvinfoSz + rxdescSize)
        (queryRxDescStatus prxstat).pktLen = .ok rxData) :
    buf.Describes mpMode s.pos ⟨(queryRxDescStatus prxstat).pktRptType, rxData⟩ := by
  have hprxstat := RecvBuf.eq_of_read hdesc
  have hrxData := RecvBuf.eq_of_read hdata
  have htotal := h.total
  subst hprxstat
  rw [not_or] at hsize
  refine ⟨fun hmp => ?_, rfl, hsize.1, by omega, hrxData⟩
  constructor
  · exact Bool.eq_false_iff.mpr fun hcrc => hclean ⟨hmp, .inl hcrc⟩
  · exact Bool.eq_false_iff.mpr fun hicv => hclean ⟨hmp, .inr hicv⟩

/-- The packet itself lies inside the memory. -/
theorem Receiving.Stands.read_packet {s : Receiving} (h : s.Stands mode buf)
    {pattrib : RxPktAttrib} (hsize : ¬ (pattrib.pktLen = 0 ∨ s.transferLen < pattrib.pktOffset)) :
    s.pos + pattrib.shiftSz + pattrib.drvinfoSz + rxdescSize + pattrib.pktLen ≤
      buf.memory.length := by
  have htotal := h.total
  have hle := buf.transferLen_le
  have hmemory := buf.memory_length
  rw [not_or, RxPktAttrib.pktOffset] at hsize
  omega

/-- What the loop has handed on is carried by the transfer. -/
theorem Receiving.Stands.carries {s : Receiving} (h : s.Stands mode buf) {frames : List RecvFrame}
    (hloop : s.loop mode mpMode alloc copy buf = .ok frames) :
    ∃ more, frames = s.frames ++ more ∧ buf.Carries mpMode s.pos more := by
  have hnone (s : Receiving) : ∃ more, s.frames = s.frames ++ more ∧
      buf.Carries mpMode s.pos more := ⟨[], (List.append_nil _).symm, .nil s.pos⟩
  fun_induction Receiving.loop mode mpMode alloc copy buf s with
  | case1 s => cases hloop; exact hnone s
  | case2 => cases hloop
  | case3 s => cases hloop; exact hnone s
  | case4 s => cases hloop; exact hnone s
  | case5 s => cases hloop; exact hnone s
  | case6 => cases hloop
  | case7 s _ prxstat hdesc pattrib hclean hsize _ rxData hdata =>
    exact ⟨_, (Except.ok.inj hloop).symm,
      .cons (Nat.le_refl _) (h.describes hdesc hclean hsize hdata) (.nil _)⟩
  | case8 s _ prxstat hdesc pattrib hclean hsize _ rxData hdata =>
    exact ⟨_, (Except.ok.inj hloop).symm,
      .cons (Nat.le_refl _) (h.describes hdesc hclean hsize hdata) (.nil _)⟩
  | case9 s _ prxstat hdesc pattrib hclean hsize _ rxData hdata frames pktOffset pktCnt₀ hlast
      pktCnt hcnt ih =>
    obtain ⟨more, hmore, hcarries⟩ := ih (h.next _ (not_le.mp hlast) _ _) hloop
    refine ⟨⟨pattrib.pktRptType, rxData⟩ :: more, ?_, ?_⟩
    · rw [hmore, List.append_assoc]
      rfl
    · refine .cons (Nat.le_refl _) (h.describes hdesc hclean hsize hdata) (hcarries.mono ?_)
      have hprxstat := RecvBuf.eq_of_read hdesc
      subst hprxstat
      exact Nat.add_le_add_left (mode.le_advance _) _

/-- The loop stays inside the memory where a descriptor can always be read. -/
theorem Receiving.Stands.loop_ok {s : Receiving} (h : s.Stands mode buf)
    (hroomy : buf.Roomy mode) : ∃ frames, s.loop mode mpMode alloc copy buf = .ok frames := by
  fun_induction Receiving.loop mode mpMode alloc copy buf s with
  | case2 s _ e hdesc =>
    rw [RecvBuf.read_ok (h.room hroomy)] at hdesc
    cases hdesc
  | case6 s _ prxstat hdesc pattrib hclean hsize _ e hdata =>
    rw [RecvBuf.read_ok (h.read_packet hsize)] at hdata
    cases hdata
  | case9 s _ prxstat hdesc pattrib hclean hsize _ rxData hdata frames pktOffset pktCnt₀ hlast
      pktCnt hcnt ih => exact ih (h.next _ (not_le.mp hlast) _ _)
  | _ => exact ⟨_, rfl⟩

theorem RecvBuf.stands (buf : RecvBuf) (mode : RxAggMode) (pktCnt : Nat) :
    Receiving.Stands ⟨0, buf.transferLen, pktCnt, []⟩ mode buf := by
  have hle := buf.le_transferLen
  rw [rxdescSize] at hle
  exact ⟨Nat.zero_add _, by change 0 < buf.transferLen; omega, fun _ => rfl⟩

theorem RecvBuf.read_first (buf : RecvBuf) :
    buf.read 0 rxdescSize = .ok (buf.slice 0 rxdescSize) := by
  have hmemory := buf.memory_length
  rw [maxRecvbufSz] at hmemory
  exact read_ok (by rw [rxdescSize]; omega)

/-- What is handed on is carried by the transfer. -/
theorem RecvBuf.carries_of_ok {frames : List RecvFrame}
    (h : buf.recvbuf2recvframe mode mpMode alloc copy = .ok frames) :
    buf.Carries mpMode 0 frames := by
  rw [recvbuf2recvframe, buf.read_first] at h
  obtain ⟨more, rfl, hcarries⟩ := (buf.stands mode _).carries h
  exact hcarries

/-- Where a descriptor can always be read the loop stays inside the memory. -/
theorem RecvBuf.ok_of_roomy (hroomy : buf.Roomy mode) (mpMode : Bool) (alloc copy : Nat → Bool) :
    ∃ frames, buf.recvbuf2recvframe mode mpMode alloc copy = .ok frames := by
  rw [recvbuf2recvframe, buf.read_first]
  exact (buf.stands mode _).loop_ok hroomy

/-- **What is handed on is carried by the transfer**, whatever the descriptors say, and the
loop stays inside the memory where a descriptor can always be read. -/
theorem RecvBuf.recvbuf2recvframe_carries (hroomy : buf.Roomy mode) (mpMode : Bool)
    (alloc copy : Nat → Bool) :
    ∃ frames, buf.recvbuf2recvframe mode mpMode alloc copy = .ok frames ∧
      buf.Carries mpMode 0 frames := by
  obtain ⟨frames, hframes⟩ := ok_of_roomy hroomy mpMode alloc copy
  exact ⟨frames, hframes, carries_of_ok hframes⟩

end

/-- A full buffer, with a packet that leaves four bytes of it. -/
def fullBuf : RecvBuf where
  memory := [0xe4, 0x3b, 0, 0, 0, 0, 0, 0, 0, 0, 1, 0] ++ List.replicate 15348 0
  transferLen := maxRecvbufSz
  memory_length := by rw [List.length_append, List.length_replicate]; exact Nat.le_refl _
  le_transferLen := by decide
  transferLen_le := Nat.le_refl _

theorem recvbuf2recvframe_carries_full : ∃ frames,
    fullBuf.recvbuf2recvframe .dma false (fun _ => true) (fun _ => true) = .ok frames ∧
      fullBuf.Carries false 0 frames :=
  RecvBuf.recvbuf2recvframe_carries (.inl rfl) false _ _

/-- The descriptor of the packet. -/
def fullPrxstat : List UInt8 := [0xe4, 0x3b, 0, 0, 0, 0, 0, 0, 0, 0, 1, 0] ++ List.replicate 12 0

/-- With the rounding to four bytes a descriptor is read behind the buffer. -/
theorem recvbuf2recvframe_outside :
    fullBuf.recvbuf2recvframe .usb false (fun _ => true) (fun _ => true) =
      .error .undefinedBehaviour := by
  have hroom : fullBuf.memory.length = 15360 := by
    rw [fullBuf, List.length_append, List.length_replicate]
    rfl
  have hdesc : fullBuf.slice 0 rxdescSize = fullPrxstat := by
    rw [RecvBuf.slice, List.drop_zero, fullBuf, rxdescSize, fullPrxstat,
      List.take_append, List.take_replicate]
    rfl
  have hcnt : pktCntOf fullPrxstat = 1 := by decide +kernel
  have hattrib : queryRxDescStatus fullPrxstat = ⟨false, false, .normalRx, 15332, 0, 0⟩ := by
    decide +kernel
  have hoffset : RxPktAttrib.pktOffset ⟨false, false, .normalRx, 15332, 0, 0⟩ = 15356 := rfl
  have hadvance : RxAggMode.usb.advance 15356 = 15356 := by decide +kernel
  have htransfer : fullBuf.transferLen = 15360 := rfl
  rw [RecvBuf.recvbuf2recvframe, RecvBuf.read_ok (by rw [hroom, rxdescSize]; omega), hdesc]
  simp only [hcnt, htransfer]
  rw [Receiving.loop, if_neg (by decide)]
  simp only
  rw [RecvBuf.read_ok (by rw [hroom, rxdescSize]; omega), hdesc]
  simp only [hattrib, hoffset, hadvance]
  rw [if_neg (by decide), if_neg (by omega), if_neg (by decide),
    RecvBuf.read_ok (by rw [hroom, rxdescSize]; omega)]
  simp only
  rw [if_neg (by omega), if_neg (by decide +kernel), Receiving.loop, if_neg (by decide)]
  simp only
  rw [RecvBuf.read, hroom, if_neg (by rw [rxdescSize]; omega)]

/-! ### Aggregates -/

/-- A packet of an aggregate. -/
structure AggPacket (mode : RxAggMode) where
  prxstat : List UInt8
  drvinfo : List UInt8
  shift : List UInt8
  payload : List UInt8
  padding : List UInt8
  pktRptType : RptType
  prxstat_length : prxstat.length = rxdescSize
  payload_ne_nil : payload ≠ []
  attrib : queryRxDescStatus prxstat =
    ⟨false, false, pktRptType, payload.length, drvinfo.length, shift.length⟩
  padding_length : rxdescSize + drvinfo.length + shift.length + payload.length + padding.length =
    mode.advance (rxdescSize + drvinfo.length + shift.length + payload.length)

namespace AggPacket
variable {mode : RxAggMode}

/-- The packet without its padding. -/
def body (p : AggPacket mode) : List UInt8 := p.prxstat ++ (p.drvinfo ++ (p.shift ++ p.payload))

/-- The packet in the aggregate. -/
def wire (p : AggPacket mode) : List UInt8 := p.body ++ p.padding

def frame (p : AggPacket mode) : RecvFrame := ⟨p.pktRptType, p.payload⟩

theorem length_body (p : AggPacket mode) :
    p.body.length = rxdescSize + p.drvinfo.length + p.shift.length + p.payload.length := by
  simp only [body, List.length_append, p.prxstat_length]
  omega

theorem length_wire (p : AggPacket mode) : p.wire.length = mode.advance p.body.length := by
  rw [wire, List.length_append, p.length_body, p.padding_length]

theorem pktOffset_eq (p : AggPacket mode) :
    (queryRxDescStatus p.prxstat).pktOffset = p.body.length := by
  rw [p.attrib, p.length_body, RxPktAttrib.pktOffset]

/-- No packet is empty. -/
theorem length_le_flatMap (ps : List (AggPacket mode)) :
    ps.length ≤ (ps.flatMap wire).length := by
  induction ps with
  | nil => exact Nat.zero_le _
  | cons p ps ih =>
    have hbody := p.length_body
    have hwire : p.wire.length = p.body.length + p.padding.length := List.length_append
    rw [rxdescSize] at hbody
    rw [List.length_cons, List.flatMap_cons, List.length_append]
    omega

end AggPacket

section
variable {mode : RxAggMode} {mpMode : Bool} {buf : RecvBuf}

/-- The turn for a packet of an aggregate. -/
theorem Receiving.loop_packet {p : AggPacket mode} {pos transferLen pktCnt : Nat}
    {frames : List RecvFrame} {rest : List UInt8} (hbytes : buf.memory.drop pos = p.body ++ rest)
    (hle : p.body.length ≤ transferLen) :
    Receiving.loop mode mpMode (fun _ => true) (fun _ => true) buf
        ⟨pos, transferLen, pktCnt, frames⟩ =
      if transferLen ≤ p.wire.length then .ok (frames ++ [p.frame])
      else if (if (pktCnt + (2 ^ 16 - 1)) % 2 ^ 16 = 0 then pktCntOf p.prxstat
        else (pktCnt + (2 ^ 16 - 1)) % 2 ^ 16) = 0 then .ok (frames ++ [p.frame])
      else Receiving.loop mode mpMode (fun _ => true) (fun _ => true) buf
        ⟨pos + p.wire.length, transferLen - p.wire.length,
          if (pktCnt + (2 ^ 16 - 1)) % 2 ^ 16 = 0 then pktCntOf p.prxstat
          else (pktCnt + (2 ^ 16 - 1)) % 2 ^ 16, frames ++ [p.frame]⟩ := by
  have hbody := p.length_body
  have hoffset := p.pktOffset_eq
  have hpayload : p.payload.length ≠ 0 := fun h => p.payload_ne_nil (List.length_eq_zero_iff.mp h)
  have hinside : pos + p.body.length ≤ buf.memory.length := by
    have hlength := congrArg List.length hbytes
    rw [List.length_drop, List.length_append] at hlength
    omega
  have hdesc : buf.read pos rxdescSize = .ok p.prxstat := by
    rw [RecvBuf.read_ok (by omega), RecvBuf.slice, hbytes, AggPacket.body, ← p.prxstat_length,
      List.append_assoc, List.take_left]
  have hdata : buf.read (pos + p.shift.length + p.drvinfo.length + rxdescSize) p.payload.length =
      .ok p.payload := by
    have hbehind : buf.memory.drop (pos + p.shift.length + p.drvinfo.length + rxdescSize) =
        p.payload ++ rest := by
      have hwhere : pos + p.shift.length + p.drvinfo.length + rxdescSize =
          pos + (p.prxstat ++ (p.drvinfo ++ p.shift)).length := by
        simp only [List.length_append, p.prxstat_length]
        omega
      have hsplit : p.body ++ rest =
          (p.prxstat ++ (p.drvinfo ++ p.shift)) ++ (p.payload ++ rest) := by
        simp only [AggPacket.body, List.append_assoc]
      rw [hwhere, ← List.drop_drop, hbytes, hsplit, List.drop_left]
    rw [RecvBuf.read_ok (by omega), RecvBuf.slice, hbehind, List.take_left]
  rw [Receiving.loop]
  simp only [hdesc]
  rw [if_neg (by decide), if_neg (by rw [p.attrib]; simp), if_neg (by
    rw [hoffset, p.attrib]; exact not_or.mpr ⟨hpayload, not_lt.mpr hle⟩), if_neg (by decide)]
  have hadvance : mode.advance (RxPktAttrib.pktOffset ⟨false, false, p.pktRptType,
      p.payload.length, p.drvinfo.length, p.shift.length⟩) = p.wire.length := by
    rw [← p.attrib, hoffset, p.length_wire]
  simp only [p.attrib, hdata, hadvance, AggPacket.frame]

/-- The turns for an aggregate, whose last packet need not be padded. -/
theorem Receiving.loop_aggregate {ps : List (AggPacket mode)} {last : AggPacket mode}
    {pos transferLen pktCnt : Nat} {frames : List RecvFrame} {rest : List UInt8}
    (hbytes : buf.memory.drop pos = ps.flatMap AggPacket.wire ++ (last.body ++ rest))
    (hle : (ps.flatMap AggPacket.wire).length + last.body.length ≤ transferLen)
    (hend : transferLen ≤ (ps.flatMap AggPacket.wire).length + last.wire.length)
    (hcnt : pktCnt = 0 ∨ ps.length < pktCnt) (hsixteen : pktCnt < 2 ^ 16)
    (hmany : ps.length < 2 ^ 16) :
    Receiving.loop mode mpMode (fun _ => true) (fun _ => true) buf
        ⟨pos, transferLen, pktCnt, frames⟩ =
      .ok (frames ++ (ps ++ [last]).map AggPacket.frame) := by
  induction ps generalizing pos transferLen pktCnt frames with
  | nil =>
    rw [List.flatMap_nil, List.nil_append] at hbytes
    rw [List.flatMap_nil, List.length_nil, Nat.zero_add] at hle hend
    rw [loop_packet hbytes hle, if_pos hend]
    rfl
  | cons p ps ih =>
    have hbody : p.wire = p.body ++ p.padding := rfl
    have hwire := congrArg List.length hbody
    have hlast := last.length_body
    rw [List.length_append] at hwire
    rw [List.flatMap_cons, List.length_append] at hle hend
    rw [List.length_cons] at hcnt hmany
    rw [List.flatMap_cons, List.append_assoc] at hbytes
    have hnext : buf.memory.drop (pos + p.wire.length) =
        ps.flatMap AggPacket.wire ++ (last.body ++ rest) := by
      rw [← List.drop_drop, hbytes, List.drop_left]
    have hfirst : buf.memory.drop pos =
        p.body ++ (p.padding ++ (ps.flatMap AggPacket.wire ++ (last.body ++ rest))) := by
      rw [hbytes, hbody, List.append_assoc]
    -- a count of zero wraps around
    have hleft : ps.length < (pktCnt + (2 ^ 16 - 1)) % 2 ^ 16 := by omega
    have hnot : ¬ (pktCnt + (2 ^ 16 - 1)) % 2 ^ 16 = 0 := by omega
    rw [rxdescSize] at hlast
    rw [loop_packet hfirst (by omega), if_neg (by omega), if_neg hnot, if_neg hnot,
      ih hnext (by omega) (by omega) (.inr hleft) (Nat.mod_lt _ (by decide)) (by omega),
      List.cons_append, List.map_cons, List.append_assoc]
    rfl

/-- **An aggregate comes apart into its packets**, in order, whatever stands behind it in the
buffer: the first descriptor says how many they are, or nothing. -/
theorem RecvBuf.recvbuf2recvframe_aggregate {first : AggPacket mode}
    {ps : List (AggPacket mode)} {last : AggPacket mode} {rest : List UInt8}
    (hfirst : (ps ++ [last]).head? = some first)
    (hbytes : buf.memory = ps.flatMap AggPacket.wire ++ (last.body ++ rest))
    (hle : (ps.flatMap AggPacket.wire).length + last.body.length ≤ buf.transferLen)
    (hend : buf.transferLen ≤ (ps.flatMap AggPacket.wire).length + last.wire.length)
    (hcnt : pktCntOf first.prxstat = 0 ∨ ps.length < pktCntOf first.prxstat) (mpMode : Bool) :
    buf.recvbuf2recvframe mode mpMode (fun _ => true) (fun _ => true) =
      .ok ((ps ++ [last]).map AggPacket.frame) := by
  have hsize := AggPacket.length_le_flatMap ps
  have htransfer := buf.transferLen_le
  have hmemory := buf.memory_length
  rw [maxRecvbufSz] at htransfer hmemory
  obtain ⟨more, hmore⟩ : ∃ more, buf.memory = first.prxstat ++ more := by
    cases ps with
    | nil =>
      cases hfirst
      exact ⟨_, by rw [hbytes, List.flatMap_nil, List.nil_append, AggPacket.body, List.append_assoc]⟩
    | cons p ps =>
      cases hfirst
      exact ⟨_, by rw [hbytes, List.flatMap_cons, AggPacket.wire, AggPacket.body, List.append_assoc,
        List.append_assoc, List.append_assoc]⟩
  have hdesc : buf.read 0 rxdescSize = .ok first.prxstat := by
    rw [RecvBuf.read_ok (by rw [rxdescSize]; omega), RecvBuf.slice, List.drop_zero, hmore,
      ← first.prxstat_length, List.take_left]
  have hcount : pktCntOf first.prxstat < 2 ^ 16 :=
    (Nat.mod_lt _ (by decide : 0 < 256)).trans (by decide)
  rw [recvbuf2recvframe, hdesc]
  exact Receiving.loop_aggregate hbytes hle hend hcnt hcount (by omega)

end

/-- A beacon, with information of the physical layer in front. -/
def aggFirst : AggPacket .usb where
  prxstat := [5, 0, 1, 0, 0, 0, 0, 0, 0, 0, 2, 0] ++ List.replicate 12 0
  drvinfo := List.replicate 8 0
  shift := []
  payload := [0x80, 0x00, 0x00, 0x00, 0x07]
  padding := List.replicate 3 0
  pktRptType := .normalRx
  prxstat_length := rfl
  payload_ne_nil := by decide
  attrib := by decide +kernel
  padding_length := rfl

/-- A report. -/
def aggLast : AggPacket .usb where
  prxstat := [2, 0, 0, 0, 0, 0, 0, 0, 0, 0, 0, 0, 0, 0x80, 0, 0] ++ List.replicate 8 0
  drvinfo := []
  shift := []
  payload := [0x01, 0x02]
  padding := [0, 0]
  pktRptType := .txReport2
  prxstat_length := rfl
  payload_ne_nil := by decide
  attrib := by decide +kernel
  padding_length := rfl

/-- The buffer with both. -/
def aggBuf : RecvBuf where
  memory := List.flatMap AggPacket.wire [aggFirst] ++ (aggLast.body ++ List.replicate 15360 0)
  transferLen := 66
  memory_length := by
    rw [List.length_append, List.length_append, List.length_replicate, maxRecvbufSz]
    omega
  le_transferLen := by decide
  transferLen_le := by decide

theorem recvbuf2recvframe_aggregate_two :
    aggBuf.recvbuf2recvframe .usb false (fun _ => true) (fun _ => true) =
      .ok [⟨.normalRx, [0x80, 0x00, 0x00, 0x00, 0x07]⟩, ⟨.txReport2, [0x01, 0x02]⟩] := by
  have hcnt : List.length [aggFirst] < pktCntOf aggFirst.prxstat := by decide +kernel
  have hfirst : ([aggFirst] ++ [aggLast]).head? = some aggFirst := rfl
  have hbytes : aggBuf.memory = List.flatMap AggPacket.wire [aggFirst] ++
    (aggLast.body ++ List.replicate 15360 0) := rfl
  have hle : (List.flatMap AggPacket.wire [aggFirst]).length + aggLast.body.length ≤
    aggBuf.transferLen := by decide
  have hend : aggBuf.transferLen ≤
    (List.flatMap AggPacket.wire [aggFirst]).length + aggLast.wire.length := by decide
  exact RecvBuf.recvbuf2recvframe_aggregate hfirst hbytes hle hend (.inr hcnt) false

end SnapDesk
